import Mathlib.Data.List.Nodup
import XpBuilder.Library.Runs

/-! Requests that are answered in any order. They are numbered as they are issued, each is answered
at most once, and the history keeps apart what has arrived since the latest was issued. -/

namespace XpBuilder.Requests
variable {Q R : Type}

inductive Event (Q R : Type) where
  | issue (q : Q)
  | arrive (n : Nat) (r : R)

structure History (Q R : Type) where
  requests : List Q
  earlier : List (Nat × R)
  since : List (Nat × R)

namespace History

def empty : History Q R := ⟨[], [], []⟩

def arrived (h : History Q R) : List (Nat × R) := h.earlier ++ h.since

/-- The request is issued and not answered. -/
def Pending (h : History Q R) (n : Nat) : Prop := n < h.requests.length ∧ n ∉ h.arrived.map Prod.fst

instance (h : History Q R) (n : Nat) : Decidable (h.Pending n) := inferInstanceAs (Decidable (_ ∧ _))

def step (h : History Q R) : Event Q R → History Q R
  | .issue q => ⟨h.requests ++ [q], h.arrived, []⟩
  | .arrive n r => if h.Pending n then { h with since := h.since ++ [(n, r)] } else h

/-- An answer to the latest request. -/
def Latest (h : History Q R) (a : Nat × R) : Prop := a ∈ h.arrived ∧ a.1 + 1 = h.requests.length

structure Sound (h : History Q R) : Prop where
  once : (h.arrived.map Prod.fst).Nodup
  issued : ∀ a ∈ h.arrived, a.1 < h.requests.length
  before : ∀ a ∈ h.earlier, a.1 + 1 < h.requests.length

theorem sound_empty : Sound (empty : History Q R) :=
  ⟨List.nodup_nil, List.forall_mem_nil _, List.forall_mem_nil _⟩

theorem step_pending {h : History Q R} {n : Nat} (pending : h.Pending n) (r : R) :
    h.step (.arrive n r) = { h with since := h.since ++ [(n, r)] } := if_pos pending

theorem step_not_pending {h : History Q R} {n : Nat} (answered : ¬h.Pending n) (r : R) : h.step (.arrive n r) = h :=
  if_neg answered

theorem Sound.step {h : History Q R} (sound : h.Sound) (e : Event Q R) : (h.step e).Sound := by
  cases e with
  | issue q =>
    have all : (h.step (.issue q)).arrived = h.arrived := List.append_nil _
    have longer : (h.step (.issue q)).requests.length = h.requests.length + 1 := List.length_append
    refine ⟨all.symm ▸ sound.once, fun a mem => ?_, fun a mem => ?_⟩
    · rw [all] at mem
      have bound := sound.issued a mem
      omega
    · have bound := sound.issued a mem
      omega
  | arrive n r =>
    by_cases pending : h.Pending n
    · rw [step_pending pending]
      have all : ({ h with since := h.since ++ [(n, r)] } : History Q R).arrived = h.arrived ++ [(n, r)] :=
        (List.append_assoc ..).symm
      refine ⟨?_, ?_, sound.before⟩
      · rw [all, List.map_append, List.nodup_append_comm]
        exact List.nodup_cons.mpr ⟨pending.2, sound.once⟩
      · rw [all, List.forall_mem_append, List.forall_mem_singleton]
        exact ⟨sound.issued, pending.1⟩
    · rw [step_not_pending pending]
      exact sound

theorem Sound.latest_since {h : History Q R} (sound : h.Sound) {a : Nat × R} (latest : h.Latest a) : a ∈ h.since := by
  refine (List.mem_append.mp latest.1).resolve_left (fun old => ?_)
  have bound := sound.before a old
  have number := latest.2
  omega

/-- Where all earlier requests were answered before the latest only its answer can come. -/
theorem Sound.eq_latest {h : History Q R} (sound : h.Sound)
    (older : ∀ n, n + 1 < h.requests.length → n ∈ h.earlier.map Prod.fst) {own a : Nat × R} (latest : h.Latest own)
    (mem : a ∈ h.since) : a = own := by
  have there : a ∈ h.arrived := List.mem_append_right _ mem
  have number : a.1 + 1 = h.requests.length := by
    have bound := sound.issued a there
    by_contra other
    have once := sound.once
    rw [arrived, List.map_append] at once
    exact (List.nodup_append.mp once).2.2 _ (older a.1 (by omega)) _ (List.mem_map_of_mem mem) rfl
  apply List.inj_on_of_nodup_map sound.once there latest.1
  have same := latest.2
  omega

end History
end XpBuilder.Requests
