import Mathlib.Data.List.Infix

/-! Changes that some states allow and that can be taken back. A series of them is applied one
after another. To settle a series is to try for each whether the state allows it, and where it
does not, whether it could be taken back from there. -/

namespace XpBuilder

structure Edit (σ : Type) where
  apply : σ → Option σ
  undo : σ → Option σ
  undo_apply : ∀ {s s'}, apply s = some s' → undo s' = some s

namespace Edit
variable {σ : Type}

def applyAll (series : List (Edit σ)) (s : σ) : Option σ := series.foldlM (fun s e => e.apply s) s

def settle (e : Edit σ) (s : σ) : Option σ :=
  match e.apply s with
  | some s' => some s'
  | none => (e.undo s).map (fun _ => s)

def settleAll (series : List (Edit σ)) (s : σ) : Option σ := series.foldlM (fun s e => e.settle s) s

/-- To settle the edit leaves the state as it is. -/
def Settled (s : σ) (e : Edit σ) : Prop := (e.apply s = none ∧ (e.undo s).isSome) ∨ e.apply s = some s

/-- What the first edit needs to be taken back the second leaves there. -/
def Spares (f e : Edit σ) : Prop := ∀ s s', f.apply s = some s' → (e.undo s).isSome → (e.undo s').isSome

variable {e : Edit σ} {series : List (Edit σ)} {s s' : σ}

theorem applyAll_cons : applyAll (e :: series) s = (e.apply s).bind (applyAll series) := rfl

theorem settleAll_cons : settleAll (e :: series) s = (e.settle s).bind (settleAll series) := rfl

theorem settleAll_singleton : settleAll [e] s = e.settle s := by
  rw [settleAll_cons]
  cases e.settle s <;> rfl

theorem settle_eq_self_iff : e.settle s = some s ↔ e.Settled s := by
  unfold settle Settled
  cases went : e.apply s with
  | none => cases back : e.undo s <;> simp
  | some next => simp

/-- A series changes nothing on the way where every edit of it is settled. -/
theorem settleAll_still_iff :
    (∀ done, done <+: series → settleAll done s = some s) ↔ ∀ e ∈ series, e.Settled s := by
  constructor
  · intro still
    induction series with
    | nil => exact fun _ none => nomatch none
    | cons e rest ih =>
      have first : e.settle s = some s := by
        have one := still [e] (List.prefix_append [e] rest)
        rwa [settleAll_singleton] at one
      rw [List.forall_mem_cons]
      refine ⟨settle_eq_self_iff.mp first, ih (fun done front => ?_)⟩
      have longer := still (e :: done) (List.cons_prefix_cons.mpr ⟨rfl, front⟩)
      rwa [settleAll_cons, first] at longer
  · intro settled done front
    induction done generalizing series with
    | nil => rfl
    | cons e done ih =>
      obtain ⟨rest, rfl⟩ := front
      rw [List.cons_append, List.forall_mem_cons] at settled
      rw [settleAll_cons, settle_eq_self_iff.mpr settled.1]
      exact ih settled.2 (List.prefix_append done rest)

theorem undo_of_spared (spared : ∀ f ∈ series, f.Spares e) (went : applyAll series s = some s')
    (back : (e.undo s).isSome) : (e.undo s').isSome := by
  induction series generalizing s with
  | nil =>
    have same : s = s' := Option.some.inj went
    rwa [← same]
  | cons f rest ih =>
    rw [applyAll_cons, Option.bind_eq_some_iff] at went
    obtain ⟨next, first, later⟩ := went
    rw [List.forall_mem_cons] at spared
    exact ih spared.2 later (spared.1 _ _ first back)

/-- In a series that spares what it has done every edit can be taken back at the end. -/
theorem undo_of_applyAll (spared : series.Pairwise (fun e f => f.Spares e)) (went : applyAll series s = some s') :
    ∀ e ∈ series, (e.undo s').isSome := by
  induction series generalizing s with
  | nil => exact fun _ none => nomatch none
  | cons e rest ih =>
    rw [applyAll_cons, Option.bind_eq_some_iff] at went
    obtain ⟨next, first, later⟩ := went
    rw [List.pairwise_cons] at spared
    have back : (e.undo next).isSome := by rw [e.undo_apply first, Option.isSome_some]
    rw [List.forall_mem_cons]
    exact ⟨undo_of_spared spared.1 later back, ih spared.2 later⟩

theorem settled_iff_of_undo (back : (e.undo s).isSome) : e.Settled s ↔ e.apply s = none ∨ e.apply s = some s :=
  or_congr (and_iff_left back) Iff.rfl

end Edit
end XpBuilder
