import Mathlib.Data.List.Infix
import Mathlib.Data.List.Nodup
import Mathlib.Data.List.Perm.Subperm
import Mathlib.Logic.Function.Basic
import Mathlib.Tactic.SplitIfs
import XpBuilder.Library.Runs

/-! A shared value that operations first read and later overwrite with what they made of it. An
operation that was written in between is lost; what is left in the end are the operations of one
chain, each of which read what its predecessor wrote. -/

namespace XpBuilder.LostUpdates

inductive Event (ι : Type) where
  | read (i : ι)
  | write (i : ι)
  deriving DecidableEq, Repr

/-- The value, the operations in the order in which they were written, and what each of the others has read, with the
operations that were written then. -/
structure Shared (ι β : Type) where
  value : β
  written : List ι
  held : ι → Option (β × List ι)

variable {ι β : Type} [DecidableEq ι]

namespace Shared

def start (b : β) : Shared ι β := ⟨b, [], fun _ => none⟩

/-- An operation reads once and is written once. -/
def step (f : ι → β → β) (s : Shared ι β) : Event ι → Shared ι β
  | .read i =>
    if i ∈ s.written ∨ (s.held i).isSome then s
    else { s with held := Function.update s.held i (some (s.value, s.written)) }
  | .write i =>
    match s.held i with
    | none => s
    | some (b, _) => ⟨f i b, s.written ++ [i], Function.update s.held i none⟩

/-- Nothing is written between the read of an operation and its write. -/
def Undisturbed (s : Shared ι β) : Event ι → Prop
  | .read _ => True
  | .write i => ∀ b written, s.held i = some (b, written) → written = s.written

end Shared

/-! ## The chain -/

/-- The operations of the chain that the last write ends. -/
abbrev Chain (ι : Type) := Shared ι (List ι)

namespace Chain
open Shared

def step : Chain ι → Event ι → Chain ι := Shared.step (fun i l => l ++ [i])

/-- The chain is part of what was written, and whoever holds what is last still holds the chain. -/
structure Sound (s : Chain ι) : Prop where
  distinct : s.written.Nodup
  part : s.value.Sublist s.written
  heldPart : ∀ i l written, s.held i = some (l, written) → l.Sublist written ∧ written <+: s.written
  current : ∀ i l written, s.held i = some (l, written) → written = s.written → l = s.value
  open_ : ∀ i, (s.held i).isSome → i ∉ s.written

omit [DecidableEq ι] in
theorem sound_start : Sound (start [] : Chain ι) where
  distinct := List.nodup_nil
  part := .slnil
  heldPart _ _ _ held := nomatch held
  current _ _ _ held := nomatch held
  open_ _ held := nomatch held

theorem step_write_held {s : Chain ι} {i : ι} {l written : List ι} (held : s.held i = some (l, written)) :
    step s (.write i) = ⟨l ++ [i], s.written ++ [i], Function.update s.held i none⟩ := by
  unfold step Shared.step
  dsimp only
  rw [held]

theorem step_write_none {s : Chain ι} {i : ι} (none : s.held i = none) : step s (.write i) = s := by
  unfold step Shared.step
  dsimp only
  rw [none]

theorem Sound.step {s : Chain ι} (sound : Sound s) (e : Event ι) : Sound (step s e) := by
  cases e with
  | read i =>
    unfold Chain.step Shared.step
    dsimp only
    split_ifs with known
    · exact sound
    · rw [not_or] at known
      have heldOf : ∀ j l written, Function.update s.held i (some (s.value, s.written)) j = some (l, written) →
          l = s.value ∧ written = s.written ∨ s.held j = some (l, written) := by
        intro j l written held
        by_cases same : j = i
        · subst same
          rw [Function.update_self] at held
          obtain ⟨rfl, rfl⟩ := Prod.mk.inj (Option.some.inj held)
          exact .inl ⟨rfl, rfl⟩
        · rw [Function.update_of_ne same] at held
          exact .inr held
      refine ⟨sound.distinct, sound.part, fun j l written held => ?_, fun j l written held last => ?_, fun j held => ?_⟩
      · rcases heldOf j l written held with ⟨rfl, rfl⟩ | before
        · exact ⟨sound.part, List.prefix_rfl⟩
        · exact sound.heldPart j l written before
      · rcases heldOf j l written held with ⟨rfl, -⟩ | before
        · rfl
        · exact sound.current j l written before last
      · by_cases same : j = i
        · subst same
          exact known.1
        · dsimp only at held
          rw [Function.update_of_ne same] at held
          exact sound.open_ j held
  | write i =>
    cases held : s.held i with
    | none =>
      rw [step_write_none held]
      exact sound
    | some x =>
      obtain ⟨l, written⟩ := x
      obtain ⟨part, before⟩ := sound.heldPart i l written held
      have new : i ∉ s.written := sound.open_ i (by rw [held]; rfl)
      rw [step_write_held held]
      have heldOf : ∀ j x, Function.update s.held i none j = some x → j ≠ i ∧ s.held j = some x := by
        intro j x held'
        by_cases same : j = i
        · subst same
          rw [Function.update_self] at held'
          cases held'
        · rw [Function.update_of_ne same] at held'
          exact ⟨same, held'⟩
      refine ⟨?_, ?_, fun j l' written' held' => ?_, fun j l' written' held' last => ?_, fun j held' => ?_⟩
      · exact List.nodup_append.mpr ⟨sound.distinct, List.nodup_singleton i, fun a mem b last => by
          rw [List.mem_singleton.mp last]
          exact fun same => new (same ▸ mem)⟩
      · exact (part.trans before.sublist).append (List.Sublist.refl [i])
      · obtain ⟨-, there⟩ := heldOf j _ held'
        obtain ⟨part', before'⟩ := sound.heldPart j l' written' there
        exact ⟨part', before'.trans (List.prefix_append _ _)⟩
      · obtain ⟨-, there⟩ := heldOf j _ held'
        -- nobody holds the write that was just made
        have short := (sound.heldPart j l' written' there).2.length_le
        have long := congrArg List.length last
        simp at long
        omega
      · obtain ⟨x, there⟩ := Option.isSome_iff_exists.mp held'
        obtain ⟨ne, there'⟩ := heldOf j x there
        have open_ := sound.open_ j (by rw [there']; rfl)
        simp [open_, ne]

/-- A write keeps all that was written in the chain exactly where all of it was there and nothing came between. -/
theorem step_completed_iff {s : Chain ι} (sound : Sound s) (e : Event ι) :
    (step s e).value = (step s e).written ↔ s.value = s.written ∧ s.Undisturbed e := by
  cases e with
  | read i =>
    have same : (step s (.read i)).value = s.value ∧ (step s (.read i)).written = s.written := by
      unfold step Shared.step
      dsimp only
      split_ifs <;> exact ⟨rfl, rfl⟩
    rw [same.1, same.2]
    exact ⟨fun complete => ⟨complete, trivial⟩, And.left⟩
  | write i =>
    cases held : s.held i with
    | none =>
      rw [step_write_none held]
      refine ⟨fun complete => ⟨complete, fun b written there => ?_⟩, And.left⟩
      rw [held] at there
      cases there
    | some x =>
      obtain ⟨l, written⟩ := x
      obtain ⟨part, before⟩ := sound.heldPart i l written held
      rw [step_write_held held]
      dsimp only
      rw [List.append_cancel_right_eq]
      constructor
      · rintro rfl
        have whole : written = s.written := before.eq_of_length_le part.length_le
        refine ⟨(sound.current i _ written held whole).symm, fun b written' there => ?_⟩
        rw [held] at there
        obtain ⟨-, rfl⟩ := Prod.mk.inj (Option.some.inj there)
        exact whole
      · rintro ⟨complete, undisturbed⟩
        have whole := undisturbed l written held
        rw [sound.current i l written held whole, complete]

theorem completed_iff {s : Chain ι} (sound : Sound s) (run : List (Event ι)) :
    (Runs.after step s run).value = (Runs.after step s run).written ↔
      s.value = s.written ∧ Runs.Each step Shared.Undisturbed s run := by
  induction run generalizing s with
  | nil => exact (and_iff_left trivial).symm
  | cons e rest ih => rw [Runs.after_cons, ih (sound.step e), step_completed_iff sound e, and_assoc, Runs.Each]

theorem sound_after {s : Chain ι} (sound : Sound s) (run : List (Event ι)) : Sound (Runs.after step s run) := by
  induction run generalizing s with
  | nil => exact sound
  | cons e rest ih => exact ih (sound.step e)

theorem step_last {s : Chain ι} (last : s.value.getLast? = s.written.getLast?) (e : Event ι) :
    (step s e).value.getLast? = (step s e).written.getLast? := by
  cases e with
  | read i =>
    unfold step Shared.step
    dsimp only
    split_ifs <;> exact last
  | write i =>
    cases held : s.held i with
    | none => rwa [step_write_none held]
    | some x => rw [step_write_held held, List.getLast?_concat, List.getLast?_concat]

/-- The chain ends with what was written last. -/
theorem last_after (run : List (Event ι)) :
    (Runs.after step (start []) run).value.getLast? = (Runs.after step (start []) run).written.getLast? := by
  have general : ∀ s : Chain ι, s.value.getLast? = s.written.getLast? →
      (Runs.after step s run).value.getLast? = (Runs.after step s run).written.getLast? := by
    induction run with
    | nil => exact fun _ last => last
    | cons e rest ih => exact fun s last => ih _ (step_last last e)
  exact general _ rfl

/-- All that was written is in the chain exactly where no operation was written between the read and the write of
another. -/
theorem kept_iff (run : List (Event ι)) :
    (∀ i ∈ (Runs.after step (start []) run).written, i ∈ (Runs.after step (start []) run).value) ↔
      Runs.Each step Shared.Undisturbed (start [] : Chain ι) run := by
  have sound := sound_after sound_start run
  have complete := completed_iff sound_start run
  rw [and_iff_right (show (start [] : Chain ι).value = (start [] : Chain ι).written from rfl)] at complete
  rw [← complete]
  constructor
  · intro kept
    exact sound.part.eq_of_length_le (List.Nodup.subperm sound.distinct kept).length_le
  · intro same i mem
    rwa [same]

end Chain
end XpBuilder.LostUpdates
