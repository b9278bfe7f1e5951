import Mathlib.Data.List.Infix

/-! Replacing every stretch from one mark to the next other mark behind it, `a[^b]*b`, from the left
and without overlaps. -/

namespace XpBuilder.Brackets
variable {α : Type} [DecidableEq α]

/-- The number is that of the elements still to be left out. -/
def cutFrom (a b : α) (fill : List α) : Nat → List α → List α
  | _, [] => []
  | skip + 1, _ :: cs => cutFrom a b fill skip cs
  | 0, c :: cs =>
    if c = a ∧ b ∈ cs then fill ++ cutFrom a b fill ((cs.takeWhile (· ≠ b)).length + 1) cs
    else c :: cutFrom a b fill 0 cs

def cut (a b : α) (fill text : List α) : List α := cutFrom a b fill 0 text

variable {a b : α} {fill : List α}

theorem cutFrom_length (part rest : List α) : cutFrom a b fill part.length (part ++ rest) = cut a b fill rest := by
  induction part with
  | nil => rfl
  | cons c part ih => exact ih

theorem cut_span {part : List α} (inner : b ∉ part) (rest : List α) :
    cut a b fill (a :: (part ++ b :: rest)) = fill ++ cut a b fill rest := by
  have present : b ∈ part ++ b :: rest := List.mem_append_right part List.mem_cons_self
  have stretch : (part ++ b :: rest).takeWhile (· ≠ b) = part := by
    rw [List.takeWhile_append_of_pos]
    · simp
    · intro c mem
      simpa using fun same : c = b => inner (same ▸ mem)
  have whole : part ++ b :: rest = (part ++ [b]) ++ rest := by simp
  rw [cut, cutFrom, if_pos ⟨rfl, present⟩, stretch]
  congr 1
  rw [whole, ← cutFrom_length (part ++ [b]) rest, List.length_append, List.length_singleton]

theorem cut_cons {c : α} {rest : List α} (other : ¬(c = a ∧ b ∈ rest)) : cut a b fill (c :: rest) =
    c :: cut a b fill rest := by
  rw [cut, cutFrom, if_neg other]
  rfl

/-- A text is taken apart as the replacement does it. -/
theorem cut_induction {motive : List α → Prop} (nil : motive [])
    (span : ∀ part rest, b ∉ part → motive rest → motive (a :: (part ++ b :: rest)))
    (cons : ∀ c rest, ¬(c = a ∧ b ∈ rest) → motive rest → motive (c :: rest)) (text : List α) : motive text := by
  induction h : text.length using Nat.strong_induction_on generalizing text with
  | _ n ih =>
    cases text with
    | nil => exact nil
    | cons c rest =>
      by_cases here : c = a ∧ b ∈ rest
      · obtain ⟨rfl, present⟩ := here
        obtain ⟨part, behind, rfl, inner⟩ := List.eq_append_cons_of_mem present
        refine span part behind inner (ih behind.length ?_ behind rfl)
        rw [← h, List.length_cons, List.length_append, List.length_cons]
        omega
      · refine cons c rest here (ih rest.length ?_ rest rfl)
        rw [← h, List.length_cons]
        omega

theorem mem_of_mem_cut {c : α} {text : List α} (mem : c ∈ cut a b fill text) : c ∈ text ∨ c ∈ fill := by
  induction text using cut_induction (a := a) (b := b) with
  | nil => cases mem
  | span part rest inner ih =>
    rw [cut_span inner, List.mem_append] at mem
    rcases mem with mem | mem
    · exact .inr mem
    · exact (ih mem).imp_left (fun there => List.mem_cons_of_mem a (List.mem_append_right part (List.mem_cons_of_mem b there)))
  | cons d rest other ih =>
    rw [cut_cons other, List.mem_cons] at mem
    rcases mem with rfl | mem
    · exact .inl List.mem_cons_self
    · exact (ih mem).imp_left (List.mem_cons_of_mem d)

/-- No mark is left with the other behind it. -/
theorem cut_apart (opens : a ∉ fill) (closes : b ∉ fill) (text : List α) : ¬[a, b].Sublist (cut a b fill text) := by
  induction text using cut_induction (a := a) (b := b) with
  | nil => exact fun inside => by cases inside
  | span part rest inner ih =>
    rw [cut_span inner]
    intro inside
    obtain ⟨l, m, split, first, second⟩ := List.sublist_append_iff.mp inside
    cases l with
    | nil =>
      rw [List.nil_append] at split
      exact ih (split ▸ second)
    | cons x l =>
      obtain rfl := (List.cons.inj split).1
      exact opens (first.subset List.mem_cons_self)
  | cons c rest other ih =>
    rw [cut_cons other, List.cons_sublist_cons']
    rintro (inside | ⟨rfl, inside⟩)
    · exact ih inside
    · rcases mem_of_mem_cut (List.singleton_sublist.mp inside) with mem | mem
      · exact other ⟨rfl, mem⟩
      · exact closes mem

theorem length_cut_le (short : fill.length ≤ 2) (text : List α) : (cut a b fill text).length ≤ text.length := by
  induction text using cut_induction (a := a) (b := b) with
  | nil => exact Nat.le_refl _
  | span part rest inner ih =>
    rw [cut_span inner, List.length_append, List.length_cons, List.length_append, List.length_cons]
    omega
  | cons c rest other ih =>
    rw [cut_cons other, List.length_cons, List.length_cons]
    omega

/-- A text without such a stretch is as it was, and no other. -/
theorem cut_eq_self_iff (short : fill.length < 2) (text : List α) : cut a b fill text = text ↔
    ¬[a, b].Sublist text := by
  induction text using cut_induction (a := a) (b := b) with
  | nil => exact ⟨fun _ inside => (by cases inside), fun _ => rfl⟩
  | span part rest inner ih =>
    constructor
    · intro same
      have lengths := congrArg List.length same
      have bound := length_cut_le (a := a) (b := b) (Nat.le_of_lt short) rest
      rw [cut_span inner, List.length_append, List.length_cons, List.length_append, List.length_cons] at lengths
      omega
    · intro apart
      refine absurd ?_ apart
      exact List.cons_sublist_cons.mpr (List.singleton_sublist.mpr (List.mem_append_right part List.mem_cons_self))
  | cons c rest other ih =>
    rw [cut_cons other, List.cons.injEq, List.cons_sublist_cons', List.singleton_sublist, not_or]
    constructor
    · rintro ⟨-, same⟩
      exact ⟨ih.mp same, fun here => other ⟨here.1.symm, here.2⟩⟩
    · rintro ⟨apart, -⟩
      exact ⟨rfl, ih.mpr apart⟩

end XpBuilder.Brackets
