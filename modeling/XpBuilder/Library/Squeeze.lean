import Mathlib.Data.List.Chain
import XpBuilder.Library.Regexp
import XpBuilder.PythonText

/-! Blanks made one, and then stripped off the ends. -/

namespace XpBuilder.Regexp
open PythonText (stripChars)
variable {p : Char → Bool}

/-- Each character in `p` is a blank, and no two of them are beside each other. -/
structure Spaced (p : Char → Bool) (text : List Char) : Prop where
  blanks : ∀ c ∈ text, p c = true → c = ' '
  apart : text.IsChain (fun c d => ¬(p c = true ∧ p d = true))

theorem Spaced.tail {c : Char} {text : List Char} (spaced : Spaced p (c :: text)) : Spaced p text :=
  ⟨fun d mem => spaced.blanks d (List.mem_cons_of_mem c mem), (List.isChain_cons.mp spaced.apart).2⟩

theorem Spaced.part {text part : List Char} (spaced : Spaced p text) (inside : part <:+: text) : Spaced p part := by
  refine ⟨fun c mem => spaced.blanks c (inside.subset mem), ?_⟩
  obtain ⟨before, behind, rfl⟩ := inside
  exact spaced.apart.left_of_append.right_of_append

/-- Within a run nothing of it is written. -/
theorem head?_squeeze {text : List Char} {c : Char} (first : (squeeze p true text).head? = some c) : p c = false := by
  induction text with
  | nil => cases first
  | cons d rest ih =>
    rw [squeeze] at first
    by_cases space : p d = true
    · rw [if_pos space, if_pos rfl] at first
      exact ih first
    · rw [if_neg space] at first
      obtain rfl := Option.some.inj first
      simpa using space

theorem spaced_squeeze (inRun : Bool) (text : List Char) : Spaced p (squeeze p inRun text) := by
  induction text generalizing inRun with
  | nil => exact ⟨fun _ mem => (by cases mem), .nil⟩
  | cons c rest ih =>
    rw [squeeze]
    by_cases space : p c = true
    · rw [if_pos space]
      cases inRun with
      | true => exact ih true
      | false =>
        obtain ⟨blanks, apart⟩ := ih true
        refine ⟨fun d mem is => ?_, List.isChain_cons.mpr ⟨fun d first both => ?_, apart⟩⟩
        · rcases List.mem_cons.mp mem with rfl | mem
          · rfl
          · exact blanks d mem is
        · rw [head?_squeeze first] at both
          cases both.2
    · rw [if_neg space]
      obtain ⟨blanks, apart⟩ := ih false
      refine ⟨fun d mem is => ?_, List.isChain_cons.mpr ⟨fun d _ both => space both.1, apart⟩⟩
      rcases List.mem_cons.mp mem with rfl | mem
      · exact absurd is space
      · exact blanks d mem is

theorem length_squeeze_le (inRun : Bool) (text : List Char) : (squeeze p inRun text).length ≤ text.length := by
  induction text generalizing inRun with
  | nil => exact Nat.le_refl _
  | cons c rest ih =>
    have run := ih true
    have word := ih false
    rw [squeeze]
    split_ifs
    · exact Nat.le_succ_of_le run
    · exact Nat.succ_le_succ run
    · exact Nat.succ_le_succ word

/-- The other characters stay in their order. -/
theorem filter_squeeze (blank : p ' ' = true) (inRun : Bool) (text : List Char) :
    (squeeze p inRun text).filter (fun c => !p c) = text.filter (fun c => !p c) := by
  induction text generalizing inRun with
  | nil => rfl
  | cons c rest ih =>
    rw [squeeze]
    by_cases space : p c = true
    · rw [if_pos space, List.filter_cons_of_neg (by simp [space])]
      cases inRun with
      | true => exact ih true
      | false =>
        rw [if_neg Bool.false_ne_true, List.filter_cons_of_neg (by simp [blank])]
        exact ih true
    · rw [if_neg space, List.filter_cons_of_pos (by simp [space]), List.filter_cons_of_pos (by simp [space]),
        ih false]

theorem squeeze_of_spaced {text : List Char} (spaced : Spaced p text) {inRun : Bool}
    (fresh : inRun = true → ∀ c, text.head? = some c → p c = false) : squeeze p inRun text = text := by
  induction text generalizing inRun with
  | nil => rfl
  | cons c rest ih =>
    rw [squeeze]
    by_cases space : p c = true
    · have outside : inRun = false := by
        by_contra inside
        rw [fresh (Bool.not_eq_false _ ▸ inside) c rfl] at space
        cases space
      rw [if_pos space, outside, if_neg Bool.false_ne_true, spaced.blanks c List.mem_cons_self space]
      congr 1
      apply ih spaced.tail
      intro _ d first
      by_contra next
      exact (List.isChain_cons.mp spaced.apart).1 d first ⟨space, Bool.not_eq_false _ ▸ next⟩
    · rw [if_neg space]
      congr 1
      apply ih spaced.tail
      intro inRun
      cases inRun

theorem squeeze_eq_self_iff (text : List Char) : squeeze p false text = text ↔ Spaced p text := by
  constructor
  · intro same
    rw [← same]
    exact spaced_squeeze false text
  · intro spaced
    apply squeeze_of_spaced spaced
    intro inRun
    cases inRun

/-- Nothing of `q` at either end. -/
def Stripped (q : Char → Bool) (text : List Char) : Prop :=
  (∀ c, text.head? = some c → q c = false) ∧ ∀ c, text.getLast? = some c → q c = false

theorem isPrefix_stripChars (q : Char → Bool) (text : List Char) : stripChars q text <+: text.dropWhile q := by
  rw [← List.reverse_suffix, stripChars, List.reverse_reverse]
  exact List.dropWhile_suffix q

theorem isInfix_stripChars (q : Char → Bool) (text : List Char) : stripChars q text <:+: text :=
  (isPrefix_stripChars q text).isInfix.trans (List.dropWhile_suffix q).isInfix

theorem stripChars_of_stripped {q : Char → Bool} {text : List Char} (stripped : Stripped q text) :
    stripChars q text = text := by
  have last : ∀ c, text.reverse.head? = some c → q c = false := by
    intro c first
    rw [List.head?_reverse] at first
    exact stripped.2 c first
  rw [stripChars, PythonText.dropWhile_eq_self stripped.1, PythonText.dropWhile_eq_self last, List.reverse_reverse]

theorem stripped_stripChars (q : Char → Bool) (text : List Char) : Stripped q (stripChars q text) := by
  constructor
  · intro c first
    obtain ⟨rest, whole⟩ := isPrefix_stripChars q text
    have head : (text.dropWhile q).head? = some c := by
      rw [← whole, List.head?_append, first]
      rfl
    exact PythonText.head?_dropWhile head
  · intro c last
    rw [stripChars, List.getLast?_reverse] at last
    exact PythonText.head?_dropWhile last

end XpBuilder.Regexp
