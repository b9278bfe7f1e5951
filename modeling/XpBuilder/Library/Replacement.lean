import Mathlib.Data.List.Infix

/-! Replacing every occurrence of one part of a text by another, from the left and without
overlaps, and texts in which single characters are coded by a mark and a word behind it. A
replacement of one of the words undoes the code of its character, and beyond that does to the
coded text what it does to the text itself. -/

namespace XpBuilder.Replacement

section
variable {α : Type} [DecidableEq α]

/-- The number is that of the characters still to be left out. -/
def replaceFrom (pat fill : List α) : Nat → List α → List α
  | _, [] => []
  | skip + 1, _ :: cs => replaceFrom pat fill skip cs
  | 0, c :: cs =>
    if pat <+: c :: cs then fill ++ replaceFrom pat fill (pat.length - 1) cs
    else c :: replaceFrom pat fill 0 cs

/-- For a part that is not empty. -/
def replaceAll (pat fill text : List α) : List α := replaceFrom pat fill 0 text

variable {pat fill : List α}

theorem replaceFrom_length (part rest : List α) :
    replaceFrom pat fill part.length (part ++ rest) = replaceAll pat fill rest := by
  induction part with
  | nil => rfl
  | cons c part ih =>
    rw [List.length_cons, List.cons_append, replaceFrom]
    exact ih

@[simp] theorem replaceAll_nil : replaceAll pat fill [] = [] := rfl

theorem replaceAll_part (nonempty : pat ≠ []) (rest : List α) :
    replaceAll pat fill (pat ++ rest) = fill ++ replaceAll pat fill rest := by
  cases pat with
  | nil => exact absurd rfl nonempty
  | cons p pat =>
    have here : p :: pat <+: p :: (pat ++ rest) := List.prefix_append (p :: pat) rest
    rw [List.cons_append, replaceAll, replaceFrom, if_pos here, List.length_cons, Nat.add_sub_cancel,
      replaceFrom_length]

theorem replaceAll_cons {c : α} {rest : List α} (other : ¬pat <+: c :: rest) :
    replaceAll pat fill (c :: rest) = c :: replaceAll pat fill rest := by
  rw [replaceAll, replaceFrom, if_neg other]
  rfl

/-- A text is taken apart as the replacement does it. -/
theorem replacement_induction {motive : List α → Prop} (nonempty : pat ≠ []) (nil : motive [])
    (part : ∀ rest, motive rest → motive (pat ++ rest))
    (cons : ∀ c rest, ¬pat <+: c :: rest → motive rest → motive (c :: rest)) (text : List α) : motive text := by
  induction h : text.length using Nat.strong_induction_on generalizing text with
  | _ n ih =>
    cases text with
    | nil => exact nil
    | cons c rest =>
      by_cases here : pat <+: c :: rest
      · obtain ⟨behind, same⟩ := here
        have lengths := congrArg List.length same
        have positive := List.length_pos_of_ne_nil nonempty
        rw [List.length_append] at lengths
        rw [← same]
        exact part behind (ih behind.length (by omega) behind rfl)
      · have shorter : rest.length < n := by
          rw [← h, List.length_cons]
          omega
        exact cons c rest here (ih rest.length shorter rest rfl)

/-- What is shorter than the part it stands for makes the text shorter where the part occurs. -/
theorem same_or_shorter (shorter : fill.length < pat.length) (text : List α) :
    (¬pat <:+: text ∧ replaceAll pat fill text = text) ∨
      (pat <:+: text ∧ (replaceAll pat fill text).length < text.length) := by
  have nonempty : pat ≠ [] := by
    rintro rfl
    simp at shorter
  induction text using replacement_induction nonempty with
  | nil =>
    left
    simp [nonempty]
  | part rest ih =>
    right
    have behind : (replaceAll pat fill rest).length ≤ rest.length := by
      cases ih with
      | inl same => rw [same.2]
      | inr less => omega
    refine ⟨(List.prefix_append pat rest).isInfix, ?_⟩
    rw [replaceAll_part nonempty, List.length_append, List.length_append]
    omega
  | cons c rest other ih =>
    have occurs : pat <:+: c :: rest ↔ pat <:+: rest := by
      rw [List.infix_cons_iff]
      simp [other]
    rw [replaceAll_cons other, occurs]
    cases ih with
    | inl same =>
      left
      exact ⟨same.1, by rw [same.2]⟩
    | inr less =>
      right
      refine ⟨less.1, ?_⟩
      rw [List.length_cons, List.length_cons]
      omega

theorem length_replaceAll_le (shorter : fill.length < pat.length) (text : List α) :
    (replaceAll pat fill text).length ≤ text.length := by
  cases same_or_shorter shorter text with
  | inl same => rw [same.2]
  | inr less => omega

/-- One replacement after another, each of a part by a text. -/
def replaceEach (steps : List (List α × List α)) (text : List α) : List α :=
  steps.foldl (fun t s => replaceAll s.1 s.2 t) text

theorem length_replaceEach_le {steps : List (List α × List α)} (shorter : ∀ s ∈ steps, s.2.length < s.1.length)
    (text : List α) : (replaceEach steps text).length ≤ text.length := by
  induction steps generalizing text with
  | nil => exact le_rfl
  | cons s steps ih =>
    rw [List.forall_mem_cons] at shorter
    have behind := ih shorter.2 (replaceAll s.1 s.2 text)
    have first := length_replaceAll_le shorter.1 text
    exact behind.trans first

/-- A text that gets no shorter has none of the parts in it. -/
theorem not_infix_of_length {steps : List (List α × List α)} (shorter : ∀ s ∈ steps, s.2.length < s.1.length)
    {text : List α} (long : text.length ≤ (replaceEach steps text).length) : ∀ s ∈ steps, ¬s.1 <:+: text := by
  induction steps with
  | nil => exact fun _ mem => absurd mem List.not_mem_nil
  | cons s steps ih =>
    rw [List.forall_mem_cons] at shorter ⊢
    have first : replaceEach (s :: steps) text = replaceEach steps (replaceAll s.1 s.2 text) := rfl
    rw [first] at long
    cases same_or_shorter shorter.1 text with
    | inl same =>
      rw [same.2] at long
      exact ⟨same.1, ih shorter.2 long⟩
    | inr less =>
      have behind := length_replaceEach_le shorter.2 (replaceAll s.1 s.2 text)
      omega

/-- A text that gets no longer comes back only if none of the parts is in it. -/
theorem replaceEach_eq_self_iff {steps : List (List α × List α)} (shorter : ∀ s ∈ steps, s.2.length < s.1.length)
    (text : List α) : replaceEach steps text = text ↔ ∀ s ∈ steps, ¬s.1 <:+: text := by
  induction steps with
  | nil => simp [replaceEach]
  | cons s steps ih =>
    rw [List.forall_mem_cons] at shorter ⊢
    have first : replaceEach (s :: steps) text = replaceEach steps (replaceAll s.1 s.2 text) := rfl
    rw [first]
    cases same_or_shorter shorter.1 text with
    | inl same =>
      rw [same.2, ih shorter.2]
      simp [same.1]
    | inr less =>
      have behind := length_replaceEach_le shorter.2 (replaceAll s.1 s.2 text)
      constructor
      · intro same
        rw [same] at behind
        omega
      · intro absent
        exact absurd less.1 absent.1

end

/-! ## Coded characters -/

section
variable {α : Type} [DecidableEq α]

/-- The characters that are coded, each with the word behind the mark. -/
abbrev Codes (α : Type) := List (α × List α)

namespace Codes

def chars (T : Codes α) : List α := T.map Prod.fst

def words (T : Codes α) : List (List α) := T.map Prod.snd

def code (m : α) : Codes α → α → List α
  | [], c => [c]
  | (x, word) :: T, c => if c = x then m :: word else code m T c

/-- The words end with the one stop that they have, and the mark is in none. -/
def Ended (m stop : α) (word : List α) : Prop :=
  word.getLast? = some stop ∧ stop ∉ word.dropLast ∧ m ∉ word

instance (m stop : α) (word : List α) : Decidable (Ended m stop word) := by
  unfold Ended
  infer_instance

variable {m stop : α} {T : Codes α}

theorem code_of_not_mem {c : α} (absent : c ∉ T.chars) : T.code m c = [c] := by
  induction T with
  | nil => rfl
  | cons e T ih =>
    simp only [chars, List.map_cons, List.mem_cons, not_or] at absent
    rw [code, if_neg absent.1, ih absent.2]

theorem code_of_mem {c : α} (present : c ∈ T.chars) : ∃ word ∈ T.words, T.code m c = m :: word := by
  induction T with
  | nil => cases present
  | cons e T ih =>
    by_cases here : c = e.1
    · exact ⟨e.2, List.mem_cons_self, by rw [code, if_pos here]⟩
    · have behind : c ∈ chars T := by simpa [chars, here] using present
      obtain ⟨word, there, coded⟩ := ih behind
      exact ⟨word, List.mem_cons_of_mem e.2 there, by rw [code, if_neg here, coded]⟩

/-- Of two words that end alike none begins the other. -/
theorem Ended.eq_of_prefix {p word rest : List α} (ended : Ended m stop p) (ended' : Ended m stop word)
    (front : p <+: word ++ rest) : p = word := by
  have cut : ∀ {w : List α}, Ended m stop w → ∀ behind : List α,
      (w ++ behind).takeWhile (· ≠ stop) ++ [stop] = w := by
    intro w ended behind
    have whole := List.dropLast_append_getLast? stop ended.1
    have before : ∀ c ∈ w.dropLast, decide (c ≠ stop) = true := by
      intro c there
      have other : c ≠ stop := fun same => ended.2.1 (same ▸ there)
      simpa using other
    rw [← whole, List.append_assoc, List.takeWhile_append_of_pos before, List.singleton_append,
      List.takeWhile_cons_of_neg (by simp), List.append_nil]
  obtain ⟨behind, same⟩ := front
  rw [← cut ended behind, same, cut ended' rest]

/-! ## Replacing a coded character -/

variable {p fill rest : List α}

/-- Without a mark nothing is replaced. -/
theorem replaceAll_plain {part : List α} (plain : m ∉ part) :
    replaceAll (m :: p) fill (part ++ rest) = part ++ replaceAll (m :: p) fill rest := by
  induction part with
  | nil => rfl
  | cons c part ih =>
    rw [List.mem_cons, not_or] at plain
    have other : ¬m :: p <+: c :: (part ++ rest) := by
      rw [List.cons_prefix_cons]
      exact fun front => plain.1 front.1
    rw [List.cons_append, replaceAll_cons other, ih plain.2, List.cons_append]

theorem replaceAll_word {word : List α} (ended : Ended m stop p) (ended' : Ended m stop word)
    (other : word ≠ p) :
    replaceAll (m :: p) fill (m :: word ++ rest) = m :: word ++ replaceAll (m :: p) fill rest := by
  have absent : ¬m :: p <+: m :: (word ++ rest) := by
    rw [List.cons_prefix_cons]
    exact fun front => other (ended.eq_of_prefix ended' front.2).symm
  rw [List.cons_append, replaceAll_cons absent, replaceAll_plain ended'.2.2, List.cons_append]

/-- Where the mark itself is coded the replacement of a word is the end of its character's code. -/
theorem replaceAll_code (stop : α) {x : α} (ended : ∀ word ∈ words ((x, p) :: T), Ended m stop word)
    (marked : m ∈ chars ((x, p) :: T)) (once : x ∉ T.chars) (fresh : p ∉ T.words) (text : List α) :
    replaceAll (m :: p) [x] (text.flatMap (code m ((x, p) :: T))) = text.flatMap (T.code m) := by
  have own := ended p List.mem_cons_self
  induction text with
  | nil => rfl
  | cons c text ih =>
    rw [List.flatMap_cons, List.flatMap_cons, ← ih]
    by_cases here : c = x
    · rw [here, code, if_pos rfl, code_of_not_mem once, replaceAll_part (List.cons_ne_nil m p)]
    · rw [code, if_neg here]
      by_cases coded : c ∈ T.chars
      · obtain ⟨word, there, same⟩ := code_of_mem (m := m) coded
        have other : word ≠ p := fun same => fresh (same ▸ there)
        rw [same, replaceAll_word own (ended word (List.mem_cons_of_mem p there)) other]
      · have plain : m ∉ [c] := by
          intro same
          rw [List.mem_singleton] at same
          simp only [chars, List.map_cons, List.mem_cons] at marked
          cases marked with
          | inl first => exact here (same ▸ first)
          | inr later => exact coded (same ▸ later)
        rw [code_of_not_mem coded, replaceAll_plain plain]

/-- A word of plain characters begins a coded text where it begins the text. -/
theorem prefix_of_prefix_flatMap (unmarked : m ∉ p) (plain : ∀ c ∈ p, c ∉ T.chars) {text : List α}
    (front : p <+: text.flatMap (T.code m)) : p <+: text := by
  induction p generalizing text with
  | nil => exact List.nil_prefix
  | cons a p ih =>
    rw [List.mem_cons, not_or] at unmarked
    rw [List.forall_mem_cons] at plain
    cases text with
    | nil => simp at front
    | cons c text =>
      rw [List.flatMap_cons] at front
      by_cases coded : c ∈ T.chars
      · obtain ⟨word, -, same⟩ := code_of_mem (m := m) coded
        rw [same, List.cons_append, List.cons_prefix_cons] at front
        exact absurd front.1.symm unmarked.1
      · rw [code_of_not_mem coded, List.singleton_append, List.cons_prefix_cons] at front
        rw [front.1]
        exact List.cons_prefix_cons.mpr ⟨rfl, ih unmarked.2 plain.2 front.2⟩

theorem flatMap_code_of_plain {part : List α} (plain : ∀ c ∈ part, c ∉ T.chars) : part.flatMap (T.code m) = part := by
  induction part with
  | nil => rfl
  | cons c part ih =>
    rw [List.forall_mem_cons] at plain
    rw [List.flatMap_cons, code_of_not_mem plain.1, ih plain.2, List.singleton_append]

/-- Where the mark is not coded the replacement works on the text itself, besides on the code of the
character. -/
theorem replaceAll_raw (stop : α) {x : α} {S : Codes α} (own : Ended m stop p) (ended : ∀ word ∈ T.words, Ended m stop word)
    (coded : S = T ∨ S = (x, p) :: T) (unmarked : m ∉ S.chars) (plain : ∀ c ∈ p, c ∉ S.chars)
    (once : x ∉ T.chars) (fresh : p ∉ T.words) (text : List α) :
    replaceAll (m :: p) [x] (text.flatMap (S.code m)) = (replaceAll (m :: p) [x] text).flatMap (T.code m) := by
  have there_of : ∀ c, c ∈ T.chars → c ∈ S.chars := by
    intro c there
    cases coded with
    | inl same => exact same ▸ there
    | inr more => exact more ▸ List.mem_cons_of_mem x there
  induction text using replacement_induction (List.cons_ne_nil m p) with
  | nil => rfl
  | part rest ih =>
    have front : (m :: p).flatMap (S.code m) = m :: p :=
      flatMap_code_of_plain (List.forall_mem_cons.mpr ⟨unmarked, plain⟩)
    rw [List.flatMap_append, front, replaceAll_part (List.cons_ne_nil m p), replaceAll_part (List.cons_ne_nil m p),
      List.flatMap_append, ih, List.flatMap_singleton, code_of_not_mem once]
  | cons c rest other ih =>
    rw [replaceAll_cons other, List.flatMap_cons, List.flatMap_cons, ← ih]
    by_cases mark : c = m
    · have absent : ¬m :: p <+: m :: rest.flatMap (S.code m) := by
        rw [List.cons_prefix_cons]
        rintro ⟨-, front⟩
        apply other
        rw [mark, List.cons_prefix_cons]
        exact ⟨rfl, prefix_of_prefix_flatMap own.2.2 plain front⟩
      rw [mark, code_of_not_mem unmarked, code_of_not_mem (fun there => unmarked (there_of m there)),
        List.singleton_append, List.singleton_append, replaceAll_cons absent]
    · have copied : m ∉ [c] := by simpa using Ne.symm mark
      by_cases later : c ∈ T.chars
      · obtain ⟨word, there, same⟩ := code_of_mem (m := m) later
        have others : word ≠ p := fun same => fresh (same ▸ there)
        have both : S.code m c = T.code m c := by
          cases coded with
          | inl same => rw [same]
          | inr more =>
            have apart : c ≠ x := fun here => once (here ▸ later)
            rw [more, code, if_neg apart]
        rw [both, same, replaceAll_word own (ended word there) others]
      · rw [code_of_not_mem later]
        by_cases first : c ∈ S.chars
        · have more : S = (x, p) :: T := by
            cases coded with
            | inl same => exact absurd (same ▸ first) later
            | inr more => exact more
          have here : c = x := by
            rw [more] at first
            cases List.mem_cons.mp first with
            | inl here => exact here
            | inr behind => exact absurd behind later
          rw [more, here, code, if_pos rfl, replaceAll_part (List.cons_ne_nil m p)]
        · rw [code_of_not_mem first, replaceAll_plain copied]

end Codes
end

end XpBuilder.Replacement
