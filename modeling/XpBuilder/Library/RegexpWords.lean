import Mathlib.Data.List.Find
import Mathlib.Data.List.Infix
import XpBuilder.Library.Regexp

/-! A pattern as the list of the words it matches, the one that is taken first first. A pattern
occurs where one of its words does. A text is replaced piece by piece as long as no word lies
across the seam; where one does, the replacement overhangs the seam. -/

namespace XpBuilder.Regexp

/-- What the pieces match, in the order in which it is tried. -/
def spellings : List Piece → List (List Char)
  | [] => [[]]
  | p :: rest =>
    p.chars.flatMap (fun c => (spellings rest).map (fun w => c :: w)) ++ (if p.optional then spellings rest else [])

def words (p : Pattern) : List (List Char) := p.flatMap spellings

/-- The first word at the beginning of a text. -/
def firstWord (ws : List (List Char)) (text : List Char) : Option (List Char) := ws.find? (fun w => w.isPrefixOf text)

theorem firstWord_cons_map (c d : Char) (ds : List Char) (ws : List (List Char)) :
    firstWord (ws.map (fun w => c :: w)) (d :: ds) = if c = d then (firstWord ws ds).map (fun w => c :: w) else none := by
  unfold firstWord
  rw [List.find?_map]
  split_ifs with same
  · have tests : ((fun w : List Char => w.isPrefixOf (d :: ds)) ∘ fun w => c :: w) = fun w => w.isPrefixOf ds := by
      funext w
      simp [List.isPrefixOf, same]
    rw [tests]
  · have tests : ((fun w : List Char => w.isPrefixOf (d :: ds)) ∘ fun w => c :: w) = fun _ => false := by
      funext w
      simp [List.isPrefixOf, same]
    rw [tests]
    simp

theorem firstWord_chars (chars : List Char) (ws : List (List Char)) (d : Char) (ds : List Char) :
    firstWord (chars.flatMap (fun c => ws.map (fun w => c :: w))) (d :: ds) =
      if d ∈ chars then (firstWord ws ds).map (fun w => d :: w) else none := by
  induction chars with
  | nil => rfl
  | cons c rest ih =>
    have split : firstWord ((c :: rest).flatMap (fun c => ws.map (fun w => c :: w))) (d :: ds) =
        (firstWord (ws.map (fun w => c :: w)) (d :: ds)).or
          (firstWord (rest.flatMap (fun c => ws.map (fun w => c :: w))) (d :: ds)) := by
      unfold firstWord
      rw [List.flatMap_cons, List.find?_append]
    rw [split, ih, firstWord_cons_map]
    by_cases same : c = d
    · subst same
      rw [if_pos rfl, if_pos List.mem_cons_self]
      cases firstWord ws ds with
      | none => split_ifs <;> rfl
      | some w => rfl
    · rw [if_neg same, Option.none_or]
      simp [Ne.symm same]

theorem firstWord_chars_nil (chars : List Char) (ws : List (List Char)) :
    firstWord (chars.flatMap (fun c => ws.map (fun w => c :: w))) [] = none := by
  unfold firstWord
  rw [List.find?_eq_none]
  intro w within
  obtain ⟨c, -, rest⟩ := List.mem_flatMap.mp within
  obtain ⟨v, -, rfl⟩ := List.mem_map.mp rest
  simp [List.isPrefixOf]

theorem takePieces_eq (ps : List Piece) (text : List Char) :
    takePieces ps text = (firstWord (spellings ps) text).map List.length := by
  induction ps generalizing text with
  | nil => simp [takePieces, spellings, firstWord, List.isPrefixOf]
  | cons p rest ih =>
    have split : firstWord (spellings (p :: rest)) text =
        (firstWord (p.chars.flatMap (fun c => (spellings rest).map (fun w => c :: w))) text).or
          (firstWord (if p.optional then spellings rest else []) text) := by
      unfold firstWord
      rw [spellings, List.find?_append]
    rw [split]
    cases text with
    | nil =>
      rw [firstWord_chars_nil, Option.none_or]
      simp only [takePieces]
      split_ifs
      · rw [Option.none_or, ih]
      · rfl
    | cons c cs =>
      rw [firstWord_chars]
      simp only [takePieces, ih]
      by_cases first : c ∈ p.chars
      · rw [if_pos first, if_pos first]
        cases firstWord (spellings rest) cs with
        | none => split_ifs <;> rfl
        | some w => split_ifs <;> rfl
      · rw [if_neg first, if_neg first, Option.none_or]
        split_ifs <;> rfl

theorem takeFirst_eq (p : Pattern) (text : List Char) : takeFirst p text = (firstWord (words p) text).map List.length := by
  induction p with
  | nil => rfl
  | cons ps rest ih =>
    have split : firstWord (words (ps :: rest)) text =
        (firstWord (spellings ps) text).or (firstWord (words rest) text) := by
      unfold firstWord words
      rw [List.flatMap_cons, List.find?_append]
    unfold takeFirst at ih ⊢
    rw [List.findSome?_cons, takePieces_eq, split, ih]
    cases firstWord (spellings ps) text <;> rfl

theorem firstWord_eq_some {ws : List (List Char)} {text w : List Char} (found : firstWord ws text = some w) :
    w ∈ ws ∧ w <+: text :=
  ⟨List.mem_of_find?_eq_some found, List.isPrefixOf_iff_prefix.mp (List.find?_some (p := fun w : List Char => w.isPrefixOf text) found)⟩

theorem isSome_firstWord {ws : List (List Char)} {text : List Char} :
    (firstWord ws text).isSome ↔ ∃ w ∈ ws, w <+: text := by
  unfold firstWord
  rw [List.find?_isSome]
  constructor
  · rintro ⟨w, within, front⟩
    exact ⟨w, within, List.isPrefixOf_iff_prefix.mp front⟩
  · rintro ⟨w, within, front⟩
    exact ⟨w, within, List.isPrefixOf_iff_prefix.mpr front⟩

/-- A pattern occurs where one of its words does. -/
theorem occurs_iff (p : Pattern) (text : List Char) : occurs p text ↔ ∃ w ∈ words p, w <:+: text := by
  induction text with
  | nil =>
    rw [occurs, takeFirst_eq, Option.isSome_map, isSome_firstWord]
    constructor
    · rintro ⟨w, within, front⟩
      exact ⟨w, within, front.isInfix⟩
    · rintro ⟨w, within, inside⟩
      exact ⟨w, within, by rw [List.infix_nil.mp inside]⟩
  | cons c cs ih =>
    rw [occurs, Bool.or_eq_true, takeFirst_eq, Option.isSome_map, isSome_firstWord, ih]
    constructor
    · rintro (⟨w, within, front⟩ | ⟨w, within, inside⟩)
      · exact ⟨w, within, front.isInfix⟩
      · exact ⟨w, within, List.infix_cons inside⟩
    · rintro ⟨w, within, inside⟩
      rcases List.infix_cons_iff.mp inside with front | later
      · exact .inl ⟨w, within, front⟩
      · exact .inr ⟨w, within, later⟩

/-! ## Seams -/

/-- A word lies across the seam between two texts. -/
def Across (ws : List (List Char)) (a b : List Char) : Prop :=
  ∃ x y, x ++ y ∈ ws ∧ x ≠ [] ∧ y ≠ [] ∧ x <:+ a ∧ y <+: b

theorem prefix_append_iff {w a b : List Char} : w <+: a ++ b ↔ w <+: a ∨ ∃ y, w = a ++ y ∧ y <+: b := by
  constructor
  · intro front
    rcases List.prefix_or_prefix_of_prefix front (List.prefix_append a b) with short | long
    · exact .inl short
    · obtain ⟨y, rfl⟩ := long
      exact .inr ⟨y, rfl, (List.prefix_append_right_inj a).mp front⟩
  · rintro (front | ⟨y, rfl, front⟩)
    · exact front.trans (List.prefix_append a b)
    · exact (List.prefix_append_right_inj a).mpr front

theorem firstWord_append {ws : List (List Char)} {a b : List Char} (some : a ≠ []) (apart : ¬Across ws a b) :
    firstWord ws (a ++ b) = firstWord ws a := by
  unfold firstWord
  apply List.find?_congr
  intro w within
  rw [Bool.eq_iff_iff, List.isPrefixOf_iff_prefix, List.isPrefixOf_iff_prefix, prefix_append_iff]
  constructor
  · rintro (front | ⟨y, rfl, front⟩)
    · exact front
    · by_cases empty : y = []
      · rw [empty, List.append_nil]
      · exact absurd ⟨a, y, within, some, empty, List.suffix_rfl, front⟩ apart
  · exact Or.inl

/-- A word that ends before the seam is the first one also without what is behind the seam. -/
theorem firstWord_shorter {ws : List (List Char)} {a b : List Char}
    (short : ∀ w, firstWord ws (a ++ b) = some w → w.length ≤ a.length) : firstWord ws a = firstWord ws (a ++ b) := by
  cases found : firstWord ws (a ++ b) with
  | none =>
    unfold firstWord at found ⊢
    rw [List.find?_eq_none] at found ⊢
    intro w within front
    exact found w within (List.isPrefixOf_iff_prefix.mpr ((List.isPrefixOf_iff_prefix.mp front).trans (List.prefix_append a b)))
  | some w =>
    have front := List.prefix_of_prefix_length_le (firstWord_eq_some found).2 (List.prefix_append a b) (short w found)
    unfold firstWord at found ⊢
    rw [List.find?_eq_some_iff_append] at found ⊢
    obtain ⟨-, before, after, split, none⟩ := found
    refine ⟨List.isPrefixOf_iff_prefix.mpr front, before, after, split, ?_⟩
    intro v within
    have longer := none v within
    simp only [Bool.not_eq_true', ← Bool.not_eq_true, List.isPrefixOf_iff_prefix] at longer ⊢
    exact fun front => longer (front.trans (List.prefix_append a b))

/-! ## Replacing piece by piece -/

section
variable {p : Pattern} {fill : List Char}

theorem replaceFrom_cons (p : Pattern) (fill : List Char) (c : Char) (cs : List Char) :
    replaceFrom p fill 0 (c :: cs) = match firstWord (words p) (c :: cs) with
      | some (_ :: w) => fill ++ replaceFrom p fill w.length cs
      | _ => c :: replaceFrom p fill 0 cs := by
  rw [replaceFrom, takeFirst_eq]
  cases firstWord (words p) (c :: cs) with
  | none => rfl
  | some w => cases w <;> rfl

/-- Nothing is found at a place, or the empty word. -/
def Passes (found : Option (List Char)) : Prop := found = none ∨ found = some []

theorem Passes.eq_nil {w : List Char} (passes : Passes (some w)) : w = [] := by
  cases passes with
  | inl none => cases none
  | inr empty => exact Option.some.inj empty

theorem passes_or_takes (found : Option (List Char)) : Passes found ∨ ∃ d w, found = some (d :: w) := by
  cases found with
  | none => exact .inl (.inl rfl)
  | some w =>
    cases w with
    | nil => exact .inl (.inr rfl)
    | cons d w => exact .inr ⟨d, w, rfl⟩

theorem replaceFrom_passes {c : Char} {cs : List Char} (first : Passes (firstWord (words p) (c :: cs))) :
    replaceFrom p fill 0 (c :: cs) = c :: replaceFrom p fill 0 cs := by
  rw [replaceFrom_cons]
  cases first with
  | inl none => rw [none]
  | inr empty => rw [empty]

theorem replaceFrom_takes {c d : Char} {cs w : List Char} (first : firstWord (words p) (c :: cs) = some (d :: w)) :
    replaceFrom p fill 0 (c :: cs) = fill ++ replaceFrom p fill w.length cs := by
  rw [replaceFrom_cons, first]

/-- Where no word lies across the seam, both sides are replaced for themselves. -/
theorem replaceFrom_append {n : Nat} {a b : List Char} (apart : ¬Across (words p) a b) (within : n ≤ a.length) :
    replaceFrom p fill n (a ++ b) = replaceFrom p fill n a ++ replaceFrom p fill 0 b := by
  induction a generalizing n with
  | nil =>
    obtain rfl : n = 0 := Nat.le_zero.mp within
    cases b <;> rfl
  | cons c rest ih =>
    have apart_rest : ¬Across (words p) rest b := by
      rintro ⟨x, y, word, some_x, some_y, behind, front⟩
      exact apart ⟨x, y, word, some_x, some_y, behind.trans (List.suffix_cons c rest), front⟩
    cases n with
    | succ n =>
      simp only [List.length_cons] at within
      exact ih apart_rest (by omega)
    | zero =>
      have first := firstWord_append (List.cons_ne_nil c rest) apart
      rw [List.cons_append] at first ⊢
      rcases passes_or_takes (firstWord (words p) (c :: rest)) with passes | ⟨d, w, found⟩
      · rw [replaceFrom_passes passes, replaceFrom_passes (first.symm ▸ passes), ih apart_rest (Nat.zero_le _),
          List.cons_append]
      · have short := (firstWord_eq_some found).2.length_le
        simp only [List.length_cons, Nat.add_le_add_iff_right] at short
        rw [replaceFrom_takes found, replaceFrom_takes (first.trans found), ih apart_rest short, List.append_assoc]

theorem replaceFrom_skip (a b : List Char) (n : Nat) :
    replaceFrom p fill (a.length + n) (a ++ b) = replaceFrom p fill n b := by
  induction a with
  | nil => rw [List.length_nil, Nat.zero_add, List.nil_append]
  | cons c rest ih =>
    rw [List.length_cons, Nat.add_right_comm]
    exact ih

/-- A word that no other word is like is replaced as a whole. -/
theorem replaceFrom_word {w : List Char} (word : w ∈ words p) (some : w ≠ [])
    (only : ∀ v ∈ words p, v <+: w ∨ w <+: v → v = w) (b : List Char) :
    replaceFrom p fill 0 (w ++ b) = fill ++ replaceFrom p fill 0 b := by
  cases w with
  | nil => exact absurd rfl some
  | cons c cs =>
    have first : firstWord (words p) (c :: cs ++ b) = Option.some (c :: cs) := by
      obtain ⟨v, found⟩ := Option.isSome_iff_exists.mp (isSome_firstWord.mpr ⟨c :: cs, word, List.prefix_append _ b⟩)
      obtain ⟨mem, front⟩ := firstWord_eq_some found
      rw [found, only v mem (List.prefix_or_prefix_of_prefix front (List.prefix_append _ b))]
    have skipped : replaceFrom p fill (cs.length + 0) (cs ++ b) = replaceFrom p fill 0 b := replaceFrom_skip cs b 0
    rw [Nat.add_zero] at skipped
    rw [List.cons_append] at first ⊢
    rw [replaceFrom_takes first, skipped]

theorem replaceFrom_ne_nil (some : fill ≠ []) (c : Char) (cs : List Char) : replaceFrom p fill 0 (c :: cs) ≠ [] := by
  rw [replaceFrom_cons]
  split
  · exact fun empty => some (List.append_eq_nil_iff.mp empty).1
  · exact List.cons_ne_nil _ _

/-- The last character of a replaced text is its own last one or that of the filling. -/
theorem getLast?_replaceFrom (some : fill ≠ []) {n : Nat} {cs : List Char} {c : Char} (last : (replaceFrom p fill n cs).getLast? = Option.some c) :
    cs.getLast? = Option.some c ∨ fill.getLast? = Option.some c := by
  induction cs generalizing n with
  | nil => cases last
  | cons d rest ih =>
    have later : ∀ {m}, (replaceFrom p fill m rest).getLast? = Option.some c →
        (d :: rest).getLast? = Option.some c ∨ fill.getLast? = Option.some c := by
      intro m last
      refine (ih last).imp_left (fun own => ?_)
      rw [List.getLast?_cons, own]
      rfl
    cases n with
    | succ n => exact later last
    | zero =>
      have plain : (d :: replaceFrom p fill 0 rest).getLast? = Option.some c →
          (d :: rest).getLast? = Option.some c ∨ fill.getLast? = Option.some c := by
        intro last
        cases rest with
        | nil => exact .inl last
        | cons e others =>
          obtain ⟨f, fs, inner⟩ := List.exists_cons_of_ne_nil (replaceFrom_ne_nil some e others (p := p))
          rw [inner, List.getLast?_cons_cons, ← inner] at last
          exact later last
      rcases passes_or_takes (firstWord (words p) (d :: rest)) with passes | ⟨e, w, found⟩
      · rw [replaceFrom_passes passes] at last
        exact plain last
      · rw [replaceFrom_takes found, List.getLast?_append] at last
        rcases Option.or_eq_some_iff.mp last with inner | ⟨-, own⟩
        · exact later inner
        · exact .inr own

/-! ## A word across the seam -/

/-- How far the replacement of the words that begin in `a` reaches into `b`. -/
def overhang (p : Pattern) : Nat → List Char → List Char → Nat
  | n, [], _ => n
  | n + 1, _ :: a, b => overhang p n a b
  | 0, c :: a, b =>
    match takeFirst p (c :: (a ++ b)) with
    | some (n + 1) => overhang p n a b
    | _ => overhang p 0 a b

theorem overhang_cons (c : Char) (a b : List Char) : overhang p 0 (c :: a) b =
    match firstWord (words p) (c :: (a ++ b)) with
      | some (_ :: w) => overhang p w.length a b
      | _ => overhang p 0 a b := by
  rw [overhang, takeFirst_eq]
  cases firstWord (words p) (c :: (a ++ b)) with
  | none => rfl
  | some w => cases w <;> rfl

theorem overhang_passes {c : Char} {a b : List Char} (first : Passes (firstWord (words p) (c :: (a ++ b)))) :
    overhang p 0 (c :: a) b = overhang p 0 a b := by
  rw [overhang_cons]
  cases first with
  | inl none => rw [none]
  | inr empty => rw [empty]

theorem overhang_takes {c d : Char} {a b w : List Char} (first : firstWord (words p) (c :: (a ++ b)) = some (d :: w)) :
    overhang p 0 (c :: a) b = overhang p w.length a b := by
  rw [overhang_cons, first]

theorem le_of_overhang {n : Nat} {a b : List Char} (zero : overhang p n a b = 0) : n ≤ a.length := by
  induction a generalizing n with
  | nil => exact Nat.le_of_eq zero
  | cons c rest ih =>
    cases n with
    | zero => exact Nat.zero_le _
    | succ n => exact Nat.succ_le_succ (ih zero)

/-- Where nothing hangs over, both sides are replaced for themselves. -/
theorem replaceFrom_of_overhang {n : Nat} {a b : List Char} (zero : overhang p n a b = 0) :
    replaceFrom p fill n (a ++ b) = replaceFrom p fill n a ++ replaceFrom p fill 0 b := by
  induction a generalizing n with
  | nil =>
    obtain rfl : n = 0 := zero
    cases b <;> rfl
  | cons c rest ih =>
    cases n with
    | succ n => exact ih zero
    | zero =>
      rcases passes_or_takes (firstWord (words p) (c :: (rest ++ b))) with passes | ⟨d, w, found⟩
      · rw [overhang_passes passes] at zero
        have same : firstWord (words p) (c :: rest) = firstWord (words p) (c :: rest ++ b) := by
          apply firstWord_shorter
          intro w found
          rw [List.cons_append] at found
          rw [found] at passes
          rw [passes.eq_nil]
          exact Nat.zero_le _
        rw [List.cons_append] at same ⊢
        rw [replaceFrom_passes passes, replaceFrom_passes (same.symm ▸ passes), ih zero, List.cons_append]
      · rw [overhang_takes found] at zero
        have same : firstWord (words p) (c :: rest) = firstWord (words p) (c :: rest ++ b) := by
          apply firstWord_shorter
          intro v again
          rw [List.cons_append, found] at again
          rw [← Option.some.inj again]
          exact Nat.succ_le_succ (le_of_overhang zero)
        rw [List.cons_append] at same ⊢
        rw [replaceFrom_takes found, replaceFrom_takes (same.trans found), ih zero, List.append_assoc]

/-- A word that is found and ends before `x` is also found without what follows. -/
theorem firstWord_fronts {ws : List (List Char)} {a x b : List Char} {r : Option (List Char)}
    (found : firstWord ws (a ++ x ++ b) = r) (short : ∀ w, r = some w → w.length ≤ a.length) :
    firstWord ws a = r ∧ firstWord ws (a ++ x) = r := by
  constructor
  · rw [← found, List.append_assoc]
    apply firstWord_shorter
    intro w again
    rw [← List.append_assoc, found] at again
    exact short w again
  · rw [← found]
    apply firstWord_shorter
    intro w again
    rw [found] at again
    exact (short w again).trans (List.sublist_append_left a x).length_le

/-- Where the replacement hangs over, one word begins in the left text, at a place that the
replacement reaches, and ends in the right one. -/
theorem exists_across (fill : List Char) {n : Nat} {a b : List Char} (within : n ≤ a.length) (hangs : overhang p n a b ≠ 0) :
    ∃ a₀ x y, a = a₀ ++ x ∧ n ≤ a₀.length ∧ x ≠ [] ∧ y ≠ [] ∧ x ++ y ∈ words p ∧ y <+: b ∧
      replaceFrom p fill n a = replaceFrom p fill n a₀ ++ replaceFrom p fill 0 x ∧
      replaceFrom p fill n (a ++ b) = replaceFrom p fill n a₀ ++ (fill ++ replaceFrom p fill y.length b) := by
  induction a generalizing n with
  | nil => exact absurd (Nat.le_zero.mp within) hangs
  | cons c rest ih =>
    cases n with
    | succ n =>
      simp only [List.length_cons] at within
      obtain ⟨a₀, x, y, rfl, reached, some_x, some_y, word, front, left, both⟩ := ih (by omega) hangs
      exact ⟨c :: a₀, x, y, rfl, by simp only [List.length_cons]; omega, some_x, some_y, word, front, left, both⟩
    | zero =>
      rcases passes_or_takes (firstWord (words p) (c :: (rest ++ b))) with passes | ⟨d, w, found⟩
      · rw [overhang_passes passes] at hangs
        obtain ⟨a₀, x, y, rfl, -, some_x, some_y, word, front, left, both⟩ := ih (Nat.zero_le _) hangs
        have empty : ∀ w, firstWord (words p) (c :: (a₀ ++ x ++ b)) = some w → w.length ≤ (c :: a₀).length := by
          intro w found
          rw [found] at passes
          rw [passes.eq_nil]
          exact Nat.zero_le _
        obtain ⟨short, longer⟩ := firstWord_fronts (a := c :: a₀) (x := x) rfl empty
        have passesShort : Passes (firstWord (words p) (c :: a₀)) := short.symm ▸ passes
        refine ⟨c :: a₀, x, y, rfl, Nat.zero_le _, some_x, some_y, word, front, ?_, ?_⟩
        · rw [replaceFrom_passes passesShort, replaceFrom_passes (longer.symm ▸ passes), left, List.cons_append]
        · rw [List.cons_append, replaceFrom_passes passesShort, replaceFrom_passes passes, both, List.cons_append]
      · rw [overhang_takes found] at hangs
        by_cases ends : w.length ≤ rest.length
        · obtain ⟨a₀, x, y, rfl, reached, some_x, some_y, word, front, left, both⟩ := ih ends hangs
          obtain ⟨short, longer⟩ : firstWord (words p) (c :: a₀) = some (d :: w) ∧
              firstWord (words p) (c :: (a₀ ++ x)) = some (d :: w) := by
            apply firstWord_fronts found
            intro v same
            rw [← Option.some.inj same]
            simpa using reached
          refine ⟨c :: a₀, x, y, rfl, Nat.zero_le _, some_x, some_y, word, front, ?_, ?_⟩
          · rw [replaceFrom_takes short, replaceFrom_takes longer, left, List.append_assoc]
          · rw [List.cons_append, replaceFrom_takes short, replaceFrom_takes found, both, List.append_assoc]
        · obtain ⟨mem, front⟩ := firstWord_eq_some found
          rw [← List.cons_append] at front
          rcases prefix_append_iff.mp front with short | ⟨y, split, behind⟩
          · have bound := short.length_le
            simp only [List.length_cons] at bound
            omega
          · have lengths := congrArg List.length split
            simp only [List.length_cons, List.length_append] at lengths
            have some_y : y ≠ [] := by
              rintro rfl
              simp only [List.length_nil] at lengths
              omega
            refine ⟨[], c :: rest, y, rfl, le_rfl, List.cons_ne_nil c rest, some_y, split ▸ mem, behind, rfl, ?_⟩
            have length : w.length = rest.length + y.length := by omega
            rw [List.cons_append, replaceFrom_takes found, length, replaceFrom_skip]
            rfl

end

/-! ## Words that a text keeps apart -/

/-- No word but one that begins with `but` reaches from before `k` into it. -/
def apartLeft (but : List Char) (ws : List (List Char)) (k : List Char) : Bool :=
  ws.all (fun w => (List.range w.length).all (fun i =>
    i = 0 || w.take i = but || !((w.drop i).isPrefixOf k || k.isPrefixOf (w.drop i))))

/-- No word reaches from `k` into what is behind it. -/
def apartRight (ws : List (List Char)) (k : List Char) : Bool :=
  ws.all (fun w => (List.range w.length).all (fun i => i = 0 || !(w.take i).isSuffixOf k))

theorem not_across_left {but : List Char} {ws : List (List Char)} {k a : List Char} (apart : apartLeft but ws k)
    (free : but ≠ [] → ¬but <:+ a) (s : List Char) : ¬Across ws a (k ++ s) := by
  rintro ⟨x, y, word, some_x, some_y, behind, front⟩
  have positive := List.length_pos_of_ne_nil some_x
  have positive' := List.length_pos_of_ne_nil some_y
  rw [apartLeft, List.all_eq_true] at apart
  have here := apart _ word
  rw [List.all_eq_true] at here
  have seam := here x.length (by rw [List.mem_range, List.length_append]; omega)
  rw [List.drop_left, List.take_left, Bool.or_eq_true, Bool.or_eq_true, decide_eq_true_eq, decide_eq_true_eq] at seam
  rcases seam with (empty | same) | other
  · omega
  · exact free (same ▸ some_x) (same ▸ behind)
  · rw [Bool.not_eq_true', Bool.or_eq_false_iff, ← Bool.not_eq_true, ← Bool.not_eq_true, List.isPrefixOf_iff_prefix,
      List.isPrefixOf_iff_prefix] at other
    rcases List.prefix_or_prefix_of_prefix front (List.prefix_append k s) with short | long
    · exact other.1 short
    · exact other.2 long

theorem not_across_right {ws : List (List Char)} {k : List Char} (apart : apartRight ws k) (s : List Char) : ¬Across ws k s := by
  rintro ⟨x, y, word, some_x, some_y, behind, -⟩
  have positive := List.length_pos_of_ne_nil some_x
  have positive' := List.length_pos_of_ne_nil some_y
  rw [apartRight, List.all_eq_true] at apart
  have here := apart _ word
  rw [List.all_eq_true] at here
  have seam := here x.length (by rw [List.mem_range, List.length_append]; omega)
  rw [List.take_left, Bool.or_eq_true, decide_eq_true_eq] at seam
  have other := seam.resolve_left (by omega)
  rw [Bool.not_eq_true', ← Bool.not_eq_true, List.isSuffixOf_iff_suffix] at other
  exact other behind

/-- What is within two texts is within one of them or lies across the seam. -/
theorem infix_append_cases {w a b : List Char} (inside : w <:+: a ++ b) :
    w <:+: a ∨ w <:+: b ∨ ∃ x y, w = x ++ y ∧ x ≠ [] ∧ y ≠ [] ∧ x <:+ a ∧ y <+: b := by
  induction a with
  | nil => exact .inr (.inl inside)
  | cons c rest ih =>
    rw [List.cons_append, List.infix_cons_iff] at inside
    rcases inside with front | later
    · rw [← List.cons_append] at front
      rcases prefix_append_iff.mp front with short | ⟨y, rfl, behind⟩
      · exact .inl short.isInfix
      · by_cases empty : y = []
        · rw [empty, List.append_nil]
          exact .inl List.infix_rfl
        · exact .inr (.inr ⟨c :: rest, y, rfl, List.cons_ne_nil c rest, empty, List.suffix_rfl, behind⟩)
    · rcases ih later with inside | inside | ⟨x, y, rfl, some_x, some_y, behind, front⟩
      · exact .inl (List.infix_cons inside)
      · exact .inr (.inl inside)
      · exact .inr (.inr ⟨x, y, rfl, some_x, some_y, behind.trans (List.suffix_cons c rest), front⟩)

section
variable {p : Pattern}

theorem occurs_mono {a b : List Char} (inside : a <:+: b) (occurs_a : occurs p a) : occurs p b := by
  rw [occurs_iff] at occurs_a ⊢
  obtain ⟨w, word, here⟩ := occurs_a
  exact ⟨w, word, here.trans inside⟩

/-- Around a text that words keep apart from, a pattern occurs on one side or within it. -/
theorem occurs_around {a k s : List Char} (left : apartLeft [] (words p) k) (right : apartRight (words p) k)
    (whole : occurs p (a ++ (k ++ s))) : occurs p a ∨ occurs p k ∨ occurs p s := by
  rw [occurs_iff] at whole
  obtain ⟨w, word, inside⟩ := whole
  simp only [occurs_iff]
  rcases infix_append_cases inside with inside | inside | ⟨x, y, rfl, across⟩
  · exact .inl ⟨w, word, inside⟩
  · rcases infix_append_cases inside with inside | inside | ⟨x, y, rfl, across⟩
    · exact .inr (.inl ⟨w, word, inside⟩)
    · exact .inr (.inr ⟨w, word, inside⟩)
    · exact absurd ⟨x, y, word, across⟩ (not_across_right right s)
  · exact absurd ⟨x, y, word, across⟩ (not_across_left left (fun some => absurd rfl some) s)

/-- What does not occur in `k` occurs beside it, so also with another text in its place. -/
theorem occurs_elsewhere {a k s : List Char} (left : apartLeft [] (words p) k) (right : apartRight (words p) k)
    (unknown : occurs p k = false) (whole : occurs p (a ++ (k ++ s))) (k' : List Char) :
    occurs p (a ++ (k' ++ s)) := by
  rcases occurs_around left right whole with here | here | here
  · exact occurs_mono List.infix_append_left here
  · rw [unknown] at here
    cases here
  · exact occurs_mono ⟨a ++ k', [], by simp⟩ here

/-- A text that words keep apart from, and that no replacement changes, stays between its sides. -/
theorem replaceFrom_around {fill a k s : List Char} (left : apartLeft [] (words p) k) (right : apartRight (words p) k)
    (kept : replaceFrom p fill 0 k = k) :
    replaceFrom p fill 0 (a ++ (k ++ s)) = replaceFrom p fill 0 a ++ (k ++ replaceFrom p fill 0 s) := by
  rw [replaceFrom_append (not_across_left left (fun some => absurd rfl some) s) (Nat.zero_le _),
    replaceFrom_append (not_across_right right s) (Nat.zero_le _), kept]

end

end XpBuilder.Regexp
