import XpBuilder.Library.Sql

/-! LIKE patterns between two percent signs: they look for a text exactly where no character
of it has a meaning of its own in a pattern. -/

namespace XpBuilder.Sql

/-- A character that stands for itself in a pattern. -/
def isPlain (escapes : Bool) (c : Char) : Bool := c ≠ '%' && c ≠ '_' && !(escapes && c = '\\')

theorem wild_plain {escapes : Bool} {c : Char} (plain : isPlain escapes c) : wild c = .exactly c := by
  simp only [isPlain, Bool.and_eq_true, decide_eq_true_eq] at plain
  rw [wild, if_neg plain.1.1, if_neg plain.1.2]

theorem wilds_cons {escapes : Bool} {c : Char} (other : (escapes && c = '\\') = false) {rest : List Char} :
    wilds escapes (c :: rest) = wild c :: wilds escapes rest := by
  cases rest with
  | nil => rfl
  | cons d ds => rw [wilds, other, if_neg Bool.false_ne_true]

theorem wilds_plain {escapes : Bool} {text : List Char} (plain : ∀ c ∈ text, isPlain escapes c) (rest : List Char) :
    wilds escapes (text ++ rest) = text.map Wild.exactly ++ wilds escapes rest := by
  induction text with
  | nil => rfl
  | cons c cs ih =>
    rw [List.forall_mem_cons] at plain
    have other : (escapes && c = '\\') = false := by
      have whole := plain.1
      rw [isPlain, Bool.and_eq_true, Bool.not_eq_true'] at whole
      exact whole.2
    rw [List.cons_append, wilds_cons other, wild_plain plain.1, ih plain.2]
    rfl

theorem wildMatch_any (text : List Char) : wildMatch [.any] text := by
  rw [wildMatch, List.any_eq_true]
  exact ⟨[], (List.mem_tails _ _).mpr (List.nil_suffix), rfl⟩

theorem wildMatch_exactly (text : List Char) (ps : List Wild) (cs : List Char) :
    wildMatch (text.map Wild.exactly ++ ps) cs ↔ ∃ rest, cs = text ++ rest ∧ wildMatch ps rest := by
  induction text generalizing cs with
  | nil => simp
  | cons c rest ih =>
    rw [List.map_cons, List.cons_append, wildMatch, Bool.and_eq_true, decide_eq_true_eq, ih]
    cases cs with
    | nil => simp
    | cons d ds =>
      rw [List.head?_cons, List.tail_cons, Option.some.injEq]
      constructor
      · rintro ⟨rfl, after, rfl, matched⟩
        exact ⟨after, rfl, matched⟩
      · rintro ⟨after, same, matched⟩
        rw [List.cons_append, List.cons.injEq] at same
        exact ⟨same.1, after, same.2, matched⟩

/-- Between percent signs a plain text is looked for. -/
theorem likeMatch_plain {escapes : Bool} {text : List Char} (plain : ∀ c ∈ text, isPlain escapes c) (cs : List Char) :
    likeMatch escapes ('%' :: (text ++ ['%'])) cs ↔ text <:+: cs := by
  have percent : ∀ rest, wilds escapes ('%' :: rest) = .any :: wilds escapes rest := by
    intro rest
    rw [wilds_cons (by simp)]
    rfl
  rw [likeMatch, percent, wilds_plain plain, percent, wildMatch, List.any_eq_true]
  constructor
  · rintro ⟨tail, within, matched⟩
    obtain ⟨rest, rfl, -⟩ := (wildMatch_exactly text _ tail).mp matched
    obtain ⟨front, whole⟩ := (List.mem_tails _ _).mp within
    exact ⟨front, rest, by rw [List.append_assoc, whole]⟩
  · rintro ⟨front, rest, whole⟩
    have within : text ++ rest <:+ cs := ⟨front, by rw [← List.append_assoc, whole]⟩
    exact ⟨text ++ rest, (List.mem_tails _ _).mpr within,
      (wildMatch_exactly text _ _).mpr ⟨rest, rfl, wildMatch_any rest⟩⟩

/-! ## Texts that only a pattern finds -/

/-- A shortest text that the pieces match, with no underscore for an underscore. -/
def shortest : List Wild → List Char
  | [] => []
  | .any :: ps => shortest ps
  | .one :: ps => 'x' :: shortest ps
  | .exactly c :: ps => c :: shortest ps

theorem wildMatch_shortest (ps : List Wild) : wildMatch ps (shortest ps) := by
  induction ps with
  | nil => rfl
  | cons p ps ih =>
    cases p with
    | any =>
      rw [wildMatch, shortest, List.any_eq_true]
      exact ⟨shortest ps, (List.mem_tails _ _).mpr List.suffix_rfl, ih⟩
    | one => simpa [wildMatch, shortest] using ih
    | exactly c => simpa [wildMatch, shortest] using ih

theorem length_shortest_wild_le (c : Char) (ps : List Wild) :
    (shortest (wild c :: ps)).length ≤ (shortest ps).length + 1 := by
  unfold wild
  split_ifs <;> simp [shortest]

/-- A pattern that ends in a percent sign needs no more characters than stand before it, and
these are what it needs only if all of them are plain. -/
theorem shortest_wilds (escapes : Bool) : ∀ text : List Char,
    (shortest (wilds escapes (text ++ ['%']))).length ≤ text.length ∧
      (shortest (wilds escapes (text ++ ['%'])) = text → ∀ c ∈ text, isPlain escapes c)
  | [] => by simp [wilds, wild, shortest]
  | c :: rest => by
    by_cases slash : (escapes && c = '\\') = true
    · -- the character after the backslash is used up with it
      cases rest with
      | nil =>
        have only : shortest (wilds escapes ([c] ++ ['%'])) = ['%'] := by
          simp only [List.cons_append, List.nil_append, wilds, slash, if_true, shortest]
        rw [only]
        refine ⟨le_rfl, ?_⟩
        intro same
        rw [← (List.cons.inj same).1, Bool.and_eq_true] at slash
        exact absurd slash.2 (by decide)
      | cons d ds =>
        have shorter := (shortest_wilds escapes ds).1
        have shape : shortest (wilds escapes (c :: d :: ds ++ ['%'])) =
            d :: shortest (wilds escapes (ds ++ ['%'])) := by
          simp only [List.cons_append, wilds, slash, if_true, shortest]
        rw [shape]
        refine ⟨by simp only [List.length_cons]; omega, ?_⟩
        intro same
        have lengths := congrArg List.length same
        simp only [List.length_cons] at lengths
        omega
    · have later := shortest_wilds escapes rest
      rw [List.cons_append, wilds_cons (Bool.not_eq_true _ ▸ slash)]
      have bound := length_shortest_wild_le c (wilds escapes (rest ++ ['%']))
      refine ⟨by simp only [List.length_cons]; omega, ?_⟩
      intro same
      have lengths := congrArg List.length same
      unfold wild at same lengths
      split_ifs at same lengths with percent underscore
      · simp only [shortest, List.length_cons] at lengths
        omega
      · rw [shortest, underscore] at same
        exact absurd (List.cons.inj same).1 (by decide)
      · rw [shortest] at same
        rw [List.forall_mem_cons]
        refine ⟨?_, later.2 (List.cons.inj same).2⟩
        simp only [isPlain, Bool.and_eq_true, decide_eq_true_eq, Bool.not_eq_true']
        exact ⟨⟨percent, underscore⟩, Bool.not_eq_true _ ▸ slash⟩

/-- A pattern between percent signs looks for its text exactly where the text is plain. -/
theorem likeMatch_contains_iff (escapes : Bool) (text : List Char) :
    (∀ cs, likeMatch escapes ('%' :: (text ++ ['%'])) cs ↔ text <:+: cs) ↔ ∀ c ∈ text, isPlain escapes c := by
  constructor
  · intro contains
    have matched : likeMatch escapes ('%' :: (text ++ ['%'])) (shortest (wilds escapes (text ++ ['%']))) := by
      have all := wildMatch_shortest (wilds escapes ('%' :: (text ++ ['%'])))
      rw [wilds_cons (by simp)] at all
      rw [likeMatch, wilds_cons (by simp)]
      exact all
    have short := shortest_wilds escapes text
    exact short.2 ((contains _).mp matched |>.eq_of_length_le short.1).symm
  · intro plain
    exact likeMatch_plain plain

end XpBuilder.Sql
