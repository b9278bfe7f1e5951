import XpBuilder.Staging.Chunks

/-! The headers of an upload as identifiers. Stems have no underscore at the end, so names
with one stem are told apart by how many underscores follow it: the later ones are longer. -/

namespace XpBuilder.Staging
open PythonText

/-! ## Stems and underscores -/

theorem columnStem_getLast (name : String) : (columnStem name).toList.getLast? ≠ some '_' := by
  intro last
  rw [columnStem, String.toList_ofList, stripTrailing, List.getLast?_reverse] at last
  have kept := head?_dropWhile (p := fun c => c = '_') last
  exact absurd kept (by decide)

/-- A stem and its underscores are read off the name. -/
theorem padded_columnStem_inj {m n : String} {j k : Nat}
    (same : padded (columnStem m) j = padded (columnStem n) k) : columnStem m = columnStem n ∧ j = k := by
  have chars := congrArg (fun s => s.toList.reverse) same
  simp only [padded_toList, List.reverse_append, List.reverse_replicate] at chars
  have stem : ∀ (name : String) (i : Nat),
      (List.replicate i '_' ++ (columnStem name).toList.reverse).dropWhile (· = '_') =
        (columnStem name).toList.reverse := by
    intro name i
    have plain : (columnStem name).toList.reverse.dropWhile (· = '_') = (columnStem name).toList.reverse := by
      apply dropWhile_eq_self
      intro c first
      rw [List.head?_reverse] at first
      rw [decide_eq_false_iff_not]
      rintro rfl
      exact columnStem_getLast name first
    rw [List.dropWhile_append_of_pos, plain]
    intro c mem
    rw [List.eq_of_mem_replicate mem]
    rfl
  have stems : columnStem m = columnStem n := by
    apply String.toList_injective
    apply List.reverse_injective
    rw [← stem m j, chars, stem n k]
  rw [stems] at same
  exact ⟨stems, padded_injective _ same⟩

/-! ## The names that are taken -/

/-- The names taken by earlier headers: each stem with fewer underscores than it occurs. -/
def Numbered (earlier existing : List String) : Prop :=
  ∀ name j, padded (columnStem name) j ∈ existing ↔ j < (earlier.map columnStem).count (columnStem name)

theorem numbered_nil : Numbered [] [] := by
  intro name j
  simp

theorem normalizeColumnName_numbered {earlier existing : List String} (numbered : Numbered earlier existing)
    (name : String) : normalizeColumnName name existing =
      padded (columnStem name) ((earlier.map columnStem).count (columnStem name)) := by
  obtain ⟨k, result, fresh, before⟩ := normalizeColumnName_eq name existing
  have least : k = (earlier.map columnStem).count (columnStem name) := by
    rw [numbered name k] at fresh
    by_contra other
    have taken := before ((earlier.map columnStem).count (columnStem name)) (by omega)
    rw [numbered name] at taken
    omega
  rw [result, least]

theorem Numbered.cons {earlier existing : List String} (numbered : Numbered earlier existing) (name : String) :
    Numbered (name :: earlier) (normalizeColumnName name existing :: existing) := by
  intro other j
  rw [normalizeColumnName_numbered numbered, List.mem_cons, numbered other j, List.map_cons, List.count_cons]
  by_cases same : columnStem name = columnStem other
  · have first : padded (columnStem other) j =
        padded (columnStem name) ((earlier.map columnStem).count (columnStem name)) ↔
          j = (earlier.map columnStem).count (columnStem other) := by
      rw [same]
      exact (padded_injective _).eq_iff
    rw [first, if_pos (beq_iff_eq.mpr same)]
    omega
  · have first : padded (columnStem other) j ≠
        padded (columnStem name) ((earlier.map columnStem).count (columnStem name)) := by
      intro equal
      exact same (padded_columnStem_inj equal).1.symm
    rw [if_neg (by simpa using same)]
    simp [first]

theorem normalizeColumns_numbered {earlier existing : List String} (numbered : Numbered earlier existing)
    (header : List String) :
    Numbered (header.reverse ++ earlier) ((normalizeColumns existing header).reverse ++ existing) := by
  induction header generalizing earlier existing with
  | nil => simpa [normalizeColumns] using numbered
  | cons name rest ih =>
    have later := ih (numbered.cons name)
    simpa [normalizeColumns] using later

/-- The names of a header are its stems, each with fewer underscores than it occurs. -/
theorem mem_normalizeColumns_iff {header : List String} {name : String} {j : Nat} :
    padded (columnStem name) j ∈ normalizeColumns [] header ↔
      j < (header.map columnStem).count (columnStem name) := by
  have all := normalizeColumns_numbered numbered_nil header name j
  simpa using all

theorem stem_of_mem {existing header : List String} {n : String} (mem : n ∈ normalizeColumns existing header) :
    ∃ name ∈ header, ∃ j, n = padded (columnStem name) j := by
  induction header generalizing existing with
  | nil => cases mem
  | cons name rest ih =>
    rw [normalizeColumns, List.mem_cons] at mem
    cases mem with
    | inl first =>
      obtain ⟨k, result, -⟩ := normalizeColumnName_eq name existing
      exact ⟨name, List.mem_cons_self, k, first.trans result⟩
    | inr later =>
      obtain ⟨other, there, shape⟩ := ih later
      exact ⟨other, List.mem_cons_of_mem name there, shape⟩

/-! ## Identifiers -/

/-- `^[a-z][a-z0-9_]*$` -/
def IsIdentifier (n : String) : Prop := ∃ c rest, n.toList = c :: rest ∧ TableSchema.isLower c ∧ ∀ d ∈ rest, isNameChar d

/-- The longest name of a column that MySQL takes. -/
def maxIdentifier : Nat := 64

theorem isIdentifier_of_mem {existing header : List String} {n : String}
    (mem : n ∈ normalizeColumns existing header) : IsIdentifier n := by
  have name := normalizeColumns_isName existing header n mem
  obtain ⟨stem, -, j, rfl⟩ := stem_of_mem mem
  obtain ⟨c, rest, shape, letter⟩ := (startsWithLetter_iff _).mp (columnStem_startsWithLetter stem)
  have whole : (padded (columnStem stem) j).toList = c :: (rest ++ List.replicate j '_') := by
    rw [padded_toList, shape, List.cons_append]
  have chars : ∀ d ∈ c :: (rest ++ List.replicate j '_'), isNameChar d := by
    rw [← whole]
    exact name
  refine ⟨c, rest ++ List.replicate j '_', whole, ?_, fun d later => chars d (List.mem_cons_of_mem c later)⟩
  have lowerCase := chars c List.mem_cons_self
  rw [isNameChar, Bool.and_eq_true] at lowerCase
  simp only [isAsciiAlpha, Bool.or_eq_true] at letter
  cases letter with
  | inl small => exact small
  | inr big => simp [big] at lowerCase

/-- The names that a header gives are distinct identifiers that the database takes. -/
structure Usable (header names : List String) : Prop where
  length : names.length = header.length
  distinct : names.Nodup
  identifiers : ∀ n ∈ names, IsIdentifier n
  short : ∀ n ∈ names, n.length ≤ maxIdentifier

/-- The names are usable exactly where every stem leaves room for its underscores. -/
theorem usable_iff (header : List String) : Usable header (normalizeColumns [] header) ↔
    ∀ name ∈ header, (columnStem name).length + (header.map columnStem).count (columnStem name) ≤ maxIdentifier + 1 := by
  have width : ∀ name j, (padded (columnStem name) j).length = (columnStem name).length + j := by
    intro name j
    rw [← String.length_toList, ← String.length_toList, padded_toList, List.length_append, List.length_replicate]
  constructor
  · intro usable name mem
    have occurs : 0 < (header.map columnStem).count (columnStem name) :=
      List.count_pos_iff.mpr (List.mem_map_of_mem mem)
    have last := usable.short _ (mem_normalizeColumns_iff.mpr
      (show (header.map columnStem).count (columnStem name) - 1 <
        (header.map columnStem).count (columnStem name) by omega))
    rw [width] at last
    omega
  · intro room
    refine ⟨normalizeColumns_length [] header, (normalizeColumns_fresh [] header).1,
      fun n mem => isIdentifier_of_mem mem, ?_⟩
    intro n mem
    obtain ⟨name, there, j, rfl⟩ := stem_of_mem mem
    have fewer := mem_normalizeColumns_iff.mp mem
    have enough := room name there
    rw [width]
    omega

/-- Six headers that agree in their first 60 characters. -/
theorem longHeaders_not_usable :
    let header := List.replicate 6 (String.ofList (List.replicate 60 'a'))
    ¬Usable header (normalizeColumns [] header) := by
  intro header usable
  have last : padded (columnStem (String.ofList (List.replicate 60 'a'))) 5 ∈ normalizeColumns [] header := by
    rw [mem_normalizeColumns_iff, List.map_replicate, List.count_replicate_self]
    decide
  have long : maxIdentifier < (padded (columnStem (String.ofList (List.replicate 60 'a'))) 5).length := by
    decide +kernel
  exact Nat.not_le.mpr long (usable.short _ last)

end XpBuilder.Staging
