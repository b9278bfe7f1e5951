import XpBuilder.Staging.Inference
import XpBuilder.Staging.Storage

/-! One column of a file that is uploaded in parts: the first part decides the type of
the column, each part is read by itself, and later parts are cast to the type that is
there. The cells are those of one upload for the parts that read like the whole. -/

namespace XpBuilder
open Sql (Cell)

namespace Staging
variable (S : Storage) (P : Reader)

/-- The type of the column that a replacing upload makes of cells of this kind. -/
def Kind.column : Kind → String
  | .int => "BIGINT"
  | .float => "DOUBLE"
  | .bool => "TINYINT(1)"
  | .flags => "LONGTEXT"
  | .object => "LONGTEXT"

/-- The cell that a replacing upload stores. -/
def replacedCell (k : Kind) (t : String) : Cell := S.hold P (Kind.column k) (P.value k t)

/-- A cell of a part of kind `k`, cast to the column of a first part of kind `k₀`. -/
def castCell (k₀ k : Kind) (texts : List String) (t : String) : Value :=
  match k₀ with
  | .flags => (P.value k t).blankText false
  | .object => (P.value k t).blankText false
  | _ => P.numericCell k texts t

/-- The cell that an appending upload stores for a text of the part. -/
def appendedCell (k₀ : Kind) (part : List String) (t : String) : Cell :=
  S.hold P (Kind.column k₀) (castCell P k₀ (P.infer part) part t)

/-- What a BIGINT column keeps of a numeral in this part: numerals among missing
cells and fractions arrive as floats. -/
def asWhole (part : List String) (t : String) : Cell :=
  if ∀ s ∈ part, P.isNa s = false ∧ P.isInt s then .number (clampBig (P.int t))
  else S.whole (P.float t)

/-- Parts of a column that are stored as the whole is: integers or truth words
throughout; numbers, where those of the first part are not whole, or all of them
are the same in a BIGINT column; or texts, where those of the first part are not
all numbers or truth words, and in the others no cell is missing and each is
printed as it was written. -/
def Transparent (first : List String) (later : List (List String)) : Prop :=
  later = [] ∨
    match P.infer (first ++ later.flatten) with
    | .int => True
    | .bool => True
    | .float => P.infer first = .float ∨ (P.infer first = .int ∧
        ∀ part ∈ first :: later, ∀ t ∈ part, P.isNa t = false →
          asWhole S P part t = S.double (P.float t))
    | .flags => False
    | .object => P.infer first = .object ∧
        ∀ part ∈ later, ∀ t ∈ part, P.isNa t = false ∧ (P.value (P.infer part) t).str = t

theorem transparent_of_object {S : Storage} {P : Reader} {first : List String}
    {later : List (List String)} (whole : P.infer (first ++ later.flatten) = .object)
    (start : P.infer first = .object)
    (printed : ∀ part ∈ later, ∀ t ∈ part, P.isNa t = false ∧ (P.value (P.infer part) t).str = t) :
    Transparent S P first later := by
  right
  rw [whole]
  exact ⟨start, printed⟩

@[simp] theorem hold_bigint (v : Value) : S.hold P "BIGINT" v = S.holdBig v := by
  have other : isTextType "BIGINT" = false := by decide
  exact (if_neg (by simp [other])).trans (if_pos rfl)

@[simp] theorem hold_double (v : Value) : S.hold P "DOUBLE" v = S.holdDouble P v := by
  have other : isTextType "DOUBLE" = false := by decide
  exact (if_neg (by simp [other])).trans ((if_neg (by decide)).trans (if_pos rfl))

@[simp] theorem hold_longtext (v : Value) : S.hold P "LONGTEXT" v = S.holdText v := by
  have text : isTextType "LONGTEXT" = true := by decide
  exact if_pos text

@[simp] theorem hold_flag (b : Bool) : S.hold P "TINYINT(1)" (.bool b) = .number (Storage.flag b) := by
  have other : isTextType "TINYINT(1)" = false := by decide
  exact (if_neg (by simp [other])).trans ((if_neg (by decide)).trans ((if_neg (by decide)).trans (if_pos rfl)))

@[simp] theorem replacedCell_int (t : String) :
    replacedCell S P .int t = .number (clampBig (P.int t)) := by
  simp [replacedCell, Kind.column, Reader.value, Storage.holdBig]

@[simp] theorem replacedCell_float (t : String) :
    replacedCell S P .float t = if P.isNa t then .null else S.double (P.float t) := by
  simp only [replacedCell, Kind.column, Reader.value, hold_double]
  split
  · rfl
  · rfl

@[simp] theorem replacedCell_bool (t : String) :
    replacedCell S P .bool t = .number (Storage.flag (t ∈ trueWords)) := by
  simp [replacedCell, Kind.column, Reader.value]

@[simp] theorem replacedCell_flags (t : String) : replacedCell S P .flags t =
    if P.isNa t then .null else .text (toString (Storage.flag (t ∈ trueWords))) := by
  simp only [replacedCell, Kind.column, Reader.value, hold_longtext]
  split
  · rfl
  · rfl

@[simp] theorem replacedCell_object (t : String) :
    replacedCell S P .object t = if P.isNa t then .null else .text t := by
  simp only [replacedCell, Kind.column, Reader.value, hold_longtext]
  split
  · rfl
  · rfl

theorem holdDouble_ne_text (v : Value) (s : String) : S.holdDouble P v ≠ .text s := by
  cases v with
  | int z => exact S.double_ne_text _ s
  | float r => exact S.double_ne_text _ s
  | _ => simp [Storage.holdDouble]

theorem flag_ne_word {t : String} (h : isBoolWord t) (b : Bool) : toString (Storage.flag b) ≠ t := by
  intro same
  subst same
  cases b
  · exact absurd h (by decide)
  · exact absurd h (by decide)

/-- In a column of texts a later cell becomes what `str` prints. -/
theorem appendedCell_text {k₀ : Kind} (text : k₀ = .flags ∨ k₀ = .object) (part : List String)
    (t : String) : appendedCell S P k₀ part t =
      .text (if P.value (P.infer part) t = .missing then "" else (P.value (P.infer part) t).str) := by
  have same : appendedCell S P k₀ part t =
      S.holdText ((P.value (P.infer part) t).blankText false) := by
    obtain rfl | rfl := text
    · simp [appendedCell, Kind.column, castCell]
    · simp [appendedCell, Kind.column, castCell]
  rw [same]
  simp only [Value.blankText, Bool.false_eq_true, if_false]
  split
  · rfl
  · rfl

theorem appendedCell_double {part : List String}
    (floats : ∀ t ∈ part, P.isNa t = false → P.isFloat t) {t : String} (mem : t ∈ part) :
    appendedCell S P .float part t = replacedCell S P .float t := by
  simp only [appendedCell, Kind.column, castCell, P.numericCell_of_isFloat floats mem, hold_double,
    replacedCell_float]
  split_ifs with all missing missing
  · simp [(all t mem).1] at missing
  · simp only [Storage.holdDouble]
    rw [(P.float_of_int t (all t mem).2).2]
  · rfl
  · rfl

theorem appendedCell_bigint {part : List String}
    (floats : ∀ t ∈ part, P.isNa t = false → P.isFloat t) {t : String} (mem : t ∈ part) :
    appendedCell S P .int part t = if P.isNa t then .null else asWhole S P part t := by
  simp only [appendedCell, Kind.column, castCell, P.numericCell_of_isFloat floats mem, hold_bigint,
    asWhole]
  split_ifs with all missing missing
  · simp [(all t mem).1] at missing
  · rfl
  · rfl
  · rfl

theorem infer_int_of_subset {whole part : List String} (h : P.infer whole = .int)
    (inside : part ⊆ whole) (nonempty : part ≠ []) : P.infer part = .int :=
  (P.infer_eq_int_iff part).mpr
    ⟨nonempty, fun t mem => ((P.infer_eq_int_iff whole).mp h).2 t (inside mem)⟩

theorem infer_bool_of_subset {whole part : List String} (h : P.infer whole = .bool)
    (inside : part ⊆ whole) (nonempty : part ≠ []) : P.infer part = .bool :=
  (P.infer_eq_bool_iff part).mpr
    ⟨nonempty, fun t mem => ((P.infer_eq_bool_iff whole).mp h).2 t (inside mem)⟩

theorem value_eq_missing {k : Kind} {t : String} (h : P.value k t = .missing) : P.isNa t := by
  unfold Reader.value at h
  cases k <;> simp_all

/-- The column is stored by parts as it is as a whole. -/
def SameCells (first : List String) (later : List (List String)) : Prop :=
  (∀ t ∈ first, replacedCell S P (P.infer first) t =
    replacedCell S P (P.infer (first ++ later.flatten)) t) ∧
  ∀ part ∈ later, ∀ t ∈ part, appendedCell S P (P.infer first) part t =
    replacedCell S P (P.infer (first ++ later.flatten)) t

section Column
variable {S P} {first : List String} {later : List (List String)}

theorem part_subset {part : List String} (mem : part ∈ later) : part ⊆ first ++ later.flatten :=
  fun _ inside => List.mem_append_right first (List.mem_flatten_of_mem mem inside)

theorem sameCells_of_int (nonempty : first ≠ []) (parts : ∀ part ∈ later, part ≠ [])
    (kind : P.infer (first ++ later.flatten) = .int) : SameCells S P first later := by
  have start := infer_int_of_subset P kind (List.subset_append_left first _) nonempty
  refine ⟨fun t _ => by rw [start, kind], fun part mem t inside => ?_⟩
  have each := ((P.infer_eq_int_iff part).mp
    (infer_int_of_subset P kind (part_subset mem) (parts part mem))).2
  have whole : ∀ s ∈ part, P.isNa s = false ∧ P.isInt s :=
    fun s there => ⟨(each s there).1, (each s there).2.1⟩
  rw [start, kind, appendedCell_bigint S P (fun s there _ => P.isFloat_of_isInt (whole s there).2)
    inside, replacedCell_int, asWhole, if_pos whole]
  simp [(whole t inside).1]

theorem sameCells_of_bool (nonempty : first ≠ []) (parts : ∀ part ∈ later, part ≠ [])
    (kind : P.infer (first ++ later.flatten) = .bool) : SameCells S P first later := by
  have start := infer_bool_of_subset P kind (List.subset_append_left first _) nonempty
  refine ⟨fun t _ => by rw [start, kind], fun part mem t _ => ?_⟩
  have read := infer_bool_of_subset P kind (part_subset mem) (parts part mem)
  rw [start, kind, replacedCell_bool, appendedCell, read]
  simp [Kind.column, castCell, Reader.numericCell, Kind.dtype, Reader.value]

/-- A column of numbers: the first part decides whether they are kept whole. -/
theorem sameCells_float_iff (kind : P.infer (first ++ later.flatten) = .float) :
    SameCells S P first later ↔ P.infer first = .float ∨ (P.infer first = .int ∧
      ∀ part ∈ first :: later, ∀ t ∈ part, P.isNa t = false →
        asWhole S P part t = S.double (P.float t)) := by
  have floats := P.isFloat_of_infer_eq_float kind
  have inFirst : ∀ t ∈ first, P.isNa t = false → P.isFloat t :=
    fun t mem => floats t (List.mem_append_left _ mem)
  have inPart : ∀ part ∈ later, ∀ t ∈ part, P.isNa t = false → P.isFloat t :=
    fun part mem t inside => floats t (part_subset mem inside)
  have kept : ∀ (part : List String) t, ((if P.isNa t then Cell.null else asWhole S P part t) =
      replacedCell S P .float t ↔ (P.isNa t = false → asWhole S P part t = S.double (P.float t))) := by
    intro part t
    rw [replacedCell_float]
    cases P.isNa t <;> simp
  unfold SameCells
  rw [kind]
  obtain start | start | ⟨start, -⟩ := P.infer_of_isFloat inFirst
  · -- a BIGINT column
    have each := ((P.infer_eq_int_iff first).mp start).2
    have whole : ∀ s ∈ first, P.isNa s = false ∧ P.isInt s :=
      fun s there => ⟨(each s there).1, (each s there).2.1⟩
    have own : ∀ t ∈ first, replacedCell S P .int t =
        if P.isNa t then Cell.null else asWhole S P first t := by
      intro t mem
      rw [replacedCell_int, asWhole, if_pos whole]
      simp [(whole t mem).1]
    simp only [start, reduceCtorEq, false_or, true_and, List.forall_mem_cons]
    apply and_congr
    · apply forall₂_congr
      intro t mem
      rw [own t mem, kept]
    · apply forall₂_congr
      intro part mem
      apply forall₂_congr
      intro t inside
      rw [appendedCell_bigint S P (inPart part mem) inside, kept]
  · -- a DOUBLE column
    rw [start]
    refine iff_of_true ⟨fun t _ => rfl, fun part mem t inside => ?_⟩ (.inl rfl)
    exact appendedCell_double S P (inPart part mem) inside
  · -- integers past 64 bits, kept as texts
    have other : P.infer first ≠ .float := by simp [start]
    obtain ⟨t, mem, present⟩ := P.exists_present_of_infer other
    rw [start]
    refine iff_of_false ?_ (by simp)
    rintro ⟨cells, -⟩
    have clash := cells t mem
    simp only [replacedCell_object, replacedCell_float, present, Bool.false_eq_true, if_false] at clash
    exact S.double_ne_text _ _ clash.symm

/-- Numbers of the first part are no texts of the whole. -/
theorem not_sameCells_of_number (nonempty : first ≠ []) (start : P.infer first = .int ∨ P.infer first = .bool)
    {word : String → String} (text : ∀ t, P.isNa t = false →
      replacedCell S P (P.infer (first ++ later.flatten)) t = .text (word t)) : ¬SameCells S P first later := by
  rintro ⟨cells, -⟩
  obtain ⟨t, mem⟩ := List.exists_mem_of_ne_nil first nonempty
  have clash := cells t mem
  cases start with
  | inl int =>
    have present := (((P.infer_eq_int_iff first).mp int).2 t mem).1
    simp [int, text t present] at clash
  | inr bool =>
    have present := (((P.infer_eq_bool_iff first).mp bool).2 t mem).1
    simp [bool, text t present] at clash

/-- No cell of a DOUBLE column is a text. -/
theorem not_sameCells_of_text (start : P.infer first = .float) {u s : String}
    (mem : u ∈ first ++ later.flatten) (present : P.isNa u = false)
    (text : replacedCell S P (P.infer (first ++ later.flatten)) u = .text s) :
    ¬SameCells S P first later := by
  rintro ⟨cells, others⟩
  rw [List.mem_append, List.mem_flatten] at mem
  obtain inFirst | ⟨part, there, inside⟩ := mem
  · have clash := cells u inFirst
    rw [start, text, replacedCell_float, present] at clash
    exact S.double_ne_text _ _ clash
  · have clash := others part there u inside
    rw [start, text] at clash
    simp only [appendedCell, Kind.column, hold_double] at clash
    exact holdDouble_ne_text S P _ _ clash

/-- A column of truth words with missing cells: no two parts are stored as one. -/
theorem not_sameCells_of_flags (nonempty : first ≠ []) (parts : ∀ part ∈ later, part ≠ [])
    (more : later ≠ []) (kind : P.infer (first ++ later.flatten) = .flags) :
    ¬SameCells S P first later := by
  have words := P.isBoolWord_of_infer_eq_flags kind
  have text : ∀ t, P.isNa t = false → replacedCell S P (P.infer (first ++ later.flatten)) t =
      .text (toString (Storage.flag (t ∈ trueWords))) := by
    intro t present
    simp [kind, present]
  obtain ⟨start, -⟩ | start | start := P.infer_of_isBoolWord
    (fun t mem => words t (List.mem_append_left _ mem))
  · have other : P.infer (first ++ later.flatten) ≠ .float := by simp [kind]
    obtain ⟨u, mem, present⟩ := P.exists_present_of_infer other
    exact not_sameCells_of_text start mem present (text u present)
  · exact not_sameCells_of_number nonempty (.inr start) text
  · rintro ⟨-, others⟩
    obtain ⟨part, there⟩ := List.exists_mem_of_ne_nil later more
    have appended := fun t => appendedCell_text S P (.inl rfl) part t
    rw [start] at others
    obtain ⟨-, missing⟩ | read | read := P.infer_of_isBoolWord
      (fun t mem => words t (part_subset there mem))
    · obtain ⟨t, inside⟩ := List.exists_mem_of_ne_nil part (parts part there)
      have clash := others part there t inside
      simp [appended, kind, missing t inside] at clash
    · obtain ⟨t, inside⟩ := List.exists_mem_of_ne_nil part (parts part there)
      have present := (((P.infer_eq_bool_iff part).mp read).2 t inside).1
      have clash := others part there t inside
      rw [appended, text t present, read] at clash
      cases h : decide (t ∈ trueWords) <;> simp [Reader.value, Value.str, h] at clash <;>
        exact absurd clash (by decide)
    · obtain ⟨t, inside, missing⟩ := P.exists_isNa_of_infer_eq_flags read
      have clash := others part there t inside
      simp [appended, kind, missing] at clash

theorem appendedCell_eq_text_iff {part : List String} {t : String} :
    appendedCell S P .object part t = replacedCell S P .object t ↔
      P.isNa t = false ∧ (P.value (P.infer part) t).str = t := by
  rw [appendedCell_text S P (.inr rfl), replacedCell_object]
  cases missing : P.isNa t with
  | true => simp
  | false =>
    have there : P.value (P.infer part) t ≠ .missing := by
      intro none
      simp [value_eq_missing P none] at missing
    simp [there]

/-- A column of texts: the first part shows that it is one, and the others print. -/
theorem sameCells_object_iff (nonempty : first ≠ [])
    (kind : P.infer (first ++ later.flatten) = .object) :
    SameCells S P first later ↔ P.infer first = .object ∧
      ∀ part ∈ later, ∀ t ∈ part, P.isNa t = false ∧ (P.value (P.infer part) t).str = t := by
  have text : ∀ t, P.isNa t = false →
      replacedCell S P (P.infer (first ++ later.flatten)) t = .text t := by
    intro t present
    simp [kind, present]
  cases start : P.infer first with
  | object =>
    unfold SameCells
    simp only [start, kind, implies_true, true_and, appendedCell_eq_text_iff]
  | float =>
    have other : P.infer (first ++ later.flatten) ≠ .float := by simp [kind]
    obtain ⟨u, mem, present⟩ := P.exists_present_of_infer other
    exact iff_of_false (not_sameCells_of_text start mem present (text u present)) (by simp)
  | int =>
    exact iff_of_false (not_sameCells_of_number nonempty (.inl start) text) (by simp)
  | bool =>
    exact iff_of_false (not_sameCells_of_number nonempty (.inr start) text) (by simp)
  | flags =>
    refine iff_of_false ?_ (by simp)
    rintro ⟨cells, -⟩
    have other : P.infer first ≠ .float := by simp [start]
    obtain ⟨t, mem, present⟩ := P.exists_present_of_infer other
    have word := P.isBoolWord_of_infer_eq_flags start t mem present
    have clash := cells t mem
    rw [start, text t present, replacedCell_flags, present] at clash
    exact flag_ne_word word _ (Cell.text.inj clash)

/-- Parts of a column are stored as the whole exactly when they are transparent. -/
theorem sameCells_iff_transparent (nonempty : first ≠ []) (parts : ∀ part ∈ later, part ≠ []) :
    SameCells S P first later ↔ Transparent S P first later := by
  by_cases single : later = []
  · subst single
    refine iff_of_true ?_ (.inl rfl)
    unfold SameCells
    simp
  · simp only [Transparent, single, false_or]
    cases kind : P.infer (first ++ later.flatten) with
    | int => exact iff_of_true (sameCells_of_int nonempty parts kind) trivial
    | bool => exact iff_of_true (sameCells_of_bool nonempty parts kind) trivial
    | float => exact sameCells_float_iff kind
    | flags => exact iff_of_false (not_sameCells_of_flags nonempty parts single kind) id
    | object => exact sameCells_object_iff nonempty kind

end Column

end Staging
end XpBuilder
