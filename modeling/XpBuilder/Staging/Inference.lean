import XpBuilder.Staging.Reader

/-! What the kind that `read_csv` infers for a column says about its cells, and the
values that a cast leaves of them. A part of a column can read as another kind than
the whole. -/

namespace XpBuilder

namespace Reader
variable (P : Reader)

/-! ## Inferred kinds -/

theorem infer_eq (texts : List String) : P.infer texts =
    if ∀ t ∈ texts, P.isNa t then .float
    else if ∀ t ∈ texts, P.isNa t = false → P.isInt t then
      if ∀ t ∈ texts, P.isNa t = false → int64 (P.int t) then
        if ∀ t ∈ texts, P.isNa t = false then .int else .float
      else .object
    else if ∀ t ∈ texts, P.isNa t = false → P.isFloat t then .float
    else if ∀ t ∈ texts, P.isNa t = false → isBoolWord t then
      if ∀ t ∈ texts, P.isNa t = false then .bool else .flags
    else .object := by
  have none : texts.filter (fun t => !P.isNa t) = [] ↔ ∀ t ∈ texts, P.isNa t := by
    simp [List.filter_eq_nil_iff]
  have whole : (texts.filter (fun t => !P.isNa t)).length = texts.length ↔
      ∀ t ∈ texts, P.isNa t = false := by
    simp [List.length_filter_eq_length_iff]
  have every : ∀ q : String → Bool, (texts.filter (fun t => !P.isNa t)).all q ↔
      ∀ t ∈ texts, P.isNa t = false → q t := by
    intro q
    simp [List.all_filter, Bool.or_eq_true, or_iff_not_imp_left]
  unfold infer
  simp only [none, whole, every, decide_eq_true_eq]

theorem infer_eq_int_iff (texts : List String) : P.infer texts = .int ↔
    texts ≠ [] ∧ ∀ t ∈ texts, P.isNa t = false ∧ P.isInt t ∧ int64 (P.int t) := by
  rw [infer_eq]
  constructor
  · intro kind
    split_ifs at kind with none ints ranges whole
    refine ⟨?_, fun t mem => ⟨whole t mem, ints t mem (whole t mem), ranges t mem (whole t mem)⟩⟩
    rintro rfl
    exact none (by simp)
  · rintro ⟨nonempty, each⟩
    have some_present : ¬∀ t ∈ texts, P.isNa t := by
      intro all
      obtain ⟨t, mem⟩ := List.exists_mem_of_ne_nil texts nonempty
      exact absurd (all t mem) (by simp [(each t mem).1])
    rw [if_neg some_present, if_pos (fun t mem _ => (each t mem).2.1),
      if_pos (fun t mem _ => (each t mem).2.2), if_pos (fun t mem => (each t mem).1)]

theorem isFloat_of_isInt {t : String} (h : P.isInt t) : P.isFloat t := (P.float_of_int t h).1

theorem infer_eq_bool_iff (texts : List String) : P.infer texts = .bool ↔
    texts ≠ [] ∧ ∀ t ∈ texts, P.isNa t = false ∧ isBoolWord t := by
  rw [infer_eq]
  constructor
  · intro kind
    split_ifs at kind with none ints ranges whole floats words whole
    refine ⟨?_, fun t mem => ⟨whole t mem, words t mem (whole t mem)⟩⟩
    rintro rfl
    exact none (by simp)
  · rintro ⟨nonempty, each⟩
    obtain ⟨t, mem⟩ := List.exists_mem_of_ne_nil texts nonempty
    have no_float := P.word_of_bool t (each t mem).2
    have present := (each t mem).1
    have no_int : ¬P.isInt t := fun h => by simp [P.isFloat_of_isInt h] at no_float
    rw [if_neg (fun all => by simp [all t mem] at present),
      if_neg (fun all => no_int (all t mem present)),
      if_neg (fun all => by simp [all t mem present] at no_float),
      if_pos (fun t mem _ => (each t mem).2), if_pos (fun t mem => (each t mem).1)]

theorem isFloat_of_infer_eq_float {texts : List String} (h : P.infer texts = .float) :
    ∀ t ∈ texts, P.isNa t = false → P.isFloat t := by
  intro t mem present
  rw [infer_eq] at h
  split_ifs at h with none ints ranges whole floats
  · simp [none t mem] at present
  · exact P.isFloat_of_isInt (ints t mem present)
  · exact floats t mem present

theorem infer_of_all_isNa {texts : List String} (h : ∀ t ∈ texts, P.isNa t) :
    P.infer texts = .float := by
  rw [infer_eq, if_pos h]

/-- Cells that all read as floats give a column of numbers, but for integers past 64 bits. -/
theorem infer_of_isFloat {texts : List String}
    (h : ∀ t ∈ texts, P.isNa t = false → P.isFloat t) :
    P.infer texts = .int ∨ P.infer texts = .float ∨
      P.infer texts = .object ∧ ∀ t ∈ texts, P.isNa t = false → P.isInt t := by
  rw [infer_eq]
  split_ifs with none ints ranges whole
  · exact .inr (.inl rfl)
  · exact .inl rfl
  · exact .inr (.inl rfl)
  · exact .inr (.inr ⟨rfl, ints⟩)
  · exact .inr (.inl rfl)

theorem exists_present_of_infer {texts : List String} (h : P.infer texts ≠ .float) :
    ∃ t ∈ texts, P.isNa t = false := by
  by_contra none
  refine h (P.infer_of_all_isNa ?_)
  intro t mem
  by_contra present
  exact none ⟨t, mem, by simpa using present⟩

theorem isBoolWord_of_infer_eq_flags {texts : List String} (h : P.infer texts = .flags) :
    ∀ t ∈ texts, P.isNa t = false → isBoolWord t := by
  rw [infer_eq] at h
  split_ifs at h with none ints ranges whole floats words
  exact words

theorem exists_isNa_of_infer_eq_flags {texts : List String} (h : P.infer texts = .flags) :
    ∃ t ∈ texts, P.isNa t := by
  rw [infer_eq] at h
  split_ifs at h with none ints ranges whole floats words whole
  simpa using whole

/-- Truth words and missing cells, some of each or not, read as one of three kinds. -/
theorem infer_of_isBoolWord {texts : List String}
    (h : ∀ t ∈ texts, P.isNa t = false → isBoolWord t) :
    P.infer texts = .float ∧ (∀ t ∈ texts, P.isNa t) ∨ P.infer texts = .bool ∨
      P.infer texts = .flags := by
  have no_float : ∀ t ∈ texts, P.isNa t = false → P.isFloat t = false :=
    fun t mem present => P.word_of_bool t (h t mem present)
  by_cases none : ∀ t ∈ texts, P.isNa t
  · exact .inl ⟨P.infer_of_all_isNa none, none⟩
  · have there : ∃ t ∈ texts, P.isNa t = false := by simpa using none
    obtain ⟨t, mem, present⟩ := there
    have word := no_float t mem present
    rw [infer_eq, if_neg none,
      if_neg (fun all => by simp [P.isFloat_of_isInt (all t mem present)] at word),
      if_neg (fun all => by simp [all t mem present] at word), if_pos h]
    split_ifs
    · exact .inr (.inl rfl)
    · exact .inr (.inr rfl)

/-! ## Casts to numbers -/

/-- What `to_numeric` makes of one cell of a column of this kind. -/
def numericCell (k : Kind) (texts : List String) (t : String) : Value :=
  match k.dtype with
  | .object =>
    let v := P.numericValue (P.value k t)
    if texts.all (fun s => (P.numericValue (P.value k s)).isInt) then v else P.floatValue v
  | _ => P.value k t

theorem toNumeric_values (k : Kind) (texts : List String) :
    (P.toNumeric (P.series k texts)).values = texts.map (P.numericCell k texts) := by
  unfold toNumeric series numericCell
  cases k.dtype with
  | object =>
    simp only [List.map_map, List.all_map, Function.comp_def]
    split_ifs with ints
    · rfl
    · rfl
  | _ => rfl

theorem not_all_isInt_of_infer_eq_float {texts : List String} (nonempty : texts ≠ [])
    (h : P.infer texts = .float) : ¬∀ t ∈ texts, P.isNa t = false ∧ P.isInt t := by
  intro each
  obtain ⟨t, mem⟩ := List.exists_mem_of_ne_nil texts nonempty
  rw [infer_eq, if_neg (fun all => by simpa [(each t mem).1] using all t mem),
    if_pos (fun t mem _ => (each t mem).2), if_pos (fun t mem => (each t mem).1)] at h
  split_ifs at h

/-- Among cells that read as floats, integers stay integers when there is nothing else. -/
theorem numericCell_of_isFloat {texts : List String}
    (h : ∀ t ∈ texts, P.isNa t = false → P.isFloat t) {t : String} (mem : t ∈ texts) :
    P.numericCell (P.infer texts) texts t =
      if ∀ s ∈ texts, P.isNa s = false ∧ P.isInt s then .int (P.int t)
      else if P.isNa t then .missing else .float (P.float t) := by
  obtain kind | kind | ⟨kind, ints⟩ := P.infer_of_isFloat h
  · have each := ((P.infer_eq_int_iff texts).mp kind).2
    rw [if_pos (fun s inside => ⟨(each s inside).1, (each s inside).2.1⟩), kind]
    rfl
  · have nonempty : texts ≠ [] := List.ne_nil_of_mem mem
    rw [if_neg (P.not_all_isInt_of_infer_eq_float nonempty kind), kind]
    rfl
  · have read : ∀ s ∈ texts, P.numericValue (P.value .object s) =
        if P.isNa s then .missing else .int (P.int s) := by
      intro s inside
      cases present : P.isNa s with
      | true => simp [value, present, numericValue]
      | false => simp [value, present, numericValue, P.numeral_of_int s (ints s inside present)]
    have same : texts.all (fun s => (P.numericValue (P.value .object s)).isInt) ↔
        ∀ s ∈ texts, P.isNa s = false ∧ P.isInt s := by
      simp only [List.all_eq_true]
      apply forall₂_congr
      intro s inside
      rw [read s inside]
      cases present : P.isNa s with
      | true => simp [Value.isInt]
      | false => simp [Value.isInt, ints s inside present]
    rw [kind]
    simp only [numericCell, Kind.dtype, same, read t mem]
    split_ifs with all missing missing
    · simp [(all t mem).1] at missing
    · rfl
    · rfl
    · have present : P.isNa t = false := by simpa using missing
      simp only [floatValue]
      rw [(P.float_of_int t (ints t mem present)).2]

end Reader
end XpBuilder
