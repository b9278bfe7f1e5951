import Mathlib.Data.List.TakeWhile
import XpBuilder.Staging.Chunks

/-! What becomes of the texts of a CSV part that is appended to columns of text. The
part is read with inferred types first, and the values are printed again: a text
survives when it prints as it was written. -/

namespace XpBuilder
open Sql (Cell)
open PythonText (lower upper strip)

namespace Staging

/-! ## Text columns -/

/-- No name of a text type starts like a number or a time. -/
theorem text_prefixes_apart : ∀ p ∈ textPrefixes, ∀ q ∈ numericPrefixes ++ temporalPrefixes,
    p.toList.isPrefixOf q.toList = false ∧ q.toList.isPrefixOf p.toList = false := by
  decide

theorem startsWith_of_text {value : String} (text : startsWith value textPrefixes) {q : String}
    (mem : q ∈ numericPrefixes ++ temporalPrefixes) : q.toList.isPrefixOf value.toList = false := by
  obtain ⟨p, known, there⟩ := List.any_eq_true.mp text
  have apart := text_prefixes_apart p known q mem
  by_contra also
  have left := List.isPrefixOf_iff_prefix.mp there
  have right : q.toList <+: value.toList := by simpa using also
  obtain first | second := List.prefix_or_prefix_of_prefix left right
  · rw [List.isPrefixOf_iff_prefix.mpr first] at apart
    exact absurd apart.1 (by simp)
  · rw [List.isPrefixOf_iff_prefix.mpr second] at apart
    exact absurd apart.2 (by simp)

theorem alignSeries_text (P : Reader) (t : StagedTable) {column : String × String × Bool}
    (text : isTextType column.2.1) (s : Series) :
    alignSeries P t column s = s.blankText (t.keepsNull column) := by
  have textual : startsWith (upper column.2.1) textPrefixes = true := text
  have other : startsWith (upper column.2.1) numericPrefixes = false :=
    List.any_eq_false.mpr (fun q mem => by
      simp [startsWith_of_text textual (List.mem_append_left temporalPrefixes mem)])
  have undated : startsWith (upper column.2.1) temporalPrefixes = false :=
    List.any_eq_false.mpr (fun q mem => by
      simp [startsWith_of_text textual (List.mem_append_right numericPrefixes mem)])
  simp only [alignSeries, other, undated, textual, Bool.false_eq_true, if_false, if_true]

variable (S : Storage) (P : Reader)

/-- The cell that the text of a CSV cell should become. -/
def expectedCell (t : StagedTable) (column : String × String × Bool) (text : String) : Cell :=
  if text = "" then (if t.keepsNull column then .null else .text "") else .text text

/-- The column is found under the exact name the part has for it, and so cast. -/
def isAligned (column : String × String × Bool) : Bool := column.1 = lower column.1

/-- What a text column stores of a text in a part of this kind. -/
def storedText (t : StagedTable) (column : String × String × Bool) (k : Kind) (text : String) : Cell :=
  if isAligned column then S.holdText ((P.value k text).blankText (t.keepsNull column))
  else S.holdText (P.value k text)

/-- Texts that print as they were written: a missing cell is empty, and a column that
is not cast can hold it; a numeral is the one its value prints as, on the way to the
server or there; truth words are those of Python, and printed before they get there;
where blanks are taken for missing, a text has more than blanks. -/
def Verbatim (t : StagedTable) (column : String × String × Bool) (texts : List String) : Prop :=
  ∀ text ∈ texts,
    if P.isNa text then text = "" ∧ (isAligned column ∨ t.keepsNull column)
    else
      match P.infer texts with
      | .int => toString (P.int text) = text
      | .float => (if isAligned column ∧ t.keepsNull column = false then P.float text
          else S.print (P.float text)) = text
      | .bool => isAligned column ∧ t.keepsNull column = false ∧ (text = "True" ∨ text = "False")
      | .flags => isAligned column ∧ t.keepsNull column = false ∧ (text = "True" ∨ text = "False")
      | .object => isAligned column → t.keepsNull column → strip text ≠ ""

theorem verbatim_of_object {S : Storage} {P : Reader} {t : StagedTable}
    {column : String × String × Bool} {texts : List String} (kind : P.infer texts = .object)
    (each : ∀ text ∈ texts, if P.isNa text then text = "" ∧ (isAligned column ∨ t.keepsNull column)
      else isAligned column → t.keepsNull column → strip text ≠ "") :
    Verbatim S P t column texts := by
  unfold Verbatim
  rw [kind]
  exact each

section Cell
variable {S P} {t : StagedTable} {column : String × String × Bool} {k : Kind} {text : String}

theorem ne_empty_of_present (present : P.isNa text = false) : text ≠ "" := by
  rintro rfl
  rw [P.isNa_empty] at present
  cases present

theorem storedText_missing (missing : P.value k text = .missing) :
    storedText S P t column k text = expectedCell t column text ↔
      text = "" ∧ (isAligned column ∨ t.keepsNull column) := by
  unfold storedText expectedCell
  rw [missing]
  cases isAligned column <;> cases t.keepsNull column <;> by_cases empty : text = "" <;>
    simp [empty, Value.blankText, Storage.holdText]

/-- A value that is there is printed before it is sent, or by the server. -/
theorem storedText_present (there : P.value k text ≠ .missing) (present : P.isNa text = false) :
    storedText S P t column k text = expectedCell t column text ↔
      if isAligned column ∧ t.keepsNull column = false then (P.value k text).str = text
      else (isAligned column → strip (P.value k text).str ≠ "") ∧
        S.holdText (P.value k text) = .text text := by
  have nonempty := ne_empty_of_present present
  unfold storedText expectedCell
  rw [if_neg nonempty]
  cases aligned : isAligned column with
  | false => simp
  | true =>
    cases keeps : t.keepsNull column with
    | false => simp [Value.blankText, there, Storage.holdText]
    | true =>
      by_cases blank : strip (P.value k text).str = ""
      · simp [Value.blankText, blank, Storage.holdText]
      · simp [Value.blankText, there, blank]

variable {texts : List String}

theorem isNa_eq_false_of_bool (mem : text ∈ texts) (kind : P.infer texts = .bool) :
    P.isNa text = false ∧ isBoolWord text :=
  ((P.infer_eq_bool_iff texts).mp kind).2 text mem

theorem value_of_isNa (mem : text ∈ texts) (missing : P.isNa text) :
    P.value (P.infer texts) text = .missing := by
  cases kind : P.infer texts with
  | int => simp [(((P.infer_eq_int_iff texts).mp kind).2 text mem).1] at missing
  | bool => simp [(isNa_eq_false_of_bool mem kind).1] at missing
  | _ => simp [Reader.value, missing]

theorem value_of_present (present : P.isNa text = false) (k : Kind) :
    P.value k text ≠ .missing := by
  intro none
  simp [value_eq_missing P none] at present

theorem boolStr_eq_iff : (Value.bool (text ∈ trueWords)).str = text ↔ text = "True" ∨ text = "False" := by
  simp only [Value.str]
  constructor
  · intro same
    split at same
    · exact .inl same.symm
    · exact .inr same.symm
  · rintro (rfl | rfl)
    · decide
    · decide

theorem storedText_word (present : P.isNa text = false) (word : isBoolWord text)
    (value : P.value k text = .bool (text ∈ trueWords)) :
    storedText S P t column k text = expectedCell t column text ↔
      isAligned column ∧ t.keepsNull column = false ∧ (text = "True" ∨ text = "False") := by
  rw [storedText_present (value_of_present present k) present, value, boolStr_eq_iff, ← and_assoc]
  have printed : S.holdText (.bool (text ∈ trueWords)) ≠ .text text :=
    fun same => flag_ne_word word _ (Cell.text.inj same)
  split
  · rename_i cast
    simp [cast]
  · rename_i cast
    simp [cast, printed]

/-- One text of a part: whether its cell is the expected one, by the kind of the part. -/
theorem storedText_iff (mem : text ∈ texts) :
    storedText S P t column (P.infer texts) text = expectedCell t column text ↔
      if P.isNa text then text = "" ∧ (isAligned column ∨ t.keepsNull column)
      else
        match P.infer texts with
        | .int => toString (P.int text) = text
        | .float => (if isAligned column ∧ t.keepsNull column = false then P.float text
            else S.print (P.float text)) = text
        | .bool => isAligned column ∧ t.keepsNull column = false ∧ (text = "True" ∨ text = "False")
        | .flags => isAligned column ∧ t.keepsNull column = false ∧ (text = "True" ∨ text = "False")
        | .object => isAligned column → t.keepsNull column → strip text ≠ "" := by
  cases missing : P.isNa text with
  | true =>
    rw [if_pos rfl, storedText_missing (value_of_isNa mem missing)]
  | false =>
    simp only [Bool.false_eq_true, if_false]
    cases kind : P.infer texts with
    | int =>
      have number := P.isFloat_of_isInt (((P.infer_eq_int_iff texts).mp kind).2 text mem).2.1
      rw [storedText_present (value_of_present missing _) missing]
      simp only [Reader.value, Value.str, Storage.holdText, Cell.text.injEq]
      split
      · rfl
      · constructor
        · exact fun both => both.2
        · intro same
          exact ⟨fun _ => by rw [same]; exact (P.not_blank text number).1, same⟩
    | float =>
      have number := P.isFloat_of_infer_eq_float kind text mem missing
      rw [storedText_present (value_of_present missing _) missing]
      simp only [Reader.value, missing, Bool.false_eq_true, if_false, Value.str, Storage.holdText,
        Cell.text.injEq]
      split
      · rfl
      · exact and_iff_right (fun _ => (P.not_blank text number).2)
    | bool => exact storedText_word missing (isNa_eq_false_of_bool mem kind).2 rfl
    | flags =>
      refine storedText_word missing (P.isBoolWord_of_infer_eq_flags kind text mem missing) ?_
      simp [Reader.value, missing]
    | object =>
      rw [storedText_present (value_of_present missing _) missing]
      simp only [Reader.value, missing, Bool.false_eq_true, if_false, Value.str, Storage.holdText]
      cases isAligned column <;> cases t.keepsNull column <;> simp

end Cell

/-! ## Columns of the table -/

section Table
variable {S P} {t : StagedTable} {names : List String} {rows : List (List String)}

/-- The part as it is written, cast to the columns that are there. -/
def alignedPart (P : Reader) (t : StagedTable) (names : List String) (rows : List (List String)) :
    Frame :=
  alignToExisting P (some t) (P.readCsv names rows)

def partSeries (P : Reader) (t : StagedTable) (rows : List (List String)) (n : String × Nat) : Series :=
  let texts := Reader.columnTexts rows n.2
  match t.columns.find? (fun column => column.1 = n.1) with
  | none => P.series (P.infer texts) texts
  | some column => alignSeries P t column (P.series (P.infer texts) texts)

theorem alignedPart_columns : (alignedPart P t names rows).columns =
    names.zipIdx.map (fun n => (n.1, partSeries P t rows n)) := by
  simp only [alignedPart, alignToExisting, Reader.readCsv, List.map_map]
  rfl

theorem find?_column (distinct : (t.columns.map (lower ∘ Prod.fst)).Nodup)
    {column : String × String × Bool} (mem : column ∈ t.columns)
    (plain : PythonText.IsName (lower column.1)) :
    t.columns.find? (fun c => c.1 = lower column.1) =
      if isAligned column then some column else none := by
  split
  · rename_i aligned
    have same : column.1 = lower column.1 := by simpa [isAligned] using aligned
    have keys : (t.columns.map Prod.fst).Nodup := by
      rw [← List.map_map] at distinct
      exact List.Nodup.of_map lower distinct
    rw [← same]
    exact Lists.find?_key Prod.fst keys mem
  · rename_i other
    rw [List.find?_eq_none]
    intro c there named
    have name : c.1 = lower column.1 := by simpa using named
    have same : c = column := Lists.eq_of_key distinct there mem (by
      simp only [Function.comp_apply, name, PythonText.lower_of_isName plain])
    rw [same] at name
    exact other (by simpa [isAligned] using name)

theorem partSeries_values (distinct : (t.columns.map (lower ∘ Prod.fst)).Nodup)
    {column : String × String × Bool} (mem : column ∈ t.columns)
    (plain : PythonText.IsName (lower column.1)) (text : isTextType column.2.1)
    (rows : List (List String)) (j : Nat) :
    (partSeries P t rows (lower column.1, j)).values.map (S.hold P column.2.1) =
      (Reader.columnTexts rows j).map
        (storedText S P t column (P.infer (Reader.columnTexts rows j))) := by
  have textual : ∀ v, S.hold P column.2.1 v = S.holdText v := fun v => if_pos text
  rw [partSeries, find?_column distinct mem plain]
  cases aligned : isAligned column with
  | true =>
    simp [alignSeries_text P t text, Series.blankText, Reader.series, storedText, aligned, textual]
  | false => simp [Reader.series, storedText, aligned, textual]

theorem range_map_getD {α β : Type} (l : List α) (d : α) (f : α → β) :
    (List.range l.length).map (fun i => f (l.getD i d)) = l.map f := by
  apply List.ext_getElem
  · simp
  · intro i left right
    have bound : i < l.length := by simpa using right
    simp [List.getElem?_eq_getElem bound]

theorem toNumeric_length (s : Series) : (P.toNumeric s).values.length = s.values.length := by
  unfold Reader.toNumeric
  cases s.dtype with
  | object =>
    simp only
    split
    · simp
    · simp
  | _ => rfl

theorem alignSeries_length (column : String × String × Bool) (s : Series) :
    (alignSeries P t column s).values.length = s.values.length := by
  simp only [alignSeries]
  split_ifs
  · exact toNumeric_length s
  · simp [Reader.toDatetime]
  · simp [Series.blankText]
  · rfl

theorem alignedPart_height (some_column : names ≠ []) : (alignedPart P t names rows).height =
    rows.length := by
  have lengths : ∀ n, (partSeries P t rows n).values.length = rows.length := by
    intro n
    simp only [partSeries]
    split
    · simp [Reader.series, Reader.columnTexts]
    · simp [alignSeries_length, Reader.series, Reader.columnTexts]
  unfold Frame.height
  rw [alignedPart_columns]
  cases names with
  | nil => exact absurd rfl some_column
  | cons n rest => simp [lengths]

/-- The cells that an appended part brings to one column of text. -/
theorem addedRows_column (distinct : (t.columns.map (lower ∘ Prod.fst)).Nodup)
    (distinct_names : names.Nodup) {q j : Nat} {column : String × String × Bool}
    (at_q : t.columns[q]? = some column) (text : isTextType column.2.1)
    (at_j : names[j]? = some (lower column.1)) (plain : PythonText.IsName (lower column.1))
    (rows : List (List String)) : (addedRows S P t (alignedPart P t names rows)).map (fun row => row.getD q .null) =
      (Reader.columnTexts rows j).map
        (storedText S P t column (P.infer (Reader.columnTexts rows j))) := by
  have some_column : names ≠ [] := by
    rintro rfl
    simp at at_j
  have inside : (lower column.1, j) ∈ names.zipIdx := List.mem_zipIdx_iff_getElem?.mpr at_j
  have found := find?_zipIdx distinct_names (partSeries P t rows) inside
  have values := partSeries_values (S := S) (P := P) distinct (List.mem_of_getElem? at_q) plain text
    rows j
  have length : rows.length = (partSeries P t rows (lower column.1, j)).values.length := by
    have lengths := congrArg List.length values
    simpa [Reader.columnTexts] using lengths.symm
  rw [← values, ← range_map_getD _ Value.missing, ← length]
  unfold addedRows
  rw [alignedPart_height some_column, List.map_map]
  apply List.map_congr_left
  intro i _
  rw [alignedPart_columns]
  simp only [Function.comp_apply, List.getD_eq_getElem?_getD, List.getElem?_map, at_q,
    Option.map_some, Option.getD_some, found]

end Table

/-! ## Uploads -/

/-- Every text column of the table stores the texts of its column of the part. -/
def KeepsTexts (after : Option StagedTable) (t : StagedTable) (header : List String)
    (rows : List (List String)) : Prop :=
  ∀ q column, t.columns[q]? = some column → isTextType column.2.1 →
    ∀ j, (normalizeColumns [] header)[j]? = some (lower column.1) →
      after.map (fun t' => (t'.rows.drop t.rows.length).map (fun row => row.getD q .null)) =
        some ((Reader.columnTexts rows j).map (expectedCell t column))

/-- The texts for every text column print as they were written. -/
def TextsVerbatim (S : Storage) (P : Reader) (t : StagedTable) (header : List String)
    (rows : List (List String)) : Prop :=
  ∀ column ∈ t.columns, isTextType column.2.1 →
    ∀ j, (normalizeColumns [] header)[j]? = some (lower column.1) →
      Verbatim S P t column (Reader.columnTexts rows j)

def isDigits (text : String) : Bool := text.toList ≠ [] && text.toList.all Char.isDigit

def digitsValue (text : String) : ℤ :=
  text.toList.foldl (fun n c => 10 * n + (c.toNat - '0'.toNat : ℕ)) 0

theorem strip_ne_empty {s : String} {c : Char} (mem : c ∈ s.toList)
    (there : PythonText.isSpace c = false) : strip s ≠ "" := by
  intro blank
  have none : PythonText.stripChars PythonText.isSpace s.toList = [] := by
    have chars := congrArg String.toList blank
    simpa [strip] using chars
  have reversed : (s.toList.dropWhile PythonText.isSpace).reverse.dropWhile PythonText.isSpace = [] :=
    List.reverse_eq_nil_iff.mp none
  rw [List.dropWhile_eq_nil_iff] at reversed
  have kept : s.toList.dropWhile PythonText.isSpace ≠ [] := by
    intro all
    rw [List.dropWhile_eq_nil_iff] at all
    simp [all c mem] at there
  have head := List.head_dropWhile_not PythonText.isSpace kept
  have first := reversed _ (List.mem_reverse.mpr (List.head_mem kept))
  simp [first] at head

/-- A reader that knows the natural numbers, with an empty fraction as floats. -/
def digits : Reader where
  isNa := Reader.verbatim.isNa
  isInt := isDigits
  int := digitsValue
  isFloat := isDigits
  float t := toString (digitsValue t) ++ ".0"
  ofInt z := toString z ++ ".0"
  numeral t := if isDigits t then some (.int (digitsValue t)) else none
  datetime v := v
  isNa_empty := Reader.verbatim.isNa_empty
  word_of_bool t word := by
    simp only [isBoolWord, trueWords, falseWords, List.cons_append, List.nil_append,
      List.mem_cons, List.not_mem_nil, or_false, decide_eq_true_eq] at word
    obtain rfl | rfl | rfl | rfl | rfl | rfl := word <;> decide
  float_of_int t number := ⟨number, rfl⟩
  numeral_of_int t number := if_pos number
  numeral_of_float t number other := by simp [number] at other
  not_blank t number := by
    constructor
    · unfold isDigits at number
      cases chars : t.toList with
      | nil => simp [chars] at number
      | cons c rest =>
        have digit : c.isDigit := by
          simp only [chars, List.all_cons, Bool.and_eq_true] at number
          exact number.2.1
        have slug : PythonText.isSlugChar c := by
          simp only [Char.isDigit, Bool.and_eq_true, decide_eq_true_eq] at digit
          simp only [PythonText.isSlugChar, Bool.or_eq_true, Bool.and_eq_true, decide_eq_true_eq]
          exact .inl (.inr ⟨digit.1, digit.2⟩)
        exact strip_ne_empty (chars ▸ List.mem_cons_self) (PythonText.slug_toLower slug).2.2
    · have point : '.' ∈ (toString (digitsValue t) ++ ".0").toList := by simp
      exact strip_ne_empty point (by decide)

def usersEnv : StagingEnv where
  user := some 1
  databases _ := none
  pandas := commaFiles digits
  stamp := "20250101_000000"
  external := some
  refused := none

def usersDatabase : Database := ⟨1, true, storing plain digits⟩

def usersRequest : PrepareRequest :=
  ⟨"users", none, [⟨some "username", some "varchar(20)", false, none, none⟩,
    ⟨some "idnumber", some "varchar(20)", true, none, none⟩], [],
    [⟨some "idnumber", false, true, ["idnumber"], []⟩], true, true, none⟩

def usersPrepared : Staging :=
  ⟨(prepareTable usersDatabase usersRequest (fun _ => none)).2, Table.empty⟩

def usersTable : StagedTable :=
  ⟨[("username", "varchar(20)", false), ("idnumber", "varchar(20)", true)], [],
    [("idnumber", true, ["idnumber"])], []⟩

def usersUpload : UploadRequest := ⟨"", "users.csv", some "users", none, "append"⟩

def usersFile (rows : List (List String)) : String :=
  "username,idnumber" ++ String.join (rows.map (fun row => "\n" ++ String.intercalate "," row))

end Staging
end XpBuilder
