import XpBuilder.Library.Csv
import XpBuilder.Library.Fallible
import XpBuilder.Report.Pdf

/-! The two exports beside the preview. All three take the same columns and rows: the preview writes
JSON, `export_csv` goes through `csv.writer`, and `_build_xlsx` appends to a sheet of openpyxl. -/

namespace XpBuilder.Exports
open Fallible

/-! ## Values of a row -/

/-- A value of a row as the queries return them, `_json_safe` applied. The texts of times of day,
durations and nested values are those that Python prints; a duration has another one in JSON. -/
inductive Value where
  | plain (v : Pdf.Value)
  | bytes (data : List UInt8)
  | timeOfDay (printed : String)
  | duration (printed formatted : String)
  | uuid (printed : String)
  | nested (printed : String)
  deriving DecidableEq

/-- A value in the response of the preview. -/
inductive Shown where
  | null
  | flag (b : Bool)
  | number (q : ℚ) (digits : String)
  | text (s : String)
  | nested
  deriving DecidableEq

/-- A value in a cell of the workbook, when it is read again. -/
inductive Stored where
  | empty
  | flag (b : Bool)
  | number (q : ℚ)
  | text (s : String)
  | formula (s : String)
  | time
  deriving DecidableEq

/-- What Python's decoder makes of bytes, what openpyxl keeps of a value that is appended (or the
error that it raises), and what it keeps of a number. -/
structure Packages where
  decode : List UInt8 → String
  stored : Value → Except String Stored
  number : ℚ → ℚ

/-! ## Texts in a workbook -/

/-- A character that is read from XML as it was written. -/
def isCarried (c : Char) : Bool :=
  c = '\t' || c = '\n' || (0x20 ≤ c.toNat && c.toNat ≤ 0xfffd) || 0x10000 ≤ c.toNat

def Carried (s : String) : Prop := ∀ c ∈ s.toList, isCarried c = true

def IsFormula (s : String) : Prop := s.toList.head? = some '=' ∧ 1 < s.toList.length

instance : DecidablePred IsFormula := fun s => inferInstanceAs (Decidable (_ ∧ 1 < s.toList.length))

/-- The texts that a sheet keeps. -/
structure Kept (s : String) : Prop where
  carried : Carried s
  short : s.toList.length ≤ 32767
  literal : ¬IsFormula s

/-- What is documented of the packages: a decoder makes at most one character of a byte, and
openpyxl takes a text with a leading `=` for a formula, cuts long texts, refuses control characters
and the types that it does not know, and stores times as times. -/
structure Packages.Documented (P : Packages) : Prop where
  decode : ∀ data, (P.decode data).toList.length ≤ data.length ∨ P.decode data = "[bytes]"
  null : P.stored (.plain .null) = .ok .empty
  flag : ∀ b, P.stored (.plain (.flag b)) = .ok (.flag b)
  int : ∀ i : Int, P.stored (.plain (.int i)) = .ok (.number (P.number i))
  float : ∀ q s, P.stored (.plain (.float q s)) = .ok (.number (P.number q))
  decimal : ∀ q s, P.stored (.plain (.decimal q s)) = .ok (.number (P.number q))
  text : ∀ s, Kept s → P.stored (.plain (.text s)) = .ok (if s = "" then .empty else .text s)
  formula : ∀ s, Carried s → s.toList.length ≤ 32767 → IsFormula s → P.stored (.plain (.text s)) = .ok (.formula s)
  control : ∀ s, ¬Carried s → P.stored (.plain (.text s)) ≠ .ok (.text s)
  long : ∀ s, 32767 < s.toList.length → P.stored (.plain (.text s)) ≠ .ok (.text s)
  timeOfDay : ∀ s, P.stored (.timeOfDay s) = .ok .time
  duration : ∀ s t, P.stored (.duration s t) = .ok .time
  uuid : ∀ s, ∃ message, P.stored (.uuid s) = .error message
  nested : ∀ s, ∃ message, P.stored (.nested s) = .error message

/-! ## The encoders -/

section Encoders
variable (P : Packages) (columns : List String) (rows : List (Dict String Value))

/-- `base_json_conv` and what JSON has itself -/
def shown : Value → Shown
  | .plain .null => .null
  | .plain (.flag b) => .flag b
  | .plain (.int i) => .number i (toString i)
  | .plain (.float q printed) => .number q printed
  | .plain (.decimal q printed) => .number q printed
  | .plain (.text s) => .text s
  | .bytes data => .text (P.decode data)
  | .timeOfDay printed => .text printed
  | .duration _ formatted => .text formatted
  | .uuid printed => .text printed
  | .nested _ => .nested

def hexDigit (n : Nat) : Char := if n < 10 then Char.ofNat (48 + n) else Char.ofNat (87 + n)

/-- A byte between the quotes of `repr`. -/
def reprByte (quote : Char) (b : UInt8) : List Char :=
  let c := Char.ofNat b.toNat
  if c = quote ∨ c = '\\' then ['\\', c]
  else if c = '\t' then ['\\', 't']
  else if c = '\n' then ['\\', 'n']
  else if c = '\r' then ['\\', 'r']
  else if b.toNat < 0x20 ∨ 0x7f ≤ b.toNat then ['\\', 'x', hexDigit (b.toNat / 16), hexDigit (b.toNat % 16)]
  else [c]

def apostrophe : Char := Char.ofNat 39

/-- `repr` of bytes -/
def reprBytes (data : List UInt8) : List Char :=
  let chars := data.map (fun b => Char.ofNat b.toNat)
  let quote := if apostrophe ∈ chars ∧ '"' ∉ chars then '"' else apostrophe
  'b' :: quote :: (data.flatMap (reprByte quote) ++ [quote])

/-- What `csv.writer` writes for a value. -/
def csvText : Value → List Char
  | .plain .null => []
  | .plain v => v.str.toList
  | .bytes data => reprBytes data
  | .timeOfDay printed => printed.toList
  | .duration printed _ => printed.toList
  | .uuid printed => printed.toList
  | .nested printed => printed.toList

/-- `row.get(col, "")` -/
def valueOf (row : Dict String Value) (column : String) : Value := (row.get column).getD (.plain (.text ""))

/-- The rows of the preview, in the order of the columns. -/
def preview : List (List Shown) := rows.map (fun row => columns.map (fun c => shown P (valueOf row c)))

def exportCsv : List Char :=
  Csv.write (columns.map String.toList :: rows.map (fun row => columns.map (fun c => csvText (valueOf row c))))

/-- The cells of the sheet that `_build_xlsx` saves. -/
def buildXlsx : Except String (List (List Stored)) := do
  let header ← columns.mapM (fun c => P.stored (.plain (.text c)))
  let body ← rows.mapM (fun row => columns.mapM (fun c => P.stored (valueOf row c)))
  pure (header :: body)

end Encoders

/-! ## The same data -/

/-- The field of a CSV file has the value of the preview; nested values have some text. -/
def ReadsAs : Shown → List Char → Prop
  | .null, field => field = []
  | .flag b, field => field = (if b then "True" else "False").toList
  | .number _ digits, field => field = digits.toList
  | .text s, field => field = s.toList
  | .nested, _ => True

/-- The cell of a workbook has the value of the preview; an empty text is an empty cell. -/
def Holds : Shown → Stored → Prop
  | .null, cell => cell = .empty
  | .flag b, cell => cell = .flag b
  | .number q _, cell => cell = .number q
  | .text s, cell => cell = .text s ∨ (s = "" ∧ cell = .empty)
  | .nested, cell => ∃ s, cell = .text s

/-- Both exports give, below the names of the columns, the rows of the preview. -/
structure SameData (P : Packages) (columns : List String) (rows : List (Dict String Value)) : Prop where
  csv : ∃ lines, Csv.read (exportCsv columns rows) = columns.map String.toList :: lines ∧
    List.Forall₂ (List.Forall₂ ReadsAs) (preview P columns rows) lines
  xlsx : ∃ header lines, buildXlsx P columns rows = .ok (header :: lines) ∧
    List.Forall₂ (fun c cell => Holds (.text c) cell) columns header ∧
    List.Forall₂ (List.Forall₂ Holds) (preview P columns rows) lines

/-- The values that all encoders treat alike. -/
def Exportable (P : Packages) : Value → Prop
  | .plain (.int i) => P.number i = i
  | .plain (.float q _) => P.number q = q
  | .plain (.decimal q _) => P.number q = q
  | .plain (.text s) => Kept s
  | .plain _ => True
  | .bytes _ | .timeOfDay _ | .duration _ _ | .uuid _ | .nested _ => False

/-! ## One value -/

theorem length_reprByte (quote : Char) (b : UInt8) : 0 < (reprByte quote b).length := by
  unfold reprByte
  dsimp only
  split_ifs <;> simp

theorem length_reprBytes (data : List UInt8) : data.length + 3 ≤ (reprBytes data).length := by
  have each : ∀ quote, data.length ≤ (data.flatMap (reprByte quote)).length := by
    intro quote
    induction data with
    | nil => simp
    | cons b data ih =>
      have first := length_reprByte quote b
      rw [List.flatMap_cons, List.length_append, List.length_cons]
      omega
  unfold reprBytes
  simp only [List.length_cons, List.length_append, List.length_nil]
  have body := each (if apostrophe ∈ data.map (fun b => Char.ofNat b.toNat) ∧ '"' ∉ data.map (fun b => Char.ofNat b.toNat)
    then '"' else apostrophe)
  omega

section Values
variable {P : Packages}

/-- Bytes are written to a CSV file as Python prints them. -/
theorem csvText_bytes (documented : P.Documented) (data : List UInt8) :
    ¬ReadsAs (shown P (.bytes data)) (csvText (.bytes data)) := by
  intro same
  have text : reprBytes data = (P.decode data).toList := same
  cases documented.decode data with
  | inl short =>
    have long := length_reprBytes data
    rw [text] at long
    omega
  | inr fallback =>
    rw [fallback] at text
    have first := congrArg List.head? text
    have bracket : "[bytes]".toList.head? = some '[' := by decide
    rw [bracket] at first
    simp [reprBytes] at first

theorem kept_empty : Kept "" := by
  have chars : "".toList = [] := by decide
  have none : ∀ c ∈ "".toList, isCarried c = true := by simp [chars]
  exact ⟨none, by decide, by simp [IsFormula, chars]⟩

/-- A text is in its cell exactly where the sheet keeps it. -/
theorem holds_text_iff (documented : P.Documented) (s : String) :
    (∃ cell, P.stored (.plain (.text s)) = .ok cell ∧ Holds (.text s) cell) ↔ Kept s := by
  constructor
  · rintro ⟨cell, stored, rfl | ⟨rfl, -⟩⟩
    · have carried : Carried s := by
        by_contra control
        exact documented.control s control stored
      have short : s.toList.length ≤ 32767 := by
        by_contra long
        exact documented.long s (by omega) stored
      refine ⟨carried, short, ?_⟩
      intro formula
      rw [documented.formula s carried short formula] at stored
      cases stored
    · exact kept_empty
  · intro kept
    refine ⟨_, documented.text s kept, ?_⟩
    by_cases blank : s = ""
    · rw [if_pos blank]
      exact .inr ⟨blank, rfl⟩
    · rw [if_neg blank]
      exact .inl rfl

/-- A number is in its cell exactly where the sheet keeps it. -/
theorem holds_number_iff {v : Value} {q : ℚ} {digits : String} (stored : P.stored v = .ok (.number (P.number q))) :
    (∃ cell, P.stored v = .ok cell ∧ Holds (.number q digits) cell) ↔ P.number q = q := by
  simp only [stored, Except.ok.injEq, exists_eq_left', Holds, Stored.number.injEq]

theorem exportable_iff (documented : P.Documented) (v : Value) :
    (ReadsAs (shown P v) (csvText v) ∧ ∃ cell, P.stored v = .ok cell ∧ Holds (shown P v) cell) ↔ Exportable P v := by
  cases v with
  | plain v =>
    cases v with
    | null => exact iff_of_true ⟨rfl, _, documented.null, rfl⟩ trivial
    | flag b =>
      refine iff_of_true ⟨?_, _, documented.flag b, rfl⟩ trivial
      cases b <;> rfl
    | int i =>
      have written : ReadsAs (shown P (.plain (.int i))) (csvText (.plain (.int i))) := rfl
      rw [and_iff_right written]
      exact holds_number_iff (documented.int i)
    | float q printed =>
      have written : ReadsAs (shown P (.plain (.float q printed))) (csvText (.plain (.float q printed))) := rfl
      rw [and_iff_right written]
      exact holds_number_iff (documented.float q printed)
    | decimal q printed =>
      have written : ReadsAs (shown P (.plain (.decimal q printed))) (csvText (.plain (.decimal q printed))) := rfl
      rw [and_iff_right written]
      exact holds_number_iff (documented.decimal q printed)
    | text s =>
      have written : ReadsAs (shown P (.plain (.text s))) (csvText (.plain (.text s))) := rfl
      rw [and_iff_right written]
      exact holds_text_iff documented s
  | bytes data =>
    refine iff_of_false ?_ id
    intro both
    exact csvText_bytes documented data both.1
  | timeOfDay printed =>
    refine iff_of_false ?_ id
    rintro ⟨-, cell, stored, held⟩
    rw [documented.timeOfDay, Except.ok.injEq] at stored
    simp [← stored, shown, Holds] at held
  | duration printed formatted =>
    refine iff_of_false ?_ id
    rintro ⟨-, cell, stored, held⟩
    rw [documented.duration, Except.ok.injEq] at stored
    simp [← stored, shown, Holds] at held
  | uuid printed =>
    refine iff_of_false ?_ id
    rintro ⟨-, cell, stored, -⟩
    obtain ⟨message, refused⟩ := documented.uuid printed
    rw [refused] at stored
    cases stored
  | nested printed =>
    refine iff_of_false ?_ id
    rintro ⟨-, cell, stored, -⟩
    obtain ⟨message, refused⟩ := documented.nested printed
    rw [refused] at stored
    cases stored

/-! ## The exports -/

variable {columns : List String} {rows : List (Dict String Value)}

/-- The CSV file has the rows of the preview exactly where each field reads as its value. -/
theorem csv_iff : (∃ lines, Csv.read (exportCsv columns rows) = columns.map String.toList :: lines ∧
      List.Forall₂ (List.Forall₂ ReadsAs) (preview P columns rows) lines) ↔
    ∀ row ∈ rows, ∀ c ∈ columns, ReadsAs (shown P (valueOf row c)) (csvText (valueOf row c)) := by
  simp only [exportCsv, Csv.read_write, List.cons.injEq, true_and, exists_eq_left', preview,
    List.forall₂_map_left_iff, List.forall₂_map_right_iff, List.forall₂_same]

/-- The workbook has them exactly where every cell is stored and holds its value. -/
theorem xlsx_iff : (∃ header lines, buildXlsx P columns rows = .ok (header :: lines) ∧
      List.Forall₂ (fun c cell => Holds (.text c) cell) columns header ∧
      List.Forall₂ (List.Forall₂ Holds) (preview P columns rows) lines) ↔
    (∀ c ∈ columns, ∃ cell, P.stored (.plain (.text c)) = .ok cell ∧ Holds (.text c) cell) ∧
    ∀ row ∈ rows, ∀ c ∈ columns, ∃ cell, P.stored (valueOf row c) = .ok cell ∧ Holds (shown P (valueOf row c)) cell := by
  have rowwise : ∀ (row : Dict String Value) (line : List Stored),
      List.Forall₂ Holds (columns.map (fun c => shown P (valueOf row c))) line ↔
        List.Forall₂ (fun c cell => Holds (shown P (valueOf row c)) cell) columns line :=
    fun _ _ => List.forall₂_map_left_iff
  simp only [← exists_mapM_related]
  simp only [buildXlsx, preview, bind_eq_ok, pure_eq_ok, List.forall₂_map_left_iff, rowwise, List.cons.injEq]
  constructor
  · rintro ⟨header, lines, ⟨_, named, _, filled, rfl, rfl⟩, holds, hold⟩
    exact ⟨⟨header, named, holds⟩, lines, filled, hold⟩
  · rintro ⟨⟨header, named, holds⟩, lines, filled, hold⟩
    exact ⟨header, lines, ⟨header, named, lines, filled, rfl, rfl⟩, holds, hold⟩

/-- The exports carry the data of the preview exactly where the sheet keeps the names of the columns and every value is
one that all encoders treat alike. -/
theorem sameData_iff (documented : P.Documented) (columns : List String) (rows : List (Dict String Value)) :
    SameData P columns rows ↔ (∀ c ∈ columns, Kept c) ∧
      ∀ row ∈ rows, ∀ c ∈ columns, ∀ v, row.get c = some v → Exportable P v := by
  have valued : ∀ (row : Dict String Value) (c : String), Exportable P (valueOf row c) ↔
      ∀ v, row.get c = some v → Exportable P v := by
    intro row c
    unfold valueOf
    cases row.get c with
    | none => simp [Exportable, kept_empty]
    | some v => simp
  constructor
  · intro same
    have fields := csv_iff.mp same.csv
    have cells := xlsx_iff.mp same.xlsx
    refine ⟨fun c there => (holds_text_iff documented c).mp (cells.1 c there), ?_⟩
    intro row there c named
    rw [← valued, ← exportable_iff documented]
    exact ⟨fields row there c named, cells.2 row there c named⟩
  · rintro ⟨names, values⟩
    have both : ∀ row ∈ rows, ∀ c ∈ columns, ReadsAs (shown P (valueOf row c)) (csvText (valueOf row c)) ∧
        ∃ cell, P.stored (valueOf row c) = .ok cell ∧ Holds (shown P (valueOf row c)) cell := by
      intro row there c named
      rw [exportable_iff documented, valued]
      exact values row there c named
    refine ⟨csv_iff.mpr (fun row there c named => (both row there c named).1), xlsx_iff.mpr ⟨?_, ?_⟩⟩
    · intro c there
      exact (holds_text_iff documented c).mpr (names c there)
    · intro row there c named
      exact (both row there c named).2

end Values

/-! ## The packages on plain data -/

/-- openpyxl with numbers that it need not round, and a decoder of ASCII. -/
def packages : Packages where
  decode data := if data.all (· < 128) then String.ofList (data.map (fun b => Char.ofNat b.toNat)) else "[bytes]"
  number := id
  stored
    | .plain .null => .ok .empty
    | .plain (.flag b) => .ok (.flag b)
    | .plain (.int i) => .ok (.number i)
    | .plain (.float q _) => .ok (.number q)
    | .plain (.decimal q _) => .ok (.number q)
    | .plain (.text s) =>
      let kept := String.ofList (s.toList.take 32767)
      if s.toList.all isCarried = false then .error "cannot be used in worksheets."
      else if IsFormula kept then .ok (.formula kept)
      else if kept = "" then .ok .empty
      else .ok (.text kept)
    | .bytes _ => .error "Cannot convert to Excel"
    | .timeOfDay _ => .ok .time
    | .duration _ _ => .ok .time
    | .uuid _ => .error "Cannot convert to Excel"
    | .nested _ => .error "Cannot convert to Excel"

theorem packages_stored_text {s : String} (carried : Carried s) (short : s.toList.length ≤ 32767) :
    packages.stored (.plain (.text s)) = if IsFormula s then .ok (.formula s) else if s = "" then .ok .empty
      else .ok (.text s) := by
  have all : ¬s.toList.all isCarried = false := by
    rw [Bool.not_eq_false, List.all_eq_true]
    exact carried
  have whole : String.ofList (s.toList.take 32767) = s := by
    rw [List.take_of_length_le short, String.ofList_toList]
  simp only [packages, whole, if_neg all]

theorem packages_documented : packages.Documented where
  decode data := by
    unfold packages
    dsimp only
    split_ifs
    · left
      simp
    · right
      rfl
  null := rfl
  flag _ := rfl
  int _ := rfl
  float _ _ := rfl
  decimal _ _ := rfl
  text s kept := by
    rw [packages_stored_text kept.carried kept.short, if_neg kept.literal]
    split_ifs <;> rfl
  formula s carried short formula := by rw [packages_stored_text carried short, if_pos formula]
  control s control := by
    have some_control : s.toList.all isCarried = false := by
      rw [← Bool.not_eq_true, List.all_eq_true]
      exact control
    simp only [packages, if_pos some_control]
    intro same
    cases same
  long s long := by
    have cut : String.ofList (s.toList.take 32767) ≠ s := by
      intro same
      have lengths := congrArg (fun t => t.toList.length) same
      simp only [String.toList_ofList, List.length_take] at lengths
      omega
    simp only [packages]
    split_ifs <;> simp [cut]
  timeOfDay _ := rfl
  duration _ _ := rfl
  uuid _ := ⟨_, rfl⟩
  nested _ := ⟨_, rfl⟩

def record (v : Value) : Dict String Value := Dict.empty.set "note" v

theorem exportable_of_record {v : Value} (exportable : Exportable packages v) :
    ∀ row ∈ [record v], ∀ c ∈ ["note"], ∀ w, row.get c = some w → Exportable packages w := by
  intro row there c named w found
  rw [List.mem_singleton.mp there, List.mem_singleton.mp named, record, Dict.get_set_self, Option.some.injEq] at found
  exact found ▸ exportable

theorem kept_of_decide {s : String} (carried : s.toList.all isCarried = true) (short : s.toList.length ≤ 32767)
    (literal : ¬IsFormula s) : Kept s := ⟨List.all_eq_true.mp carried, short, literal⟩

theorem plainText_sameData : packages.Documented ∧ SameData packages ["note"] [record (.plain (.text "a, \"b\""))] :=
  ⟨packages_documented, (sameData_iff packages_documented _ _).mpr
    ⟨List.forall_mem_singleton.mpr (kept_of_decide (by decide) (by decide) (by decide)),
      exportable_of_record (kept_of_decide (by decide) (by decide) (by decide))⟩⟩

/-- A formula, and a list on which the workbook is not written. -/
theorem formulaAndList_not_sameData : ¬SameData packages ["note"] [record (.plain (.text "=1+1"))] ∧
    ¬SameData packages ["note"] [record (.nested "[1, 2]")] := by
  have stored : ∀ v, SameData packages ["note"] [record v] → ∃ cell, packages.stored v = .ok cell ∧ Holds (shown packages v) cell := by
    intro v same
    have cell := (xlsx_iff.mp same.xlsx).2 (record v) (List.mem_singleton.mpr rfl) "note" (List.mem_singleton.mpr rfl)
    have value : valueOf (record v) "note" = v := by rw [valueOf, record, Dict.get_set_self, Option.getD_some]
    rw [value] at cell
    exact cell
  constructor
  · intro same
    have kept := (holds_text_iff packages_documented _).mp (stored _ same)
    exact kept.literal (by decide)
  · intro same
    obtain ⟨cell, made, -⟩ := stored _ same
    cases made

end XpBuilder.Exports
