import Mathlib.Data.List.Basic

/-! CSV as Python's `csv` writes and reads it by default. A field is quoted where it has a comma, a
quote or the end of a line, and every quote in it is doubled; the reader takes one character at a
time. What was written is read back. -/

namespace XpBuilder.Csv

/-! ## Writing -/

def isLineEnd (c : Char) : Bool := c = '\r' || c = '\n'

def isSpecial (c : Char) : Bool := c = ',' || c = '"' || isLineEnd c

def doubled (field : List Char) : List Char := field.flatMap (fun c => if c = '"' then ['"', '"'] else [c])

def writeField (field : List Char) : List Char :=
  if field.any isSpecial then '"' :: (doubled field ++ ['"']) else field

/-- A row of one empty field is told from a blank line by its quotes. -/
def writeRow (row : List (List Char)) : List Char :=
  (if row = [[]] then ['"', '"'] else List.intercalate [','] (row.map writeField)) ++ ['\r', '\n']

def write (rows : List (List (List Char))) : List Char := rows.flatMap writeRow

/-! ## Reading -/

/-- Where the reader is: at the begin of a line or of a field, in a field without quotes, between
quotes, behind a quote in a quoted field, behind a carriage return. -/
inductive Place where
  | line | field | plain | quoted | quote | afterReturn
  deriving DecidableEq, Repr

structure Reader where
  place : Place
  cell : List Char
  row : List (List Char)
  rows : List (List (List Char))
  deriving DecidableEq, Repr

namespace Reader

def add (r : Reader) (place : Place) (c : Char) : Reader := { r with place := place, cell := r.cell ++ [c] }

def endCell (r : Reader) : Reader := ⟨.field, [], r.row ++ [r.cell], r.rows⟩

def endRow (r : Reader) (c : Char) : Reader :=
  ⟨if c = '\r' then .afterReturn else .line, [], [], r.rows ++ [r.row ++ [r.cell]]⟩

/-- What a character does behind a field without an open quote; `other` is for the rest. -/
def close (r : Reader) (c : Char) (other : Reader) : Reader :=
  if isLineEnd c then r.endRow c else if c = ',' then r.endCell else other

/-- A character at the begin of a field. -/
def begin (r : Reader) (c : Char) : Reader :=
  r.close c (if c = '"' then { r with place := .quoted } else r.add .plain c)

/-- A character at the begin of a line; a blank line is a row without fields. -/
def beginLine (r : Reader) (c : Char) : Reader :=
  if isLineEnd c then ⟨if c = '\r' then .afterReturn else .line, [], [], r.rows ++ [[]]⟩ else r.begin c

def step (r : Reader) (c : Char) : Reader :=
  match r.place with
  | .line => r.beginLine c
  | .afterReturn => if c = '\n' then { r with place := .line } else r.beginLine c
  | .field => r.begin c
  | .plain => r.close c (r.add .plain c)
  | .quoted => if c = '"' then { r with place := .quote } else r.add .quoted c
  | .quote => if c = '"' then r.add .quoted c else r.close c (r.add .plain c)

def run (r : Reader) (text : List Char) : Reader := text.foldl step r

/-- The rows at the end of the text; the last one may lack its line end. -/
def finish (r : Reader) : List (List (List Char)) :=
  match r.place with
  | .line | .afterReturn => r.rows
  | .field | .plain | .quoted | .quote => r.rows ++ [r.row ++ [r.cell]]

theorem run_cons (r : Reader) (c : Char) (text : List Char) : r.run (c :: text) = (r.step c).run text := rfl

theorem run_append (r : Reader) (front back : List Char) : r.run (front ++ back) = (r.run front).run back :=
  List.foldl_append

end Reader

def read (text : List Char) : List (List (List Char)) := (Reader.run ⟨.line, [], [], []⟩ text).finish

/-! ## One field -/

section Field
variable {row : List (List Char)} {rows : List (List (List Char))}

theorem run_plain {field : List Char} (plain : field.any isSpecial = false) (cell : List Char) :
    Reader.run ⟨.plain, cell, row, rows⟩ field = ⟨.plain, cell ++ field, row, rows⟩ := by
  induction field generalizing cell with
  | nil => rw [List.append_nil]; rfl
  | cons c field ih =>
    simp only [List.any_cons, Bool.or_eq_false_iff] at plain
    have own := plain.1
    simp only [isSpecial, Bool.or_eq_false_iff, decide_eq_false_iff_not] at own
    have first : Reader.step ⟨.plain, cell, row, rows⟩ c = ⟨.plain, cell ++ [c], row, rows⟩ := by
      simp [Reader.step, Reader.close, Reader.add, own.1.1, own.2]
    rw [Reader.run_cons, first, ih plain.2, List.append_assoc, List.singleton_append]

theorem run_doubled (field cell : List Char) :
    Reader.run ⟨.quoted, cell, row, rows⟩ (doubled field) = ⟨.quoted, cell ++ field, row, rows⟩ := by
  induction field generalizing cell with
  | nil => rw [List.append_nil]; rfl
  | cons c field ih =>
    have first : Reader.run ⟨.quoted, cell, row, rows⟩ (if c = '"' then ['"', '"'] else [c]) =
        ⟨.quoted, cell ++ [c], row, rows⟩ := by
      by_cases quote : c = '"'
      · rw [if_pos quote, quote]
        rfl
      · rw [if_neg quote, Reader.run_cons, Reader.step, if_neg quote]
        rfl
    rw [doubled, List.flatMap_cons, Reader.run_append, first, ← doubled, ih, List.append_assoc, List.singleton_append]

/-- Behind a written field a comma ends the field and a carriage return the row. -/
theorem step_run_writeField (field : List Char) :
    (Reader.run ⟨.field, [], row, rows⟩ (writeField field)).step ',' = ⟨.field, [], row ++ [field], rows⟩ ∧
    (Reader.run ⟨.field, [], row, rows⟩ (writeField field)).step '\r' =
      ⟨.afterReturn, [], [], rows ++ [row ++ [field]]⟩ := by
  cases special : field.any isSpecial with
  | true =>
    have whole : Reader.run ⟨.field, [], row, rows⟩ (writeField field) = ⟨.quote, field, row, rows⟩ := by
      have opened : Reader.step ⟨.field, [], row, rows⟩ '"' = ⟨.quoted, [], row, rows⟩ := rfl
      rw [writeField, special, if_pos rfl, Reader.run_cons, opened, Reader.run_append, run_doubled]
      rfl
    rw [whole]
    exact ⟨rfl, rfl⟩
  | false =>
    have unquoted : writeField field = field := by
      rw [writeField, special]
      rfl
    rw [unquoted]
    cases field with
    | nil => exact ⟨rfl, rfl⟩
    | cons c field =>
      have plain := special
      simp only [List.any_cons, Bool.or_eq_false_iff] at plain
      have own := plain.1
      simp only [isSpecial, Bool.or_eq_false_iff, decide_eq_false_iff_not] at own
      have first : Reader.step ⟨.field, [], row, rows⟩ c = ⟨.plain, [c], row, rows⟩ := by
        simp [Reader.step, Reader.begin, Reader.close, Reader.add, own.1.1, own.1.2, own.2]
      rw [Reader.run_cons, first, run_plain plain.2]
      exact ⟨rfl, rfl⟩

/-! ## Rows -/

theorem run_fields (row : List (List Char)) (rows : List (List (List Char))) (field : List Char)
    (fields : List (List Char)) :
    Reader.run ⟨.field, [], row, rows⟩ (List.intercalate [','] ((field :: fields).map writeField) ++ ['\r', '\n']) =
      ⟨.line, [], [], rows ++ [row ++ field :: fields]⟩ := by
  induction fields generalizing field row with
  | nil =>
    rw [List.map_cons, List.map_nil, List.intercalate_singleton, Reader.run_append, Reader.run_cons,
      (step_run_writeField field).2]
    rfl
  | cons next fields ih =>
    have tail := ih (row ++ [field]) next
    rw [List.map_cons] at tail
    rw [List.map_cons, List.map_cons, List.intercalate_cons_cons, List.append_assoc, List.append_assoc,
      Reader.run_append, List.singleton_append, Reader.run_cons, (step_run_writeField field).1, tail,
      List.append_assoc, List.singleton_append]

end Field

/-- At the begin of a line only its end is special. -/
theorem run_line {c : Char} (goesOn : isLineEnd c = false) (text : List Char) (rows : List (List (List Char))) :
    Reader.run ⟨.line, [], [], rows⟩ (c :: text) = Reader.run ⟨.field, [], [], rows⟩ (c :: text) := by
  have same : Reader.step ⟨.line, [], [], rows⟩ c = Reader.step ⟨.field, [], [], rows⟩ c := by
    simp [Reader.step, Reader.beginLine, Reader.begin, Reader.close, Reader.add, Reader.endCell, goesOn]
  rw [Reader.run_cons, Reader.run_cons, same]

/-- A row that has a field, and not just an empty one, does not begin with a line end. -/
theorem begins_visible {field : List Char} {fields : List (List Char)} (visible : field :: fields ≠ [[]]) :
    ∃ c text, List.intercalate [','] ((field :: fields).map writeField) = c :: text ∧ isLineEnd c = false := by
  cases field with
  | nil =>
    cases fields with
    | nil => exact absurd rfl visible
    | cons next fields => exact ⟨',', _, rfl, by decide⟩
  | cons c field =>
    have begun : ∃ d text, writeField (c :: field) = d :: text ∧ isLineEnd d = false := by
      cases special : (c :: field).any isSpecial with
      | true => exact ⟨'"', _, by rw [writeField, special]; rfl, by decide⟩
      | false =>
        have own := special
        simp only [List.any_cons, isSpecial, Bool.or_eq_false_iff] at own
        exact ⟨c, field, by rw [writeField, special]; rfl, own.1.2⟩
    obtain ⟨d, text, written, goesOn⟩ := begun
    cases fields with
    | nil => exact ⟨d, text, by rw [List.map_cons, List.map_nil, List.intercalate_singleton, written], goesOn⟩
    | cons next fields =>
      refine ⟨d, text ++ [','] ++ List.intercalate [','] ((next :: fields).map writeField), ?_, goesOn⟩
      rw [List.map_cons, List.map_cons, List.intercalate_cons_cons, written]
      rfl

theorem run_writeRow (row : List (List Char)) (rows : List (List (List Char))) :
    Reader.run ⟨.line, [], [], rows⟩ (writeRow row) = ⟨.line, [], [], rows ++ [row]⟩ := by
  cases row with
  | nil => rfl
  | cons field fields =>
    by_cases single : field :: fields = [[]]
    · rw [single]
      rfl
    · obtain ⟨c, text, begun, goesOn⟩ := begins_visible single
      have fieldwise := run_fields [] rows field fields
      rw [writeRow, if_neg single]
      rw [begun, List.cons_append] at fieldwise ⊢
      rw [run_line goesOn, fieldwise, List.nil_append]

/-- What is written is read back. -/
theorem read_write (rows : List (List (List Char))) : read (write rows) = rows := by
  have whole : ∀ before : List (List (List Char)), Reader.run ⟨.line, [], [], before⟩ (write rows) =
      ⟨.line, [], [], before ++ rows⟩ := by
    induction rows with
    | nil =>
      intro before
      rw [List.append_nil]
      rfl
    | cons row rows ih =>
      intro before
      rw [write, List.flatMap_cons, Reader.run_append, run_writeRow, ← write, ih, List.append_assoc,
        List.singleton_append]
  rw [read, whole]
  rfl

end XpBuilder.Csv
