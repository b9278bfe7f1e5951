import XpBuilder.Staging.Endpoints

/-! What a MySQL server holds of the values that pandas writes: the type a new
column gets, the cell a column of some type keeps of a value, and the rows that
`to_sql` leaves behind. -/

namespace XpBuilder
open Sql (Cell)
open PythonText (lower)

namespace Staging

def isTextType (type : String) : Bool := startsWith (PythonText.upper type) textPrefixes

def isNumericType (type : String) : Bool := startsWith (PythonText.upper type) numericPrefixes

/-- The nearest number that a BIGINT column holds. -/
def clampBig (z : ℤ) : ℤ := max (-2 ^ 63) (min z (2 ^ 63 - 1))

end Staging

/-- What the server makes of floats, and of values in columns of other types. -/
structure Storage where
  double : String → Cell
  whole : String → Cell
  print : String → String
  other : String → Value → Cell
  unset : String × String × Bool → Cell
  double_ne_text : ∀ r s, double r ≠ .text s
  whole_ne_text : ∀ r s, whole r ≠ .text s

namespace Storage
variable (S : Storage) (P : Reader)

def flag (b : Bool) : ℤ := if b then 1 else 0

/-- A value in a column of the TEXT family. -/
def holdText : Value → Cell
  | .missing => .null
  | .int z => .text (toString z)
  | .float r => .text (S.print r)
  | .bool b => .text (toString (flag b))
  | .text s => .text s
  | .stamp iso => .text iso

/-- A value in a BIGINT column; a text is not written there. -/
def holdBig : Value → Cell
  | .int z => .number (Staging.clampBig z)
  | .float r => S.whole r
  | .bool b => .number (flag b)
  | _ => .null

def holdDouble : Value → Cell
  | .int z => S.double (P.ofInt z)
  | .float r => S.double r
  | .bool b => .number (flag b)
  | _ => .null

/-- What a column of the type holds of a value. -/
def hold (type : String) (v : Value) : Cell :=
  if Staging.isTextType type then S.holdText v
  else if type = "BIGINT" then S.holdBig v
  else if type = "DOUBLE" then S.holdDouble P v
  else
    match v with
    | .missing => .null
    | .bool b => if type = "TINYINT(1)" then .number (flag b) else S.other type v
    | v => S.other type v

end Storage

namespace Staging
variable (S : Storage) (P : Reader)

/-- The type of a column that `to_sql` creates. -/
def DType.sqlType : DType → String
  | .int64 => "BIGINT"
  | .float64 => "DOUBLE"
  | .bool => "TINYINT(1)"
  | .object => "TEXT"
  | .datetime64 => "DATETIME"

def columnType (dtypes : List (String × String)) (column : String × Series) : String :=
  (dtypes.lookup column.1).getD (DType.sqlType column.2.dtype)

/-- The rows of a frame in the columns of a new table. -/
def newRows (dtypes : List (String × String)) (f : Frame) : List (List Cell) :=
  (List.range f.height).map (fun i => f.columns.map (fun c =>
    S.hold P (columnType dtypes c) (c.2.values.getD i .missing)))

def newTable (dtypes : List (String × String)) (f : Frame) : StagedTable :=
  ⟨f.columns.map (fun c => (c.1, columnType dtypes c, true)), [], [], newRows S P dtypes f⟩

/-- The rows of a frame in the columns of a table that is there; the server takes
names for the same when they differ in case only. -/
def addedRows (t : StagedTable) (f : Frame) : List (List Cell) :=
  (List.range f.height).map (fun i => t.columns.map (fun column =>
    match f.columns.find? (fun c => c.1 = lower column.1) with
    | some c => S.hold P column.2.1 (c.2.values.getD i .missing)
    | none => S.unset column))

/-- `to_sql` writes a new table, or rows after those that are there; constraints
can only refuse rows that a table without keys takes. -/
structure Writes (e : Engine) : Prop where
  mysql : TableSchema.isMysql (lower e.dialect)
  replace : ∀ old f dtypes, e.toSql old f false dtypes = ⟨some (newTable S P dtypes f), none⟩
  append : ∀ t f, (e.toSql (some t) f true []).error = none →
    (e.toSql (some t) f true []).table = some { t with rows := t.rows ++ addedRows S P t f }
  free : ∀ t f, t.primary = [] → t.indexes = [] → (∀ n ∈ f.names, n ∈ t.columns.map (lower ∘ Prod.fst)) →
    (∀ c ∈ t.columns, c.2.2 = true) → (e.toSql (some t) f true []).error = none

/-! A server that stores what it is sent, and files of lines and commas. -/

def storing : Engine where
  dialect := "mysql"
  schemaOf schema := schema.or (some "main")
  create definition := .ok definition.declared
  alter t _ := .ok t
  toSql old f append dtypes :=
    match old with
    | none => ⟨some (newTable S P dtypes f), none⟩
    | some t =>
      if append then ⟨some { t with rows := t.rows ++ addedRows S P t f }, none⟩
      else ⟨some (newTable S P dtypes f), none⟩

theorem writes_storing : Writes S P (storing S P) where
  mysql := by
    have known : TableSchema.isMysql (lower "mysql") := by decide
    exact known
  replace old f dtypes := by cases old <;> rfl
  append t f _ := rfl
  free t f _ _ _ _ := rfl

/-- Texts only. -/
def plain : Storage where
  double _ := .null
  whole _ := .null
  print r := r
  other _ _ := .null
  unset _ := .null
  double_ne_text _ _ := by simp
  whole_ne_text _ _ := by simp

/-- The pieces between separators. -/
def splitAt (separator : Char) : List Char → List (List Char)
  | [] => [[]]
  | c :: rest =>
    match splitAt separator rest with
    | [] => [[c]]
    | piece :: pieces => if c = separator then [] :: piece :: pieces else (c :: piece) :: pieces

def cellsOf (line : List Char) : List String := (splitAt ',' line).map String.ofList

/-- Lines of cells; blank lines are skipped. -/
def commaFile (content : String) : Option (List String × List (List String)) :=
  match (splitAt '\n' content.toList).filter (fun line => line ≠ []) with
  | [] => none
  | header :: rows => some (cellsOf header, rows.map cellsOf)

def commaFiles (P : Reader) : Pandas := { P with
  csv := commaFile
  excel := fun _ => none }

end Staging
end XpBuilder
