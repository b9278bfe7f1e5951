import XpBuilder.Library.Sql
import XpBuilder.PythonText

/-! Data frames as pandas reads them from an uploaded file: the text of a cell, the
type its whole column is read with, and the value that comes out of both. How a
column type is inferred and how numerals read is for `Reader` to say; a float is
known by its shortest `repr`. -/

namespace XpBuilder

/-- One cell of a data frame. -/
inductive Value where
  | missing
  | int (z : ℤ)
  | float (repr : String)
  | bool (b : Bool)
  | text (s : String)
  | stamp (iso : String)
  deriving DecidableEq, Repr

/-- The dtype of a column. -/
inductive DType where
  | int64 | float64 | bool | object | datetime64
  deriving DecidableEq, Repr

structure Series where
  dtype : DType
  values : List Value
  deriving DecidableEq, Repr

/-- The columns in order, each under its name. -/
structure Frame where
  columns : List (String × Series)
  deriving DecidableEq, Repr

/-- How a column of a CSV file is read: all cells alike. `flags` is an object
column of truth values among missing cells. -/
inductive Kind where
  | int | float | bool | flags | object
  deriving DecidableEq, Repr

def trueWords : List String := ["True", "TRUE", "true"]

def falseWords : List String := ["False", "FALSE", "false"]

def isBoolWord (t : String) : Bool := t ∈ trueWords ++ falseWords

/-- The default behaviour of `read_csv` and `to_numeric`: which texts count as
missing, which are numerals, and what they denote. -/
structure Reader where
  isNa : String → Bool
  isInt : String → Bool
  int : String → ℤ
  isFloat : String → Bool
  float : String → String
  ofInt : ℤ → String
  numeral : String → Option Value
  datetime : Value → Value
  isNa_empty : isNa "" = true
  word_of_bool : ∀ t, isBoolWord t → isFloat t = false
  float_of_int : ∀ t, isInt t → isFloat t ∧ float t = ofInt (int t)
  numeral_of_int : ∀ t, isInt t → numeral t = some (.int (int t))
  numeral_of_float : ∀ t, isFloat t → isInt t = false → numeral t = some (.float (float t))
  not_blank : ∀ t, isFloat t → PythonText.strip t ≠ "" ∧ PythonText.strip (float t) ≠ ""

/-- The numbers of a 64-bit column. -/
def int64 (z : ℤ) : Bool := -2 ^ 63 ≤ z && z < 2 ^ 63

def Kind.dtype : Kind → DType
  | .int => .int64
  | .float => .float64
  | .bool => .bool
  | .flags => .object
  | .object => .object

/-- `str` of a Python value; a missing cell prints as `nan`. -/
def Value.str : Value → String
  | .missing => "nan"
  | .int z => toString z
  | .float r => r
  | .bool b => if b then "True" else "False"
  | .text s => s
  | .stamp iso => iso

def Value.isInt : Value → Bool
  | .int _ => true
  | _ => false

namespace Reader
variable (P : Reader)

/-- The kind that `read_csv` gives a column: the first that takes all of its cells
but the missing ones, which only floats and objects can have among them. -/
def infer (texts : List String) : Kind :=
  let present := texts.filter (fun t => !P.isNa t)
  let whole : Bool := present.length = texts.length
  if present = [] then .float
  else if present.all P.isInt then
    if present.all (fun t => int64 (P.int t)) then (if whole then .int else .float) else .object
  else if present.all P.isFloat then .float
  else if present.all isBoolWord then (if whole then .bool else .flags)
  else .object

/-- The value of a cell in a column of this kind. -/
def value (k : Kind) (t : String) : Value :=
  match k with
  | .int => .int (P.int t)
  | .float => if P.isNa t then .missing else .float (P.float t)
  | .bool => .bool (t ∈ trueWords)
  | .flags => if P.isNa t then .missing else .bool (t ∈ trueWords)
  | .object => if P.isNa t then .missing else .text t

def series (k : Kind) (texts : List String) : Series := ⟨k.dtype, texts.map (P.value k)⟩

/-- The texts of the `i`-th column. -/
def columnTexts (rows : List (List String)) (i : Nat) : List String :=
  rows.map (fun row => row.getD i "")

/-- `read_csv` on the header and the rows of a file. -/
def readCsv (header : List String) (rows : List (List String)) : Frame :=
  ⟨header.zipIdx.map (fun h =>
    let texts := columnTexts rows h.2
    (h.1, P.series (P.infer texts) texts))⟩

/-- A value as `to_numeric` sees it in an object column. -/
def numericValue : Value → Value
  | .text s => (P.numeral s).getD .missing
  | .bool b => .int (if b then 1 else 0)
  | v => v

def floatValue : Value → Value
  | .int z => .float (P.ofInt z)
  | v => v

/-- `to_numeric` with `errors="coerce"` -/
def toNumeric (s : Series) : Series :=
  match s.dtype with
  | .object =>
    let values := s.values.map P.numericValue
    if values.all Value.isInt then ⟨.int64, values⟩ else ⟨.float64, values.map P.floatValue⟩
  | _ => s

/-- `to_datetime` with `errors="coerce"` -/
def toDatetime (s : Series) : Series := ⟨.datetime64, s.values.map P.datetime⟩

/-- A reader that knows no numerals. -/
def verbatim : Reader where
  isNa t := t = ""
  isInt _ := false
  int _ := 0
  isFloat _ := false
  float t := t
  ofInt z := toString z
  numeral _ := none
  datetime v := v
  isNa_empty := rfl
  word_of_bool _ _ := rfl
  float_of_int _ h := by simp at h
  numeral_of_int _ h := by simp at h
  numeral_of_float _ h := by simp at h
  not_blank _ h := by simp at h

end Reader

/-- One cell of `_blank_text`. -/
def Value.blankText (keepNull : Bool) (v : Value) : Value :=
  if keepNull then
    if v = .missing ∨ PythonText.strip v.str = "" then .missing else v
  else if v = .missing then .text ""
  else .text v.str

/-- `_blank_text` -/
def Series.blankText (keepNull : Bool) (s : Series) : Series :=
  ⟨if keepNull then s.dtype else .object, s.values.map (Value.blankText keepNull)⟩

namespace Frame

def names (f : Frame) : List String := f.columns.map Prod.fst

/-- `len(df)` -/
def height (f : Frame) : Nat :=
  match f.columns with
  | [] => 0
  | c :: _ => c.2.values.length

/-- `df.empty` -/
def isEmpty (f : Frame) : Bool := f.height = 0

/-- `df.columns = names` -/
def rename (f : Frame) (names : List String) : Frame :=
  ⟨(names.zip f.columns).map (fun c => (c.1, c.2.2))⟩

end Frame
end XpBuilder
