import XpBuilder.Report.Labels

/-! A report as a PDF. The renderer gets the stored definition and the result of running
it, with values as the driver returned them, and finds out again which columns are
metrics and which are grouped, by comparing the names of the result with what the
entries print. -/

namespace XpBuilder
open PythonText (orElse)

namespace Pdf

/-! ## What is rendered -/

/-- A value of a result in Python. The texts are what it prints. -/
inductive Value where
  | null
  | flag (b : Bool)
  | int (i : Int)
  | float (q : ℚ) (printed : String)
  | decimal (q : ℚ) (printed : String)
  | text (s : String)
  deriving DecidableEq

namespace Value

/-- `str(value)` -/
def str : Value → String
  | .null => "None"
  | .flag true => "True"
  | .flag false => "False"
  | .int i => toString i
  | .float _ printed => printed
  | .decimal _ printed => printed
  | .text s => s

/-- The value in SQL. Python compares by it, whatever the types. -/
def cell : Value → Sql.Cell
  | .null => .null
  | .flag true => .number 1
  | .flag false => .number 0
  | .int i => .number i
  | .float q _ => .number q
  | .decimal q _ => .number q
  | .text s => .text s

end Value

/-- The rows of a result with the types that the driver chose. -/
def TypedRows (rows : List (Dict String Sql.Cell)) (typed : List (Dict String Value)) : Prop :=
  List.Forall₂ (fun record row => ∀ name, (row.get name).map Value.cell = record.get name) rows typed

/-- A cell of the band of totals. -/
inductive TotalCell where
  | caption
  | amount (q : ℚ)
  | blank
  deriving DecidableEq

/-- A row of the table. The rows around a band show parts of its key. -/
inductive Line where
  | cells (texts : List String)
  | groupHeader (shown : List String)
  | subtotal (shown : List String)
  | gap
  | totalRows (count : Nat)
  | grandTotal (cells : List TotalCell)
  deriving DecidableEq

/-- `_cell` -/
def cellText (value : Value) : String :=
  let text := if value = .null then "" else value.str
  let short := if 120 < text.length then PythonText.clip 117 text ++ "..." else text
  String.ofList (short.toList.map (fun c => if c = '\n' then ' ' else c))

/-- `_numeric` -/
def numeric : Value → Option ℚ
  | .int i => some i
  | .float q _ => some q
  | _ => none

/-- `row.get(name, "")` -/
def valueAt (row : Dict String Value) (name : String) : Value := (row.get name).getD (.text "")

def detail (columns : List String) (row : Dict String Value) : Line :=
  .cells (columns.map (fun col => cellText (valueAt row col)))

/-! ## Bands -/

/-- What `_grouped_rows` has while it reads the rows. -/
structure Bands where
  tableRows : List Line
  currentKey : Option (List Value)
  count : Nat

def keyOf (columns : List String) (groupIdx : List Nat) (row : Dict String Value) : List Value :=
  groupIdx.map (fun i => valueAt row (columns.getD i ""))

/-- `_flush_group` -/
def flushGroup (s : Bands) : Bands :=
  if s.tableRows = [] then s
  else
    let last := match s.currentKey with
      | some key => (key.getLast?.map Value.str).getD ""
      | none => ""
    { s with tableRows := s.tableRows ++ [.subtotal [last], .gap] }

/-- A row with another key than the one before opens a band. -/
def openBand (key : List Value) (s : Bands) : Bands :=
  if s.currentKey.map (List.map Value.cell) = some (key.map Value.cell) then s
  else
    let flushed := flushGroup s
    { flushed with
      currentKey := some key
      tableRows := flushed.tableRows ++ [.groupHeader [(key.head?.map Value.str).getD ""]] }

def groupRow (columns : List String) (groupIdx : List Nat) (s : Bands) (row : Dict String Value) : Bands :=
  let opened := openBand (keyOf columns groupIdx row) s
  { opened with tableRows := opened.tableRows ++ [detail columns row], count := opened.count + 1 }

/-- `_grouped_rows` -/
def groupedRows (columns : List String) (rows : List (Dict String Value)) (groupIdx : List Nat) : List Line :=
  let s := flushGroup (rows.foldl (groupRow columns groupIdx) ⟨[], none, 0⟩)
  s.tableRows ++ [.totalRows s.count]

/-! ## Totals -/

def addMetric (columns : List String) (row : Dict String Value) (grand : List ℚ) (idx : Nat) : List ℚ :=
  match (row.get (columns.getD idx "")).bind numeric with
  | some value => grand.modify idx (· + value)
  | none => grand

/-- The sums of `_aggregate_rows`, one for each column. -/
def grandTotals (columns : List String) (rows : List (Dict String Value)) (metricIdx : List Nat) : List ℚ :=
  rows.foldl (fun grand row => metricIdx.foldl (addMetric columns row) grand)
    (List.replicate columns.length 0)

/-- `_aggregate_rows`: the rows and the band of totals. -/
def aggregateRows (columns : List String) (rows : List (Dict String Value)) (metricIdx : List Nat) :
    List Line × List TotalCell :=
  let grand := grandTotals columns rows metricIdx
  (rows.map (detail columns),
    .caption :: (List.range columns.length).map (fun idx =>
      if idx ∈ metricIdx ∧ grand.getD idx 0 ≠ 0 then .amount (grand.getD idx 0) else .blank))

end Pdf

/-! ## The roles of the columns -/

/-- An f-string prints a missing aggregate as a word. -/
def MetricEntry.prints (m : MetricEntry) (col : String) : Bool :=
  m.label = some col || m.aggregate.getD "None" ++ "(" ++ m.column ++ ")" = col

def GroupEntry.prints (g : GroupEntry) (col : String) : Bool := g.label = some col || g.column = col

namespace Pdf

/-- The positions of the names that an entry prints. -/
def positions (prints : String → Bool) (columns : List String) : List Nat :=
  (columns.zipIdx.filter (fun e => prints e.1)).map Prod.snd

def metricIdx (raw : RawDefinition) (columns : List String) : List Nat :=
  positions (fun col => (raw.metrics.getD []).any (fun m => m.prints col)) columns

def groupIdx (raw : RawDefinition) (columns : List String) : List Nat :=
  positions (fun col => (raw.groupBy.getD []).any (fun g => g.prints col)) columns

/-- `_render`: the table, with its rows after the header. -/
def render (raw : RawDefinition) (columns : List String) (rows : List (Dict String Value)) : List Line :=
  if raw.metrics.getD [] = [] ∧ groupIdx raw columns ≠ [] then
    groupedRows columns rows (groupIdx raw columns)
  else if raw.metrics.getD [] ≠ [] then
    let (body, total) := aggregateRows columns rows (metricIdx raw columns)
    body ++ [.grandTotal total]
  else rows.map (detail columns)

theorem mem_positions {prints : String → Bool} {columns : List String} {i : Nat} :
    i ∈ positions prints columns ↔ ∃ col, columns[i]? = some col ∧ prints col := by
  unfold positions
  simp only [List.mem_map, List.mem_filter, Prod.exists, exists_eq_right]
  simp only [List.mk_mem_zipIdx_iff_getElem?]

theorem sorted_positions (prints : String → Bool) (columns : List String) :
    (positions prints columns).Pairwise (· < ·) := by
  have whole : (columns.zipIdx.map Prod.snd).Pairwise (· < ·) := by
    rw [List.zipIdx_map_snd]
    exact List.pairwise_lt_range'
  exact whole.sublist (List.filter_sublist.map Prod.snd)

end Pdf
end XpBuilder
