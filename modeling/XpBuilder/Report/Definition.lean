import XpBuilder.PythonText
import Mathlib.Data.Rat.Defs

/-! Report definitions as the JSON document stores them, and the defaults
`normalize_definition` fills in. Entries are read as typed records: an entry
without a required key raises before anything else happens. -/

namespace XpBuilder

structure DatasetEntry where
  id : Nat
  aliasName : Option String
  deriving DecidableEq, Repr

structure ColumnEntry where
  dataset : Nat
  column : String
  label : Option String
  deriving DecidableEq, Repr

/-- `entry.get("label") or entry["column"]` -/
def ColumnEntry.outputLabel (c : ColumnEntry) : String := PythonText.orElse c.label c.column

structure MetricEntry where
  dataset : Nat
  column : String
  aggregate : Option String
  label : Option String
  deriving DecidableEq, Repr

def MetricEntry.aggregateName (m : MetricEntry) : String :=
  PythonText.upper (PythonText.orElse m.aggregate "SUM")

def MetricEntry.outputLabel (m : MetricEntry) : String :=
  PythonText.orElse m.label (m.aggregateName ++ "(" ++ m.column ++ ")")

structure GroupEntry where
  dataset : Nat
  column : String
  label : Option String
  deriving DecidableEq, Repr

/-- A scalar of the JSON document. A float carries the text Python prints for it. -/
inductive Literal where
  | null
  | flag (b : Bool)
  | int (i : Int)
  | float (q : ℚ) (printed : String)
  | text (s : String)
  deriving DecidableEq

/-- Python's `str(value)` -/
def Literal.str : Literal → String
  | .null => "None"
  | .flag true => "True"
  | .flag false => "False"
  | .int i => toString i
  | .float _ printed => printed
  | .text s => s

/-- A list carries the text Python prints for it as a whole. -/
inductive FilterValue where
  | one (value : Literal)
  | many (items : List Literal) (printed : String)
  deriving DecidableEq

/-- Python's `str(value)` -/
def FilterValue.str : FilterValue → String
  | .one value => value.str
  | .many _ printed => printed

/-- `value if isinstance(value, list) else [value]` -/
def FilterValue.items : FilterValue → List Literal
  | .one value => [value]
  | .many items _ => items

structure FilterEntry where
  dataset : Nat
  column : String
  op : Option String
  value : FilterValue
  deriving DecidableEq

structure OrderEntry where
  dataset : Nat
  column : Option String
  label : Option String
  desc : Bool
  deriving DecidableEq, Repr

structure Relationship where
  leftDataset : Nat
  leftColumn : String
  rightDataset : Nat
  rightColumn : String
  joinType : Option String
  deriving DecidableEq, Repr

/-- The stored document; a missing or null key is `none`. -/
structure RawDefinition where
  version : Option Int
  datasets : Option (List DatasetEntry)
  relationships : Option (List Relationship)
  columns : Option (List ColumnEntry)
  metrics : Option (List MetricEntry)
  groupBy : Option (List GroupEntry)
  filters : Option (List FilterEntry)
  orderBy : Option (List OrderEntry)
  limit : Option Int
  deriving DecidableEq

structure Definition where
  version : Int
  datasets : List DatasetEntry
  relationships : List Relationship
  columns : List ColumnEntry
  metrics : List MetricEntry
  groupBy : List GroupEntry
  filters : List FilterEntry
  orderBy : List OrderEntry
  limit : Int
  deriving DecidableEq

/-- The GROUP BY entries of a definition with metrics: an empty list stands for
the displayed columns. -/
def Definition.groupEntries (d : Definition) : List GroupEntry :=
  if d.groupBy = [] then d.columns.map (fun c => ⟨c.dataset, c.column, none⟩) else d.groupBy

/-- `int(value or fallback)`: a stored `0` is false and takes the fallback. -/
def intOr (value : Option Int) (fallback : Int) : Int :=
  match value with
  | none => fallback
  | some n => if n = 0 then fallback else n

def normalizeDefinition (raw : RawDefinition) : Definition where
  version := intOr raw.version 1
  datasets := raw.datasets.getD []
  relationships := raw.relationships.getD []
  columns := raw.columns.getD []
  metrics := raw.metrics.getD []
  groupBy := raw.groupBy.getD []
  filters := raw.filters.getD []
  orderBy := raw.orderBy.getD []
  limit := intOr raw.limit 1000

/-- A normalised definition read as a stored document again. -/
def Definition.toRaw (d : Definition) : RawDefinition where
  version := some d.version
  datasets := some d.datasets
  relationships := some d.relationships
  columns := some d.columns
  metrics := some d.metrics
  groupBy := some d.groupBy
  filters := some d.filters
  orderBy := some d.orderBy
  limit := some d.limit

theorem intOr_ne_zero (value : Option Int) {fallback : Int} (h : fallback ≠ 0) :
    intOr value fallback ≠ 0 := by
  unfold intOr
  split
  · exact h
  · split_ifs with hn
    · exact h
    · exact hn

theorem intOr_some_intOr (value : Option Int) {fallback : Int} (h : fallback ≠ 0) :
    intOr (some (intOr value fallback)) fallback = intOr value fallback :=
  if_neg (intOr_ne_zero value h)

/-- Normalising twice, as `execute_report` and `build_select` do, changes nothing. -/
theorem normalizeDefinition_toRaw (raw : RawDefinition) :
    normalizeDefinition (normalizeDefinition raw).toRaw = normalizeDefinition raw := by
  simp only [normalizeDefinition, Definition.toRaw, Option.getD_some,
    intOr_some_intOr _ (by decide : (1 : Int) ≠ 0),
    intOr_some_intOr _ (by decide : (1000 : Int) ≠ 0)]

end XpBuilder
