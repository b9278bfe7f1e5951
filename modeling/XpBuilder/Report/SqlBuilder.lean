import XpBuilder.Metadata
import XpBuilder.Library.Sql
import XpBuilder.Library.Fallible

/-! From a report definition to one SELECT: `build_select` with its helpers. Every
failure is raised in the order in which the code meets it. What the code asks
its surroundings (the datasets the user may access, the columns a table has in
its database) is a `BuildEnv`. -/

namespace XpBuilder

/-- A `ReportDesignerError`, or the text of any other exception. -/
inductive BuildError where
  | report (message : String)
  | other (message : String)
  deriving DecidableEq, Repr

/-- A table as a dataset names it; the database fills in what is `none`. -/
structure TableRef where
  databaseId : Nat
  catalog : Option String
  schema : Option String
  name : String
  deriving DecidableEq, Repr

def SqlaTable.tableRef (d : SqlaTable) : TableRef :=
  ⟨d.databaseId, d.catalog, PythonText.truthy d.schema, d.tableName⟩

/-- `find` is `DatasetDAO.find_by_id` under the user's access filter and
`reflect` the column names of a table, `none` when it does not exist. -/
structure BuildEnv where
  find : Nat → Option SqlaTable
  reflect : TableRef → Option (List String)
  reflect_ne : ∀ r columns, reflect r = some columns → columns ≠ []

namespace SqlBuilder
open PythonText (orElse truthy upper)

def aggregation : String → Option Sql.Aggregate
  | "SUM" => some .sum
  | "AVG" => some .avg
  | "COUNT" => some .count
  | "COUNT_DISTINCT" => some .countDistinct
  | "MIN" => some .min
  | "MAX" => some .max
  | _ => none

def comparison : String → Option Sql.Comparison
  | "=" => some .eq
  | "!=" => some .ne
  | ">" => some .gt
  | ">=" => some .ge
  | "<" => some .lt
  | "<=" => some .le
  | _ => none

def joinKind : String → Option Sql.JoinKind
  | "INNER" => some .inner
  | "LEFT" => some .left
  | "FULL" => some .full
  | _ => none

/-! ## Datasets -/

structure Loaded where
  dataset : SqlaTable
  aliasName : String
  deriving DecidableEq

/-- The checks of `_load_datasets` on one entry. -/
def loadEntry (env : BuildEnv) (id : Nat) : Except BuildError SqlaTable :=
  match env.find id with
  | none => throw (.report s!"Dataset {id} not found or not accessible")
  | some dataset =>
    if dataset.isVirtual then
      throw (.report (s!"Dataset {id} is a virtual (SQL) dataset, which is not " ++
        "supported by the Report Designer yet"))
    else pure dataset

def loadFrom (env : BuildEnv) : Nat → List DatasetEntry → Dict Nat Loaded →
    Except BuildError (Dict Nat Loaded)
  | _, [], acc => pure acc
  | index, entry :: rest, acc => do
    let dataset ← loadEntry env entry.id
    loadFrom env (index + 1) rest
      (acc.set entry.id ⟨dataset, orElse entry.aliasName s!"d{index + 1}"⟩)

/-- `_load_datasets`; a dataset listed twice keeps its last alias. -/
def loadDatasets (env : BuildEnv) (d : Definition) : Except BuildError (Dict Nat Loaded) := do
  let loaded ← loadFrom env 0 d.datasets Dict.empty
  if loaded.entries.isEmpty then throw (.report "Report needs at least one dataset")
  else pure loaded

/-- A loaded dataset with its aliased table and the columns of that table. -/
structure Bound where
  dataset : SqlaTable
  clause : Sql.TableClause
  columns : List String
  deriving DecidableEq

/-- `dataset.get_sqla_table_object().alias(alias)` -/
def bindTable (env : BuildEnv) (id : Nat) (l : Loaded) : Except BuildError Bound :=
  match env.reflect l.dataset.tableRef with
  | none => throw (.other l.dataset.tableName)
  | some columns =>
    pure ⟨l.dataset, ⟨id, truthy l.dataset.schema, l.dataset.tableName, l.aliasName⟩, columns⟩

abbrev Tables := Dict Nat Bound

def loadTables (env : BuildEnv) (d : Definition) : Except BuildError Tables := do
  let loaded ← loadDatasets env d
  Fallible.comprehend (bindTable env) loaded

/-- `datasets[id]` and `tables[id]` have the same keys. -/
def lookup (tables : Tables) (id : Nat) : Except BuildError Bound :=
  match tables.get id with
  | none => throw (.other (toString id))
  | some b => pure b

/-! ## Expressions -/

/-- `table_alias.c[column]` -/
def physicalColumn (b : Bound) (name : String) : Except BuildError Sql.Expr :=
  if name ∈ b.columns then pure (.column b.clause name) else throw (.other ("'" ++ name ++ "'"))

/-- The SQL of a column that is defined by an expression. -/
def columnExpression (d : SqlaTable) (name : String) : Option String :=
  (d.getColumn name).bind (fun c => truthy c.expression)

/-- `_column_expr` -/
def columnExpr (b : Bound) (name : String) : Except BuildError Sql.Expr :=
  match columnExpression b.dataset name with
  | some sql => pure (.raw ("(" ++ sql ++ ")"))
  | none => physicalColumn b name

def exprOf (tables : Tables) (dataset : Nat) (column : String) : Except BuildError Sql.Expr := do
  columnExpr (← lookup tables dataset) column

def literalCell : Literal → Sql.Cell
  | .null => .null
  | .flag true => .number 1
  | .flag false => .number 0
  | .int i => .number i
  | .float q _ => .number q
  | .text s => .text s

def orderWithNone : String :=
  "Only '=', '!=', 'is_()', 'is_not()', 'is_distinct_from()', 'is_not_distinct_from()' operators " ++
    "can be used with None/True/False"

/-- `COMPARISONS[op](column, value)`: equality with `None` is a NULL test, the
order comparisons take neither `None` nor a boolean, and a list has no literal
form when the statement is compiled. -/
def compareFilter (op : Sql.Comparison) (e : Sql.Expr) :
    FilterValue → Except BuildError Sql.Predicate
  | .many _ _ => throw (.other "Could not render literal value")
  | .one .null =>
    match op with
    | .eq => pure (.isNull e)
    | .ne => pure (.isNotNull e)
    | _ => throw (.other orderWithNone)
  | .one (.flag b) =>
    match op with
    | .eq => pure (.compare .eq e (literalCell (.flag b)))
    | .ne => pure (.compare .ne e (literalCell (.flag b)))
    | _ => throw (.other orderWithNone)
  | .one v => pure (.compare op e (literalCell v))

/-- The part of `_filter_expr` after the column: the test for one operator. -/
def filterTest (op : String) (e : Sql.Expr) (value : FilterValue) :
    Except BuildError Sql.Predicate :=
  if op = "IS NULL" then pure (.isNull e)
  else if op = "IS NOT NULL" then pure (.isNotNull e)
  else if op = "IN" then
    pure (if value.items = [] then .never else .isIn e (value.items.map literalCell))
  else if op = "NOT IN" then
    pure (if value.items = [] then .always else .notIn e (value.items.map literalCell))
  else if op = "BETWEEN" then
    match value with
    | .many [low, high] _ => pure (.between e (literalCell low) (literalCell high))
    | _ => throw (.report "BETWEEN filter needs a [low, high] value")
  else if op = "LIKE" then pure (.like e ("%" ++ value.str ++ "%"))
  else
    match comparison op with
    | none => throw (.report s!"Unsupported filter operator: {op}")
    | some c => compareFilter c e value

/-- `_filter_expr` -/
def filterExpr (tables : Tables) (f : FilterEntry) : Except BuildError Sql.Predicate := do
  let e ← exprOf tables f.dataset f.column
  filterTest (upper (orElse f.op "=")) e f.value

/-! ## The select list -/

def dimension (tables : Tables) (c : ColumnEntry) : Except BuildError Sql.SelectColumn := do
  let e ← exprOf tables c.dataset c.column
  pure ⟨c.outputLabel, .plain e⟩

def metric (tables : Tables) (m : MetricEntry) : Except BuildError Sql.SelectColumn :=
  match aggregation (m.aggregateName) with
  | none => throw (.report s!"Unsupported aggregation: {m.aggregateName}")
  | some a => do
    let e ← exprOf tables m.dataset m.column
    pure ⟨m.outputLabel, .aggregate a e⟩

/-! ## The clauses -/

def joinClause (tables : Tables) (r : Relationship) : Except BuildError Sql.Join := do
  let left ← lookup tables r.leftDataset
  let right ← lookup tables r.rightDataset
  let _ ← physicalColumn left r.leftColumn
  let _ ← physicalColumn right r.rightColumn
  let joinType := upper (orElse r.joinType "INNER")
  match joinKind joinType with
  | none => throw (.report s!"Unsupported join type: {joinType}")
  | some kind => pure ⟨left.clause, r.leftColumn, right.clause, r.rightColumn, kind⟩

/-- `_apply_group_by`: required whenever metrics are present. -/
def groupBy (tables : Tables) (d : Definition) : Except BuildError (Option (List Sql.Expr)) :=
  if d.metrics = [] then pure none
  else do
    let exprs ← d.groupEntries.mapM (fun g => exprOf tables g.dataset g.column)
    pure (some exprs)

/-- `label_map`: a label used twice denotes the later column. -/
def labelMap (columns : List Sql.SelectColumn) : Dict String Sql.Output :=
  columns.foldl (fun acc c => acc.set c.label c.body) Dict.empty

def orderExpr (tables : Tables) (labels : Dict String Sql.Output) (o : OrderEntry) :
    Except BuildError (Sql.Output × Bool) :=
  match (truthy o.label).bind labels.get with
  | some body => pure (body, o.desc)
  | none => do
    let b ← lookup tables o.dataset
    match o.column with
    | none => throw (.other "None")
    | some column =>
      let e ← columnExpr b column
      pure (.plain e, o.desc)

/-- `build_select`: the statement and the dataset whose database runs it. -/
def buildSelect (env : BuildEnv) (raw : RawDefinition) :
    Except BuildError (Sql.Select × SqlaTable) := do
  let d := normalizeDefinition raw
  let tables ← loadTables env d
  let columns ← d.columns.mapM (dimension tables)
  let metrics ← d.metrics.mapM (metric tables)
  if columns ++ metrics = [] then throw (.report "Report needs at least one field or metric")
  else
    match d.datasets with
    | [] => throw (.other "list index out of range")
    | first :: _ => do
      let primary ← lookup tables first.id
      let joins ← d.relationships.mapM (joinClause tables)
      let groups ← groupBy tables d
      let filters ← d.filters.mapM (filterExpr tables)
      let orders ← d.orderBy.mapM (orderExpr tables (labelMap (columns ++ metrics)))
      pure (⟨columns ++ metrics, primary.clause, joins, filters, groups, orders, d.limit⟩,
        primary.dataset)

end SqlBuilder
end XpBuilder
