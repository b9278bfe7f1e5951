import XpBuilder.Library.SqlRegroup
import XpBuilder.Publish.VirtualDataset

/-! What a published chart computes. Its rows are those of the report's statement, under
the labels of the select list; it groups them by some of the labels and evaluates a saved
metric of the dataset over each group. -/

namespace XpBuilder.Publish
open Sql (Cell Engine Contents Select Env Output)
open PythonText (truthy)

/-! ## Saved metrics -/

/-- The expressions that publishing registers, as a database reads them. -/
inductive ChartMetric where
  | countAll
  | sum (column : String)
  | avg (column : String)
  deriving DecidableEq, Repr

/-- The backtick. -/
def tick : Char := Char.ofNat 96

/-- A name with a backtick and a bracket behind it. -/
def quotedName (cs : List Char) : Option String :=
  let name := cs.take (cs.length - 2)
  if cs.drop (cs.length - 2) = [tick, ')'] ∧ tick ∉ name then some (String.ofList name) else none

/-- `ticks` says whether the database reads backticks as quotes. -/
def readMetric (ticks : Bool) (expression : String) : Option ChartMetric :=
  let cs := expression.toList
  if cs = "COUNT(*)".toList then some .countAll
  else if ticks = false then none
  else if cs.take 5 = "SUM(`".toList then (quotedName (cs.drop 5)).map .sum
  else if cs.take 5 = "AVG(`".toList then (quotedName (cs.drop 5)).map .avg
  else none

/-- The cell of a row under a label. -/
def outputCell (labels : List String) (name : String) (cells : List Cell) : Cell :=
  ((labels.zip cells).lookup name).getD .null

namespace ChartMetric

def columns : ChartMetric → List String
  | countAll => []
  | sum column => [column]
  | avg column => [column]

def eval (E : Engine) (labels : List String) (rows : List (List Cell)) : ChartMetric → Cell
  | countAll => .number rows.length
  | sum column => Sql.Aggregate.sum.eval E (rows.map (outputCell labels column))
  | avg column => Sql.Aggregate.avg.eval E (rows.map (outputCell labels column))

end ChartMetric

/-- The expression of the dataset's metric of this name, once `_ensure_metrics` has run. -/
def publishedExpression (d : Definition) (t : SqlaTable) (name : String) : Option String :=
  ((registerMetrics d t.metrics).find? (fun m => m.metricName = name)).map SqlMetric.expression

/-- `params.groupby` of the chart. -/
def publishedGroupby (vizKey : String) (entry : VizEntry) (datasetId : Nat) (t : SqlaTable)
    (d : Definition) : List String :=
  match buildParams vizKey entry datasetId { t with metrics := registerMetrics d t.metrics } d with
  | .ok params => params.groupby.getD []
  | .error _ => []

/-! ## The chart's query -/

def groupKey (labels groupby : List String) (cells : List Cell) : List Cell :=
  groupby.map (fun name => outputCell labels name cells)

/-- The groups of the chart: one of all rows without a grouping. -/
def chartKeys (labels groupby : List String) (rows : List (List Cell)) : List (List Cell) :=
  if groupby = [] then [[]] else (rows.map (groupKey labels groupby)).dedup

/-- The groups with their values; `none` when the database refuses the query, which it
does if two columns have one label or a name is not a column. -/
def chart (ticks : Bool) (E : Engine) (labels groupby : List String) (rows : List (List Cell))
    (expression : String) : Option (List (List Cell × Cell)) :=
  match readMetric ticks expression with
  | none => none
  | some metric =>
    if labels.Nodup ∧ (∀ name ∈ groupby, name ∈ labels) ∧ ∀ name ∈ metric.columns, name ∈ labels then
      some ((chartKeys labels groupby rows).map (fun key =>
        (key, metric.eval E labels (rows.filter (fun cells => groupKey labels groupby cells = key)))))
    else none

/-! ## The report's own values -/

/-- The labels of the report's result. -/
def labelsOf (s : Select) : List String := s.columns.map Sql.SelectColumn.label

/-- The value that a source row has under a label. -/
def sourceValue (E : Engine) (s : Select) (env : Env) (name : String) : Cell :=
  ((s.columns.find? (fun c => c.label = name)).map (fun c => c.body.expr.eval E env)).getD .null

/-- The filtered, joined source rows that fall in a group of the chart. -/
def rowsIn (E : Engine) (tables : Contents) (s : Select) (groupby : List String) (key : List Cell) :
    List Env :=
  (s.sourceRows E tables).filter (fun env => groupby.map (sourceValue E s env) = key)

/-- The chart of every metric of the report shows the report's own aggregate of it: the
metric's label names an expression that `_ensure_metrics` registers, and its value for
each group is the metric over the source rows of that group. -/
def KeepsMeaning (ticks : Bool) (E : Engine) (tables : Contents) (bound : SqlBuilder.Tables) (s : Select)
    (rows : List (List Cell)) (d : Definition) (t : SqlaTable) (groupby : List String) : Prop :=
  ∀ m ∈ d.metrics, ∀ c, SqlBuilder.metric bound m = .ok c →
    ∃ label expression, truthy m.label = some label ∧
      (wantedMetrics d).get label = some expression ∧
      publishedExpression d t label = some expression ∧
      chart ticks E (labelsOf s) groupby rows expression =
        some ((chartKeys (labelsOf s) groupby rows).map (fun key =>
          (key, c.body.eval E (rowsIn E tables s groupby key))))

end XpBuilder.Publish
