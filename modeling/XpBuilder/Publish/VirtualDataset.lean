import XpBuilder.Library.Transaction
import XpBuilder.Report.SqlBuilder

/-! The virtual dataset behind a published report: its generated name, the lookup
that finds it again, the metadata it fetches and the metrics and chart
parameters derived from the definition. -/

namespace XpBuilder

/-- A `PublishError`, or the text of any other exception. -/
inductive PublishFailure where
  | publish (message : String)
  | other (message : String)
  deriving DecidableEq, Repr

inductive VizKind where
  | columns | aggregate | metric
  deriving DecidableEq, Repr

structure VizEntry where
  label : String
  kind : VizKind
  viz : String
  requiresDttm : Bool
  deriving DecidableEq, Repr

/-- The commits of publishing and unpublishing, in source order. -/
inductive CommitSite where
  | dataset | metadata | metrics | flush | chart | discard | newDashboard | detach | detachAgain
  | report | unplace | deleteChart | deleteDataset | clear
  deriving DecidableEq, Repr

/-- What `external_metadata` and `get_metrics` return for a dataset. -/
structure External where
  columns : List (String × Option String)
  metrics : List SqlMetric
  deriving DecidableEq, Repr

/-- The surroundings of one request: the user, the databases and what the
metadata database refuses to commit. -/
structure PublishEnv where
  user : Option Nat
  accessible : Nat → SqlaTable → Bool
  reflect : TableRef → Option (List String)
  reflect_ne : ∀ r columns, reflect r = some columns → columns ≠ []
  compile : Nat → Sql.Select → Except String String
  external : SqlaTable → Option External
  temporalType : Option String → Bool
  refuses : CommitSite → Option String
  freshIds : Layout.FreshIds
  now : Nat

/-- `build_select` sees the datasets of the session under the user's filter. -/
def PublishEnv.buildEnv (env : PublishEnv) (m : Metadata) : BuildEnv where
  find id := (m.datasets.get id).filter (env.accessible id)
  reflect := env.reflect
  reflect_ne := env.reflect_ne

abbrev PublishM (α : Type) := Tx PublishFailure Metadata α

def PublishEnv.commit (env : PublishEnv) (site : CommitSite) : PublishM Unit :=
  Tx.commit ((env.refuses site).map .other)

namespace Publish
open PythonText (orElse truthy strip upper lower clip subUnsafe)

def vizCatalog : String → Option VizEntry
  | "table" => some ⟨"Table", .columns, "table", false⟩
  | "pie" => some ⟨"Pie", .aggregate, "pie", false⟩
  | "bar" => some ⟨"Bar", .aggregate, "echarts_timeseries_bar", true⟩
  | "line" => some ⟨"Line", .aggregate, "echarts_timeseries_line", true⟩
  | "area" => some ⟨"Area", .aggregate, "echarts_area", true⟩
  | "treemap" => some ⟨"Treemap", .aggregate, "treemap_v2", false⟩
  | "sunburst" => some ⟨"Sunburst", .aggregate, "sunburst_v2", false⟩
  | "funnel" => some ⟨"Funnel", .aggregate, "funnel", false⟩
  | "radar" => some ⟨"Radar", .aggregate, "radar", false⟩
  | "box_plot" => some ⟨"Box Plot", .aggregate, "box_plot", false⟩
  | "histogram" => some ⟨"Histogram", .aggregate, "histogram_v2", false⟩
  | "scatter" => some ⟨"Scatter", .aggregate, "echarts_timeseries_scatter", false⟩
  | "big_number" => some ⟨"Big Number", .metric, "big_number", false⟩
  | "big_number_total" => some ⟨"Big Number Total", .metric, "big_number_total", false⟩
  | _ => none

def numericPrefixes : List String :=
  ["int", "float", "decimal", "double", "numeric", "bigint", "smallint", "tinyint", "mediumint"]

/-- `_is_numeric_type` -/
def isNumericType (type : Option String) : Bool :=
  match truthy type with
  | none => false
  | some t => numericPrefixes.any (fun p => p.toList.isPrefixOf (lower t).toList)

/-- `_slugify` -/
def slugify (value : String) : String :=
  let slug := clip 100 (subUnsafe "-" (lower (strip value)))
  if slug = "" then "dashboard" else slug

/-! ## The dataset -/

/-- The table name of the dataset behind a report. -/
def datasetName (reportId : Nat) (reportName : String) : String :=
  let base := lower (PythonText.stripUnderscores (subUnsafe "_" reportName))
  clip 120 (s!"rd_{reportId}_" ++ (if base = "" then "report" else base))

/-- The dataset that `_find_or_create_dataset` finds: by database and name only. -/
def findDataset (m : Metadata) (databaseId : Nat) (name : String) : Option (Nat × SqlaTable) :=
  m.datasets.first (fun d => d.databaseId = databaseId && d.tableName = name)

/-- `fetch_metadata`: merge the external columns into those of the dataset. A
column that was there keeps its `is_dttm`, loses its expression and takes the
new type; columns with an expression are kept at the end. -/
def mergeColumns (temporalType : Option String → Bool) (old : List TableColumn)
    (new : List (String × Option String)) : List TableColumn :=
  let merged := new.map (fun c =>
    match old.find? (fun o => o.columnName = c.1) with
    | none => (⟨c.1, c.2, none, temporalType c.2⟩ : TableColumn)
    | some o => { o with type := c.2, expression := some "" })
  merged ++ old.filter (fun o =>
    (truthy o.expression).isSome && o.columnName ∉ new.map Prod.fst)

/-- `add_missing_metrics` -/
def addMissingMetrics (metrics new : List SqlMetric) : List SqlMetric :=
  metrics ++ new.filter (fun n => n.metricName ∉ metrics.map SqlMetric.metricName)

def mergeMetadata (env : PublishEnv) (ext : External) (d : SqlaTable) : SqlaTable :=
  let columns := mergeColumns env.temporalType d.columns ext.columns
  let dated := (columns.take ext.columns.length).find? (fun c => c.isDttm)
  { d with
    columns := columns
    mainDttmCol := (truthy d.mainDttmCol).or (dated.map TableColumn.columnName)
    metrics := addMissingMetrics d.metrics ext.metrics }

/-- Create the dataset or give the one found the new SQL. -/
def putDataset (databaseId : Nat) (name sql : String) (m : Metadata) : Metadata :=
  match findDataset m databaseId name with
  | none =>
    { m with datasets := m.datasets.insert ⟨databaseId, none, none, name, some sql, [], [], none⟩ }
  | some (id, _) =>
    { m with datasets := m.datasets.update id (fun d => { d with sql := some sql }) }

def datasetIdOf (databaseId : Nat) (name : String) (m : Metadata) : Nat :=
  match findDataset m databaseId name with
  | none => m.datasets.next
  | some (id, _) => id

/-- `dataset.fetch_metadata()`; it raises when the columns cannot be read. -/
def fetchMetadata (env : PublishEnv) (datasetId : Nat) : PublishM Unit := do
  match ← Tx.read (fun m => (m.datasets.get datasetId).bind env.external) with
  | none => Tx.raise (.other "metadata")
  | some ext => Tx.update (fun m =>
      { m with datasets := m.datasets.update datasetId (mergeMetadata env ext) })

/-- `_find_or_create_dataset`; a failing metadata fetch is rolled back and ignored. -/
def findOrCreateDataset (env : PublishEnv) (reportId : Nat) (reportName sql : String)
    (databaseId : Nat) : PublishM Nat := do
  let name := datasetName reportId reportName
  let datasetId ← Tx.read (datasetIdOf databaseId name)
  Tx.update (putDataset databaseId name sql)
  env.commit .dataset
  Tx.attempt (do
    fetchMetadata env datasetId
    env.commit .metadata) Tx.rollback
  pure datasetId

/-! ## Metrics -/

/-- The metrics `_ensure_metrics` wants, by name. -/
def wantedMetrics (d : Definition) : Dict String String :=
  d.metrics.foldl (fun wanted m =>
    let label := strip (m.label.getD "")
    if label = "" then wanted
    else wanted.set label
      (if m.aggregateName = "AVG" then "AVG(`" ++ label ++ "`)" else "SUM(`" ++ label ++ "`)"))
    (Dict.empty.set "count" "COUNT(*)")

/-- Append the metric, or rewrite the expression of the first one with its name. -/
def ensureMetric (name expression : String) : List SqlMetric → List SqlMetric
  | [] => [⟨name, name, expression⟩]
  | m :: rest =>
    if m.metricName = name then { m with expression := expression } :: rest
    else m :: ensureMetric name expression rest

def registerMetrics (d : Definition) (metrics : List SqlMetric) : List SqlMetric :=
  (wantedMetrics d).entries.foldl (fun ms w => ensureMetric w.1 w.2 ms) metrics

def putMetrics (datasetId : Nat) (d : Definition) (m : Metadata) : Metadata :=
  { m with
    datasets := m.datasets.update datasetId
      (fun t => { t with metrics := registerMetrics d t.metrics }) }

/-- `_ensure_metrics`: commits only when a metric changed. -/
def ensureMetrics (env : PublishEnv) (datasetId : Nat) (d : Definition) : PublishM Unit := do
  let metrics ← Tx.read (fun m => (m.datasets.get datasetId).map SqlaTable.metrics)
  if metrics.map (registerMetrics d) = metrics then pure ()
  else
    Tx.update (putMetrics datasetId d)
    env.commit .metrics

/-! ## Chart parameters -/

/-- The date column `_build_params` settles on. -/
def dttmColumn (d : SqlaTable) : Option String :=
  (truthy d.mainDttmCol).or ((d.columns.find? (fun c => c.isDttm)).map TableColumn.columnName)

def noParams (viz datasource : String) (rowLimit : Int) : Params :=
  ⟨viz, datasource, rowLimit, none, none, none, none, none, none, none, none, none, none, none⟩

/-- Grouping of the aggregate kinds: the displayed labels, or the first columns
that are no metric. -/
def chartGroupby (columnNames : List String) (d : Definition) : List String :=
  let groupby := (d.columns.map ColumnEntry.outputLabel).filter (· ∈ columnNames)
  if groupby = [] then
    (columnNames.filter (fun n => some n ∉ d.metrics.map MetricEntry.label)).take 5
  else groupby

def metricLabels (d : Definition) : List String := d.metrics.filterMap (fun m => truthy m.label)

def columnsParams (base : Params) (columnNames : List String) (d : Definition) : Params :=
  let shown := (d.columns.map ColumnEntry.outputLabel).filter (· ∈ columnNames) ++
    (metricLabels d).filter (· ∈ columnNames)
  { base with
    allColumns := some (if shown = [] then columnNames else shown)
    orderByCols := some [] }

def metricParams (base : Params) (dttm : Option String) (d : Definition) : Params :=
  { base with
    metric := some ((metricLabels d).headD "count")
    granularitySqla := dttm
    timeGrainSqla := dttm.map (fun _ => "P1D") }

def aggregateParams (base : Params) (vizKey : String) (t : SqlaTable) (dttm : Option String)
    (d : Definition) : Params :=
  let columnNames := t.columns.map TableColumn.columnName
  let numericCols := (t.columns.filter (fun c => isNumericType c.type)).map TableColumn.columnName
  let groupby := chartGroupby columnNames d
  let metrics := if metricLabels d = [] then ["count"] else metricLabels d
  if vizKey = "pie" then { base with metric := metrics.head?, groupby := some groupby }
  else if vizKey = "histogram" then
    { base with column := some (numericCols.head?.or columnNames.head?), groupby := some groupby }
  else if vizKey = "scatter" then
    { base with
      x := some numericCols.head?
      y := some (numericCols[1]?.or numericCols.head?)
      series := groupby.head? }
  else if vizKey = "bar" ∨ vizKey = "line" ∨ vizKey = "area" then
    { base with
      metrics := some metrics
      groupby := some groupby
      granularitySqla := dttm
      timeGrainSqla := dttm.map (fun _ => "P1D") }
  else { base with metrics := some metrics, groupby := some groupby }

/-- `_build_params` -/
def buildParams (vizKey : String) (entry : VizEntry) (datasetId : Nat) (t : SqlaTable)
    (d : Definition) : Except PublishFailure Params :=
  let dttm := dttmColumn t
  let label := entry.label
  if entry.requiresDttm && (truthy dttm).isNone then
    throw (.publish (s!"Viz type {label} needs a date/time column in the report " ++
      "output. Add a date field (e.g. from a timestamp column) or pick a non-time chart type."))
  else
    let base := noParams entry.viz s!"{datasetId}__table" d.limit
    pure (match entry.kind with
      | .columns => columnsParams base (t.columns.map TableColumn.columnName) d
      | .metric => metricParams base (truthy dttm) d
      | .aggregate => aggregateParams base vizKey t (truthy dttm) d)

end Publish
end XpBuilder
