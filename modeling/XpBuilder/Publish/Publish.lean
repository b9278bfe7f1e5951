import XpBuilder.Publish.VirtualDataset

/-! Publishing a report as a chart on a dashboard and taking it back, with the
request handlers around them. Each function commits where the code does. -/

namespace XpBuilder

structure PublishRequest where
  vizType : String
  chartName : Option String
  dashboardId : Option Nat
  newDashboardName : Option String
  deriving DecidableEq, Repr

structure PublishResult where
  reportId : Nat
  datasetId : Nat
  chartId : Nat
  vizType : String
  chartName : String
  dashboardId : Option Nat
  dashboardTitle : Option String
  exploreUrl : String
  dashboardUrl : Option String
  deriving DecidableEq, Repr

namespace Publish
open PythonText (orElse truthy truthyId strip)
open Layout (chartKey)

/-! ## Dashboards -/

/-- `_attach_chart_to_dashboard` -/
def attachChart (ids : Layout.FreshIds) (chartId : Nat) (sliceName : String) (d : Dashboard) :
    Dashboard :=
  let layout := d.positionJson.load.getD Dict.empty
  { d with
    slices := if chartId ∈ d.slices then d.slices else d.slices ++ [chartId]
    positionJson := .layout (if (layout.get (chartKey chartId)).isSome then layout
      else layout.addChart ids chartId sliceName) }

/-- The relation holds a chart at most once. -/
def dropSlice (chartId : Nat) (d : Dashboard) : Dashboard :=
  { d with slices := d.slices.filter (fun c => c ≠ chartId) }

/-- `_detach_chart_from_dashboard` -/
def detachFrom (chartId : Nat) (d : Dashboard) : Dashboard :=
  { dropSlice chartId d with
    positionJson := match d.positionJson.load with
      | some l => .layout (l.removeChart chartId)
      | none => d.positionJson }

/-- The loop of `_detach_chart` over the dashboards of the chart. -/
def detachAll (chartId : Nat) (exclude : Option Nat) (m : Metadata) : Metadata :=
  { m with
    dashboards := m.dashboards.updateAll (fun id d =>
      if chartId ∈ d.slices ∧ exclude ≠ some id then detachFrom chartId d else d) }

/-- `_detach_chart` commits twice. -/
def detachChart (env : PublishEnv) (chartId : Nat) (exclude : Option Nat) : PublishM Unit := do
  Tx.update (detachAll chartId exclude)
  env.commit .detach
  env.commit .detachAgain

/-- Deleting a chart also deletes its rows in the slices relation. -/
def deleteChart (chartId : Nat) (m : Metadata) : Metadata :=
  { m with
    charts := m.charts.delete chartId
    dashboards := m.dashboards.updateAll (fun _ => dropSlice chartId) }

/-! ## Publishing -/

/-- The statement of the report, compiled; a `ReportDesignerError` becomes a
`PublishError`. -/
def compileReport (env : PublishEnv) (raw : RawDefinition) (m : Metadata) :
    Except PublishFailure (String × Nat) :=
  match SqlBuilder.buildSelect (env.buildEnv m) raw with
  | .error (.report message) => throw (.publish message)
  | .error (.other message) => throw (.other message)
  | .ok (s, primary) =>
    match env.compile primary.databaseId s with
    | .error message => throw (.other message)
    | .ok sql => pure (sql, primary.databaseId)

def sliceNameOf (chartName : Option String) (reportName : String) : String :=
  let name := strip (orElse chartName reportName)
  if name = "" then "Untitled chart" else name

/-- The fields a publish writes into its chart. -/
structure ChartFields where
  sliceName : String
  datasetId : Nat
  datasetName : String
  vizType : String
  params : Params
  deriving DecidableEq, Repr

def newChart (user : Option Nat) (f : ChartFields) : Slice :=
  ⟨f.sliceName, f.datasetId, "table", f.datasetName, f.vizType, f.params, user.toList⟩

def rewriteChart (user : Option Nat) (f : ChartFields) (c : Slice) : Slice :=
  { c with
    sliceName := f.sliceName
    datasourceId := f.datasetId
    datasourceType := "table"
    datasourceName := f.datasetName
    vizType := f.vizType
    params := f.params
    owners := c.owners ++ user.toList.filter (· ∉ c.owners) }

/-- The chart a republish reuses. -/
def recordedChart (m : Metadata) (report : ReportDesigner) : Option Nat :=
  (truthyId report.chartId).filter (fun c => (m.charts.get c).isSome)

/-- Reuse the recorded chart or create one; the flag says which. -/
def putChart (env : PublishEnv) (report : ReportDesigner) (f : ChartFields) :
    PublishM (Nat × Bool) := do
  match ← Tx.read (fun m => recordedChart m report) with
  | some chartId =>
    Tx.update (fun m => { m with charts := m.charts.update chartId (rewriteChart env.user f) })
    env.commit .chart
    pure (chartId, false)
  | none =>
    let chartId ← Tx.read (fun m => m.charts.next)
    Tx.update (fun m => { m with charts := m.charts.insert (newChart env.user f) })
    match env.refuses .flush with
    | some message => Tx.raise (.other message)
    | none =>
      env.commit .chart
      pure (chartId, true)

def newDashboard (user : Option Nat) (name : String) : Dashboard :=
  ⟨strip name, some (slugify name), [], .absent, user.toList, true⟩

def slugTaken (slug : String) (m : Metadata) : Bool :=
  (m.dashboards.first (fun d => d.slug = some slug)).isSome

/-- Why the commit of a new dashboard is refused, if it is: the slug is unique. -/
def newDashboardRefusal (env : PublishEnv) (name : String) (m : Metadata) : Option String :=
  if slugTaken (slugify name) m then some "UNIQUE constraint failed: dashboards.slug"
  else env.refuses .newDashboard

def attachIn (env : PublishEnv) (dashboardId chartId : Nat) (sliceName : String) (m : Metadata) :
    Metadata :=
  { m with
    dashboards := m.dashboards.update dashboardId (attachChart env.freshIds chartId sliceName) }

/-- The dashboard part of `publish_report`: an existing one, a new one or none. -/
def placeChart (env : PublishEnv) (req : PublishRequest) (chartId : Nat) (created : Bool)
    (sliceName : String) : PublishM (Option Nat) := do
  match truthyId req.dashboardId with
  | some id =>
    match ← Tx.read (fun m => m.dashboards.get id) with
    | none =>
      if created then
        Tx.update (deleteChart chartId)
        env.commit .discard
      Tx.raise (.publish s!"Dashboard {id} not found")
    | some _ =>
      detachChart env chartId (some id)
      Tx.update (attachIn env id chartId sliceName)
      pure (some id)
  | none =>
    match truthy req.newDashboardName with
    | some name =>
      let id ← Tx.read (fun m => m.dashboards.next)
      let refusal ← Tx.read (newDashboardRefusal env name)
      Tx.update (fun m =>
        { m with dashboards := m.dashboards.insert (newDashboard env.user name) })
      Tx.commit (refusal.map .other)
      detachChart env chartId none
      Tx.update (attachIn env id chartId sliceName)
      pure (some id)
    | none =>
      detachChart env chartId none
      pure none

def recordPublish (env : PublishEnv) (reportId datasetId chartId : Nat) (dashboardId : Option Nat)
    (vizType sliceName : String) (m : Metadata) : Metadata :=
  { m with
    reports := m.reports.update reportId (fun r =>
      { r with
        datasetId := some datasetId
        chartId := some chartId
        dashboardId := dashboardId
        vizType := some vizType
        chartName := some sliceName
        publishedAt := some env.now }) }

/-- `publish_report` -/
def publishReport (env : PublishEnv) (reportId : Nat) (report : ReportDesigner)
    (req : PublishRequest) : PublishM PublishResult := do
  let vizKey := orElse (some req.vizType) "table"
  match vizCatalog vizKey with
  | none => Tx.raise (.publish s!"Unsupported visualization type: {vizKey}")
  | some entry =>
    match ← Tx.read (compileReport env report.definition) with
    | .error e => Tx.raise e
    | .ok (sql, databaseId) =>
      let d := normalizeDefinition report.definition
      let datasetId ← findOrCreateDataset env reportId report.name sql databaseId
      ensureMetrics env datasetId d
      match ← Tx.read (fun m => m.datasets.get datasetId) with
      | none => Tx.raise (.other "dataset deleted")
      | some dataset =>
        match buildParams vizKey entry datasetId dataset d with
        | .error e => Tx.raise e
        | .ok params =>
          let sliceName := sliceNameOf req.chartName report.name
          let (chartId, created) ← putChart env report
            ⟨sliceName, datasetId, dataset.tableName, entry.viz, params⟩
          let dashboardId ← placeChart env req chartId created sliceName
          Tx.update (recordPublish env reportId datasetId chartId dashboardId entry.viz sliceName)
          env.commit .report
          let title ← Tx.read (fun m => dashboardId.bind (fun id =>
            (m.dashboards.get id).map Dashboard.dashboardTitle))
          pure ⟨reportId, datasetId, chartId, entry.viz, sliceName, dashboardId, title,
            s!"/explore/?slice_id={chartId}",
            dashboardId.map (fun id => s!"/xpbuilder/dashboard/{id}/")⟩

/-! ## Unpublishing -/

/-- The key of the chart node, also for a report without a chart. -/
def recordedKey (chartId : Option Nat) : String :=
  match chartId with
  | none => "CHART-None"
  | some c => chartKey c

/-- Take the recorded chart off the recorded dashboard; `none` when the position
document takes no key lookup. -/
def unplace (chartId : Option Nat) (d : Dashboard) : Option Dashboard :=
  let position : Option PositionJson :=
    match d.positionJson with
    | .notDict false => none
    | .notDict true => some (.layout Dict.empty)
    | position => some (.layout ((position.load.getD Dict.empty).removeKey (recordedKey chartId)))
  position.map (fun p =>
    { d with slices := d.slices.filter (fun c => some c ≠ chartId), positionJson := p })

def clearPublish (reportId : Nat) (m : Metadata) : Metadata :=
  { m with
    reports := m.reports.update reportId (fun r =>
      { r with
        datasetId := none
        chartId := none
        dashboardId := none
        vizType := none
        chartName := none
        publishedAt := none }) }

/-- The first part of `unpublish_report`. -/
def unplaceChart (env : PublishEnv) (report : ReportDesigner) : PublishM Unit := do
  match truthyId report.dashboardId with
  | none => pure ()
  | some id =>
    match ← Tx.read (fun m => m.dashboards.get id) with
    | none => pure ()
    | some d =>
      match unplace report.chartId d with
      | none => Tx.raise (.other "argument is not iterable")
      | some d' =>
        Tx.update (fun m => { m with dashboards := m.dashboards.update id (fun _ => d') })
        env.commit .unplace

def deleteRecordedChart (env : PublishEnv) (report : ReportDesigner) : PublishM Unit := do
  match ← Tx.read (fun m => recordedChart m report) with
  | none => pure ()
  | some chartId =>
    Tx.update (deleteChart chartId)
    env.commit .deleteChart

/-- The dataset an unpublish deletes. -/
def recordedDataset (m : Metadata) (report : ReportDesigner) : Option Nat :=
  (truthyId report.datasetId).filter (fun k => (m.datasets.get k).isSome)

def deleteRecordedDataset (env : PublishEnv) (report : ReportDesigner) : PublishM Unit := do
  match ← Tx.read (fun m => recordedDataset m report) with
  | none => pure ()
  | some datasetId =>
    Tx.update (fun m => { m with datasets := m.datasets.delete datasetId })
    env.commit .deleteDataset

/-- `unpublish_report` -/
def unpublishReport (env : PublishEnv) (reportId : Nat) (report : ReportDesigner) :
    PublishM String := do
  unplaceChart env report
  deleteRecordedChart env report
  deleteRecordedDataset env report
  Tx.update (clearPublish reportId)
  env.commit .clear
  pure "Report unpublished"

/-! ## Request handlers -/

/-- What a handler answers; an exception has been rolled back. -/
inductive Response (α : Type) where
  | notFound
  | done (result : α)
  | failed (e : PublishFailure)
  deriving DecidableEq, Repr

def respond {α : Type} (m : Metadata) (reportId : Nat)
    (body : ReportDesigner → PublishM α) : Response α × Metadata :=
  match m.reports.get reportId with
  | none => (.notFound, m)
  | some report =>
    match (body report).finish m with
    | (.ok a, m') => (.done a, m')
    | (.error e, m') => (.failed e, m')

/-- `api_publish`; anonymous users publish as nobody. -/
def apiPublish (env : PublishEnv) (reportId : Nat) (req : PublishRequest) (m : Metadata) :
    Response PublishResult × Metadata :=
  respond m reportId (fun report => publishReport env reportId report
    { req with dashboardId := truthyId req.dashboardId })

/-- `api_unpublish` -/
def apiUnpublish (env : PublishEnv) (reportId : Nat) (m : Metadata) : Response String × Metadata :=
  respond m reportId (unpublishReport env reportId)

end Publish
end XpBuilder
