import XpBuilder.Publish.Publish

/-! The course of a publish, from commit to commit. Once the statement of the
report is compiled everything that can still happen is fixed by the request and
the state before it: `Course.point` names the commit or the check at which the
publish ends, `Course.stored` the state it leaves there, and `publishReport_ends`
says that the code does just that. -/

namespace XpBuilder.Publish
open PythonText (orElse truthy truthyId)

/-! ## What the parts store -/

/-- The dataset after the metadata fetch that `_find_or_create_dataset` attempts. -/
def fetched (env : PublishEnv) (datasetId : Nat) (m : Metadata) : Metadata :=
  match (m.datasets.get datasetId).bind env.external with
  | none => m
  | some ext =>
    if (env.refuses .metadata).isSome then m
    else { m with datasets := m.datasets.update datasetId (mergeMetadata env ext) }

theorem commit_apply (env : PublishEnv) (site : CommitSite) (s : Session Metadata) :
    env.commit site s = match env.refuses site with
      | none => (.ok (), Session.clean s.working)
      | some e => (.error (.other e), s) := by
  unfold PublishEnv.commit
  cases env.refuses site <;> rfl

theorem commit_ok {env : PublishEnv} {site : CommitSite} (h : env.refuses site = none)
    (s : Session Metadata) : env.commit site s = (.ok (), Session.clean s.working) := by
  rw [commit_apply, h]

theorem commit_error {env : PublishEnv} {site : CommitSite} {e : String}
    (h : env.refuses site = some e) (s : Session Metadata) :
    env.commit site s = (.error (.other e), s) := by
  rw [commit_apply, h]

theorem attempt_fetch (env : PublishEnv) (datasetId : Nat) (m : Metadata) :
    Tx.attempt (do fetchMetadata env datasetId; env.commit .metadata) Tx.rollback
      (Session.clean m) = (.ok (), Session.clean (fetched env datasetId m)) := by
  unfold Tx.attempt fetchMetadata fetched
  rw [Tx.bind_apply, Tx.read_bind_apply, Session.clean_working]
  cases (m.datasets.get datasetId).bind env.external with
  | none => rfl
  | some ext =>
    simp only [Tx.update, commit_apply]
    cases env.refuses .metadata <;> rfl

theorem findOrCreateDataset_apply (env : PublishEnv) (reportId : Nat) (reportName sql : String)
    (databaseId : Nat) (m : Metadata) :
    let name := datasetName reportId reportName
    let k := datasetIdOf databaseId name m
    let put := putDataset databaseId name sql m
    findOrCreateDataset env reportId reportName sql databaseId (Session.clean m) =
      match env.refuses .dataset with
      | some e => (.error (.other e), ⟨put, m⟩)
      | none => (.ok k, Session.clean (fetched env k put)) := by
  intro name k put
  unfold findOrCreateDataset
  rw [Tx.read_bind_apply, Tx.update_bind_apply]
  cases refused : env.refuses .dataset with
  | some e => exact Tx.bind_of_error (commit_error refused _) _
  | none =>
    rw [Tx.bind_of_ok (commit_ok refused _), Tx.bind_of_ok (attempt_fetch _ _ _)]
    rfl

/-- Some metric of the dataset is missing or has another expression. -/
def metricsChange (datasetId : Nat) (d : Definition) (m : Metadata) : Prop :=
  ∃ t, m.datasets.get datasetId = some t ∧ registerMetrics d t.metrics ≠ t.metrics

instance (datasetId : Nat) (d : Definition) (m : Metadata) :
    Decidable (metricsChange datasetId d m) :=
  match h : m.datasets.get datasetId with
  | none => .isFalse (by simp [metricsChange, h])
  | some t => decidable_of_iff (registerMetrics d t.metrics ≠ t.metrics) (by simp [metricsChange, h])

theorem putMetrics_eq_self {datasetId : Nat} {d : Definition} {m : Metadata}
    (h : ¬metricsChange datasetId d m) : putMetrics datasetId d m = m := by
  have same : m.datasets.update datasetId
      (fun t => { t with metrics := registerMetrics d t.metrics }) = m.datasets := by
    refine Table.update_eq_self _ (fun t ht => ?_)
    have : registerMetrics d t.metrics = t.metrics := by
      by_contra ne
      exact h ⟨t, ht, ne⟩
    rw [this]
  rw [putMetrics, same]

theorem ensureMetrics_apply (env : PublishEnv) (datasetId : Nat) (d : Definition) (m : Metadata) :
    (ensureMetrics env datasetId d (Session.clean m) =
        (.ok (), Session.clean (putMetrics datasetId d m)) ∧
      (metricsChange datasetId d m → env.refuses .metrics = none)) ∨
    ∃ e, ensureMetrics env datasetId d (Session.clean m) =
        (.error (.other e), ⟨putMetrics datasetId d m, m⟩) ∧
      metricsChange datasetId d m ∧ env.refuses .metrics = some e := by
  unfold ensureMetrics
  rw [Tx.read_bind_apply, Session.clean_working]
  by_cases h : ((m.datasets.get datasetId).map SqlaTable.metrics).map (registerMetrics d) =
      (m.datasets.get datasetId).map SqlaTable.metrics
  · have unchanged : ¬metricsChange datasetId d m := by
      rintro ⟨t, ht, ne⟩
      rw [ht] at h
      exact ne (by simpa using h)
    rw [if_pos h, putMetrics_eq_self unchanged]
    exact .inl ⟨rfl, fun change => absurd change unchanged⟩
  · have change : metricsChange datasetId d m := by
      cases ht : m.datasets.get datasetId with
      | none => simp [ht] at h
      | some t => exact ⟨t, ht, by simpa [ht] using h⟩
    rw [if_neg h, Tx.update_bind_apply, commit_apply]
    cases refused : env.refuses .metrics with
    | none => exact .inl ⟨rfl, fun _ => rfl⟩
    | some e => exact .inr ⟨e, rfl, change, rfl⟩

/-- The chart table after `putChart`. -/
def chartStored (env : PublishEnv) (report : ReportDesigner) (f : ChartFields) (m : Metadata) :
    Metadata :=
  match recordedChart m report with
  | some chartId => { m with charts := m.charts.update chartId (rewriteChart env.user f) }
  | none => { m with charts := m.charts.insert (newChart env.user f) }

def chartIdOf (report : ReportDesigner) (m : Metadata) : Nat :=
  (recordedChart m report).getD m.charts.next

theorem putChart_apply (env : PublishEnv) (report : ReportDesigner) (f : ChartFields)
    (m : Metadata) :
    (putChart env report f (Session.clean m) =
        (.ok (chartIdOf report m, (recordedChart m report).isNone),
          Session.clean (chartStored env report f m)) ∧
      (recordedChart m report = none → env.refuses .flush = none) ∧ env.refuses .chart = none) ∨
    ∃ e, putChart env report f (Session.clean m) =
        (.error (.other e), ⟨chartStored env report f m, m⟩) ∧
      (recordedChart m report = none ∧ env.refuses .flush = some e ∨
        env.refuses .chart = some e) := by
  unfold putChart chartIdOf chartStored
  rw [Tx.read_bind_apply, Session.clean_working]
  cases recorded : recordedChart m report with
  | some chartId =>
    simp only [Tx.bind_apply, commit_apply]
    cases refused : env.refuses .chart with
    | none => exact .inl ⟨rfl, by simp, rfl⟩
    | some e => exact .inr ⟨e, rfl, .inr rfl⟩
  | none =>
    simp only [Tx.read_bind_apply, Tx.update_bind_apply]
    cases flushed : env.refuses .flush with
    | some e => exact .inr ⟨e, rfl, .inl ⟨trivial, rfl⟩⟩
    | none =>
      simp only [Tx.bind_apply, commit_apply]
      cases refused : env.refuses .chart with
      | none => exact .inl ⟨rfl, by simp, rfl⟩
      | some e => exact .inr ⟨e, rfl, .inr rfl⟩

/-! ## Targets -/

/-- Where the request puts the chart. -/
inductive Target where
  | existing (id : Nat)
  | new (name : String)
  | nowhere
  deriving DecidableEq, Repr

def targetOf (req : PublishRequest) : Target :=
  match truthyId req.dashboardId with
  | some id => .existing id
  | none =>
    match truthy req.newDashboardName with
    | some name => .new name
    | none => .nowhere

namespace Target

/-- The state in which the chart is detached: with the new dashboard, if there is one. -/
def opened (user : Option Nat) : Target → Metadata → Metadata
  | .new name, m => { m with dashboards := m.dashboards.insert (newDashboard user name) }
  | _, m => m

/-- The dashboard the chart is attached to. -/
def dashboardId : Target → Metadata → Option Nat
  | .existing id, _ => some id
  | .new _, m => some m.dashboards.next
  | .nowhere, _ => none

/-- The dashboard that is not detached. -/
def kept : Target → Option Nat
  | .existing id => some id
  | _ => none

def detached (t : Target) (user : Option Nat) (chartId : Nat) (m : Metadata) : Metadata :=
  detachAll chartId t.kept (t.opened user m)

def attached (t : Target) (env : PublishEnv) (chartId : Nat) (sliceName : String) (m : Metadata) :
    Metadata :=
  match t.dashboardId m with
  | none => t.detached env.user chartId m
  | some id => attachIn env id chartId sliceName (t.detached env.user chartId m)

/-- What the dashboard part raises before anything is detached. -/
def refusal (env : PublishEnv) (m : Metadata) : Target → Option PublishFailure
  | .existing id =>
    if (m.dashboards.get id).isSome then none else some (.publish s!"Dashboard {id} not found")
  | .new name => (newDashboardRefusal env name m).map .other
  | .nowhere => none

/-- A chart made by this publish is taken back when its dashboard does not exist. -/
def Discards (env : PublishEnv) (created : Bool) : Target → Prop
  | .existing _ => created = true ∧ env.refuses .discard = none
  | _ => False

instance (env : PublishEnv) (created : Bool) (t : Target) : Decidable (t.Discards env created) := by
  cases t <;> unfold Discards <;> infer_instance

end Target

theorem detachChart_apply (env : PublishEnv) (chartId : Nat) (exclude : Option Nat)
    (m : Metadata) :
    (detachChart env chartId exclude (Session.clean m) =
        (.ok (), Session.clean (detachAll chartId exclude m)) ∧
      env.refuses .detach = none ∧ env.refuses .detachAgain = none) ∨
    (∃ e, env.refuses .detach = some e ∧
      detachChart env chartId exclude (Session.clean m) =
        (.error (.other e), ⟨detachAll chartId exclude m, m⟩)) ∨
    ∃ e, env.refuses .detach = none ∧ env.refuses .detachAgain = some e ∧
      detachChart env chartId exclude (Session.clean m) =
        (.error (.other e), Session.clean (detachAll chartId exclude m)) := by
  unfold detachChart
  simp only [Tx.bind_apply, commit_apply]
  cases first : env.refuses .detach with
  | some e => exact .inr (.inl ⟨e, rfl, rfl⟩)
  | none =>
    cases second : env.refuses .detachAgain with
    | some e => exact .inr (.inr ⟨e, rfl, rfl, rfl⟩)
    | none => exact .inl ⟨rfl, rfl, rfl⟩

/-- Every end of the dashboard part on a clean session; the attachment itself is
left for the next commit. -/
inductive PlaceEnds (env : PublishEnv) (t : Target) (chartId : Nat) (created : Bool)
    (sliceName : String) (m : Metadata) :
    Except PublishFailure (Option Nat) → Session Metadata → Prop where
  | placed : t.refusal env m = none → env.refuses .detach = none →
      env.refuses .detachAgain = none →
      PlaceEnds env t chartId created sliceName m (.ok (t.dashboardId m))
        ⟨t.attached env chartId sliceName m, t.detached env.user chartId m⟩
  | discarded {e : PublishFailure} : t.refusal env m ≠ none → t.Discards env created →
      PlaceEnds env t chartId created sliceName m (.error e)
        (Session.clean (deleteChart chartId m))
  | unplaced {e : PublishFailure} {w : Metadata} : t.refusal env m ≠ none →
      ¬t.Discards env created →
      PlaceEnds env t chartId created sliceName m (.error e) ⟨w, m⟩
  | detachRefused {e : String} {w : Metadata} : t.refusal env m = none →
      env.refuses .detach = some e →
      PlaceEnds env t chartId created sliceName m (.error (.other e)) ⟨w, t.opened env.user m⟩
  | detachedOnce {e : String} {w : Metadata} : t.refusal env m = none →
      env.refuses .detach = none → env.refuses .detachAgain = some e →
      PlaceEnds env t chartId created sliceName m (.error (.other e))
        ⟨w, t.detached env.user chartId m⟩

/-- Once the target stands only the detachment can fail. -/
theorem placeEnds_of_detach {env : PublishEnv} {t : Target} {m : Metadata}
    (stands : t.refusal env m = none) (chartId : Nat) (created : Bool) (sliceName : String)
    (rest : Unit → PublishM (Option Nat))
    (attach : rest () (Session.clean (t.detached env.user chartId m)) =
      (.ok (t.dashboardId m),
        ⟨t.attached env chartId sliceName m, t.detached env.user chartId m⟩)) :
    let r := (detachChart env chartId t.kept >>= rest) (Session.clean (t.opened env.user m))
    PlaceEnds env t chartId created sliceName m r.1 r.2 := by
  intro r
  have ends := detachChart_apply env chartId t.kept (t.opened env.user m)
  rcases ends with ⟨h, first, second⟩ | ⟨e, first, h⟩ | ⟨e, first, second, h⟩
  · have placed : r = rest () (Session.clean (t.detached env.user chartId m)) :=
      Tx.bind_of_ok h rest
    rw [placed, attach]
    exact .placed stands first second
  · have refused : r = _ := Tx.bind_of_error h rest
    rw [refused]
    exact .detachRefused stands first
  · have refused : r = _ := Tx.bind_of_error h rest
    rw [refused]
    exact .detachedOnce stands first second

theorem placeChart_ends (env : PublishEnv) (req : PublishRequest) (chartId : Nat) (created : Bool)
    (sliceName : String) (m : Metadata) :
    let r := placeChart env req chartId created sliceName (Session.clean m)
    PlaceEnds env (targetOf req) chartId created sliceName m r.1 r.2 := by
  unfold placeChart targetOf
  cases existing : truthyId req.dashboardId with
  | some id =>
    simp only [Tx.read_bind_apply, Session.clean_working]
    cases found : m.dashboards.get id with
    | none =>
      have fails : (Target.existing id).refusal env m ≠ none := by simp [Target.refusal, found]
      cases created with
      | false => exact .unplaced fails (by simp [Target.Discards])
      | true =>
        simp only [if_true, Tx.bind_apply, commit_apply]
        cases refused : env.refuses .discard with
        | none => exact .discarded fails ⟨rfl, refused⟩
        | some e => exact .unplaced fails (by simp [Target.Discards, refused])
    | some d =>
      have stands : (Target.existing id).refusal env m = none := by simp [Target.refusal, found]
      exact placeEnds_of_detach stands chartId created sliceName _ rfl
  | none =>
    cases named : truthy req.newDashboardName with
    | some name =>
      simp only [Tx.read_bind_apply, Session.clean_working, Tx.update_bind_apply]
      cases refused : newDashboardRefusal env name m with
      | some e => exact .unplaced (by simp [Target.refusal, refused]) (by simp [Target.Discards])
      | none =>
        rw [Option.map_none, Tx.bind_of_ok (Tx.commit_none_apply _)]
        have stands : (Target.new name).refusal env m = none := by simp [Target.refusal, refused]
        exact placeEnds_of_detach stands chartId created sliceName _ rfl
    | none => exact placeEnds_of_detach (t := .nowhere) rfl chartId created sliceName _ rfl

/-! ## The whole course -/

/-- A publish whose chart type is known and whose statement is compiled. -/
structure Course where
  env : PublishEnv
  before : Metadata
  reportId : Nat
  report : ReportDesigner
  req : PublishRequest
  entry : VizEntry
  sql : String
  databaseId : Nat

/-- The commit or check at which a publish ends. -/
inductive Point where
  | dataset | metrics | params | chart | discarded | unplaced | detach | detachAgain | report | done
  deriving DecidableEq, Repr

def vizKeyOf (req : PublishRequest) : String := orElse (some req.vizType) "table"

namespace Course
variable (c : Course)

structure Starts : Prop where
  entry : vizCatalog (vizKeyOf c.req) = some c.entry
  compiled : compileReport c.env c.report.definition c.before = .ok (c.sql, c.databaseId)

def definition : Definition := normalizeDefinition c.report.definition

def name : String := datasetName c.reportId c.report.name

def datasetId : Nat := datasetIdOf c.databaseId c.name c.before

def afterPut : Metadata := putDataset c.databaseId c.name c.sql c.before

def afterDataset : Metadata := fetched c.env c.datasetId c.afterPut

def afterMetrics : Metadata := putMetrics c.datasetId c.definition c.afterDataset

def metricsRefused : Prop :=
  metricsChange c.datasetId c.definition c.afterDataset ∧ (c.env.refuses .metrics).isSome

instance : Decidable c.metricsRefused := by
  unfold metricsRefused
  infer_instance

def sliceName : String := sliceNameOf c.req.chartName c.report.name

/-- What the publish writes into its chart, if the parameters can be built. -/
def fields : Except PublishFailure ChartFields :=
  match c.afterMetrics.datasets.get c.datasetId with
  | none => .error (.other "dataset deleted")
  | some t =>
    (buildParams (vizKeyOf c.req) c.entry c.datasetId t c.definition).map (fun params =>
      ⟨c.sliceName, c.datasetId, t.tableName, c.entry.viz, params⟩)

def recorded : Option Nat := recordedChart c.before c.report

def chartId : Nat := chartIdOf c.report c.before

def chartRefused : Prop :=
  c.recorded = none ∧ (c.env.refuses .flush).isSome ∨ (c.env.refuses .chart).isSome

instance : Decidable c.chartRefused := by
  unfold chartRefused
  infer_instance

def afterChart : Metadata :=
  match c.fields with
  | .error _ => c.afterMetrics
  | .ok f => chartStored c.env c.report f c.afterMetrics

def target : Target := targetOf c.req

def opened : Metadata := c.target.opened c.env.user c.afterChart

def detached : Metadata := c.target.detached c.env.user c.chartId c.afterChart

def dashboardId : Option Nat := c.target.dashboardId c.before

def published : Metadata :=
  recordPublish c.env c.reportId c.datasetId c.chartId c.dashboardId c.entry.viz c.sliceName
    (c.target.attached c.env c.chartId c.sliceName c.afterChart)

def result : PublishResult :=
  ⟨c.reportId, c.datasetId, c.chartId, c.entry.viz, c.sliceName, c.dashboardId,
    c.dashboardId.bind (fun id => (c.published.dashboards.get id).map Dashboard.dashboardTitle),
    "/explore/?slice_id=" ++ toString c.chartId,
    c.dashboardId.map (fun id => "/xpbuilder/dashboard/" ++ toString id ++ "/")⟩

/-- Where the publish ends. -/
def point : Point :=
  if (c.env.refuses .dataset).isSome then .dataset
  else if c.metricsRefused then .metrics
  else if c.fields.toOption.isNone then .params
  else if c.chartRefused then .chart
  else if (c.target.refusal c.env c.before).isSome then
    if c.target.Discards c.env c.recorded.isNone then .discarded else .unplaced
  else if (c.env.refuses .detach).isSome then .detach
  else if (c.env.refuses .detachAgain).isSome then .detachAgain
  else if (c.env.refuses .report).isSome then .report
  else .done

/-- What is stored when the publish ends there. -/
def stored : Point → Metadata
  | .dataset => c.before
  | .metrics => c.afterDataset
  | .params | .chart => c.afterMetrics
  | .discarded => deleteChart c.chartId c.afterChart
  | .unplaced => c.afterChart
  | .detach => c.opened
  | .detachAgain | .report => c.detached
  | .done => c.published

/-- The answer and the stored state are those of the point. -/
def Ends (r : Except PublishFailure PublishResult × Metadata) : Prop :=
  (if c.point = .done then r.1 = .ok c.result else ∃ e, r.1 = .error e) ∧ r.2 = c.stored c.point

/-! The dataset stage leaves the other tables alone, the chart stage the dashboards. -/

@[simp] theorem putDataset_charts (databaseId : Nat) (name sql : String) (m : Metadata) :
    (putDataset databaseId name sql m).charts = m.charts := by
  unfold putDataset
  split <;> rfl

@[simp] theorem putDataset_dashboards (databaseId : Nat) (name sql : String) (m : Metadata) :
    (putDataset databaseId name sql m).dashboards = m.dashboards := by
  unfold putDataset
  split <;> rfl

@[simp] theorem putDataset_reports (databaseId : Nat) (name sql : String) (m : Metadata) :
    (putDataset databaseId name sql m).reports = m.reports := by
  unfold putDataset
  split <;> rfl

theorem fetched_eq (env : PublishEnv) (datasetId : Nat) (m : Metadata) :
    fetched env datasetId m = { m with datasets := (fetched env datasetId m).datasets } := by
  unfold fetched
  split
  · rfl
  · split <;> rfl

@[simp] theorem fetched_charts (env : PublishEnv) (datasetId : Nat) (m : Metadata) :
    (fetched env datasetId m).charts = m.charts := by rw [fetched_eq]

@[simp] theorem fetched_dashboards (env : PublishEnv) (datasetId : Nat) (m : Metadata) :
    (fetched env datasetId m).dashboards = m.dashboards := by rw [fetched_eq]

@[simp] theorem fetched_reports (env : PublishEnv) (datasetId : Nat) (m : Metadata) :
    (fetched env datasetId m).reports = m.reports := by rw [fetched_eq]

@[simp] theorem afterMetrics_charts : c.afterMetrics.charts = c.before.charts := by
  simp [afterMetrics, putMetrics, afterDataset, afterPut]

@[simp] theorem afterMetrics_dashboards : c.afterMetrics.dashboards = c.before.dashboards := by
  simp [afterMetrics, putMetrics, afterDataset, afterPut]

@[simp] theorem afterMetrics_reports : c.afterMetrics.reports = c.before.reports := by
  simp [afterMetrics, putMetrics, afterDataset, afterPut]

theorem chartStored_eq (env : PublishEnv) (report : ReportDesigner) (f : ChartFields)
    (m : Metadata) :
    chartStored env report f m = { m with charts := (chartStored env report f m).charts } := by
  unfold chartStored
  split <;> rfl

theorem afterChart_eq : c.afterChart = { c.afterMetrics with charts := c.afterChart.charts } := by
  unfold afterChart
  split
  · rfl
  · rw [chartStored_eq]

@[simp] theorem afterChart_datasets : c.afterChart.datasets = c.afterMetrics.datasets := by
  rw [afterChart_eq]

@[simp] theorem afterChart_dashboards : c.afterChart.dashboards = c.before.dashboards := by
  rw [afterChart_eq, afterMetrics_dashboards]

@[simp] theorem afterChart_reports : c.afterChart.reports = c.before.reports := by
  rw [afterChart_eq, afterMetrics_reports]

theorem recordedChart_afterMetrics : recordedChart c.afterMetrics c.report = c.recorded := by
  simp only [recorded, recordedChart, afterMetrics_charts]

theorem chartIdOf_afterMetrics : chartIdOf c.report c.afterMetrics = c.chartId := by
  simp only [chartId, chartIdOf, recordedChart, afterMetrics_charts]

theorem slugTaken_afterChart (slug : String) :
    slugTaken slug c.afterChart = slugTaken slug c.before := by
  rw [slugTaken, slugTaken, afterChart_dashboards]

theorem chartId_of_recorded {id : Nat} (h : c.recorded = some id) : c.chartId = id := by
  rw [recorded] at h
  rw [chartId, chartIdOf, h]
  rfl

theorem chartId_of_new (h : c.recorded = none) : c.chartId = c.before.charts.next := by
  rw [recorded] at h
  rw [chartId, chartIdOf, h]
  rfl

theorem refusal_afterChart :
    c.target.refusal c.env c.afterChart = c.target.refusal c.env c.before := by
  cases c.target <;>
    simp only [Target.refusal, newDashboardRefusal, slugTaken_afterChart, afterChart_dashboards]

theorem dashboardId_afterChart : c.target.dashboardId c.afterChart = c.dashboardId := by
  unfold dashboardId
  cases c.target <;> simp [Target.dashboardId]

end Course

theorem findOrCreateDataset_course (c : Course) :
    findOrCreateDataset c.env c.reportId c.report.name c.sql c.databaseId (Session.clean c.before) =
      match c.env.refuses .dataset with
      | some e => (.error (.other e), ⟨c.afterPut, c.before⟩)
      | none => (.ok c.datasetId, Session.clean c.afterDataset) :=
  findOrCreateDataset_apply c.env c.reportId c.report.name c.sql c.databaseId c.before

/-- The code of a publish from the chart on. -/
def Course.chartPart (c : Course) (f : ChartFields) : PublishM PublishResult := do
  let (chartId, created) ← putChart c.env c.report f
  let dashboardId ← placeChart c.env c.req chartId created c.sliceName
  Tx.update (recordPublish c.env c.reportId c.datasetId chartId dashboardId c.entry.viz c.sliceName)
  c.env.commit .report
  let title ← Tx.read (fun m => dashboardId.bind (fun id =>
    (m.dashboards.get id).map Dashboard.dashboardTitle))
  pure ⟨c.reportId, c.datasetId, chartId, c.entry.viz, c.sliceName, dashboardId, title,
    s!"/explore/?slice_id={chartId}", dashboardId.map (fun id => s!"/xpbuilder/dashboard/{id}/")⟩

/-- With the chart put, the publish ends where the chart is placed. -/
theorem Course.point_of_charted (c : Course) {f : ChartFields} (datasetPass : c.env.refuses .dataset = none)
    (metricsPass : ¬c.metricsRefused) (fields : c.fields = .ok f) (chartPass : ¬c.chartRefused) :
    c.point =
      if (c.target.refusal c.env c.afterChart).isSome then
        if c.target.Discards c.env c.recorded.isNone then .discarded else .unplaced
      else if (c.env.refuses .detach).isSome then .detach
      else if (c.env.refuses .detachAgain).isSome then .detachAgain
      else if (c.env.refuses .report).isSome then .report
      else .done := by
  simp [Course.point, datasetPass, metricsPass, fields, Except.toOption, chartPass, c.refusal_afterChart]

theorem chartPart_ends (c : Course) {f : ChartFields} (datasetPass : c.env.refuses .dataset = none)
    (metricsPass : ¬c.metricsRefused) (fields : c.fields = .ok f) :
    let r := c.chartPart f (Session.clean c.afterMetrics)
    c.Ends (r.1, r.2.stored) := by
  have stored : chartStored c.env c.report f c.afterMetrics = c.afterChart := by
    simp [Course.afterChart, fields]
  have chart := putChart_apply c.env c.report f c.afterMetrics
  rw [stored, c.chartIdOf_afterMetrics, c.recordedChart_afterMetrics] at chart
  unfold Course.chartPart
  rcases chart with ⟨put, flushed, charted⟩ | ⟨e, put, refused⟩
  · have chartPass : ¬c.chartRefused := by
      rintro (⟨none, refused⟩ | refused)
      · simp [flushed none] at refused
      · simp [charted] at refused
    rw [Tx.bind_of_ok put]
    obtain ⟨r, s, place⟩ : ∃ r s, placeChart c.env c.req c.chartId c.recorded.isNone c.sliceName
      (Session.clean c.afterChart) = (r, s) := ⟨_, _, rfl⟩
    have ends := placeChart_ends c.env c.req c.chartId c.recorded.isNone c.sliceName c.afterChart
    rw [place] at ends
    have target : targetOf c.req = c.target := rfl
    rw [target] at ends
    have point := c.point_of_charted datasetPass metricsPass fields chartPass
    cases ends with
    | placed stands first second =>
      simp only [Tx.bind_of_ok place, Tx.update_bind_apply, c.dashboardId_afterChart]
      cases refused : c.env.refuses .report with
      | none =>
        rw [Tx.bind_of_ok (commit_ok refused _)]
        simp only [stands, first, second, refused, Option.isSome_none, Bool.false_eq_true,
          if_false] at point
        simp only [Course.Ends, point]
        exact ⟨rfl, rfl⟩
      | some e =>
        rw [Tx.bind_of_error (commit_error refused _)]
        simp only [stands, first, second, refused, Option.isSome_none, Option.isSome_some,
          Bool.false_eq_true, if_false, if_true] at point
        simp only [Course.Ends, point]
        exact ⟨⟨_, rfl⟩, rfl⟩
    | discarded fails discards =>
      rw [if_pos (Option.isSome_iff_ne_none.mpr fails), if_pos discards] at point
      simp only [Tx.bind_of_error place, Course.Ends, point]
      exact ⟨⟨_, rfl⟩, rfl⟩
    | unplaced fails discards =>
      rw [if_pos (Option.isSome_iff_ne_none.mpr fails), if_neg discards] at point
      simp only [Tx.bind_of_error place, Course.Ends, point]
      exact ⟨⟨_, rfl⟩, rfl⟩
    | detachRefused stands first =>
      simp only [stands, first, Option.isSome_none, Option.isSome_some, Bool.false_eq_true,
        if_false, if_true] at point
      simp only [Tx.bind_of_error place, Course.Ends, point]
      exact ⟨⟨_, rfl⟩, rfl⟩
    | detachedOnce stands first second =>
      simp only [stands, first, second, Option.isSome_none, Option.isSome_some,
        Bool.false_eq_true, if_false, if_true] at point
      simp only [Tx.bind_of_error place, Course.Ends, point]
      exact ⟨⟨_, rfl⟩, rfl⟩
  · have refused : c.chartRefused := by
      rcases refused with ⟨none, refused⟩ | refused
      · exact .inl ⟨none, by simp [refused]⟩
      · exact .inr (by simp [refused])
    have point : c.point = .chart := by
      simp [Course.point, datasetPass, metricsPass, fields, Except.toOption, refused]
    rw [Tx.bind_of_error put]
    simp [Course.Ends, point, Course.stored]

theorem publishReport_ends (c : Course) (h : c.Starts) :
    c.Ends ((publishReport c.env c.reportId c.report c.req).finish c.before) := by
  have key : orElse (some c.req.vizType) "table" = vizKeyOf c.req := rfl
  have definition : normalizeDefinition c.report.definition = c.definition := rfl
  have sliceName : sliceNameOf c.req.chartName c.report.name = c.sliceName := rfl
  have dataset := findOrCreateDataset_course c
  unfold publishReport Tx.finish
  simp only [key, h.entry, Tx.read_bind_apply, Session.clean_working, h.compiled, definition,
    sliceName]
  cases refused : c.env.refuses .dataset with
  | some e =>
    simp only [refused] at dataset
    have point : c.point = .dataset := by simp [Course.point, refused]
    rw [Tx.bind_of_error dataset]
    simp [Course.Ends, point, Course.stored]
  | none =>
    simp only [refused] at dataset
    rw [Tx.bind_of_ok dataset]
    rcases ensureMetrics_apply c.env c.datasetId c.definition c.afterDataset with
      ⟨metrics, passes⟩ | ⟨e, metrics, change, refusedMetrics⟩
    · rw [Tx.bind_of_ok metrics]
      have metricsPass : ¬c.metricsRefused := by
        rintro ⟨change, refusedMetrics⟩
        simp [passes change] at refusedMetrics
      have folded : putMetrics c.datasetId c.definition c.afterDataset = c.afterMetrics := rfl
      rw [folded]
      simp only [Tx.read_bind_apply, Session.clean_working]
      cases found : c.afterMetrics.datasets.get c.datasetId with
      | none =>
        have fields : c.fields = .error (.other "dataset deleted") := by simp [Course.fields, found]
        have point : c.point = .params := by
          simp [Course.point, refused, metricsPass, fields, Except.toOption]
        simp [Course.Ends, point, Course.stored]
      | some t =>
        simp only
        cases built : buildParams (vizKeyOf c.req) c.entry c.datasetId t c.definition with
        | error e =>
          have fields : c.fields = .error e := by simp [Course.fields, found, built, Except.map]
          have point : c.point = .params := by
            simp [Course.point, refused, metricsPass, fields, Except.toOption]
          simp [Course.Ends, point, Course.stored]
        | ok params =>
          have fields : c.fields =
              .ok ⟨c.sliceName, c.datasetId, t.tableName, c.entry.viz, params⟩ := by
            simp [Course.fields, found, built, Except.map]
          exact chartPart_ends c refused metricsPass fields
    · have point : c.point = .metrics := by
        simp [Course.point, refused, Course.metricsRefused, change, refusedMetrics]
      rw [Tx.bind_of_error metrics]
      simp [Course.Ends, point, Course.stored]

/-! ## Courses of a request -/

/-- The course of a publish; `none` when the chart type is unknown or the report
does not compile. -/
def courseOf (env : PublishEnv) (reportId : Nat) (report : ReportDesigner) (req : PublishRequest)
    (m : Metadata) : Option Course :=
  match vizCatalog (vizKeyOf req), compileReport env report.definition m with
  | some entry, .ok (sql, databaseId) => some ⟨env, m, reportId, report, req, entry, sql, databaseId⟩
  | _, _ => none

section
variable {env : PublishEnv} {reportId : Nat} {report : ReportDesigner} {req : PublishRequest}
  {m : Metadata}

theorem courseOf_eq_some {c : Course} (h : courseOf env reportId report req m = some c) :
    c.Starts ∧ c.env = env ∧ c.reportId = reportId ∧ c.report = report ∧ c.req = req ∧
      c.before = m := by
  unfold courseOf at h
  split at h
  · next entry sql databaseId viz compiled =>
    obtain rfl := Option.some.inj h
    exact ⟨⟨viz, compiled⟩, rfl, rfl, rfl, rfl, rfl⟩
  · simp at h

theorem publishReport_of_course {c : Course} (h : courseOf env reportId report req m = some c) :
    c.Ends ((publishReport env reportId report req).finish m) := by
  obtain ⟨starts, rfl, rfl, rfl, rfl, rfl⟩ := courseOf_eq_some h
  exact publishReport_ends c starts

theorem publishReport_of_none (h : courseOf env reportId report req m = none) :
    ∃ e, (publishReport env reportId report req).finish m = (.error e, m) := by
  have key : orElse (some req.vizType) "table" = vizKeyOf req := rfl
  unfold publishReport Tx.finish
  unfold courseOf at h
  simp only [key]
  cases viz : vizCatalog (vizKeyOf req) with
  | none => exact ⟨_, rfl⟩
  | some entry =>
    simp only [Tx.read_bind_apply, Session.clean_working]
    cases compiled : compileReport env report.definition m with
    | error e => exact ⟨e, rfl⟩
    | ok p => simp [viz, compiled] at h

end

end XpBuilder.Publish
