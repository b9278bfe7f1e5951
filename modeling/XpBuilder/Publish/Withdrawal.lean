import XpBuilder.Publish.Frame

/-! The course of an unpublish, from commit to commit: the chart is taken off the
recorded dashboard, then deleted, then the dataset is deleted, and only then
does the report forget them. -/

namespace XpBuilder.Publish
open PythonText (truthyId)

structure Withdrawal where
  env : PublishEnv
  before : Metadata
  reportId : Nat
  report : ReportDesigner

/-- The commit or check at which an unpublish ends. -/
inductive Withdrawal.Point where
  | unplace | deleteChart | deleteDataset | clear | done
  deriving DecidableEq, Repr

namespace Withdrawal
variable (w : Withdrawal)

/-- The recorded dashboard, if it still exists. -/
def board : Option (Nat × Dashboard) :=
  (truthyId w.report.dashboardId).bind (fun id => (w.before.dashboards.get id).map (fun d => (id, d)))

def unplaced : Metadata :=
  match w.board with
  | none => w.before
  | some (id, d) =>
    match Publish.unplace w.report.chartId d with
    | none => w.before
    | some d' => { w.before with dashboards := w.before.dashboards.update id (fun _ => d') }

/-- The position document cannot be searched, or the commit is refused. -/
def unplaceRefused : Prop :=
  match w.board with
  | none => False
  | some (_, d) =>
    (Publish.unplace w.report.chartId d).isNone ∨ (w.env.refuses .unplace).isSome

instance : Decidable w.unplaceRefused := by
  unfold unplaceRefused
  cases w.board <;> infer_instance

def chart : Option Nat := recordedChart w.before w.report

def uncharted : Metadata :=
  match w.chart with
  | none => w.unplaced
  | some c => Publish.deleteChart c w.unplaced

def dataset : Option Nat := recordedDataset w.before w.report

def emptied : Metadata :=
  match w.dataset with
  | none => w.uncharted
  | some k => { w.uncharted with datasets := w.uncharted.datasets.delete k }

/-- Where the unpublish ends. -/
def point : Point :=
  if w.unplaceRefused then .unplace
  else if w.chart.isSome ∧ (w.env.refuses .deleteChart).isSome then .deleteChart
  else if w.dataset.isSome ∧ (w.env.refuses .deleteDataset).isSome then .deleteDataset
  else if (w.env.refuses .clear).isSome then .clear
  else .done

/-- What is stored when the unpublish ends there. -/
def stored : Point → Metadata
  | .unplace => w.before
  | .deleteChart => w.unplaced
  | .deleteDataset => w.uncharted
  | .clear => w.emptied
  | .done => clearPublish w.reportId w.emptied

def Ends (r : Except PublishFailure String × Metadata) : Prop :=
  (if w.point = .done then r.1 = .ok "Report unpublished" else ∃ e, r.1 = .error e) ∧
    r.2 = w.stored w.point

theorem unplaced_eq : w.unplaced = { w.before with dashboards := w.unplaced.dashboards } := by
  unfold unplaced
  split
  · rfl
  · split <;> rfl

@[simp] theorem unplaced_charts : w.unplaced.charts = w.before.charts := by
  rw [unplaced_eq]

@[simp] theorem unplaced_datasets : w.unplaced.datasets = w.before.datasets := by
  rw [unplaced_eq]

@[simp] theorem unplaced_reports : w.unplaced.reports = w.before.reports := by
  rw [unplaced_eq]

@[simp] theorem uncharted_datasets : w.uncharted.datasets = w.before.datasets := by
  rw [← w.unplaced_datasets]
  unfold uncharted
  split <;> rfl

@[simp] theorem uncharted_reports : w.uncharted.reports = w.before.reports := by
  rw [← w.unplaced_reports]
  unfold uncharted
  split <;> rfl

@[simp] theorem emptied_reports : w.emptied.reports = w.before.reports := by
  rw [← w.uncharted_reports]
  unfold emptied
  split <;> rfl

theorem unplaceChart_apply :
    (unplaceChart w.env w.report (Session.clean w.before) = (.ok (), Session.clean w.unplaced) ∧
      ¬w.unplaceRefused) ∨
    ∃ e s, unplaceChart w.env w.report (Session.clean w.before) = (.error e, s) ∧
      s.stored = w.before ∧ w.unplaceRefused := by
  unfold unplaceChart unplaceRefused unplaced board
  cases dashboard : truthyId w.report.dashboardId with
  | none => exact .inl ⟨rfl, by simp⟩
  | some id =>
    simp only [Tx.read_bind_apply, Session.clean_working, Option.bind_some]
    cases found : w.before.dashboards.get id with
    | none => exact .inl ⟨rfl, by simp⟩
    | some d =>
      simp only [Option.map_some]
      cases searched : Publish.unplace w.report.chartId d with
      | none => exact .inr ⟨_, _, rfl, rfl, .inl rfl⟩
      | some d' =>
        simp only [Tx.update_bind_apply, commit_apply]
        cases refused : w.env.refuses .unplace with
        | none => exact .inl ⟨rfl, by simp⟩
        | some e => exact .inr ⟨_, _, rfl, rfl, .inr rfl⟩

/-- A row is looked up and deleted, with a commit of its own. -/
theorem deleteRecordedChart_apply :
    (deleteRecordedChart w.env w.report (Session.clean w.unplaced) =
        (.ok (), Session.clean w.uncharted) ∧
      ¬(w.chart.isSome ∧ (w.env.refuses .deleteChart).isSome)) ∨
    ∃ e s, deleteRecordedChart w.env w.report (Session.clean w.unplaced) = (.error e, s) ∧
      s.stored = w.unplaced ∧ w.chart.isSome ∧ (w.env.refuses .deleteChart).isSome := by
  have chart : recordedChart w.unplaced w.report = w.chart := by
    simp only [Withdrawal.chart, recordedChart, unplaced_charts]
  unfold deleteRecordedChart uncharted
  rw [Tx.read_bind_apply, Session.clean_working, chart]
  cases found : w.chart with
  | none => exact .inl ⟨rfl, by simp⟩
  | some c =>
    simp only [Tx.update_bind_apply, commit_apply]
    cases refused : w.env.refuses .deleteChart with
    | none => exact .inl ⟨rfl, by simp⟩
    | some e => exact .inr ⟨_, _, rfl, rfl, rfl, rfl⟩

theorem deleteRecordedDataset_apply :
    (deleteRecordedDataset w.env w.report (Session.clean w.uncharted) =
        (.ok (), Session.clean w.emptied) ∧
      ¬(w.dataset.isSome ∧ (w.env.refuses .deleteDataset).isSome)) ∨
    ∃ e s, deleteRecordedDataset w.env w.report (Session.clean w.uncharted) = (.error e, s) ∧
      s.stored = w.uncharted ∧ w.dataset.isSome ∧ (w.env.refuses .deleteDataset).isSome := by
  have dataset : recordedDataset w.uncharted w.report = w.dataset := by
    simp only [Withdrawal.dataset, recordedDataset, uncharted_datasets]
  unfold deleteRecordedDataset emptied
  rw [Tx.read_bind_apply, Session.clean_working, dataset]
  cases found : w.dataset with
  | none => exact .inl ⟨rfl, by simp⟩
  | some k =>
    simp only [Tx.update_bind_apply, commit_apply]
    cases refused : w.env.refuses .deleteDataset with
    | none => exact .inl ⟨rfl, by simp⟩
    | some e => exact .inr ⟨_, _, rfl, rfl, rfl, rfl⟩

theorem unpublishReport_ends :
    w.Ends ((unpublishReport w.env w.reportId w.report).finish w.before) := by
  unfold unpublishReport Tx.finish Ends
  rcases w.unplaceChart_apply with ⟨unplace, passes⟩ | ⟨e, s, unplace, kept, refused⟩
  · rw [Tx.bind_of_ok unplace]
    rcases w.deleteRecordedChart_apply with ⟨chart, charted⟩ | ⟨e, s, chart, kept, refused⟩
    · rw [Tx.bind_of_ok chart]
      rcases w.deleteRecordedDataset_apply with ⟨dataset, set⟩ | ⟨e, s, dataset, kept, refused⟩
      · rw [Tx.bind_of_ok dataset, Tx.update_bind_apply]
        cases refused : w.env.refuses .clear with
        | none =>
          have point : w.point = .done := by simp [point, passes, charted, set, refused]
          rw [Tx.bind_of_ok (commit_ok refused _), point]
          exact ⟨rfl, rfl⟩
        | some e =>
          have point : w.point = .clear := by simp [point, passes, charted, set, refused]
          rw [Tx.bind_of_error (commit_error refused _), point]
          exact ⟨⟨_, rfl⟩, rfl⟩
      · have point : w.point = .deleteDataset := by simp [point, passes, charted, refused]
        rw [Tx.bind_of_error dataset, point]
        exact ⟨⟨e, rfl⟩, kept⟩
    · have point : w.point = .deleteChart := by simp [point, passes, refused]
      rw [Tx.bind_of_error chart, point]
      exact ⟨⟨e, rfl⟩, kept⟩
  · have point : w.point = .unplace := by simp [point, refused]
    rw [Tx.bind_of_error unplace, point]
    exact ⟨⟨e, rfl⟩, kept⟩

/-! ## What it leaves -/

/-- The deletion of the chart is committed at this point. -/
def Point.uncharted : Point → Bool
  | .unplace | .deleteChart => false
  | _ => true

/-- The deletion of the dataset is committed at this point. -/
def Point.emptied : Point → Bool
  | .clear | .done => true
  | _ => false

/-- A dashboard after the chart is taken off the recorded one. -/
def takenOff (id : Nat) (d : Dashboard) : Dashboard :=
  if truthyId w.report.dashboardId = some id then (Publish.unplace w.report.chartId d).getD d else d

/-- What a dashboard becomes. -/
def boardAfter (id : Nat) (d : Dashboard) : Point → Dashboard
  | .unplace => d
  | .deleteChart => w.takenOff id d
  | _ =>
    match w.chart with
    | none => w.takenOff id d
    | some c => dropSlice c (w.takenOff id d)

theorem unplaced_dashboard {id : Nat} {d : Dashboard} (h : w.before.dashboards.get id = some d) :
    w.unplaced.dashboards.get id = some (w.takenOff id d) := by
  unfold unplaced board takenOff
  cases recorded : truthyId w.report.dashboardId with
  | none => simpa using h
  | some i =>
    rw [Option.bind_some]
    by_cases same : i = id
    · rw [same, h, Option.map_some]
      simp only
      cases Publish.unplace w.report.chartId d with
      | none => simpa using h
      | some d' => simp [h]
    · have other : id ≠ i := fun eq => same eq.symm
      simp only [Option.some.injEq, same, if_false]
      cases w.before.dashboards.get i with
      | none => exact h
      | some b =>
        simp only [Option.map_some]
        cases Publish.unplace w.report.chartId b with
        | none => exact h
        | some b' => simpa [Table.get_update, other] using h

theorem uncharted_dashboard {id : Nat} {d : Dashboard} (h : w.before.dashboards.get id = some d) :
    w.uncharted.dashboards.get id = some (w.boardAfter id d .done) := by
  have off := w.unplaced_dashboard h
  unfold uncharted boardAfter
  cases w.chart with
  | none => exact off
  | some c => simp [deleteChart, off]

@[simp] theorem emptied_dashboards : w.emptied.dashboards = w.uncharted.dashboards := by
  unfold emptied
  split <;> rfl

theorem stored_dashboard {id : Nat} {d : Dashboard} (h : w.before.dashboards.get id = some d)
    (p : Point) : (w.stored p).dashboards.get id = some (w.boardAfter id d p) := by
  have off := w.uncharted_dashboard h
  cases p with
  | unplace => exact h
  | deleteChart => exact w.unplaced_dashboard h
  | deleteDataset => exact off
  | clear =>
    rw [stored, emptied_dashboards]
    exact off
  | done => simpa only [stored, clearPublish, emptied_dashboards] using off

/-- No dashboard is made. -/
theorem stored_dashboard_none {id : Nat} (h : w.before.dashboards.get id = none) (p : Point) :
    (w.stored p).dashboards.get id = none := by
  have unplaced : w.unplaced.dashboards.get id = none := by
    unfold unplaced
    split
    · exact h
    · split
      · exact h
      · simp [Table.get_update, h]
  have uncharted : w.uncharted.dashboards.get id = none := by
    unfold uncharted
    cases w.chart with
    | none => exact unplaced
    | some c => simp [deleteChart, unplaced]
  cases p with
  | unplace => exact h
  | deleteChart => exact unplaced
  | deleteDataset => exact uncharted
  | clear | done => simpa [stored, clearPublish] using uncharted

@[simp] theorem emptied_charts : w.emptied.charts = w.uncharted.charts := by
  unfold emptied
  split <;> rfl

theorem stored_charts (p : Point) (k : Nat) :
    (w.stored p).charts.get k =
      if p.uncharted ∧ w.chart = some k then none else w.before.charts.get k := by
  have uncharted : w.uncharted.charts.get k =
      if w.chart = some k then none else w.before.charts.get k := by
    unfold uncharted
    cases w.chart with
    | none => simp
    | some c => simp [deleteChart, Table.get_delete, eq_comm]
  cases p with
  | unplace => simp [stored, Point.uncharted]
  | deleteChart => simp [stored, Point.uncharted]
  | deleteDataset | clear | done =>
    simpa only [stored, clearPublish, emptied_charts, Point.uncharted, true_and] using uncharted

theorem stored_datasets (p : Point) (k : Nat) :
    (w.stored p).datasets.get k =
      if p.emptied ∧ w.dataset = some k then none else w.before.datasets.get k := by
  have emptied : w.emptied.datasets.get k =
      if w.dataset = some k then none else w.before.datasets.get k := by
    unfold emptied
    cases w.dataset with
    | none => simp
    | some j => simp [Table.get_delete, eq_comm]
  cases p with
  | unplace | deleteChart | deleteDataset => simp [stored, Point.emptied]
  | clear | done => simpa only [stored, clearPublish, Point.emptied, true_and] using emptied

/-- Only an unpublish that gets to its end writes a report row. -/
theorem stored_reports {p : Point} (h : p ≠ .done) : (w.stored p).reports = w.before.reports := by
  cases p with
  | done => exact absurd rfl h
  | _ => simp [stored]

theorem cleared_reports_get (r : Nat) :
    (w.stored .done).reports.get r = if r = w.reportId then
      (w.before.reports.get r).map (fun row =>
        { row with
          datasetId := none
          chartId := none
          dashboardId := none
          vizType := none
          chartName := none
          publishedAt := none })
      else w.before.reports.get r := by
  simp only [stored, clearPublish, emptied_reports, Table.get_update]

end Withdrawal
end XpBuilder.Publish
