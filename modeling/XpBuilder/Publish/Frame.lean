import XpBuilder.Publish.Course

/-! What a publish leaves alone, at whatever point it ends: every dataset and
every chart but its own, the dashboards that neither are its target nor hold its
chart, and, unless it gets to its end, every report row. -/

namespace XpBuilder.Publish

theorem dropSlice_of_not_mem {chartId : Nat} {d : Dashboard} (h : chartId ∉ d.slices) :
    dropSlice chartId d = d := by
  have same : d.slices.filter (fun c => c ≠ chartId) = d.slices := by
    rw [List.filter_eq_self]
    intro c hc
    simp only [ne_eq, decide_eq_true_eq]
    intro eq
    exact h (eq ▸ hc)
  rw [dropSlice, same]

theorem detachAll_get (chartId : Nat) (exclude : Option Nat) (m : Metadata) (id : Nat) :
    (detachAll chartId exclude m).dashboards.get id =
      (m.dashboards.get id).map (fun d =>
        if chartId ∈ d.slices ∧ exclude ≠ some id then detachFrom chartId d else d) :=
  Table.get_updateAll _ _ _

namespace Course
variable (c : Course)

@[simp] theorem afterDataset_charts : c.afterDataset.charts = c.before.charts := by
  simp [afterDataset, afterPut]

@[simp] theorem afterDataset_dashboards : c.afterDataset.dashboards = c.before.dashboards := by
  simp [afterDataset, afterPut]

@[simp] theorem afterDataset_reports : c.afterDataset.reports = c.before.reports := by
  simp [afterDataset, afterPut]

/-- After the parameters the fields of the chart are known. -/
theorem fields_of_point (h : c.point ≠ .dataset ∧ c.point ≠ .metrics ∧ c.point ≠ .params) :
    ∃ f, c.fields = .ok f := by
  cases fields : c.fields with
  | ok f => exact ⟨f, rfl⟩
  | error e =>
    unfold point at h
    split_ifs at h <;> simp_all [Except.toOption]

theorem discards_of_point (h : c.point = .discarded) : c.recorded = none := by
  unfold point at h
  split_ifs at h with _ _ _ _ _ discards
  cases target : c.target with
  | existing id =>
    rw [target] at discards
    simpa using discards.1
  | new _ | nowhere =>
    rw [target] at discards
    exact discards.elim

/-- The dataset stage writes one row. -/
theorem afterPut_datasets_get {k : Nat} (h : k ≠ c.datasetId) :
    c.afterPut.datasets.get k = c.before.datasets.get k := by
  unfold datasetId datasetIdOf at h
  unfold afterPut putDataset
  cases found : findDataset c.before c.databaseId c.name with
  | none =>
    rw [found] at h
    simp only [Table.get_insert, if_neg h]
  | some p =>
    rw [found] at h
    simp only [Table.get_update, if_neg h]

theorem fetched_datasets_get (env : PublishEnv) {datasetId k : Nat} (m : Metadata)
    (h : k ≠ datasetId) : (fetched env datasetId m).datasets.get k = m.datasets.get k := by
  unfold fetched
  split
  · rfl
  · split
    · rfl
    · simp only [Table.get_update, if_neg h]

theorem afterDataset_datasets_get {k : Nat} (h : k ≠ c.datasetId) :
    c.afterDataset.datasets.get k = c.before.datasets.get k := by
  rw [afterDataset, fetched_datasets_get _ _ h, c.afterPut_datasets_get h]

theorem afterMetrics_datasets_get {k : Nat} (h : k ≠ c.datasetId) :
    c.afterMetrics.datasets.get k = c.before.datasets.get k := by
  rw [afterMetrics, putMetrics, Table.get_update, if_neg h, c.afterDataset_datasets_get h]

@[simp] theorem opened_datasets : c.opened.datasets = c.afterMetrics.datasets := by
  rw [← c.afterChart_datasets]
  unfold opened
  cases c.target <;> rfl

@[simp] theorem opened_charts : c.opened.charts = c.afterChart.charts := by
  unfold opened
  cases c.target <;> rfl

@[simp] theorem opened_reports : c.opened.reports = c.before.reports := by
  rw [← c.afterChart_reports]
  unfold opened
  cases c.target <;> rfl

@[simp] theorem published_datasets : c.published.datasets = c.afterMetrics.datasets := by
  rw [← c.opened_datasets]
  unfold published recordPublish Target.attached
  cases c.target.dashboardId c.afterChart <;> rfl

@[simp] theorem published_charts : c.published.charts = c.afterChart.charts := by
  rw [← c.opened_charts]
  unfold published recordPublish Target.attached
  cases c.target.dashboardId c.afterChart <;> rfl

@[simp] theorem detached_datasets : c.detached.datasets = c.afterMetrics.datasets :=
  c.opened_datasets

@[simp] theorem detached_charts : c.detached.charts = c.afterChart.charts := c.opened_charts

@[simp] theorem detached_reports : c.detached.reports = c.before.reports := c.opened_reports

theorem stored_datasets (p : Point) : (c.stored p).datasets = match p with
    | .dataset => c.before.datasets
    | .metrics => c.afterDataset.datasets
    | _ => c.afterMetrics.datasets := by
  cases p <;> simp [stored, deleteChart]

theorem stored_datasets_get (p : Point) {k : Nat} (h : k ≠ c.datasetId) :
    (c.stored p).datasets.get k = c.before.datasets.get k := by
  have metrics := c.afterMetrics_datasets_get h
  rw [stored_datasets]
  cases p with
  | dataset => rfl
  | metrics => exact c.afterDataset_datasets_get h
  | _ => exact metrics

/-- The chart stage writes one row. -/
theorem afterChart_charts_get {k : Nat} (h : k ≠ c.chartId) :
    c.afterChart.charts.get k = c.before.charts.get k := by
  unfold afterChart
  split
  · rw [afterMetrics_charts]
  · unfold chartStored
    rw [c.recordedChart_afterMetrics]
    have id : c.chartId = c.recorded.getD c.before.charts.next := rfl
    rw [id] at h
    cases recorded : c.recorded with
    | none =>
      rw [recorded] at h
      have other : k ≠ c.before.charts.next := h
      simp only [Table.get_insert, afterMetrics_charts, if_neg other]
    | some r =>
      rw [recorded] at h
      have other : k ≠ r := h
      simp only [Table.get_update, afterMetrics_charts, if_neg other]

theorem afterChart_charts {f : ChartFields} (fields : c.fields = .ok f) :
    c.afterChart.charts = match c.recorded with
      | some id => c.before.charts.update id (rewriteChart c.env.user f)
      | none => c.before.charts.insert (newChart c.env.user f) := by
  simp only [afterChart, fields, chartStored, c.recordedChart_afterMetrics]
  cases c.recorded <;> simp only [afterMetrics_charts]

theorem recorded_row {id : Nat} (h : c.recorded = some id) :
    ∃ row, c.before.charts.get id = some row := by
  have stands := (Option.filter_eq_some_iff.mp h).2
  exact Option.isSome_iff_exists.mp stands

theorem stored_charts_get (p : Point) {k : Nat} (h : k ≠ c.chartId) :
    (c.stored p).charts.get k = c.before.charts.get k := by
  have chart := c.afterChart_charts_get h
  cases p with
  | dataset => rfl
  | metrics => simp [stored, afterDataset, afterPut]
  | params | chart => simp [stored]
  | discarded => simpa only [stored, deleteChart, Table.get_delete, if_neg h] using chart
  | unplaced => exact chart
  | detach => simpa only [stored, opened_charts] using chart
  | detachAgain | report => simpa only [stored, detached_charts] using chart
  | done => simpa only [stored, published_charts] using chart

theorem opened_dashboards_get {id : Nat} (h : c.dashboardId ≠ some id) :
    c.opened.dashboards.get id = c.before.dashboards.get id := by
  unfold opened
  unfold dashboardId at h
  cases target : c.target with
  | new name =>
    rw [target] at h
    have other : id ≠ c.before.dashboards.next := fun eq => h (by rw [eq]; rfl)
    simp only [Target.opened, Table.get_insert, afterChart_dashboards, if_neg other]
  | existing _ | nowhere => simp only [Target.opened, afterChart_dashboards]

/-- The chart leaves every dashboard it is on, the target apart. -/
theorem detached_dashboards_get {id : Nat} (h : c.dashboardId ≠ some id) :
    c.detached.dashboards.get id = (c.before.dashboards.get id).map (fun d =>
      if c.chartId ∈ d.slices then detachFrom c.chartId d else d) := by
  have kept : c.target.kept ≠ some id := by
    unfold dashboardId at h
    cases target : c.target with
    | existing i =>
      rw [target] at h
      exact h
    | new _ | nowhere => simp [Target.kept]
  have opened := c.opened_dashboards_get h
  unfold detached Target.detached
  rw [detachAll_get]
  simp only [kept, ne_eq, not_false_eq_true, and_true]
  exact congrArg (Option.map _) opened

theorem published_dashboards_get {id : Nat} (h : c.dashboardId ≠ some id) :
    c.published.dashboards.get id = c.detached.dashboards.get id := by
  have target := c.dashboardId_afterChart
  unfold published recordPublish Target.attached
  rw [target]
  cases found : c.dashboardId with
  | none => rfl
  | some i =>
    rw [found] at h
    have other : id ≠ i := fun eq => h (by rw [eq])
    simp only [attachIn, Table.get_update, if_neg other]
    rfl

/-- A dashboard that neither is the target nor holds the chart stays as it is. -/
theorem stored_dashboards_get (p : Point) {id : Nat} (target : c.dashboardId ≠ some id)
    (free : ∀ d, c.before.dashboards.get id = some d → c.chartId ∉ d.slices) :
    (c.stored p).dashboards.get id = c.before.dashboards.get id := by
  have opened := c.opened_dashboards_get target
  have detached : c.detached.dashboards.get id = c.before.dashboards.get id := by
    rw [c.detached_dashboards_get target]
    cases found : c.before.dashboards.get id with
    | none => rfl
    | some d => simp [free d found]
  cases p with
  | dataset => rfl
  | metrics => simp [stored, afterDataset, afterPut]
  | params | chart => simp [stored]
  | discarded =>
    simp only [stored, deleteChart, Table.get_updateAll, afterChart_dashboards]
    cases found : c.before.dashboards.get id with
    | none => rfl
    | some d => rw [Option.map_some, dropSlice_of_not_mem (free d found)]
  | unplaced => simp [stored]
  | detach => exact opened
  | detachAgain | report => exact detached
  | done => exact (c.published_dashboards_get target).trans detached

theorem published_reports_get (r : Nat) :
    c.published.reports.get r = if r = c.reportId then
      (c.before.reports.get r).map (fun row =>
        { row with
          datasetId := some c.datasetId
          chartId := some c.chartId
          dashboardId := c.dashboardId
          vizType := some c.entry.viz
          chartName := some c.sliceName
          publishedAt := some c.env.now })
      else c.before.reports.get r := by
  have attached : (c.target.attached c.env c.chartId c.sliceName c.afterChart).reports =
      c.before.reports := by
    rw [← c.opened_reports]
    unfold Target.attached
    cases c.target.dashboardId c.afterChart <;> rfl
  simp only [published, recordPublish, attached, Table.get_update]

/-- Only a publish that gets to its end writes a report row. -/
theorem stored_reports {p : Point} (h : p ≠ .done) : (c.stored p).reports = c.before.reports := by
  cases p with
  | dataset => rfl
  | metrics => simp [stored, afterDataset, afterPut]
  | params | chart => simp [stored]
  | discarded | unplaced => simp [stored, deleteChart]
  | detach => simp [stored]
  | detachAgain | report => simp [stored]
  | done => exact absurd rfl h

end Course

/-! ## One dashboard, one chart -/

/-- The chart is committed at this point. -/
def Point.charted : Point → Bool
  | .dataset | .metrics | .params | .chart => false
  | _ => true

/-- The detachment is committed at this point. -/
def Point.detached : Point → Bool
  | .detachAgain | .report | .done => true
  | _ => false

namespace Course
variable (c : Course)

/-- A dashboard after the detachment. -/
def leave (id : Nat) (d : Dashboard) : Dashboard :=
  if c.chartId ∈ d.slices ∧ c.target ≠ .existing id then detachFrom c.chartId d else d

/-- What a dashboard that exists before becomes. -/
def board (id : Nat) (d : Dashboard) : Point → Dashboard
  | .discarded => dropSlice c.chartId d
  | .detachAgain | .report => c.leave id d
  | .done =>
    if c.target = .existing id then attachChart c.env.freshIds c.chartId c.sliceName d
    else c.leave id d
  | _ => d

theorem kept_eq_some_iff (id : Nat) : c.target.kept = some id ↔ c.target = .existing id := by
  cases c.target <;> simp [Target.kept]

theorem dashboardId_eq_some_iff {id : Nat} {d : Dashboard} (h : c.before.dashboards.get id = some d) :
    c.dashboardId = some id ↔ c.target = .existing id := by
  have old : c.before.dashboards.next ≠ id := Nat.ne_of_gt (Table.lt_next h)
  unfold dashboardId
  cases c.target <;> simp [Target.dashboardId, old]

theorem stored_dashboard {id : Nat} {d : Dashboard} (h : c.before.dashboards.get id = some d)
    (p : Point) : (c.stored p).dashboards.get id = some (c.board id d p) := by
  have opened : c.opened.dashboards.get id = some d := by
    unfold opened
    cases c.target with
    | new name => simpa only [Target.opened, afterChart_dashboards] using Table.get_insert_of_some _ h
    | existing _ | nowhere => simpa only [Target.opened, afterChart_dashboards] using h
  have detached : c.detached.dashboards.get id = some (c.leave id d) := by
    have shape := detachAll_get c.chartId c.target.kept c.opened id
    simp only [opened, Option.map_some, ne_eq, c.kept_eq_some_iff] at shape
    exact shape
  cases p with
  | dataset => exact h
  | metrics => simpa [stored, board] using h
  | params | chart => simpa [stored, board] using h
  | discarded => simp [stored, deleteChart, h, board]
  | unplaced => simpa [stored, board] using h
  | detach => exact opened
  | detachAgain | report => exact detached
  | done =>
    by_cases target : c.target = .existing id
    · have kept : c.leave id d = d := by simp [leave, target]
      rw [kept] at detached
      have row : c.published.dashboards.get id =
          (c.detached.dashboards.get id).map (attachChart c.env.freshIds c.chartId c.sliceName) := by
        unfold published recordPublish Target.attached
        rw [c.dashboardId_afterChart, (c.dashboardId_eq_some_iff h).mpr target]
        exact Table.get_update_self _ _ _
      simp only [stored, row, detached, Option.map_some, board, if_pos target]
    · have other : c.dashboardId ≠ some id := fun eq => target ((c.dashboardId_eq_some_iff h).mp eq)
      simp only [stored, board, if_neg target]
      rw [c.published_dashboards_get other, detached]

/-- The chart that a republish finds. -/
theorem stored_recorded {id : Nat} {row : Slice} (recorded : c.recorded = some id)
    (h : c.before.charts.get id = some row) :
    (c.point.charted = false ∧ (c.stored c.point).charts.get id = some row) ∨
      ∃ f, c.point.charted = true ∧ c.fields = .ok f ∧
        (c.stored c.point).charts.get id = some (rewriteChart c.env.user f row) := by
  by_cases charted : c.point.charted = true
  · obtain ⟨f, fields⟩ := c.fields_of_point (by
      refine ⟨?_, ?_, ?_⟩ <;> intro point <;> simp [point, Point.charted] at charted)
    have after : c.afterChart.charts.get id = some (rewriteChart c.env.user f row) := by
      rw [c.afterChart_charts fields, recorded]
      simp [h]
    refine .inr ⟨f, charted, fields, ?_⟩
    cases point : c.point with
    | dataset | metrics | params | chart => simp [point, Point.charted] at charted
    | discarded =>
      rw [c.discards_of_point point] at recorded
      exact absurd recorded (by simp)
    | unplaced | detach | detachAgain | report | done => simpa [stored] using after
  · refine .inl ⟨by simpa using charted, ?_⟩
    cases point : c.point with
    | dataset | metrics | params | chart => simpa [stored] using h
    | _ => simp [point, Point.charted] at charted

end Course
end XpBuilder.Publish
