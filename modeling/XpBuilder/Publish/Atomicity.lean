import XpBuilder.Publish.Frame

/-! When a publish that raises leaves everything as it was. It commits on its way,
so the rollback of the view restores the rows exactly when every write that was
committed before the end had been made already by an earlier publish. -/

namespace XpBuilder

namespace Table
variable {α : Type}

/-- The same rows; the next key is not compared. -/
def SameRows (t u : Table α) : Prop := ∀ k, u.get k = t.get k

theorem SameRows.refl (t : Table α) : t.SameRows t := fun _ => rfl

theorem not_sameRows_insert (t : Table α) (a : α) : ¬t.SameRows (t.insert a) := by
  intro same
  have new := same t.next
  rw [get_insert_next, t.get_next] at new
  exact absurd new (by simp)

theorem sameRows_update_iff (t : Table α) (k : Nat) (f : α → α) :
    t.SameRows (t.update k f) ↔ ∀ a, t.get k = some a → f a = a := by
  constructor
  · intro same a ha
    have row := same k
    rw [get_update_self, ha] at row
    exact Option.some.inj row
  · intro kept j
    rw [t.update_eq_self kept]

theorem sameRows_updateAll_iff (t : Table α) (f : Nat → α → α) :
    t.SameRows (t.updateAll f) ↔ ∀ k a, t.get k = some a → f k a = a := by
  constructor
  · intro same k a ha
    have row := same k
    rw [get_updateAll, ha] at row
    exact Option.some.inj row
  · intro kept k
    rw [get_updateAll]
    cases ha : t.get k with
    | none => rfl
    | some a => rw [Option.map_some, kept k a ha]

end Table

/-- Every dataset, chart, dashboard and report row is the same. -/
structure Metadata.SameRows (m m' : Metadata) : Prop where
  datasets : m.datasets.SameRows m'.datasets
  charts : m.charts.SameRows m'.charts
  dashboards : m.dashboards.SameRows m'.dashboards
  reports : m.reports.SameRows m'.reports

theorem Metadata.SameRows.refl (m : Metadata) : m.SameRows m :=
  ⟨.refl _, .refl _, .refl _, .refl _⟩

namespace Publish

/-- A publish that raises leaves every row as it was. -/
def AllOrNothing (env : PublishEnv) (reportId : Nat) (report : ReportDesigner)
    (req : PublishRequest) (m : Metadata) : Prop :=
  ∀ e m', (publishReport env reportId report req).finish m = (.error e, m') → m.SameRows m'

namespace Course
variable (c : Course)

/-! ## Writes that were made already -/

/-- The dataset is there with this SQL, and fetching its metadata brings nothing new. -/
def DatasetStands : Prop :=
  ∃ t, findDataset c.before c.databaseId c.name = some (c.datasetId, t) ∧ t.sql = some c.sql ∧
    ∀ ext, c.env.external t = some ext → c.env.refuses .metadata = none →
      mergeMetadata c.env ext t = t

/-- The dataset has all its metrics. -/
def MetricsStand : Prop := ¬metricsChange c.datasetId c.definition c.before

/-- The recorded chart is there and has these fields. -/
def ChartStands : Prop :=
  ∃ f id row, c.fields = .ok f ∧ c.recorded = some id ∧ c.before.charts.get id = some row ∧
    rewriteChart c.env.user f row = row

def Unlisted : Prop := ∀ id d, c.before.dashboards.get id = some d → c.chartId ∉ d.slices

/-- No dashboard is to be made. -/
def NoNewDashboard : Prop := ∀ name, c.target ≠ .new name

/-- The chart is on no dashboard but the target. -/
def NothingToDetach : Prop :=
  ∀ id d, c.before.dashboards.get id = some d → c.chartId ∈ d.slices → c.target.kept = some id

/-- Every write committed before the end had been made already. -/
def Untouched : Point → Prop
  | .dataset | .done => True
  | .metrics => c.DatasetStands
  | .params | .chart => c.DatasetStands ∧ c.MetricsStand
  | .discarded => c.DatasetStands ∧ c.MetricsStand ∧ c.Unlisted
  | .unplaced => c.DatasetStands ∧ c.MetricsStand ∧ c.ChartStands
  | .detach => c.DatasetStands ∧ c.MetricsStand ∧ c.ChartStands ∧ c.NoNewDashboard
  | .detachAgain | .report =>
    c.DatasetStands ∧ c.MetricsStand ∧ c.ChartStands ∧ c.NoNewDashboard ∧ c.NothingToDetach

/-! ## The dataset -/

theorem datasetId_eq {id : Nat} {t : SqlaTable}
    (h : findDataset c.before c.databaseId c.name = some (id, t)) : c.datasetId = id := by
  rw [datasetId, datasetIdOf, h]

theorem afterPut_of_found {t : SqlaTable}
    (found : findDataset c.before c.databaseId c.name = some (c.datasetId, t))
    (sql : t.sql = some c.sql) : c.afterPut = c.before := by
  have row : c.before.datasets.get c.datasetId = some t := (Table.first_eq_some found).1
  have same : c.before.datasets.update c.datasetId (fun d => { d with sql := some c.sql }) =
      c.before.datasets := by
    refine Table.update_eq_self _ (fun a ha => ?_)
    obtain rfl : t = a := Option.some.inj (row.symm.trans ha)
    rw [← sql]
  unfold afterPut putDataset
  rw [found]
  simp only [same]

theorem afterDataset_of_stands (h : c.DatasetStands) : c.afterDataset = c.before := by
  obtain ⟨t, found, sql, fetch⟩ := h
  have row : c.before.datasets.get c.datasetId = some t := (Table.first_eq_some found).1
  have put := c.afterPut_of_found found sql
  rw [afterDataset, put, fetched, row, Option.bind_some]
  cases external : c.env.external t with
  | none => rfl
  | some ext =>
    cases refused : c.env.refuses .metadata with
    | some e => simp
    | none =>
      have same : c.before.datasets.update c.datasetId (mergeMetadata c.env ext) =
          c.before.datasets := by
        refine Table.update_eq_self _ (fun a ha => ?_)
        obtain rfl : t = a := Option.some.inj (row.symm.trans ha)
        exact fetch ext external refused
      simp [same]

/-- The row of the dataset after the fetch: nothing gets lost of its metrics. -/
theorem afterDataset_row : ∃ u, c.afterDataset.datasets.get c.datasetId = some u ∧
    u.sql = some c.sql ∧ ∀ t, c.before.datasets.get c.datasetId = some t →
      ∃ extra, u.metrics = t.metrics ++ extra := by
  have put : ∃ u, c.afterPut.datasets.get c.datasetId = some u ∧ u.sql = some c.sql ∧
      ∀ t, c.before.datasets.get c.datasetId = some t → u.metrics = t.metrics := by
    unfold afterPut datasetId datasetIdOf putDataset
    cases found : findDataset c.before c.databaseId c.name with
    | none =>
      refine ⟨_, Table.get_insert_next _ _, rfl, fun t ht => ?_⟩
      simp [c.before.datasets.get_next] at ht
    | some p =>
      have row := (Table.first_eq_some found).1
      refine ⟨{ p.2 with sql := some c.sql }, by simp [row], rfl, fun t ht => ?_⟩
      simp only at ht
      rw [row] at ht
      rw [← Option.some.inj ht]
  obtain ⟨u, row, sql, metrics⟩ := put
  unfold afterDataset fetched
  rw [row, Option.bind_some]
  cases c.env.external u with
  | none => exact ⟨u, row, sql, fun t ht => ⟨[], by simp [metrics t ht]⟩⟩
  | some ext =>
    by_cases refused : (c.env.refuses .metadata).isSome
    · exact ⟨u, by simp [refused, row], sql, fun t ht => ⟨[], by simp [metrics t ht]⟩⟩
    · refine ⟨mergeMetadata c.env ext u, by simp [refused, row], sql, fun t ht => ?_⟩
      rw [← metrics t ht]
      exact ⟨_, rfl⟩

/-- A dataset whose row is the same after the fetch was found, not made. -/
theorem datasetStands_of_row
    (h : c.afterDataset.datasets.get c.datasetId = c.before.datasets.get c.datasetId) :
    c.DatasetStands := by
  obtain ⟨u, after, sql, -⟩ := c.afterDataset_row
  rw [after] at h
  cases found : findDataset c.before c.databaseId c.name with
  | none =>
    have next : c.datasetId = c.before.datasets.next := by rw [datasetId, datasetIdOf, found]
    rw [next, Table.get_next] at h
    exact absurd h (by simp)
  | some p =>
    have id := c.datasetId_eq found
    have row : c.before.datasets.get c.datasetId = some p.2 := by
      rw [id]
      exact (Table.first_eq_some found).1
    obtain rfl : u = p.2 := Option.some.inj (h.trans row)
    have found : findDataset c.before c.databaseId c.name = some (c.datasetId, p.2) := by
      rw [found, id]
    have put := c.afterPut_of_found found sql
    refine ⟨p.2, found, sql, fun ext external accepted => ?_⟩
    rw [afterDataset, put, fetched, row, Option.bind_some, external, accepted] at after
    simpa [row] using after

theorem sameRows_afterDataset_iff :
    c.before.datasets.SameRows c.afterDataset.datasets ↔ c.DatasetStands := by
  constructor
  · exact fun same => c.datasetStands_of_row (same c.datasetId)
  · intro stands
    rw [c.afterDataset_of_stands stands]
    exact .refl _

/-! ## The metrics -/

theorem ensureMetric_length (name expression : String) (ms : List SqlMetric) :
    ms.length ≤ (ensureMetric name expression ms).length := by
  induction ms with
  | nil => exact Nat.zero_le _
  | cons m rest ih =>
    unfold ensureMetric
    split
    · exact Nat.le_refl _
    · simpa only [List.length_cons] using Nat.succ_le_succ ih

theorem registerMetrics_length (d : Definition) (ms : List SqlMetric) :
    ms.length ≤ (registerMetrics d ms).length := by
  unfold registerMetrics
  induction (wantedMetrics d).entries generalizing ms with
  | nil => exact Nat.le_refl _
  | cons w rest ih => exact (ensureMetric_length w.1 w.2 ms).trans (ih _)

theorem sameRows_afterMetrics_iff :
    c.before.datasets.SameRows c.afterMetrics.datasets ↔ c.DatasetStands ∧ c.MetricsStand := by
  constructor
  · intro same
    obtain ⟨u, after, -, metrics⟩ := c.afterDataset_row
    have row : c.before.datasets.get c.datasetId =
        some { u with metrics := registerMetrics c.definition u.metrics } := by
      rw [← same c.datasetId, afterMetrics, putMetrics, Table.get_update_self, after]
      rfl
    obtain ⟨extra, grown⟩ := metrics _ row
    -- metrics are only added or rewritten, so none was added
    have length := registerMetrics_length c.definition u.metrics
    have shrunk := congrArg List.length grown
    simp only [List.length_append] at shrunk
    have none : extra = [] := List.length_eq_zero_iff.mp (by omega)
    rw [none, List.append_nil] at grown
    have settled : registerMetrics c.definition u.metrics = u.metrics := grown.symm
    rw [settled] at row
    refine ⟨c.datasetStands_of_row (after.trans row.symm), ?_⟩
    rintro ⟨t, ht, change⟩
    obtain rfl : u = t := Option.some.inj (row.symm.trans ht)
    exact change settled
  · rintro ⟨stands, settled⟩
    have same : c.afterMetrics = c.before := by
      rw [afterMetrics, c.afterDataset_of_stands stands, putMetrics_eq_self settled]
    rw [same]
    exact .refl _

/-! ## The chart -/

theorem sameRows_afterChart_iff {f : ChartFields} (fields : c.fields = .ok f) :
    c.before.charts.SameRows c.afterChart.charts ↔ c.ChartStands := by
  rw [c.afterChart_charts fields]
  unfold ChartStands
  cases recorded : c.recorded with
  | none => simp [Table.not_sameRows_insert]
  | some id =>
    obtain ⟨row, found⟩ := c.recorded_row recorded
    simp only [Table.sameRows_update_iff]
    constructor
    · exact fun kept => ⟨f, id, row, fields, rfl, found, kept row found⟩
    · rintro ⟨g, j, r, hg, hj, hr, kept⟩ a ha
      obtain rfl : f = g := Except.ok.inj (fields.symm.trans hg)
      obtain rfl : id = j := Option.some.inj hj
      obtain rfl : r = a := Option.some.inj (hr.symm.trans ha)
      exact kept

/-- Taking a new chart back leaves the charts as they were. -/
theorem sameRows_discarded {f : ChartFields} (fields : c.fields = .ok f) (new : c.recorded = none) :
    c.before.charts.SameRows (deleteChart c.chartId c.afterChart).charts := by
  have id := c.chartId_of_new new
  intro k
  simp only [deleteChart, c.afterChart_charts fields, new, id, Table.get_delete, Table.get_insert]
  by_cases hk : k = c.before.charts.next
  · rw [if_pos hk, hk, Table.get_next]
  · rw [if_neg hk, if_neg hk]

/-! ## The dashboards -/

theorem detachFrom_ne_self {chartId : Nat} {d : Dashboard} (h : chartId ∈ d.slices) :
    detachFrom chartId d ≠ d := by
  intro same
  have slices := congrArg Dashboard.slices same
  simp only [detachFrom, dropSlice] at slices
  rw [← slices] at h
  simp at h

theorem sameRows_opened_iff :
    c.before.dashboards.SameRows c.opened.dashboards ↔ c.NoNewDashboard := by
  unfold opened NoNewDashboard
  cases target : c.target with
  | new name => simp [Target.opened, Table.not_sameRows_insert]
  | existing _ | nowhere => simp [Target.opened, Table.SameRows.refl]

theorem opened_dashboards_of_old (old : c.NoNewDashboard) : c.opened.dashboards = c.before.dashboards := by
  unfold opened NoNewDashboard at *
  cases target : c.target with
  | new name => exact absurd target (old name)
  | existing _ | nowhere => simp [Target.opened]

theorem sameRows_detached_iff :
    c.before.dashboards.SameRows c.detached.dashboards ↔ c.NoNewDashboard ∧ c.NothingToDetach := by
  have shape : c.detached.dashboards = c.opened.dashboards.updateAll (fun id d =>
      if c.chartId ∈ d.slices ∧ c.target.kept ≠ some id then detachFrom c.chartId d else d) := rfl
  constructor
  · intro same
    have old : c.NoNewDashboard := by
      intro name target
      have new := same c.before.dashboards.next
      rw [shape, Table.get_updateAll, opened, target] at new
      simp [Target.opened, Table.get_next] at new
    refine ⟨old, fun id d hd held => ?_⟩
    rw [shape, c.opened_dashboards_of_old old, Table.sameRows_updateAll_iff] at same
    by_contra kept
    have row := same id d hd
    rw [if_pos ⟨held, kept⟩] at row
    exact detachFrom_ne_self held row
  · rintro ⟨old, free⟩
    rw [shape, c.opened_dashboards_of_old old, Table.sameRows_updateAll_iff]
    intro id d hd
    have kept : ¬(c.chartId ∈ d.slices ∧ c.target.kept ≠ some id) := fun h => h.2 (free id d hd h.1)
    rw [if_neg kept]

theorem sameRows_dropped_iff :
    c.before.dashboards.SameRows (deleteChart c.chartId c.afterChart).dashboards ↔ c.Unlisted := by
  simp only [deleteChart, afterChart_dashboards, Table.sameRows_updateAll_iff]
  refine forall_congr' fun id => forall_congr' fun d => imp_congr_right fun hd => ?_
  constructor
  · intro same held
    have slices := congrArg Dashboard.slices same
    simp only [dropSlice] at slices
    rw [← slices] at held
    simp at held
  · exact dropSlice_of_not_mem

/-! ## All or nothing -/

theorem sameRows_iff (m m' : Metadata) : m.SameRows m' ↔ m.datasets.SameRows m'.datasets ∧
    m.charts.SameRows m'.charts ∧ m.dashboards.SameRows m'.dashboards ∧
    m.reports.SameRows m'.reports :=
  ⟨fun h => ⟨h.datasets, h.charts, h.dashboards, h.reports⟩, fun h => ⟨h.1, h.2.1, h.2.2.1, h.2.2.2⟩⟩

/-- The stored state is the one before exactly when its writes had been made already. -/
theorem sameRows_stored_iff (h : c.point ≠ .done) :
    c.before.SameRows (c.stored c.point) ↔ c.Untouched c.point := by
  have metrics := c.sameRows_afterMetrics_iff
  rw [sameRows_iff]
  cases point : c.point with
  | dataset => simp [stored, Untouched, Table.SameRows.refl]
  | metrics => simp [stored, Untouched, Table.SameRows.refl, c.sameRows_afterDataset_iff]
  | params | chart => simp [stored, Untouched, Table.SameRows.refl, metrics]
  | discarded =>
    obtain ⟨f, fields⟩ := c.fields_of_point (by simp [point])
    have charts := c.sameRows_discarded fields (c.discards_of_point point)
    have dashboards := c.sameRows_dropped_iff
    have datasets : (deleteChart c.chartId c.afterChart).datasets = c.afterMetrics.datasets :=
      c.afterChart_datasets
    have reports : (deleteChart c.chartId c.afterChart).reports = c.before.reports :=
      c.afterChart_reports
    simp only [stored, Untouched, datasets, reports, charts, dashboards, metrics,
      Table.SameRows.refl, true_and, and_true, and_assoc]
  | unplaced | detach | detachAgain | report =>
    obtain ⟨f, fields⟩ := c.fields_of_point (by simp [point])
    have charts := c.sameRows_afterChart_iff fields
    simp [stored, Untouched, Table.SameRows.refl, metrics, charts, c.sameRows_opened_iff,
      c.sameRows_detached_iff, and_assoc]
  | done => exact absurd point h

end Course

/-- A publish is all-or-nothing exactly when it either gets to its end, or fails
before its first commit, or all that it committed until then was there already. -/
theorem allOrNothing_iff_untouched (env : PublishEnv) (reportId : Nat) (report : ReportDesigner)
    (req : PublishRequest) (m : Metadata) :
    AllOrNothing env reportId report req m ↔
      ∀ c, courseOf env reportId report req m = some c → c.Untouched c.point := by
  cases course : courseOf env reportId report req m with
  | none =>
    obtain ⟨e, kept⟩ := publishReport_of_none course
    refine iff_of_true (fun e' m' h => ?_) (by simp)
    rw [kept] at h
    rw [← (Prod.mk.inj h).2]
    exact .refl m
  | some c =>
    have before : c.before = m := (courseOf_eq_some course).2.2.2.2.2
    obtain ⟨answer, stored⟩ := publishReport_of_course course
    unfold AllOrNothing
    by_cases done : c.point = .done
    · rw [if_pos done] at answer
      refine iff_of_true (fun e m' h => ?_) (fun c' h => ?_)
      · rw [h] at answer
        simp at answer
      · obtain rfl := Option.some.inj h
        rw [done]
        trivial
    · rw [if_neg done] at answer
      obtain ⟨e, raised⟩ := answer
      have untouched := c.sameRows_stored_iff done
      rw [before] at untouched
      constructor
      · intro all c' h
        obtain rfl := Option.some.inj h
        exact untouched.mp (all e _ (Prod.ext raised stored))
      · intro h e' m' result
        rw [result] at stored
        have same : m' = c.stored c.point := stored
        rw [same]
        exact untouched.mpr (h c rfl)

/-! ## A first publish that fails -/

def valuesOfA : RawDefinition where
  version := some 1
  datasets := some [⟨1, none⟩]
  relationships := none
  columns := some [⟨1, "v", none⟩]
  metrics := none
  groupBy := none
  filters := none
  orderBy := none
  limit := none

def unpublished (name : String) (d : RawDefinition) : ReportDesigner :=
  ⟨name, "", d, none, none, none, none, none, none⟩

/-- The physical dataset the report reads. -/
def tableA : SqlaTable := ⟨1, none, none, "a", none, [⟨"v", some "INT", none, false⟩], [], none⟩

def oneReport : Metadata where
  datasets := Table.empty.insert tableA
  charts := Table.empty
  dashboards := Table.empty
  reports := Table.empty.insert (unpublished "Sales" valuesOfA)

/-- Everything is accepted, and no column is a date. -/
def plainEnv : PublishEnv where
  user := some 1
  accessible _ _ := true
  reflect _ := some ["v"]
  reflect_ne _ columns h := by
    obtain rfl := Option.some.inj h
    simp
  compile _ _ := .ok "SELECT d1.v AS v FROM a AS d1"
  external _ := some ⟨[("v", some "INT")], []⟩
  temporalType _ := false
  refuses _ := none
  freshIds := ⟨"00000001", "00000002"⟩
  now := 0

def asChart (viz : String) : PublishRequest := ⟨viz, none, none, none⟩

/-- A line chart needs a date; when that is found missing the dataset is committed. -/
theorem lineChart_not_allOrNothing :
    ¬AllOrNothing plainEnv 1 (unpublished "Sales" valuesOfA) (asChart "line") oneReport := by
  intro all
  obtain ⟨e, m', raised, row⟩ : ∃ e m', (publishReport plainEnv 1 (unpublished "Sales" valuesOfA)
      (asChart "line")).finish oneReport = (.error e, m') ∧ (m'.datasets.get 2).isSome :=
    ⟨_, _, rfl, rfl⟩
  have same := (all e m' raised).datasets 2
  rw [same] at row
  exact absurd row (by decide)

end Publish
end XpBuilder
