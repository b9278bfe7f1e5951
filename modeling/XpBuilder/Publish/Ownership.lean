import XpBuilder.Publish.Atomicity
import XpBuilder.Publish.Requests

/-! What a report owns: the datasets, charts and metrics its own publishes made.
The database does not record it, so a ledger beside the metadata does. The code
finds a dataset by its generated name and a metric by its name alone; it keeps
to what it owns exactly as long as these lead to nothing else. -/

namespace XpBuilder.Publish

/-- The report whose publish made a dataset, a chart or a metric, if one did. -/
structure Ledger where
  dataset : Nat → Option Nat
  chart : Nat → Option Nat
  metric : Nat → String → Option Nat

namespace Ledger

/-- Nothing was made by a publish yet. -/
def blank : Ledger := ⟨fun _ => none, fun _ => none, fun _ _ => none⟩

def metricNames (m : Metadata) (datasetId : Nat) : List String :=
  ((m.datasets.get datasetId).map (fun t => t.metrics.map SqlMetric.metricName)).getD []

/-- Enter what is there in `m'` and was not in `m`. -/
def enter (o : Ledger) (author : Option Nat) (m m' : Metadata) : Ledger where
  dataset k :=
    if m.datasets.get k = none ∧ (m'.datasets.get k).isSome then author else o.dataset k
  chart k := if m.charts.get k = none ∧ (m'.charts.get k).isSome then author else o.chart k
  metric k name :=
    if name ∉ metricNames m k ∧ name ∈ metricNames m' k then author else o.metric k name

end Ledger

/-- The report that an action publishes. -/
def Action.author : Action → Option Nat
  | .publish _ reportId _ => some reportId
  | _ => none

/-- The metadata with the ledger. -/
structure Tracked where
  data : Metadata
  owner : Ledger

def Tracked.act (s : Tracked) (a : Action) : Tracked :=
  let after := Publish.act s.data a
  ⟨after, s.owner.enter a.author s.data after⟩

@[simp] theorem Tracked.act_data (s : Tracked) (a : Action) :
    (s.act a).data = Publish.act s.data a := rfl

/-- From `m` to `m'` nothing changes that the report does not own, and no dataset
goes that a chart still uses. -/
structure Spares (o : Ledger) (reportId : Nat) (m m' : Metadata) : Prop where
  datasets : ∀ k t, m.datasets.get k = some t → o.dataset k ≠ some reportId →
    m'.datasets.get k = some t
  metrics : ∀ k t x, m.datasets.get k = some t → x ∈ t.metrics →
    o.metric k x.metricName ≠ some reportId →
    ∃ t', m'.datasets.get k = some t' ∧ x ∈ t'.metrics
  charts : ∀ k row, m.charts.get k = some row → o.chart k ≠ some reportId →
    m'.charts.get k = some row
  used : ∀ k t, m.datasets.get k = some t → m'.datasets.get k = none →
    ∀ j row, m'.charts.get j = some row → row.datasourceId ≠ k

theorem Spares.refl (o : Ledger) (reportId : Nat) (m : Metadata) : Spares o reportId m m :=
  ⟨fun _ _ h _ => h, fun _ t _ h hx _ => ⟨t, h, hx⟩, fun _ _ h _ => h, fun _ t h gone => by
    rw [h] at gone
    exact absurd gone (by simp)⟩

/-! ## Publishing -/

theorem mem_ensureMetric {name expression : String} {x : SqlMetric} {ms : List SqlMetric}
    (hx : x ∈ ms) (kept : x.metricName = name → x.expression = expression) :
    x ∈ ensureMetric name expression ms := by
  induction ms with
  | nil => simp at hx
  | cons m rest ih =>
    unfold ensureMetric
    split
    · next named =>
      rcases List.mem_cons.mp hx with rfl | hx
      · rw [← kept named]
        exact List.mem_cons_self
      · exact List.mem_cons_of_mem _ hx
    · rcases List.mem_cons.mp hx with rfl | hx
      · exact List.mem_cons_self
      · exact List.mem_cons_of_mem _ (ih hx)

/-- A metric that no wanted one contradicts is kept. -/
theorem mem_registerMetrics {d : Definition} {x : SqlMetric} {ms : List SqlMetric} (hx : x ∈ ms)
    (kept : ∀ w ∈ (wantedMetrics d).entries, x.metricName = w.1 → x.expression = w.2) :
    x ∈ registerMetrics d ms := by
  unfold registerMetrics
  revert kept
  induction (wantedMetrics d).entries generalizing ms with
  | nil => exact fun _ => hx
  | cons w rest ih =>
    intro kept
    exact ih (mem_ensureMetric hx (kept w List.mem_cons_self))
      (fun v hv => kept v (List.mem_cons_of_mem w hv))

namespace Course
variable (c : Course)

/-- The writes on the dataset that are committed at this point were made already. -/
def DatasetKept : Point → Prop
  | .dataset => True
  | .metrics => c.DatasetStands
  | _ => c.DatasetStands ∧ c.MetricsStand

/-- The publish comes only upon what its report owns, or rewrites nothing there. -/
structure OnlyOwn (o : Ledger) : Prop where
  dataset : ∀ t, c.before.datasets.get c.datasetId = some t →
    o.dataset c.datasetId = some c.reportId ∨ c.DatasetKept c.point
  metrics : c.point ≠ .dataset → c.point ≠ .metrics →
    ∀ t, c.before.datasets.get c.datasetId = some t → ∀ x ∈ t.metrics,
      o.metric c.datasetId x.metricName = some c.reportId ∨
        ∀ w ∈ (wantedMetrics c.definition).entries, x.metricName = w.1 → x.expression = w.2
  chart : c.point.charted → ∀ id row, c.recorded = some id → c.before.charts.get id = some row →
    o.chart id = some c.reportId ∨ ∀ f, c.fields = .ok f → rewriteChart c.env.user f row = row

theorem stored_datasets_of_kept (h : c.DatasetKept c.point) :
    (c.stored c.point).datasets = c.before.datasets := by
  have same (stands : c.DatasetStands) (settled : c.MetricsStand) :
      c.afterMetrics = c.before := by
    rw [afterMetrics, c.afterDataset_of_stands stands, putMetrics_eq_self settled]
  rw [c.stored_datasets]
  cases point : c.point with
  | dataset => rfl
  | metrics =>
    rw [point] at h
    simp only [c.afterDataset_of_stands h]
  | _ =>
    rw [point] at h
    simp only [same h.1 h.2]

/-- The row of the dataset at the end of the publish: no metric is lost but for one
that a wanted metric contradicts. -/
theorem stored_metrics {t : SqlaTable} (found : c.before.datasets.get c.datasetId = some t)
    (p : Point) {x : SqlMetric} (hx : x ∈ t.metrics)
    (kept : p ≠ .dataset → p ≠ .metrics →
      ∀ w ∈ (wantedMetrics c.definition).entries, x.metricName = w.1 → x.expression = w.2) :
    ∃ t', (c.stored p).datasets.get c.datasetId = some t' ∧ x ∈ t'.metrics := by
  obtain ⟨u, row, -, grown⟩ := c.afterDataset_row
  obtain ⟨extra, metrics⟩ := grown t found
  have held : x ∈ u.metrics := by
    rw [metrics]
    exact List.mem_append_left _ hx
  have after : c.afterMetrics.datasets.get c.datasetId =
      some { u with metrics := registerMetrics c.definition u.metrics } := by
    rw [afterMetrics, putMetrics, Table.get_update_self, row]
    rfl
  rw [c.stored_datasets]
  cases p with
  | dataset => exact ⟨t, found, hx⟩
  | metrics => exact ⟨u, row, held⟩
  | _ => exact ⟨_, after, mem_registerMetrics held (kept (by simp) (by simp))⟩

theorem stored_datasets_isSome (p : Point) {k : Nat} {t : SqlaTable}
    (found : c.before.datasets.get k = some t) : ((c.stored p).datasets.get k).isSome := by
  by_cases own : k = c.datasetId
  · subst own
    obtain ⟨u, row, -⟩ := c.afterDataset_row
    have after : (c.afterMetrics.datasets.get c.datasetId).isSome := by
      rw [afterMetrics, putMetrics, Table.get_update_self, row]
      rfl
    rw [c.stored_datasets]
    cases p with
    | dataset => simp [found]
    | metrics => simp [row]
    | _ => exact after
  · rw [c.stored_datasets_get p own, found]
    rfl

/-- A publish that comes only upon its own spares everything else. -/
theorem spares_of_onlyOwn {o : Ledger} (h : c.OnlyOwn o) :
    Spares o c.reportId c.before (c.stored c.point) := by
  refine ⟨fun k t found foreign => ?_, fun k t x found hx foreign => ?_,
    fun k row found foreign => ?_, fun k t found gone => ?_⟩
  · by_cases own : k = c.datasetId
    · subst own
      have kept := (h.dataset t found).resolve_left foreign
      rw [c.stored_datasets_of_kept kept, found]
    · rw [c.stored_datasets_get _ own, found]
  · by_cases own : k = c.datasetId
    · subst own
      exact c.stored_metrics found c.point hx (fun early first =>
        (h.metrics early first t found x hx).resolve_left foreign)
    · exact ⟨t, by rw [c.stored_datasets_get _ own, found], hx⟩
  · by_cases own : k = c.chartId
    · cases recorded : c.recorded with
      | none =>
        rw [own, c.chartId_of_new recorded, Table.get_next] at found
        exact absurd found (by simp)
      | some id =>
        obtain rfl : k = id := own.trans (c.chartId_of_recorded recorded)
        rcases c.stored_recorded recorded found with ⟨-, kept⟩ | ⟨f, charted, fields, written⟩
        · exact kept
        · have same := (h.chart charted k row recorded found).resolve_left foreign
          rw [written, same f fields]
    · rw [c.stored_charts_get _ own, found]
  · have there := c.stored_datasets_isSome c.point found
    rw [gone] at there
    exact absurd there (by simp)

end Course

/-! ## Unpublishing -/

namespace Withdrawal
variable (w : Withdrawal)

/-- The unpublish deletes only what its report owns, and no dataset in use. -/
structure OnlyOwn (o : Ledger) : Prop where
  chart : w.point.uncharted → ∀ k, w.chart = some k → o.chart k = some w.reportId
  dataset : w.point.emptied → ∀ k, w.dataset = some k → o.dataset k = some w.reportId
  metrics : w.point.emptied → ∀ k t, w.dataset = some k → w.before.datasets.get k = some t →
    ∀ x ∈ t.metrics, o.metric k x.metricName = some w.reportId
  unused : w.point.emptied → ∀ k, w.dataset = some k → ∀ j row,
    w.before.charts.get j = some row → w.chart ≠ some j → row.datasourceId ≠ k

theorem emptied_uncharted {p : Point} (h : p.emptied) : p.uncharted := by
  cases p <;> simp_all [Point.emptied, Point.uncharted]

/-- An unpublish spares everything but its own exactly when it deletes only that. -/
theorem spares_iff_onlyOwn (o : Ledger) :
    Spares o w.reportId w.before (w.stored w.point) ↔ w.OnlyOwn o := by
  have row_of_chart : ∀ {k}, w.chart = some k → ∃ row, w.before.charts.get k = some row :=
    fun h => Option.isSome_iff_exists.mp (Option.filter_eq_some_iff.mp h).2
  have row_of_dataset : ∀ {k}, w.dataset = some k → ∃ t, w.before.datasets.get k = some t :=
    fun h => Option.isSome_iff_exists.mp (Option.filter_eq_some_iff.mp h).2
  constructor
  · intro spares
    have gone (emptied : w.point.emptied) {k : Nat} (dataset : w.dataset = some k) :
        (w.stored w.point).datasets.get k = none := by
      rw [w.stored_datasets, if_pos ⟨emptied, dataset⟩]
    refine ⟨fun uncharted k chart => ?_, fun emptied k dataset => ?_,
      fun emptied k t dataset found x hx => ?_, fun emptied k dataset j row found other => ?_⟩
    · obtain ⟨row, found⟩ := row_of_chart chart
      by_contra foreign
      have same := spares.charts k row found foreign
      rw [w.stored_charts, if_pos ⟨uncharted, chart⟩] at same
      exact absurd same (by simp)
    · obtain ⟨t, found⟩ := row_of_dataset dataset
      by_contra foreign
      have same := spares.datasets k t found foreign
      rw [gone emptied dataset] at same
      exact absurd same (by simp)
    · by_contra foreign
      obtain ⟨t', same, -⟩ := spares.metrics k t x found hx foreign
      rw [gone emptied dataset] at same
      exact absurd same (by simp)
    · obtain ⟨t, there⟩ := row_of_dataset dataset
      refine spares.used k t there (gone emptied dataset) j row ?_
      rw [w.stored_charts, if_neg (fun h => other h.2), found]
  · intro own
    refine ⟨fun k t found foreign => ?_, fun k t x found hx foreign => ?_,
      fun k row found foreign => ?_, fun k t found gone j row charted => ?_⟩
    · rw [w.stored_datasets, if_neg (fun h => foreign (own.dataset h.1 k h.2)), found]
    · refine ⟨t, ?_, hx⟩
      rw [w.stored_datasets, if_neg (fun h => foreign (own.metrics h.1 k t h.2 found x hx)), found]
    · rw [w.stored_charts, if_neg (fun h => foreign (own.chart h.1 k h.2)), found]
    · rw [w.stored_datasets] at gone
      rw [w.stored_charts] at charted
      split_ifs at gone with deleted
      · split_ifs at charted with dropped
        exact own.unused deleted.1 k deleted.2 j row charted
          (fun h => dropped ⟨emptied_uncharted deleted.1, h⟩)
      · rw [found] at gone
        exact absurd gone (by simp)

end Withdrawal
/-! ## Runs -/

namespace Action

/-- A publish or unpublish of the report. -/
def OnReport (reportId : Nat) : Action → Prop
  | .publish _ r _ => r = reportId
  | .unpublish _ r => r = reportId
  | _ => False

/-- A publish or unpublish spares what its report does not own. -/
def Sparing (s : Tracked) : Action → Prop
  | .publish env reportId req =>
    Spares s.owner reportId s.data (s.act (.publish env reportId req)).data
  | .unpublish env reportId => Spares s.owner reportId s.data (s.act (.unpublish env reportId)).data
  | _ => True

/-- A publish or unpublish comes only upon what its report owns. -/
def OnlyOwn (s : Tracked) : Action → Prop
  | .publish env reportId req =>
    ∀ c, requestCourse env reportId req s.data = some c → c.OnlyOwn s.owner
  | .unpublish env reportId =>
    ∀ w, requestWithdrawal env reportId s.data = some w → w.OnlyOwn s.owner
  | _ => True

end Action

theorem sparing_of_onlyOwn (s : Tracked) (a : Action) (h : a.OnlyOwn s) : a.Sparing s := by
  cases a with
  | publish env reportId req =>
    simp only [Action.Sparing, Tracked.act_data, act]
    cases course : requestCourse env reportId req s.data with
    | none =>
      rw [(apiPublish_of_none course).1]
      exact .refl _ _ _
    | some c =>
      obtain ⟨-, -, rfl, -, before⟩ := requestCourse_eq_some course
      rw [(apiPublish_of_course course).1, ← before]
      exact c.spares_of_onlyOwn (h c course)
  | unpublish env reportId =>
    simp only [Action.Sparing, Tracked.act_data, act]
    cases withdrawal : requestWithdrawal env reportId s.data with
    | none =>
      rw [(apiUnpublish_of_none withdrawal).1]
      exact .refl _ _ _
    | some w =>
      obtain ⟨report, -, rfl⟩ := Option.map_eq_some_iff.mp withdrawal
      rw [(apiUnpublish_of_withdrawal withdrawal).1]
      exact (Withdrawal.spares_iff_onlyOwn ⟨env, s.data, reportId, report⟩ s.owner).mpr
        (h _ withdrawal)
  | create _ _ | save _ _ _ | delete _ _ | outside _ => trivial

theorem spares_of_onReport {s : Tracked} {a : Action} {reportId : Nat} (on : a.OnReport reportId)
    (sparing : a.Sparing s) : Spares s.owner reportId s.data (s.act a).data := by
  cases a with
  | publish env r req =>
    obtain rfl : r = reportId := on
    exact sparing
  | unpublish env r =>
    obtain rfl : r = reportId := on
    exact sparing
  | create _ _ | save _ _ _ | delete _ _ | outside _ => exact on.elim

/-- Each publish and unpublish of the run spares what its report does not own, and
a dataset or chart that none of these reports owns stays over the whole run. -/
structure RunSpares (s : Tracked) (run : List Action) : Prop where
  steps : Runs.Each Tracked.act (fun s a => a.Sparing s) s run
  datasets : ∀ k t, s.data.datasets.get k = some t →
    (∀ a ∈ run, ∃ r, a.OnReport r ∧ s.owner.dataset k ≠ some r) →
    (Runs.after Tracked.act s run).data.datasets.get k = some t
  charts : ∀ k row, s.data.charts.get k = some row →
    (∀ a ∈ run, ∃ r, a.OnReport r ∧ s.owner.chart k ≠ some r) →
    (Runs.after Tracked.act s run).data.charts.get k = some row

/-- In a run whose publishes and unpublishes come only upon what their reports own
everything else is spared. -/
theorem runSpares_of_onlyOwn (s : Tracked) (run : List Action)
    (own : Runs.Each Tracked.act (fun s a => a.OnlyOwn s) s run) : RunSpares s run := by
  have sparing : Runs.Each Tracked.act (fun s a => a.Sparing s) s run :=
    own.mono sparing_of_onlyOwn
  refine ⟨sparing, fun k t found foreign => ?_, fun k row found foreign => ?_⟩
  · have steps := sparing.and_forall foreign
    refine (Runs.Each.of_invariant (Q := fun _ _ => True)
      (I := fun u => u.data.datasets.get k = some t ∧ u.owner.dataset k = s.owner.dataset k)
      ?_ ⟨found, rfl⟩ steps).2.1
    rintro u a ⟨now, owner⟩ ⟨spared, r, on, other⟩
    rw [← owner] at other
    refine ⟨trivial, (spares_of_onReport on spared).datasets k t now other, ?_⟩
    simp only [Tracked.act, Ledger.enter, now, reduceCtorEq, false_and, if_false, owner]
  · have steps := sparing.and_forall foreign
    refine (Runs.Each.of_invariant (Q := fun _ _ => True)
      (I := fun u => u.data.charts.get k = some row ∧ u.owner.chart k = s.owner.chart k)
      ?_ ⟨found, rfl⟩ steps).2.1
    rintro u a ⟨now, owner⟩ ⟨spared, r, on, other⟩
    rw [← owner] at other
    refine ⟨trivial, (spares_of_onReport on spared).charts k row now other, ?_⟩
    simp only [Tracked.act, Ledger.enter, now, reduceCtorEq, false_and, if_false, owner]

/-- A first publish with nothing of that name about. -/
theorem firstPublish_spares :
    RunSpares ⟨oneReport, Ledger.blank⟩ [.publish plainEnv 1 (asChart "table")] := by
  refine runSpares_of_onlyOwn ⟨oneReport, Ledger.blank⟩ _ ⟨fun c course => ?_, trivial⟩
  obtain ⟨-, -, -, -, before⟩ := requestCourse_eq_some course
  obtain ⟨c', course', dataset, chart⟩ : ∃ c',
      requestCourse plainEnv 1 (asChart "table") oneReport = some c' ∧ c'.datasetId = 2 ∧
        c'.recorded = none := ⟨_, rfl, rfl, rfl⟩
  obtain rfl : c = c' := Option.some.inj (course.symm.trans course')
  have absent : c.before.datasets.get c.datasetId = none := by
    rw [before, dataset]
    decide
  refine ⟨fun t found => ?_, fun _ _ t found => ?_, fun _ id row recorded => ?_⟩
  · rw [absent] at found
    exact absurd found (by simp)
  · rw [absent] at found
    exact absurd found (by simp)
  · rw [chart] at recorded
    exact absurd recorded (by simp)

/-- A table that somebody registered under the name the designer would generate. -/
def nameTaken : Metadata :=
  { oneReport with datasets := oneReport.datasets.insert { tableA with tableName := "rd_1_sales" } }

/-- The publish turns the physical dataset into a virtual one. -/
theorem nameTaken_not_spared :
    ¬RunSpares ⟨nameTaken, Ledger.blank⟩ [.publish plainEnv 1 (asChart "table")] := by
  intro run
  have spares := run.steps.1
  have same := spares.datasets 2 { tableA with tableName := "rd_1_sales" } (by decide)
    (by simp [Ledger.blank])
  obtain ⟨t, now, sql⟩ : ∃ t, (act nameTaken
      (.publish plainEnv 1 (asChart "table"))).datasets.get 2 = some t ∧ t.isVirtual = true :=
    ⟨_, rfl, by decide⟩
  rw [Tracked.act_data, now] at same
  rw [Option.some.inj same] at sql
  exact absurd sql (by decide)

end XpBuilder.Publish
