import XpBuilder.Publish.MetricMeaning
import XpBuilder.Report.Labels

/-! The names in the parameters of a chart. Those of a grouping, an axis or a metric are
always columns of the virtual dataset or metrics that were registered. A table lists the
written labels of the metrics, so it leaves a metric out that has only its default. -/

namespace XpBuilder

/-- The names that the form data asks the dataset for. -/
def Params.names (params : Params) : List String :=
  params.metric.toList ++ params.metrics.getD [] ++ params.groupby.getD [] ++
    (params.column.getD none).toList ++ (params.x.getD none).toList ++ (params.y.getD none).toList ++
    params.series.toList

namespace Publish
open PythonText (truthy)

/-! ## Names that resolve -/

def columnNames (t : SqlaTable) : List String := t.columns.map TableColumn.columnName

/-- `_ensure_metrics` has registered a metric of the name for the definition. -/
def Registered (d : Definition) (t : SqlaTable) (name : String) : Prop :=
  ∃ expression, (wantedMetrics d).get name = some expression ∧
    publishedExpression d t name = some expression

theorem count_registered (d : Definition) (t : SqlaTable) : Registered d t "count" := by
  have wanted : ∃ expression, (wantedMetrics d).get "count" = some expression := by
    rw [wantedMetrics_eq]
    generalize start : (Dict.empty.set "count" "COUNT(*)" : Dict String String) = first
    have there : ∃ expression, first.get "count" = some expression := by
      rw [← start]
      exact ⟨_, Dict.get_set_self _ _ _⟩
    clear start
    induction d.metrics.filterMap wantedEntry generalizing first with
    | nil => exact there
    | cons e rest ih =>
      apply ih
      by_cases own : "count" = e.1
      · exact ⟨e.2, by rw [own, Dict.get_set_self]⟩
      · rw [Dict.get_set_ne _ _ own]
        exact there
  obtain ⟨expression, wanted⟩ := wanted
  exact ⟨expression, wanted, publishedExpression_of_wanted t wanted⟩

theorem metricLabels_subset {d : Definition} : ∀ name ∈ metricLabels d, name ∈ d.outputLabels := by
  intro name mem
  obtain ⟨m, there, written⟩ := List.mem_filterMap.mp mem
  have label : m.outputLabel = name := by
    rw [MetricEntry.outputLabel, orElse_eq_getD, written, Option.getD_some]
  exact List.mem_append_right _ (label ▸ List.mem_map_of_mem there)

theorem chartGroupby_subset (names : List String) (d : Definition) :
    ∀ name ∈ chartGroupby names d, name ∈ names := by
  intro name mem
  unfold chartGroupby at mem
  simp only at mem
  split at mem
  · exact List.mem_of_mem_filter (List.mem_of_mem_take mem)
  · exact of_decide_eq_true (List.mem_filter.mp mem).2

section Names
variable {d : Definition} {t : SqlaTable}

/-- A chart's metric is a label of the dataset or the count of its rows. -/
theorem metricNames_resolve (same : ∀ name, name ∈ columnNames t ↔ name ∈ d.outputLabels) :
    ∀ name ∈ (if metricLabels d = [] then ["count"] else metricLabels d),
      name ∈ columnNames t ∨ Registered d t name := by
  intro name mem
  split at mem
  · rw [List.mem_singleton] at mem
    exact .inr (mem ▸ count_registered d t)
  · exact .inl ((same name).mpr (metricLabels_subset name mem))

theorem numericNames_subset : ∀ name ∈ (t.columns.filter (fun c => isNumericType c.type)).map
    TableColumn.columnName, name ∈ columnNames t := by
  intro name mem
  exact (List.filter_sublist.map _).subset mem

theorem metricParams_resolve (same : ∀ name, name ∈ columnNames t ↔ name ∈ d.outputLabels)
    (viz datasource : String) (limit : Int) (dttm : Option String) :
    ∀ name ∈ (metricParams (noParams viz datasource limit) dttm d).names,
      name ∈ columnNames t ∨ Registered d t name := by
  intro name mem
  have only : name = (metricLabels d).headD "count" := by
    simpa [metricParams, noParams, Params.names] using mem
  apply metricNames_resolve same
  rw [only]
  cases metricLabels d with
  | nil => exact List.mem_singleton_self _
  | cons first rest => exact List.mem_cons_self

theorem aggregateParams_resolve (same : ∀ name, name ∈ columnNames t ↔ name ∈ d.outputLabels)
    (viz datasource vizKey : String) (limit : Int) (dttm : Option String) :
    ∀ name ∈ (aggregateParams (noParams viz datasource limit) vizKey t dttm d).names,
      name ∈ columnNames t ∨ Registered d t name := by
  have metric := metricNames_resolve same
  have group : ∀ name ∈ chartGroupby (columnNames t) d, name ∈ columnNames t ∨ Registered d t name :=
    fun name mem => .inl (chartGroupby_subset (columnNames t) d name mem)
  have number : ∀ name ∈ (t.columns.filter (fun c => isNumericType c.type)).map TableColumn.columnName,
      name ∈ columnNames t ∨ Registered d t name := fun name mem => .inl (numericNames_subset name mem)
  intro name mem
  simp only [aggregateParams] at mem
  generalize (if metricLabels d = [] then ["count"] else metricLabels d) = metrics at mem metric
  split_ifs at mem <;> simp only [Params.names, noParams, Option.getD_some, Option.getD_none, Option.toList_none,
    List.append_nil, List.nil_append, List.mem_append, Option.mem_toList] at mem
  · -- pie
    cases mem with
    | inl first => exact metric name (List.mem_of_mem_head? first)
    | inr grouped => exact group name grouped
  · -- histogram
    cases mem with
    | inl grouped => exact group name grouped
    | inr column =>
      cases Option.or_eq_some_iff.mp column with
      | inl numeric => exact number name (List.mem_of_mem_head? numeric)
      | inr first => exact .inl (List.mem_of_mem_head? first.2)
  · -- scatter
    cases mem with
    | inl axis =>
      cases axis with
      | inl x => exact number name (List.mem_of_mem_head? x)
      | inr y =>
        cases Option.or_eq_some_iff.mp y with
        | inl second => exact number name (List.mem_of_getElem? second)
        | inr first => exact number name (List.mem_of_mem_head? first.2)
    | inr series => exact group name (List.mem_of_mem_head? series)
  · exact mem.elim (metric name) (group name)
  · exact mem.elim (metric name) (group name)

end Names

/-! ## What a table lists -/

/-- The table lists every column of the result once, and every name resolves. -/
structure Complete (entry : VizEntry) (d : Definition) (t : SqlaTable) (params : Params) : Prop where
  listed : entry.kind = .columns → d.outputLabels.Nodup ∧ params.allColumns = some d.outputLabels
  resolves : ∀ name ∈ params.names, name ∈ columnNames t ∨ Registered d t name

/-- Every metric has a written label; or there are only metrics and none has one, and the
dataset's columns stand in their order. -/
def MetricsListed (d : Definition) (t : SqlaTable) : Prop :=
  (∀ m ∈ d.metrics, truthy m.label ≠ none) ∨
    (d.columns = [] ∧ (∀ m ∈ d.metrics, truthy m.label = none) ∧ columnNames t = d.outputLabels)

theorem metricLabels_eq_iff (d : Definition) : metricLabels d = d.metrics.map MetricEntry.outputLabel ↔
    ∀ m ∈ d.metrics, truthy m.label ≠ none := by
  constructor
  · intro same
    have lengths := congrArg List.length same
    rw [List.length_map] at lengths
    intro m mem
    have found := Lists.isSome_of_length_filterMap lengths m mem
    exact Option.isSome_iff_ne_none.mp found
  · intro written
    have each : ∀ m ∈ d.metrics, truthy m.label = some m.outputLabel := by
      intro m mem
      obtain ⟨label, there⟩ := Option.ne_none_iff_exists'.mp (written m mem)
      rw [MetricEntry.outputLabel, orElse_eq_getD, there, Option.getD_some]
    rw [metricLabels, List.filterMap_congr each, List.filterMap_eq_map']

theorem allColumns_iff {d : Definition} {t : SqlaTable}
    (same : ∀ name, name ∈ columnNames t ↔ name ∈ d.outputLabels) (base : Params) :
    (columnsParams base (columnNames t) d).allColumns = some d.outputLabels ↔ MetricsListed d t := by
  have fields : (d.columns.map ColumnEntry.outputLabel).filter (· ∈ columnNames t) =
      d.columns.map ColumnEntry.outputLabel := by
    rw [List.filter_eq_self]
    intro name mem
    exact decide_eq_true ((same name).mpr (List.mem_append_left _ mem))
  have metrics : (metricLabels d).filter (· ∈ columnNames t) = metricLabels d := by
    rw [List.filter_eq_self]
    intro name mem
    exact decide_eq_true ((same name).mpr (metricLabels_subset name mem))
  simp only [columnsParams, fields, metrics, Option.some.injEq]
  split
  · rename_i nothing
    obtain ⟨no_fields, no_labels⟩ := List.append_eq_nil_iff.mp nothing
    have fieldless : d.columns = [] := List.map_eq_nil_iff.mp no_fields
    have unlabelled : ∀ m ∈ d.metrics, truthy m.label = none := List.filterMap_eq_nil_iff.mp no_labels
    constructor
    · exact fun order => .inr ⟨fieldless, unlabelled, order⟩
    · intro listed
      cases listed with
      | inl written =>
        have none_left : d.metrics = [] := by
          rw [List.eq_nil_iff_forall_not_mem]
          exact fun m mem => written m mem (unlabelled m mem)
        have no_outputs : d.outputLabels = [] := by rw [Definition.outputLabels, fieldless, none_left]; rfl
        rw [no_outputs, List.eq_nil_iff_forall_not_mem]
        intro name mem
        have listed := (same name).mp mem
        rw [no_outputs] at listed
        cases listed
      | inr order => exact order.2.2
  · rename_i something
    rw [Definition.outputLabels, List.append_cancel_left_eq, metricLabels_eq_iff]
    constructor
    · exact fun written => .inl written
    · intro listed
      cases listed with
      | inl written => exact written
      | inr bare =>
        have nothing : metricLabels d = [] := List.filterMap_eq_nil_iff.mpr bare.2.1
        exact absurd (by rw [bare.1, nothing]; rfl) something

/-- The parameters of a chart are complete exactly where it is no table, or the labels of the
report are apart and each metric is listed. -/
theorem complete_iff {env : BuildEnv} {raw : RawDefinition} {s : Sql.Select} {p : SqlaTable}
    (accepted : SqlBuilder.buildSelect env raw = .ok (s, p)) {vizKey : String} {entry : VizEntry}
    {datasetId : Nat} {t : SqlaTable} {params : Params}
    (same : ∀ name, name ∈ columnNames t ↔ name ∈ (normalizeDefinition raw).outputLabels)
    (built : buildParams vizKey entry datasetId
      { t with metrics := registerMetrics (normalizeDefinition raw) t.metrics } (normalizeDefinition raw) =
        .ok params) :
    Complete entry (normalizeDefinition raw) t params ↔ (entry.kind = .columns →
      (normalizeDefinition raw).LabelsApart ∧ MetricsListed (normalizeDefinition raw) t) := by
  obtain ⟨tables, first, a⟩ := SqlBuilder.buildSelect_ok.mp accepted
  have apart : (normalizeDefinition raw).outputLabels.Nodup ↔ (normalizeDefinition raw).LabelsApart := by
    rw [← a.labels]
    exact a.labels_nodup_iff
  simp only [buildParams] at built
  rw [Fallible.ite_throw_eq_ok, Fallible.pure_eq_ok] at built
  obtain ⟨-, rfl⟩ := built
  cases kind : entry.kind with
  | columns =>
    have lists := allColumns_iff same (noParams entry.viz s!"{datasetId}__table" (normalizeDefinition raw).limit)
    constructor
    · intro complete _
      have listed := complete.listed kind
      exact ⟨apart.mp listed.1, lists.mp listed.2⟩
    · intro fine
      have both := fine rfl
      exact ⟨fun _ => ⟨apart.mpr both.1, lists.mpr both.2⟩, fun name mem => nomatch mem⟩
  | metric =>
    have resolves := metricParams_resolve same entry.viz s!"{datasetId}__table"
      (normalizeDefinition raw).limit (truthy (dttmColumn t))
    exact iff_of_true ⟨fun other => absurd (kind.symm.trans other) (by decide), resolves⟩ (fun other => nomatch other)
  | aggregate =>
    have resolves := aggregateParams_resolve same entry.viz s!"{datasetId}__table" vizKey
      (normalizeDefinition raw).limit (truthy (dttmColumn t))
    exact iff_of_true ⟨fun other => absurd (kind.symm.trans other) (by decide), resolves⟩ (fun other => nomatch other)

/-! ## A metric without a label -/

/-- The columns of a result with a field `k` and the sum of `v`. -/
def sumDataset : SqlaTable :=
  ⟨1, none, none, "rd_1_sums", some "SELECT ...", [⟨"k", some "INT", none, false⟩,
    ⟨"SUM(v)", some "INT", none, false⟩], [], none⟩

/-- The field `k` of dataset 1 and the sum of its column `v`. -/
def sums (label : Option String) : RawDefinition :=
  ⟨none, some [⟨1, none⟩], none, some [⟨1, "k", none⟩], some [⟨1, "v", some "SUM", label⟩], none, none,
    none, none⟩

theorem labelledSum_complete : ∃ s p params,
    SqlBuilder.buildSelect SqlBuilder.twoDatabases (sums (some "SUM(v)")) = .ok (s, p) ∧
    buildParams "table" ⟨"Table", .columns, "table", false⟩ 5
      { sumDataset with
        metrics := registerMetrics (normalizeDefinition (sums (some "SUM(v)"))) sumDataset.metrics }
      (normalizeDefinition (sums (some "SUM(v)"))) = .ok params ∧
    Complete ⟨"Table", .columns, "table", false⟩ (normalizeDefinition (sums (some "SUM(v)"))) sumDataset
      params := by
  obtain ⟨s, p, params, accepted, built⟩ : ∃ s p params,
      SqlBuilder.buildSelect SqlBuilder.twoDatabases (sums (some "SUM(v)")) = .ok (s, p) ∧
      buildParams "table" ⟨"Table", .columns, "table", false⟩ 5
        { sumDataset with
          metrics := registerMetrics (normalizeDefinition (sums (some "SUM(v)"))) sumDataset.metrics }
        (normalizeDefinition (sums (some "SUM(v)"))) = .ok params := ⟨_, _, _, rfl, rfl⟩
  have labels : (normalizeDefinition (sums (some "SUM(v)"))).outputLabels = ["k", "SUM(v)"] := by decide
  have same : ∀ name, name ∈ columnNames sumDataset ↔
      name ∈ (normalizeDefinition (sums (some "SUM(v)"))).outputLabels := by
    rw [labels]
    exact fun name => Iff.rfl
  obtain ⟨tables, first, a⟩ := SqlBuilder.buildSelect_ok.mp accepted
  have apart : (normalizeDefinition (sums (some "SUM(v)"))).LabelsApart := by
    rw [← a.labels_nodup_iff, a.labels, labels]
    decide
  have written : ∀ m ∈ (normalizeDefinition (sums (some "SUM(v)"))).metrics, truthy m.label ≠ none := by
    decide
  exact ⟨s, p, params, accepted, built, (complete_iff accepted same built).mpr (fun _ => ⟨apart, .inl written⟩)⟩

/-- The table lists the field only. -/
theorem unlabelledSum_not_complete : ∃ s p params,
    SqlBuilder.buildSelect SqlBuilder.twoDatabases (sums none) = .ok (s, p) ∧
    (normalizeDefinition (sums none)).outputLabels = columnNames sumDataset ∧
    buildParams "table" ⟨"Table", .columns, "table", false⟩ 5
      { sumDataset with metrics := registerMetrics (normalizeDefinition (sums none)) sumDataset.metrics }
      (normalizeDefinition (sums none)) = .ok params ∧ params.allColumns = some ["k"] ∧
    ¬Complete ⟨"Table", .columns, "table", false⟩ (normalizeDefinition (sums none)) sumDataset params := by
  refine ⟨_, _, _, rfl, by decide, rfl, by decide, fun complete => ?_⟩
  have listed := (complete.listed rfl).2
  exact absurd listed (by decide)

end Publish
end XpBuilder
