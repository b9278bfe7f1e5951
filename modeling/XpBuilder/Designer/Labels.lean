import XpBuilder.Library.Runs
import XpBuilder.Report.Labels
import XpBuilder.Report.RowSecurity
import XpBuilder.Designer.Aliases

/-! The labels that the page gives to fields and metrics. A field is labelled by its column
whatever its dataset, a metric by its aggregate and column, and both can be written anew,
so an edit keeps the labels apart only where its own label is not taken. -/

namespace XpBuilder.Designer

/-! ## What an edit needs -/

def fieldLabels (d : Definition) : List String := d.columns.map ColumnEntry.outputLabel

def metricOutputs (d : Definition) : List String := d.metrics.map MetricEntry.outputLabel

/-- The labels besides that of the field at an index. -/
def besideField (index : Nat) (d : Definition) : List String :=
  (d.columns.eraseIdx index).map ColumnEntry.outputLabel ++ metricOutputs d

/-- The labels besides that of the metric at an index. -/
def besideMetric (index : Nat) (d : Definition) : List String :=
  (d.metrics.eraseIdx index).map MetricEntry.outputLabel ++ fieldLabels d

def relabelled (label : String) (field : ColumnEntry) : ColumnEntry := { field with label := some label }

/-- What an edit needs of the page to keep the labels apart. -/
def KeepsLabels (p : Page) : Edit → Prop
  | .load raw => (opened raw).outputLabels.Nodup
  | .dropColumn payload =>
    (∃ item ∈ p.definition.columns, item.dataset = payload.dataset ∧ item.column = payload.column) ∨
      (⟨payload.dataset, payload.column, some payload.label⟩ : ColumnEntry).outputLabel ∉
        p.definition.outputLabels
  | .updateColumnLabel index label => ∀ field, p.definition.columns[index]? = some field →
      (relabelled label field).outputLabel ∉ besideField index p.definition
  | .dropMetric payload =>
    (∃ item ∈ p.definition.metrics, item.dataset = payload.dataset ∧ item.column = payload.column ∧
        item.aggregate = some "SUM") ∨
      (droppedMetric payload).outputLabel ∉ p.definition.outputLabels
  | .updateAggregate index a => ∀ metric, p.definition.metrics[index]? = some metric →
      (withAggregate a metric).outputLabel ∉ besideMetric index p.definition
  | .updateMetricLabel index label => ∀ metric, p.definition.metrics[index]? = some metric →
      (withLabel label metric).outputLabel ∉ besideMetric index p.definition
  | _ => True

section Edits
variable {d : Definition} (distinct : d.outputLabels.Nodup)
include distinct

theorem nodup_handleAddColumn_iff (field : ColumnEntry) : (handleAddColumn field d).outputLabels.Nodup ↔
    (∃ item ∈ d.columns, item.dataset = field.dataset ∧ item.column = field.column) ∨
      field.outputLabel ∉ d.outputLabels := by
  have listed : d.columns.any (fun item => item.dataset = field.dataset && item.column = field.column) ↔
      ∃ item ∈ d.columns, item.dataset = field.dataset ∧ item.column = field.column := by simp
  unfold handleAddColumn
  by_cases there : ∃ item ∈ d.columns, item.dataset = field.dataset ∧ item.column = field.column
  · rw [if_pos (listed.mpr there)]
    exact iff_of_true distinct (.inl there)
  · rw [if_neg (fun h => there (listed.mp h))]
    have moved : ({ d with columns := d.columns ++ [field] } : Definition).outputLabels.Perm
        (field.outputLabel :: d.outputLabels) := by
      simp only [Definition.outputLabels, List.map_append, List.map_singleton, List.append_assoc,
        List.singleton_append]
      exact List.perm_middle
    rw [moved.nodup_iff, List.nodup_cons]
    simp only [there, false_or]
    exact and_iff_left distinct

theorem nodup_handleAddMetric_iff (metric : MetricEntry) : (handleAddMetric metric d).outputLabels.Nodup ↔
    (∃ item ∈ d.metrics, item.dataset = metric.dataset ∧ item.column = metric.column ∧
        item.aggregate = metric.aggregate) ∨ metric.outputLabel ∉ d.outputLabels := by
  have listed : d.metrics.any (fun item => item.dataset = metric.dataset && item.column = metric.column &&
      item.aggregate = metric.aggregate) ↔ ∃ item ∈ d.metrics, item.dataset = metric.dataset ∧
        item.column = metric.column ∧ item.aggregate = metric.aggregate := by simp [and_assoc]
  unfold handleAddMetric
  by_cases there : ∃ item ∈ d.metrics, item.dataset = metric.dataset ∧ item.column = metric.column ∧
      item.aggregate = metric.aggregate
  · rw [if_pos (listed.mpr there)]
    exact iff_of_true distinct (.inl there)
  · rw [if_neg (fun h => there (listed.mp h))]
    have moved : ({ d with metrics := d.metrics ++ [metric] } : Definition).outputLabels.Perm
        (metric.outputLabel :: d.outputLabels) := by
      simp only [Definition.outputLabels, List.map_append, List.map_singleton, ← List.append_assoc]
      exact List.perm_append_singleton _ _
    rw [moved.nodup_iff, List.nodup_cons]
    simp only [there, false_or]
    exact and_iff_left distinct

theorem nodup_onUpdateColumnLabel_iff (index : Nat) (label : String) :
    (onUpdateColumnLabel index label d).outputLabels.Nodup ↔ ∀ field, d.columns[index]? = some field →
      (relabelled label field).outputLabel ∉ besideField index d := by
  cases found : d.columns[index]? with
  | none =>
    have same : onUpdateColumnLabel index label d = d := by
      rw [onUpdateColumnLabel, List.modify_eq_self (List.getElem?_eq_none_iff.mp found)]
    rw [same]
    exact iff_of_true distinct (fun _ none => nomatch none)
  | some field =>
    simp only [Option.some.injEq, forall_eq']
    exact Lists.nodup_modify_iff distinct found

theorem nodup_onUpdateMetric_iff (index : Nat) (update : MetricEntry → MetricEntry) :
    (onUpdateMetric index update d).outputLabels.Nodup ↔ ∀ metric, d.metrics[index]? = some metric →
      (update metric).outputLabel ∉ besideMetric index d := by
  cases found : d.metrics[index]? with
  | none =>
    have same : onUpdateMetric index update d = d := by
      rw [onUpdateMetric, List.modify_eq_self (List.getElem?_eq_none_iff.mp found)]
    rw [same]
    exact iff_of_true distinct (fun _ none => nomatch none)
  | some metric =>
    simp only [Option.some.injEq, forall_eq']
    have turned := List.nodup_append_comm.mp distinct
    exact List.nodup_append_comm.trans (Lists.nodup_modify_iff turned found)

theorem nodup_onRemoveColumn (index : Nat) : (onRemoveColumn index d).outputLabels.Nodup := by
  have fewer : (onRemoveColumn index d).outputLabels.Sublist d.outputLabels :=
    ((List.eraseIdx_sublist d.columns index).map _).append_right _
  exact fewer.nodup distinct

theorem nodup_onRemoveMetric (index : Nat) : (onRemoveMetric index d).outputLabels.Nodup := by
  have fewer : (onRemoveMetric index d).outputLabels.Sublist d.outputLabels :=
    ((List.eraseIdx_sublist d.metrics index).map _).append_left _
  exact fewer.nodup distinct

end Edits

theorem outputLabels_step (repr : String → String) (p : Page) {e : Edit} (other : e.ofOutputs = false) :
    (step repr p e).definition.outputLabels = p.definition.outputLabels := by
  obtain ⟨columns, metrics⟩ := step_outputs repr p other
  rw [Definition.outputLabels, columns, metrics]
  rfl

/-- On a page with distinct labels an edit keeps them so exactly under its condition. -/
theorem nodup_step_iff (repr : String → String) (p : Page) (e : Edit)
    (distinct : p.definition.outputLabels.Nodup) :
    (step repr p e).definition.outputLabels.Nodup ↔ KeepsLabels p e := by
  cases e with
  | load raw => rfl
  | dropColumn payload => exact nodup_handleAddColumn_iff distinct _
  | removeColumn index => exact iff_of_true (nodup_onRemoveColumn distinct index) trivial
  | updateColumnLabel index label => exact nodup_onUpdateColumnLabel_iff distinct index label
  | dropMetric payload => exact nodup_handleAddMetric_iff distinct _
  | removeMetric index => exact iff_of_true (nodup_onRemoveMetric distinct index) trivial
  | updateAggregate index a => exact nodup_onUpdateMetric_iff distinct index _
  | updateMetricLabel index label => exact nodup_onUpdateMetric_iff distinct index _
  | _ =>
    -- the other edits leave the outputs alone
    refine iff_of_true ?_ trivial
    rw [outputLabels_step repr p (by rfl)]
    exact distinct

/-! ## Every state that is reached -/

theorem outputLabels_toRaw (d : Definition) : (normalizeDefinition d.toRaw).outputLabels = d.outputLabels :=
  rfl

/-- The labels of a statement identify its outputs exactly where those of the definition
are apart. In a run whose edits meet their conditions they do for every state reached. -/
theorem labels_identify (env : BuildEnv) (Q : QueryEnv) (databaseId : Nat) :
    (∀ raw s p, SqlBuilder.buildSelect env raw = .ok (s, p) →
      (SqlBuilder.Identify Q databaseId (normalizeDefinition raw) s ↔ (normalizeDefinition raw).LabelsApart)) ∧
    ∀ repr (page : Page) run, page.definition.outputLabels.Nodup →
      Runs.Each (step repr) KeepsLabels page run → ∀ before, before <+: run → ∀ s p,
        SqlBuilder.buildSelect env (Runs.after (step repr) page before).definition.toRaw = .ok (s, p) →
        SqlBuilder.Identify Q databaseId
          (normalizeDefinition (Runs.after (step repr) page before).definition.toRaw) s := by
  refine ⟨fun raw s p accepted => SqlBuilder.identify_iff_labelsApart Q databaseId accepted, ?_⟩
  intro repr page run start keeps before reached s p accepted
  obtain ⟨rest, rfl⟩ := reached
  have kept := (keeps.of_append.of_invariant (I := fun p => p.definition.outputLabels.Nodup)
    (Q := KeepsLabels) (fun p e distinct keeps =>
      ⟨keeps, (nodup_step_iff repr p e distinct).mpr keeps⟩) start).2
  rw [SqlBuilder.identify_iff_labelsApart Q databaseId accepted]
  obtain ⟨tables, first, a⟩ := SqlBuilder.buildSelect_ok.mp accepted
  apply a.labels_nodup_iff.mp
  rw [a.labels, outputLabels_toRaw]
  exact kept

/-! ## Two columns of one name -/

/-- The column `id` of one dataset is labelled anew before that of the other is dropped. -/
def relabelledFirst : List Edit :=
  [.selectDataset 1, .selectDataset 2, .dropColumn ⟨1, "id", "id"⟩, .updateColumnLabel 0 "first",
    .dropColumn ⟨2, "id", "id"⟩, .dropMetric ⟨1, "id", "id"⟩]

theorem relabelledFirst_identify : ∃ s p,
    SqlBuilder.buildSelect plainTables
      (Runs.after (step id) Page.start relabelledFirst).definition.toRaw = .ok (s, p) ∧
    SqlBuilder.Identify SqlBuilder.plainQuery 1
      (normalizeDefinition (Runs.after (step id) Page.start relabelledFirst).definition.toRaw) s ∧
    (normalizeDefinition (Runs.after (step id) Page.start relabelledFirst).definition.toRaw).LabelsApart := by
  have all := labels_identify plainTables SqlBuilder.plainQuery 1
  obtain ⟨s, p, accepted⟩ : ∃ s p, SqlBuilder.buildSelect plainTables
      (Runs.after (step id) Page.start relabelledFirst).definition.toRaw = .ok (s, p) := ⟨_, _, rfl⟩
  have keeps : Runs.Each (step id) KeepsLabels Page.start relabelledFirst := by
    refine ⟨trivial, trivial, .inr (by decide), ?_, .inr (by decide), .inr (by decide), trivial⟩
    intro field found
    cases found
    decide
  have identify := all.2 id Page.start relabelledFirst (by decide) keeps relabelledFirst List.prefix_rfl s p
    accepted
  exact ⟨s, p, accepted, identify, (all.1 _ s p accepted).mp identify⟩

/-- The column `id` of two datasets. -/
def sameColumn : List Edit :=
  [.selectDataset 1, .selectDataset 2, .dropColumn ⟨1, "id", "id"⟩, .dropColumn ⟨2, "id", "id"⟩]

theorem sameColumn_not_identify : ∃ s p,
    SqlBuilder.buildSelect plainTables (Runs.after (step id) Page.start sameColumn).definition.toRaw =
      .ok (s, p) ∧ s.columns.map Sql.SelectColumn.label = ["id", "id"] ∧
    ¬SqlBuilder.Identify SqlBuilder.plainQuery 1
      (normalizeDefinition (Runs.after (step id) Page.start sameColumn).definition.toRaw) s := by
  refine ⟨_, _, rfl, by decide, fun identify => ?_⟩
  exact absurd identify.labels (by decide)

end XpBuilder.Designer
