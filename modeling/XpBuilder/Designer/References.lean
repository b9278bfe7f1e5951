import Mathlib.Data.List.Induction
import XpBuilder.Library.Lists
import XpBuilder.Library.Runs
import XpBuilder.Report.Labels
import XpBuilder.Designer.Page

/-! What the parts of a definition refer to. Every edit that only adds to what can be
referred to, or takes references away, keeps them closed; the others do so under a
condition on the page that they are made on. -/

namespace XpBuilder.Designer
open PythonText (truthy orElse)

/-! ## References -/

def datasetIds (d : Definition) : List Nat := d.datasets.map DatasetEntry.id

/-- The dataset ids that each part of a definition uses. -/
def parts (d : Definition) : List (List Nat) :=
  [d.columns.map ColumnEntry.dataset, d.groupBy.map GroupEntry.dataset,
    d.metrics.map MetricEntry.dataset, d.filters.map FilterEntry.dataset,
    d.relationships.flatMap (fun r => [r.leftDataset, r.rightDataset]),
    d.orderBy.map OrderEntry.dataset]

def datasetRefs (d : Definition) : List Nat := (parts d).flatten

def metricLabels (d : Definition) : List String := d.metrics.map MetricEntry.outputLabel

def orderLabels (d : Definition) : List String := d.orderBy.filterMap (fun o => truthy o.label)

/-- Every dataset id that is used is one of the selected datasets, and every ordering
with a label names a metric. -/
structure Closed (d : Definition) : Prop where
  selected : datasetRefs d ⊆ datasetIds d
  named : orderLabels d ⊆ metricLabels d

theorem closed_empty : Closed emptyDefinition := by
  constructor
  · intro id mem
    simp [datasetRefs, parts, emptyDefinition] at mem
  · intro label mem
    simp [orderLabels, emptyDefinition] at mem

theorem mem_datasetRefs_of_part {d : Definition} {i id : Nat} (mem : id ∈ (parts d).getD i []) :
    id ∈ datasetRefs d := by
  rw [List.getD_eq_getElem?_getD] at mem
  cases found : (parts d)[i]? with
  | none => simp [found] at mem
  | some part =>
    rw [found] at mem
    exact List.mem_flatten.mpr ⟨part, List.mem_of_getElem? found, mem⟩

/-- An edit of one part, whose datasets were used in this part before or are selected. -/
theorem Closed.of_part {d e : Definition} (closed : Closed d) (i : Nat) {part : List Nat}
    (changed : parts e = (parts d).set i part)
    (selected : ∀ id ∈ part, id ∈ (parts d).getD i [] ∨ id ∈ datasetIds d)
    (ids : datasetIds e = datasetIds d) (named : orderLabels e ⊆ metricLabels e) : Closed e where
  selected := by
    intro id mem
    rw [datasetRefs, changed] at mem
    obtain ⟨list, there, inside⟩ := List.mem_flatten.mp mem
    rw [ids]
    cases List.mem_or_eq_of_mem_set there with
    | inl old => exact closed.selected (List.mem_flatten.mpr ⟨list, old, inside⟩)
    | inr new =>
      cases selected id (new ▸ inside) with
      | inl before => exact closed.selected (mem_datasetRefs_of_part before)
      | inr chosen => exact chosen
  named := named

/-! ## What `build_select` finds -/

/-- What becomes of the references of a definition: each dataset that is asked for has its
table, and an ordering with a label is by the expression of a metric of that label. -/
structure Answered (d : Definition) (tables : SqlBuilder.Tables) : Prop where
  lookups : ∀ id ∈ datasetRefs d, ∃ b, SqlBuilder.lookup tables id = .ok b
  orders : ∀ columns metrics, d.columns.mapM (SqlBuilder.dimension tables) = .ok columns →
    d.metrics.mapM (SqlBuilder.metric tables) = .ok metrics →
    ∀ o ∈ d.orderBy, ∀ label, truthy o.label = some label →
      ∃ m ∈ d.metrics, ∃ c, m.outputLabel = label ∧ SqlBuilder.metric tables m = .ok c ∧
        SqlBuilder.orderExpr tables (SqlBuilder.labelMap (columns ++ metrics)) o = .ok (c.body, o.desc)

theorem answered_of_closed {env : BuildEnv} {d : Definition} (closed : Closed d)
    {tables : SqlBuilder.Tables}
    (loads : SqlBuilder.loadTables env (normalizeDefinition d.toRaw) = .ok tables) :
    Answered d tables where
  lookups := by
    intro id ref
    have listed : id ∈ d.datasets.map DatasetEntry.id := closed.selected ref
    obtain ⟨b, found⟩ := (SqlBuilder.loadTables_get loads id).2 listed
    exact ⟨b, SqlBuilder.lookup_ok.mpr found⟩
  orders := by
    intro columns metrics _ built o mem label labelled
    have named : label ∈ metricLabels d :=
      closed.named (List.mem_filterMap.mpr ⟨o, mem, labelled⟩)
    obtain ⟨m, there, rfl⟩ := List.mem_map.mp named
    have shown : m.outputLabel ∈ metrics.map Sql.SelectColumn.label := by
      obtain ⟨c, inside, made⟩ := Fallible.ok_of_mapM built there
      obtain ⟨a, e, -, -, rfl⟩ := SqlBuilder.metric_ok.mp made
      exact List.mem_map.mpr ⟨_, inside, rfl⟩
    obtain ⟨c, inside, same, found⟩ :=
      SqlBuilder.get_labels (columns.foldl (fun acc c => acc.set c.label c.body) Dict.empty) shown
    have whole : (SqlBuilder.labelMap (columns ++ metrics)).get m.outputLabel = some c.body := by
      rw [SqlBuilder.labelMap, List.foldl_append]
      exact found
    obtain ⟨n, source, made⟩ := Fallible.mem_of_mapM built inside
    have label : n.outputLabel = m.outputLabel := by
      obtain ⟨a, e, -, -, rfl⟩ := SqlBuilder.metric_ok.mp made
      exact same
    refine ⟨n, source, c, label, made, ?_⟩
    unfold SqlBuilder.orderExpr
    rw [labelled, Option.bind_some, whole]
    rfl

/-! ## Edits that ask for nothing -/

section Edits
variable {d : Definition} (closed : Closed d)
include closed

theorem closed_handleSelectDataset (id : Nat) : Closed (handleSelectDataset d.datasets id d) := by
  unfold handleSelectDataset
  split
  · exact closed
  · constructor
    · intro ref mem
      have before : ref ∈ datasetIds d := closed.selected mem
      exact List.map_subset _ (List.subset_append_left _ _) before
    · exact closed.named

theorem closed_onRemoveColumn (index : Nat) : Closed (onRemoveColumn index d) :=
  closed.of_part 0 rfl (fun _ mem => .inl (List.map_subset _ List.eraseIdx_subset mem)) rfl closed.named

theorem closed_onUpdateColumnLabel (index : Nat) (label : String) :
    Closed (onUpdateColumnLabel index label d) := by
  have same : (onUpdateColumnLabel index label d).columns.map ColumnEntry.dataset =
      d.columns.map ColumnEntry.dataset :=
    Lists.map_modify (f := fun field : ColumnEntry => { field with label := some label }) (fun _ => rfl) _ _
  refine closed.of_part 0 rfl ?_ rfl closed.named
  intro id mem
  rw [same] at mem
  exact .inl mem

theorem closed_onRemoveGroup (index : Nat) : Closed (onRemoveGroup index d) :=
  closed.of_part 1 rfl (fun _ mem => .inl (List.map_subset _ List.eraseIdx_subset mem)) rfl closed.named

theorem closed_removeFilter (index : Nat) :
    Closed { d with filters := d.filters.eraseIdx index } :=
  closed.of_part 3 rfl (fun _ mem => .inl (List.map_subset _ List.eraseIdx_subset mem)) rfl closed.named

theorem closed_removeRelationship (index : Nat) :
    Closed { d with relationships := d.relationships.eraseIdx index } := by
  refine closed.of_part 4 rfl ?_ rfl closed.named
  intro id mem
  obtain ⟨r, there, used⟩ := List.mem_flatMap.mp mem
  exact .inl (List.mem_flatMap.mpr ⟨r, List.mem_of_mem_eraseIdx there, used⟩)

theorem closed_closeOrder (index : Nat) : Closed (closeOrder index d) := by
  have fewer : orderLabels (closeOrder index d) ⊆ orderLabels d := by
    intro label mem
    obtain ⟨o, there, labelled⟩ := List.mem_filterMap.mp mem
    exact List.mem_filterMap.mpr ⟨o, List.mem_of_mem_eraseIdx there, labelled⟩
  refine closed.of_part 5 rfl ?_ rfl (List.Subset.trans fewer closed.named)
  intro id mem
  exact .inl (List.map_subset _ List.eraseIdx_subset mem)

/-! ## Edits that ask for a dataset -/

omit closed in
theorem used_before_or_selected {α : Type} {key : α → Nat} {l : List α} {a : α}
    (selected : key a ∈ datasetIds d) {id : Nat} (mem : id ∈ (l ++ [a]).map key) :
    id ∈ l.map key ∨ id ∈ datasetIds d := by
  rw [List.map_append, List.mem_append, List.map_singleton, List.mem_singleton] at mem
  cases mem with
  | inl before => exact .inl before
  | inr new => exact .inr (new ▸ selected)

theorem closed_handleAddColumn {field : ColumnEntry} (selected : field.dataset ∈ datasetIds d) :
    Closed (handleAddColumn field d) := by
  unfold handleAddColumn
  split
  · exact closed
  · exact closed.of_part 0 rfl (fun _ mem => used_before_or_selected selected mem) rfl closed.named

theorem closed_handleAddGroup {field : GroupEntry} (selected : field.dataset ∈ datasetIds d) :
    Closed (handleAddGroup field d) := by
  unfold handleAddGroup
  split
  · exact closed
  · exact closed.of_part 1 rfl (fun _ mem => used_before_or_selected selected mem) rfl closed.named

theorem closed_handleAddMetric {metric : MetricEntry} (selected : metric.dataset ∈ datasetIds d) :
    Closed (handleAddMetric metric d) := by
  unfold handleAddMetric
  split
  · exact closed
  · have more : metricLabels d ⊆ metricLabels { d with metrics := d.metrics ++ [metric] } :=
      List.map_subset _ (List.subset_append_left _ _)
    have named := List.Subset.trans closed.named more
    exact closed.of_part 2 rfl (fun _ mem => used_before_or_selected selected mem) rfl named

theorem closed_addFilter {filter : FilterEntry} (selected : filter.dataset ∈ datasetIds d) :
    Closed { d with filters := d.filters ++ [filter] } :=
  closed.of_part 3 rfl (fun _ mem => used_before_or_selected selected mem) rfl closed.named

theorem closed_addRelationship {rel : Relationship} (left : rel.leftDataset ∈ datasetIds d)
    (right : rel.rightDataset ∈ datasetIds d) :
    Closed { d with relationships := d.relationships ++ [rel] } := by
  refine closed.of_part 4 rfl ?_ rfl closed.named
  intro id mem
  rw [List.flatMap_append, List.mem_append, List.flatMap_singleton] at mem
  apply mem.imp_right
  intro new
  obtain rfl | rfl : id = rel.leftDataset ∨ id = rel.rightDataset := by simpa using new
  · exact left
  · exact right

/-! ## Edits that take something away -/

/-- The dataset that is closed must not be used. -/
theorem closed_closeDataset {id : Nat} (unused : id ∉ datasetRefs d) : Closed (closeDataset id d) where
  selected := by
    intro ref mem
    have before : ref ∈ datasetIds d := closed.selected mem
    obtain ⟨entry, there, rfl⟩ := List.mem_map.mp before
    have other : entry.id ≠ id := by
      intro same
      exact unused (same ▸ mem)
    exact List.mem_map.mpr ⟨entry, List.mem_filter.mpr ⟨there, by simpa using other⟩, rfl⟩
  named := closed.named

/-- The datasets of the render in which an upload was started are back, and its own. -/
theorem closed_finishUpload {seen : List DatasetEntry} {id : Nat}
    (covers : id ∈ seen.map DatasetEntry.id ∨
      ∀ ref ∈ datasetRefs d, ref = id ∨ ref ∈ seen.map DatasetEntry.id) :
    Closed (handleSelectDataset seen id d) := by
  unfold handleSelectDataset
  have present : seen.any (fun ds => ds.id = id) ↔ id ∈ seen.map DatasetEntry.id := by simp
  by_cases known : id ∈ seen.map DatasetEntry.id
  · rw [if_pos (present.mpr known)]
    exact closed
  · rw [if_neg (fun there => known (present.mp there))]
    have all := covers.resolve_left known
    constructor
    · intro ref mem
      have chosen := all ref mem
      simpa [datasetIds, or_comm, eq_comm] using chosen
    · exact closed.named

/-- A label that an ordering uses is borne by another metric, or by this one still. -/
def LabelKept (d : Definition) (index : Nat) (after : MetricEntry → Option String) : Prop :=
  ∀ m, d.metrics[index]? = some m → m.outputLabel ∈ orderLabels d →
    after m = some m.outputLabel ∨
      m.outputLabel ∈ (d.metrics.eraseIdx index).map MetricEntry.outputLabel

omit closed in
/-- Where a label is after the metric at the index is gone or changed. -/
theorem label_of_kept {index : Nat} {after : MetricEntry → Option String}
    (kept : LabelKept d index after) {label : String} (used : label ∈ orderLabels d)
    (named : label ∈ metricLabels d) :
    (∃ m, d.metrics[index]? = some m ∧ after m = some label) ∨
      label ∈ (d.metrics.eraseIdx index).map MetricEntry.outputLabel := by
  obtain ⟨m, there, rfl⟩ := List.mem_map.mp named
  cases Lists.getElem?_or_mem_eraseIdx there index with
  | inl here => exact (kept m here used).imp_left (fun same => ⟨m, here, same⟩)
  | inr elsewhere => exact .inr (List.mem_map_of_mem elsewhere)

theorem closed_onRemoveMetric {index : Nat} (kept : LabelKept d index (fun _ => none)) :
    Closed (onRemoveMetric index d) := by
  have named : orderLabels (onRemoveMetric index d) ⊆ metricLabels (onRemoveMetric index d) := by
    intro label used
    cases label_of_kept kept used (closed.named used) with
    | inl here =>
      obtain ⟨m, -, impossible⟩ := here
      cases impossible
    | inr elsewhere => exact elsewhere
  exact closed.of_part 2 rfl (fun _ mem => .inl (List.map_subset _ List.eraseIdx_subset mem)) rfl named

theorem closed_onUpdateMetric {index : Nat} {update : MetricEntry → MetricEntry}
    (dataset : ∀ m, (update m).dataset = m.dataset)
    (kept : LabelKept d index (fun m => some (update m).outputLabel)) :
    Closed (onUpdateMetric index update d) := by
  have same : (onUpdateMetric index update d).metrics.map MetricEntry.dataset =
      d.metrics.map MetricEntry.dataset := Lists.map_modify dataset _ _
  have named : orderLabels (onUpdateMetric index update d) ⊆
      metricLabels (onUpdateMetric index update d) := by
    intro label used
    cases label_of_kept kept used (closed.named used) with
    | inl here =>
      obtain ⟨m, at_index, relabelled⟩ := here
      have there := Lists.mem_modify_self (f := update) at_index
      exact List.mem_map.mpr ⟨update m, there, Option.some.inj relabelled⟩
    | inr elsewhere =>
      obtain ⟨m, there, rfl⟩ := List.mem_map.mp elsewhere
      exact List.mem_map_of_mem (Lists.mem_modify_of_mem_eraseIdx there)
  refine closed.of_part 2 rfl ?_ rfl named
  intro id mem
  rw [same] at mem
  exact .inl mem

theorem closed_handleAddOrder {value : String} (selected : (orderEntry value).dataset ∈ datasetIds d)
    (named : ∀ label, (orderEntry value).label = some label → label ∈ metricLabels d) :
    Closed (handleAddOrder value d) := by
  simp only [handleAddOrder]
  split
  · exact closed
  · refine closed.of_part 5 rfl (fun _ mem => used_before_or_selected selected mem) rfl ?_
    intro label used
    obtain ⟨o, there, labelled⟩ := List.mem_filterMap.mp used
    rw [List.mem_append, List.mem_singleton] at there
    cases there with
    | inl before => exact closed.named (List.mem_filterMap.mpr ⟨o, before, labelled⟩)
    | inr new =>
      rw [new] at labelled
      exact named label (PythonText.truthy_eq_some labelled).1

end Edits

/-! ## The value of an option -/

theorem toString_splitOn (n : Nat) (rest : List Char) :
    ((toString n).toList ++ ':' :: rest).splitOn ':' = Nat.toDigits 10 n :: rest.splitOn ':' := by
  have digits : (toString n).toList = Nat.toDigits 10 n := Nat.toList_repr
  have plain : ':' ∉ Nat.toDigits 10 n := by
    intro mem
    have digit := Nat.isDigit_of_mem_toDigits (by decide) (by decide) mem
    exact absurd digit (by decide)
  rw [digits, List.splitOn_append_cons_self_of_not_mem plain]

theorem orderEntry_column {field : ColumnEntry} (plain : ':' ∉ field.column.toList) :
    orderEntry (columnOption field) = ⟨field.dataset, some field.column, none, false⟩ := by
  have chars : (columnOption field).toList.splitOn ':' =
      [Nat.toDigits 10 field.dataset, field.column.toList] := by
    have shape : (columnOption field).toList =
        (toString field.dataset).toList ++ ':' :: field.column.toList := by
      simp [columnOption]
    rw [shape, toString_splitOn, List.splitOn_eq_singleton plain]
  simp [orderEntry, chars, Nat.ofDigitChars_ten_toDigits]

theorem orderEntry_metric {metric : MetricEntry} (column : ':' ∉ metric.column.toList)
    (aggregate : ':' ∉ (printed metric.aggregate).toList) : orderEntry (metricOption metric) =
      ⟨metric.dataset, some metric.column, truthy (some (printed metric.label)), false⟩ := by
  have chars : (metricOption metric).toList.splitOn ':' =
      Nat.toDigits 10 metric.dataset :: metric.column.toList ::
        (printed metric.aggregate).toList :: (printed metric.label).toList.splitOn ':' := by
    have shape : (metricOption metric).toList = (toString metric.dataset).toList ++ ':' ::
        (metric.column.toList ++ ':' ::
          ((printed metric.aggregate).toList ++ ':' :: (printed metric.label).toList)) := by
      simp [metricOption]
    rw [shape, toString_splitOn, List.splitOn_append_cons_self_of_not_mem column,
      List.splitOn_append_cons_self_of_not_mem aggregate]
  have label : [':'].intercalate ((printed metric.label).toList.splitOn ':') =
      (printed metric.label).toList := List.intercalate_splitOn ':'
  have some_part := List.splitOn_ne_nil ':' (printed metric.label).toList
  simp [orderEntry, chars, Nat.ofDigitChars_ten_toDigits, label, some_part]

/-- The option's column is written without a colon, and a metric has its label. -/
def PlainOption (d : Definition) (option : Nat) : Prop :=
  (∀ field, d.columns[option]? = some field → ':' ∉ field.column.toList) ∧
    ∀ metric, d.columns.length ≤ option → d.metrics[option - d.columns.length]? = some metric →
      ':' ∉ metric.column.toList ∧ ':' ∉ (printed metric.aggregate).toList ∧ metric.label ≠ none

theorem closed_addOrder {d : Definition} (closed : Closed d) {option : Nat} (plain : PlainOption d option)
    {value : String} (chosen : (orderByOptions d)[option]? = some value) :
    Closed (handleAddOrder value d) := by
  unfold orderByOptions at chosen
  rw [List.getElem?_append, List.length_map] at chosen
  split at chosen
  · rw [List.getElem?_map, Option.map_eq_some_iff] at chosen
    obtain ⟨field, there, rfl⟩ := chosen
    have entry := orderEntry_column (plain.1 field there)
    have used : field.dataset ∈ datasetRefs d := by
      apply mem_datasetRefs_of_part (i := 0)
      exact List.mem_map_of_mem (List.mem_of_getElem? there)
    apply closed_handleAddOrder closed
    · rw [entry]
      exact closed.selected used
    · rw [entry]
      intro label labelled
      cases labelled
  · rename_i past
    rw [List.getElem?_map, Option.map_eq_some_iff] at chosen
    obtain ⟨metric, there, rfl⟩ := chosen
    obtain ⟨column, aggregate, labelled⟩ := plain.2 metric (by omega) there
    have entry := orderEntry_metric column aggregate
    have inside : metric ∈ d.metrics := List.mem_of_getElem? there
    have used : metric.dataset ∈ datasetRefs d := by
      apply mem_datasetRefs_of_part (i := 2)
      exact List.mem_map_of_mem inside
    apply closed_handleAddOrder closed
    · rw [entry]
      exact closed.selected used
    · rw [entry]
      intro label own
      obtain ⟨text, written⟩ := Option.ne_none_iff_exists'.mp labelled
      simp only [printed, written, Option.getD_some] at own
      obtain ⟨same, nonempty⟩ := PythonText.truthy_eq_some own
      have bears : metric.outputLabel = label := by
        rw [MetricEntry.outputLabel, written, same, PythonText.orElse_some nonempty]
      exact bears ▸ List.mem_map_of_mem inside

/-! ## The page -/

/-- What an edit needs of the page that it is made on to keep the references closed. -/
def Keeps (p : Page) : Edit → Prop
  | .load raw => Closed (opened raw)
  | .closeDataset id => id ∉ datasetRefs p.definition
  | .finishUpload upload id => ∀ seen, p.uploads[upload]? = some seen →
      id ∈ seen.map DatasetEntry.id ∨
        ∀ ref ∈ datasetRefs p.definition, ref = id ∨ ref ∈ seen.map DatasetEntry.id
  | .dropColumn payload => payload.dataset ∈ datasetIds p.definition
  | .dropGroup payload => payload.dataset ∈ datasetIds p.definition
  | .dropMetric payload => payload.dataset ∈ datasetIds p.definition
  | .removeMetric index => LabelKept p.definition index (fun _ => none)
  | .updateAggregate index a =>
    LabelKept p.definition index (fun m => some (withAggregate a m).outputLabel)
  | .updateMetricLabel index label =>
    LabelKept p.definition index (fun m => some (withLabel label m).outputLabel)
  | .addOrder option => PlainOption p.definition option
  | .addFilter => ∀ id, p.filterForm.complete → p.filterForm.dataset = some id →
      id ∈ datasetIds p.definition
  | .addRelationship => ∀ id, p.relationshipForm.canAdd →
      p.relationshipForm.leftDataset = some id ∨ p.relationshipForm.rightDataset = some id →
        id ∈ datasetIds p.definition
  | _ => True

theorem handleAdd_filter {repr : String → String} {form : FilterForm} {filter : FilterEntry}
    (added : form.handleAdd repr = some filter) :
    form.complete ∧ form.dataset = some filter.dataset := by
  unfold FilterForm.handleAdd at added
  split at added
  · rename_i dataset column picked named
    rw [Option.ite_none_left_eq_some, Option.some.injEq] at added
    rw [picked, ← added.2]
    have filled : (form.needsValue && decide (trim form.value.toList = [])) = false :=
      Bool.eq_false_iff.mpr added.1
    refine ⟨?_, rfl⟩
    rw [FilterForm.complete, picked, named, filled]
    rfl
  · cases added

theorem handleAdd_relationship {form : RelationshipForm} {rel : Relationship}
    (added : form.handleAdd = some rel) : form.canAdd ∧
      form.leftDataset = some rel.leftDataset ∧ form.rightDataset = some rel.rightDataset := by
  unfold RelationshipForm.handleAdd at added
  split at added
  · rename_i allowed
    split at added
    · rename_i left _ right _ pickedLeft _ pickedRight _
      cases added
      exact ⟨allowed, pickedLeft, pickedRight⟩
    · cases added
  · cases added

theorem handleAdd_of_complete (repr : String → String) {form : FilterForm} (filled : form.complete)
    {id : Nat} (chosen : form.dataset = some id) :
    ∃ filter, form.handleAdd repr = some filter ∧ filter.dataset = id := by
  unfold FilterForm.complete at filled
  simp only [Bool.and_eq_true, Option.isSome_iff_exists] at filled
  obtain ⟨⟨-, name, named⟩, ready⟩ := filled
  have present : (form.needsValue && decide (trim form.value.toList = [])) = false :=
    (Bool.not_eq_true' _).mp ready
  refine ⟨⟨id, name, some form.op, form.filterValue repr⟩, ?_, rfl⟩
  simp only [FilterForm.handleAdd, chosen, named, present]
  rfl

theorem handleAdd_of_canAdd {form : RelationshipForm} (allowed : form.canAdd) {id : Nat}
    (chosen : form.leftDataset = some id ∨ form.rightDataset = some id) :
    ∃ rel, form.handleAdd = some rel ∧ (rel.leftDataset = id ∨ rel.rightDataset = id) := by
  have checks := allowed
  simp only [RelationshipForm.canAdd, Bool.and_eq_true, Option.isSome_iff_exists] at checks
  obtain ⟨⟨⟨⟨⟨left, hl⟩, leftColumn, hlc⟩, right, hr⟩, rightColumn, hrc⟩, -⟩ := checks
  refine ⟨⟨left, leftColumn, right, rightColumn, some form.joinType⟩, ?_, ?_⟩
  · rw [RelationshipForm.handleAdd, if_pos allowed, hl, hlc, hr, hrc]
  · rw [hl, hr, Option.some.injEq, Option.some.injEq] at chosen
    exact chosen

theorem closed_step (repr : String → String) (p : Page) (e : Edit) (closed : Closed p.definition)
    (keeps : Keeps p e) : Closed (step repr p e).definition := by
  cases e with
  | load raw => exact keeps
  | selectDataset id => exact closed_handleSelectDataset closed id
  | closeDataset id => exact closed_closeDataset closed keeps
  | startUpload => exact closed
  | finishUpload upload id =>
    simp only [step]
    cases found : p.uploads[upload]? with
    | none => exact closed
    | some seen => exact closed_finishUpload closed (keeps seen found)
  | dropColumn payload => exact closed_handleAddColumn closed keeps
  | removeColumn index => exact closed_onRemoveColumn closed index
  | updateColumnLabel index label => exact closed_onUpdateColumnLabel closed index label
  | dropGroup payload => exact closed_handleAddGroup closed keeps
  | removeGroup index => exact closed_onRemoveGroup closed index
  | dropMetric payload => exact closed_handleAddMetric closed keeps
  | removeMetric index => exact closed_onRemoveMetric closed keeps
  | updateAggregate index a => exact closed_onUpdateMetric closed (fun _ => rfl) keeps
  | updateMetricLabel index label => exact closed_onUpdateMetric closed (fun _ => rfl) keeps
  | addOrder option =>
    simp only [step]
    cases chosen : (orderByOptions p.definition)[option]? with
    | none => exact closed
    | some value => exact closed_addOrder closed keeps chosen
  | closeOrder index => exact closed_closeOrder closed index
  | pickFilter pick => exact closed
  | addFilter =>
    simp only [step, addFilter]
    cases added : p.filterForm.handleAdd repr with
    | none => exact closed
    | some filter => exact closed_addFilter closed (keeps _ (handleAdd_filter added).1 (handleAdd_filter added).2)
  | removeFilter index => exact closed_removeFilter closed index
  | pickRelationship pick => exact closed
  | addRelationship =>
    simp only [step, addRelationship]
    cases added : p.relationshipForm.handleAdd with
    | none => exact closed
    | some rel =>
      obtain ⟨allowed, left, right⟩ := handleAdd_relationship added
      exact closed_addRelationship closed (keeps _ allowed (.inl left)) (keeps _ allowed (.inr right))
  | removeRelationship index => exact closed_removeRelationship closed index
  | updateLimit limit => exact ⟨closed.selected, closed.named⟩

/-! ## The conditions are needed -/

section Needed
variable {d : Definition}

theorem unused_of_closed {id : Nat} (after : Closed (closeDataset id d)) : id ∉ datasetRefs d := by
  intro used
  have listed : id ∈ datasetIds (closeDataset id d) := after.selected used
  obtain ⟨entry, there, same⟩ := List.mem_map.mp listed
  have other := (List.mem_filter.mp there).2
  simp [same] at other

theorem covered_of_closed {seen : List DatasetEntry} {id : Nat}
    (after : Closed (handleSelectDataset seen id d)) : id ∈ seen.map DatasetEntry.id ∨
      ∀ ref ∈ datasetRefs d, ref = id ∨ ref ∈ seen.map DatasetEntry.id := by
  have present : seen.any (fun ds => ds.id = id) ↔ id ∈ seen.map DatasetEntry.id := by simp
  by_cases known : id ∈ seen.map DatasetEntry.id
  · exact .inl known
  · rw [handleSelectDataset, if_neg (fun there => known (present.mp there))] at after
    apply Or.inr
    intro ref used
    have listed : ref ∈ (seen ++ [(⟨id, some s!"d{seen.length + 1}"⟩ : DatasetEntry)]).map
        DatasetEntry.id := after.selected used
    rw [List.map_append, List.mem_append, List.map_singleton, List.mem_singleton] at listed
    exact listed.symm

/-- What is listed already is used. -/
theorem selected_of_listed {α : Type} {items : List α} {dataset : α → Nat} {same : α → Bool} {i id : Nat}
    (closed : Closed d) (part : (parts d).getD i [] = items.map dataset) (listed : items.any same = true)
    (each : ∀ item, same item = true → dataset item = id) : id ∈ datasetIds d := by
  obtain ⟨item, there, found⟩ := List.any_eq_true.mp listed
  apply closed.selected
  apply mem_datasetRefs_of_part (i := i)
  rw [part]
  exact List.mem_map.mpr ⟨item, there, each item found⟩

/-- What has just been added is used. -/
theorem selected_of_closed {e : Definition} (after : Closed e) (ids : datasetIds e = datasetIds d)
    {i id : Nat} (used : id ∈ (parts e).getD i []) : id ∈ datasetIds d := by
  rw [← ids]
  exact after.selected (mem_datasetRefs_of_part used)

theorem labelKept_of_closed_remove {index : Nat} (after : Closed (onRemoveMetric index d)) :
    LabelKept d index (fun _ => none) := by
  intro m _ used
  exact .inr (after.named used)

theorem labelKept_of_closed_update {index : Nat} {update : MetricEntry → MetricEntry}
    (after : Closed (onUpdateMetric index update d)) :
    LabelKept d index (fun m => some (update m).outputLabel) := by
  intro m at_index used
  have named : m.outputLabel ∈ metricLabels (onUpdateMetric index update d) := after.named used
  obtain ⟨n, there, same⟩ := List.mem_map.mp named
  cases Lists.of_mem_modify there with
  | inl here =>
    obtain ⟨b, at_b, rfl⟩ := here
    rw [at_index, Option.some.injEq] at at_b
    subst at_b
    exact .inl (congrArg some same)
  | inr elsewhere => exact .inr (List.mem_map.mpr ⟨n, elsewhere, same⟩)

end Needed

/-- Apart from the orderings, an edit keeps the references closed only under its condition. -/
theorem closed_step_iff (repr : String → String) (p : Page) (e : Edit) (closed : Closed p.definition)
    (other : ∀ option, e ≠ .addOrder option) : Closed (step repr p e).definition ↔ Keeps p e := by
  refine ⟨fun after => ?_, closed_step repr p e closed⟩
  cases e with
  | load raw => exact after
  | closeDataset id => exact unused_of_closed after
  | finishUpload upload id =>
    intro seen found
    simp only [step, found] at after
    exact covered_of_closed after
  | dropColumn payload =>
    simp only [step, Page.define, handleAddColumn] at after
    split at after
    · rename_i listed
      apply selected_of_listed closed (i := 0) rfl listed
      intro item same
      simp only [Bool.and_eq_true, decide_eq_true_eq] at same
      exact same.1
    · apply selected_of_closed after rfl (i := 0)
      simp [parts]
  | dropGroup payload =>
    simp only [step, Page.define, handleAddGroup] at after
    split at after
    · rename_i listed
      apply selected_of_listed closed (i := 1) rfl listed
      intro item same
      simp only [Bool.and_eq_true, decide_eq_true_eq] at same
      exact same.1
    · apply selected_of_closed after rfl (i := 1)
      simp [parts]
  | dropMetric payload =>
    simp only [step, Page.define, handleAddMetric] at after
    split at after
    · rename_i listed
      apply selected_of_listed closed (i := 2) rfl listed
      intro item same
      simp only [Bool.and_eq_true, decide_eq_true_eq] at same
      exact same.1.1
    · apply selected_of_closed after rfl (i := 2)
      simp [parts, droppedMetric]
  | removeMetric index => exact labelKept_of_closed_remove after
  | updateAggregate index a => exact labelKept_of_closed_update after
  | updateMetricLabel index label => exact labelKept_of_closed_update after
  | addOrder option => exact absurd rfl (other option)
  | addFilter =>
    intro id filled chosen
    obtain ⟨filter, added, same⟩ := handleAdd_of_complete repr filled chosen
    simp only [step, addFilter, added] at after
    apply selected_of_closed after rfl (i := 3)
    simp [parts, Page.define, same]
  | addRelationship =>
    intro id allowed chosen
    obtain ⟨rel, added, ends⟩ := handleAdd_of_canAdd allowed chosen
    simp only [step, addRelationship, added] at after
    apply selected_of_closed after rfl (i := 4)
    have new : id ∈ [rel.leftDataset, rel.rightDataset] := by simpa [eq_comm] using ends
    exact List.mem_flatMap.mpr ⟨rel, List.mem_append_right _ List.mem_cons_self, new⟩
  | _ => trivial

/-! ## Every state that is reached -/

/-- From a page with closed references, in a run whose edits meet their conditions, the
references of every state that is reached are closed, and so `build_select` finds them all. -/
theorem references_closed (repr : String → String) (p : Page) (start : Closed p.definition)
    (run : List Edit) (keeps : Runs.Each (step repr) Keeps p run) (before : List Edit)
    (reached : before <+: run) :
    Closed (Runs.after (step repr) p before).definition ∧
      ∀ env tables, SqlBuilder.loadTables env
          (normalizeDefinition (Runs.after (step repr) p before).definition.toRaw) = .ok tables →
        Answered (Runs.after (step repr) p before).definition tables := by
  obtain ⟨rest, rfl⟩ := reached
  have kept := keeps.of_append
  have closed := (kept.of_invariant (I := fun p => Closed p.definition) (Q := Keeps)
    (fun p e closed keeps => ⟨keeps, closed_step repr p e closed keeps⟩) start).2
  exact ⟨closed, fun env tables loads => answered_of_closed closed loads⟩

/-- Two datasets, an ordered metric and a grouping, and then the group taken away again. -/
def draft : List Edit :=
  [.selectDataset 1, .selectDataset 2, .dropMetric ⟨2, "amount", "amount"⟩, .addOrder 0,
    .dropGroup ⟨1, "name", "name"⟩, .removeGroup 0, .closeDataset 1]

theorem draft_closed :
    Closed (Runs.after (step id) Page.start draft).definition ∧
      ∀ env tables, SqlBuilder.loadTables env
          (normalizeDefinition (Runs.after (step id) Page.start draft).definition.toRaw) = .ok tables →
        Answered (Runs.after (step id) Page.start draft).definition tables := by
  have keeps : Runs.Each (step id) Keeps Page.start draft := by
    refine ⟨trivial, trivial, ?_, ⟨?_, ?_⟩, ?_, trivial, ?_, trivial⟩
    · show 2 ∈ [1, 2]
      decide
    · intro field found
      cases found
    · intro metric _ found
      cases found
      decide
    · show 1 ∈ [1, 2]
      decide
    · show 1 ∉ [2, 2]
      decide
  exact references_closed id Page.start closed_empty draft keeps draft (List.prefix_refl _)

/-- The ordered metric is relabelled; and the dataset of a column is taken away. -/
theorem edits_leave_references :
    ¬Closed (Runs.after (step id) Page.start [.selectDataset 1, .dropMetric ⟨1, "amount", "amount"⟩,
      .addOrder 0, .updateMetricLabel 0 "Total"]).definition ∧
    ¬Closed (Runs.after (step id) Page.start [.selectDataset 1, .selectDataset 2,
      .dropColumn ⟨2, "name", "name"⟩, .closeDataset 2]).definition := by
  constructor
  · intro closed
    have named : "SUM(amount)" ∈ ["Total"] := closed.named (by decide)
    exact absurd named (by decide)
  · intro closed
    have selected : 2 ∈ [1] := closed.selected (by decide)
    exact absurd selected (by decide)

end XpBuilder.Designer
