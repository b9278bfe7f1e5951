import Mathlib.Data.List.Induction
import XpBuilder.Library.Lists
import XpBuilder.Report.Query

/-! The labels of the select list. A written label can equal another one or a default, and
defaults equal each other across datasets. Where no two are equal, each record of the
result has an entry for every column, and an ordering by a label is by the column that
bears it. -/

namespace XpBuilder
open PythonText (orElse truthy)

/-! ## Labels that tell the columns apart -/

theorem orElse_eq_getD (value : Option String) (fallback : String) :
    orElse value fallback = (truthy value).getD fallback := by
  cases value with
  | none => rfl
  | some s =>
    by_cases empty : s = ""
    · simp [orElse, truthy, Option.filter, empty]
    · simp [orElse, truthy, Option.filter, empty]

def MetricEntry.defaultLabel (m : MetricEntry) : String := m.aggregateName ++ "(" ++ m.column ++ ")"

namespace Definition

/-- The labels of the select list, as `build_select` gives them. -/
def outputLabels (d : Definition) : List String :=
  d.columns.map ColumnEntry.outputLabel ++ d.metrics.map MetricEntry.outputLabel

/-- Each output with its written label, if it has one, and its default. -/
def labelling (d : Definition) : List (Option String × String) :=
  d.columns.map (fun c => (truthy c.label, c.column)) ++
    d.metrics.map (fun m => (truthy m.label, m.defaultLabel))

def writtenLabels (d : Definition) : List String := d.labelling.filterMap Prod.fst

def plainColumns (d : Definition) : List ColumnEntry := d.columns.filter (fun c => truthy c.label = none)

def plainMetrics (d : Definition) : List MetricEntry := d.metrics.filter (fun m => truthy m.label = none)

theorem outputLabels_eq (d : Definition) : d.outputLabels = d.labelling.map (fun e => e.1.getD e.2) := by
  simp only [outputLabels, labelling, List.map_append, List.map_map]
  congr 1
  · apply List.map_congr_left
    intro c _
    exact orElse_eq_getD _ _
  · apply List.map_congr_left
    intro m _
    exact orElse_eq_getD _ _

/-- No two outputs have one label. -/
structure LabelsApart (d : Definition) : Prop where
  written : d.writtenLabels.Nodup
  columns : (d.plainColumns.map ColumnEntry.column).Nodup
  metrics : (d.plainMetrics.map (fun m => (m.aggregateName, m.column))).Nodup
  defaults : ∀ c ∈ d.plainColumns, ∀ m ∈ d.plainMetrics, c.column ≠ m.defaultLabel
  columnsFree : ∀ c ∈ d.plainColumns, c.column ∉ d.writtenLabels
  metricsFree : ∀ m ∈ d.plainMetrics, m.defaultLabel ∉ d.writtenLabels

/-- The labels of an aggregation's default are told apart by their parts. -/
theorem defaultLabel_injective {m n : MetricEntry} (plain : '(' ∉ m.aggregateName.toList)
    (plain' : '(' ∉ n.aggregateName.toList) (same : m.defaultLabel = n.defaultLabel) :
    (m.aggregateName, m.column) = (n.aggregateName, n.column) := by
  have shape : ∀ k : MetricEntry, k.defaultLabel.toList =
      k.aggregateName.toList ++ '(' :: (k.column.toList ++ [')']) := by
    intro k
    simp [MetricEntry.defaultLabel]
  have chars := congrArg String.toList same
  rw [shape, shape] at chars
  have parts := congrArg (fun cs => cs.splitOn '(') chars
  simp only [List.splitOn_append_cons_self_of_not_mem plain,
    List.splitOn_append_cons_self_of_not_mem plain', List.cons.injEq] at parts
  have name : m.aggregateName = n.aggregateName := String.toList_injective parts.1
  rw [parts.1] at chars
  have rest := List.append_cancel_left chars
  simp only [List.cons.injEq, true_and, List.append_cancel_right_eq] at rest
  rw [name, String.toList_injective rest]

theorem nodup_getD_iff (es : List (Option String × String)) :
    (es.map (fun e => e.1.getD e.2)).Nodup ↔ (es.filterMap Prod.fst).Nodup ∧
      ((es.filter (fun e => e.1 = none)).map Prod.snd).Nodup ∧
      ∀ name ∈ (es.filter (fun e => e.1 = none)).map Prod.snd, name ∉ es.filterMap Prod.fst := by
  have parted : (es.map (fun e => e.1.getD e.2)).Perm
      ((es.filter (fun e => e.1 = none)).map Prod.snd ++ es.filterMap Prod.fst) := by
    induction es with
    | nil => rfl
    | cons e rest ih =>
      obtain ⟨written, fallback⟩ := e
      cases written with
      | none => simpa using ih
      | some name =>
        simp only [List.map_cons, Option.getD_some, reduceCtorEq, decide_false, Bool.false_eq_true,
          not_false_eq_true, List.filter_cons_of_neg]
        exact (ih.cons name).trans List.perm_middle.symm
  rw [parted.nodup_iff, List.nodup_append]
  constructor
  · intro ⟨plain, written, apart⟩
    exact ⟨written, plain, fun name mem there => apart name mem name there rfl⟩
  · intro ⟨written, plain, apart⟩
    exact ⟨plain, written, fun name mem other there same => apart name mem (same ▸ there)⟩

theorem nodup_outputLabels_iff {d : Definition}
    (plain : ∀ m ∈ d.metrics, '(' ∉ m.aggregateName.toList) : d.outputLabels.Nodup ↔ d.LabelsApart := by
  have defaults : (d.labelling.filter (fun e => e.1 = none)).map Prod.snd =
      d.plainColumns.map ColumnEntry.column ++ d.plainMetrics.map MetricEntry.defaultLabel := by
    simp only [labelling, List.filter_append, List.map_append, List.filter_map, List.map_map]
    rfl
  have pairs : (d.plainMetrics.map MetricEntry.defaultLabel).Nodup ↔
      (d.plainMetrics.map (fun m => (m.aggregateName, m.column))).Nodup := by
    apply Lists.nodup_map_congr
    intro m mem n mem'
    have left := plain m (List.mem_of_mem_filter mem)
    have right := plain n (List.mem_of_mem_filter mem')
    refine ⟨defaultLabel_injective left right, fun same => ?_⟩
    rw [Prod.mk.injEq] at same
    rw [MetricEntry.defaultLabel, MetricEntry.defaultLabel, same.1, same.2]
  rw [outputLabels_eq, nodup_getD_iff, defaults, List.nodup_append, pairs]
  constructor
  · intro ⟨written, ⟨columns, metrics, apart⟩, free⟩
    have columnsFree : ∀ c ∈ d.plainColumns, c.column ∉ d.writtenLabels := fun c mem =>
      free c.column (List.mem_append_left _ (List.mem_map_of_mem mem))
    have metricsFree : ∀ m ∈ d.plainMetrics, m.defaultLabel ∉ d.writtenLabels := fun m mem =>
      free m.defaultLabel (List.mem_append_right _ (List.mem_map_of_mem mem))
    refine ⟨written, columns, metrics, fun c mem m mem' same => ?_, columnsFree, metricsFree⟩
    exact apart c.column (List.mem_map_of_mem mem) _ (List.mem_map_of_mem mem') same
  · intro apart
    refine ⟨apart.written, ⟨apart.columns, apart.metrics, ?_⟩, ?_⟩
    · intro name mem other there same
      obtain ⟨c, inside, rfl⟩ := List.mem_map.mp mem
      obtain ⟨m, inside', rfl⟩ := List.mem_map.mp there
      exact apart.defaults c inside m inside' same
    · intro name mem
      cases List.mem_append.mp mem with
      | inl column =>
        obtain ⟨c, inside, rfl⟩ := List.mem_map.mp column
        exact apart.columnsFree c inside
      | inr metric =>
        obtain ⟨m, inside, rfl⟩ := List.mem_map.mp metric
        exact apart.metricsFree m inside

end Definition

/-! ## What they do -/

namespace SqlBuilder

theorem labels_of_mapM {α : Type} {f : α → Except BuildError Sql.SelectColumn} {label : α → String}
    (labels : ∀ a c, f a = .ok c → c.label = label a) {as : List α} {cs : List Sql.SelectColumn}
    (built : as.mapM f = .ok cs) : cs.map Sql.SelectColumn.label = as.map label := by
  have pairs := Fallible.mapM_eq_ok.mp built
  clear built
  induction pairs with
  | nil => rfl
  | cons made _ ih => rw [List.map_cons, List.map_cons, ih, labels _ _ made]

theorem dimension_label {tables : Tables} (c : ColumnEntry) (s : Sql.SelectColumn)
    (made : dimension tables c = .ok s) : s.label = c.outputLabel := by
  obtain ⟨e, -, rfl⟩ := dimension_ok.mp made
  rfl

theorem metric_label {tables : Tables} (m : MetricEntry) (s : Sql.SelectColumn)
    (made : metric tables m = .ok s) : s.label = m.outputLabel := by
  obtain ⟨a, e, -, -, rfl⟩ := metric_ok.mp made
  rfl

theorem Accepted.labels {env : BuildEnv} {d : Definition} {tables : Tables} {first : Nat}
    {s : Sql.Select} {p : SqlaTable} (a : Accepted env d tables first s p) :
    s.columns.map Sql.SelectColumn.label = d.outputLabels := by
  obtain ⟨dimensions, metrics, columns, left, right⟩ := a.columns
  rw [columns, List.map_append, labels_of_mapM dimension_label left, labels_of_mapM metric_label right]
  rfl

theorem aggregateName_plain {m : MetricEntry} {a : Sql.Aggregate}
    (known : aggregation m.aggregateName = some a) : '(' ∉ m.aggregateName.toList := by
  unfold aggregation at known
  split at known <;> first | (rename_i name; rw [name]; decide) | cases known

theorem Accepted.labels_nodup_iff {env : BuildEnv} {d : Definition} {tables : Tables} {first : Nat}
    {s : Sql.Select} {p : SqlaTable} (a : Accepted env d tables first s p) :
    (s.columns.map Sql.SelectColumn.label).Nodup ↔ d.LabelsApart := by
  rw [a.labels]
  apply Definition.nodup_outputLabels_iff
  intro m mem
  obtain ⟨_, metrics, -, -, built⟩ := a.columns
  obtain ⟨c, -, made⟩ := Fallible.ok_of_mapM built mem
  obtain ⟨aggregate, _, known, -, -⟩ := metric_ok.mp made
  exact aggregateName_plain known

theorem dedupNames_of_nodup {seen names : List String} (distinct : names.Nodup)
    (new : ∀ name ∈ names, name ∉ seen) : dedupNames seen names = names := by
  induction names generalizing seen with
  | nil => rfl
  | cons name rest ih =>
    rw [List.nodup_cons] at distinct
    have other : ∀ n ∈ rest, n ∉ name :: seen := by
      intro n mem there
      cases List.mem_cons.mp there with
      | inl same => exact distinct.1 (same ▸ mem)
      | inr before => exact new n (List.mem_cons_of_mem _ mem) before
    rw [dedupNames, if_neg (new name List.mem_cons_self), ih distinct.2 other]

theorem entries_recordOf {names : List String} (distinct : names.Nodup) {cells : List Sql.Cell}
    (length : names.length ≤ cells.length) : (recordOf names cells).entries = names.zip cells := by
  have keys : ((names.zip cells).map Prod.fst).Nodup := by
    rw [List.map_fst_zip length]
    exact distinct
  exact Dict.entries_setAll keys (fun _ _ => rfl)

/-- The later column of a label is the one that counts. -/
theorem get_labels {columns : List Sql.SelectColumn} (acc : Dict String Sql.Output) {label : String}
    (mem : label ∈ columns.map Sql.SelectColumn.label) :
    ∃ c ∈ columns, c.label = label ∧
      (columns.foldl (fun acc c => acc.set c.label c.body) acc).get label = some c.body := by
  induction columns using List.reverseRecOn with
  | nil => cases mem
  | append_singleton columns a ih =>
    rw [List.foldl_append]
    by_cases last : a.label = label
    · refine ⟨a, List.mem_append_right _ List.mem_cons_self, last, ?_⟩
      simp [← last]
    · have earlier : label ∈ columns.map Sql.SelectColumn.label := by
        rw [List.map_append, List.mem_append] at mem
        cases mem with
        | inl there => exact there
        | inr there => exact absurd (List.mem_singleton.mp there).symm last
      obtain ⟨c, there, named, found⟩ := ih earlier
      refine ⟨c, List.mem_append_left _ there, named, ?_⟩
      simpa [Dict.get_set_ne _ _ (Ne.symm last)] using found

theorem labelMap_eq (columns : List Sql.SelectColumn) :
    labelMap columns = Dict.empty.setAll (columns.map (fun c => (c.label, c.body))) := by
  rw [Dict.setAll, List.foldl_map]
  rfl

theorem get_labelMap {columns : List Sql.SelectColumn}
    (distinct : (columns.map Sql.SelectColumn.label).Nodup) {c : Sql.SelectColumn} (mem : c ∈ columns) :
    (labelMap columns).get c.label = some c.body := by
  rw [labelMap_eq]
  apply Dict.get_setAll_of_mem
  · rw [List.map_map]
    exact distinct
  · exact List.mem_map_of_mem (f := fun c : Sql.SelectColumn => (c.label, c.body)) mem

/-- The labels of a statement identify its outputs: each record of a result has an entry
for every column, and an ordering by a label is by the column with that label. -/
structure Identify (Q : QueryEnv) (databaseId : Nat) (d : Definition) (s : Sql.Select) : Prop where
  labels : (s.columns.map Sql.SelectColumn.label).Nodup
  records : ∀ state names rows, getDf Q state databaseId s = some (names, rows) →
    names = s.columns.map Sql.SelectColumn.label ∧
      ∃ result, s.run (Q.engine databaseId) (fun t => state (Q.databases.resolve databaseId t)) =
          some result ∧
        List.Forall₂ (fun record cells => record.entries = names.zip cells ∧ cells.length = names.length)
          rows result
  orders : List.Forall₂ (fun o by_ => ∀ c ∈ s.columns, truthy o.label = some c.label →
    by_ = (c.body, o.desc)) d.orderBy s.orderBy

/-- They do exactly when no two of them are the same. -/
theorem identify_iff_labelsApart (Q : QueryEnv) (databaseId : Nat) {env : BuildEnv} {raw : RawDefinition}
    {s : Sql.Select} {p : SqlaTable} (accepted : buildSelect env raw = .ok (s, p)) :
    Identify Q databaseId (normalizeDefinition raw) s ↔ (normalizeDefinition raw).LabelsApart := by
  obtain ⟨tables, first, a⟩ := buildSelect_ok.mp accepted
  refine ⟨fun identify => a.labels_nodup_iff.mp identify.labels, fun apart => ?_⟩
  have distinct := a.labels_nodup_iff.mpr apart
  refine ⟨distinct, ?_, ?_⟩
  · intro state names rows df
    unfold getDf at df
    rw [Option.map_eq_some_iff] at df
    obtain ⟨result, run, pair⟩ := df
    rw [dedupNames_of_nodup distinct (fun _ _ => List.not_mem_nil), Prod.mk.injEq] at pair
    obtain ⟨rfl, rfl⟩ := pair
    refine ⟨rfl, result, run, ?_⟩
    rw [List.forall₂_map_left_iff, List.forall₂_same]
    intro cells mem
    obtain ⟨group, -, rfl⟩ := Sql.Select.mem_of_run run mem
    have length : (s.outputRow (Q.engine databaseId) group).length =
        (s.columns.map Sql.SelectColumn.label).length := by
      simp [Sql.Select.outputRow]
    exact ⟨entries_recordOf distinct length.ge, length⟩
  · refine (Fallible.mapM_eq_ok.mp a.orders).imp ?_
    intro o by_ ordered c mem labelled
    unfold orderExpr at ordered
    rw [labelled, Option.bind_some, get_labelMap distinct mem] at ordered
    exact (Fallible.pure_eq_ok.mp ordered)

end SqlBuilder
end XpBuilder
