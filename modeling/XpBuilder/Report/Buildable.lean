import XpBuilder.Report.Labels

/-! Which definitions `build_select` accepts: what it needs of the datasets, of each entry
and of the values of the filters. -/

namespace XpBuilder.SqlBuilder
open Fallible
open PythonText (truthy orElse upper)

/-! ## The tables -/

/-- A dataset that the user may access and whose table exists. -/
def Physical (env : BuildEnv) (id : Nat) : Prop :=
  ∃ t names, env.find id = some t ∧ t.isVirtual = false ∧ env.reflect t.tableRef = some names

/-- A column of the table of a dataset. -/
def InTable (env : BuildEnv) (id : Nat) (column : String) : Prop :=
  ∃ t names, env.find id = some t ∧ env.reflect t.tableRef = some names ∧ column ∈ names

/-- A column of the table, or one that is calculated. -/
def Readable (env : BuildEnv) (id : Nat) (column : String) : Prop :=
  InTable env id column ∨ ∃ t, env.find id = some t ∧ columnExpression t column ≠ none

theorem exists_loadFrom {env : BuildEnv} {entries : List DatasetEntry} {index : Nat} {acc : Dict Nat Loaded}
    (physical : ∀ e ∈ entries, Physical env e.id) : ∃ loaded, loadFrom env index entries acc = .ok loaded := by
  induction entries generalizing index acc with
  | nil => exact ⟨acc, rfl⟩
  | cons entry rest ih =>
    rw [List.forall_mem_cons] at physical
    obtain ⟨⟨t, names, found, real, -⟩, later⟩ := physical
    obtain ⟨loaded, loads⟩ := @ih (index + 1) (acc.set entry.id ⟨t, orElse entry.aliasName s!"d{index + 1}"⟩) later
    exact ⟨loaded, bind_eq_ok.mpr ⟨t, loadEntry_ok.mpr ⟨found, real⟩, loads⟩⟩

theorem loadTables_ok_iff {env : BuildEnv} {d : Definition} : (∃ tables, loadTables env d = .ok tables) ↔
    d.datasets ≠ [] ∧ ∀ e ∈ d.datasets, Physical env e.id := by
  constructor
  · rintro ⟨tables, loads⟩
    have loads' := loads
    simp only [loadTables, bind_eq_ok] at loads'
    obtain ⟨loaded, fromEntries, -⟩ := loads'
    obtain ⟨entries, some_⟩ := loadDatasets_ok.mp fromEntries
    refine ⟨?_, fun e mem => ?_⟩
    · intro none
      rw [none] at entries
      exact some_ (pure_eq_ok.mp entries ▸ rfl)
    · obtain ⟨b, there⟩ := (loadTables_get loads e.id).2 (List.mem_map_of_mem mem)
      have valid := (loadTables_get loads e.id).1 b there
      exact ⟨b.dataset, b.columns, valid.found, valid.physical, valid.reflected⟩
  · rintro ⟨chosen, physical⟩
    have loadable : ∃ loaded, loadFrom env 0 d.datasets Dict.empty = .ok loaded := exists_loadFrom physical
    obtain ⟨loaded, loads⟩ := loadable
    have known := loadFrom_get loads
    have some_ : loaded.entries ≠ [] := by
      obtain ⟨e, rest, first⟩ := List.exists_cons_of_ne_nil chosen
      obtain ⟨l, there, -⟩ := (known e.id).1 (by rw [first]; exact List.mem_cons_self)
      intro none
      rw [Dict.get, none] at there
      cases there
    have binds : ∀ id l, loaded.get id = some l → ∃ b, bindTable env id l = .ok b := by
      intro id l there
      by_cases listed : id ∈ d.datasets.map DatasetEntry.id
      · obtain ⟨e, mem, rfl⟩ := List.mem_map.mp listed
        obtain ⟨l', there', loadsEntry⟩ := (known e.id).1 listed
        obtain rfl := Option.some.inj (there.symm.trans there')
        obtain ⟨t, names, found, -, reflected⟩ := physical e mem
        obtain rfl := Option.some.inj (found.symm.trans (loadEntry_ok.mp loadsEntry).1)
        exact ⟨_, bindTable_ok.mpr ⟨names, reflected, rfl⟩⟩
      · rw [(known id).2 listed, Dict.get_empty] at there
        cases there
    obtain ⟨tables, made⟩ := exists_comprehend binds
    exact ⟨tables, bind_eq_ok.mpr ⟨loaded, loadDatasets_ok.mpr ⟨loads, some_⟩, made⟩⟩

section
variable {env : BuildEnv} {d : Definition} {tables : Tables} (loads : loadTables env d = .ok tables)
include loads

theorem lookup_ok_iff {id : Nat} : (∃ b, tables.get id = some b) ↔ id ∈ d.datasets.map DatasetEntry.id :=
  ⟨fun ⟨b, there⟩ => ((loadTables_get loads id).1 b there).listed, (loadTables_get loads id).2⟩

theorem inTable_iff {id : Nat} {b : Bound} (there : tables.get id = some b) (column : String) :
    InTable env id column ↔ column ∈ b.columns := by
  have valid := (loadTables_get loads id).1 b there
  constructor
  · rintro ⟨t, names, found, reflected, mem⟩
    obtain rfl := Option.some.inj (found.symm.trans valid.found)
    rwa [← Option.some.inj (reflected.symm.trans valid.reflected)]
  · exact fun mem => ⟨b.dataset, b.columns, valid.found, valid.reflected, mem⟩

theorem columnExpr_ok_iff {id : Nat} {b : Bound} (there : tables.get id = some b) (column : String) :
    (∃ e, columnExpr b column = .ok e) ↔ Readable env id column := by
  have valid := (loadTables_get loads id).1 b there
  unfold Readable
  rw [inTable_iff loads there]
  constructor
  · rintro ⟨e, made⟩
    rcases columnExpr_ok.mp made with ⟨sql, calculated, -⟩ | ⟨-, mem, -⟩
    · exact .inr ⟨b.dataset, valid.found, by rw [calculated]; exact Option.some_ne_none sql⟩
    · exact .inl mem
  · intro readable
    cases calculated : columnExpression b.dataset column with
    | some sql => exact ⟨_, columnExpr_ok.mpr (.inl ⟨sql, calculated, rfl⟩)⟩
    | none =>
      rcases readable with mem | ⟨t, found, known⟩
      · exact ⟨_, columnExpr_ok.mpr (.inr ⟨calculated, mem, rfl⟩)⟩
      · obtain rfl := Option.some.inj (found.symm.trans valid.found)
        exact absurd calculated known

theorem exprOf_ok_iff {id : Nat} {column : String} : (∃ e, exprOf tables id column = .ok e) ↔
    id ∈ d.datasets.map DatasetEntry.id ∧ Readable env id column := by
  rw [← lookup_ok_iff loads]
  constructor
  · rintro ⟨e, made⟩
    obtain ⟨b, there, read⟩ := exprOf_ok.mp made
    exact ⟨⟨b, there⟩, (columnExpr_ok_iff loads there column).mp ⟨e, read⟩⟩
  · rintro ⟨⟨b, there⟩, readable⟩
    obtain ⟨e, read⟩ := (columnExpr_ok_iff loads there column).mpr readable
    exact ⟨e, exprOf_ok.mpr ⟨b, there, read⟩⟩

end

/-! ## The values of the filters -/

/-- A value that can be compared: of `None` and of a boolean only whether it is the same. -/
def Comparable (c : Sql.Comparison) (value : FilterValue) : Prop :=
  ∃ v, value = .one v ∧ (c = .eq ∨ c = .ne ∨ v ≠ .null ∧ ∀ b, v ≠ .flag b)

/-- A test that `_filter_expr` can make of the operator and the value. -/
def Testable (op : String) (value : FilterValue) : Prop :=
  op ∈ ["IS NULL", "IS NOT NULL", "IN", "NOT IN", "LIKE"] ∨
    (op = "BETWEEN" ∧ ∃ low high printed, value = .many [low, high] printed) ∨
    ∃ c, comparison op = some c ∧ Comparable c value

theorem compareFilter_ok_iff {c : Sql.Comparison} {e : Sql.Expr} {value : FilterValue} :
    (∃ q, compareFilter c e value = .ok q) ↔ Comparable c value := by
  unfold Comparable
  rcases value with (_ | b | i | ⟨q, printed⟩ | s) | ⟨items, printed⟩
  · cases c <;> simp [compareFilter]
  · cases c <;> simp [compareFilter]
  · simp [compareFilter]
  · simp [compareFilter]
  · simp [compareFilter]
  · simp [compareFilter]

theorem filterTest_ok_iff {op : String} {e : Sql.Expr} {value : FilterValue} :
    (∃ q, filterTest op e value = .ok q) ↔ Testable op value := by
  by_cases plain : op ∈ ["IS NULL", "IS NOT NULL", "IN", "NOT IN", "LIKE"]
  · refine iff_of_true ?_ (.inl plain)
    simp only [List.mem_cons, List.not_mem_nil, or_false] at plain
    rcases plain with rfl | rfl | rfl | rfl | rfl
    · exact ⟨_, rfl⟩
    · exact ⟨_, rfl⟩
    · exact ⟨_, rfl⟩
    · exact ⟨_, rfl⟩
    · exact ⟨_, rfl⟩
  · have others := plain
    simp only [List.mem_cons, List.not_mem_nil, or_false, not_or] at others
    obtain ⟨null, notNull, isIn, notIn, like⟩ := others
    unfold Testable filterTest
    rw [or_iff_right plain, if_neg null, if_neg notNull, if_neg isIn, if_neg notIn]
    by_cases between : op = "BETWEEN"
    · subst between
      rw [if_pos rfl]
      have uncompared : comparison "BETWEEN" = none := rfl
      simp only [uncompared, true_and, reduceCtorEq, false_and, exists_false, or_false]
      split
      · rename_i low high printed
        exact iff_of_true ⟨_, rfl⟩ ⟨low, high, printed, rfl⟩
      · rename_i other
        refine iff_of_false (by simp) ?_
        rintro ⟨low, high, printed, rfl⟩
        exact other low high printed rfl
    · rw [if_neg between, if_neg like]
      simp only [between, false_and, false_or]
      cases comparison op with
      | none => simp
      | some c => simp [compareFilter_ok_iff]

/-! ## The definition -/

/-- What the definition reads is there, and each entry is one that `build_select` knows. An ordering whose label
names an output reads nothing of its own. -/
structure Buildable (env : BuildEnv) (d : Definition) : Prop where
  chosen : d.datasets ≠ []
  physical : ∀ e ∈ d.datasets, Physical env e.id
  shown : d.columns ≠ [] ∨ d.metrics ≠ []
  fields : ∀ c ∈ d.columns, c.dataset ∈ d.datasets.map DatasetEntry.id ∧ Readable env c.dataset c.column
  metrics : ∀ m ∈ d.metrics, (m.dataset ∈ d.datasets.map DatasetEntry.id ∧ Readable env m.dataset m.column) ∧
    aggregation m.aggregateName ≠ none
  groups : d.metrics ≠ [] → ∀ g ∈ d.groupBy,
    g.dataset ∈ d.datasets.map DatasetEntry.id ∧ Readable env g.dataset g.column
  joins : ∀ r ∈ d.relationships,
    (r.leftDataset ∈ d.datasets.map DatasetEntry.id ∧ InTable env r.leftDataset r.leftColumn) ∧
    (r.rightDataset ∈ d.datasets.map DatasetEntry.id ∧ InTable env r.rightDataset r.rightColumn) ∧
    joinKind (upper (orElse r.joinType "INNER")) ≠ none
  filters : ∀ f ∈ d.filters, (f.dataset ∈ d.datasets.map DatasetEntry.id ∧ Readable env f.dataset f.column) ∧
    Testable (upper (orElse f.op "=")) f.value
  orders : ∀ o ∈ d.orderBy, (∃ label, truthy o.label = some label ∧
      label ∈ d.outputLabels) ∨
    o.dataset ∈ d.datasets.map DatasetEntry.id ∧ ∃ column, o.column = some column ∧ Readable env o.dataset column

section
variable {env : BuildEnv} {d : Definition} {tables : Tables} (loads : loadTables env d = .ok tables)
include loads

theorem dimension_ok_iff (c : ColumnEntry) : (∃ s, dimension tables c = .ok s) ↔
    c.dataset ∈ d.datasets.map DatasetEntry.id ∧ Readable env c.dataset c.column := by
  rw [← exprOf_ok_iff loads]
  simp only [dimension_ok]
  constructor
  · rintro ⟨-, e, made, -⟩
    exact ⟨e, made⟩
  · rintro ⟨e, made⟩
    exact ⟨_, e, made, rfl⟩

theorem metric_ok_iff (m : MetricEntry) : (∃ s, metric tables m = .ok s) ↔
    (m.dataset ∈ d.datasets.map DatasetEntry.id ∧ Readable env m.dataset m.column) ∧
      aggregation m.aggregateName ≠ none := by
  rw [← exprOf_ok_iff loads, Option.ne_none_iff_exists']
  simp only [metric_ok]
  constructor
  · rintro ⟨-, a, e, known, made, -⟩
    exact ⟨⟨e, made⟩, a, known⟩
  · rintro ⟨⟨e, made⟩, a, known⟩
    exact ⟨_, a, e, known, made, rfl⟩

theorem joinClause_ok_iff (r : Relationship) : (∃ j, joinClause tables r = .ok j) ↔
    (r.leftDataset ∈ d.datasets.map DatasetEntry.id ∧ InTable env r.leftDataset r.leftColumn) ∧
      (r.rightDataset ∈ d.datasets.map DatasetEntry.id ∧ InTable env r.rightDataset r.rightColumn) ∧
        joinKind (upper (orElse r.joinType "INNER")) ≠ none := by
  rw [← lookup_ok_iff loads, ← lookup_ok_iff loads, Option.ne_none_iff_exists']
  simp only [joinClause_ok]
  constructor
  · rintro ⟨-, left, right, kind, l, r, leftColumn, rightColumn, known, -⟩
    exact ⟨⟨⟨left, l⟩, (inTable_iff loads l _).mpr leftColumn⟩, ⟨⟨right, r⟩, (inTable_iff loads r _).mpr rightColumn⟩,
      kind, known⟩
  · rintro ⟨⟨⟨left, l⟩, leftColumn⟩, ⟨⟨right, r⟩, rightColumn⟩, kind, known⟩
    exact ⟨_, left, right, kind, l, r, (inTable_iff loads l _).mp leftColumn, (inTable_iff loads r _).mp rightColumn,
      known, rfl⟩

theorem filterExpr_ok_iff (f : FilterEntry) : (∃ q, filterExpr tables f = .ok q) ↔
    (f.dataset ∈ d.datasets.map DatasetEntry.id ∧ Readable env f.dataset f.column) ∧
      Testable (upper (orElse f.op "=")) f.value := by
  rw [← exprOf_ok_iff loads]
  simp only [filterExpr, bind_eq_ok]
  constructor
  · rintro ⟨q, e, made, tested⟩
    exact ⟨⟨e, made⟩, filterTest_ok_iff.mp ⟨q, tested⟩⟩
  · rintro ⟨⟨e, made⟩, testable⟩
    obtain ⟨q, tested⟩ := (filterTest_ok_iff (e := e)).mpr testable
    exact ⟨q, e, made, tested⟩

theorem orderExpr_ok_iff (columns : List Sql.SelectColumn) (o : OrderEntry) :
    (∃ q, orderExpr tables (labelMap columns) o = .ok q) ↔
      (∃ label, truthy o.label = some label ∧ label ∈ columns.map Sql.SelectColumn.label) ∨
        o.dataset ∈ d.datasets.map DatasetEntry.id ∧ ∃ column, o.column = some column ∧ Readable env o.dataset column := by
  have named : (truthy o.label).bind (labelMap columns).get = none ↔
      ¬∃ label, truthy o.label = some label ∧ label ∈ columns.map Sql.SelectColumn.label := by
    have known : ∀ label, (labelMap columns).get label = none ↔ label ∉ columns.map Sql.SelectColumn.label := by
      intro label
      rw [labelMap_eq, Dict.get_setAll_eq_none_iff, List.map_map]
      rfl
    cases truthy o.label with
    | none => simp
    | some label => simpa using known label
  unfold orderExpr
  cases found : (truthy o.label).bind (labelMap columns).get with
  | some body =>
    refine iff_of_true ⟨_, rfl⟩ (.inl (not_not.mp (mt named.mpr ?_)))
    rw [found]
    exact Option.some_ne_none body
  | none =>
    rw [or_iff_right (named.mp found), ← lookup_ok_iff loads]
    simp only [bind_eq_ok, lookup_ok]
    constructor
    · rintro ⟨q, b, there, made⟩
      cases column : o.column with
      | none => simp [column] at made
      | some name =>
        simp only [column, bind_eq_ok] at made
        obtain ⟨e, read, -⟩ := made
        exact ⟨⟨b, there⟩, name, rfl, (columnExpr_ok_iff loads there name).mp ⟨e, read⟩⟩
    · rintro ⟨⟨b, there⟩, name, column, readable⟩
      obtain ⟨e, read⟩ := (columnExpr_ok_iff loads there name).mpr readable
      refine ⟨(.plain e, o.desc), b, there, ?_⟩
      rw [column]
      exact bind_eq_ok.mpr ⟨e, read, rfl⟩

theorem groupBy_ok_iff (fields : ∀ c ∈ d.columns, c.dataset ∈ d.datasets.map DatasetEntry.id ∧ Readable env c.dataset c.column) :
    (∃ groups, groupBy tables d = .ok groups) ↔ (d.metrics ≠ [] → ∀ g ∈ d.groupBy,
      g.dataset ∈ d.datasets.map DatasetEntry.id ∧ Readable env g.dataset g.column) := by
  unfold groupBy
  by_cases plain : d.metrics = []
  · rw [if_pos plain]
    exact iff_of_true ⟨_, rfl⟩ (fun some_ => absurd plain some_)
  · rw [if_neg plain]
    simp only [bind_eq_ok, pure_eq_ok]
    have each : (∃ exprs, d.groupEntries.mapM (fun g => exprOf tables g.dataset g.column) = .ok exprs) ↔
        ∀ g ∈ d.groupEntries, g.dataset ∈ d.datasets.map DatasetEntry.id ∧ Readable env g.dataset g.column := by
      rw [exists_mapM_iff]
      exact forall₂_congr (fun g _ => exprOf_ok_iff loads)
    have groups : (∀ g ∈ d.groupEntries, g.dataset ∈ d.datasets.map DatasetEntry.id ∧ Readable env g.dataset g.column) ↔
        ∀ g ∈ d.groupBy, g.dataset ∈ d.datasets.map DatasetEntry.id ∧ Readable env g.dataset g.column := by
      unfold Definition.groupEntries
      split_ifs with none
      · rw [none]
        refine iff_of_true ?_ (List.forall_mem_nil _)
        intro g mem
        obtain ⟨c, there, rfl⟩ := List.mem_map.mp mem
        exact fields c there
      · exact Iff.rfl
    rw [← groups, ← each]
    constructor
    · rintro ⟨-, exprs, made, -⟩ -
      exact ⟨exprs, made⟩
    · intro made
      obtain ⟨exprs, made⟩ := made plain
      exact ⟨some exprs, exprs, made, rfl⟩

end

/-- What `build_select` accepts. -/
theorem buildable_iff {env : BuildEnv} {raw : RawDefinition} :
    (∃ s p, buildSelect env raw = .ok (s, p)) ↔ Buildable env (normalizeDefinition raw) := by
  constructor
  · rintro ⟨s, p, built⟩
    obtain ⟨tables, first, a⟩ := buildSelect_ok.mp built
    obtain ⟨dimensions, metrics, columns, left, right⟩ := a.columns
    have loads := a.loads
    obtain ⟨chosen, physical⟩ := loadTables_ok_iff.mp ⟨tables, loads⟩
    have fields := (forall₂_congr (fun c _ => dimension_ok_iff loads c)).mp ((exists_mapM_iff _).mp ⟨_, left⟩)
    refine ⟨chosen, physical, ?_, fields, ?_, ?_, ?_, ?_, ?_⟩
    · by_contra neither
      rw [not_or, not_ne_iff, not_ne_iff] at neither
      rw [neither.1] at left
      rw [neither.2] at right
      exact a.nonempty (by rw [columns, pure_eq_ok.mp left, pure_eq_ok.mp right]; rfl)
    · exact (forall₂_congr (fun m _ => metric_ok_iff loads m)).mp ((exists_mapM_iff _).mp ⟨_, right⟩)
    · exact (groupBy_ok_iff loads fields).mp ⟨_, a.groups⟩
    · exact (forall₂_congr (fun r _ => joinClause_ok_iff loads r)).mp ((exists_mapM_iff _).mp ⟨_, a.joins⟩)
    · exact (forall₂_congr (fun f _ => filterExpr_ok_iff loads f)).mp ((exists_mapM_iff _).mp ⟨_, a.filters⟩)
    · have orders := (forall₂_congr (fun o _ => orderExpr_ok_iff loads s.columns o)).mp
        ((exists_mapM_iff _).mp ⟨_, a.orders⟩)
      rwa [a.labels] at orders
  · intro b
    obtain ⟨tables, loads⟩ := loadTables_ok_iff.mpr ⟨b.chosen, b.physical⟩
    obtain ⟨dimensions, left⟩ :=
      (exists_mapM_iff _).mpr ((forall₂_congr (fun c _ => dimension_ok_iff loads c)).mpr b.fields)
    obtain ⟨metrics, right⟩ := (exists_mapM_iff _).mpr ((forall₂_congr (fun m _ => metric_ok_iff loads m)).mpr b.metrics)
    obtain ⟨joins, joined⟩ :=
      (exists_mapM_iff _).mpr ((forall₂_congr (fun r _ => joinClause_ok_iff loads r)).mpr b.joins)
    obtain ⟨filters, tested⟩ :=
      (exists_mapM_iff _).mpr ((forall₂_congr (fun f _ => filterExpr_ok_iff loads f)).mpr b.filters)
    obtain ⟨groups, grouped⟩ := (groupBy_ok_iff loads b.fields).mpr b.groups
    have labels : (dimensions ++ metrics).map Sql.SelectColumn.label = (normalizeDefinition raw).outputLabels := by
      rw [List.map_append, labels_of_mapM dimension_label left, labels_of_mapM metric_label right]
      rfl
    have orders := b.orders
    rw [← labels] at orders
    obtain ⟨orderBy, ordered⟩ :=
      (exists_mapM_iff _).mpr ((forall₂_congr (fun o _ => orderExpr_ok_iff loads (dimensions ++ metrics) o)).mpr orders)
    obtain ⟨e, rest, first⟩ := List.exists_cons_of_ne_nil b.chosen
    obtain ⟨bound, there⟩ := (loadTables_get loads e.id).2 (by rw [first]; exact List.mem_cons_self)
    have some_ : dimensions ++ metrics ≠ [] := by
      intro none
      rw [none] at labels
      have empty : (normalizeDefinition raw).outputLabels = [] := labels.symm
      unfold Definition.outputLabels at empty
      rw [List.append_eq_nil_iff, List.map_eq_nil_iff, List.map_eq_nil_iff] at empty
      exact b.shown.elim (fun known => known empty.1) (fun known => known empty.2)
    refine ⟨⟨dimensions ++ metrics, bound.clause, joins, filters, groups, orderBy, (normalizeDefinition raw).limit⟩,
      bound.dataset, buildSelect_ok.mpr ⟨tables, e.id, ?_⟩⟩
    exact ⟨loads, by rw [first]; rfl, some_, ⟨dimensions, metrics, rfl, left, right⟩, ⟨bound, there, rfl, rfl⟩, joined,
      grouped, tested, ordered, rfl⟩

end XpBuilder.SqlBuilder
