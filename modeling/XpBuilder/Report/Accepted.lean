import XpBuilder.Report.SqlBuilder

/-! What it says about a definition that `build_select` accepts it: every dataset
it names is listed, accessible and physical, and each part of the statement
comes from the entry of the definition at the same place. -/

namespace XpBuilder.SqlBuilder
open Fallible
open PythonText (truthy)

/-! ## Loading -/

theorem loadEntry_ok {env : BuildEnv} {id : Nat} {t : SqlaTable} :
    loadEntry env id = .ok t ↔ env.find id = some t ∧ t.isVirtual = false := by
  unfold loadEntry
  cases env.find id with
  | none => simp
  | some t' =>
    by_cases h : t'.isVirtual = true
    · simp only [h, if_true, throw_ne_ok, Option.some.injEq, false_iff, not_and]
      rintro rfl
      simp [h]
    · simp only [h, if_false, Option.some.injEq, pure_eq_ok, Bool.false_eq_true]
      constructor
      · rintro rfl
        exact ⟨rfl, by simpa using h⟩
      · exact fun h => h.1.symm

/-- Every loaded dataset passed the checks and was listed, or was there before. -/
theorem loadFrom_get {env : BuildEnv} {index : Nat} {entries : List DatasetEntry}
    {acc loaded : Dict Nat Loaded} (h : loadFrom env index entries acc = .ok loaded) (id : Nat) :
    (id ∈ entries.map DatasetEntry.id →
      ∃ l, loaded.get id = some l ∧ loadEntry env id = .ok l.dataset) ∧
    (id ∉ entries.map DatasetEntry.id → loaded.get id = acc.get id) := by
  induction entries generalizing index acc with
  | nil =>
    simp only [loadFrom, pure_eq_ok] at h
    simp [h]
  | cons entry rest ih =>
    simp only [loadFrom, bind_eq_ok] at h
    obtain ⟨dataset, loads, h⟩ := h
    obtain ⟨listed, unlisted⟩ := ih h
    refine ⟨fun hid => ?_, fun hid => ?_⟩
    · by_cases later : id ∈ rest.map DatasetEntry.id
      · exact listed later
      · have here : id = entry.id := by
          rcases List.mem_cons.mp hid with h | h
          · exact h
          · exact absurd h later
        subst here
        exact ⟨_, by rw [unlisted later, Dict.get_set_self], loads⟩
    · simp only [List.map_cons, List.mem_cons, not_or] at hid
      rw [unlisted hid.2, Dict.get_set_ne _ _ hid.1]

theorem loadDatasets_ok {env : BuildEnv} {d : Definition} {loaded : Dict Nat Loaded} :
    loadDatasets env d = .ok loaded ↔
      loadFrom env 0 d.datasets Dict.empty = .ok loaded ∧ loaded.entries ≠ [] := by
  simp only [loadDatasets, bind_eq_ok, ite_throw_eq_ok, pure_eq_ok, List.isEmpty_iff]
  constructor
  · rintro ⟨l, hl, ne, rfl⟩
    exact ⟨hl, ne⟩
  · rintro ⟨hl, ne⟩
    exact ⟨loaded, hl, ne, rfl⟩

/-- What a bound table carries under its key. -/
structure Bound.Valid (env : BuildEnv) (d : Definition) (id : Nat) (b : Bound) : Prop where
  listed : id ∈ d.datasets.map DatasetEntry.id
  found : env.find id = some b.dataset
  physical : b.dataset.isVirtual = false
  reflected : env.reflect b.dataset.tableRef = some b.columns
  ident : b.clause.ident = id
  schema : b.clause.schema = truthy b.dataset.schema
  name : b.clause.name = b.dataset.tableName

theorem bindTable_ok {env : BuildEnv} {id : Nat} {l : Loaded} {b : Bound} :
    bindTable env id l = .ok b ↔ ∃ columns, env.reflect l.dataset.tableRef = some columns ∧
      b = ⟨l.dataset, ⟨id, truthy l.dataset.schema, l.dataset.tableName, l.aliasName⟩, columns⟩ := by
  unfold bindTable
  cases env.reflect l.dataset.tableRef with
  | none => simp
  | some columns => simp

theorem loadTables_get {env : BuildEnv} {d : Definition} {tables : Tables}
    (h : loadTables env d = .ok tables) (id : Nat) :
    (∀ b, tables.get id = some b → b.Valid env d id) ∧
      (id ∈ d.datasets.map DatasetEntry.id → ∃ b, tables.get id = some b) := by
  simp only [loadTables, bind_eq_ok] at h
  obtain ⟨loaded, hl, hb⟩ := h
  obtain ⟨listed, unlisted⟩ := loadFrom_get (loadDatasets_ok.mp hl).1 id
  obtain ⟨bound, missing⟩ := get_comprehend hb id
  refine ⟨fun b hget => ?_, fun hid => ?_⟩
  · by_cases hid : id ∈ d.datasets.map DatasetEntry.id
    · obtain ⟨l, hl, hentry⟩ := listed hid
      obtain ⟨b', hbind, hget'⟩ := bound l hl
      obtain rfl : b' = b := by
        rw [hget] at hget'
        exact (Option.some.inj hget').symm
      obtain ⟨columns, reflected, rfl⟩ := bindTable_ok.mp hbind
      obtain ⟨found, physical⟩ := loadEntry_ok.mp hentry
      exact ⟨hid, found, physical, reflected, rfl, rfl, rfl⟩
    · rw [missing (by rw [unlisted hid, Dict.get_empty])] at hget
      simp at hget
  · obtain ⟨l, hl, -⟩ := listed hid
    obtain ⟨b, -, hget⟩ := bound l hl
    exact ⟨b, hget⟩

/-! ## Expressions -/

theorem lookup_ok {tables : Tables} {id : Nat} {b : Bound} :
    lookup tables id = .ok b ↔ tables.get id = some b := by
  unfold lookup
  cases tables.get id with
  | none => simp
  | some found =>
    rw [pure_eq_ok, Option.some.injEq]
    exact eq_comm

theorem physicalColumn_ok {b : Bound} {name : String} {e : Sql.Expr} :
    physicalColumn b name = .ok e ↔ name ∈ b.columns ∧ e = .column b.clause name := by
  unfold physicalColumn
  by_cases h : name ∈ b.columns <;> simp [h]

theorem columnExpr_ok {b : Bound} {name : String} {e : Sql.Expr} :
    columnExpr b name = .ok e ↔
      (∃ sql, columnExpression b.dataset name = some sql ∧ e = .raw ("(" ++ sql ++ ")")) ∨
      (columnExpression b.dataset name = none ∧ name ∈ b.columns ∧ e = .column b.clause name) := by
  unfold columnExpr
  cases columnExpression b.dataset name with
  | none => simp [physicalColumn_ok]
  | some sql => simp

theorem exprOf_ok {tables : Tables} {id : Nat} {column : String} {e : Sql.Expr} :
    exprOf tables id column = .ok e ↔ ∃ b, tables.get id = some b ∧ columnExpr b column = .ok e := by
  simp only [exprOf, bind_eq_ok, lookup_ok]

/-- A column that is not an SQL expression names the table of its dataset, and
an expression names no table. -/
theorem mem_tables_of_exprOf {tables : Tables} {id : Nat} {column : String} {e : Sql.Expr}
    (h : exprOf tables id column = .ok e) (t : Sql.TableClause) :
    t ∈ e.tables ↔
      ∃ b, tables.get id = some b ∧ columnExpression b.dataset column = none ∧ t = b.clause := by
  obtain ⟨b, hb, he⟩ := exprOf_ok.mp h
  rcases columnExpr_ok.mp he with ⟨sql, hsql, rfl⟩ | ⟨hnone, -, rfl⟩
  · simp [Sql.Expr.tables, hb, hsql]
  · simp [Sql.Expr.tables, hb, hnone]

theorem dimension_ok {tables : Tables} {c : ColumnEntry} {s : Sql.SelectColumn} :
    dimension tables c = .ok s ↔
      ∃ e, exprOf tables c.dataset c.column = .ok e ∧ s = ⟨c.outputLabel, .plain e⟩ := by
  simp only [dimension, bind_eq_ok, pure_eq_ok]

theorem metric_ok {tables : Tables} {m : MetricEntry} {s : Sql.SelectColumn} :
    metric tables m = .ok s ↔ ∃ a e, aggregation m.aggregateName = some a ∧
      exprOf tables m.dataset m.column = .ok e ∧ s = ⟨m.outputLabel, .aggregate a e⟩ := by
  unfold metric
  cases aggregation m.aggregateName with
  | none => simp
  | some a => simp only [bind_eq_ok, pure_eq_ok, Option.some.injEq, exists_eq_left', exists_and_left]

theorem joinClause_ok {tables : Tables} {r : Relationship} {j : Sql.Join} :
    joinClause tables r = .ok j ↔ ∃ left right kind,
      tables.get r.leftDataset = some left ∧ tables.get r.rightDataset = some right ∧
      r.leftColumn ∈ left.columns ∧ r.rightColumn ∈ right.columns ∧
      joinKind (PythonText.upper (PythonText.orElse r.joinType "INNER")) = some kind ∧
      j = ⟨left.clause, r.leftColumn, right.clause, r.rightColumn, kind⟩ := by
  simp only [joinClause, bind_eq_ok, lookup_ok, physicalColumn_ok]
  cases joinKind (PythonText.upper (PythonText.orElse r.joinType "INNER")) with
  | none => simp
  | some kind =>
    simp only [pure_eq_ok, Option.some.injEq]
    constructor
    · rintro ⟨left, hl, right, hr, _, ⟨hlc, -⟩, _, ⟨hrc, -⟩, rfl⟩
      exact ⟨left, right, kind, hl, hr, hlc, hrc, rfl, rfl⟩
    · rintro ⟨left, right, _, hl, hr, hlc, hrc, rfl, rfl⟩
      exact ⟨left, hl, right, hr, _, ⟨hlc, rfl⟩, _, ⟨hrc, rfl⟩, rfl⟩

/-- A choice from an empty list is a constant and reads no column. -/
def emptyChoice (op : String) (value : FilterValue) : Prop :=
  (op = "IN" ∨ op = "NOT IN") ∧ value.items = []

instance (op : String) (value : FilterValue) : Decidable (emptyChoice op value) :=
  inferInstanceAs (Decidable (_ ∧ _))

theorem compareFilter_tables {c : Sql.Comparison} {e : Sql.Expr} {value : FilterValue}
    {q : Sql.Predicate} (h : compareFilter c e value = .ok q) : q.tables = e.tables := by
  have built : ∀ {q' : Sql.Predicate}, (pure q' : Except BuildError _) = .ok q →
      q'.tables = e.tables → q.tables = e.tables := by
    intro q' hq names
    exact pure_eq_ok.mp hq ▸ names
  unfold compareFilter at h
  split at h
  · simp at h
  · split at h <;> first | exact built h rfl | simp at h
  · split at h <;> first | exact built h rfl | simp at h
  · exact built h rfl

/-- Apart from an empty choice a filter reads what its column reads. -/
theorem filterTest_tables {op : String} {e : Sql.Expr} {value : FilterValue} {q : Sql.Predicate}
    (h : filterTest op e value = .ok q) :
    q.tables = if emptyChoice op value then [] else e.tables := by
  have reads : ∀ {q' : Sql.Predicate}, (pure q' : Except BuildError _) = .ok q →
      ¬emptyChoice op value → q'.tables = e.tables →
      q.tables = if emptyChoice op value then [] else e.tables := by
    intro q' hq hne names
    rw [if_neg hne]
    exact pure_eq_ok.mp hq ▸ names
  have constant : ∀ {q' : Sql.Predicate}, (pure q' : Except BuildError _) = .ok q →
      emptyChoice op value → q'.tables = [] →
      q.tables = if emptyChoice op value then [] else e.tables := by
    intro q' hq he names
    rw [if_pos he]
    exact pure_eq_ok.mp hq ▸ names
  unfold filterTest at h
  split_ifs at h with isNull isNotNull isIn empty notIn empty between like
  · exact reads h (by simp [emptyChoice, isNull]) rfl
  · exact reads h (by simp [emptyChoice, isNotNull]) rfl
  · exact constant h ⟨.inl isIn, empty⟩ rfl
  · exact reads h (by simp [emptyChoice, empty]) rfl
  · exact constant h ⟨.inr notIn, empty⟩ rfl
  · exact reads h (by simp [emptyChoice, empty]) rfl
  · split at h
    · exact reads h (by simp [emptyChoice, between]) rfl
    · simp at h
  · exact reads h (by simp [emptyChoice, like]) rfl
  · split at h
    · simp at h
    · rw [if_neg (by simp [emptyChoice, isIn, notIn])]
      exact compareFilter_tables h

/-! ## The statement -/

/-- The parts of an accepted definition and what each was built from. -/
structure Accepted (env : BuildEnv) (d : Definition) (tables : Tables) (first : Nat)
    (s : Sql.Select) (p : SqlaTable) : Prop where
  loads : loadTables env d = .ok tables
  leads : (d.datasets.map DatasetEntry.id).head? = some first
  nonempty : s.columns ≠ []
  columns : ∃ dimensions metrics, s.columns = dimensions ++ metrics ∧
    d.columns.mapM (dimension tables) = .ok dimensions ∧ d.metrics.mapM (metric tables) = .ok metrics
  root : ∃ b, tables.get first = some b ∧ s.root = b.clause ∧ p = b.dataset
  joins : d.relationships.mapM (joinClause tables) = .ok s.joins
  groups : groupBy tables d = .ok s.groupBy
  filters : d.filters.mapM (filterExpr tables) = .ok s.filters
  orders : d.orderBy.mapM (orderExpr tables (labelMap s.columns)) = .ok s.orderBy
  limit : s.limit = d.limit

theorem buildSelect_ok {env : BuildEnv} {raw : RawDefinition} {s : Sql.Select} {p : SqlaTable} :
    buildSelect env raw = .ok (s, p) ↔
      ∃ tables first, Accepted env (normalizeDefinition raw) tables first s p := by
  simp only [buildSelect, bind_eq_ok, ite_throw_eq_ok]
  constructor
  · rintro ⟨tables, ht, columns, hc, metrics, hm, hne, h⟩
    cases hd : (normalizeDefinition raw).datasets with
    | nil =>
      rw [hd] at h
      simp at h
    | cons entry rest =>
      rw [hd] at h
      simp only [bind_eq_ok, lookup_ok, pure_eq_ok, Prod.mk.injEq] at h
      obtain ⟨b, hb, joins, hj, groups, hg, filters, hf, orders, ho, rfl, rfl⟩ := h
      exact ⟨tables, entry.id, ht, by rw [hd]; rfl, hne, ⟨columns, metrics, rfl, hc, hm⟩,
        ⟨b, hb, rfl, rfl⟩, hj, hg, hf, ho, rfl⟩
  · rintro ⟨tables, first, a⟩
    obtain ⟨columns, metrics, hcols, hc, hm⟩ := a.columns
    obtain ⟨b, hb, hroot, rfl⟩ := a.root
    refine ⟨tables, a.loads, columns, hc, metrics, hm, hcols ▸ a.nonempty, ?_⟩
    cases hd : (normalizeDefinition raw).datasets with
    | nil =>
      have := a.leads
      simp [hd] at this
    | cons entry rest =>
      have lead : entry.id = first := by
        have := a.leads
        simpa [hd] using this
      simp only [bind_eq_ok, lookup_ok, pure_eq_ok, Prod.mk.injEq]
      refine ⟨b, lead ▸ hb, s.joins, a.joins, s.groupBy, a.groups, s.filters, a.filters, s.orderBy,
        hcols ▸ a.orders, ?_, rfl⟩
      rw [← hcols, ← hroot, ← a.limit]

end XpBuilder.SqlBuilder
