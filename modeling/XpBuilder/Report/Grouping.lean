import XpBuilder.Report.Labels
import XpBuilder.Report.RowSecurity

/-! The GROUP BY of a report with metrics. Its expressions are those of the entries to group
by, or of all fields when there are none; fields and orderings are lists of their own, and
nothing compares them with it. -/

namespace XpBuilder
open PythonText (truthy)

/-! ## Expressions of columns -/

/-- The SQL that defines a column of a dataset, when it is no column of its table. -/
def BuildEnv.expressionOf (env : BuildEnv) (id : Nat) (column : String) : Option String :=
  (env.find id).bind (fun t => SqlBuilder.columnExpression t column)

/-- Two columns have one expression: they are the same, or one SQL text defines both. -/
def BuildEnv.SameExpression (env : BuildEnv) (id : Nat) (column : String) (id' : Nat) (column' : String) :
    Prop :=
  (id = id' ∧ column = column') ∨
    ∃ sql, env.expressionOf id column = some sql ∧ env.expressionOf id' column' = some sql

/-- A column has the expression of an entry to group by. -/
def Definition.GroupsBy (d : Definition) (env : BuildEnv) (id : Nat) (column : String) : Prop :=
  ∃ g ∈ d.groupEntries, env.SameExpression id column g.dataset g.column

/-- Every field is grouped by, and so is the column of every ordering without the label of
an output. -/
structure Definition.GroupsAll (d : Definition) (env : BuildEnv) : Prop where
  fields : d.groupBy ≠ [] → ∀ c ∈ d.columns, d.GroupsBy env c.dataset c.column
  orders : ∀ o ∈ d.orderBy, (∀ label ∈ d.outputLabels, truthy o.label ≠ some label) →
    ∀ column, o.column = some column → d.GroupsBy env o.dataset column

namespace SqlBuilder
variable {env : BuildEnv} {d : Definition} {tables : Tables} {first : Nat} {s : Sql.Select} {p : SqlaTable}

/-- No value outside an aggregate differs within a group. -/
structure GroupsLegally (s : Sql.Select) (groups : List Sql.Expr) : Prop where
  columns : ∀ c ∈ s.columns, ∀ e, c.body = .plain e → e ∈ groups
  orders : ∀ o ∈ s.orderBy, ∀ e, o.1 = .plain e → e ∈ groups

theorem columnExpr_of_expression {b : Bound} {column sql : String} {e : Sql.Expr}
    (defined : columnExpression b.dataset column = some sql) (built : columnExpr b column = .ok e) :
    e = .raw ("(" ++ sql ++ ")") := by
  unfold columnExpr at built
  rw [defined] at built
  exact Fallible.pure_eq_ok.mp built

/-- The expressions built for two columns are one exactly when the columns have one. -/
theorem exprOf_eq_iff (loads : loadTables env d = .ok tables) {id id' : Nat} {column column' : String}
    {e e' : Sql.Expr} (made : exprOf tables id column = .ok e) (made' : exprOf tables id' column' = .ok e') :
    e = e' ↔ env.SameExpression id column id' column' := by
  obtain ⟨b, found, built⟩ := exprOf_ok.mp made
  obtain ⟨b', found', built'⟩ := exprOf_ok.mp made'
  have valid := (loadTables_get loads id).1 b found
  have valid' := (loadTables_get loads id').1 b' found'
  have defined : env.expressionOf id column = columnExpression b.dataset column := by
    rw [BuildEnv.expressionOf, valid.found, Option.bind_some]
  have defined' : env.expressionOf id' column' = columnExpression b'.dataset column' := by
    rw [BuildEnv.expressionOf, valid'.found, Option.bind_some]
  unfold BuildEnv.SameExpression
  rw [defined, defined']
  constructor
  · intro same
    subst same
    cases columnExpr_ok.mp built with
    | inl raw =>
      obtain ⟨sql, there, rfl⟩ := raw
      cases columnExpr_ok.mp built' with
      | inl raw' =>
        obtain ⟨sql', there', texts⟩ := raw'
        have one : sql = sql' := by
          have chars := congrArg String.toList (Sql.Expr.raw.inj texts)
          exact String.toList_injective (by simpa using chars)
        exact .inr ⟨sql, there, one ▸ there'⟩
      | inr plain' =>
        obtain ⟨-, -, other⟩ := plain'
        cases other
    | inr plain =>
      obtain ⟨-, -, rfl⟩ := plain
      cases columnExpr_ok.mp built' with
      | inl raw' =>
        obtain ⟨sql', -, other⟩ := raw'
        cases other
      | inr plain' =>
        obtain ⟨-, -, parts⟩ := plain'
        have both := Sql.Expr.column.inj parts
        have ids := congrArg Sql.TableClause.ident both.1
        rw [valid.ident, valid'.ident] at ids
        exact .inl ⟨ids, both.2⟩
  · intro same
    cases same with
    | inl equal =>
      obtain ⟨rfl, rfl⟩ := equal
      exact Except.ok.inj (made.symm.trans made')
    | inr text =>
      obtain ⟨sql, there, there'⟩ := text
      rw [columnExpr_of_expression there built, columnExpr_of_expression there' built']

/-- The expressions to group by are those of the entries. -/
theorem Accepted.mem_groups_iff (a : Accepted env d tables first s p) {groups : List Sql.Expr}
    (grouped : s.groupBy = some groups) {id : Nat} {column : String} {e : Sql.Expr}
    (made : exprOf tables id column = .ok e) : e ∈ groups ↔ d.GroupsBy env id column := by
  have built := a.groups
  unfold groupBy at built
  rw [grouped] at built
  have pass : d.groupEntries.mapM (fun g => exprOf tables g.dataset g.column) = .ok groups := by
    split at built
    · cases Fallible.pure_eq_ok.mp built
    · obtain ⟨exprs, made, same⟩ := Fallible.bind_eq_ok.mp built
      rw [Option.some.inj (Fallible.pure_eq_ok.mp same)]
      exact made
  constructor
  · intro mem
    obtain ⟨g, there, made'⟩ := Fallible.mem_of_mapM pass mem
    exact ⟨g, there, (exprOf_eq_iff a.loads made made').mp rfl⟩
  · intro by_entry
    obtain ⟨g, there, same⟩ := by_entry
    obtain ⟨e', mem, made'⟩ := Fallible.ok_of_mapM pass there
    rw [(exprOf_eq_iff a.loads made made').mpr same]
    exact mem

/-- A column of the statement is of a field, or aggregates. -/
theorem Accepted.columns_grouped_iff (a : Accepted env d tables first s p) {groups : List Sql.Expr}
    (grouped : s.groupBy = some groups) : (∀ c ∈ s.columns, ∀ e, c.body = .plain e → e ∈ groups) ↔
      ∀ c ∈ d.columns, d.GroupsBy env c.dataset c.column := by
  obtain ⟨dimensions, metrics, columns, left, right⟩ := a.columns
  constructor
  · intro each c there
    obtain ⟨column, mem, built⟩ := Fallible.ok_of_mapM left there
    obtain ⟨e, made, rfl⟩ := dimension_ok.mp built
    have inside := each _ (columns ▸ List.mem_append_left _ mem) e rfl
    exact (a.mem_groups_iff grouped made).mp inside
  · intro each column mem e plain
    rw [columns] at mem
    cases List.mem_append.mp mem with
    | inl field =>
      obtain ⟨c, there, built⟩ := Fallible.mem_of_mapM left field
      obtain ⟨e', made, rfl⟩ := dimension_ok.mp built
      have same : e' = e := Sql.Output.plain.inj plain
      exact (a.mem_groups_iff grouped (same ▸ made)).mpr (each c there)
    | inr amount =>
      obtain ⟨m, -, built⟩ := Fallible.mem_of_mapM right amount
      obtain ⟨_, _, -, -, rfl⟩ := metric_ok.mp built
      cases plain

/-- Without entries to group by, all fields are. -/
theorem groupsBy_of_field {c : ColumnEntry} (there : c ∈ d.columns) (default : d.groupBy = []) :
    d.GroupsBy env c.dataset c.column := by
  refine ⟨⟨c.dataset, c.column, none⟩, ?_, .inl ⟨rfl, rfl⟩⟩
  rw [Definition.groupEntries, if_pos default]
  exact List.mem_map_of_mem there

/-- An ordering with the label of an output is by what a column shows. -/
theorem orderExpr_of_label {o : OrderEntry} {by_ : Sql.Output × Bool} {label : String}
    (ordered : orderExpr tables (labelMap s.columns) o = .ok by_) (written : truthy o.label = some label)
    (shown : label ∈ s.columns.map Sql.SelectColumn.label) : ∃ c ∈ s.columns, by_ = (c.body, o.desc) := by
  obtain ⟨c, there, -, found⟩ := get_labels Dict.empty shown
  have body : (labelMap s.columns).get label = some c.body := found
  unfold orderExpr at ordered
  rw [written, Option.bind_some, body] at ordered
  exact ⟨c, there, Fallible.pure_eq_ok.mp ordered⟩

/-- Any other ordering is by the column it names. -/
theorem orderExpr_of_column {o : OrderEntry} {by_ : Sql.Output × Bool}
    (ordered : orderExpr tables (labelMap s.columns) o = .ok by_)
    (other : ∀ label ∈ s.columns.map Sql.SelectColumn.label, truthy o.label ≠ some label) :
    ∃ column e, o.column = some column ∧ exprOf tables o.dataset column = .ok e ∧ by_ = (.plain e, o.desc) := by
  have unlabelled : (truthy o.label).bind (labelMap s.columns).get = none := by
    cases written : truthy o.label with
    | none => rfl
    | some label =>
      have absent : label ∉ s.columns.map Sql.SelectColumn.label := fun mem => other label mem written
      rw [Option.bind_some, labelMap_eq, Dict.get_setAll_of_not_mem, Dict.get_empty]
      rw [List.map_map]
      exact absent
  unfold orderExpr at ordered
  rw [unlabelled] at ordered
  obtain ⟨b, found, ordered⟩ := Fallible.bind_eq_ok.mp ordered
  cases column : o.column with
  | none =>
    rw [column] at ordered
    simp at ordered
  | some name =>
    rw [column] at ordered
    obtain ⟨e, built, pair⟩ := Fallible.bind_eq_ok.mp ordered
    exact ⟨name, e, rfl, exprOf_ok.mpr ⟨b, lookup_ok.mp found, built⟩, Fallible.pure_eq_ok.mp pair⟩

/-- Where the columns are grouped, the orderings are exactly when those without an output's
label are. -/
theorem Accepted.orders_grouped_iff (a : Accepted env d tables first s p) {groups : List Sql.Expr}
    (grouped : s.groupBy = some groups) (columns : ∀ c ∈ s.columns, ∀ e, c.body = .plain e → e ∈ groups) :
    (∀ o ∈ s.orderBy, ∀ e, o.1 = .plain e → e ∈ groups) ↔
      ∀ o ∈ d.orderBy, (∀ label ∈ d.outputLabels, truthy o.label ≠ some label) →
        ∀ column, o.column = some column → d.GroupsBy env o.dataset column := by
  rw [← a.labels]
  constructor
  · intro each o there other column named
    obtain ⟨by_, mem, ordered⟩ := Fallible.ok_of_mapM a.orders there
    obtain ⟨column', e, named', made, rfl⟩ := orderExpr_of_column ordered other
    have same : column' = column := Option.some.inj (named'.symm.trans named)
    exact (a.mem_groups_iff grouped (same ▸ made)).mp (each _ mem e rfl)
  · intro each by_ mem e plain
    obtain ⟨o, there, ordered⟩ := Fallible.mem_of_mapM a.orders mem
    by_cases other : ∀ label ∈ s.columns.map Sql.SelectColumn.label, truthy o.label ≠ some label
    · obtain ⟨column, e', named, made, rfl⟩ := orderExpr_of_column ordered other
      have same : e' = e := Sql.Output.plain.inj plain
      exact (a.mem_groups_iff grouped (same ▸ made)).mpr (each o there other column named)
    · simp only [not_forall, not_not] at other
      obtain ⟨label, shown, written⟩ := other
      obtain ⟨c, inside, rfl⟩ := orderExpr_of_label ordered written shown
      exact columns c inside e plain

/-- A query with metrics groups by all it shows and orders by exactly when every field has
the expression of an entry to group by, and so has the column of every ordering without the
label of an output. -/
theorem groupsLegally_iff {raw : RawDefinition} (accepted : buildSelect env raw = .ok (s, p))
    (metrics : (normalizeDefinition raw).metrics ≠ []) :
    (∃ groups, s.groupBy = some groups ∧ GroupsLegally s groups) ↔ (normalizeDefinition raw).GroupsAll env := by
  obtain ⟨tables, first, a⟩ := buildSelect_ok.mp accepted
  have some_groups : ∃ groups, s.groupBy = some groups := by
    have built := a.groups
    unfold groupBy at built
    rw [if_neg metrics] at built
    obtain ⟨exprs, -, same⟩ := Fallible.bind_eq_ok.mp built
    exact ⟨exprs, Fallible.pure_eq_ok.mp same⟩
  obtain ⟨groups, grouped⟩ := some_groups
  constructor
  · intro legal
    obtain ⟨groups', grouped', legal⟩ := legal
    have same : groups' = groups := Option.some.inj (grouped'.symm.trans grouped)
    subst same
    have fields := (a.columns_grouped_iff grouped).mp legal.columns
    have orders := (a.orders_grouped_iff grouped legal.columns).mp legal.orders
    exact ⟨fun _ => fields, orders⟩
  · intro all
    have fields : ∀ c ∈ (normalizeDefinition raw).columns,
        (normalizeDefinition raw).GroupsBy env c.dataset c.column := by
      intro c there
      by_cases default : (normalizeDefinition raw).groupBy = []
      · exact groupsBy_of_field there default
      · exact all.fields default c there
    have columns := (a.columns_grouped_iff grouped).mpr fields
    exact ⟨groups, grouped, columns, (a.orders_grouped_iff grouped columns).mpr all.orders⟩

/-! ## Two definitions -/

/-- The sum of `v` for each `k`, beside some fields and in some order. -/
def sumPerKey (fields : List ColumnEntry) (order : OrderEntry) : RawDefinition :=
  ⟨none, some [⟨1, none⟩], none, some fields, some [⟨1, "v", none, none⟩], some [⟨1, "k", none⟩], none,
    some [order], none⟩

theorem sumPerKey_groupsLegally : ∃ s p groups,
    buildSelect twoDatabases (sumPerKey [⟨1, "k", none⟩] ⟨1, none, some "SUM(v)", true⟩) = .ok (s, p) ∧
      s.groupBy = some groups ∧ GroupsLegally s groups := by
  obtain ⟨s, p, accepted⟩ : ∃ s p,
      buildSelect twoDatabases (sumPerKey [⟨1, "k", none⟩] ⟨1, none, some "SUM(v)", true⟩) = .ok (s, p) :=
    ⟨_, _, rfl⟩
  have all : (normalizeDefinition (sumPerKey [⟨1, "k", none⟩] ⟨1, none, some "SUM(v)", true⟩)).GroupsAll
      twoDatabases := by
    constructor
    · intro _ c there
      cases List.mem_singleton.mp there
      exact ⟨⟨1, "k", none⟩, List.mem_singleton.mpr rfl, .inl ⟨rfl, rfl⟩⟩
    · intro o there other
      cases List.mem_singleton.mp there
      exact absurd rfl (other "SUM(v)" (by decide))
  obtain ⟨groups, grouped, legal⟩ := (groupsLegally_iff accepted (List.cons_ne_nil _ _)).mpr all
  exact ⟨s, p, groups, accepted, grouped, legal⟩

/-- With the field `v` beside `k`, or ordered by `v`, a group has no one value to show. -/
theorem sumPerKey_not_grouped :
    (∃ s p groups c e,
      buildSelect twoDatabases (sumPerKey [⟨1, "k", none⟩, ⟨1, "v", none⟩] ⟨1, none, some "k", false⟩) =
        .ok (s, p) ∧ s.groupBy = some groups ∧ c ∈ s.columns ∧ c.body = .plain e ∧ e ∉ groups) ∧
    ∃ s p groups o e,
      buildSelect twoDatabases (sumPerKey [⟨1, "k", none⟩] ⟨1, some "v", none, false⟩) = .ok (s, p) ∧
        s.groupBy = some groups ∧ o ∈ s.orderBy ∧ o.1 = .plain e ∧ e ∉ groups := by
  constructor
  · exact ⟨_, _, _, _, _, rfl, rfl, List.mem_cons_of_mem _ List.mem_cons_self, rfl, by decide⟩
  · exact ⟨_, _, _, _, _, rfl, rfl, List.mem_cons_self, rfl, by decide⟩

end SqlBuilder
end XpBuilder
