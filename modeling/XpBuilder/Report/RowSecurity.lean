import XpBuilder.Report.Query

/-! Row-level security and reports. `get_sqla_row_level_filters` says which rows
of a dataset a user may see, and dataset queries apply it; `execute_report` does
not. Two database states that differ in hidden rows only can therefore give
different reports, unless nothing is hidden and every table name denotes the
table of a dataset the definition lists. -/

namespace XpBuilder

inductive RlsFilterType where
  | regular | base
  deriving DecidableEq, Repr

structure RowLevelSecurityFilter where
  filterType : RlsFilterType
  tables : List Nat
  roles : List Nat
  groupKey : Option String
  clause : String
  deriving DecidableEq, Repr

/-- The rules as they meet the current user; `clauseHolds` is what the database
makes of a clause on a row. -/
structure RowSecurity where
  rules : List RowLevelSecurityFilter
  userRoles : List Nat
  guestClauses : Nat → List String
  clauseHolds : String → Sql.Row → Bool

namespace RowSecurity

/-- `get_rls_filters` -/
def getRlsFilters (S : RowSecurity) (dataset : Nat) : List RowLevelSecurityFilter :=
  S.rules.filter (fun r => dataset ∈ r.tables &&
    match r.filterType with
    | .regular => r.roles.any (· ∈ S.userRoles)
    | .base => !r.roles.any (· ∈ S.userRoles))

/-- The conjunction of `get_sqla_row_level_filters`: clauses that share a group
key form one disjunction. -/
def visible (S : RowSecurity) (dataset : Nat) (row : Sql.Row) : Bool :=
  let filters := S.getRlsFilters dataset
  let grouped := filters.filterMap (fun r => (PythonText.truthy r.groupKey).map (·, r.clause))
  (filters.filter (fun r => (PythonText.truthy r.groupKey).isNone)).all
      (fun r => S.clauseHolds r.clause row) &&
    (S.guestClauses dataset).all (fun c => S.clauseHolds c row) &&
    grouped.all (fun g => grouped.any (fun h => h.1 = g.1 && S.clauseHolds h.2 row))

end RowSecurity

/-- The states agree on every row that the user may see in the datasets `ids`. -/
def AgreeOnVisible (env : BuildEnv) (D : Databases) (S : RowSecurity) (ids : List Nat)
    (state state' : DatabaseState) : Prop :=
  ∀ u ∈ ids, ∀ t, env.find u = some t →
    (state (D.locate t.tableRef)).filter (S.visible u) =
      (state' (D.locate t.tableRef)).filter (S.visible u)

/-- No hidden row influences the report. -/
def NonInterfering (env : BuildEnv) (Q : QueryEnv) (S : RowSecurity) (raw : RawDefinition) : Prop :=
  ∀ state state', AgreeOnVisible env Q.databases S
      ((normalizeDefinition raw).datasets.map DatasetEntry.id) state state' →
    SqlBuilder.executeReport env Q state raw = SqlBuilder.executeReport env Q state' raw

/-- A dataset that a report can use. -/
def Reportable (env : BuildEnv) (u : Nat) (t : SqlaTable) : Prop :=
  env.find u = some t ∧ t.isVirtual = false ∧ (env.reflect t.tableRef).isSome = true

/-- The rules hide no row of the usable datasets, and each of their table names
denotes in the database of any of them the table of one of the two. -/
def NothingHidden (env : BuildEnv) (D : Databases) (S : RowSecurity) (ids : List Nat) : Prop :=
  (∀ u ∈ ids, ∀ t, Reportable env u t → ∀ row, S.visible u row = true) ∧
  ∀ u ∈ ids, ∀ v ∈ ids, ∀ t w, Reportable env u t → Reportable env v w →
    D.locate ⟨t.databaseId, none, PythonText.truthy w.schema, w.tableName⟩ = D.locate t.tableRef ∨
    D.locate ⟨t.databaseId, none, PythonText.truthy w.schema, w.tableName⟩ = D.locate w.tableRef

namespace SqlBuilder
open Fallible

theorem Bound.Valid.reportable {env : BuildEnv} {d : Definition} {u : Nat} {b : Bound}
    (h : b.Valid env d u) : Reportable env u b.dataset :=
  ⟨h.found, h.physical, by rw [h.reflected]; rfl⟩

/-- What `execute_report` returns depends on the tables of the FROM clause only. -/
theorem executeReport_congr {env : BuildEnv} {Q : QueryEnv} {raw : RawDefinition}
    {state state' : DatabaseState}
    (same : ∀ s p, buildSelect env raw = .ok (s, p) → ∀ c ∈ s.fromItems,
      state (Q.databases.resolve p.databaseId c) = state' (Q.databases.resolve p.databaseId c)) :
    executeReport env Q state raw = executeReport env Q state' raw := by
  simp only [executeReport, buildSelect_normalized]
  cases h : buildSelect env raw with
  | error e => rfl
  | ok built =>
    obtain ⟨s, p⟩ := built
    have frames : getDf Q state p.databaseId s = getDf Q state' p.databaseId s := by
      simp only [getDf]
      rw [Sql.Select.run_congr (same s p h)]
    simp only [bind, Except.bind, frames]

theorem nonInterfering_of_nothingHidden {env : BuildEnv} {Q : QueryEnv} {S : RowSecurity}
    {ids : List Nat} (h : NothingHidden env Q.databases S ids) {raw : RawDefinition}
    (covered : (normalizeDefinition raw).datasets.map DatasetEntry.id ⊆ ids) :
    NonInterfering env Q S raw := by
  intro state state' agree
  refine executeReport_congr (fun s p built c hc => ?_)
  obtain ⟨tables, first, a⟩ := buildSelect_ok.mp built
  have full : ∀ u t, u ∈ (normalizeDefinition raw).datasets.map DatasetEntry.id →
      Reportable env u t →
      state (Q.databases.locate t.tableRef) = state' (Q.databases.locate t.tableRef) := by
    intro u t hu ht
    have all := h.1 u (covered hu) t ht
    have agreed := agree u hu t ht.1
    rwa [List.filter_eq_self.mpr (fun r _ => all r), List.filter_eq_self.mpr (fun r _ => all r)]
      at agreed
  obtain ⟨u, hu, rfl⟩ := (a.mem_fromItems_iff c).mp hc
  obtain ⟨b, -, hclause, valid⟩ := a.get_of_from hu
  obtain ⟨q, hq, -, rfl⟩ := a.root
  have primary := (loadTables_get a.loads first).1 q hq
  rw [hclause, Databases.resolve, valid.schema, valid.name]
  rcases h.2 first (covered primary.listed) u (covered valid.listed) q.dataset b.dataset
    primary.reportable valid.reportable with same | same
  · rw [same]
    exact full first _ primary.listed primary.reportable
  · rw [same]
    exact full u _ valid.listed valid.reportable

/-! ## Probing definitions -/

/-- One column of one dataset. -/
def probe (u : Nat) (column : String) : RawDefinition :=
  ⟨none, some [⟨u, none⟩], none, some [⟨u, column, none⟩], none, none, none, none, none⟩

/-- One column of `u`, joined with `v`. -/
def probeJoin (u v : Nat) (column column' : String) : RawDefinition :=
  ⟨none, some [⟨u, none⟩, ⟨v, none⟩], some [⟨u, column, v, column', none⟩], some [⟨u, column, none⟩],
    none, none, none, none, none⟩

theorem columnExpr_total {b : Bound} {column : String} (h : column ∈ b.columns) :
    ∃ e, columnExpr b column = .ok e ∧ ∀ t ∈ e.tables, t = b.clause := by
  cases hc : columnExpression b.dataset column with
  | some sql =>
    exact ⟨_, columnExpr_ok.mpr (.inl ⟨sql, hc, rfl⟩), by simp [Sql.Expr.tables]⟩
  | none =>
    exact ⟨_, columnExpr_ok.mpr (.inr ⟨hc, h, rfl⟩), by simp [Sql.Expr.tables]⟩

/-- The table clause of a dataset listed without an alias at a given place. -/
def numbered (id index : Nat) (t : SqlaTable) : Sql.TableClause :=
  ⟨id, PythonText.truthy t.schema, t.tableName, s!"d{index + 1}"⟩

theorem probe_builds {env : BuildEnv} {u : Nat} {t : SqlaTable} {columns : List String}
    {column : String} (found : env.find u = some t) (physical : t.isVirtual = false)
    (reflected : env.reflect t.tableRef = some columns) (hc : column ∈ columns) :
    ∃ e label, buildSelect env (probe u column) = .ok
      (⟨[⟨label, .plain e⟩], numbered u 0 t, [], [], none, [], 1000⟩, t) ∧
      ∀ c ∈ e.tables, c = numbered u 0 t := by
  let b : Bound := ⟨t, numbered u 0 t, columns⟩
  obtain ⟨e, he, hte⟩ := columnExpr_total (b := b) hc
  have loads : loadTables env (normalizeDefinition (probe u column)) =
      .ok (Dict.empty.set u b) := by
    refine bind_eq_ok.mpr ⟨Dict.empty.set u ⟨t, s!"d{0 + 1}"⟩, loadDatasets_ok.mpr ⟨?_, ?_⟩, ?_⟩
    · exact bind_eq_ok.mpr ⟨t, loadEntry_ok.mpr ⟨found, physical⟩, rfl⟩
    · simp [Dict.set, Dict.assign, Dict.empty]
    · exact bind_eq_ok.mpr ⟨_, bind_eq_ok.mpr ⟨b, bindTable_ok.mpr ⟨columns, reflected, rfl⟩, rfl⟩,
        rfl⟩
  have get : (Dict.empty.set u b).get u = some b := Dict.get_set_self _ _ _
  refine ⟨e, _, buildSelect_ok.mpr ⟨_, u, loads, rfl, by simp, ⟨_, [], rfl, mapM_eq_ok.mpr (.cons
    (dimension_ok.mpr ⟨e, exprOf_ok.mpr ⟨b, get, he⟩, rfl⟩) .nil), rfl⟩, ⟨b, get, rfl, rfl⟩, rfl, rfl,
    rfl, rfl, rfl⟩, hte⟩

theorem probeJoin_builds {env : BuildEnv} {u v : Nat} (ne : u ≠ v) {t w : SqlaTable}
    {columns columns' : List String} {column column' : String} (found : env.find u = some t)
    (found' : env.find v = some w) (physical : t.isVirtual = false)
    (physical' : w.isVirtual = false) (reflected : env.reflect t.tableRef = some columns)
    (reflected' : env.reflect w.tableRef = some columns') (hc : column ∈ columns)
    (hc' : column' ∈ columns') :
    ∃ e label, buildSelect env (probeJoin u v column column') = .ok
      (⟨[⟨label, .plain e⟩], numbered u 0 t,
        [⟨numbered u 0 t, column, numbered v 1 w, column', .inner⟩], [], none, [], 1000⟩, t) ∧
      ∀ c ∈ e.tables, c = numbered u 0 t := by
  let b : Bound := ⟨t, numbered u 0 t, columns⟩
  let b' : Bound := ⟨w, numbered v 1 w, columns'⟩
  obtain ⟨e, he, hte⟩ := columnExpr_total (b := b) hc
  have loads : loadTables env (normalizeDefinition (probeJoin u v column column')) =
      .ok ((Dict.empty.set u b).set v b') := by
    refine bind_eq_ok.mpr ⟨(Dict.empty.set u ⟨t, s!"d{0 + 1}"⟩).set v ⟨w, s!"d{1 + 1}"⟩,
      loadDatasets_ok.mpr ⟨?_, ?_⟩, ?_⟩
    · exact bind_eq_ok.mpr ⟨t, loadEntry_ok.mpr ⟨found, physical⟩,
        bind_eq_ok.mpr ⟨w, loadEntry_ok.mpr ⟨found', physical'⟩, rfl⟩⟩
    · simp [Dict.set, Dict.assign, Dict.empty, ne]
    · have entries : ((Dict.empty.set u (⟨t, s!"d{0 + 1}"⟩ : Loaded)).set v
          ⟨w, s!"d{1 + 1}"⟩).entries = [(u, ⟨t, s!"d{0 + 1}"⟩), (v, ⟨w, s!"d{1 + 1}"⟩)] := by
        simp [Dict.set, Dict.assign, Dict.empty, ne]
      rw [comprehend, entries]
      exact bind_eq_ok.mpr ⟨_, bind_eq_ok.mpr ⟨b, bindTable_ok.mpr ⟨columns, reflected, rfl⟩, rfl⟩,
        bind_eq_ok.mpr ⟨_, bind_eq_ok.mpr ⟨b', bindTable_ok.mpr ⟨columns', reflected', rfl⟩, rfl⟩,
          rfl⟩⟩
  have get : ((Dict.empty.set u b).set v b').get u = some b := by
    rw [Dict.get_set_ne _ _ ne, Dict.get_set_self]
  have inner : joinKind (PythonText.upper (PythonText.orElse none "INNER")) = some .inner := by
    decide
  have get' : ((Dict.empty.set u b).set v b').get v = some b' := Dict.get_set_self _ _ _
  refine ⟨e, _, buildSelect_ok.mpr ⟨_, u, loads, rfl, by simp, ⟨_, [], rfl, mapM_eq_ok.mpr (.cons
    (dimension_ok.mpr ⟨e, exprOf_ok.mpr ⟨b, get, he⟩, rfl⟩) .nil), rfl⟩, ⟨b, get, rfl, rfl⟩,
    mapM_eq_ok.mpr (.cons (joinClause_ok.mpr ⟨b, b', .inner, get, get', hc, hc', inner, rfl⟩)
      .nil), rfl, rfl, rfl, rfl⟩, hte⟩

/-! ## What a probe reveals -/

theorem executeReport_of_run {env : BuildEnv} {Q : QueryEnv} {state : DatabaseState}
    {raw : RawDefinition} {s : Sql.Select} {p : SqlaTable} {out : List (List Sql.Cell)}
    (built : buildSelect env raw = .ok (s, p))
    (hrun : s.run (Q.engine p.databaseId)
      (fun c => state (Q.databases.resolve p.databaseId c)) = some out) :
    ∃ r, executeReport env Q state raw = .ok r ∧ r.count = out.length := by
  simp only [executeReport, buildSelect_normalized, built, getDf, hrun, Option.map_some, bind,
    Except.bind]
  exact ⟨_, rfl, List.length_map _⟩

/-- The number of rows a report without aggregates shows. -/
theorem executeReport_count {env : BuildEnv} {raw : RawDefinition} {s : Sql.Select} {p : SqlaTable}
    (built : buildSelect env raw = .ok (s, p)) (accepted : s.fromAccepted = true)
    (plain : s.groupBy = none) (limit : 0 ≤ s.limit) (Q : QueryEnv) (state : DatabaseState) :
    ∃ r, executeReport env Q state raw = .ok r ∧ r.count = min s.limit.toNat
      (s.sourceRows (Q.engine p.databaseId)
        (fun c => state (Q.databases.resolve p.databaseId c))).length := by
  obtain ⟨out, hrun, hlen⟩ := Sql.Select.run_length accepted plain limit
  obtain ⟨r, hr, hcount⟩ := executeReport_of_run built hrun
  exact ⟨r, hr, hcount.trans hlen⟩

theorem implicitFrom_eq_nil {s : Sql.Select} (filters : s.filters = [])
    (columns : ∀ c ∈ s.columns, ∀ t ∈ c.body.expr.tables, t ∈ s.chain) : s.implicitFrom = [] := by
  rw [List.eq_nil_iff_forall_not_mem]
  intro t ht
  simp only [Sql.Select.implicitFrom, filters, List.mem_dedup, List.mem_filter, List.flatMap_nil,
    List.append_nil, List.mem_flatMap, decide_eq_true_eq] at ht
  obtain ⟨⟨c, hc, htc⟩, fresh⟩ := ht
  exact fresh (columns c hc t htc)

theorem probe_count {env : BuildEnv} (Q : QueryEnv) {u : Nat} {t : SqlaTable}
    (h : Reportable env u t) : ∃ column, ∀ state, ∃ r,
      executeReport env Q state (probe u column) = .ok r ∧
      r.count = min 1000 (state (Q.databases.resolve t.databaseId (numbered u 0 t))).length := by
  obtain ⟨found, physical, reflected⟩ := h
  obtain ⟨columns, hcols⟩ := Option.isSome_iff_exists.mp reflected
  obtain ⟨column, hc⟩ := List.exists_mem_of_ne_nil _ (env.reflect_ne _ _ hcols)
  obtain ⟨e, label, built, reads⟩ := probe_builds found physical hcols hc
  have noCross : Sql.Select.implicitFrom
      ⟨[⟨label, .plain e⟩], numbered u 0 t, [], [], none, [], 1000⟩ = [] := by
    refine implicitFrom_eq_nil rfl (fun c hc t ht => ?_)
    rw [List.mem_singleton.mp hc] at ht
    simp [Sql.Select.chain, reads t ht]
  have accepted : Sql.Select.fromAccepted
      ⟨[⟨label, .plain e⟩], numbered u 0 t, [], [], none, [], 1000⟩ = true := by
    simp [Sql.Select.fromAccepted, Sql.Select.fromItems, noCross, Sql.Select.chain,
      Sql.Select.onClausesResolve]
  refine ⟨column, fun state => ?_⟩
  obtain ⟨r, hr, hcount⟩ := executeReport_count built accepted rfl (by simp) Q state
  refine ⟨r, hr, hcount.trans ?_⟩
  simp [Sql.Select.sourceRows, Sql.Select.joinedRows, noCross]

theorem probeJoin_count {env : BuildEnv} (Q : QueryEnv) {u v : Nat} (ne : u ≠ v) {t w : SqlaTable}
    (h : Reportable env u t) (h' : Reportable env v w) : ∃ column column', ∀ state,
      state (Q.databases.resolve t.databaseId (numbered u 0 t)) = [fun _ => .number 1] → ∃ r,
      executeReport env Q state (probeJoin u v column column') = .ok r ∧
      (state (Q.databases.resolve t.databaseId (numbered v 1 w)) = [] → r.count = 0) ∧
      (state (Q.databases.resolve t.databaseId (numbered v 1 w)) = [fun _ => .number 1] →
        r.count = 1) := by
  obtain ⟨found, physical, reflected⟩ := h
  obtain ⟨found', physical', reflected'⟩ := h'
  obtain ⟨columns, hcols⟩ := Option.isSome_iff_exists.mp reflected
  obtain ⟨columns', hcols'⟩ := Option.isSome_iff_exists.mp reflected'
  obtain ⟨column, hc⟩ := List.exists_mem_of_ne_nil _ (env.reflect_ne _ _ hcols)
  obtain ⟨column', hc'⟩ := List.exists_mem_of_ne_nil _ (env.reflect_ne _ _ hcols')
  obtain ⟨e, label, built, reads⟩ :=
    probeJoin_builds ne found found' physical physical' hcols hcols' hc hc'
  have noCross : Sql.Select.implicitFrom ⟨[⟨label, .plain e⟩], numbered u 0 t,
      [⟨numbered u 0 t, column, numbered v 1 w, column', .inner⟩], [], none, [], 1000⟩ = [] := by
    refine implicitFrom_eq_nil rfl (fun c hc t ht => ?_)
    rw [List.mem_singleton.mp hc] at ht
    simp [Sql.Select.chain, reads t ht]
  have accepted : Sql.Select.fromAccepted ⟨[⟨label, .plain e⟩], numbered u 0 t,
      [⟨numbered u 0 t, column, numbered v 1 w, column', .inner⟩], [], none, [], 1000⟩ = true := by
    rw [Sql.Select.fromAccepted, Sql.Select.fromItems, noCross]
    change (decide (["d1", "d2"].Nodup) && ((decide ("d1" ∈ ["d1"]) || decide ("d1" = "d2")) &&
      true)) = true
    decide
  refine ⟨column, column', fun state one => ?_⟩
  obtain ⟨r, hr, hcount⟩ := executeReport_count built accepted rfl (by simp) Q state
  refine ⟨r, hr, fun empty => hcount.trans ?_, fun single => hcount.trans ?_⟩
  · simp [Sql.Select.sourceRows, Sql.Select.joinedRows, noCross, Sql.joinStep, Sql.joinMatches, one, empty]
  · have aliases : (numbered u 0 t).aliasName ≠ (numbered v 1 w).aliasName := by
      change "d1" ≠ "d2"
      decide
    have joined : Sql.Join.holds (Q.engine t.databaseId)
        ⟨numbered u 0 t, column, numbered v 1 w, column', .inner⟩
        ((Sql.Env.nulls.bind (numbered u 0 t).aliasName (fun _ => .number 1)).bind
          (numbered v 1 w).aliasName (fun _ => .number 1)) = true := by
      rw [Sql.Join.holds_iff, Sql.Env.bind_same, Sql.Env.bind_ne _ aliases, Sql.Env.bind_same]
      rfl
    simp [Sql.Select.sourceRows, Sql.Select.joinedRows, noCross, Sql.joinStep, Sql.joinMatches, one,
      single, joined]

/-- Two reports with different row counts tell their states apart. -/
theorem count_eq_of_nonInterfering {env : BuildEnv} {Q : QueryEnv} {S : RowSecurity}
    {raw : RawDefinition} (h : NonInterfering env Q S raw) {state state' : DatabaseState}
    (agree : AgreeOnVisible env Q.databases S
      ((normalizeDefinition raw).datasets.map DatasetEntry.id) state state') {r r' : ReportResult}
    (hr : executeReport env Q state raw = .ok r) (hr' : executeReport env Q state' raw = .ok r') :
    r.count = r'.count := by
  have := h state state' agree
  rw [hr, hr'] at this
  rw [Except.ok.inj this]

/-- One row in one table and nothing anywhere else. -/
def onlyRow (place : TableRef) (row : Sql.Row) (rest : DatabaseState) : DatabaseState :=
  fun r => if r = place then [row] else rest r

theorem onlyRow_same (place : TableRef) (row : Sql.Row) (rest : DatabaseState) :
    onlyRow place row rest place = [row] := if_pos rfl

theorem onlyRow_ne {place r : TableRef} (h : r ≠ place) (row : Sql.Row) (rest : DatabaseState) :
    onlyRow place row rest r = rest r := if_neg h

section Leaks
variable {env : BuildEnv} {Q : QueryEnv} {S : RowSecurity} {ids : List Nat}
  (silent : ∀ raw, (normalizeDefinition raw).datasets.map DatasetEntry.id ⊆ ids →
    NonInterfering env Q S raw)
include silent

/-- A row that a one-dataset report reads must be a visible row of that dataset. -/
theorem probed_row_visible {u : Nat} (hu : u ∈ ids) {t : SqlaTable} (h : Reportable env u t)
    (row : Sql.Row) : Q.databases.resolve t.databaseId (numbered u 0 t) = Q.databases.locate t.tableRef
      ∧ S.visible u row = true := by
  obtain ⟨column, counts⟩ := probe_count Q h
  have quiet : NonInterfering env Q S (probe u column) :=
    silent _ (fun v hv => List.mem_singleton.mp hv ▸ hu)
  by_contra hidden
  -- the probed table is empty in one state and holds `row` in the other
  have agree : AgreeOnVisible env Q.databases S [u] (fun _ => [])
      (onlyRow (Q.databases.resolve t.databaseId (numbered u 0 t)) row (fun _ => [])) := by
    intro v hv w hw
    obtain rfl := List.mem_singleton.mp hv
    obtain rfl : t = w := Option.some.inj (h.1.symm.trans hw)
    by_cases place : Q.databases.locate t.tableRef =
        Q.databases.resolve t.databaseId (numbered v 0 t)
    · have : S.visible v row = false := by
        rw [← Bool.not_eq_true]
        exact fun visible => hidden ⟨place.symm, visible⟩
      rw [place, onlyRow_same]
      simp [this]
    · rw [onlyRow_ne place]
  obtain ⟨r, hr, hcount⟩ := counts (fun _ => [])
  obtain ⟨r', hr', hcount'⟩ := counts
    (onlyRow (Q.databases.resolve t.databaseId (numbered u 0 t)) row (fun _ => []))
  have same := count_eq_of_nonInterfering quiet agree hr hr'
  rw [hcount, hcount', onlyRow_same] at same
  simp at same

theorem nothingHidden_of_silent : NothingHidden env Q.databases S ids := by
  refine ⟨fun u hu t ht row => (probed_row_visible silent hu ht row).2, ?_⟩
  intro u hu v hv t w ht hw
  by_contra foreign
  rw [not_or] at foreign
  have home := (probed_row_visible silent hu ht (fun _ => .null)).1
  have ne : u ≠ v := by
    rintro rfl
    obtain rfl : t = w := Option.some.inj (ht.1.symm.trans hw.1)
    exact foreign.1 home
  obtain ⟨column, column', counts⟩ := probeJoin_count Q ne ht hw
  have quiet : NonInterfering env Q S (probeJoin u v column column') :=
    silent _ (fun x hx => by
      rcases List.mem_cons.mp hx with rfl | hx
      · exact hu
      · exact List.mem_singleton.mp hx ▸ hv)
  -- both states hold one row of `u`; only the second fills the table that the name of `v` denotes
  let base := onlyRow (Q.databases.locate t.tableRef) (fun _ => .number 1) (fun _ => [])
  let place := Q.databases.resolve t.databaseId (numbered v 1 w)
  have agree : AgreeOnVisible env Q.databases S [u, v] base
      (onlyRow place (fun _ => .number 1) base) := by
    intro x hx y hy
    have apart : Q.databases.locate y.tableRef ≠ place := by
      rcases List.mem_cons.mp hx with rfl | hx
      · obtain rfl : t = y := Option.some.inj (ht.1.symm.trans hy)
        exact fun h => foreign.1 h.symm
      · obtain rfl := List.mem_singleton.mp hx
        obtain rfl : w = y := Option.some.inj (hw.1.symm.trans hy)
        exact fun h => foreign.2 h.symm
    rw [onlyRow_ne apart]
  have homeApart : Q.databases.resolve t.databaseId (numbered u 0 t) ≠ place := by
    rw [home]
    exact fun h => foreign.1 h.symm
  have one : base (Q.databases.resolve t.databaseId (numbered u 0 t)) = [fun _ => .number 1] := by
    rw [home]
    exact onlyRow_same _ _ _
  obtain ⟨r, hr, empty, -⟩ := counts base one
  obtain ⟨r', hr', -, single⟩ := counts (onlyRow place (fun _ => .number 1) base)
    ((onlyRow_ne homeApart _ _).trans one)
  have same := count_eq_of_nonInterfering quiet agree hr hr'
  rw [empty (onlyRow_ne (fun h => foreign.1 h) _ _), single (onlyRow_same _ _ _)] at same
  simp at same

end Leaks

/-- An engine that takes the first row of a group. -/
def firstRowEngine : Sql.Engine where
  numberOf _ := 0
  evalRaw _ _ := .null
  pick group := group.headD Sql.Env.nulls
  pick_mem group h := by
    cases group with
    | nil => exact absurd rfl h
    | cons env rest => exact List.mem_cons_self

def plainQuery : QueryEnv := ⟨plainDatabases, fun _ => firstRowEngine, fun _ _ => "SELECT ..."⟩

/-- Users with role 5 see the rows of dataset 1 with `v = 1`. -/
def rowsOfRole : RowSecurity where
  rules := [⟨.regular, [1], [5], none, "v = 1"⟩]
  userRoles := [5]
  guestClauses _ := []
  clauseHolds _ row := row "v" = .number 1

end SqlBuilder
end XpBuilder
