import XpBuilder.Report.Accepted
import XpBuilder.Library.JoinOrder
import XpBuilder.Library.SqlJoin

/-! The FROM clause that the relationship loop of `build_select` produces. The
loop joins the right side of every relationship without looking at what is
already joined, so the clause is well formed exactly when the relationships
come in join order from the first dataset under distinct aliases. -/

namespace XpBuilder
open JoinOrder (InJoinOrder Connects Adjacent Resolves ends)
open PythonText (orElse upper)

def Relationship.edge (r : Relationship) : Nat × Nat := (r.leftDataset, r.rightDataset)

/-- The same condition written in the other direction. -/
def Relationship.flip (r : Relationship) : Relationship :=
  ⟨r.rightDataset, r.rightColumn, r.leftDataset, r.leftColumn, r.joinType⟩

def Relationship.isInner (r : Relationship) : Prop := upper (orElse r.joinType "INNER") = "INNER"

instance (r : Relationship) : Decidable r.isInner := inferInstanceAs (Decidable (_ = _))

namespace Definition

def edges (d : Definition) : List (Nat × Nat) := d.relationships.map Relationship.edge

def primaryId (d : Definition) : Nat := (d.datasets.map DatasetEntry.id).headD 0

/-- The first dataset and those that an entry of the definition names. -/
def usedDatasets (d : Definition) : List Nat :=
  d.primaryId :: (d.columns.map ColumnEntry.dataset ++ d.metrics.map MetricEntry.dataset ++
    d.groupBy.map GroupEntry.dataset ++ d.filters.map FilterEntry.dataset ++
    d.orderBy.map OrderEntry.dataset ++ d.edges.flatMap (fun e => [e.1, e.2]))

/-- A column of a dataset that is no SQL expression. -/
def readsTable (env : BuildEnv) (dataset : Nat) (column : String) : Bool :=
  match env.find dataset with
  | none => false
  | some t => SqlBuilder.columnExpression t column = none

def readsFilter (env : BuildEnv) (f : FilterEntry) : Bool :=
  readsTable env f.dataset f.column && ¬SqlBuilder.emptyChoice (upper (orElse f.op "=")) f.value

/-- The datasets whose physical columns the select list or the WHERE clause reads. -/
def readDatasets (d : Definition) (env : BuildEnv) : List Nat :=
  (d.columns.filter (fun c => readsTable env c.dataset c.column)).map ColumnEntry.dataset ++
    (d.metrics.filter (fun m => readsTable env m.dataset m.column)).map MetricEntry.dataset ++
    (d.filters.filter (readsFilter env)).map FilterEntry.dataset

/-- The datasets whose tables stand in the FROM clause. -/
def fromDatasets (d : Definition) (env : BuildEnv) : List Nat :=
  (d.primaryId :: ends d.edges) ++ d.readDatasets env

/-- The relationships connect every used dataset to the first dataset. -/
def Connected (d : Definition) : Prop :=
  ∀ u ∈ d.usedDatasets, Connects d.edges d.primaryId u

/-- The last alias listed for a dataset. -/
def aliasFrom : Nat → List DatasetEntry → Nat → Option String
  | _, [], _ => none
  | index, entry :: rest, id =>
    (aliasFrom (index + 1) rest id).or
      (if entry.id = id then some (orElse entry.aliasName s!"d{index + 1}") else none)

def aliasOf (d : Definition) (id : Nat) : Option String := aliasFrom 0 d.datasets id

/-- Used datasets have distinct aliases, and every relationship leads from a
dataset already joined to one not yet joined. -/
def JoinReady (d : Definition) : Prop :=
  (∀ u ∈ d.usedDatasets, ∀ v ∈ d.usedDatasets, d.aliasOf u = d.aliasOf v → u = v) ∧
    InJoinOrder [d.primaryId] d.edges

instance (d : Definition) : Decidable d.JoinReady := inferInstanceAs (Decidable (_ ∧ _))

theorem mem_usedDatasets_of_edge {d : Definition} {e : Nat × Nat} (he : e ∈ d.edges) :
    e.1 ∈ d.usedDatasets ∧ e.2 ∈ d.usedDatasets := by
  have both : ∀ v, v = e.1 ∨ v = e.2 → v ∈ d.usedDatasets := by
    intro v hv
    refine List.mem_cons_of_mem _ (List.mem_append_right _ ?_)
    exact List.mem_flatMap.mpr ⟨e, he, by simpa using hv⟩
  exact ⟨both _ (.inl rfl), both _ (.inr rfl)⟩

theorem endpoint_used {d : Definition} {u : Nat}
    (hu : u ∈ [d.primaryId] ++ d.edges.flatMap (fun e => [e.1, e.2])) : u ∈ d.usedDatasets := by
  rcases List.mem_append.mp hu with hu | hu
  · exact List.mem_singleton.mp hu ▸ List.mem_cons_self
  · exact List.mem_cons_of_mem _ (List.mem_append_right _ hu)

theorem chain_subset_used (d : Definition) : d.primaryId :: ends d.edges ⊆ d.usedDatasets := by
  intro u hu
  rcases List.mem_cons.mp hu with rfl | hu
  · exact List.mem_cons_self
  · obtain ⟨e, he, rfl⟩ := List.mem_map.mp hu
    exact (mem_usedDatasets_of_edge he).2

theorem readDatasets_subset_used (d : Definition) {env : BuildEnv} :
    d.readDatasets env ⊆ d.usedDatasets := by
  intro u hu
  simp only [readDatasets, List.mem_append, List.mem_map, List.mem_filter] at hu
  rcases hu with (⟨entry, ⟨h, -⟩, rfl⟩ | ⟨entry, ⟨h, -⟩, rfl⟩) | ⟨entry, ⟨h, -⟩, rfl⟩ <;>
    simp [usedDatasets, List.mem_map_of_mem h]

/-- The same definition with its relationships in any order, each in either direction. -/
def Relists (d e : Definition) : Prop :=
  e = { d with relationships := e.relationships } ∧
    ∃ mid, d.relationships.Perm mid ∧
      List.Forall₂ (fun r r' => r' = r ∨ r' = r.flip) mid e.relationships

end Definition

/-- Each used dataset occurs under an alias of its own, every ON clause resolves
and nothing enters as a cross product. -/
structure FromWellFormed (d : Definition) (s : Sql.Select) : Prop where
  eachOnce : ∀ u ∈ d.usedDatasets, ∃ t ∈ s.fromItems, t.ident = u ∧
    (s.fromItems.map Sql.TableClause.aliasName).count t.aliasName = 1
  onResolves : Sql.Select.onClausesResolve [s.root.aliasName] s.joins = true
  noCross : s.implicitFrom = []

/-- Both statements are accepted and return the same rows, up to the order that
ORDER BY leaves open, whenever LIMIT cuts nothing. -/
def SameResult (s t : Sql.Select) : Prop :=
  ∀ (E : Sql.Engine) (tables : Sql.Contents), E.OrderBlind →
    ((s.selected E tables).length : Int) ≤ s.limit →
    ∃ out out', s.run E tables = some out ∧ t.run E tables = some out' ∧ out.Perm out'

namespace SqlBuilder
open Fallible

theorem onClausesResolve_iff (introduced : List String) (joins : List Sql.Join) :
    Sql.Select.onClausesResolve introduced joins = true ↔
      Resolves introduced (joins.map (fun j => (j.left.aliasName, j.right.aliasName))) := by
  induction joins generalizing introduced with
  | nil => simp [Sql.Select.onClausesResolve, Resolves]
  | cons j rest ih =>
    simp only [Sql.Select.onClausesResolve, Bool.and_eq_true, ih, List.map_cons, Resolves,
      Bool.or_eq_true, decide_eq_true_eq]

/-! ## Aliases -/

theorem loadFrom_alias {env : BuildEnv} {index : Nat} {entries : List DatasetEntry}
    {acc loaded : Dict Nat Loaded} (h : loadFrom env index entries acc = .ok loaded) (id : Nat) :
    (loaded.get id).map Loaded.aliasName =
      (Definition.aliasFrom index entries id).or ((acc.get id).map Loaded.aliasName) := by
  induction entries generalizing index acc with
  | nil =>
    simp only [loadFrom, pure_eq_ok] at h
    simp [h, Definition.aliasFrom]
  | cons entry rest ih =>
    simp only [loadFrom, bind_eq_ok] at h
    obtain ⟨dataset, -, h⟩ := h
    rw [ih h, Definition.aliasFrom, Option.or_assoc, Dict.get_set]
    by_cases hid : id = entry.id
    · simp [hid]
    · simp [hid, Ne.symm hid]

theorem aliasOf_of_get {env : BuildEnv} {d : Definition} {tables : Tables}
    (h : loadTables env d = .ok tables) {id : Nat} {b : Bound} (hb : tables.get id = some b) :
    d.aliasOf id = some b.clause.aliasName := by
  simp only [loadTables, bind_eq_ok] at h
  obtain ⟨loaded, hl, hc⟩ := h
  have aliases := loadFrom_alias (loadDatasets_ok.mp hl).1 id
  obtain ⟨bound, missing⟩ := get_comprehend hc id
  cases hget : loaded.get id with
  | none =>
    rw [missing hget] at hb
    simp at hb
  | some l =>
    obtain ⟨b', hbind, hb'⟩ := bound l hget
    obtain rfl : b' = b := by
      rw [hb] at hb'
      exact (Option.some.inj hb').symm
    obtain ⟨columns, -, rfl⟩ := bindTable_ok.mp hbind
    rw [hget] at aliases
    simpa [Definition.aliasOf] using aliases.symm

theorem loadTables_congr {env : BuildEnv} {d e : Definition} (h : e.datasets = d.datasets) :
    loadTables env e = loadTables env d := by
  simp only [loadTables, loadDatasets, h]

/-! ## The chain of an accepted definition -/

/-- The table clause of a dataset; total, for datasets that are not loaded too. -/
def clauseOf (tables : Tables) (u : Nat) : Sql.TableClause :=
  ((tables.get u).map Bound.clause).getD ⟨u, none, "", ""⟩

theorem clauseOf_get {tables : Tables} {u : Nat} {b : Bound} (h : tables.get u = some b) :
    clauseOf tables u = b.clause := by simp [clauseOf, h]

theorem clauseOf_ident {env : BuildEnv} {d : Definition} {tables : Tables}
    (h : loadTables env d = .ok tables) (u : Nat) : (clauseOf tables u).ident = u := by
  cases hu : tables.get u with
  | none => simp [clauseOf, hu]
  | some b => rw [clauseOf_get hu, ((loadTables_get h u).1 b hu).ident]

section Chain
variable {env : BuildEnv} {d : Definition} {tables : Tables} {first : Nat} {s : Sql.Select}
  {p : SqlaTable} (a : Accepted env d tables first s p)
include a

theorem Accepted.primaryId : d.primaryId = first := by
  have := a.leads
  rw [Definition.primaryId, List.headD_eq_head?_getD, this]
  rfl

theorem Accepted.root_eq : s.root = clauseOf tables d.primaryId := by
  obtain ⟨b, hb, hroot, -⟩ := a.root
  rw [a.primaryId, clauseOf_get hb, hroot]

/-- Every join comes from a relationship between loaded datasets. -/
theorem Accepted.join_of {j : Sql.Join} (hj : j ∈ s.joins) : ∃ r ∈ d.relationships,
    joinClause tables r = .ok j := mem_of_mapM a.joins hj

theorem Accepted.joins_ends :
    s.joins.map (fun j => (j.left, j.right)) =
      d.edges.map (Prod.map (clauseOf tables) (clauseOf tables)) := by
  have related := mapM_eq_ok.mp a.joins
  rw [Definition.edges, List.map_map]
  generalize d.relationships = rels at related
  generalize s.joins = joins at related
  induction related with
  | nil => rfl
  | cons hj _ ih =>
    obtain ⟨left, right, kind, hl, hr, -, -, -, rfl⟩ := joinClause_ok.mp hj
    rw [List.map_cons, List.map_cons, ih]
    simp [Relationship.edge, clauseOf_get hl, clauseOf_get hr]

theorem Accepted.chain_eq :
    s.chain = (d.primaryId :: ends d.edges).map (clauseOf tables) := by
  have rights := congrArg (List.map Prod.snd) a.joins_ends
  rw [List.map_map, List.map_map] at rights
  rw [Sql.Select.chain, a.root_eq, List.map_cons, ends, List.map_map]
  exact congrArg _ rights

/-- Datasets that the relationships reach are loaded. -/
theorem Accepted.get_of_connects {u : Nat} (hu : Connects d.edges d.primaryId u) :
    ∃ b, tables.get u = some b := by
  refine hu.closed (P := fun u => ∃ b, tables.get u = some b) ?_ (fun e he => ?_)
  · obtain ⟨b, hb, -⟩ := a.root
    exact ⟨b, a.primaryId ▸ hb⟩
  · obtain ⟨r, hr, rfl⟩ := List.mem_map.mp he
    obtain ⟨j, -, hj⟩ := ok_of_mapM a.joins hr
    obtain ⟨left, right, kind, hl, hr, -⟩ := joinClause_ok.mp hj
    exact ⟨fun _ => ⟨right, hr⟩, fun _ => ⟨left, hl⟩⟩

/-! ## Well-formedness -/

/-- The tables of the select list and the WHERE clause are those of the columns,
metrics and filters that read a physical column. -/
theorem Accepted.mem_mentioned_iff (t : Sql.TableClause) :
    t ∈ s.columns.flatMap (fun c => c.body.expr.tables) ++ s.filters.flatMap Sql.Predicate.tables ↔
      ∃ u ∈ d.readDatasets env, t = clauseOf tables u := by
  obtain ⟨dimensions, metrics, hcols, hdims, hmets⟩ := a.columns
  have reads : ∀ {u : Nat} {column : String} {e : Sql.Expr}, exprOf tables u column = .ok e →
      (t ∈ e.tables ↔ Definition.readsTable env u column = true ∧ t = clauseOf tables u) := by
    intro u column e he
    rw [mem_tables_of_exprOf he]
    obtain ⟨b, hb, -⟩ := exprOf_ok.mp he
    have found := ((loadTables_get a.loads u).1 b hb).found
    simp [Definition.readsTable, found, hb, clauseOf_get hb]
  simp only [Definition.readDatasets, List.mem_append, List.mem_map, List.mem_filter,
    List.mem_flatMap, hcols]
  constructor
  · rintro (⟨c, hc | hc, ht⟩ | ⟨f, hf, ht⟩)
    · obtain ⟨entry, hentry, hd⟩ := mem_of_mapM hdims hc
      obtain ⟨e, he, rfl⟩ := dimension_ok.mp hd
      obtain ⟨hr, rfl⟩ := (reads he).mp ht
      exact ⟨_, .inl (.inl ⟨entry, ⟨hentry, hr⟩, rfl⟩), rfl⟩
    · obtain ⟨entry, hentry, hm⟩ := mem_of_mapM hmets hc
      obtain ⟨agg, e, -, he, rfl⟩ := metric_ok.mp hm
      obtain ⟨hr, rfl⟩ := (reads he).mp ht
      exact ⟨_, .inl (.inr ⟨entry, ⟨hentry, hr⟩, rfl⟩), rfl⟩
    · obtain ⟨entry, hentry, hfe⟩ := mem_of_mapM a.filters hf
      obtain ⟨e, he, htest⟩ := bind_eq_ok.mp hfe
      rw [filterTest_tables htest] at ht
      split at ht
      · simp at ht
      · next nonempty =>
        obtain ⟨hr, rfl⟩ := (reads he).mp ht
        exact ⟨_, .inr ⟨entry, ⟨hentry, by simp [Definition.readsFilter, hr, nonempty]⟩, rfl⟩, rfl⟩
  · rintro ⟨u, (⟨entry, ⟨hentry, hr⟩, rfl⟩ | ⟨entry, ⟨hentry, hr⟩, rfl⟩) | ⟨entry, ⟨hentry, hr⟩, rfl⟩,
      rfl⟩
    · obtain ⟨c, hc, hd⟩ := ok_of_mapM hdims hentry
      obtain ⟨e, he, rfl⟩ := dimension_ok.mp hd
      exact .inl ⟨_, .inl hc, (reads he).mpr ⟨hr, rfl⟩⟩
    · obtain ⟨c, hc, hm⟩ := ok_of_mapM hmets hentry
      obtain ⟨agg, e, -, he, rfl⟩ := metric_ok.mp hm
      exact .inl ⟨_, .inr hc, (reads he).mpr ⟨hr, rfl⟩⟩
    · obtain ⟨f, hf, hfe⟩ := ok_of_mapM a.filters hentry
      obtain ⟨e, he, htest⟩ := bind_eq_ok.mp hfe
      simp only [Definition.readsFilter, Bool.and_eq_true, decide_eq_true_eq] at hr
      refine .inr ⟨f, hf, ?_⟩
      rw [filterTest_tables htest, if_neg hr.2]
      exact (reads he).mpr ⟨hr.1, rfl⟩

/-- The FROM clause holds the tables of the first dataset, of the right sides of
the relationships and of the physical columns that are read. -/
theorem Accepted.mem_fromItems_iff (t : Sql.TableClause) :
    t ∈ s.fromItems ↔ ∃ u ∈ d.fromDatasets env, t = clauseOf tables u := by
  have split : t ∈ s.fromItems ↔ t ∈ s.chain ∨
      t ∈ s.columns.flatMap (fun c => c.body.expr.tables) ++
        s.filters.flatMap Sql.Predicate.tables := by
    simp only [Sql.Select.fromItems, Sql.Select.implicitFrom, List.mem_append, List.mem_dedup,
      List.mem_filter, decide_eq_true_eq]
    tauto
  rw [split, a.mem_mentioned_iff, a.chain_eq]
  simp only [Definition.fromDatasets, List.mem_append, List.mem_map]
  constructor
  · rintro (⟨u, hu, rfl⟩ | ⟨u, hu, rfl⟩)
    · exact ⟨u, .inl hu, rfl⟩
    · exact ⟨u, .inr hu, rfl⟩
  · rintro ⟨u, hu | hu, rfl⟩
    · exact .inl ⟨u, hu, rfl⟩
    · exact .inr ⟨u, hu, rfl⟩

theorem Accepted.onResolves_iff
    (inj : ∀ u ∈ d.usedDatasets, ∀ v ∈ d.usedDatasets,
      (clauseOf tables u).aliasName = (clauseOf tables v).aliasName → u = v) :
    Sql.Select.onClausesResolve [s.root.aliasName] s.joins = true ↔
      Resolves [d.primaryId] d.edges := by
  have pairs : s.joins.map (fun j => (j.left.aliasName, j.right.aliasName)) =
      d.edges.map (Prod.map (fun u => (clauseOf tables u).aliasName)
        (fun u => (clauseOf tables u).aliasName)) := by
    have := congrArg (List.map (Prod.map Sql.TableClause.aliasName Sql.TableClause.aliasName))
      a.joins_ends
    rw [List.map_map, List.map_map] at this
    exact this
  rw [onClausesResolve_iff, pairs, a.root_eq]
  rw [← List.map_singleton (f := fun u => (clauseOf tables u).aliasName)]
  refine JoinOrder.resolves_map (fun u hu v hv => inj u ?_ v ?_)
  · exact Definition.endpoint_used hu
  · exact Definition.endpoint_used hv

variable (connected : d.Connected)
include connected

/-- Used datasets are loaded, so aliases tell their table clauses apart as they
tell the datasets apart. -/
theorem Accepted.alias_inj_iff :
    (∀ u ∈ d.usedDatasets, ∀ v ∈ d.usedDatasets, d.aliasOf u = d.aliasOf v → u = v) ↔
      ∀ u ∈ d.usedDatasets, ∀ v ∈ d.usedDatasets,
        (clauseOf tables u).aliasName = (clauseOf tables v).aliasName → u = v := by
  have alias_eq : ∀ u ∈ d.usedDatasets, d.aliasOf u = some (clauseOf tables u).aliasName := by
    intro u hu
    obtain ⟨b, hb⟩ := a.get_of_connects (connected u hu)
    rw [aliasOf_of_get a.loads hb, clauseOf_get hb]
  refine forall_congr' fun u => forall_congr' fun hu => forall_congr' fun v =>
    forall_congr' fun hv => ?_
  rw [alias_eq u hu, alias_eq v hv, Option.some.injEq]

theorem Accepted.joinReady_of_wellFormed (h : FromWellFormed d s) : d.JoinReady := by
  have items : s.fromItems = (d.primaryId :: ends d.edges).map (clauseOf tables) := by
    rw [Sql.Select.fromItems, h.noCross, List.append_nil, a.chain_eq]
  have once : ∀ u ∈ d.usedDatasets, u ∈ d.primaryId :: ends d.edges ∧
      ((d.primaryId :: ends d.edges).map (fun u => (clauseOf tables u).aliasName)).count
        (clauseOf tables u).aliasName = 1 := by
    intro u hu
    obtain ⟨t, ht, hid, hcount⟩ := h.eachOnce u hu
    rw [items] at ht hcount
    obtain ⟨v, hv, rfl⟩ := List.mem_map.mp ht
    rw [clauseOf_ident a.loads] at hid
    subst hid
    rw [List.map_map] at hcount
    exact ⟨hv, hcount⟩
  have distinct : ((d.primaryId :: ends d.edges).map
      (fun u => (clauseOf tables u).aliasName)).Nodup := by
    rw [List.nodup_iff_count_eq_one]
    intro name hname
    obtain ⟨u, hu, rfl⟩ := List.mem_map.mp hname
    exact (once u (d.chain_subset_used hu)).2
  have inj : ∀ u ∈ d.usedDatasets, ∀ v ∈ d.usedDatasets,
      (clauseOf tables u).aliasName = (clauseOf tables v).aliasName → u = v := fun u hu v hv =>
    List.inj_on_of_nodup_map distinct (once u hu).1 (once v hv).1
  have resolves := (a.onResolves_iff inj).mp h.onResolves
  refine ⟨(a.alias_inj_iff connected).mpr inj, (JoinOrder.inJoinOrder_iff ?_).mpr
    ⟨resolves, List.Nodup.of_map _ distinct⟩⟩
  exact fun e he => connected e.2 (Definition.mem_usedDatasets_of_edge he).2

theorem Accepted.wellFormed_of_joinReady (ready : d.JoinReady) : FromWellFormed d s := by
  have inj := (a.alias_inj_iff connected).mp ready.1
  have reached : ∀ u ∈ d.usedDatasets, u ∈ d.primaryId :: ends d.edges := fun u hu =>
    (connected u hu).mem_of_inJoinOrder ready.2
  have distinct : ((d.primaryId :: ends d.edges).map
      (fun u => (clauseOf tables u).aliasName)).Nodup :=
    List.Nodup.map_on (fun u hu v hv => inj u (d.chain_subset_used hu) v (d.chain_subset_used hv))
      (ready.2.nodup (by simp))
  have noCross : s.implicitFrom = [] := by
    rw [List.eq_nil_iff_forall_not_mem]
    intro t ht
    simp only [Sql.Select.implicitFrom, List.mem_dedup, List.mem_filter, decide_eq_true_eq] at ht
    obtain ⟨u, hu, rfl⟩ := (a.mem_mentioned_iff t).mp ht.1
    refine ht.2 ?_
    rw [a.chain_eq]
    exact List.mem_map_of_mem (reached u (d.readDatasets_subset_used hu))
  have items : s.fromItems = (d.primaryId :: ends d.edges).map (clauseOf tables) := by
    rw [Sql.Select.fromItems, noCross, List.append_nil, a.chain_eq]
  refine ⟨fun u hu => ⟨clauseOf tables u, ?_, clauseOf_ident a.loads u, ?_⟩,
    (a.onResolves_iff inj).mpr ready.2.resolves, noCross⟩
  · rw [items]
    exact List.mem_map_of_mem (reached u hu)
  · rw [items, List.map_map]
    exact List.count_eq_one_of_mem distinct (List.mem_map_of_mem (reached u hu))

/-- In join order no ON clause names an alias that is joined only later. -/
theorem Accepted.settled (ready : d.JoinReady) : Sql.Settled s.joins := by
  have inj := (a.alias_inj_iff connected).mp ready.1
  have onEdges : d.edges.Pairwise (fun e f =>
      (clauseOf tables e.1).aliasName ≠ (clauseOf tables f.2).aliasName ∧
        (clauseOf tables e.2).aliasName ≠ (clauseOf tables f.2).aliasName) := by
    refine ready.2.pairwise.1.imp_of_mem (fun he hf h => ?_)
    have usedE := Definition.mem_usedDatasets_of_edge he
    have usedF := Definition.mem_usedDatasets_of_edge hf
    exact ⟨fun h' => h.1 (inj _ usedE.1 _ usedF.2 h'), fun h' => h.2 (inj _ usedE.2 _ usedF.2 h')⟩
  have onEnds : (s.joins.map (fun j => (j.left, j.right))).Pairwise (fun e f =>
      e.1.aliasName ≠ f.2.aliasName ∧ e.2.aliasName ≠ f.2.aliasName) := by
    rw [a.joins_ends, List.pairwise_map]
    exact onEdges
  rw [List.pairwise_map] at onEnds
  exact onEnds

theorem Accepted.chain_distinct (ready : d.JoinReady) :
    (s.chain.map Sql.TableClause.aliasName).Nodup := by
  have inj := (a.alias_inj_iff connected).mp ready.1
  rw [a.chain_eq, List.map_map]
  exact List.Nodup.map_on
    (fun u hu v hv => inj u (d.chain_subset_used hu) v (d.chain_subset_used hv))
    (ready.2.nodup (by simp))

theorem Accepted.fromAccepted (ready : d.JoinReady) : s.fromAccepted = true := by
  have wf := a.wellFormed_of_joinReady connected ready
  rw [Sql.Select.fromAccepted, wf.onResolves, Bool.and_true, Sql.Select.fromItems, wf.noCross,
    List.append_nil]
  exact decide_eq_true (a.chain_distinct connected ready)

end Chain

end SqlBuilder

/-! ## Two listings of the same relationships -/

namespace Definition
variable {d e : Definition} (h : d.Relists e)
include h

theorem Relists.mem {r : Relationship} (hr : r ∈ d.relationships) :
    r ∈ e.relationships ∨ r.flip ∈ e.relationships := by
  obtain ⟨-, mid, perm, related⟩ := h
  obtain ⟨r', hr', rfl | rfl⟩ := Fallible.exists_related related (perm.mem_iff.mp hr)
  · exact .inl hr'
  · exact .inr hr'

theorem Relists.mem_back {r : Relationship} (hr : r ∈ e.relationships) :
    r ∈ d.relationships ∨ r.flip ∈ d.relationships := by
  obtain ⟨-, mid, perm, related⟩ := h
  obtain ⟨r', hr', rfl | rfl⟩ := Fallible.exists_related related.flip hr
  · exact .inl (perm.mem_iff.mpr hr')
  · exact .inr (perm.mem_iff.mpr hr')

theorem Relists.adjacent {e' : Nat × Nat} (he : e' ∈ d.edges) : Adjacent e.edges e'.1 e'.2 := by
  obtain ⟨r, hr, rfl⟩ := List.mem_map.mp he
  rcases h.mem hr with hr | hr
  · exact .inl (List.mem_map_of_mem hr)
  · exact .inr (List.mem_map_of_mem hr)

theorem Relists.adjacent_back {e' : Nat × Nat} (he : e' ∈ e.edges) :
    Adjacent d.edges e'.1 e'.2 := by
  obtain ⟨r, hr, rfl⟩ := List.mem_map.mp he
  rcases h.mem_back hr with hr | hr
  · exact .inl (List.mem_map_of_mem hr)
  · exact .inr (List.mem_map_of_mem hr)

theorem Relists.endpoint {u : Nat} :
    u ∈ d.edges.flatMap (fun f => [f.1, f.2]) ↔ u ∈ e.edges.flatMap (fun f => [f.1, f.2]) := by
  have carry : ∀ {fs gs : List (Nat × Nat)}, (∀ f ∈ fs, Adjacent gs f.1 f.2) →
      u ∈ fs.flatMap (fun f => [f.1, f.2]) → u ∈ gs.flatMap (fun f => [f.1, f.2]) := by
    intro fs gs adjacent hu
    obtain ⟨f, hf, hu⟩ := List.mem_flatMap.mp hu
    simp only [List.mem_cons, List.not_mem_nil, or_false] at hu
    rcases adjacent f hf with hg | hg
    · exact List.mem_flatMap.mpr ⟨_, hg, by simpa using hu⟩
    · exact List.mem_flatMap.mpr ⟨_, hg, by simpa using hu.symm⟩
  exact ⟨carry (fun _ hf => h.adjacent hf), carry (fun _ hf => h.adjacent_back hf)⟩

theorem Relists.datasets : e.datasets = d.datasets := by rw [h.1]

theorem Relists.primaryId : e.primaryId = d.primaryId := by rw [Definition.primaryId, h.datasets]; rfl

theorem Relists.used {u : Nat} : u ∈ d.usedDatasets ↔ u ∈ e.usedDatasets := by
  have others : e.columns = d.columns ∧ e.metrics = d.metrics ∧ e.groupBy = d.groupBy ∧
      e.filters = d.filters ∧ e.orderBy = d.orderBy := by
    rw [h.1]
    exact ⟨rfl, rfl, rfl, rfl, rfl⟩
  obtain ⟨hc, hm, hg, hf, ho⟩ := others
  simp only [Definition.usedDatasets, List.mem_cons, List.mem_append, h.primaryId, hc, hm, hg, hf,
    ho, h.endpoint]

theorem Relists.connected (connected : d.Connected) : e.Connected := by
  intro u hu
  rw [h.primaryId]
  exact (connected u (h.used.mpr hu)).mono (fun f hf => h.adjacent hf)

end Definition

namespace SqlBuilder
open Fallible

/-- A condition and its reverse hold on the same rows. -/
theorem holds_flip {E : Sql.Engine} {env : Sql.Env} {tables : Tables} {r : Relationship}
    {j k : Sql.Join} (hj : joinClause tables r = .ok j) (hk : joinClause tables r.flip = .ok k) :
    k.holds E env = j.holds E env := by
  obtain ⟨left, right, kind, hl, hr, -, -, -, rfl⟩ := joinClause_ok.mp hj
  obtain ⟨left', right', kind', hl', hr', -, -, -, rfl⟩ := joinClause_ok.mp hk
  obtain rfl : right = left' := Option.some.inj (hr.symm.trans hl')
  obtain rfl : left = right' := Option.some.inj (hl.symm.trans hr')
  rw [Bool.eq_iff_iff, Sql.Join.holds_iff, Sql.Join.holds_iff, Sql.eq_eval_comm]
  rfl

section Relisted
variable {env : BuildEnv} {d e : Definition} {tables : Tables} {first : Nat} {s t : Sql.Select}
  {p q : SqlaTable} (a : Accepted env d tables first s p) (b : Accepted env e tables first t q)
  (relists : d.Relists e)
include a b relists

theorem Accepted.relisted_parts :
    t.columns = s.columns ∧ t.groupBy = s.groupBy ∧ t.filters = s.filters ∧ t.limit = s.limit := by
  have shape := relists.1
  obtain ⟨dims, mets, hs, hd, hm⟩ := a.columns
  obtain ⟨dims', mets', ht, hd', hm'⟩ := b.columns
  have groups := b.groups
  have filters := b.filters
  have limit := b.limit
  rw [shape] at hd' hm' groups filters limit
  obtain rfl : dims' = dims := Except.ok.inj (hd'.symm.trans hd)
  obtain rfl : mets' = mets := Except.ok.inj (hm'.symm.trans hm)
  exact ⟨by rw [ht, hs], Except.ok.inj (groups.symm.trans a.groups),
    Except.ok.inj (filters.symm.trans a.filters), limit.trans a.limit.symm⟩

/-- Two inner chains over one set of conditions return the same rows. -/
theorem Accepted.sameResult (connected : d.Connected) (readyD : d.JoinReady) (readyE : e.JoinReady)
    (inner : ∀ r ∈ d.relationships, r.isInner) : SameResult s t := by
  intro E contents blind uncut
  obtain ⟨columns, groups, filters, limit⟩ := a.relisted_parts b relists
  have connectedE := relists.connected connected
  have chains : s.chain.Perm t.chain := by
    rw [a.chain_eq, b.chain_eq]
    refine List.Perm.map _ ((List.perm_ext_iff_of_nodup (readyD.2.nodup (by simp))
      (readyE.2.nodup (by simp))).mpr (fun u => ⟨fun hu => ?_, fun hu => ?_⟩))
    · exact (connectedE u (relists.used.mp (d.chain_subset_used hu))).mem_of_inJoinOrder readyE.2
    · exact (connected u (relists.used.mpr (e.chain_subset_used hu))).mem_of_inJoinOrder readyD.2
  have innerE : ∀ r ∈ e.relationships, r.isInner := by
    intro r hr
    rcases relists.mem_back hr with h | h
    · exact inner r h
    · exact inner r.flip h
  have kinds : ∀ {f : Definition} {u : Sql.Select} {o : SqlaTable},
      Accepted env f tables first u o → (∀ r ∈ f.relationships, r.isInner) →
      ∀ j ∈ u.joins, j.kind = .inner := by
    intro f u o c hinner j hj
    obtain ⟨r, hr, hj⟩ := c.join_of hj
    obtain ⟨left, right, kind, -, -, -, -, hkind, rfl⟩ := joinClause_ok.mp hj
    rw [hinner r hr] at hkind
    exact (Option.some.inj hkind).symm
  have on : ∀ env, (∀ j ∈ s.joins, j.holds E env = true) ↔ ∀ j ∈ t.joins, j.holds E env = true := by
    intro row
    refine ⟨fun h k hk => ?_, fun h j hj => ?_⟩
    · obtain ⟨r, hr, hk⟩ := b.join_of hk
      rcases relists.mem_back hr with hd | hd
      · obtain ⟨j, hj, hrj⟩ := ok_of_mapM a.joins hd
        rw [Except.ok.inj (hk.symm.trans hrj)]
        exact h j hj
      · obtain ⟨j, hj, hrj⟩ := ok_of_mapM a.joins hd
        rw [← holds_flip hk hrj]
        exact h j hj
    · obtain ⟨r, hr, hj⟩ := a.join_of hj
      rcases relists.mem hr with hd | hd
      · obtain ⟨k, hk, hrk⟩ := ok_of_mapM b.joins hd
        rw [Except.ok.inj (hj.symm.trans hrk)]
        exact h k hk
      · obtain ⟨k, hk, hrk⟩ := ok_of_mapM b.joins hd
        rw [← holds_flip hj hrk]
        exact h k hk
  have rows := Sql.Select.sourceRows_perm E contents chains (a.chain_distinct connected readyD)
    (kinds a inner) (kinds b innerE) (a.settled connected readyD) (b.settled connectedE readyE)
    (a.wellFormed_of_joinReady connected readyD).noCross
    (b.wellFormed_of_joinReady connectedE readyE).noCross on filters
  have selected := Sql.Select.selected_perm blind columns groups rows
  obtain ⟨out, hout, hperm⟩ := Sql.Select.run_uncut (a.fromAccepted connected readyD) uncut
  obtain ⟨out', hout', hperm'⟩ := Sql.Select.run_uncut
    (b.fromAccepted connectedE readyE) (by rw [← selected.length_eq, limit]; exact uncut)
  exact ⟨out, out', hout, hout', hperm.trans (selected.trans hperm'.symm)⟩

end Relisted

/-- The relationship loop keeps the FROM clause well formed, and the result of
an all-INNER definition independent of how its relationships are listed, exactly
for the listings that are in join order. -/
theorem fromClause_wellFormed_iff_joinReady {env : BuildEnv} {raw raw' : RawDefinition}
    {s t : Sql.Select} {p q : SqlaTable} (accepted : buildSelect env raw = .ok (s, p))
    (accepted' : buildSelect env raw' = .ok (t, q))
    (relists : (normalizeDefinition raw).Relists (normalizeDefinition raw'))
    (connected : (normalizeDefinition raw).Connected) :
    (FromWellFormed (normalizeDefinition raw) s ∧ FromWellFormed (normalizeDefinition raw') t ∧
      ((∀ r ∈ (normalizeDefinition raw).relationships, r.isInner) → SameResult s t)) ↔
    ((normalizeDefinition raw).JoinReady ∧ (normalizeDefinition raw').JoinReady) := by
  obtain ⟨tables, first, a⟩ := buildSelect_ok.mp accepted
  obtain ⟨tables', first', b⟩ := buildSelect_ok.mp accepted'
  obtain rfl : tables' = tables := by
    have := b.loads
    rw [loadTables_congr relists.datasets, a.loads] at this
    exact (Except.ok.inj this).symm
  obtain rfl : first' = first := by
    rw [← b.primaryId, ← a.primaryId, relists.primaryId]
  have connected' := relists.connected connected
  constructor
  · rintro ⟨hs, ht, -⟩
    exact ⟨a.joinReady_of_wellFormed connected hs, b.joinReady_of_wellFormed connected' ht⟩
  · rintro ⟨readyD, readyE⟩
    exact ⟨a.wellFormed_of_joinReady connected readyD, b.wellFormed_of_joinReady connected' readyE,
      a.sameResult b relists connected readyD readyE⟩

/-! ## Two small definitions -/

/-- Three datasets of one database, each with the columns `k` and `v`. -/
def threeTables : BuildEnv where
  find id := (["a", "b", "c"][id - 1]?).map
    (fun name => ⟨1, none, none, name, none, [], [], none⟩)
  reflect _ := some ["k", "v"]
  reflect_ne := by simp

def joinOn (left right : Nat) : Relationship := ⟨left, "k", right, "k", none⟩

/-- A report on one column of dataset 1. -/
def joinedBy (ids : List Nat) (rels : List Relationship) : RawDefinition :=
  ⟨none, some (ids.map (fun id => ⟨id, none⟩)), some rels, some [⟨1, "v", none⟩], none, none, none,
    none, none⟩

theorem star_connected :
    (normalizeDefinition (joinedBy [1, 2, 3] [joinOn 1 2, joinOn 1 3])).Connected := by
  intro u hu
  have cases : u = 1 ∨ u = 2 ∨ u = 3 := by
    simp [Definition.usedDatasets, Definition.primaryId, Definition.edges, joinedBy, joinOn,
      normalizeDefinition, Relationship.edge] at hu
    tauto
  rcases cases with rfl | rfl | rfl
  · exact Relation.ReflTransGen.refl
  · exact Relation.ReflTransGen.single (.inl (by decide))
  · exact Relation.ReflTransGen.single (.inl (by decide))

/-- A star listed in two orders. -/
theorem star_sameResult : ∃ s t p q,
    buildSelect threeTables (joinedBy [1, 2, 3] [joinOn 1 2, joinOn 1 3]) = .ok (s, p) ∧
    buildSelect threeTables (joinedBy [1, 2, 3] [joinOn 1 3, joinOn 1 2]) = .ok (t, q) ∧
    FromWellFormed (normalizeDefinition (joinedBy [1, 2, 3] [joinOn 1 2, joinOn 1 3])) s ∧
    SameResult s t := by
  have relists : (normalizeDefinition (joinedBy [1, 2, 3] [joinOn 1 2, joinOn 1 3])).Relists
      (normalizeDefinition (joinedBy [1, 2, 3] [joinOn 1 3, joinOn 1 2])) :=
    ⟨rfl, [joinOn 1 3, joinOn 1 2], List.Perm.swap _ _ _,
      .cons (.inl rfl) (.cons (.inl rfl) .nil)⟩
  obtain ⟨s, p, hs⟩ : ∃ s p, buildSelect threeTables
      (joinedBy [1, 2, 3] [joinOn 1 2, joinOn 1 3]) = .ok (s, p) := ⟨_, _, rfl⟩
  obtain ⟨t, q, ht⟩ : ∃ t q, buildSelect threeTables
      (joinedBy [1, 2, 3] [joinOn 1 3, joinOn 1 2]) = .ok (t, q) := ⟨_, _, rfl⟩
  have h := (fromClause_wellFormed_iff_joinReady hs ht relists star_connected).mpr (by decide)
  exact ⟨s, t, p, q, hs, ht, h.1, h.2.2 (by decide)⟩

/-- A relationship written towards the first dataset joins that dataset again. -/
theorem reversedJoin_not_wellFormed : ∃ s p,
    buildSelect threeTables (joinedBy [1, 2] [joinOn 2 1]) = .ok (s, p) ∧
    (normalizeDefinition (joinedBy [1, 2] [joinOn 2 1])).Connected ∧
    ¬FromWellFormed (normalizeDefinition (joinedBy [1, 2] [joinOn 2 1])) s := by
  refine ⟨_, _, rfl, fun u hu => ?_, fun h => ?_⟩
  · have cases : u = 1 ∨ u = 2 := by
      simp [Definition.usedDatasets, Definition.primaryId, Definition.edges, joinedBy, joinOn,
        normalizeDefinition, Relationship.edge] at hu
      tauto
    rcases cases with rfl | rfl
    · exact Relation.ReflTransGen.refl
    · exact Relation.ReflTransGen.single (.inr (by decide))
  · have once := h.eachOnce 1 (by decide)
    revert once
    decide

end SqlBuilder
end XpBuilder
