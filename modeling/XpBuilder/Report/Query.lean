import XpBuilder.Report.FromClause

/-! Running a report. The statement of a definition runs in the database of its
first dataset, under that database's default catalog and schema, so a table
name in it denotes whatever table that database finds under the name. -/

namespace XpBuilder
open PythonText (orElse upper truthy)

/-- What a database assumes for a name that leaves its catalog or schema open. -/
structure Databases where
  defaultCatalog : Nat → Option String
  defaultSchema : Nat → Option String → Option String

/-- The table that a reference denotes in its database. -/
def Databases.locate (D : Databases) (r : TableRef) : TableRef :=
  let catalog := r.catalog.or (D.defaultCatalog r.databaseId)
  ⟨r.databaseId, catalog, r.schema.or (D.defaultSchema r.databaseId catalog), r.name⟩

/-- `get_df(sql)` passes neither a catalog nor a schema. -/
def Databases.resolve (D : Databases) (databaseId : Nat) (t : Sql.TableClause) : TableRef :=
  D.locate ⟨databaseId, none, t.schema, t.name⟩

/-- The rows of every table of every database. -/
abbrev DatabaseState := TableRef → List Sql.Row

/-- `literal` is `compile_sqla_query` with literal binds, for one database. The
values without a literal form were refused when the statement was built. -/
structure QueryEnv where
  databases : Databases
  engine : Nat → Sql.Engine
  literal : Nat → Sql.Select → String

structure ReportResult where
  sql : String
  columns : List String
  rows : List (Dict String Sql.Cell)
  count : Nat
  truncated : Bool

namespace SqlBuilder
open Fallible

/-- `dedup`: a name seen before gets the number of its earlier uses appended. -/
def dedupNames : List String → List String → List String
  | _, [] => []
  | seen, name :: rest =>
    (if name ∈ seen then name ++ "__" ++ toString (seen.count name) else name) ::
      dedupNames (name :: seen) rest

/-- One record of `df.to_dict(orient="records")`. -/
def recordOf (columns : List String) (cells : List Sql.Cell) : Dict String Sql.Cell :=
  (columns.zip cells).foldl (fun acc e => acc.set e.1 e.2) Dict.empty

/-- `get_df`: column names and records; `none` when the database refuses. -/
def getDf (Q : QueryEnv) (state : DatabaseState) (databaseId : Nat) (s : Sql.Select) :
    Option (List String × List (Dict String Sql.Cell)) :=
  let columns := dedupNames [] (s.columns.map Sql.SelectColumn.label)
  (s.run (Q.engine databaseId) (fun t => state (Q.databases.resolve databaseId t))).map
    (fun rows => (columns, rows.map (recordOf columns)))

/-- `execute_report` -/
def executeReport (env : BuildEnv) (Q : QueryEnv) (state : DatabaseState) (raw : RawDefinition) :
    Except BuildError ReportResult := do
  let d := normalizeDefinition raw
  let (s, primary) ← buildSelect env d.toRaw
  let sql := Q.literal primary.databaseId s
  match getDf Q state primary.databaseId s with
  | none => throw (.other sql)
  | some (columns, rows) => pure ⟨sql, columns, rows, rows.length, decide (d.limit ≤ rows.length)⟩

theorem buildSelect_normalized (env : BuildEnv) (raw : RawDefinition) :
    buildSelect env (normalizeDefinition raw).toRaw = buildSelect env raw := by
  simp only [buildSelect, normalizeDefinition_toRaw]

end SqlBuilder

/-! ## One database -/

namespace Definition

/-- Every dataset the document names anywhere. -/
def namedDatasets (d : Definition) : List Nat :=
  d.datasets.map DatasetEntry.id ++ d.usedDatasets

/-- The listed datasets, with those of the two clauses that can pass over an
entry, lie in one database, and the tables of the FROM clause in its default
catalog. -/
def OneDatabase (d : Definition) (env : BuildEnv) (D : Databases) (databaseId : Nat) : Prop :=
  (∀ u ∈ d.datasets.map DatasetEntry.id ++ d.groupBy.map GroupEntry.dataset ++
      d.orderBy.map OrderEntry.dataset,
    ∀ t, env.find u = some t → t.databaseId = databaseId) ∧
  ∀ u ∈ d.fromDatasets env, ∀ t, env.find u = some t →
    t.catalog.or (D.defaultCatalog databaseId) = D.defaultCatalog databaseId

end Definition

/-- Every named dataset belongs to the database that runs the statement, and every
table name of the FROM clause denotes there the table of its dataset. -/
structure ReadsChecked (d : Definition) (env : BuildEnv) (D : Databases) (databaseId : Nat)
    (s : Sql.Select) : Prop where
  sameDatabase : ∀ u ∈ d.namedDatasets, ∀ t, env.find u = some t → t.databaseId = databaseId
  sameTable : ∀ c ∈ s.fromItems, ∀ t, env.find c.ident = some t →
    D.resolve databaseId c = D.locate t.tableRef

theorem Databases.resolve_eq_locate_iff (D : Databases) {databaseId : Nat} {t : SqlaTable}
    (home : t.databaseId = databaseId) {c : Sql.TableClause} (schema : c.schema = truthy t.schema)
    (name : c.name = t.tableName) :
    D.resolve databaseId c = D.locate t.tableRef ↔
      t.catalog.or (D.defaultCatalog databaseId) = D.defaultCatalog databaseId := by
  simp only [resolve, locate, SqlaTable.tableRef, home, schema, name, TableRef.mk.injEq, true_and,
    Option.none_or, and_true]
  constructor
  · exact fun h => h.1.symm
  · intro h
    rw [h]
    exact ⟨rfl, rfl⟩

namespace SqlBuilder
open Fallible
variable {env : BuildEnv} {d : Definition} {tables : Tables} {first : Nat} {s : Sql.Select}
  {p : SqlaTable}

theorem listed_of_exprOf {u : Nat} {column : String} {e : Sql.Expr}
    (loads : loadTables env d = .ok tables) (h : exprOf tables u column = .ok e) :
    u ∈ d.datasets.map DatasetEntry.id := by
  obtain ⟨b, hb, -⟩ := exprOf_ok.mp h
  exact ((loadTables_get loads u).1 b hb).listed

/-- Only GROUP BY and ORDER BY entries can name a dataset that is not listed. -/
theorem Accepted.named_listed (a : Accepted env d tables first s p) {u : Nat}
    (hu : u ∈ d.namedDatasets) :
    u ∈ d.datasets.map DatasetEntry.id ++ d.groupBy.map GroupEntry.dataset ++
      d.orderBy.map OrderEntry.dataset := by
  have listed : ∀ {u}, u ∈ d.datasets.map DatasetEntry.id →
      u ∈ d.datasets.map DatasetEntry.id ++ d.groupBy.map GroupEntry.dataset ++
        d.orderBy.map OrderEntry.dataset := fun h =>
    List.mem_append_left _ (List.mem_append_left _ h)
  obtain ⟨dimensions, metrics, -, hdims, hmets⟩ := a.columns
  simp only [Definition.namedDatasets, Definition.usedDatasets, List.mem_append, List.mem_cons,
    List.mem_map, List.mem_flatMap] at hu
  rcases hu with hu | rfl | ((((hu | hu) | hu) | hu) | hu) | hu
  · exact listed (List.mem_map.mpr hu)
  · obtain ⟨b, hb, -⟩ := a.root
    rw [a.primaryId]
    exact listed ((loadTables_get a.loads first).1 b hb).listed
  · obtain ⟨entry, hentry, rfl⟩ := hu
    obtain ⟨c, -, hc⟩ := ok_of_mapM hdims hentry
    obtain ⟨e, he, -⟩ := dimension_ok.mp hc
    exact listed (listed_of_exprOf a.loads he)
  · obtain ⟨entry, hentry, rfl⟩ := hu
    obtain ⟨c, -, hc⟩ := ok_of_mapM hmets hentry
    obtain ⟨agg, e, -, he, -⟩ := metric_ok.mp hc
    exact listed (listed_of_exprOf a.loads he)
  · obtain ⟨entry, hentry, rfl⟩ := hu
    exact List.mem_append_left _ (List.mem_append_right _ (List.mem_map_of_mem hentry))
  · obtain ⟨entry, hentry, rfl⟩ := hu
    obtain ⟨f, -, hf⟩ := ok_of_mapM a.filters hentry
    obtain ⟨e, he, -⟩ := bind_eq_ok.mp hf
    exact listed (listed_of_exprOf a.loads he)
  · obtain ⟨entry, hentry, rfl⟩ := hu
    exact List.mem_append_right _ (List.mem_map_of_mem hentry)
  · obtain ⟨e, he, hu⟩ := hu
    obtain ⟨r, hr, rfl⟩ := List.mem_map.mp he
    obtain ⟨j, -, hj⟩ := ok_of_mapM a.joins hr
    obtain ⟨left, right, kind, hl, hr, -⟩ := joinClause_ok.mp hj
    simp only [Relationship.edge, List.not_mem_nil, or_false] at hu
    rcases hu with rfl | rfl
    · exact listed ((loadTables_get a.loads _).1 _ hl).listed
    · exact listed ((loadTables_get a.loads _).1 _ hr).listed

theorem named_of_listed {u : Nat}
    (hu : u ∈ d.datasets.map DatasetEntry.id ++ d.groupBy.map GroupEntry.dataset ++
      d.orderBy.map OrderEntry.dataset) : u ∈ d.namedDatasets := by
  simp only [Definition.namedDatasets, Definition.usedDatasets, List.mem_append,
    List.mem_cons] at hu ⊢
  tauto

/-- A FROM item carries the names of a loaded dataset. -/
theorem Accepted.get_of_from (a : Accepted env d tables first s p) {u : Nat}
    (hu : u ∈ d.fromDatasets env) : ∃ b, tables.get u = some b ∧ clauseOf tables u = b.clause ∧
      b.Valid env d u := by
  have loaded : ∃ b, tables.get u = some b := by
    rcases List.mem_append.mp hu with hu | hu
    · rcases List.mem_cons.mp hu with rfl | hu
      · obtain ⟨b, hb, -⟩ := a.root
        exact ⟨b, a.primaryId ▸ hb⟩
      · obtain ⟨e, he, rfl⟩ := List.mem_map.mp hu
        obtain ⟨r, hr, rfl⟩ := List.mem_map.mp he
        obtain ⟨j, -, hj⟩ := ok_of_mapM a.joins hr
        obtain ⟨left, right, kind, -, hr, -⟩ := joinClause_ok.mp hj
        exact ⟨right, hr⟩
    · have listed : u ∈ d.datasets.map DatasetEntry.id := by
        obtain ⟨dimensions, metrics, -, hdims, hmets⟩ := a.columns
        simp only [Definition.readDatasets, List.mem_append, List.mem_map, List.mem_filter] at hu
        rcases hu with (⟨entry, ⟨h, -⟩, rfl⟩ | ⟨entry, ⟨h, -⟩, rfl⟩) | ⟨entry, ⟨h, -⟩, rfl⟩
        · obtain ⟨c, -, hc⟩ := ok_of_mapM hdims h
          obtain ⟨e, he, -⟩ := dimension_ok.mp hc
          exact listed_of_exprOf a.loads he
        · obtain ⟨c, -, hc⟩ := ok_of_mapM hmets h
          obtain ⟨agg, e, -, he, -⟩ := metric_ok.mp hc
          exact listed_of_exprOf a.loads he
        · obtain ⟨f, -, hf⟩ := ok_of_mapM a.filters h
          obtain ⟨e, he, -⟩ := bind_eq_ok.mp hf
          exact listed_of_exprOf a.loads he
      exact (loadTables_get a.loads u).2 listed
  obtain ⟨b, hb⟩ := loaded
  exact ⟨b, hb, clauseOf_get hb, (loadTables_get a.loads u).1 b hb⟩

/-- Two databases that both hold a table `users`; dataset 2 is the one of database 2. -/
def twoDatabases : BuildEnv where
  find id :=
    if id = 1 then some ⟨1, none, none, "orders", none, [], [], none⟩
    else if id = 2 then some ⟨2, none, none, "users", none, [], [], none⟩
    else if id = 3 then some ⟨1, none, none, "users", none, [], [], none⟩
    else none
  reflect := threeTables.reflect
  reflect_ne := threeTables.reflect_ne

def plainDatabases : Databases := ⟨fun _ => none, fun _ _ => none⟩

end SqlBuilder
end XpBuilder
