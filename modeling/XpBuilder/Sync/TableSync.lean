import Mathlib.Data.List.Sort
import Mathlib.Data.String.Basic
import XpBuilder.Publish.VirtualDataset

/-! Registration of the tables of a database as datasets. Every table gets a dataset
of its own commit; a table is skipped when some dataset of the database without SQL
has its name. -/

namespace XpBuilder

/-- The surroundings of a sync: the tables that the inspector lists, and for each
table whether the metadata database refuses its dataset or the columns of it. -/
structure SyncEnv where
  server : PublishEnv
  databaseName : Nat → Option String
  listed : Except String (List String)
  registers : String → Option String
  stores : String → Option String

/-- The answer of `sync_tables`. -/
structure SyncSummary where
  databaseId : Nat
  databaseName : String
  total : Nat
  created : Nat
  skipped : Nat
  failed : List (String × String)
  tables : List String
  deriving DecidableEq, Repr

/-- What the loop carries on. -/
structure SyncState where
  datasets : Table SqlaTable
  existing : List String
  created : List String
  skipped : Nat
  failed : List (String × String)

namespace Sync

/-- The dataset of a table before its columns are fetched. -/
def newDataset (databaseId : Nat) (schema : Option String) (name : String) : SqlaTable :=
  ⟨databaseId, none, schema, name, none, [], [], none⟩

/-- `_existing_table_names` -/
def existingTableNames (datasets : Table SqlaTable) (databaseId : Nat) : List String :=
  ((datasets.rows.values.filter (fun d => d.databaseId = databaseId)).filter
    (fun d => d.sql = none)).map SqlaTable.tableName

/-- `sorted(set(names))` -/
def sortedNames (names : List String) : List String := names.dedup.insertionSort (· ≤ ·)

/-- `fetch_metadata` with its commit; a failure of either is rolled back. -/
def fetchColumns (server : PublishEnv) (refused : Option String) (k : Nat)
    (datasets : Table SqlaTable) : Table SqlaTable :=
  match (datasets.get k).bind server.external, refused with
  | some ext, none => datasets.update k (Publish.mergeMetadata server ext)
  | _, _ => datasets

/-- One table in the loop of `sync_tables`. -/
def syncTable (env : SyncEnv) (databaseId : Nat) (s : SyncState) (name : String) : SyncState :=
  if name ∈ s.existing then { s with skipped := s.skipped + 1 }
  else
    match env.registers name with
    | some e => { s with failed := s.failed ++ [(name, e)] }
    | none =>
      { s with
        datasets := fetchColumns env.server (env.stores name) s.datasets.next
          (s.datasets.insert (newDataset databaseId none name))
        existing := name :: s.existing
        created := s.created ++ [name] }

/-- `sync_tables` -/
def syncTables (env : SyncEnv) (databaseId : Nat) (datasets : Table SqlaTable) :
    Except String SyncSummary × Table SqlaTable :=
  match env.databaseName databaseId with
  | none => (.error s!"Database {databaseId} not found", datasets)
  | some name =>
    match env.listed with
    | .error e => (.error s!"Could not list tables on {name}: {e}", datasets)
    | .ok listed =>
      let names := sortedNames listed
      let start : SyncState := ⟨datasets, existingTableNames datasets databaseId, [], 0, []⟩
      let s := names.foldl (syncTable env databaseId) start
      (.ok ⟨databaseId, name, names.length, s.created.length, s.skipped, s.failed, s.created⟩,
        s.datasets)

theorem mem_sortedNames {names : List String} {name : String} :
    name ∈ sortedNames names ↔ name ∈ names := by
  rw [sortedNames, List.mem_insertionSort, List.mem_dedup]

theorem sortedNames_nodup (names : List String) : (sortedNames names).Nodup :=
  (List.perm_insertionSort (· ≤ ·) names.dedup).nodup_iff.mpr (List.nodup_dedup names)

theorem mem_existingTableNames {datasets : Table SqlaTable} {databaseId : Nat} {name : String} :
    name ∈ existingTableNames datasets databaseId ↔
      ∃ k d, datasets.get k = some d ∧ d.databaseId = databaseId ∧ d.sql = none ∧
        d.tableName = name := by
  simp only [existingTableNames, Dict.values, List.mem_map, List.mem_filter, decide_eq_true_eq]
  constructor
  · rintro ⟨d, ⟨⟨⟨e, mem, rfl⟩, database⟩, unset⟩, named⟩
    exact ⟨e.1, e.2, (datasets.rows.get_eq_some_iff e.1 e.2).mpr mem, database, unset, named⟩
  · rintro ⟨k, d, found, database, unset, named⟩
    exact ⟨d, ⟨⟨⟨(k, d), (datasets.rows.get_eq_some_iff k d).mp found, rfl⟩, database⟩, unset⟩, named⟩

/-! ## What a fetch leaves alone -/

/-- A property of datasets that does not look at columns and metrics. -/
def SeesIdentity (p : SqlaTable → Bool) : Prop :=
  ∀ (server : PublishEnv) ext d, p (Publish.mergeMetadata server ext d) = p d

theorem fetchColumns_keysWhere (server : PublishEnv) (refused : Option String) (k : Nat)
    (datasets : Table SqlaTable) {p : SqlaTable → Bool} (sees : SeesIdentity p) :
    (fetchColumns server refused k datasets).keysWhere p = datasets.keysWhere p := by
  unfold fetchColumns
  split
  · exact datasets.keysWhere_update k (sees server _)
  · rfl

end Sync
end XpBuilder
