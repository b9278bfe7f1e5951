import XpBuilder.Library.Percent
import XpBuilder.Library.Scripts
import XpBuilder.Staging.Endpoints
import XpBuilder.Sync.TableSync

/-! One stack, by its database operations: the staging requests, the sync of a database, the provisioner of
the upload store and the backup are scripts of operations, each of which commits at once. The upload store
lies in the metadata instance and has its own database there. -/

namespace XpBuilder.Ops
open Staging

/-- The servers of the databases that a backup dumps besides the metadata. -/
structure Servers where
  uploads : Nat
  mariadb : Nat

/-- The row of `dbs` that receives uploads. -/
structure UploadConnection where
  uri : String
  allowFileUpload : Bool
  exposeInSqllab : Bool
  schemas : List String
  deriving DecidableEq, Repr

/-- The role is known by its password, the upload database by its owner. -/
structure Stack where
  tables : Dict Place StagedTable
  datasets : Table SqlaTable
  role : Option String
  owner : Option String
  connections : Dict String UploadConnection
  mariadbRuns : Bool

def Stack.put (s : Stack) (p : Place) : Option StagedTable → Stack
  | some t => { s with tables := s.tables.set p t }
  | none => { s with tables := s.tables.erase p }

def Stack.staging (s : Stack) : Staging := ⟨s.tables.get, s.datasets⟩

/-- What the inspector lists in the default schema. -/
def Stack.listed (s : Stack) (d : Database) : List String :=
  (s.tables.entries.filter (fun e => e.1.server = d.server && e.1.schema = d.engine.schemaOf none)).map (fun e => e.1.name)

/-- What `pg_dump` and `mariadb-dump` write. -/
abbrev Dump := List (Place × StagedTable)

def Stack.dump (s : Stack) (server : Nat) : Dump := s.tables.entries.filter (fun e => e.1.server = server)

/-- One operation on a database, with what it sends. -/
inductive Operation where
  | look (p : Place)
  | write (d : Database) (p : Place) (frame : Frame) (append : Bool) (dtypes : List (String × String))
  | drop (p : Place)
  | create (d : Database) (p : Place) (definition : TableSchema.TableDef)
  | alter (d : Database) (p : Place) (change : KeyChange)
  | listTables (d : Database)
  | findDatasets (databaseId : Nat) (schema : Option String) (name : String)
  | existingTableNames (databaseId : Nat)
  | addDataset (dataset : SqlaTable) (refused : Option String)
  | fetchMetadata (k : Nat) (fetched : SqlaTable → SqlaTable)
  | findRole
  | createRole (password : String)
  | alterRole (password : String)
  | findOwner
  | createDatabase
  | alterOwner
  | findConnection (name : String)
  | addConnection (name : String) (c : UploadConnection)
  | updateConnection (name : String) (c : UploadConnection)
  | dumpMetadata
  | uploadsPresent
  | dumpUploads
  | mariadbRunning
  | dumpMariadb

namespace Operation

abbrev Answer : Operation → Type
  | look _ => Option StagedTable
  | write _ _ _ _ _ => Option String
  | drop _ => Unit
  | create _ _ _ => Except String Unit
  | alter _ _ _ => Except String Unit
  | listTables _ => List String
  | findDatasets _ _ _ => List Nat
  | existingTableNames _ => List String
  | addDataset _ _ => Except String Nat
  | fetchMetadata _ _ => Unit
  | findRole => Bool
  | createRole _ => Unit
  | alterRole _ => Unit
  | findOwner => Option String
  | createDatabase => Unit
  | alterOwner => Unit
  | findConnection _ => Bool
  | addConnection _ _ => Unit
  | updateConnection _ _ => Unit
  | dumpMetadata => Table SqlaTable × Dict String UploadConnection
  | uploadsPresent => Bool
  | dumpUploads => Dump
  | mariadbRunning => Bool
  | dumpMariadb => Dump

end Operation

/-- `UPLOAD_ROLE`; the upload database has the same name. -/
def uploadRole : String := "xpbuilder_uploads"

namespace Servers
variable (V : Servers)

/-- Whether there is a database to connect to. -/
def reaches (s : Stack) (server : Nat) : Bool :=
  (server ≠ V.uploads || s.owner.isSome) && (server ≠ V.mariadb || s.mariadbRuns)

/-- An operation on the stack; where it fails with an exception that its script does not catch, there is no answer. -/
def serve : (q : Operation) → Stack → Option (q.Answer × Stack)
  | .look p, s => some (if V.reaches s p.server then s.tables.get p else none, s)
  | .write d p frame append dtypes, s =>
    if V.reaches s p.server then
      let written := d.engine.toSql (s.tables.get p) frame append dtypes
      some (written.error, s.put p written.table)
    else some (some "could not connect", s)
  | .drop p, s => if V.reaches s p.server then some ((), s.put p none) else none
  | .create d p definition, s =>
    if V.reaches s p.server then
      match s.tables.get p with
      | some _ => some (.error "table already exists", s)
      | none =>
        match d.engine.create definition with
        | .error e => some (.error e, s)
        | .ok t => some (.ok (), s.put p (some t))
    else none
  | .alter d p change, s =>
    if V.reaches s p.server then
      match s.tables.get p with
      | none => some (.error "table does not exist", s)
      | some t =>
        match d.engine.alter t change with
        | .error e => some (.error e, s)
        | .ok t' => some (.ok (), s.put p (some t'))
    else none
  | .listTables d, s => if V.reaches s d.server then some (s.listed d, s) else none
  | .findDatasets databaseId schema name, s => some (Staging.findDatasets s.datasets databaseId schema name, s)
  | .existingTableNames databaseId, s => some (Sync.existingTableNames s.datasets databaseId, s)
  | .addDataset dataset refused, s =>
    match refused with
    | some e => some (.error e, s)
    | none => some (.ok s.datasets.next, { s with datasets := s.datasets.insert dataset })
  | .fetchMetadata k fetched, s => some ((), { s with datasets := s.datasets.update k fetched })
  | .findRole, s => some (s.role.isSome, s)
  | .createRole password, s => if s.role.isNone then some ((), { s with role := some password }) else none
  | .alterRole password, s => if s.role.isSome then some ((), { s with role := some password }) else none
  | .findOwner, s => some (s.owner, s)
  | .createDatabase, s =>
    if s.role.isSome && s.owner.isNone then some ((), { s with owner := some uploadRole }) else none
  | .alterOwner, s =>
    if s.role.isSome && s.owner.isSome then some ((), { s with owner := some uploadRole }) else none
  | .findConnection name, s => some ((s.connections.get name).isSome, s)
  | .addConnection name c, s =>
    if (s.connections.get name).isNone then some ((), { s with connections := s.connections.set name c }) else none
  | .updateConnection name c, s =>
    if (s.connections.get name).isSome then some ((), { s with connections := s.connections.set name c }) else none
  | .dumpMetadata, s => some ((s.datasets, s.connections), s)
  | .uploadsPresent, s => some (s.owner.isSome, s)
  | .dumpUploads, s => if s.owner.isSome then some (s.dump V.uploads, s) else none
  | .mariadbRunning, s => some (s.mariadbRuns, s)
  | .dumpMariadb, s => if s.mariadbRuns then some (s.dump V.mariadb, s) else none

end Servers

abbrev Program := Script Operation Operation.Answer

def send (q : Operation) : Program q.Answer := Script.request q

/-! ## The staging requests -/

/-- The registration in `ingest_excel`. -/
def registerDataset (env : StagingEnv) (databaseId : Nat) (schema : Option String) (name : String) :
    Program (Except String Nat) := do
  let fetch (k : Nat) : Program (Except String Nat) := do
    let _ : Unit ← send (.fetchMetadata k (fun t => (env.external t).getD t))
    pure (.ok k)
  let found : List Nat ← send (.findDatasets databaseId schema name)
  match found with
  | [k] => fetch k
  | [] =>
    let added : Except String Nat ← send (.addDataset (Sync.newDataset databaseId schema name) env.refused)
    match added with
    | .ok k => fetch k
    | .error e =>
      if e = "IntegrityError" then
        let adopted : List Nat ← send (.findDatasets databaseId schema name)
        match adopted with
        | [k] => fetch k
        | [] => pure (.error e)
        | _ => pure (.error "multiple results")
      else pure (.error e)
  | _ => pure (.error "multiple results")

/-- `ingest_excel` from the write of the frame on -/
def stageFrame (env : StagingEnv) (databaseId : Nat) (d : Database) (schema : Option String) (clean : String)
    (columns : List String) (append : Bool) (frame : Frame) : Program (Except String Ingested) := do
  let dtypes := if append then [] else stagingDtypes frame d.engine.dialect
  let failed : Option String ← send (.write d ⟨d.server, d.engine.schemaOf schema, clean⟩ frame append dtypes)
  match failed with
  | some e => pure (.error s!"Could not write staging table (is the database writable?): {e}")
  | none =>
    let registered ← registerDataset env databaseId schema clean
    pure (registered.map (fun k => ⟨k, clean, frame.height, columns, append⟩))

/-- `ingest_excel` -/
def ingestExcel (env : StagingEnv) (databaseId : Nat) (d : Database) (r : UploadRequest) : Program (Except String Ingested) :=
  let append : Bool := PythonText.lower r.mode = "append"
  match readDataframe env.pandas r.content r.filename with
  | none => pure (.error "Could not read the spreadsheet")
  | some file =>
    if file.isEmpty then pure (.error "The uploaded file has no rows")
    else
      let columns := normalizeColumns [] file.names
      let clean := stagingName r.tableName env.stamp
      if append then do
        let existing : Option StagedTable ← send (.look (d.placeOf r.schema clean))
        stageFrame env databaseId d r.schema clean columns append
          (alignToExisting env.pandas.toReader existing (file.rename columns))
      else stageFrame env databaseId d r.schema clean columns append (file.rename columns)

/-- DROP and CREATE TABLE -/
def rebuildTable (d : Database) (target : Place) (plan : Rebuild) : Program (Except String Unit) := do
  let _ : Unit ← if plan.drops then send (.drop target) else pure ()
  send (.create d target plan.definition)

/-- `prepare_table` after the comparison -/
def carryOut (d : Database) (r : PrepareRequest) : Except String (Option Rebuild) → Program (Except String Prepared)
  | .error e => pure (.error e)
  | .ok none => pure (.ok ⟨TableSchema.cleanName r.table, false, false, true, r.columns.length, 0, []⟩)
  | .ok (some plan) => do
    let clean := TableSchema.cleanName r.table
    let made ← rebuildTable d (d.target (PythonText.truthy r.schema) clean) plan
    pure (made.map (fun _ => ⟨clean, true, plan.drops, false, r.columns.length,
      (r.indexes.filter (fun i => !i.primary)).length, plan.warnings⟩))

/-- `prepare_table` -/
def prepareTable (d : Database) (r : PrepareRequest) : Program (Except String Prepared) := do
  let clean := TableSchema.cleanName r.table
  let wellFormed : Bool := clean ≠ "" && r.columns ≠ [] && TableSchema.isMysql (PythonText.lower d.engine.dialect)
  let existing : Option StagedTable ← if wellFormed then send (.look (d.placeOf r.schema clean)) else pure none
  carryOut d r (planRebuild d r (fun _ => existing))

/-- What the loop of `ensure_indexes` carries on besides the table. -/
structure IndexLog where
  hasPrimary : Bool
  applied : List String
  skipped : List (String × String)
  failed : List (String × String)

def IndexLog.skip (log : IndexLog) (name why : String) : IndexLog := { log with skipped := log.skipped ++ [(name, why)] }

def IndexLog.added (log : IndexLog) (spec : IndexSpec) (name note : String) : Except String Unit → IndexLog
  | .error e => { log with failed := log.failed ++ [(PythonText.orElse spec.name "index", PythonText.clip 200 e)] }
  | .ok _ =>
    let applied : IndexLog := { log with
      hasPrimary := log.hasPrimary || spec.primary
      applied := log.applied ++ [name] }
    if note = "" then applied else applied.skip name note

def ensureEach (d : Database) (target : Place) (coltypes : List (String × String)) (existing : List String) :
    List IndexSpec → IndexLog → Program IndexLog
  | [], log => pure log
  | spec :: rest, log =>
    match planIndex coltypes existing log.hasPrimary spec with
    | .skip name why => ensureEach d target coltypes existing rest (log.skip name why)
    | .add change name note => do
      let made : Except String Unit ← send (.alter d target change)
      ensureEach d target coltypes existing rest (log.added spec name note made)

/-- `ensure_indexes` -/
def ensureIndexes (d : Database) (table : String) (schema : Option String) (indexes : List IndexSpec) :
    Program (Except String Indexed) :=
  let clean := TableSchema.cleanName table
  if clean = "" then pure (.error "table name is required")
  else do
    let existing : Option StagedTable ← send (.look (d.placeOf schema clean))
    match existing with
    | none => pure (.error "no such table")
    | some t =>
      let log ← ensureEach d (d.target (PythonText.truthy schema) clean) t.coltypes t.indexNames indexes
        ⟨t.hasPrimary, [], [], []⟩
      pure (.ok ⟨clean, log.applied, log.skipped, log.failed⟩)

def onTable {α : Type} (env : StagingEnv) (databaseId : Nat) (table : Option String)
    (work : Database → String → Program (Except String α)) : Program (Except String α) :=
  match database env databaseId with
  | none => pure (.error "Database not found")
  | some d =>
    let name := PythonText.strip (PythonText.orElse table "")
    if name = "" then pure (.error "Table name is required") else work d name

/-- `api_upload` -/
def apiUpload (env : StagingEnv) (databaseId : Nat) (form : UploadForm) : Program (Except String Ingested) :=
  match form.file with
  | none => pure (.error "No file provided")
  | some file =>
    match database env databaseId with
    | none => pure (.error "Database not found")
    | some d => ingestExcel env databaseId d (form.request file)

/-- `api_ensure_indexes`, `api_prepare_table` and `api_upload` -/
def respond (env : StagingEnv) : StagingRequest → Program (Except String StagingResult)
  | .ensureIndexes databaseId table schema indexes => do
    let done ← onTable env databaseId table (fun d name => ensureIndexes d name (cleanSchema schema) indexes)
    pure (done.map .indexed)
  | .prepareTable databaseId table schema payload => do
    let done ← onTable env databaseId table (fun d name => prepareTable d (payload.request name schema))
    pure (done.map .prepared)
  | .upload databaseId form => do
    let done ← apiUpload env databaseId form
    pure (done.map .ingested)

/-! ## `sync_tables` -/

/-- What the loop carries on besides the datasets. -/
structure SyncLog where
  existing : List String
  created : List String
  skipped : Nat
  failed : List (String × String)

/-- `fetch_metadata` with its commit; a failure of either is rolled back. -/
def withColumns (env : SyncEnv) (name : String) (t : SqlaTable) : SqlaTable :=
  match env.server.external t, env.stores name with
  | some ext, none => Publish.mergeMetadata env.server ext t
  | _, _ => t

def syncEach (env : SyncEnv) (databaseId : Nat) : List String → SyncLog → Program SyncLog
  | [], log => pure log
  | name :: rest, log =>
    if name ∈ log.existing then syncEach env databaseId rest { log with skipped := log.skipped + 1 }
    else do
      let added : Except String Nat ← send (.addDataset (Sync.newDataset databaseId none name) (env.registers name))
      match added with
      | .error e => syncEach env databaseId rest { log with failed := log.failed ++ [(name, e)] }
      | .ok k =>
        let _ : Unit ← send (.fetchMetadata k (withColumns env name))
        syncEach env databaseId rest { log with existing := name :: log.existing, created := log.created ++ [name] }

/-- `sync_tables` -/
def syncTables (env : SyncEnv) (databaseId : Nat) (d : Database) : Program (Except String SyncSummary) :=
  match env.databaseName databaseId with
  | none => pure (.error s!"Database {databaseId} not found")
  | some name =>
    match env.listed with
    | .error e => pure (.error s!"Could not list tables on {name}: {e}")
    | .ok _ => do
      let listed : List String ← send (.listTables d)
      let existing : List String ← send (.existingTableNames databaseId)
      let names := Sync.sortedNames listed
      let log ← syncEach env databaseId names ⟨existing, [], 0, []⟩
      pure (.ok ⟨databaseId, name, names.length, log.created.length, log.skipped, log.failed, log.created⟩)

/-! ## `ensure_uploads_db.py` -/

/-- The environment of the provisioner, each variable stripped; `derive` is the digest that the password is made of. -/
structure UploadsArgs where
  secretKey : String
  postgresUser : String
  postgresPassword : String
  postgresDb : String
  connectionName : String
  derive : String → String

namespace UploadsArgs
variable (a : UploadsArgs)

/-- `upload_role_password` -/
def password : String := a.derive a.secretKey

/-- `quote_plus` -/
def quotePlus (text : String) : String :=
  String.ofList (text.toList.flatMap (fun c =>
    if c = ' ' then ['+'] else Percent.writeBut (fun c => c.isAlphanum || ['_', '.', '-', '~'].contains c) c))

def uri : String :=
  s!"postgresql+psycopg2://{uploadRole}:{quotePlus a.password}@superset-db:5432/{uploadRole}"

/-- `optional('XPBUILDER_UPLOAD_DB_NAME', DEFAULT_CONNECTION_NAME)` -/
def name : String := PythonText.orElse (some a.connectionName) "File uploads"

def connection : UploadConnection := ⟨a.uri, true, true, ["public"]⟩

end UploadsArgs

def ensureRole (password : String) : Program Unit := do
  let there : Bool ← send .findRole
  if there then send (.alterRole password) else send (.createRole password)

/-- `ensure_role_and_database` -/
def ensureRoleAndDatabase (password : String) : Program Unit := do
  ensureRole password
  let owner : Option String ← send .findOwner
  match owner with
  | none => send .createDatabase
  | some owner => if owner ≠ uploadRole then send .alterOwner else pure ()

/-- `ensure_connection` -/
def ensureConnection (name : String) (c : UploadConnection) : Program Unit := do
  let there : Bool ← send (.findConnection name)
  if there then send (.updateConnection name c) else send (.addConnection name c)

/-- `main` -/
def ensureUploads (a : UploadsArgs) : Program Unit :=
  if a.secretKey = "" || a.postgresDb = "" || a.postgresDb = uploadRole || a.postgresUser = "" || a.postgresPassword = "" then
    .quit
  else do
    ensureRoleAndDatabase a.password
    ensureConnection a.name a.connection

/-! ## Backup and restore -/

structure Dumps where
  metadata : Table SqlaTable × Dict String UploadConnection
  uploads : Option Dump
  mariadb : Option Dump

def uploadsDump : Program (Option Dump) := do
  let present : Bool ← send .uploadsPresent
  if present then do
    let dump : Dump ← send .dumpUploads
    pure (some dump)
  else pure none

def mariadbDump : Program (Option Dump) := do
  let runs : Bool ← send .mariadbRunning
  if runs then do
    let dump : Dump ← send .dumpMariadb
    pure (some dump)
  else pure none

/-- `bin/backup.sh` and `kot5 backup` -/
def backup : Program Dumps := do
  let metadata : Table SqlaTable × Dict String UploadConnection ← send .dumpMetadata
  let uploads ← uploadsDump
  let mariadb ← mariadbDump
  pure ⟨metadata, uploads, mariadb⟩

/-- `restore.sh`, while the services are stopped: tables that are in no dump stay. -/
def Dumps.restore (a : UploadsArgs) (b : Dumps) (s : Stack) : Stack where
  tables := (s.tables.setAll (b.uploads.getD [])).setAll (b.mariadb.getD [])
  datasets := b.metadata.1
  role := if b.uploads.isSome then some a.password else s.role
  owner := if b.uploads.isSome then some uploadRole else s.owner
  connections := if b.uploads.isSome then b.metadata.2.set a.name a.connection else b.metadata.2
  mariadbRuns := b.mariadb.isSome || s.mariadbRuns

end XpBuilder.Ops
