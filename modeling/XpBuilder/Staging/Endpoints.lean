import XpBuilder.Library.Table
import XpBuilder.Library.Sql
import XpBuilder.Metadata
import XpBuilder.Staging.Reader
import XpBuilder.Staging.TableSchema

/-! The three requests that stage tables in a reporting database: upload of a
file, preparation of a table and rebuilding of its indexes. Tables live on
database servers; a request names a registered database, and what it writes goes
to the server of that database, under the schema its connection settles on. -/

namespace XpBuilder
open TableSchema (cleanName)

/-- Where a table lives. -/
structure Place where
  server : Nat
  schema : Option String
  name : String
  deriving DecidableEq, Repr

/-- A table with the definition the inspector reads from it. -/
structure StagedTable where
  columns : List (String × String × Bool)
  primary : List String
  indexes : List (String × Bool × List String)
  rows : List (List Sql.Cell)
  deriving DecidableEq

namespace StagedTable

/-- The types of the columns under their names. -/
def coltypes (t : StagedTable) : List (String × String) := t.columns.map (fun c => (c.1, c.2.1))

def indexNames (t : StagedTable) : List String :=
  t.indexes.map (fun i => PythonText.lower i.1)

/-- The definition without the rows. -/
def shape (t : StagedTable) : StagedTable := { t with rows := [] }

def hasPrimary (t : StagedTable) : Bool := !t.primary.isEmpty

/-- The columns of the UNIQUE indexes. -/
def uniqueColumns (t : StagedTable) : List String :=
  (t.indexes.filter (fun i => i.2.1)).flatMap (fun i => i.2.2)

/-- Whether an empty cell of the column stays NULL. -/
def keepsNull (t : StagedTable) (column : String × String × Bool) : Bool :=
  column.2.2 && column.1 ∈ t.uniqueColumns

end StagedTable

/-- The empty table that a CREATE TABLE declares, as an inspector reports it. -/
def TableSchema.TableDef.declared (d : TableSchema.TableDef) : StagedTable where
  columns := d.columns.map (fun c =>
    (TableSchema.quotedName c.name, c.type, c.nullable && !c.autoIncrement))
  primary := d.primary.map TableSchema.quotedName
  indexes := d.keys.map (fun k => (TableSchema.quotedName k.label, k.unique,
    k.parts.map (fun part => TableSchema.quotedName part.column)))
  rows := []

abbrev Tables := Place → Option StagedTable

/-- What a write of pandas leaves under the name it writes to, and its error. -/
structure Written where
  table : Option StagedTable
  error : Option String

/-- What an ALTER TABLE adds. -/
inductive KeyChange where
  | primary (columns : List String)
  | secondary (key : TableSchema.KeyDef)
  deriving DecidableEq, Repr

def KeyChange.sql (dialect : String) : KeyChange → String
  | .primary columns => "ADD " ++ TableSchema.primarySql dialect columns
  | .secondary key => "ADD " ++ key.sql dialect

/-- The database system behind a registered database: what it makes of a statement
on the one table the statement names. -/
structure Engine where
  dialect : String
  schemaOf : Option String → Option String
  create : TableSchema.TableDef → Except String StagedTable
  alter : StagedTable → KeyChange → Except String StagedTable
  toSql : Option StagedTable → Frame → Bool → List (String × String) → Written

/-- A registered database, as `db.session.get` returns it. -/
structure Database where
  server : Nat
  allowFileUpload : Bool
  engine : Engine

/-- The table an inspector of the connection finds. -/
def Database.placeOf (d : Database) (schema : Option String) (name : String) : Place :=
  ⟨d.server, schema.or (d.engine.schemaOf schema), name⟩

/-- The table that a statement with this qualified name works on. -/
def Database.target (d : Database) (schema : Option String) (clean : String) : Place :=
  ⟨d.server, (schema.map TableSchema.quotedName).or (d.engine.schemaOf none),
    TableSchema.quotedName clean⟩

/-- How pandas takes files apart: a CSV into header and rows, any other into a frame. -/
structure Pandas extends Reader where
  csv : String → Option (List String × List (List String))
  excel : String → Option Frame

/-- The surroundings of a staging request. -/
structure StagingEnv where
  user : Option Nat
  databases : Nat → Option Database
  pandas : Pandas
  stamp : String
  external : SqlaTable → Option SqlaTable
  refused : Option String

structure Staging where
  tables : Tables
  datasets : Table SqlaTable

namespace Staging
open PythonText (truthy orElse strip lower)

def put (tables : Tables) (p : Place) (t : Option StagedTable) : Tables :=
  Function.update tables p t

/-! ## `prepare_table` -/

structure Prepared where
  table : String
  created : Bool
  dropped : Bool
  unchanged : Bool
  columns : Nat
  indexes : Nat
  warnings : List String
  deriving DecidableEq, Repr

structure PrepareRequest where
  table : String
  schema : Option String
  columns : List ColumnSpec
  primaryKey : List String
  indexes : List IndexSpec
  replace : Bool
  createIndexes : Bool
  collation : Option String
  deriving DecidableEq, Repr

/-- `_existing_signature` -/
def existingSignature (t : StagedTable) : Signature :=
  ⟨t.columns.map (fun c => (c.1, TableSchema.plainType c.2.1, c.2.2)), t.primary,
    TableSchema.sortIndexes t.indexes⟩

/-- What `prepare_table` is about to send: whether a DROP comes first, and the
CREATE TABLE after the name. -/
structure Rebuild where
  drops : Bool
  definition : TableSchema.TableDef
  warnings : List String
  deriving DecidableEq, Repr

/-- The statements on the table of this qualified name. -/
def Rebuild.statements (dialect qualified : String) (plan : Rebuild) : List String :=
  (if plan.drops then ["DROP TABLE IF EXISTS " ++ qualified] else []) ++
    [plan.definition.sql dialect qualified]

/-- `prepare_table` up to its first statement; `none` leaves the table alone. -/
def planRebuild (d : Database) (r : PrepareRequest) (tables : Tables) :
    Except String (Option Rebuild) :=
  let clean := cleanName r.table
  if clean = "" then .error "table name is required"
  else if r.columns = [] then .error "column definitions are required"
  else
    let dialect := lower d.engine.dialect
    if TableSchema.isMysql dialect = false then .error s!"unsupported target dialect: {dialect}"
    else do
      let existing := (tables (d.placeOf r.schema clean)).map existingSignature
      let wanted ← TableSchema.wantedSignature r.columns r.primaryKey r.indexes
      if r.replace = false ∧ existing = some wanted then pure none
      else do
        let ddl ← TableSchema.tableDef r.columns r.primaryKey r.indexes r.createIndexes r.collation
        pure (some ⟨existing.isSome, ddl.1, ddl.2⟩)

/-- DROP and CREATE TABLE. The drop lasts even when the table is not created after it. -/
def rebuild (d : Database) (target : Place) (plan : Rebuild) (tables : Tables) :
    Except String Unit × Tables :=
  let dropped := if plan.drops then put tables target none else tables
  match dropped target with
  | some _ => (.error "table already exists", dropped)
  | none =>
    match d.engine.create plan.definition with
    | .error e => (.error e, dropped)
    | .ok t => (.ok (), put dropped target (some t))

/-- `prepare_table` -/
def prepareTable (d : Database) (r : PrepareRequest) (tables : Tables) :
    Except String Prepared × Tables :=
  let clean := cleanName r.table
  match planRebuild d r tables with
  | .error e => (.error e, tables)
  | .ok none => (.ok ⟨clean, false, false, true, r.columns.length, 0, []⟩, tables)
  | .ok (some plan) =>
    let done := rebuild d (d.target (truthy r.schema) clean) plan tables
    (done.1.map (fun _ => ⟨clean, true, plan.drops, false, r.columns.length,
      (r.indexes.filter (fun i => !i.primary)).length, plan.warnings⟩), done.2)

/-! ## `ensure_indexes` -/

structure Indexed where
  table : String
  applied : List String
  skipped : List (String × String)
  failed : List (String × String)
  deriving DecidableEq, Repr

/-- What the loop of `ensure_indexes` carries on. -/
structure IndexState where
  tables : Tables
  hasPrimary : Bool
  applied : List String
  skipped : List (String × String)
  failed : List (String × String)

def IndexState.skip (s : IndexState) (name why : String) : IndexState :=
  { s with skipped := s.skipped ++ [(name, why)] }

/-- Run an ALTER TABLE on the target, if it is there. -/
def alterTable (d : Database) (target : Place) (change : KeyChange) (tables : Tables) :
    Except String Tables :=
  match tables target with
  | none => .error "table does not exist"
  | some t => (d.engine.alter t change).map (fun t' => put tables target (some t'))

/-- What one index comes to: skipped with a reason, or an ADD with the name to
report and the note on a shortened key. -/
inductive IndexPlan where
  | skip (name why : String)
  | add (change : KeyChange) (name note : String)
  deriving DecidableEq, Repr

/-- One turn of the loop up to its ALTER TABLE. -/
def planIndex (coltypes : List (String × String)) (existing : List String) (hasPrimary : Bool)
    (spec : IndexSpec) : IndexPlan :=
  let name := orElse spec.name "index"
  let present := TableSchema.knownColumns spec coltypes
  if present = [] then .skip name "no such columns on the copy"
  else if spec.primary then
    if hasPrimary then .skip "PRIMARY" "already present" else .add (.primary present) "PRIMARY" ""
  else if lower name ∈ existing then .skip name "already present"
  else
    match TableSchema.keyDef spec coltypes with
    | (none, warning) => .skip name (orElse (some warning) "no such columns on the copy")
    | (some key, warning) => .add (.secondary key) name warning

/-- The turn: the key is added, skipped or recorded as failed. -/
def ensureIndex (d : Database) (target : Place) (coltypes : List (String × String))
    (existing : List String) (s : IndexState) (spec : IndexSpec) : IndexState :=
  match planIndex coltypes existing s.hasPrimary spec with
  | .skip name why => s.skip name why
  | .add change name note =>
    match alterTable d target change s.tables with
    | .error e =>
      { s with failed := s.failed ++ [(orElse spec.name "index", PythonText.clip 200 e)] }
    | .ok tables =>
      let applied : IndexState := { s with
        tables := tables
        hasPrimary := s.hasPrimary || spec.primary
        applied := s.applied ++ [name] }
      if note = "" then applied else applied.skip name note

/-- `ensure_indexes` -/
def ensureIndexes (d : Database) (table : String) (schema : Option String)
    (indexes : List IndexSpec) (tables : Tables) : Except String Indexed × Tables :=
  let clean := cleanName table
  if clean = "" then (.error "table name is required", tables)
  else
    match tables (d.placeOf schema clean) with
    | none => (.error "no such table", tables)
    | some t =>
      let start : IndexState := ⟨tables, t.hasPrimary, [], [], []⟩
      let done := indexes.foldl (ensureIndex d (d.target (truthy schema) clean) t.coltypes
        t.indexNames) start
      (.ok ⟨clean, done.applied, done.skipped, done.failed⟩, done.tables)

/-! ## `ingest_excel` -/

structure Ingested where
  datasetId : Nat
  tableName : String
  rows : Nat
  columns : List String
  appended : Bool
  deriving DecidableEq, Repr

structure UploadRequest where
  content : String
  filename : String
  tableName : Option String
  schema : Option String
  mode : String
  deriving DecidableEq, Repr

/-- The loop that appends underscores; every turn makes the name longer, so as
many turns as there are names are enough. -/
def freshen (existing : List String) : Nat → String → String
  | 0, name => name
  | fuel + 1, name => if name ∈ existing then freshen existing fuel (name ++ "_") else name

def isAsciiAlpha (c : Char) : Bool := ('a' ≤ c && c ≤ 'z') || ('A' ≤ c && c ≤ 'Z')

def startsWithLetter (s : String) : Bool := isAsciiAlpha (s.toList.headD ' ')

/-- `value.rstrip("_")` -/
def stripTrailing (cs : List Char) : List Char := (cs.reverse.dropWhile (· = '_')).reverse

/-- The part of `_normalize_column_name` before the loop: a name that starts with a
letter, cut to 60 characters and left without trailing underscores. -/
def columnStem (name : String) : String :=
  let cleaned := cleanName (strip name)
  let lettered := if cleaned = "" then "col"
    else if startsWithLetter cleaned then cleaned else "col_" ++ cleaned
  String.ofList (stripTrailing (lettered.toList.take 60))

/-- `_normalize_column_name` -/
def normalizeColumnName (name : String) (existing : List String) : String :=
  freshen existing existing.length.succ (columnStem name)

/-- The headers, each distinct from those before it. -/
def normalizeColumns : List String → List String → List String
  | _, [] => []
  | existing, name :: rest =>
    let clean := normalizeColumnName name existing
    clean :: normalizeColumns (clean :: existing) rest

/-- The name of the staging table. -/
def stagingName (tableName : Option String) (stamp : String) : String :=
  match truthy tableName with
  | none => "xp_upload_" ++ stamp
  | some name =>
    let clean := cleanName name
    if startsWithLetter clean then clean else "xp_" ++ clean

/-- `_staging_dtypes` -/
def stagingDtypes (frame : Frame) (dialect : String) : List (String × String) :=
  let type := if TableSchema.isMysql (lower dialect) then "LONGTEXT" else "TEXT"
  (frame.columns.filter (fun c => c.2.dtype = .object)).map (fun c => (c.1, type))

def numericPrefixes : List String :=
  ["INT", "BIGINT", "SMALLINT", "TINYINT", "MEDIUMINT", "DECIMAL", "NUMERIC", "FLOAT", "DOUBLE",
    "REAL", "BIT"]

def temporalPrefixes : List String := ["DATE", "DATETIME", "TIMESTAMP", "TIME", "YEAR"]

def textPrefixes : List String := ["CHAR", "VARCHAR", "TEXT", "TINYTEXT", "MEDIUMTEXT", "LONGTEXT"]

def startsWith (value : String) (prefixes : List String) : Bool :=
  prefixes.any (fun p => p.toList.isPrefixOf value.toList)

/-- One column in the loop of `_align_to_existing`. -/
def alignSeries (P : Reader) (t : StagedTable) (column : String × String × Bool) (s : Series) :
    Series :=
  let type := PythonText.upper column.2.1
  if startsWith type numericPrefixes then P.toNumeric s
  else if startsWith type temporalPrefixes then P.toDatetime s
  else if startsWith type textPrefixes then s.blankText (t.keepsNull column)
  else s

/-- `_align_to_existing`; without the table the columns cannot be read and the
frame stays as it is. A column of the table under the same name casts the column. -/
def alignToExisting (P : Reader) (existing : Option StagedTable) (frame : Frame) : Frame :=
  match existing with
  | none => frame
  | some t =>
    ⟨frame.columns.map (fun c => (c.1,
      match t.columns.find? (fun column => column.1 = c.1) with
      | none => c.2
      | some column => alignSeries P t column c.2))⟩

/-- `_read_dataframe` -/
def readDataframe (P : Pandas) (content filename : String) : Option Frame :=
  if ".csv".toList.isSuffixOf (lower filename).toList then
    (P.csv content).map (fun file => P.readCsv file.1 file.2)
  else P.excel content

/-- The datasets `find_dataset` queries for. -/
def findDatasets (datasets : Table SqlaTable) (databaseId : Nat) (schema : Option String)
    (name : String) : List Nat :=
  (datasets.rows.entries.filter (fun e =>
    e.2.databaseId = databaseId ∧ e.2.schema = schema ∧ e.2.tableName = name)).map Prod.fst

/-- Register the staged table. A refused insert looks for a dataset again. -/
def register (env : StagingEnv) (databaseId : Nat) (schema : Option String) (name : String)
    (datasets : Table SqlaTable) : Except String Nat × Table SqlaTable :=
  let fetch (k : Nat) (ds : Table SqlaTable) : Table SqlaTable :=
    ds.update k (fun t => (env.external t).getD t)
  match findDatasets datasets databaseId schema name with
  | [k] => (.ok k, fetch k datasets)
  | [] =>
    match env.refused with
    | some e => (.error e, datasets)
    | none =>
      let k := datasets.next
      (.ok k, fetch k (datasets.insert ⟨databaseId, none, schema, name, none, [], [], none⟩))
  | _ => (.error "multiple results", datasets)

/-- `ingest_excel` -/
def ingestExcel (env : StagingEnv) (databaseId : Nat) (d : Database) (r : UploadRequest)
    (s : Staging) : Except String Ingested × Staging :=
  let append : Bool := lower r.mode = "append"
  match readDataframe env.pandas r.content r.filename with
  | none => (.error "Could not read the spreadsheet", s)
  | some file =>
    if file.isEmpty then (.error "The uploaded file has no rows", s)
    else
      let columns := normalizeColumns [] file.names
      let renamed := file.rename columns
      let clean := stagingName r.tableName env.stamp
      let target : Place := ⟨d.server, d.engine.schemaOf r.schema, clean⟩
      let frame := if append then
        alignToExisting env.pandas.toReader (s.tables (d.placeOf r.schema clean)) renamed
        else renamed
      let dtypes := if append then [] else stagingDtypes frame d.engine.dialect
      let written := d.engine.toSql (s.tables target) frame append dtypes
      let staged : Staging := { s with tables := put s.tables target written.table }
      match written.error with
      | some e => (.error s!"Could not write staging table (is the database writable?): {e}", staged)
      | none =>
        let (registered, datasets) := register env databaseId r.schema clean staged.datasets
        (registered.map (fun k => ⟨k, clean, frame.height, columns, append⟩),
          { staged with datasets := datasets })

/-! ## The views -/

/-- What a staging request answers with. -/
inductive StagingResult where
  | indexed (result : Indexed)
  | prepared (result : Prepared)
  | ingested (result : Ingested)
  deriving DecidableEq, Repr

/-- The schema of a request without line breaks. -/
def cleanSchema (schema : Option String) : Option String :=
  truthy (some (strip (String.ofList
    ((orElse schema "").toList.filter (fun c => c ≠ '\n' ∧ c ≠ '\r')))))

/-- `db.session.get` of a database id, if there is one -/
def database (env : StagingEnv) (databaseId : Nat) : Option Database :=
  if databaseId = 0 then none else env.databases databaseId

/-- The part that both table views share: the database first, then the name. -/
def onTable {α : Type} (env : StagingEnv) (databaseId : Nat) (table : Option String)
    (work : Database → String → Tables → Except String α × Tables) (s : Staging) :
    Except String α × Staging :=
  match database env databaseId with
  | none => (.error "Database not found", s)
  | some d =>
    let name := strip (orElse table "")
    if name = "" then (.error "Table name is required", s)
    else
      let done := work d name s.tables
      (done.1, { s with tables := done.2 })

/-- `api_ensure_indexes` -/
def apiEnsureIndexes (env : StagingEnv) (databaseId : Nat) (table schema : Option String)
    (indexes : List IndexSpec) (s : Staging) : Except String Indexed × Staging :=
  onTable env databaseId table
    (fun d name tables => ensureIndexes d name (cleanSchema schema) indexes tables) s

/-- The body of a `prepare_table` request; `replaceText` is the field of the form. -/
structure PreparePayload where
  columns : List ColumnSpec
  primaryKey : List String
  indexes : List IndexSpec
  replace : Option Bool
  replaceText : Option String
  collation : Option String
  deriving DecidableEq, Repr

/-- The replace flag, from the payload or the text of the form. -/
def PreparePayload.replaces (payload : PreparePayload) : Bool :=
  payload.replace.getD
    (lower (orElse payload.replaceText "true") ∉ ["0", "false", "no"])

def PreparePayload.request (payload : PreparePayload) (name : String) (schema : Option String) :
    PrepareRequest :=
  ⟨name, cleanSchema schema, payload.columns, payload.primaryKey, payload.indexes,
    payload.replaces, true, payload.collation⟩

/-- `api_prepare_table` -/
def apiPrepareTable (env : StagingEnv) (databaseId : Nat) (table schema : Option String)
    (payload : PreparePayload) (s : Staging) : Except String Prepared × Staging :=
  onTable env databaseId table
    (fun d name tables => prepareTable d (payload.request name schema) tables) s

/-- The form of an upload with the file, if one was sent. -/
structure UploadForm where
  file : Option (String × Option String)
  tableName : Option String
  schema : Option String
  mode : Option String
  deriving DecidableEq, Repr

def UploadForm.request (form : UploadForm) (file : String × Option String) : UploadRequest :=
  ⟨file.1, orElse file.2 "upload.xlsx", truthy form.tableName, cleanSchema form.schema,
    lower (orElse form.mode "replace")⟩

/-- `api_upload` -/
def apiUpload (env : StagingEnv) (databaseId : Nat) (form : UploadForm) (s : Staging) :
    Except String Ingested × Staging :=
  match form.file with
  | none => (.error "No file provided", s)
  | some file =>
    match database env databaseId with
    | none => (.error "Database not found", s)
    | some d => ingestExcel env databaseId d (form.request file) s

/-- A request to one of the three views. -/
inductive StagingRequest where
  | ensureIndexes (databaseId : Nat) (table schema : Option String) (indexes : List IndexSpec)
  | prepareTable (databaseId : Nat) (table schema : Option String) (payload : PreparePayload)
  | upload (databaseId : Nat) (form : UploadForm)
  deriving DecidableEq, Repr

def StagingRequest.databaseId : StagingRequest → Nat
  | .ensureIndexes databaseId _ _ _ => databaseId
  | .prepareTable databaseId _ _ _ => databaseId
  | .upload databaseId _ => databaseId

def respond (env : StagingEnv) (s : Staging) : StagingRequest → Except String StagingResult × Staging
  | .ensureIndexes databaseId table schema indexes =>
    let done := apiEnsureIndexes env databaseId table schema indexes s
    (done.1.map .indexed, done.2)
  | .prepareTable databaseId table schema payload =>
    let done := apiPrepareTable env databaseId table schema payload s
    (done.1.map .prepared, done.2)
  | .upload databaseId form =>
    let done := apiUpload env databaseId form s
    (done.1.map .ingested, done.2)

/-- A request and the surroundings it meets. -/
structure StagingCall where
  env : StagingEnv
  request : StagingRequest

def stage (s : Staging) (call : StagingCall) : Staging := (respond call.env s call.request).2

end Staging
end XpBuilder
