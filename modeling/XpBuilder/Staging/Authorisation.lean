import XpBuilder.Library.Runs
import XpBuilder.Staging.Rebuild

/-! Which tables staging requests may write. The views look the database up by its
id alone, so a statement goes to a server that holds a database its user may
write exactly as far as the requests name such a server. Beside that no statement
leaves the table it names. -/

namespace XpBuilder.Staging
open PythonText (truthy orElse strip lower)
open TableSchema (cleanName)

/-! ## One statement, one table -/

/-- The tables differ on `p` at most. -/
def OnlyAt (p : Place) (tables tables' : Tables) : Prop := ∀ q, q ≠ p → tables' q = tables q

namespace OnlyAt
variable {p : Place} {tables tables' tables'' : Tables}

theorem refl (p : Place) (tables : Tables) : OnlyAt p tables tables := fun _ _ => rfl

theorem trans (h : OnlyAt p tables tables') (h' : OnlyAt p tables' tables'') :
    OnlyAt p tables tables'' :=
  fun q other => (h' q other).trans (h q other)

theorem put (tables : Tables) (t : Option StagedTable) : OnlyAt p tables (put tables p t) := by
  intro q other
  simp [Staging.put, other]

end OnlyAt

section
variable (d : Database)

theorem rebuild_onlyAt (target : Place) (plan : Rebuild) (tables : Tables) :
    OnlyAt target tables (rebuild d target plan tables).2 := by
  have dropped : OnlyAt target tables (if plan.drops then put tables target none else tables) := by
    split
    · exact .put tables none
    · exact .refl target tables
  unfold rebuild
  dsimp only
  split
  · exact dropped
  · cases d.engine.create plan.definition with
    | error e => exact dropped
    | ok t => exact dropped.trans (.put _ (some t))

theorem prepareTable_onlyAt (r : PrepareRequest) (tables : Tables) :
    OnlyAt (r.place d) tables (prepareTable d r tables).2 := by
  unfold prepareTable
  cases planRebuild d r tables with
  | error e => exact .refl _ tables
  | ok plan =>
    cases plan with
    | none => exact .refl _ tables
    | some plan => exact rebuild_onlyAt d _ plan tables

/-! ## The loop over the indexes -/

variable {d} {target : Place}

theorem alterTable_onlyAt {change : KeyChange} {tables tables' : Tables}
    (h : alterTable d target change tables = .ok tables') : OnlyAt target tables tables' := by
  unfold alterTable at h
  cases found : tables target with
  | none => simp [found] at h
  | some t =>
    cases altered : d.engine.alter t change with
    | error e => simp [found, altered, Except.map] at h
    | ok t' =>
      simp only [found, altered, Except.map, Except.ok.injEq] at h
      rw [← h]
      exact .put tables (some t')

def IndexPlan.Adds : IndexPlan → Prop
  | .skip _ _ => False
  | .add _ _ _ => True

variable {coltypes : List (String × String)} {existing : List String}

theorem ensureIndex_onlyAt (s : IndexState) (spec : IndexSpec) :
    OnlyAt target s.tables (ensureIndex d target coltypes existing s spec).tables := by
  unfold ensureIndex
  cases planIndex coltypes existing s.hasPrimary spec with
  | skip name why => exact .refl target s.tables
  | add change name note =>
    dsimp only
    cases altered : alterTable d target change s.tables with
    | error e => exact .refl target s.tables
    | ok tables =>
      have only := alterTable_onlyAt altered
      dsimp only
      split <;> exact only

theorem ensureIndex_of_not_adds {s : IndexState} {spec : IndexSpec}
    (h : ¬(planIndex coltypes existing s.hasPrimary spec).Adds) :
    (ensureIndex d target coltypes existing s spec).tables = s.tables ∧
      (ensureIndex d target coltypes existing s spec).hasPrimary = s.hasPrimary := by
  unfold ensureIndex
  cases planned : planIndex coltypes existing s.hasPrimary spec with
  | skip name why => exact ⟨rfl, rfl⟩
  | add change name note => exact absurd (by simp [planned, IndexPlan.Adds]) h

theorem foldl_ensureIndex_onlyAt (indexes : List IndexSpec) (s : IndexState) :
    OnlyAt target s.tables
      (indexes.foldl (ensureIndex d target coltypes existing) s).tables := by
  induction indexes generalizing s with
  | nil => exact .refl target s.tables
  | cons spec rest ih => exact (ensureIndex_onlyAt s spec).trans (ih _)

theorem foldl_ensureIndex_of_not_adds {indexes : List IndexSpec} {s : IndexState}
    (h : ∀ spec ∈ indexes, ¬(planIndex coltypes existing s.hasPrimary spec).Adds) :
    (indexes.foldl (ensureIndex d target coltypes existing) s).tables = s.tables := by
  induction indexes generalizing s with
  | nil => rfl
  | cons spec rest ih =>
    obtain ⟨tables, primary⟩ : (ensureIndex d target coltypes existing s spec).tables = s.tables ∧
        (ensureIndex d target coltypes existing s spec).hasPrimary = s.hasPrimary :=
      ensureIndex_of_not_adds (h spec List.mem_cons_self)
    have later : ∀ next ∈ rest, ¬(planIndex coltypes existing
        (ensureIndex d target coltypes existing s spec).hasPrimary next).Adds := by
      intro next mem
      rw [primary]
      exact h next (List.mem_cons_of_mem spec mem)
    exact (ih later).trans tables

variable (d)

/-- What `ensure_indexes` looks at before it sends a statement: the table is there
and some key is left to add. -/
def IndexesSend (table : String) (schema : Option String) (indexes : List IndexSpec)
    (tables : Tables) : Prop :=
  cleanName table ≠ "" ∧ ∃ t, tables (d.placeOf schema (cleanName table)) = some t ∧
    ∃ spec ∈ indexes, (planIndex t.coltypes t.indexNames t.hasPrimary spec).Adds

theorem ensureIndexes_onlyAt (table : String) (schema : Option String) (indexes : List IndexSpec)
    (tables : Tables) : OnlyAt (d.target (truthy schema) (cleanName table)) tables
      (ensureIndexes d table schema indexes tables).2 := by
  unfold ensureIndexes
  by_cases unnamed : cleanName table = ""
  · simp only [unnamed, if_true]
    exact .refl _ tables
  · simp only [unnamed, if_false]
    cases tables (d.placeOf schema (cleanName table)) with
    | none => exact .refl _ tables
    | some t => exact foldl_ensureIndex_onlyAt indexes _

theorem ensureIndexes_of_not_send {table : String} {schema : Option String}
    {indexes : List IndexSpec} {tables : Tables} (h : ¬IndexesSend d table schema indexes tables) :
    (ensureIndexes d table schema indexes tables).2 = tables := by
  unfold ensureIndexes
  by_cases unnamed : cleanName table = ""
  · simp only [unnamed, if_true]
  · simp only [unnamed, if_false]
    cases found : tables (d.placeOf schema (cleanName table)) with
    | none => rfl
    | some t =>
      refine foldl_ensureIndex_of_not_adds (fun spec mem adds => h ?_)
      exact ⟨unnamed, t, found, spec, mem, adds⟩

/-! ## The upload -/

/-- What `ingest_excel` looks at before it writes: the file has rows. -/
def UploadRequest.Writes (P : Pandas) (r : UploadRequest) : Prop :=
  ∃ file, readDataframe P r.content r.filename = some file ∧ file.isEmpty = false

/-- The table an upload writes. -/
def UploadRequest.place (r : UploadRequest) (stamp : String) : Place :=
  ⟨d.server, d.engine.schemaOf r.schema, stagingName r.tableName stamp⟩

theorem ingestExcel_onlyAt (env : StagingEnv) (databaseId : Nat) (r : UploadRequest) (s : Staging) :
    OnlyAt (r.place d env.stamp) s.tables (ingestExcel env databaseId d r s).2.tables := by
  unfold ingestExcel
  cases readDataframe env.pandas r.content r.filename with
  | none => exact .refl _ s.tables
  | some file =>
    cases rows : file.isEmpty with
    | true =>
      simp only [rows, if_true]
      exact .refl _ s.tables
    | false =>
      simp only [rows, Bool.false_eq_true, if_false]
      split <;> exact .put s.tables _

theorem ingestExcel_of_not_writes {env : StagingEnv} {databaseId : Nat} {r : UploadRequest}
    {s : Staging} (h : ¬r.Writes env.pandas) : (ingestExcel env databaseId d r s).2 = s := by
  unfold ingestExcel
  cases read : readDataframe env.pandas r.content r.filename with
  | none => rfl
  | some file =>
    cases rows : file.isEmpty with
    | true => simp only [rows, if_true]
    | false => exact absurd ⟨file, read, rows⟩ h

end

/-! ## One request -/

/-- The request gets as far as a statement on the database. -/
def StagingRequest.Sends (env : StagingEnv) (tables : Tables) (d : Database) :
    StagingRequest → Prop
  | .ensureIndexes _ table schema indexes =>
    strip (orElse table "") ≠ "" ∧
      IndexesSend d (strip (orElse table "")) (cleanSchema schema) indexes tables
  | .prepareTable _ table schema payload =>
    strip (orElse table "") ≠ "" ∧
      (payload.request (strip (orElse table "")) schema).Sends d tables
  | .upload _ form => ∃ file, form.file = some file ∧ (form.request file).Writes env.pandas

section
variable {α : Type} {env : StagingEnv} {databaseId : Nat} {table : Option String}
  {work : Database → String → Tables → Except String α × Tables} {s : Staging} {p : Place}

theorem onTable_tables_of_none (h : database env databaseId = none) :
    (onTable env databaseId table work s).2.tables = s.tables := by
  simp only [onTable, h]

theorem onTable_tables {d : Database} (h : database env databaseId = some d) :
    (onTable env databaseId table work s).2.tables =
      if strip (orElse table "") = "" then s.tables
      else (work d (strip (orElse table "")) s.tables).2 := by
  simp only [onTable, h]
  split <;> rfl

end

section
variable {s : Staging} {call : StagingCall}

theorem stage_of_unknown (h : database call.env call.request.databaseId = none) :
    (stage s call).tables = s.tables := by
  obtain ⟨env, request⟩ := call
  cases request with
  | ensureIndexes databaseId table schema indexes => exact onTable_tables_of_none h
  | prepareTable databaseId table schema payload => exact onTable_tables_of_none h
  | upload databaseId form =>
    have unknown : database env databaseId = none := h
    simp only [stage, respond, apiUpload]
    cases form.file with
    | none => rfl
    | some file => simp only [unknown]

/-- A table that a request changes lies on the server of the named database. -/
theorem stage_server {d : Database} (h : database call.env call.request.databaseId = some d)
    {p : Place} (changed : (stage s call).tables p ≠ s.tables p) : p.server = d.server := by
  have apart : ∀ {q : Place} {tables : Tables}, OnlyAt q s.tables tables → q.server = d.server →
      tables p ≠ s.tables p → p.server = d.server := by
    intro q tables only server other
    by_contra away
    exact other (only p (fun same => away (same ▸ server)))
  obtain ⟨env, request⟩ := call
  cases request with
  | ensureIndexes databaseId table schema indexes =>
    have named : database env databaseId = some d := h
    simp only [stage, respond, apiEnsureIndexes, onTable_tables named] at changed
    split_ifs at changed with unnamed
    · exact absurd rfl changed
    · exact apart (ensureIndexes_onlyAt d _ _ indexes s.tables) rfl changed
  | prepareTable databaseId table schema payload =>
    have named : database env databaseId = some d := h
    simp only [stage, respond, apiPrepareTable, onTable_tables named] at changed
    split_ifs at changed with unnamed
    · exact absurd rfl changed
    · exact apart (prepareTable_onlyAt d _ s.tables) rfl changed
  | upload databaseId form =>
    have named : database env databaseId = some d := h
    simp only [stage, respond, apiUpload, named] at changed
    cases file : form.file with
    | none =>
      rw [file] at changed
      exact absurd rfl changed
    | some file' =>
      simp only [file] at changed
      exact apart (ingestExcel_onlyAt d env databaseId _ s) rfl changed

theorem stage_of_not_sends {d : Database}
    (h : database call.env call.request.databaseId = some d)
    (quiet : ¬call.request.Sends call.env s.tables d) : (stage s call).tables = s.tables := by
  obtain ⟨env, request⟩ := call
  cases request with
  | ensureIndexes databaseId table schema indexes =>
    have named : database env databaseId = some d := h
    simp only [stage, respond, apiEnsureIndexes, onTable_tables named]
    split_ifs with unnamed
    · rfl
    · exact ensureIndexes_of_not_send d (fun sends => quiet ⟨unnamed, sends⟩)
  | prepareTable databaseId table schema payload =>
    have named : database env databaseId = some d := h
    simp only [stage, respond, apiPrepareTable, onTable_tables named]
    split_ifs with unnamed
    · rfl
    · exact prepareTable_of_not_sends (fun sends => quiet ⟨unnamed, sends⟩)
  | upload databaseId form =>
    have named : database env databaseId = some d := h
    simp only [stage, respond, apiUpload, named]
    cases file : form.file with
    | none => rfl
    | some file' =>
      simp only
      rw [ingestExcel_of_not_writes d (fun writes => quiet ⟨file', file, writes⟩)]

end

/-! ## Runs of requests -/

/-- Which database a user may access. -/
abbrev Access := Option Nat → Nat → Bool

/-- The server holds a database that the user may access and that permits uploads. -/
def Writable (access : Access) (env : StagingEnv) (server : Nat) : Prop :=
  ∃ id d, env.databases id = some d ∧ d.server = server ∧ access env.user id ∧ d.allowFileUpload

/-- Every table the request changes lies in a database its user may write. -/
def StaysWritable (access : Access) (s : Staging) (call : StagingCall) : Prop :=
  ∀ p, (stage s call).tables p ≠ s.tables p → Writable access call.env p.server

/-- A request that gets to a statement names a database on a writable server. -/
def StagingCall.Permitted (access : Access) (s : Staging) (call : StagingCall) : Prop :=
  ∀ d, database call.env call.request.databaseId = some d →
    call.request.Sends call.env s.tables d → Writable access call.env d.server

theorem staysWritable_of_permitted {access : Access} {s : Staging} {call : StagingCall}
    (h : call.Permitted access s) : StaysWritable access s call := by
  intro p changed
  cases named : database call.env call.request.databaseId with
  | none => exact absurd (congrFun (stage_of_unknown named) p) changed
  | some d =>
    have sends : call.request.Sends call.env s.tables d := by
      by_contra quiet
      exact changed (congrFun (stage_of_not_sends named quiet) p)
    rw [stage_server named changed]
    exact h d named sends

def textFiles : Pandas := { Reader.verbatim with
  csv := fun content => some (["id"], [[content]])
  excel := fun _ => none }

def oneServer (upload : Bool) : StagingEnv where
  user := some 1
  databases id := if id = 1 then some ⟨1, upload, willing⟩ else none
  pandas := textFiles
  stamp := "20250101_000000"
  external := some
  refused := none

def gradesLoaded : Staging := ⟨gradesTables, Table.empty⟩

def prepareGrades : StagingRequest :=
  .prepareTable 1 (some "grades") none
    ⟨[⟨some "id", some "int", false, none, none⟩], [], [], none, none, none⟩

def uploadGrades : StagingRequest := .upload 1 ⟨some ("7", some "grades.csv"), some "grades", none, none⟩

end XpBuilder.Staging
