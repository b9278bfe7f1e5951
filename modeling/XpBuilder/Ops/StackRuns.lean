import XpBuilder.Ops.Stack
import XpBuilder.Staging.Storage

/-! What a script does that nobody disturbs: a staging request and a sync do what they do at once. -/

namespace XpBuilder.Ops
open Staging
variable {V : Servers}

/-- A script that nobody disturbs. -/
def alone (V : Servers) {α : Type} (c : Program α) (s : Stack) : Option (α × Stack) := c.run V.serve (fun _ => true) s

@[simp] theorem alone_pure {α : Type} (a : α) (s : Stack) : alone V (pure a) s = some (a, s) := rfl

theorem alone_bind {α β : Type} (c : Program α) (f : α → Program β) (s : Stack) :
    alone V (c >>= f) s = (alone V c s).bind (fun p => alone V (f p.1) p.2) := Script.run_bind

@[simp] theorem alone_send (q : Operation) (s : Stack) : alone V (send q) s = V.serve q s := by
  unfold alone send Script.request Script.run
  cases V.serve q s with
  | none => rfl
  | some answered => rfl

@[simp] theorem staging_put (s : Stack) (p : Place) (t : Option StagedTable) :
    (s.put p t).staging = { s.staging with tables := Staging.put s.staging.tables p t } := by
  have tables : (s.put p t).tables.get = Function.update s.tables.get p t := by
    funext k
    cases t with
    | none =>
      by_cases same : k = p
      · subst same
        simp [Stack.put]
      · simp [Stack.put, same]
    | some t =>
      by_cases same : k = p
      · subst same
        simp [Stack.put]
      · simp [Stack.put, same]
  have datasets : (s.put p t).datasets = s.datasets := by cases t <;> rfl
  unfold Stack.staging
  rw [tables, datasets]
  rfl

/-- The script alone does what `f` does at once, where the server can be reached. -/
def Refines (V : Servers) (server : Nat) {α : Type} (c : Program α) (f : Staging → α × Staging) : Prop :=
  ∀ s, V.reaches s server → ∃ s', alone V c s = some ((f s.staging).1, s') ∧ s'.staging = (f s.staging).2 ∧ V.reaches s' server

variable {server : Nat}

theorem Refines.pure {α : Type} (a : α) : Refines V server (pure a) (fun st => (a, st)) :=
  fun s reach => ⟨s, rfl, rfl, reach⟩

theorem Refines.bind {α β : Type} {c : Program α} {f : Staging → α × Staging} {g : α → Program β}
    {h : α → Staging → β × Staging} (first : Refines V server c f) (later : ∀ a, Refines V server (g a) (h a)) :
    Refines V server (c >>= g) (fun st => h (f st).1 (f st).2) := by
  intro s reach
  obtain ⟨s', ends, same, reach'⟩ := first s reach
  obtain ⟨s'', ends', same', reach''⟩ := later (f s.staging).1 s' reach'
  refine ⟨s'', ?_, ?_, reach''⟩
  · rw [alone_bind, ends, Option.bind_some, ends', same]
  · rw [same', same]

theorem reaches_put (s : Stack) (p : Place) (t : Option StagedTable) (server : Nat) :
    V.reaches (s.put p t) server = V.reaches s server := by cases t <;> rfl

theorem refines_look {p : Place} (here : p.server = server) :
    Refines V server (send (.look p)) (fun st => (st.tables p, st)) := by
  intro s reach
  refine ⟨s, ?_, rfl, reach⟩
  rw [alone_send, Servers.serve, here, if_pos reach]
  rfl

theorem refines_write {d : Database} {p : Place} {frame : Frame} {append : Bool} {dtypes : List (String × String)}
    (here : p.server = server) : Refines V server (send (.write d p frame append dtypes)) (fun st =>
      ((d.engine.toSql (st.tables p) frame append dtypes).error,
        { st with tables := Staging.put st.tables p (d.engine.toSql (st.tables p) frame append dtypes).table })) := by
  intro s reach
  refine ⟨s.put p (d.engine.toSql (s.tables.get p) frame append dtypes).table, ?_, staging_put _ _ _, ?_⟩
  · rw [alone_send, Servers.serve, here, if_pos reach]
    rfl
  · rwa [reaches_put]

theorem refines_drop {p : Place} (here : p.server = server) : Refines V server (send (.drop p)) (fun st =>
    ((), { st with tables := Staging.put st.tables p none })) := by
  intro s reach
  refine ⟨s.put p none, ?_, staging_put _ _ _, ?_⟩
  · rw [alone_send, Servers.serve, here, if_pos reach]
  · rwa [reaches_put]

/-! ## The scripts -/

theorem refines_registerDataset (env : StagingEnv) (databaseId : Nat) (schema : Option String) (name : String) :
    Refines V server (registerDataset env databaseId schema name) (fun st =>
      ((register env databaseId schema name st.datasets).1,
        { st with datasets := (register env databaseId schema name st.datasets).2 })) := by
  intro s reach
  have start : alone V (send (.findDatasets databaseId schema name)) s =
      some (Staging.findDatasets s.datasets databaseId schema name, s) := rfl
  unfold registerDataset register
  rw [alone_bind, start, Option.bind_some]
  dsimp only [Stack.staging]
  match found : Staging.findDatasets s.datasets databaseId schema name with
  | [k] => exact ⟨_, rfl, rfl, reach⟩
  | _ :: _ :: _ => exact ⟨s, rfl, rfl, reach⟩
  | [] =>
    dsimp only
    cases refused : env.refused with
    | none => exact ⟨_, rfl, rfl, reach⟩
    | some e =>
      have added : alone V (send (.addDataset (Sync.newDataset databaseId schema name) (some e))) s =
          some (.error e, s) := rfl
      rw [alone_bind, added, Option.bind_some]
      dsimp only
      split_ifs with taken
      · rw [alone_bind, start, Option.bind_some, found]
        exact ⟨s, rfl, rfl, reach⟩
      · exact ⟨s, rfl, rfl, reach⟩

theorem Refines.congr {α : Type} {c : Program α} {f g : Staging → α × Staging} (refines : Refines V server c f)
    (same : ∀ st, f st = g st) : Refines V server c g := by
  rw [← funext same]
  exact refines

theorem refines_stageFrame (env : StagingEnv) (databaseId : Nat) (d : Database) (schema : Option String) (clean : String)
    (columns : List String) (append : Bool) (frame : Frame) :
    Refines V d.server (stageFrame env databaseId d schema clean columns append frame) (fun st =>
      let target : Place := ⟨d.server, d.engine.schemaOf schema, clean⟩
      let written := d.engine.toSql (st.tables target) frame append
        (if append then [] else stagingDtypes frame d.engine.dialect)
      let staged : Staging := { st with tables := Staging.put st.tables target written.table }
      match written.error with
      | some e => (.error s!"Could not write staging table (is the database writable?): {e}", staged)
      | none =>
        ((register env databaseId schema clean staged.datasets).1.map (fun k => ⟨k, clean, frame.height, columns, append⟩),
          { staged with datasets := (register env databaseId schema clean staged.datasets).2 })) := by
  have wrote : Refines V d.server (send (.write d ⟨d.server, d.engine.schemaOf schema, clean⟩ frame append
      (if append then [] else stagingDtypes frame d.engine.dialect))) _ := refines_write rfl
  refine (Refines.bind wrote (fun failed => (?_ : Refines V d.server _ (fun st =>
    match failed with
    | some e => (.error s!"Could not write staging table (is the database writable?): {e}", st)
    | none =>
      ((register env databaseId schema clean st.datasets).1.map (fun k => ⟨k, clean, frame.height, columns, append⟩),
        { st with datasets := (register env databaseId schema clean st.datasets).2 }))))).congr (fun st => ?_)
  · cases failed with
    | some e => exact Refines.pure _
    | none => exact Refines.bind (refines_registerDataset env databaseId schema clean) (fun registered => Refines.pure _)
  · dsimp only
    cases (d.engine.toSql (st.tables ⟨d.server, d.engine.schemaOf schema, clean⟩) frame append
      (if append then [] else stagingDtypes frame d.engine.dialect)).error <;> rfl

theorem refines_ingestExcel (env : StagingEnv) (databaseId : Nat) (d : Database) (r : UploadRequest) :
    Refines V d.server (ingestExcel env databaseId d r) (Staging.ingestExcel env databaseId d r) := by
  unfold ingestExcel
  dsimp only
  cases read : readDataframe env.pandas r.content r.filename with
  | none =>
    refine (Refines.pure _).congr (fun st => ?_)
    rw [Staging.ingestExcel, read]
  | some file =>
    dsimp only
    by_cases empty : file.isEmpty = true
    · rw [if_pos empty]
      refine (Refines.pure _).congr (fun st => ?_)
      rw [Staging.ingestExcel, read]
      simp only [empty, if_true]
    · rw [if_neg empty]
      by_cases append : PythonText.lower r.mode = "append"
      · simp only [append, decide_true, if_true]
        have looked : Refines V d.server (send (.look (d.placeOf r.schema (stagingName r.tableName env.stamp)))) _ :=
          refines_look rfl
        refine (Refines.bind looked (fun existing =>
          refines_stageFrame env databaseId d r.schema _ _ true _)).congr (fun st => ?_)
        rw [Staging.ingestExcel, read]
        simp only [empty, append, decide_true, if_true]
        rfl
      · simp only [append, decide_false]
        refine (refines_stageFrame env databaseId d r.schema _ _ false _).congr (fun st => ?_)
        rw [Staging.ingestExcel, read]
        simp only [empty, append, decide_false]
        rfl

theorem refines_create {d : Database} {p : Place} {definition : TableSchema.TableDef} (here : p.server = server) :
    Refines V server (send (.create d p definition)) (fun st =>
      match st.tables p with
      | some _ => (.error "table already exists", st)
      | none =>
        match d.engine.create definition with
        | .error e => (.error e, st)
        | .ok t => (.ok (), { st with tables := Staging.put st.tables p (some t) })) := by
  intro s reach
  dsimp only [Stack.staging]
  rw [alone_send, Servers.serve, here, if_pos reach]
  cases s.tables.get p with
  | some _ => exact ⟨s, rfl, rfl, reach⟩
  | none =>
    cases d.engine.create definition with
    | error e => exact ⟨s, rfl, rfl, reach⟩
    | ok t => exact ⟨s.put p (some t), rfl, staging_put _ _ _, by rwa [reaches_put]⟩

theorem refines_rebuildTable (d : Database) (target : Place) (plan : Rebuild) (here : target.server = server) :
    Refines V server (rebuildTable d target plan) (fun st =>
      ((rebuild d target plan st.tables).1, { st with tables := (rebuild d target plan st.tables).2 })) := by
  unfold rebuildTable
  by_cases drops : plan.drops = true
  · rw [if_pos drops]
    refine (Refines.bind (refines_drop here) (fun _ => refines_create here)).congr (fun st => ?_)
    simp only [rebuild, drops, if_true, Staging.put, Function.update_self]
    cases d.engine.create plan.definition <;> rfl
  · rw [if_neg drops]
    refine (Refines.bind (Refines.pure ()) (fun _ => refines_create here)).congr (fun st => ?_)
    simp only [rebuild, drops, Bool.false_eq_true, if_false]
    cases st.tables target with
    | some _ => rfl
    | none => cases d.engine.create plan.definition <;> rfl

/-- A request that is refused before it looks does not need the table. -/
theorem planRebuild_unread {d : Database} {r : PrepareRequest} (malformed : ¬(TableSchema.cleanName r.table ≠ "" ∧ r.columns ≠ [] ∧
    TableSchema.isMysql (PythonText.lower d.engine.dialect) = true)) (tables tables' : Tables) :
    planRebuild d r tables = planRebuild d r tables' := by
  unfold planRebuild
  dsimp only
  by_cases named : TableSchema.cleanName r.table = ""
  · rw [if_pos named, if_pos named]
  · by_cases columns : r.columns = []
    · rw [if_neg named, if_neg named, if_pos columns, if_pos columns]
    · have other : TableSchema.isMysql (PythonText.lower d.engine.dialect) = false := by
        by_contra mysql
        exact malformed ⟨named, columns, by simpa using mysql⟩
      rw [if_neg named, if_neg named, if_neg columns, if_neg columns, if_pos other, if_pos other]

theorem planRebuild_seen (d : Database) (r : PrepareRequest) (tables : Tables) :
    planRebuild d r (fun _ => tables (d.placeOf r.schema (TableSchema.cleanName r.table))) = planRebuild d r tables := rfl

/-- `prepareTable` after the comparison -/
def carriedOut (d : Database) (r : PrepareRequest) (planned : Except String (Option Rebuild)) (st : Staging) :
    Except String Prepared × Staging :=
  match planned with
  | .error e => (.error e, st)
  | .ok none => (.ok ⟨TableSchema.cleanName r.table, false, false, true, r.columns.length, 0, []⟩, st)
  | .ok (some plan) =>
    let done := rebuild d (d.target (PythonText.truthy r.schema) (TableSchema.cleanName r.table)) plan st.tables
    (done.1.map (fun _ => ⟨TableSchema.cleanName r.table, true, plan.drops, false, r.columns.length,
      (r.indexes.filter (fun i => !i.primary)).length, plan.warnings⟩), { st with tables := done.2 })

theorem carriedOut_planned (d : Database) (r : PrepareRequest) (st : Staging) :
    carriedOut d r (planRebuild d r st.tables) st =
      ((Staging.prepareTable d r st.tables).1, { st with tables := (Staging.prepareTable d r st.tables).2 }) := by
  unfold Staging.prepareTable
  dsimp only
  generalize planRebuild d r st.tables = planned
  match planned with
  | .error e => rfl
  | .ok none => rfl
  | .ok (some plan) => rfl

theorem refines_carryOut (d : Database) (r : PrepareRequest) (planned : Except String (Option Rebuild)) :
    Refines V d.server (carryOut d r planned) (carriedOut d r planned) := by
  match planned with
  | .error e => exact Refines.pure _
  | .ok none => exact Refines.pure _
  | .ok (some plan) =>
    have rebuilt := refines_rebuildTable (V := V) d (d.target (PythonText.truthy r.schema) (TableSchema.cleanName r.table)) plan rfl
    exact Refines.bind rebuilt (fun made => Refines.pure _)

theorem refines_prepareTable (d : Database) (r : PrepareRequest) :
    Refines V d.server (prepareTable d r) (fun st =>
      ((Staging.prepareTable d r st.tables).1, { st with tables := (Staging.prepareTable d r st.tables).2 })) := by
  unfold prepareTable
  dsimp only
  have read (existing : Option StagedTable) := refines_carryOut (V := V) d r (planRebuild d r (fun _ => existing))
  by_cases wellFormed : TableSchema.cleanName r.table ≠ "" ∧ r.columns ≠ [] ∧
      TableSchema.isMysql (PythonText.lower d.engine.dialect) = true
  · have looked : Refines V d.server (send (.look (d.placeOf r.schema (TableSchema.cleanName r.table)))) _ := refines_look rfl
    rw [if_pos (by simpa [and_assoc] using wellFormed)]
    refine (looked.bind read).congr (fun st => ?_)
    dsimp only
    rw [planRebuild_seen, carriedOut_planned]
  · rw [if_neg (by simpa [and_assoc] using wellFormed)]
    refine ((Refines.pure none).bind read).congr (fun st => ?_)
    rw [← carriedOut_planned, planRebuild_unread wellFormed st.tables (fun _ => none)]

theorem refines_alter {d : Database} {p : Place} {change : KeyChange} (here : p.server = server) :
    Refines V server (send (.alter d p change)) (fun st =>
      match alterTable d p change st.tables with
      | .error e => (.error e, st)
      | .ok tables => (.ok (), { st with tables := tables })) := by
  intro s reach
  dsimp only [Stack.staging, alterTable]
  rw [alone_send, Servers.serve, here, if_pos reach]
  cases s.tables.get p with
  | none => exact ⟨s, rfl, rfl, reach⟩
  | some t =>
    dsimp only
    cases d.engine.alter t change with
    | error e => exact ⟨s, rfl, rfl, reach⟩
    | ok t' => exact ⟨s.put p (some t'), rfl, staging_put _ _ _, by rwa [reaches_put]⟩

/-- The loop of `ensure_indexes` with the tables in its state. -/
def IndexLog.state (log : IndexLog) (tables : Tables) : IndexState :=
  ⟨tables, log.hasPrimary, log.applied, log.skipped, log.failed⟩

def logOf (state : IndexState) : IndexLog := ⟨state.hasPrimary, state.applied, state.skipped, state.failed⟩

theorem ensureIndex_added {d : Database} {target : Place} {coltypes : List (String × String)} {existing : List String}
    {log : IndexLog} {spec : IndexSpec} {change : KeyChange} {name note : String} {tables : Tables}
    (planned : planIndex coltypes existing log.hasPrimary spec = .add change name note) :
    ensureIndex d target coltypes existing (log.state tables) spec =
      match alterTable d target change tables with
      | .error e => (log.added spec name note (.error e)).state tables
      | .ok tables' => (log.added spec name note (.ok ())).state tables' := by
  have start : (log.state tables).hasPrimary = log.hasPrimary ∧ (log.state tables).tables = tables := ⟨rfl, rfl⟩
  rw [ensureIndex, start.1, start.2, planned]
  dsimp only
  cases alterTable d target change tables with
  | error e => rfl
  | ok tables' =>
    dsimp only [IndexLog.added]
    split_ifs <;> rfl

theorem refines_ensureEach (d : Database) (target : Place) (coltypes : List (String × String)) (existing : List String)
    (here : target.server = server) (specs : List IndexSpec) (log : IndexLog) :
    Refines V server (ensureEach d target coltypes existing specs log) (fun st =>
      let done := specs.foldl (ensureIndex d target coltypes existing) (log.state st.tables)
      (logOf done, { st with tables := done.tables })) := by
  induction specs generalizing log with
  | nil => exact Refines.pure log
  | cons spec rest ih =>
    rw [ensureEach]
    cases planned : planIndex coltypes existing log.hasPrimary spec with
    | skip name why =>
      refine (ih (log.skip name why)).congr (fun st => ?_)
      have skipped : ensureIndex d target coltypes existing (log.state st.tables) spec = (log.skip name why).state st.tables := by
        have start : (log.state st.tables).hasPrimary = log.hasPrimary := rfl
        rw [ensureIndex, start, planned]
        rfl
      rw [List.foldl_cons, skipped]
    | add change name note =>
      refine ((refines_alter here).bind (fun made => ih (log.added spec name note made))).congr (fun st => ?_)
      dsimp only
      rw [List.foldl_cons, ensureIndex_added planned]
      cases alterTable d target change st.tables <;> rfl

theorem refines_ensureIndexes (d : Database) (table : String) (schema : Option String) (indexes : List IndexSpec) :
    Refines V d.server (ensureIndexes d table schema indexes) (fun st =>
      ((Staging.ensureIndexes d table schema indexes st.tables).1,
        { st with tables := (Staging.ensureIndexes d table schema indexes st.tables).2 })) := by
  unfold ensureIndexes
  dsimp only
  by_cases named : TableSchema.cleanName table = ""
  · rw [if_pos named]
    refine (Refines.pure _).congr (fun st => ?_)
    rw [Staging.ensureIndexes]
    dsimp only
    rw [if_pos named]
  · rw [if_neg named]
    have looked : Refines V d.server (send (.look (d.placeOf schema (TableSchema.cleanName table)))) _ := refines_look rfl
    refine (looked.bind (fun found => (?_ : Refines V d.server _ (fun st =>
      match found with
      | none => (.error "no such table", st)
      | some t =>
        let done := indexes.foldl (ensureIndex d (d.target (PythonText.truthy schema) (TableSchema.cleanName table)) t.coltypes
          t.indexNames) ⟨st.tables, t.hasPrimary, [], [], []⟩
        (.ok ⟨TableSchema.cleanName table, done.applied, done.skipped, done.failed⟩, { st with tables := done.tables }))))).congr
      (fun st => ?_)
    · cases found with
      | none => exact Refines.pure _
      | some t =>
        have loop := refines_ensureEach (V := V) d (d.target (PythonText.truthy schema) (TableSchema.cleanName table)) t.coltypes
          t.indexNames rfl indexes ⟨t.hasPrimary, [], [], []⟩
        exact loop.bind (fun log => Refines.pure _)
    · rw [Staging.ensureIndexes]
      dsimp only
      rw [if_neg named]
      cases st.tables (d.placeOf schema (TableSchema.cleanName table)) <;> rfl

/-- The script alone does from this state what `f` does at once. -/
def Does (V : Servers) {α : Type} (c : Program α) (f : Staging → α × Staging) (s : Stack) : Prop :=
  ∃ s', alone V c s = some ((f s.staging).1, s') ∧ s'.staging = (f s.staging).2

theorem Does.map {α β : Type} {c : Program α} {f : Staging → α × Staging} {s : Stack} (does : Does V c f s) (g : α → β) :
    Does V (do let done ← c; pure (g done)) (fun st => (g (f st).1, (f st).2)) s := by
  obtain ⟨s', ends, same⟩ := does
  refine ⟨s', ?_, same⟩
  rw [alone_bind, ends]
  rfl

theorem Refines.does {α : Type} {c : Program α} {f : Staging → α × Staging} (refines : Refines V server c f) {s : Stack}
    (reach : V.reaches s server = true) : Does V c f s := by
  obtain ⟨s', ends, same, -⟩ := refines s reach
  exact ⟨s', ends, same⟩

theorem onTable_does {α : Type} (env : StagingEnv) (databaseId : Nat) (table : Option String)
    {work : Database → String → Program (Except String α)} {f : Database → String → Tables → Except String α × Tables}
    (refines : ∀ d name, Refines V d.server (work d name) (fun st =>
      ((f d name st.tables).1, { st with tables := (f d name st.tables).2 }))) {s : Stack}
    (reach : ∀ d, Staging.database env databaseId = some d → V.reaches s d.server = true) :
    Does V (onTable env databaseId table work) (Staging.onTable env databaseId table f) s := by
  unfold onTable Staging.onTable
  cases found : Staging.database env databaseId with
  | none => exact ⟨s, rfl, rfl⟩
  | some d =>
    dsimp only
    split_ifs
    · exact ⟨s, rfl, rfl⟩
    · exact (refines d _).does (reach d found)

theorem apiUpload_does (env : StagingEnv) (databaseId : Nat) (form : UploadForm) {s : Stack}
    (reach : ∀ d, Staging.database env databaseId = some d → V.reaches s d.server = true) :
    Does V (apiUpload env databaseId form) (Staging.apiUpload env databaseId form) s := by
  unfold apiUpload Staging.apiUpload
  cases form.file with
  | none => exact ⟨s, rfl, rfl⟩
  | some file =>
    cases found : Staging.database env databaseId with
    | none => exact ⟨s, rfl, rfl⟩
    | some d => exact (refines_ingestExcel env databaseId d (form.request file)).does (reach d found)

/-- A staging request alone does what it does at once, where its server can be reached. -/
theorem respond_alone (env : StagingEnv) (request : StagingRequest) (s : Stack)
    (reach : ∀ d, Staging.database env request.databaseId = some d → V.reaches s d.server = true) :
    Does V (respond env request) (fun st => Staging.respond env st request) s := by
  cases request with
  | ensureIndexes databaseId table schema indexes =>
    exact (onTable_does env databaseId table
      (fun d name => refines_ensureIndexes d name (cleanSchema schema) indexes) reach).map _
  | prepareTable databaseId table schema payload =>
    exact (onTable_does env databaseId table
      (fun d name => refines_prepareTable d (payload.request name schema)) reach).map _
  | upload databaseId form =>
    exact (apiUpload_does env databaseId form reach).map _

/-- A stack whose upload store is there, and a request to it. -/
def idsStack : Stack := ⟨Dict.empty, Table.empty, none, some uploadRole, Dict.empty, false⟩

def idsEnv : StagingEnv where
  user := some 2
  databases id := if id = 1 then some ⟨0, true, storing plain Reader.verbatim⟩ else none
  pandas := commaFiles Reader.verbatim
  stamp := "20250102_000000"
  external := some
  refused := none

def idsUpload : StagingRequest := .upload 1 ⟨some ("id\n5", some "ids.csv"), some "ids", none, none⟩

theorem respond_alone_ids :
    Does ⟨0, 1⟩ (respond idsEnv idsUpload) (fun st => Staging.respond idsEnv st idsUpload) idsStack := by
  apply respond_alone
  intro d found
  have only : d = ⟨0, true, storing plain Reader.verbatim⟩ := (Option.some.inj found).symm
  rw [only]
  rfl

/-! ## The sync -/

/-- The loop of `sync_tables` with the datasets in its state. -/
def SyncLog.state (log : SyncLog) (datasets : Table SqlaTable) : SyncState :=
  ⟨datasets, log.existing, log.created, log.skipped, log.failed⟩

def syncLogOf (state : SyncState) : SyncLog := ⟨state.existing, state.created, state.skipped, state.failed⟩

theorem syncTable_added {env : SyncEnv} {databaseId : Nat} {name : String} {log : SyncLog} {datasets : Table SqlaTable}
    (missing : name ∉ log.existing) (accepted : env.registers name = none) :
    Sync.syncTable env databaseId (log.state datasets) name =
      SyncLog.state { log with existing := name :: log.existing, created := log.created ++ [name] }
        ((datasets.insert (Sync.newDataset databaseId none name)).update datasets.next (withColumns env name)) := by
  have absent : name ∉ (log.state datasets).existing := missing
  rw [Sync.syncTable, if_neg absent, accepted]
  dsimp only [SyncLog.state]
  congr 1
  unfold Sync.fetchColumns
  rw [Table.get_insert_next, Option.bind_some]
  -- the fetch sees the dataset that was added
  have seen (t : SqlaTable) (there : (datasets.insert (Sync.newDataset databaseId none name)).get datasets.next = some t) :
      t = Sync.newDataset databaseId none name := Option.some.inj (there.symm.trans (Table.get_insert_next datasets _))
  cases found : env.server.external (Sync.newDataset databaseId none name) with
  | none =>
    symm
    apply Table.update_eq_self
    intro t there
    rw [seen t there, withColumns, found]
  | some ext =>
    cases stored : env.stores name with
    | some e =>
      symm
      apply Table.update_eq_self
      intro t there
      rw [seen t there, withColumns, found, stored]
    | none =>
      apply Table.update_congr
      intro t there
      rw [seen t there, withColumns, found, stored]

theorem refines_syncEach (env : SyncEnv) (databaseId : Nat) (names : List String) (log : SyncLog) :
    Refines V server (syncEach env databaseId names log) (fun st =>
      let done := names.foldl (Sync.syncTable env databaseId) (log.state st.datasets)
      (syncLogOf done, { st with datasets := done.datasets })) := by
  induction names generalizing log with
  | nil => exact Refines.pure log
  | cons name rest ih =>
    rw [syncEach]
    by_cases known : name ∈ log.existing
    · rw [if_pos known]
      refine (ih { log with skipped := log.skipped + 1 }).congr (fun st => ?_)
      have there : name ∈ (log.state st.datasets).existing := known
      rw [List.foldl_cons, Sync.syncTable, if_pos there]
      rfl
    · rw [if_neg known]
      cases accepted : env.registers name with
      | some e =>
        intro s reach
        obtain ⟨s', ends, same, reach'⟩ := ih { log with failed := log.failed ++ [(name, e)] } s reach
        have refused : alone V (send (.addDataset (Sync.newDataset databaseId none name) (some e))) s = some (.error e, s) := rfl
        have turn : Sync.syncTable env databaseId (log.state s.datasets) name =
            SyncLog.state { log with failed := log.failed ++ [(name, e)] } s.datasets := by
          rw [Sync.syncTable, if_neg (show name ∉ (log.state s.datasets).existing from known), accepted]
          rfl
        refine ⟨s', ?_, ?_, reach'⟩
        · rw [alone_bind, refused, Option.bind_some]
          dsimp only [Stack.staging] at ends ⊢
          rw [ends, List.foldl_cons, turn]
        · dsimp only [Stack.staging] at same ⊢
          rw [same, List.foldl_cons, turn]
      | none =>
        intro s reach
        have added : alone V (send (.addDataset (Sync.newDataset databaseId none name) none)) s =
            some (.ok s.datasets.next, { s with datasets := s.datasets.insert (Sync.newDataset databaseId none name) }) := rfl
        obtain ⟨s', ends, same, reach'⟩ := ih { log with existing := name :: log.existing, created := log.created ++ [name] }
          { s with
            datasets := (s.datasets.insert (Sync.newDataset databaseId none name)).update s.datasets.next (withColumns env name) } reach
        have turn : Sync.syncTable env databaseId (log.state s.datasets) name = _ := syncTable_added known accepted
        refine ⟨s', ?_, ?_, reach'⟩
        · rw [alone_bind, added, Option.bind_some]
          dsimp only
          rw [alone_bind, alone_send]
          dsimp only [Servers.serve, Option.bind_some, Stack.staging] at ends ⊢
          rw [ends, List.foldl_cons, turn]
        · dsimp only [Stack.staging] at same ⊢
          rw [same, List.foldl_cons, turn]

/-- A sync alone does what it does at once, where the inspector lists the tables of the stack. -/
theorem syncTables_alone (env : SyncEnv) (databaseId : Nat) (d : Database) (s : Stack) (reach : V.reaches s d.server = true)
    (lists : ∀ names, env.listed = .ok names → names = s.listed d) :
    Does V (syncTables env databaseId d) (fun st =>
      ((Sync.syncTables env databaseId st.datasets).1,
        { st with datasets := (Sync.syncTables env databaseId st.datasets).2 })) s := by
  unfold syncTables Does Sync.syncTables
  cases env.databaseName databaseId with
  | none => exact ⟨s, rfl, rfl⟩
  | some name =>
    cases listed : env.listed with
    | error e => exact ⟨s, rfl, rfl⟩
    | ok names =>
      obtain rfl := lists names listed
      have answered : alone V (send (.listTables d)) s = some (s.listed d, s) := by
        rw [alone_send, Servers.serve, if_pos reach]
      have existing : alone V (send (.existingTableNames databaseId)) s =
          some (Sync.existingTableNames s.datasets databaseId, s) := rfl
      obtain ⟨s', ends, same, -⟩ := refines_syncEach (V := V) env databaseId (Sync.sortedNames (s.listed d))
        ⟨Sync.existingTableNames s.datasets databaseId, [], 0, []⟩ s reach
      refine ⟨s', ?_, same⟩
      dsimp only
      rw [alone_bind, answered, Option.bind_some]
      dsimp only
      rw [alone_bind, existing, Option.bind_some]
      dsimp only
      rw [alone_bind, ends]
      rfl

end XpBuilder.Ops
