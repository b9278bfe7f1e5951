import XpBuilder.Ops.SideJobs
import XpBuilder.Staging.Storage

/-! Backups of a stack while uploads, preparations, syncs and provisioners work on it. -/

namespace XpBuilder.Ops.Site
open Staging
open Relation (ReflTransGen)
variable {S : Site} {P : Fact S} {refused : Operation → Stack → Prop}

/-! ## The staging requests -/

theorem run_registerDataset {env : StagingEnv} (same : SameTable (fun t => (env.external t).getD t)) {databaseId : Nat}
    {schema : Option String} {name : String} (there : ∀ s, P.holds s → ∀ d, S.databases databaseId = some d →
      d.server = S.servers.uploads → (s.tables.get (d.placeOf schema name)).isSome) :
    Run S refused P (registerDataset env databaseId schema name) (fun _ => P) := by
  have fetch (k : Nat) : Run S refused P (do
      let _ : Unit ← send (.fetchMetadata k (fun t => (env.external t).getD t))
      pure (.ok k : Except String Nat)) (fun _ => P) := by
    apply (run_fetchMetadata same).bind
    intro _
    exact Run.pure (fun _ => id)
  have find : Run S refused P (send (.findDatasets databaseId schema name)) (fun _ => P) := run_look (fun s => ⟨_, rfl⟩)
  apply find.bind
  intro found
  match found with
  | [k] => exact fetch k
  | _ :: _ :: _ => exact Run.pure (fun _ => id)
  | [] =>
    apply (run_addDataset there).bind
    intro added
    cases added with
    | ok k => exact fetch k
    | error e =>
      dsimp only
      split_ifs
      · apply find.bind
        intro adopted
        match adopted with
        | [k] => exact fetch k
        | [] => exact Run.pure (fun _ => id)
        | _ :: _ :: _ => exact Run.pure (fun _ => id)
      · exact Run.pure (fun _ => id)

/-- The table of an upload that was done. -/
def Fact.ingested (d : Database) (schema : Option String) (done : Except String Ingested) : Fact S :=
  .every (fun i => .when (done = .ok i) (.there (d.placeOf schema i.tableName)))

/-- On the upload store, the place that pandas writes to is the one that the dataset names. -/
theorem there_written (transactional : S.Transactional) {i : Nat} {d : Database} (found : S.databases i = some d)
    {schema : Option String} {clean : String} {s : Stack}
    (there : (Fact.there (S := S) ⟨d.server, d.engine.schemaOf schema, clean⟩).holds s) :
    (Fact.there (S := S) (d.placeOf schema clean)).holds s := by
  intro uploads
  have place : d.placeOf schema clean = ⟨d.server, d.engine.schemaOf schema, clean⟩ := by
    unfold Database.placeOf
    cases schema with
    | none => rw [Option.none_or]
    | some schema => rw [transactional.schemaOf i d found uploads, Option.some_or]
  rw [place]
  exact there uploads

theorem run_stageFrame (transactional : S.Transactional) {env : StagingEnv} (same : SameTable (fun t => (env.external t).getD t))
    {databaseId : Nat} {d : Database} (found : S.databases databaseId = some d) {schema : Option String} {clean : String}
    {columns : List String} {append : Bool} {frame : Frame} :
    Run S refused P (stageFrame env databaseId d schema clean columns append frame) (Fact.ingested d schema) := by
  apply (run_write transactional found (p := ⟨d.server, d.engine.schemaOf schema, clean⟩) rfl).bind
  intro failed
  cases failed with
  | some e => exact Run.pure (fun _ _ i done => by cases done)
  | none =>
    have registered : Run S refused (.when ((none : Option String) = none) (.there ⟨d.server, d.engine.schemaOf schema, clean⟩))
        (registerDataset env databaseId schema clean)
        (fun _ => .when ((none : Option String) = none) (.there ⟨d.server, d.engine.schemaOf schema, clean⟩)) := by
      apply run_registerDataset same
      intro s written d' found' uploads
      obtain rfl := Option.some.inj (found.symm.trans found')
      exact there_written transactional found (written rfl) uploads
    apply registered.bind
    intro k
    apply Run.pure
    intro s written i done
    cases k with
    | error e => cases done
    | ok k =>
      obtain rfl := Except.ok.inj done
      exact there_written transactional found (written rfl)

theorem run_ingestExcel (transactional : S.Transactional) {env : StagingEnv} (same : SameTable (fun t => (env.external t).getD t))
    {databaseId : Nat} {d : Database} (found : S.databases databaseId = some d) {r : UploadRequest} :
    Run S refused P (ingestExcel env databaseId d r) (Fact.ingested d r.schema) := by
  have fails (e : String) : Run S refused P (pure (.error e)) (Fact.ingested d r.schema) :=
    Run.pure (fun _ _ i done => by cases done)
  unfold ingestExcel
  dsimp only
  cases readDataframe env.pandas r.content r.filename with
  | none => exact fails _
  | some file =>
    dsimp only
    split_ifs
    · exact fails _
    · have looked : Run S refused P (send (.look (d.placeOf r.schema (stagingName r.tableName env.stamp)))) (fun _ => P) :=
        run_look (fun s => ⟨_, rfl⟩)
      exact looked.bind (fun _ => run_stageFrame transactional same found)
    · exact run_stageFrame transactional same found

/-- `prepare_table` works on MySQL only. -/
theorem isMysql_of_plan {d : Database} {r : PrepareRequest} {tables : Tables} {plan : Rebuild}
    (planned : planRebuild d r tables = .ok (some plan)) : TableSchema.isMysql (PythonText.lower d.engine.dialect) = true := by
  by_contra other
  unfold planRebuild at planned
  dsimp only at planned
  rw [Bool.not_eq_true] at other
  split_ifs at planned

theorem run_carryOut {d : Database} {r : PrepareRequest} {planned : Except String (Option Rebuild)}
    (elsewhere : ∀ plan, planned = .ok (some plan) → d.server ≠ S.servers.uploads) :
    Run S (Unreachable S) P (carryOut d r planned) (fun _ => .true) := by
  match planned with
  | .error e => exact Run.pure (fun _ _ => trivial)
  | .ok none => exact Run.pure (fun _ _ => trivial)
  | .ok (some plan) =>
    have other : ¬S.Uploads (d.target (PythonText.truthy r.schema) (TableSchema.cleanName r.table)) := elsewhere plan rfl
    have create : Run S (Unreachable S) .true (send (.create d (d.target (PythonText.truthy r.schema)
      (TableSchema.cleanName r.table)) plan.definition)) (fun _ => .true) := run_create other
    have rebuilt : Run S (Unreachable S) P (rebuildTable d (d.target (PythonText.truthy r.schema)
        (TableSchema.cleanName r.table)) plan) (fun _ => .true) := by
      unfold rebuildTable
      split_ifs
      · exact (run_drop other).bind (fun _ => create)
      · have kept : Run S (Unreachable S) P (pure () : Program Unit) (fun _ => .true) := Run.pure (fun _ _ => trivial)
        exact kept.bind (fun _ => create)
    exact rebuilt.bind (fun _ => Run.pure (fun _ _ => trivial))

theorem run_prepareTable (transactional : S.Transactional) {databaseId : Nat} {d : Database} (found : S.databases databaseId = some d)
    {r : PrepareRequest} : Run S (Unreachable S) P (prepareTable d r) (fun _ => .true) := by
  have later (existing : Option StagedTable) :
      Run S (Unreachable S) P (carryOut d r (planRebuild d r (fun _ => existing))) (fun _ => .true) := by
    apply run_carryOut
    intro plan planned uploads
    have mysql := isMysql_of_plan planned
    rw [transactional.dialect databaseId d found uploads] at mysql
    cases mysql
  unfold prepareTable
  dsimp only
  split_ifs
  · have looked : Run S (Unreachable S) P (send (.look (d.placeOf r.schema (TableSchema.cleanName r.table)))) (fun _ => P) :=
      run_look (fun s => ⟨_, rfl⟩)
    exact looked.bind later
  · have unread : Run S (Unreachable S) P (pure none : Program (Option StagedTable)) (fun _ => P) := Run.pure (fun _ => id)
    exact unread.bind later

theorem run_ensureEach {d : Database} {target : Place} {coltypes : List (String × String)} {existing : List String}
    {specs : List IndexSpec} {log : IndexLog} :
    Run S (Unreachable S) .true (ensureEach d target coltypes existing specs log) (fun _ => .true) := by
  induction specs generalizing log with
  | nil => exact Run.pure (fun _ _ => trivial)
  | cons spec rest ih =>
    rw [ensureEach]
    split
    · exact ih
    · exact run_alter.bind (fun _ => ih)

theorem run_ensureIndexes {d : Database} {table : String} {schema : Option String} {indexes : List IndexSpec} :
    Run S (Unreachable S) .true (ensureIndexes d table schema indexes) (fun _ => .true) := by
  unfold ensureIndexes
  dsimp only
  split_ifs
  · exact Run.pure (fun _ _ => trivial)
  · have looked : Run S (Unreachable S) .true (send (.look (d.placeOf schema (TableSchema.cleanName table)))) (fun _ => .true) :=
      run_look (fun s => ⟨_, rfl⟩)
    apply looked.bind
    intro existing
    cases existing with
    | none => exact Run.pure (fun _ _ => trivial)
    | some t => exact run_ensureEach.bind (fun _ => Run.pure (fun _ _ => trivial))

theorem database_eq_some {env : StagingEnv} (databases : env.databases = S.databases) {databaseId : Nat} {d : Database}
    (found : database env databaseId = some d) : S.databases databaseId = some d := by
  rw [← databases]
  unfold database at found
  split_ifs at found
  exact found

theorem run_onTable {α : Type} {env : StagingEnv} (databases : env.databases = S.databases) {databaseId : Nat} {table : Option String}
    {work : Database → String → Program (Except String α)}
    (works : ∀ d name, S.databases databaseId = some d → Run S (Unreachable S) .true (work d name) (fun _ => .true)) :
    Run S (Unreachable S) .true (onTable env databaseId table work) (fun _ => .true) := by
  unfold onTable
  cases found : database env databaseId with
  | none => exact Run.pure (fun _ _ => trivial)
  | some d =>
    dsimp only
    split_ifs
    · exact Run.pure (fun _ _ => trivial)
    · exact works d _ (database_eq_some databases found)

/-- The table of an upload that was answered. -/
def Fact.staged : StagingRequest → Except String StagingResult → Fact S
  | .upload databaseId form, .ok (.ingested i) =>
    .every (fun d => .when (S.databases databaseId = some d) (.there (d.placeOf (cleanSchema form.schema) i.tableName)))
  | _, _ => .true

theorem run_respond (transactional : S.Transactional) {env : StagingEnv} (databases : env.databases = S.databases)
    (same : SameTable (fun t => (env.external t).getD t)) (request : StagingRequest) :
    Run S (Unreachable S) .true (respond env request) (Fact.staged request) := by
  cases request with
  | ensureIndexes databaseId table schema indexes =>
    have done : Run S (Unreachable S) .true (onTable env databaseId table
        (fun d name => ensureIndexes d name (cleanSchema schema) indexes)) (fun _ => .true) :=
      run_onTable databases (fun _ _ _ => run_ensureIndexes)
    apply done.bind
    intro answer
    apply Run.pure
    intro s _
    cases answer <;> exact trivial
  | prepareTable databaseId table schema payload =>
    have done : Run S (Unreachable S) .true (onTable env databaseId table
        (fun d name => prepareTable d (payload.request name schema))) (fun _ => .true) :=
      run_onTable databases (fun _ _ found => run_prepareTable transactional found)
    apply done.bind
    intro answer
    apply Run.pure
    intro s _
    cases answer <;> exact trivial
  | upload databaseId form =>
    let post (answer : Except String Ingested) : Fact S :=
      .every (fun d => .when (S.databases databaseId = some d) (Fact.ingested d (cleanSchema form.schema) answer))
    have fails (e : String) : Run S (Unreachable S) .true (pure (.error e)) post :=
      Run.pure (fun _ _ d _ i done => by cases done)
    have done : Run S (Unreachable S) .true (apiUpload env databaseId form) post := by
      unfold apiUpload
      cases form.file with
      | none => exact fails _
      | some file =>
        cases found : database env databaseId with
        | none => exact fails _
        | some d =>
          have there := database_eq_some databases found
          have schema : (form.request file).schema = cleanSchema form.schema := by rw [UploadForm.request]
          have ingests : Run S (Unreachable S) .true (ingestExcel env databaseId d (form.request file)) _ :=
            run_ingestExcel transactional same there
          rw [schema] at ingests
          apply ingests.mono (fun _ => id)
          intro answer s ingested d' found' i done
          obtain rfl := Option.some.inj (there.symm.trans found')
          exact ingested i done
    apply done.bind
    intro answer
    apply Run.pure
    intro s ingested
    cases answer with
    | error e => exact trivial
    | ok i => exact fun d found => ingested d found i rfl

/-! ## The sync -/

theorem sameTable_withColumns (env : SyncEnv) (name : String) : SameTable (withColumns env name) := by
  intro t
  unfold withColumns
  split <;> exact ⟨rfl, rfl, rfl, rfl⟩

/-- Each of the listed tables is there. -/
def Fact.listed (d : Database) (names : List String) : Fact S :=
  .every (fun name => .when (name ∈ names) (.there (d.placeOf none name)))

theorem run_syncEach {env : SyncEnv} {databaseId : Nat} {d : Database} (found : S.databases databaseId = some d)
    {names : List String} {log : SyncLog} :
    Run S refused (Fact.listed d names) (syncEach env databaseId names log) (fun _ => .true) := by
  induction names generalizing log with
  | nil => exact Run.pure (fun _ _ => trivial)
  | cons name rest ih =>
    have later {log : SyncLog} : Run S refused (Fact.listed d (name :: rest)) (syncEach env databaseId rest log) (fun _ => .true) :=
      ih.mono (fun s listed other mem => listed other (List.mem_cons_of_mem name mem)) (fun _ _ => id)
    rw [syncEach]
    split_ifs
    · exact later
    · have added : Run S refused (Fact.listed d (name :: rest)) (send (.addDataset (Sync.newDataset databaseId none name)
          (env.registers name))) (fun _ => Fact.listed d (name :: rest)) := by
        apply run_addDataset
        intro s listed d' found' uploads
        obtain rfl := Option.some.inj (found.symm.trans found')
        exact listed name List.mem_cons_self uploads
      apply added.bind
      intro answer
      cases answer with
      | error e => exact later
      | ok k => exact (run_fetchMetadata (sameTable_withColumns env name)).bind (fun _ => later)

theorem run_syncTables {env : SyncEnv} {databaseId : Nat} {d : Database} (found : S.databases databaseId = some d) :
    Run S (Unreachable S) .true (syncTables env databaseId d) (fun _ => .true) := by
  unfold syncTables
  cases env.databaseName databaseId with
  | none => exact Run.pure (fun _ _ => trivial)
  | some name =>
    dsimp only
    cases env.listed with
    | error e => exact Run.pure (fun _ _ => trivial)
    | ok _ =>
      apply run_listTables.bind
      intro names
      have existing : Run S (Unreachable S) (Fact.listed d names) (send (.existingTableNames databaseId))
        (fun _ => Fact.listed d names) := run_look (fun s => ⟨_, rfl⟩)
      apply existing.bind
      intro existing
      have loop : Run S (Unreachable S) (Fact.listed d names) (syncEach env databaseId (Sync.sortedNames names)
          ⟨existing, [], 0, []⟩) (fun _ => .true) :=
        (run_syncEach found).mono (fun s listed name mem => listed name (Sync.mem_sortedNames.mp mem)) (fun _ _ => id)
      exact loop.bind (fun _ => Run.pure (fun _ _ => trivial))

/-! ## The provisioner of the upload store -/

/-- What the operation creates is there, by another run of the provisioner. -/
def Created : Operation → Stack → Prop
  | .createRole _, s => s.role.isSome
  | .createDatabase, s => s.owner.isSome
  | .addConnection name _, s => (s.connections.get name).isSome
  | _, _ => False

/-- A change of the role, the owner or the connection to what the stack sets. -/
theorem keeps_set {s s' : Stack} (tables : s'.tables = s.tables) (datasets : s'.datasets = s.datasets)
    (role : s'.role = s.role ∨ s'.role = some S.args.password) (owner : s'.owner = s.owner ∨ s'.owner = some uploadRole)
    (connection : s'.connections.get S.args.name = s.connections.get S.args.name ∨
      s'.connections.get S.args.name = some S.args.connection) : S.Keeps s s' := by
  refine ⟨fun sound => ⟨?_, ?_⟩, ?_, role, owner, connection⟩
  · rw [tables, datasets]
    exact sound.stored
  · intro p uploads there
    rw [tables] at there
    rcases owner with same | set
    · rw [same]
      exact sound.owned p uploads there
    · rw [set]
      rfl
  · rw [tables]
    exact fun _ _ => id

theorem run_findRole : Run S refused P (send .findRole) (fun there => .when (there = true) .role) := by
  apply Run.read
  · intro s x s' _ _ answer
    obtain ⟨rfl, rfl⟩ := Prod.mk.inj (Option.some.inj answer)
    exact ⟨rfl, id⟩
  · intro s _ _ answer
    cases answer

theorem run_createRole : Run S Created P (send (.createRole S.args.password)) (fun _ => .password) := by
  apply Run.ask
  · intro s x s' _ _ answer
    rw [Servers.serve] at answer
    split_ifs at answer
    obtain ⟨-, rfl⟩ := Prod.mk.inj (Option.some.inj answer)
    exact ⟨keeps_set rfl rfl (.inr rfl) (.inl rfl) (.inl rfl), rfl⟩
  · intro s _ _ answer
    rw [Servers.serve] at answer
    split_ifs at answer with fresh
    rwa [Option.isNone_iff_eq_none, ← ne_eq, ← Option.isSome_iff_ne_none] at fresh

theorem run_alterRole : Run S Created .role (send (.alterRole S.args.password)) (fun _ => .password) := by
  apply Run.ask
  · intro s x s' _ _ answer
    rw [Servers.serve] at answer
    split_ifs at answer
    obtain ⟨-, rfl⟩ := Prod.mk.inj (Option.some.inj answer)
    exact ⟨keeps_set rfl rfl (.inr rfl) (.inl rfl) (.inl rfl), rfl⟩
  · intro s _ there answer
    have role : s.role.isSome := there
    rw [Servers.serve, if_pos role] at answer
    cases answer

theorem run_ensureRole : Run S Created P (ensureRole S.args.password) (fun _ => .password) := by
  apply run_findRole.bind
  intro there
  split_ifs with known
  · exact run_alterRole.mono (fun s role => role known) (fun _ _ => id)
  · exact run_createRole

theorem run_findOwner : Run S refused P (send .findOwner)
    (fun owner => (Fact.when (owner.isSome) .database).both (.when (owner = some uploadRole) .owned)) := by
  apply Run.read
  · intro s x s' _ _ answer
    obtain ⟨rfl, rfl⟩ := Prod.mk.inj (Option.some.inj answer)
    exact ⟨rfl, id, id⟩
  · intro s _ _ answer
    cases answer

theorem run_createDatabase : Run S Created .role (send .createDatabase) (fun _ => .owned) := by
  apply Run.ask
  · intro s x s' _ _ answer
    rw [Servers.serve] at answer
    split_ifs at answer
    obtain ⟨-, rfl⟩ := Prod.mk.inj (Option.some.inj answer)
    exact ⟨keeps_set rfl rfl (.inl rfl) (.inr rfl) (.inl rfl), rfl⟩
  · intro s _ there answer
    rw [Servers.serve] at answer
    split_ifs at answer with fresh
    have role : s.role.isSome = true := there
    rwa [role, Bool.true_and, Option.isNone_iff_eq_none, ← ne_eq, ← Option.isSome_iff_ne_none] at fresh

theorem run_alterOwner : Run S Created (Fact.role.both .database) (send .alterOwner) (fun _ => .owned) := by
  apply Run.ask
  · intro s x s' _ _ answer
    rw [Servers.serve] at answer
    split_ifs at answer
    obtain ⟨-, rfl⟩ := Prod.mk.inj (Option.some.inj answer)
    exact ⟨keeps_set rfl rfl (.inl rfl) (.inr rfl) (.inl rfl), rfl⟩
  · intro s _ there answer
    rw [Servers.serve, if_pos (Bool.and_eq_true _ _ ▸ there)] at answer
    cases answer

theorem role_of_password {s : Stack} (set : (Fact.password (S := S)).holds s) : (Fact.role (S := S)).holds s := by
  have same : s.role = some S.args.password := set
  show s.role.isSome
  rw [same]
  rfl

theorem run_ensureRoleAndDatabase : Run S Created P (ensureRoleAndDatabase S.args.password) (fun _ => Fact.password.both .owned) := by
  apply run_ensureRole.bind
  intro _
  have find : Run S Created .password (send .findOwner) (fun owner =>
      ((Fact.when (owner.isSome) .database).both (.when (owner = some uploadRole) .owned)).both .password) :=
    (run_findOwner.frame .password).mono (fun s set => ⟨set, set⟩) (fun _ _ => id)
  apply find.bind
  intro owner
  cases owner with
  | none =>
    apply (run_createDatabase.frame .password).mono
    · intro s facts
      exact ⟨role_of_password facts.2, facts.2⟩
    · intro _ s facts
      exact ⟨facts.2, facts.1⟩
  | some owner =>
    dsimp only
    split_ifs with foreign
    · apply (run_alterOwner.frame .password).mono
      · intro s facts
        exact ⟨⟨role_of_password facts.2, facts.1.1 rfl⟩, facts.2⟩
      · intro _ s facts
        exact ⟨facts.2, facts.1⟩
    · apply Run.pure
      intro s facts
      exact ⟨facts.2, facts.1.2 (by rw [not_not.mp foreign])⟩

theorem run_ensureConnection : Run S Created P (ensureConnection S.args.name S.args.connection) (fun _ => .connected) := by
  have find : Run S Created P (send (.findConnection S.args.name)) (fun there => .when (there = true) .connection) := by
    apply Run.read
    · intro s x s' _ _ answer
      obtain ⟨rfl, rfl⟩ := Prod.mk.inj (Option.some.inj answer)
      exact ⟨rfl, id⟩
    · intro s _ _ answer
      cases answer
  apply find.bind
  intro there
  have set (s : Stack) : (s.connections.set S.args.name S.args.connection).get S.args.name = some S.args.connection :=
    Dict.get_set_self _ _ _
  split_ifs with known
  · apply Run.ask
    · intro s x s' _ _ answer
      rw [Servers.serve] at answer
      split_ifs at answer
      obtain ⟨-, rfl⟩ := Prod.mk.inj (Option.some.inj answer)
      exact ⟨keeps_set rfl rfl (.inl rfl) (.inl rfl) (.inr (set s)), set s⟩
    · intro s _ connection answer
      have there : (s.connections.get S.args.name).isSome := connection known
      rw [Servers.serve, if_pos there] at answer
      cases answer
  · apply Run.ask
    · intro s x s' _ _ answer
      rw [Servers.serve] at answer
      split_ifs at answer
      obtain ⟨-, rfl⟩ := Prod.mk.inj (Option.some.inj answer)
      exact ⟨keeps_set rfl rfl (.inl rfl) (.inl rfl) (.inr (set s)), set s⟩
    · intro s _ _ answer
      rw [Servers.serve] at answer
      split_ifs at answer with fresh
      rwa [Option.isNone_iff_eq_none, ← ne_eq, ← Option.isSome_iff_ne_none] at fresh

/-- The role, the upload database and its connection are those of the stack. -/
def Fact.provisioned : Fact S := (Fact.password.both .owned).both .connected

theorem run_ensureUploads : Run S Created P (ensureUploads S.args) (fun _ => .provisioned) := by
  unfold ensureUploads
  split_ifs
  · exact Run.quit
  · apply run_ensureRoleAndDatabase.bind
    intro _
    apply (run_ensureConnection.frame (Fact.password.both .owned)).mono
    · intro s facts
      exact ⟨facts, facts⟩
    · intro _ s facts
      exact ⟨facts.2, facts.1⟩

/-! ## The backup -/

/-- Each dataset of a table in the upload store has its table in the dump. -/
def Closed (S : Site) (datasets : Table SqlaTable) (uploads : Option Dump) : Prop :=
  ∀ k t d, datasets.get k = some t → t.sql = none → S.databases t.databaseId = some d → d.server = S.servers.uploads →
    ∃ dump, uploads = some dump ∧ d.placeOf t.schema t.tableName ∈ dump.map Prod.fst

def Fact.always (p : Prop) : Fact S := ⟨fun _ => p, fun _ _ _ => id⟩

/-- MariaDB has stopped since the backup has seen it. -/
def Stopped (q : Operation) (s : Stack) : Prop := q = .dumpMariadb ∧ s.mariadbRuns = false

theorem mem_dump {s : Stack} {p : Place} {server : Nat} (here : p.server = server) (there : (s.tables.get p).isSome) :
    p ∈ (s.dump server).map Prod.fst := by
  obtain ⟨t, found⟩ := Option.isSome_iff_exists.mp there
  refine List.mem_map.mpr ⟨(p, t), List.mem_filter.mpr ⟨(s.tables.get_eq_some_iff p t).mp found, ?_⟩, rfl⟩
  simpa using here

theorem run_dumpMetadata : Run S refused P (send .dumpMetadata) (fun metadata => .covers metadata.1) := by
  apply Run.read
  · intro s x s' sound _ answer
    obtain ⟨rfl, rfl⟩ := Prod.mk.inj (Option.some.inj answer)
    exact ⟨rfl, sound.stored⟩
  · intro s _ _ answer
    cases answer

theorem run_uploadsPresent {datasets : Table SqlaTable} : Run S refused (.covers datasets) (send .uploadsPresent) (fun present =>
    ((Fact.when (present = true) .database).both (.when (present = false) (.always (S.Closed datasets none)))).both (.covers datasets)) := by
  apply Run.read
  · intro s x s' sound covered answer
    obtain ⟨rfl, rfl⟩ := Prod.mk.inj (Option.some.inj answer)
    refine ⟨rfl, ⟨id, fun absent k t d found physical database uploads => ?_⟩, covered⟩
    -- a table would be in a database that is not there
    have there := sound.owned (d.placeOf t.schema t.tableName) uploads (covered k t found d physical database uploads)
    rw [there] at absent
    cases absent
  · intro s _ _ answer
    cases answer

theorem run_dumpUploads {datasets : Table SqlaTable} : Run S refused (Fact.database.both (.covers datasets)) (send .dumpUploads)
    (fun dump => .always (S.Closed datasets (some dump))) := by
  apply Run.read
  · intro s x s' _ facts answer
    have there : s.owner.isSome := facts.1
    rw [Servers.serve, if_pos there] at answer
    obtain ⟨rfl, rfl⟩ := Prod.mk.inj (Option.some.inj answer)
    refine ⟨rfl, fun k t d found physical database uploads => ⟨_, rfl, ?_⟩⟩
    exact mem_dump uploads (facts.2 k t found d physical database uploads)
  · intro s _ facts answer
    have there : s.owner.isSome := facts.1
    rw [Servers.serve, if_pos there] at answer
    cases answer

theorem run_uploadsDump {datasets : Table SqlaTable} :
    Run S refused (.covers datasets) uploadsDump (fun uploads => .always (S.Closed datasets uploads)) := by
  apply run_uploadsPresent.bind
  intro present
  split_ifs with there
  · have dumps : Run S refused (((Fact.when (present = true) .database).both (.when (present = false)
        (.always (S.Closed datasets none)))).both (.covers datasets)) (send .dumpUploads)
        (fun dump => .always (S.Closed datasets (some dump))) :=
      run_dumpUploads.mono (fun s facts => ⟨facts.1.1 there, facts.2⟩) (fun _ _ => id)
    exact dumps.bind (fun dump => Run.pure (fun _ => id))
  · apply Run.pure
    intro s facts
    exact facts.1.2 (Bool.not_eq_true _ ▸ there)

/-- The dump of MariaDB holds its tables only. -/
def OfMariadb (S : Site) (mariadb : Option Dump) : Prop := ∀ dump, mariadb = some dump → ∀ e ∈ dump, e.1.server = S.servers.mariadb

theorem run_mariadbDump : Run S Stopped P mariadbDump (fun mariadb => .always (S.OfMariadb mariadb)) := by
  have runs : Run S Stopped P (send .mariadbRunning) (fun _ => P) := run_look (fun s => ⟨_, rfl⟩)
  apply runs.bind
  intro runs
  split_ifs
  · have dumps : Run S Stopped P (send .dumpMariadb) (fun dump => .always (S.OfMariadb (some dump))) := by
      apply Run.read
      · intro s x s' _ _ answer
        rw [Servers.serve] at answer
        split_ifs at answer
        obtain ⟨rfl, rfl⟩ := Prod.mk.inj (Option.some.inj answer)
        refine ⟨rfl, fun dump same e mem => ?_⟩
        obtain rfl := Option.some.inj same
        exact of_decide_eq_true (List.mem_filter.mp mem).2
      · intro s _ _ answer
        rw [Servers.serve] at answer
        split_ifs at answer with stopped
        exact ⟨rfl, by simpa using stopped⟩
    exact dumps.bind (fun dump => Run.pure (fun _ => id))
  · exact Run.pure (fun _ _ dump same => by cases same)

/-- What a backup is good for. -/
def Restorable (S : Site) (b : Dumps) : Prop := S.Closed b.metadata.1 b.uploads ∧ S.OfMariadb b.mariadb

theorem run_backup : Run S Stopped P backup (fun b => .always (S.Restorable b)) := by
  apply run_dumpMetadata.bind
  intro metadata
  apply run_uploadsDump.bind
  intro uploads
  have dumps : Run S Stopped (.always (S.Closed metadata.1 uploads)) mariadbDump
      (fun mariadb => (Fact.always (S.OfMariadb mariadb)).both (.always (S.Closed metadata.1 uploads))) :=
    (run_mariadbDump.frame (.always (S.Closed metadata.1 uploads))).mono (fun s closed => ⟨closed, closed⟩) (fun _ _ => id)
  apply dumps.bind
  intro mariadb
  apply Run.pure
  intro s facts
  exact ⟨facts.2, facts.1⟩

/-- Restored onto any stack, the datasets of the backup have their tables. -/
theorem sound_restore (transactional : S.Transactional) {b : Dumps} (restorable : S.Restorable b) {s : Stack}
    (owned : ∀ p, S.Uploads p → (s.tables.get p).isSome → s.owner.isSome) : S.Sound (b.restore S.args s) := by
  obtain ⟨closed, ofMariadb⟩ := restorable
  refine ⟨fun k t found d physical database uploads => ?_, fun p uploads there => ?_⟩
  · obtain ⟨dump, dumped, mem⟩ := closed k t d found physical database uploads
    refine Dict.isSome_get_setAll (.inl (Dict.isSome_get_setAll (.inr ?_)))
    rwa [dumped, Option.getD_some]
  · unfold Dumps.restore at there ⊢
    dsimp only at there ⊢
    split_ifs with dumped
    · rfl
    · rw [Option.not_isSome_iff_eq_none] at dumped
      rw [dumped, Option.getD_none] at there
      apply owned p uploads
      have elsewhere : p ∉ (b.mariadb.getD []).map Prod.fst := by
        intro mem
        obtain ⟨e, among, rfl⟩ := List.mem_map.mp mem
        cases dumped : b.mariadb with
        | none =>
          rw [dumped] at among
          cases among
        | some dump =>
          rw [dumped] at among
          exact transactional.apart (uploads.symm.trans (ofMariadb dump dumped e among))
      rwa [Dict.get_setAll_of_not_mem elsewhere] at there

/-! ## The jobs beside each other -/

/-- When an operation of the job may fail. -/
def refusal (S : Site) : Job → Operation → Stack → Prop
  | .stage _, q, s => S.Unreachable q s
  | .sync _ _, q, s => S.Unreachable q s
  | .ensureUploads, q, s => Created q s
  | .backup, q, s => Stopped q s

/-- What the end of a job comes to. -/
def promise (S : Site) : Job → Outcome → Fact S
  | .stage call, .staged answer => .staged call.request answer
  | .ensureUploads, _ => .provisioned
  | .backup, .backedUp b => .always (S.Restorable b)
  | _, _ => .true

/-- A fetch of the columns in a staging request does not change the table of a dataset. -/
def Fits : Job → Prop
  | .stage call => SameTable (fun t => (call.env.external t).getD t)
  | _ => True

theorem run_main (transactional : S.Transactional) (job : Job) (fits : Fits job) :
    Run S (S.refusal job) .true (S.main job) (S.promise job) := by
  cases job with
  | stage call =>
    let env : StagingEnv := { call.env with databases := S.databases }
    have same : SameTable (fun t => (env.external t).getD t) := fits
    have responds := run_respond transactional rfl same call.request
    exact responds.bind (fun answer => Run.pure (fun _ => id))
  | sync env databaseId =>
    have ends (answer : Except String SyncSummary) : Run S (S.refusal (.sync env databaseId)) .true (pure (.synced answer))
        (S.promise (.sync env databaseId)) := Run.pure (fun _ => id)
    cases found : S.databases databaseId with
    | none =>
      rw [main, found]
      exact ends _
    | some d =>
      rw [main, found]
      have syncs : Run S (S.refusal (.sync env databaseId)) .true (syncTables env databaseId d) (fun _ => .true) := run_syncTables found
      exact syncs.bind ends
  | ensureUploads => exact run_ensureUploads.bind (fun _ => Run.pure (fun _ => id))
  | backup => exact run_backup.bind (fun b => Run.pure (fun _ => id))

section
variable {ι : Type} (S) (jobs : ι → Job)

def scripts : Scripts ι Operation Operation.Answer Stack Outcome where
  serve := S.servers.serve
  within _ := True
  outside := S.Outside
  script i := S.main (jobs i)
  others _ := S.Keeps
  own _ := S.Keeps
  refused i := S.refusal (jobs i)
  quits _ _ := True
  before _ := S.Sound
  after i answer s := S.Sound s ∧ (S.promise (jobs i) answer).holds s

variable {S jobs}

theorem compatible (transactional : S.Transactional) (fits : ∀ i, Fits (jobs i)) : (scripts S jobs).Compatible where
  apart _ _ _ _ _ keeps := keeps
  outside _ _ _ change := keeps_outside change
  stable _ _ _ keeps sound := keeps.sound sound
  ready _ _ _ sound keeps := keeps.sound sound
  meets i := Setting.Meets.mono (run_main transactional (jobs i) (fits i)) (fun _ sound => ⟨sound, trivial⟩) (fun _ _ => id)

variable [DecidableEq ι]

end

/-! ## An upload and a backup -/

def postgres : Engine := { storing plain Reader.verbatim with dialect := "postgresql" }

def uploadSite : Site where
  servers := ⟨0, 1⟩
  databases id := if id = 1 then some ⟨0, true, postgres⟩ else none
  args := ⟨"key", "superset", "secret", "superset", "", fun key => "derived from " ++ key⟩

theorem uploadSite_transactional : uploadSite.Transactional := by
  have only {i : Nat} {d : Database} (found : uploadSite.databases i = some d) : d = ⟨0, true, postgres⟩ := by
    by_cases first : i = 1
    · exact (Option.some.inj ((if_pos first).symm.trans found)).symm
    · cases (if_neg first).symm.trans found
  refine ⟨by decide, ?_, ?_, ?_, ?_⟩
  · intro i d found _
    rw [only found]
    decide
  · intro i d found _ schema
    rw [only found]
    rfl
  · intro i d found _ t frame append dtypes
    rw [only found]
    cases append <;> rfl
  · intro i d found _ frame append dtypes _
    rw [only found]
    rfl

/-- Before the first start: the provisioner has not run. -/
def freshStack : Stack := ⟨Dict.empty, Table.empty, none, none, Dict.empty, false⟩

theorem freshStack_sound : uploadSite.Sound freshStack := by
  refine ⟨fun k t found => ?_, fun p _ there => ?_⟩
  · cases found
  · cases there

def marksUpload : StagingCall where
  env := ⟨some 1, fun _ => none, commaFiles Reader.verbatim, "20250101_000000", some, none⟩
  request := .upload 1 ⟨some ("id,mark\n7,good", some "marks.csv"), some "marks", none, none⟩

def uploadJobs : Fin 3 → Job
  | 0 => .ensureUploads
  | 1 => .stage marksUpload
  | 2 => .backup

theorem uploadJobs_fit : ∀ i, Fits (uploadJobs i) := by
  intro i
  match i with
  | 0 => exact trivial
  | 1 => exact fun _ => ⟨rfl, rfl, rfl, rfl⟩
  | 2 => exact trivial

/-- A job from its start to its end, while the others wait. -/
theorem path_run {i : Fin 3} {cs : Fin 3 → Program Outcome} {s t : Stack} {o : Outcome}
    (ends : (uploadSite.main (uploadJobs i)).run uploadSite.servers.serve (fun _ => true) s = some (o, t)) :
    ReflTransGen (scripts uploadSite uploadJobs).Step (cs, s) (Function.update cs i (.done o), t) := by
  have start : ReflTransGen (scripts uploadSite uploadJobs).Step (cs, s)
      (Function.update cs i (uploadSite.main (uploadJobs i)), s) := .single (.start i)
  have turn : Function.update cs i (uploadSite.main (uploadJobs i)) i = uploadSite.main (uploadJobs i) := Function.update_self ..
  have later := Scripts.path_of_run (T := scripts uploadSite uploadJobs) (fun _ _ => trivial) turn ends
  rw [Function.update_idem] at later
  exact start.trans later

/-- The jobs one after the other. -/
def inTurn : List (Fin 3) → Stack → Option (List Outcome × Stack)
  | [], s => some ([], s)
  | i :: rest, s =>
    ((uploadSite.main (uploadJobs i)).run uploadSite.servers.serve (fun _ => true) s).bind
      (fun p => (inTurn rest p.2).map (fun q => (p.1 :: q.1, q.2)))

theorem inTurn_cons {i : Fin 3} {rest : List (Fin 3)} {s t : Stack} {os : List Outcome}
    (ends : inTurn (i :: rest) s = some (os, t)) : ∃ o later s', os = o :: later ∧
      (uploadSite.main (uploadJobs i)).run uploadSite.servers.serve (fun _ => true) s = some (o, s') ∧
      inTurn rest s' = some (later, t) := by
  obtain ⟨⟨o, s'⟩, first, others⟩ := Option.bind_eq_some_iff.mp ends
  obtain ⟨⟨later, t'⟩, after, same⟩ := Option.map_eq_some_iff.mp others
  obtain ⟨rfl, rfl⟩ := Prod.mk.inj same
  exact ⟨o, later, s', rfl, first, after⟩

def ingestedName : Outcome → Option String
  | .staged (.ok (.ingested i)) => some i.tableName
  | _ => none

def dumpedPlaces : Outcome → List Place
  | .backedUp b => (b.uploads.getD []).map Prod.fst
  | _ => []

theorem marks_done : (inTurn [0, 1, 2] freshStack).map (fun p => p.1.map (fun o => (ingestedName o, dumpedPlaces o))) =
    some [(none, []), (some "marks", []), (none, [(⟨0, some "main", "marks"⟩ : Place)])] := by decide +kernel

/-- The provisioner, the upload and the backup have come to their ends. -/
theorem marks_reached : ∃ cs t o i b, ReflTransGen (scripts uploadSite uploadJobs).Step (fun _ => .quit, freshStack) (cs, t) ∧
    cs 0 = .done o ∧ cs 1 = .done (.staged (.ok (.ingested i))) ∧ cs 2 = .done (.backedUp b) ∧ i.tableName = "marks" ∧
    (b.uploads.getD []).map Prod.fst = [⟨0, some "main", "marks"⟩] := by
  obtain ⟨⟨os, t⟩, ends, answers⟩ := Option.map_eq_some_iff.mp marks_done
  obtain ⟨o₀, os₀, s₁, rfl, run₀, later⟩ := inTurn_cons ends
  obtain ⟨o₁, os₁, s₂, rfl, run₁, later⟩ := inTurn_cons later
  obtain ⟨o₂, os₂, s₃, rfl, run₂, last⟩ := inTurn_cons later
  obtain ⟨rfl, rfl⟩ := Prod.mk.inj (Option.some.inj last)
  simp only [List.map_cons, List.map_nil, List.cons.injEq, Prod.mk.injEq, and_true] at answers
  obtain ⟨-, ⟨uploaded, -⟩, -, dumped⟩ := answers
  have ingested : ∃ i, o₁ = .staged (.ok (.ingested i)) ∧ i.tableName = "marks" := by
    unfold ingestedName at uploaded
    split at uploaded
    · exact ⟨_, rfl, Option.some.inj uploaded⟩
    · cases uploaded
  have backedUp : ∃ b, o₂ = .backedUp b ∧ (b.uploads.getD []).map Prod.fst = [⟨0, some "main", "marks"⟩] := by
    unfold dumpedPlaces at dumped
    split at dumped
    · exact ⟨_, rfl, dumped⟩
    · cases dumped
  obtain ⟨i, rfl, named⟩ := ingested
  obtain ⟨b, rfl, places⟩ := backedUp
  exact ⟨_, _, o₀, i, b, ((path_run run₀).trans (path_run run₁)).trans (path_run run₂), rfl, rfl, rfl, named, places⟩

end XpBuilder.Ops.Site
