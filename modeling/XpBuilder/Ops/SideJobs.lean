import XpBuilder.Ops.Stack

/-! The jobs of one stack beside each other, and what each of their operations keeps of the upload store: no
table of it vanishes, and each dataset of a table in it has its table. -/

namespace XpBuilder.Ops
open Staging
open Relation (ReflTransGen)

/-- What the jobs of a stack have in common. -/
structure Site where
  servers : Servers
  databases : Nat → Option Database
  args : UploadsArgs

inductive Job where
  | stage (call : StagingCall)
  | sync (env : SyncEnv) (databaseId : Nat)
  | ensureUploads
  | backup

inductive Outcome where
  | staged (answer : Except String StagingResult)
  | synced (answer : Except String SyncSummary)
  | ensured
  | backedUp (dumps : Dumps)

/-- An edit of a dataset that leaves its table. -/
def SameTable (f : SqlaTable → SqlaTable) : Prop := ∀ t, (f t).databaseId = t.databaseId ∧ (f t).schema = t.schema ∧
  (f t).tableName = t.tableName ∧ (f t).sql = t.sql

namespace Site
variable (S : Site)

def main : Job → Program Outcome
  | .stage call => do
    let answer ← respond { call.env with databases := S.databases } call.request
    pure (.staged answer)
  | .sync env databaseId =>
    match S.databases databaseId with
    | none => pure (.synced (.error s!"Database {databaseId} not found"))
    | some d => do
      let answer ← syncTables env databaseId d
      pure (.synced answer)
  | .ensureUploads => do
    ensureUploads S.args
    pure .ensured
  | .backup => do
    let dumps ← backup
    pure (.backedUp dumps)

/-- The database of a dataset is the upload store, or another one on its server. -/
def Uploads (p : Place) : Prop := p.server = S.servers.uploads

/-- The upload store is PostgreSQL: a write of a frame is one transaction there. -/
structure Transactional : Prop where
  apart : S.servers.uploads ≠ S.servers.mariadb
  dialect : ∀ i d, S.databases i = some d → d.server = S.servers.uploads →
    TableSchema.isMysql (PythonText.lower d.engine.dialect) = false
  schemaOf : ∀ i d, S.databases i = some d → d.server = S.servers.uploads → ∀ schema, d.engine.schemaOf (some schema) = some schema
  replaces : ∀ i d, S.databases i = some d → d.server = S.servers.uploads → ∀ t frame append dtypes,
    (d.engine.toSql (some t) frame append dtypes).table.isSome
  creates : ∀ i d, S.databases i = some d → d.server = S.servers.uploads → ∀ frame append dtypes,
    (d.engine.toSql none frame append dtypes).error = none → (d.engine.toSql none frame append dtypes).table.isSome

/-- The dataset of a table has the table. -/
def Stored (tables : Place → Option StagedTable) (t : SqlaTable) : Prop :=
  ∀ d, t.sql = none → S.databases t.databaseId = some d → d.server = S.servers.uploads →
    (tables (d.placeOf t.schema t.tableName)).isSome

structure Sound (s : Stack) : Prop where
  stored : ∀ k t, s.datasets.get k = some t → S.Stored s.tables.get t
  owned : ∀ p, S.Uploads p → (s.tables.get p).isSome → s.owner.isSome

/-- What the upload store keeps, whoever works on the stack. -/
structure Keeps (s s' : Stack) : Prop where
  sound : S.Sound s → S.Sound s'
  tables : ∀ p, S.Uploads p → (s.tables.get p).isSome → (s'.tables.get p).isSome
  role : s'.role = s.role ∨ s'.role = some S.args.password
  owner : s'.owner = s.owner ∨ s'.owner = some uploadRole
  connection : s'.connections.get S.args.name = s.connections.get S.args.name ∨
    s'.connections.get S.args.name = some S.args.connection

/-- What others do to the stack: users with datasets and connections, and the other databases. -/
inductive Outside (s : Stack) : Stack → Prop
  | deleteDataset (k : Nat) : Outside s { s with datasets := s.datasets.delete k }
  | editDataset (k : Nat) (f : SqlaTable → SqlaTable) (same : SameTable f) : Outside s { s with datasets := s.datasets.update k f }
  | addDataset (t : SqlaTable) (there : S.Stored s.tables.get t) : Outside s { s with datasets := s.datasets.insert t }
  | otherTable (p : Place) (t : Option StagedTable) (other : ¬S.Uploads p) : Outside s (s.put p t)
  | otherConnection (name : String) (c : UploadConnection) (other : name ≠ S.args.name) :
      Outside s { s with connections := s.connections.set name c }
  | mariadb (runs : Bool) : Outside s { s with mariadbRuns := runs }

variable {S}

theorem Keeps.refl (s : Stack) : S.Keeps s s := ⟨id, fun _ _ => id, .inl rfl, .inl rfl, .inl rfl⟩

theorem Stored.mono {tables tables' : Place → Option StagedTable} (grows : ∀ p, S.Uploads p → (tables p).isSome → (tables' p).isSome)
    {t : SqlaTable} (stored : S.Stored tables t) : S.Stored tables' t :=
  fun d physical found uploads => grows _ uploads (stored d physical found uploads)

/-- A change of the datasets to such whose tables are there. -/
theorem keeps_datasets {s : Stack} {datasets : Table SqlaTable}
    (stored : S.Sound s → ∀ k t, datasets.get k = some t → S.Stored s.tables.get t) : S.Keeps s { s with datasets := datasets } :=
  ⟨fun sound => ⟨stored sound, sound.owned⟩, fun _ _ => id, .inl rfl, .inl rfl, .inl rfl⟩

theorem put_get (s : Stack) (p q : Place) (t : Option StagedTable) :
    (s.put p t).tables.get q = if q = p then t else s.tables.get q := by
  cases t with
  | none => exact Dict.get_erase s.tables p q
  | some t => exact Dict.get_set s.tables p q t

theorem put_rest (s : Stack) (p : Place) (t : Option StagedTable) : (s.put p t).datasets = s.datasets ∧
    (s.put p t).role = s.role ∧ (s.put p t).owner = s.owner ∧ (s.put p t).connections = s.connections := by
  cases t <;> exact ⟨rfl, rfl, rfl, rfl⟩

/-- A change of one table, which does not vanish from the upload store. -/
theorem keeps_put {s : Stack} {p : Place} {t : Option StagedTable}
    (stays : S.Uploads p → (s.tables.get p).isSome → t.isSome) (owned : S.Uploads p → t.isSome → s.owner.isSome) :
    S.Keeps s (s.put p t) := by
  obtain ⟨datasets, role, owner, connections⟩ := put_rest s p t
  have grows (q : Place) (uploads : S.Uploads q) (there : (s.tables.get q).isSome) : ((s.put p t).tables.get q).isSome := by
    rw [put_get]
    split_ifs with same
    · subst same
      exact stays uploads there
    · exact there
  refine ⟨fun sound => ⟨fun k d found => ?_, fun q uploads there => ?_⟩, grows, .inl role, .inl owner, .inl (by rw [connections])⟩
  · rw [datasets] at found
    exact (sound.stored k d found).mono grows
  · rw [owner]
    rw [put_get] at there
    split_ifs at there with same
    · subst same
      exact owned uploads there
    · exact sound.owned q uploads there

theorem keeps_outside {s s' : Stack} (change : S.Outside s s') : S.Keeps s s' := by
  cases change with
  | deleteDataset k =>
    apply keeps_datasets
    intro sound j t found
    rw [Table.get_delete] at found
    split_ifs at found
    exact sound.stored j t found
  | editDataset k f same =>
    apply keeps_datasets
    intro sound j t found
    rw [Table.get_update] at found
    split_ifs at found
    · obtain ⟨t', there, rfl⟩ := Option.map_eq_some_iff.mp found
      obtain ⟨databaseId, schema, name, sql⟩ := same t'
      have stored := sound.stored j t' there
      unfold Stored at stored ⊢
      rwa [databaseId, schema, name, sql]
    · exact sound.stored j t found
  | addDataset t there =>
    apply keeps_datasets
    intro sound j t' found
    rw [Table.get_insert] at found
    split_ifs at found
    · obtain rfl := Option.some.inj found
      exact there
    · exact sound.stored j t' found
  | otherTable p t other => exact keeps_put (fun uploads => absurd uploads other) (fun uploads => absurd uploads other)
  | otherConnection name c other =>
    exact ⟨fun sound => ⟨sound.stored, sound.owned⟩, fun _ _ => id, .inl rfl, .inl rfl,
      .inl (Dict.get_set_ne _ _ (Ne.symm other))⟩
  | mariadb runs => exact ⟨fun sound => ⟨sound.stored, sound.owned⟩, fun _ _ => id, .inl rfl, .inl rfl, .inl rfl⟩

/-! ## Scripts beside others -/

/-- What nobody undoes who keeps the upload store. -/
structure Fact (S : Site) where
  holds : Stack → Prop
  kept : ∀ s s', S.Keeps s s' → holds s → holds s'

namespace Fact
variable {S : Site}

def true : Fact S := ⟨fun _ => True, fun _ _ _ _ => trivial⟩

def both (P P' : Fact S) : Fact S :=
  ⟨fun s => P.holds s ∧ P'.holds s, fun s s' keeps both => ⟨P.kept s s' keeps both.1, P'.kept s s' keeps both.2⟩⟩

/-- What a condition beyond the stack promises. -/
def when (condition : Prop) (P : Fact S) : Fact S :=
  ⟨fun s => condition → P.holds s, fun s s' keeps holds here => P.kept s s' keeps (holds here)⟩

def every {α : Type} (F : α → Fact S) : Fact S :=
  ⟨fun s => ∀ a, (F a).holds s, fun s s' keeps holds a => (F a).kept s s' keeps (holds a)⟩

/-- The table is there, if it is one of the upload store. -/
def there (p : Place) : Fact S :=
  ⟨fun s => S.Uploads p → (s.tables.get p).isSome, fun _ _ keeps holds uploads => keeps.tables p uploads (holds uploads)⟩

/-- The datasets have their tables. -/
def covers (datasets : Table SqlaTable) : Fact S :=
  ⟨fun s => ∀ k t, datasets.get k = some t → S.Stored s.tables.get t,
    fun _ _ keeps holds k t found => (holds k t found).mono keeps.tables⟩

/-- The upload store is there. -/
def database : Fact S :=
  ⟨fun s => s.owner.isSome, fun s s' keeps there => by
    rcases keeps.owner with same | set
    · rwa [same]
    · rw [set]
      rfl⟩

def role : Fact S :=
  ⟨fun s => s.role.isSome, fun s s' keeps there => by
    rcases keeps.role with same | set
    · rwa [same]
    · rw [set]
      rfl⟩

def connection : Fact S :=
  ⟨fun s => (s.connections.get S.args.name).isSome, fun s s' keeps there => by
    rcases keeps.connection with same | set
    · rwa [same]
    · rw [set]
      rfl⟩

/-- The role has the password that the stack derives. -/
def password : Fact S :=
  ⟨fun s => s.role = some S.args.password, fun s s' keeps set => by
    rcases keeps.role with same | set'
    · rwa [same]
    · exact set'⟩

def owned : Fact S :=
  ⟨fun s => s.owner = some uploadRole, fun s s' keeps set => by
    rcases keeps.owner with same | set'
    · rwa [same]
    · exact set'⟩

def connected : Fact S :=
  ⟨fun s => s.connections.get S.args.name = some S.args.connection, fun s s' keeps set => by
    rcases keeps.connection with same | set'
    · rwa [same]
    · exact set'⟩

end Fact

section
variable (S : Site) (refused : Operation → Stack → Prop)

def setting : Setting Operation Operation.Answer Stack where
  serve := S.servers.serve
  others := S.Keeps
  own := S.Keeps
  refused := refused
  quits _ := True
  within _ := True

/-- On a sound stack where `P` holds, the script keeps the upload store and comes to `post`. -/
def Run {α : Type} (P : Fact S) (c : Program α) (post : α → Fact S) : Prop :=
  (setting S refused).Meets (fun s => S.Sound s ∧ P.holds s) c (fun a s => S.Sound s ∧ (post a).holds s)

variable {S refused} {α β : Type} {P P' : Fact S}

theorem kept_stable (P : Fact S) : (setting S refused).Stable (fun s => S.Sound s ∧ P.holds s) :=
  fun s s' keeps both => ⟨keeps.sound both.1, P.kept s s' keeps both.2⟩

namespace Run

theorem mono {c : Program α} {post post' : α → Fact S} (run : Run S refused P c post) (weaker : ∀ s, P'.holds s → P.holds s)
    (stronger : ∀ a s, (post a).holds s → (post' a).holds s) : Run S refused P' c post' :=
  Setting.Meets.mono run (fun s both => ⟨both.1, weaker s both.2⟩) (fun a s both => ⟨both.1, stronger a s both.2⟩)

theorem pure {a : α} {post : α → Fact S} (result : ∀ s, P.holds s → (post a).holds s) : Run S refused P (pure a) post :=
  Setting.Meets.done (kept_stable P) (fun s both => ⟨both.1, result s both.2⟩)

theorem bind {c : Program α} {f : α → Program β} {mid : α → Fact S} {post : β → Fact S}
    (first : Run S refused P c mid) (later : ∀ a, Run S refused (mid a) (f a) post) : Run S refused P (c >>= f) post :=
  Setting.Meets.bind first later

theorem quit {post : α → Fact S} : Run S refused P (.quit : Program α) post :=
  Setting.Meets.quit (kept_stable P) (fun _ _ => trivial)

theorem ask {q : Operation} {post : q.Answer → Fact S}
    (served : ∀ s x s', S.Sound s → P.holds s → S.servers.serve q s = some (x, s') → S.Keeps s s' ∧ (post x).holds s')
    (refusal : ∀ s, S.Sound s → P.holds s → S.servers.serve q s = none → refused q s) : Run S refused P (send q) post := by
  apply Setting.Meets.request (kept_stable P) (fun x => kept_stable (post x))
  · intro s x s' both _ answer _
    obtain ⟨keeps, holds⟩ := served s x s' both.1 both.2 answer
    exact ⟨keeps, keeps.sound both.1, holds⟩
  · intro s both _ answer
    exact refusal s both.1 both.2 answer

/-- The rest of a condition goes along. -/
theorem frame {c : Program α} {post : α → Fact S} (run : Run S refused P c post) (also : Fact S) :
    Run S refused (P.both also) c (fun a => (post a).both also) := by
  have kept (s s' : Stack) (keeps : S.Keeps s s') (holds : also.holds s) : also.holds s' := also.kept s s' keeps holds
  apply (Setting.Meets.frame run kept kept).mono
  · intro s both
    exact ⟨⟨both.1, both.2.1⟩, both.2.2⟩
  · intro a s both
    exact ⟨both.1.1, both.1.2, both.2⟩

end Run

/-! ## The operations -/

theorem Run.read {q : Operation} {post : q.Answer → Fact S}
    (learns : ∀ s x s', S.Sound s → P.holds s → S.servers.serve q s = some (x, s') → s' = s ∧ (post x).holds s)
    (refusal : ∀ s, S.Sound s → P.holds s → S.servers.serve q s = none → refused q s) : Run S refused P (send q) post := by
  apply Run.ask _ refusal
  intro s x s' sound holds answer
  obtain ⟨rfl, learnt⟩ := learns s x s' sound holds answer
  exact ⟨Keeps.refl _, learnt⟩

theorem owner_of_reaches {s : Stack} {server : Nat} (reach : S.servers.reaches s server = true) (uploads : server = S.servers.uploads) :
    s.owner.isSome := by
  rw [Servers.reaches, Bool.and_eq_true, Bool.or_eq_true, decide_eq_true_eq] at reach
  exact reach.1.resolve_left (fun other => other uploads)

/-- An operation that only looks. -/
theorem run_look {q : Operation} (looks : ∀ s, ∃ x, S.servers.serve q s = some (x, s)) : Run S refused P (send q) (fun _ => P) := by
  apply Run.read
  · intro s x s' _ holds answer
    obtain ⟨x', seen⟩ := looks s
    obtain ⟨-, rfl⟩ := Prod.mk.inj (Option.some.inj (seen.symm.trans answer))
    exact ⟨rfl, holds⟩
  · intro s _ _ answer
    obtain ⟨x', seen⟩ := looks s
    cases seen.symm.trans answer

theorem run_write (transactional : S.Transactional) {i : Nat} {d : Database} (found : S.databases i = some d) {p : Place}
    (here : p.server = d.server) {frame : Frame} {append : Bool} {dtypes : List (String × String)} :
    Run S refused P (send (.write d p frame append dtypes)) (fun failed => .when (failed = none) (.there p)) := by
  apply Run.ask
  · intro s x s' _ _ answer
    rw [Servers.serve] at answer
    split_ifs at answer with reach
    · obtain ⟨rfl, rfl⟩ := Prod.mk.inj (Option.some.inj answer)
      have stays (uploads : S.Uploads p) : (s.tables.get p).isSome → (d.engine.toSql (s.tables.get p) frame append dtypes).table.isSome := by
        intro there
        obtain ⟨t, there⟩ := Option.isSome_iff_exists.mp there
        rw [there]
        exact transactional.replaces i d found (here.symm.trans uploads) t frame append dtypes
      refine ⟨keeps_put stays (fun uploads _ => owner_of_reaches reach uploads), fun fine uploads => ?_⟩
      rw [put_get, if_pos rfl]
      cases there : s.tables.get p with
      | none =>
        rw [there] at fine
        exact transactional.creates i d found (here.symm.trans uploads) frame append dtypes fine
      | some t => exact transactional.replaces i d found (here.symm.trans uploads) t frame append dtypes
    · obtain ⟨rfl, rfl⟩ := Prod.mk.inj (Option.some.inj answer)
      exact ⟨Keeps.refl s, fun fine => by cases fine⟩
  · intro s _ _ answer
    rw [Servers.serve] at answer
    split_ifs at answer

/-- The server of the operation cannot be reached. -/
def Unreachable (S : Site) (_ : Operation) (s : Stack) : Prop := ∃ server, S.servers.reaches s server = false

theorem run_drop {p : Place} (other : ¬S.Uploads p) : Run S (Unreachable S) P (send (.drop p)) (fun _ => .true) := by
  apply Run.ask
  · intro s x s' _ _ answer
    rw [Servers.serve] at answer
    split_ifs at answer
    obtain ⟨-, rfl⟩ := Prod.mk.inj (Option.some.inj answer)
    exact ⟨keeps_put (fun uploads => absurd uploads other) (fun uploads => absurd uploads other), trivial⟩
  · intro s _ _ answer
    rw [Servers.serve] at answer
    split_ifs at answer with reach
    exact ⟨p.server, by simpa using reach⟩

theorem run_create {d : Database} {p : Place} {definition : TableSchema.TableDef} (other : ¬S.Uploads p) :
    Run S (Unreachable S) P (send (.create d p definition)) (fun _ => .true) := by
  apply Run.ask
  · intro s x s' _ _ answer
    rw [Servers.serve] at answer
    split_ifs at answer
    cases there : s.tables.get p with
    | some t =>
      rw [there] at answer
      obtain ⟨-, rfl⟩ := Prod.mk.inj (Option.some.inj answer)
      exact ⟨Keeps.refl s, trivial⟩
    | none =>
      rw [there] at answer
      cases made : d.engine.create definition with
      | error e =>
        rw [made] at answer
        obtain ⟨-, rfl⟩ := Prod.mk.inj (Option.some.inj answer)
        exact ⟨Keeps.refl s, trivial⟩
      | ok t =>
        rw [made] at answer
        obtain ⟨-, rfl⟩ := Prod.mk.inj (Option.some.inj answer)
        exact ⟨keeps_put (fun uploads => absurd uploads other) (fun uploads => absurd uploads other), trivial⟩
  · intro s _ _ answer
    rw [Servers.serve] at answer
    split_ifs at answer with reach
    · cases there : s.tables.get p with
      | some t =>
        rw [there] at answer
        cases answer
      | none =>
        rw [there] at answer
        cases made : d.engine.create definition <;> rw [made] at answer <;> cases answer
    · exact ⟨p.server, by simpa using reach⟩

theorem run_alter {d : Database} {p : Place} {change : KeyChange} :
    Run S (Unreachable S) P (send (.alter d p change)) (fun _ => .true) := by
  apply Run.ask
  · intro s x s' _ _ answer
    rw [Servers.serve] at answer
    split_ifs at answer with reach
    cases there : s.tables.get p with
    | none =>
      rw [there] at answer
      obtain ⟨-, rfl⟩ := Prod.mk.inj (Option.some.inj answer)
      exact ⟨Keeps.refl s, trivial⟩
    | some t =>
      rw [there] at answer
      dsimp only at answer
      cases made : d.engine.alter t change with
      | error e =>
        rw [made] at answer
        obtain ⟨-, rfl⟩ := Prod.mk.inj (Option.some.inj answer)
        exact ⟨Keeps.refl s, trivial⟩
      | ok t' =>
        rw [made] at answer
        obtain ⟨-, rfl⟩ := Prod.mk.inj (Option.some.inj answer)
        exact ⟨keeps_put (fun _ _ => rfl) (fun uploads _ => owner_of_reaches reach uploads), trivial⟩
  · intro s _ _ answer
    rw [Servers.serve] at answer
    split_ifs at answer with reach
    · cases there : s.tables.get p with
      | none =>
        rw [there] at answer
        cases answer
      | some t =>
        rw [there] at answer
        dsimp only at answer
        cases made : d.engine.alter t change <;> rw [made] at answer <;> cases answer
    · exact ⟨p.server, by simpa using reach⟩

theorem mem_listed {s : Stack} {d : Database} {name : String} (mem : name ∈ s.listed d) :
    (s.tables.get (d.placeOf none name)).isSome := by
  obtain ⟨e, among, rfl⟩ := List.mem_map.mp mem
  obtain ⟨entry, fits⟩ := List.mem_filter.mp among
  obtain ⟨server, schema⟩ : e.1.server = d.server ∧ e.1.schema = d.engine.schemaOf none := by simpa using fits
  have place : d.placeOf none e.1.name = e.1 := by
    unfold Database.placeOf
    rw [Option.none_or, ← server, ← schema]
  rw [place, (s.tables.get_eq_some_iff e.1 e.2).mpr entry]
  rfl

theorem run_listTables {d : Database} : Run S (Unreachable S) P (send (.listTables d))
    (fun names => .every (fun name => .when (name ∈ names) (.there (d.placeOf none name)))) := by
  apply Run.read
  · intro s x s' _ _ answer
    rw [Servers.serve] at answer
    split_ifs at answer
    obtain ⟨rfl, rfl⟩ := Prod.mk.inj (Option.some.inj answer)
    exact ⟨rfl, fun name mem _ => mem_listed mem⟩
  · intro s _ _ answer
    rw [Servers.serve] at answer
    split_ifs at answer with reach
    exact ⟨d.server, by simpa using reach⟩

/-- A dataset is added for a table that is there. -/
theorem run_addDataset {databaseId : Nat} {schema : Option String} {name : String} {refusal : Option String}
    (there : ∀ s, P.holds s → ∀ d, S.databases databaseId = some d → d.server = S.servers.uploads →
      (s.tables.get (d.placeOf schema name)).isSome) :
    Run S refused P (send (.addDataset (Sync.newDataset databaseId schema name) refusal)) (fun _ => P) := by
  apply Run.ask
  · intro s x s' _ holds answer
    cases refusal with
    | some e =>
      obtain ⟨-, rfl⟩ := Prod.mk.inj (Option.some.inj answer)
      exact ⟨Keeps.refl s, holds⟩
    | none =>
      obtain ⟨-, rfl⟩ := Prod.mk.inj (Option.some.inj answer)
      have keeps := keeps_outside (S := S) (Outside.addDataset (s := s) (Sync.newDataset databaseId schema name)
        (fun d _ found uploads => there s holds d found uploads))
      exact ⟨keeps, P.kept _ _ keeps holds⟩
  · intro s _ _ answer
    cases refusal <;> cases answer

theorem run_fetchMetadata {k : Nat} {f : SqlaTable → SqlaTable} (same : SameTable f) :
    Run S refused P (send (.fetchMetadata k f)) (fun _ => P) := by
  apply Run.ask
  · intro s x s' _ holds answer
    obtain ⟨-, rfl⟩ := Prod.mk.inj (Option.some.inj answer)
    have keeps := keeps_outside (S := S) (Outside.editDataset (s := s) k f same)
    exact ⟨keeps, P.kept _ _ keeps holds⟩
  · intro s _ _ answer
    cases answer

end
end Site
end XpBuilder.Ops
