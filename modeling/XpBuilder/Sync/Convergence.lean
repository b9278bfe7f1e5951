import XpBuilder.Library.Lists
import XpBuilder.Sync.TableSync

/-! What a sync comes to. Every listed table is created, skipped or recorded as failed,
and a later sync creates what failed before. One dataset for each table is what comes
of it when the datasets that are found by name are those of the default schema. -/

namespace XpBuilder.Sync

/-! ## The loop -/

/-- The tables that the loop registers. -/
def registered (env : SyncEnv) (existing names : List String) : List String :=
  names.filter (fun n => n ∉ existing ∧ env.registers n = none)

/-- The tables whose registration is refused, with the errors. -/
def refusals (env : SyncEnv) (existing names : List String) : List (String × String) :=
  (names.filter (· ∉ existing)).filterMap (fun n => (env.registers n).map (fun e => (n, e)))

section Loop
variable (env : SyncEnv) (databaseId : Nat)

/-- The loop after the names, when the tables known before them were `existing`. -/
structure Registers (existing names : List String) (s s' : SyncState) : Prop where
  created : s'.created = s.created ++ registered env existing names
  failed : s'.failed = s.failed ++ refusals env existing names
  skipped : s'.skipped = s.skipped + names.countP (· ∈ existing)
  datasets : ∀ p, SeesIdentity p → (s'.datasets.keysWhere p).length =
    (s.datasets.keysWhere p).length +
      (registered env existing names).countP (fun n => p (newDataset databaseId none n))

theorem syncTable_existing {s : SyncState} {name : String} (known : name ∈ s.existing) :
    syncTable env databaseId s name = { s with skipped := s.skipped + 1 } := if_pos known

theorem mem_existing_syncTable {s : SyncState} {name n : String} (other : n ≠ name) :
    n ∈ (syncTable env databaseId s name).existing ↔ n ∈ s.existing := by
  unfold syncTable
  split
  · rfl
  · split
    · rfl
    · simp [other]

theorem known_after {s : SyncState} (name : String) {rest existing : List String} (fresh : name ∉ rest)
    (known : ∀ n ∈ rest, n ∈ s.existing ↔ n ∈ existing) :
    ∀ n ∈ rest, n ∈ (syncTable env databaseId s name).existing ↔ n ∈ existing := by
  intro n mem
  have other : n ≠ name := fun same => fresh (same ▸ mem)
  rw [mem_existing_syncTable env databaseId other]
  exact known n mem

/-- One turn of the loop on a table. -/
theorem registers_syncTable (s : SyncState) (name : String) {existing : List String}
    (known : name ∈ s.existing ↔ name ∈ existing) :
    Registers env databaseId existing [name] s (syncTable env databaseId s name) := by
  unfold syncTable
  by_cases there : name ∈ existing
  · rw [if_pos (known.mpr there)]
    constructor <;> simp [registered, refusals, there]
  · rw [if_neg (fun inside => there (known.mp inside))]
    cases refused : env.registers name with
    | some e => constructor <;> simp [registered, refusals, there, refused]
    | none =>
      constructor
      · simp [registered, there, refused]
      · simp [refusals, there, refused]
      · simp [there]
      · intro p sees
        rw [fetchColumns_keysWhere _ _ _ _ sees, Table.keysWhere_insert]
        cases new : p (newDataset databaseId none name) <;>
          simp [registered, there, refused, new]

theorem Registers.cons {existing names : List String} {name : String} {s t u : SyncState}
    (first : Registers env databaseId existing [name] s t)
    (rest : Registers env databaseId existing names t u) :
    Registers env databaseId existing (name :: names) s u where
  created := by
    have parts : registered env existing (name :: names) =
        registered env existing [name] ++ registered env existing names :=
      List.filter_append [name] names
    rw [rest.created, first.created, parts, List.append_assoc]
  failed := by
    have parts : refusals env existing (name :: names) =
        refusals env existing [name] ++ refusals env existing names := by
      have split := List.filter_append (p := (fun n => decide (n ∉ existing))) [name] names
      simp only [List.singleton_append] at split
      simp only [refusals, split, List.filterMap_append]
    rw [rest.failed, first.failed, parts, List.append_assoc]
  skipped := by
    have parts : (name :: names).countP (· ∈ existing) =
        [name].countP (· ∈ existing) + names.countP (· ∈ existing) := by
      rw [← List.countP_append, List.singleton_append]
    rw [rest.skipped, first.skipped, parts, Nat.add_assoc]
  datasets p sees := by
    have parts : registered env existing (name :: names) =
        registered env existing [name] ++ registered env existing names :=
      List.filter_append [name] names
    rw [rest.datasets p sees, first.datasets p sees, parts, List.countP_append, Nat.add_assoc]

/-- The whole loop, by induction on the names, which are distinct: a table that is
registered on the way is not met again. -/
theorem registers_foldl {names existing : List String} (distinct : names.Nodup) (s : SyncState)
    (known : ∀ n ∈ names, n ∈ s.existing ↔ n ∈ existing) :
    Registers env databaseId existing names s (names.foldl (syncTable env databaseId) s) := by
  induction names generalizing s with
  | nil => constructor <;> simp [registered, refusals]
  | cons name rest ih =>
    rw [List.nodup_cons] at distinct
    rw [List.forall_mem_cons] at known
    have later := known_after env databaseId name distinct.1 known.2
    have first := registers_syncTable env databaseId s name known.1
    exact first.cons env databaseId (ih distinct.2 (syncTable env databaseId s name) later)

theorem length_split (existing names : List String) : names.length =
    (registered env existing names).length + names.countP (· ∈ existing) +
      (refusals env existing names).length := by
  induction names with
  | nil => rfl
  | cons n rest ih =>
    by_cases there : n ∈ existing
    · simp [registered, refusals, there] at ih ⊢
      omega
    · cases refused : env.registers n with
      | none =>
        simp [registered, refusals, there, refused] at ih ⊢
        omega
      | some e =>
        simp [registered, refusals, there, refused] at ih ⊢
        omega

end Loop

/-! ## The answer -/

/-- The answer of a sync that lists its tables, and the loop behind it. -/
theorem syncTables_ok {env : SyncEnv} {databaseId : Nat} {datasets : Table SqlaTable}
    {summary : SyncSummary} (ok : (syncTables env databaseId datasets).1 = .ok summary) :
    ∃ listed s, env.listed = .ok listed ∧
      Registers env databaseId (existingTableNames datasets databaseId) (sortedNames listed)
        ⟨datasets, existingTableNames datasets databaseId, [], 0, []⟩ s ∧
      (syncTables env databaseId datasets).2 = s.datasets ∧
      summary.total = (sortedNames listed).length ∧ summary.created = s.created.length ∧
      summary.skipped = s.skipped ∧ summary.failed = s.failed ∧ summary.tables = s.created := by
  unfold syncTables at ok ⊢
  cases known : env.databaseName databaseId with
  | none => simp [known] at ok
  | some name =>
    cases listing : env.listed with
    | error e => simp [known, listing] at ok
    | ok listed =>
      simp only [known, listing, Except.ok.injEq] at ok ⊢
      subst ok
      have run := registers_foldl env databaseId (sortedNames_nodup listed)
        ⟨datasets, existingTableNames datasets databaseId, [], 0, []⟩ (fun _ _ => Iff.rfl)
      exact ⟨listed, _, rfl, run, rfl, rfl, rfl, rfl, rfl, rfl⟩

/-- The datasets of the table in the default schema that are not virtual; `home` says
which catalogs and schemas are the default ones. -/
def isHome (home : Option String → Option String → Bool) (databaseId : Nat) (name : String)
    (d : SqlaTable) : Bool :=
  d.databaseId = databaseId && d.tableName = name && !d.isVirtual && home d.catalog d.schema

theorem seesIdentity_isHome (home : Option String → Option String → Bool) (databaseId : Nat)
    (name : String) : SeesIdentity (isHome home databaseId name) := fun _ _ _ => rfl

/-- The datasets that a later sync takes for registered. -/
def isRegistered (databaseId : Nat) (name : String) (d : SqlaTable) : Bool :=
  d.databaseId = databaseId && d.tableName = name && d.sql = none

theorem mem_existing_iff {datasets : Table SqlaTable} {databaseId : Nat} {name : String} :
    name ∈ existingTableNames datasets databaseId ↔
      0 < (datasets.keysWhere (isRegistered databaseId name)).length := by
  rw [mem_existingTableNames, List.length_pos_iff_exists_mem]
  apply exists_congr
  intro k
  rw [Table.mem_keysWhere]
  apply exists_congr
  intro d
  simp only [isRegistered, Bool.and_eq_true, decide_eq_true_eq]
  tauto

/-- The catalog that a sync leaves with one dataset for each table: a table that is
found by name has one in the default schema already, and any other that is not
refused has none. -/
def Convergent (env : SyncEnv) (home : Option String → Option String → Bool) (databaseId : Nat)
    (datasets : Table SqlaTable) (listed : List String) : Prop :=
  ∀ name ∈ listed,
    if name ∈ existingTableNames datasets databaseId then
      (datasets.keysWhere (isHome home databaseId name)).length = 1
    else env.registers name = none →
      (datasets.keysWhere (isHome home databaseId name)).length = 0

instance (env : SyncEnv) (home : Option String → Option String → Bool) (databaseId : Nat)
    (datasets : Table SqlaTable) (listed : List String) :
    Decidable (Convergent env home databaseId datasets listed) :=
  inferInstanceAs (Decidable (∀ name ∈ listed, _))

section Counts
variable {env : SyncEnv} {databaseId : Nat} {existing names : List String} {s s' : SyncState}

theorem mem_registered {name : String} : name ∈ registered env existing names ↔
    name ∈ names ∧ name ∉ existing ∧ env.registers name = none := by
  simp [registered, List.mem_filter]

theorem mem_refused {name : String} : name ∈ (refusals env existing names).map Prod.fst ↔
    name ∈ names ∧ name ∉ existing ∧ env.registers name ≠ none := by
  simp only [refusals, List.mem_map, List.mem_filterMap, List.mem_filter, Option.map_eq_some_iff,
    decide_eq_true_eq]
  constructor
  · rintro ⟨_, ⟨n, ⟨inside, fresh⟩, e, refused, rfl⟩, rfl⟩
    exact ⟨inside, fresh, by simp [refused]⟩
  · rintro ⟨inside, fresh, refused⟩
    obtain ⟨e, there⟩ := Option.ne_none_iff_exists'.mp refused
    exact ⟨(name, e), ⟨name, ⟨inside, fresh⟩, e, there, rfl⟩, rfl⟩

/-- A registered table adds one dataset to those that `p` counts under its name. -/
theorem Registers.count {p : SqlaTable → Bool}
    (run : Registers env databaseId existing names s s') (name : String) (distinct : names.Nodup)
    (sees : SeesIdentity p) (new : ∀ n, p (newDataset databaseId none n) ↔ n = name) :
    (s'.datasets.keysWhere p).length = (s.datasets.keysWhere p).length +
      if name ∈ registered env existing names then 1 else 0 := by
  have once : (registered env existing names).Nodup := distinct.filter _
  have counted : (registered env existing names).countP (fun n => p (newDataset databaseId none n)) =
      (registered env existing names).count name := by
    rw [List.count]
    apply List.countP_congr
    intro n _
    simp [new]
  rw [run.datasets p sees, counted]
  split
  · rename_i inside
    rw [List.count_eq_one_of_mem once inside]
  · rename_i outside
    rw [List.count_eq_zero_of_not_mem outside]

theorem refusals_nodup (distinct : names.Nodup) :
    ((refusals env existing names).map Prod.fst).Nodup := by
  have named : (refusals env existing names).map Prod.fst =
      (names.filter (· ∉ existing)).filter (fun n => (env.registers n).isSome) := by
    unfold refusals
    induction names.filter (· ∉ existing) with
    | nil => rfl
    | cons n rest ih =>
      cases refused : env.registers n with
      | none => simp [refused, ih]
      | some e => simp [refused, ih]
  rw [named]
  exact (distinct.filter _).filter _

end Counts

/-! ## Convergence -/

section Convergence
variable {env : SyncEnv} {databaseId : Nat} {datasets : Table SqlaTable} {listed : List String}
  {summary : SyncSummary}

theorem total_eq (ok : (syncTables env databaseId datasets).1 = .ok summary) :
    summary.total = summary.created + summary.skipped + summary.failed.length := by
  obtain ⟨listed, s, -, run, -, total, created, skipped, failed, -⟩ := syncTables_ok ok
  have split := length_split env (existingTableNames datasets databaseId) (sortedNames listed)
  rw [total, created, skipped, failed, run.created, run.skipped, run.failed, List.nil_append,
    List.nil_append, Nat.zero_add]
  exact split

/-- A sync after this one, of the same tables and without refusals, creates the tables
that failed. -/
theorem again_perm (listing : env.listed = .ok listed)
    (ok : (syncTables env databaseId datasets).1 = .ok summary) {again : SyncEnv}
    {relisted : List String} (relisting : again.listed = .ok relisted)
    (same : ∀ n, n ∈ relisted ↔ n ∈ listed) (accepted : ∀ n, again.registers n = none)
    {later : SyncSummary}
    (ok_again : (syncTables again databaseId (syncTables env databaseId datasets).2).1 = .ok later) :
    later.tables.Perm (summary.failed.map Prod.fst) := by
  obtain ⟨names, s, names_eq, run, stored, -, -, -, failed, -⟩ := syncTables_ok ok
  obtain ⟨names', s', names'_eq, run', -, -, -, -, -, tables⟩ := syncTables_ok ok_again
  rw [listing, Except.ok.injEq] at names_eq
  rw [relisting, Except.ok.injEq] at names'_eq
  subst names_eq names'_eq
  rw [stored] at run'
  have known : ∀ n, n ∈ existingTableNames s.datasets databaseId ↔
      n ∈ existingTableNames datasets databaseId ∨
        n ∈ registered env (existingTableNames datasets databaseId) (sortedNames listed) := by
    intro n
    have new : ∀ m, isRegistered databaseId n (newDataset databaseId none m) ↔ m = n := by
      intro m
      unfold isRegistered newDataset
      simp
    have counted := run.count n (sortedNames_nodup listed) (fun _ _ _ => rfl) new
    rw [mem_existing_iff, mem_existing_iff, counted]
    split
    · rename_i inside
      simp [inside]
    · rename_i outside
      simp [outside]
  rw [tables, run'.created, failed, run.failed, List.nil_append, List.nil_append]
  apply (List.perm_ext_iff_of_nodup ((sortedNames_nodup relisted).filter _)
    (refusals_nodup (sortedNames_nodup listed))).mpr
  intro n
  have here : n ∈ registered again (existingTableNames s.datasets databaseId)
      (sortedNames relisted) ↔ _ := mem_registered
  unfold registered at here
  rw [here, mem_refused, known, mem_registered, mem_sortedNames, mem_sortedNames, same]
  have free := accepted n
  tauto

/-- One dataset for each table that did not fail, exactly on convergent catalogs. -/
theorem one_home_iff {home : Option String → Option String → Bool} (default : home none none)
    (listing : env.listed = .ok listed)
    (ok : (syncTables env databaseId datasets).1 = .ok summary) :
    (∀ name ∈ listed, name ∉ summary.failed.map Prod.fst →
      ((syncTables env databaseId datasets).2.keysWhere (isHome home databaseId name)).length = 1) ↔
    Convergent env home databaseId datasets listed := by
  obtain ⟨names, s, names_eq, run, stored, -, -, -, failed, -⟩ := syncTables_ok ok
  rw [listing, Except.ok.injEq] at names_eq
  subst names_eq
  rw [stored, failed, run.failed, List.nil_append]
  apply forall₂_congr
  intro name mem
  have new : ∀ m, isHome home databaseId name (newDataset databaseId none m) ↔ m = name := by
    intro m
    unfold isHome newDataset
    simp [SqlaTable.isVirtual, PythonText.truthy, default]
  have counted := run.count name (sortedNames_nodup listed)
    (seesIdentity_isHome home databaseId name) new
  simp only [counted, mem_refused, mem_registered, mem_sortedNames]
  by_cases there : name ∈ existingTableNames datasets databaseId
  · simp [there]
  · cases refused : env.registers name with
    | none => simp [there, mem]
    | some e => simp [there, mem]

end Convergence

/-- Whatever is refused, the counts add up and a later sync creates what failed; and
every other table has one dataset exactly on convergent catalogs. -/
theorem syncTables_converges_iff (env : SyncEnv) (databaseId : Nat) (datasets : Table SqlaTable)
    (home : Option String → Option String → Bool) (default : home none none) (listed : List String)
    (listing : env.listed = .ok listed) (summary : SyncSummary)
    (ok : (syncTables env databaseId datasets).1 = .ok summary) :
    summary.total = summary.created + summary.skipped + summary.failed.length ∧
    (∀ (again : SyncEnv) (relisted : List String) (later : SyncSummary),
      again.listed = .ok relisted → (∀ n, n ∈ relisted ↔ n ∈ listed) →
      (∀ n, again.registers n = none) →
      (syncTables again databaseId (syncTables env databaseId datasets).2).1 = .ok later →
        later.tables.Perm (summary.failed.map Prod.fst) ∧ later.created = summary.failed.length) ∧
    ((∀ name ∈ listed, name ∉ summary.failed.map Prod.fst →
      ((syncTables env databaseId datasets).2.keysWhere (isHome home databaseId name)).length = 1) ↔
      Convergent env home databaseId datasets listed) := by
  refine ⟨total_eq ok, ?_, one_home_iff default listing ok⟩
  intro again relisted later relisting same accepted ok_again
  have perm := again_perm listing ok relisting same accepted ok_again
  obtain ⟨_, _, -, -, -, -, created, -, -, tables⟩ := syncTables_ok ok_again
  have lengths := perm.length_eq
  rw [tables, List.length_map] at lengths
  exact ⟨perm, created.trans lengths⟩

/-! A database of one table, whose columns cannot be read. -/

def emptyServer : PublishEnv where
  user := none
  accessible _ _ := true
  reflect _ := none
  reflect_ne _ _ h := by simp at h
  compile _ _ := .error "no database"
  external _ := none
  temporalType _ := false
  refuses _ := none
  freshIds := ⟨"00000001", "00000002"⟩
  now := 0

def oneTable : SyncEnv where
  server := emptyServer
  databaseName id := if id = 1 then some "Moodle" else none
  listed := .ok ["mdl_user"]
  registers _ := none
  stores _ := none

def noSchema : Option String → Option String → Bool := fun catalog schema => catalog = none ∧ schema = none

/-- The table is registered. -/
theorem oneTable_converges : ((syncTables oneTable 1 Table.empty).2.keysWhere
    (isHome noSchema 1 "mdl_user")).length = 1 :=
  (syncTables_converges_iff oneTable 1 Table.empty noSchema rfl ["mdl_user"] rfl
    ⟨1, "Moodle", 1, 1, 0, [], ["mdl_user"]⟩ rfl).2.2.mpr (by decide) "mdl_user" (by simp) (by simp)

/-- The dataset of a table of the same name in another schema. -/
def archived : Table SqlaTable := Table.empty.insert (newDataset 1 (some "archive") "mdl_user")

/-- It is taken for the table, which is skipped and has no dataset. -/
theorem archived_not_registered :
    (syncTables oneTable 1 archived).1 = .ok ⟨1, "Moodle", 1, 0, 1, [], []⟩ ∧
      (syncTables oneTable 1 archived).2.keysWhere (isHome noSchema 1 "mdl_user") = [] := by
  decide

end XpBuilder.Sync
