import XpBuilder.Library.Runs
import XpBuilder.Staging.Endpoints
import XpBuilder.Sync.Convergence

/-! Uploads and syncs that register tables side by side. Each looks for a dataset, adds
and commits one that it did not find, and fetches its columns; other processes act
between these database operations. No constraint of the metadata schema decides
between two of them, so there is one dataset only when nobody commits while another
is between its look and its commit. -/

namespace XpBuilder

/-- A dataset as `find_dataset` asks for it. -/
structure DatasetName where
  databaseId : Nat
  schema : Option String
  name : String
  deriving DecidableEq, Repr

/-- What a process is to register: `ingest_excel` or `sync_tables`. -/
inductive Job where
  | ingest (t : DatasetName)
  | sync (databaseId : Nat) (listed : List String)
  deriving DecidableEq, Repr

inductive RegistrationError where
  | multipleRows
  | integrity
  | other (message : String)
  deriving DecidableEq, Repr

/-- Where a process is between its database operations: before its look, with the
names it found missing and has not committed, after an IntegrityError, with the
dataset whose columns it fetches next, or at its end. -/
inductive Stage where
  | waiting
  | registering (names : List String)
  | colliding
  | fetching (k : Nat) (names : List String)
  | returned (k : Option Nat)
  | failed (error : RegistrationError)
  deriving DecidableEq, Repr

/-- How a commit ends. -/
inductive Commit where
  | accepted
  | conflict
  | refused (message : String)
  deriving DecidableEq, Repr

def Commit.error : Commit → Option String
  | .accepted => none
  | .conflict => some "IntegrityError"
  | .refused e => some e

/-- The next operation of a process, with what the databases answer. -/
structure Event where
  process : Nat
  commit : Commit
  server : PublishEnv

structure Registering where
  datasets : Table SqlaTable
  stages : Nat → Stage

def Registering.put (s : Registering) (i : Nat) (datasets : Table SqlaTable) (stage : Stage) :
    Registering :=
  ⟨datasets, Function.update s.stages i stage⟩

namespace Sync
open Staging (findDatasets)

/-- `find_dataset`, and what becomes of the process when there is none. -/
def look (datasets : Table SqlaTable) (t : DatasetName) (missing : Stage) : Stage :=
  match findDatasets datasets t.databaseId t.schema t.name with
  | [] => missing
  | [k] => .fetching k []
  | _ => .failed .multipleRows

/-- The part of `ingest_excel` that registers the staged table. -/
def ingestStep (t : DatasetName) (s : Registering) (a : Event) : Registering :=
  match s.stages a.process with
  | .waiting => s.put a.process s.datasets (look s.datasets t (.registering [t.name]))
  | .registering _ =>
    match a.commit with
    | .accepted =>
      s.put a.process (s.datasets.insert (newDataset t.databaseId t.schema t.name))
        (.fetching s.datasets.next [])
    | .conflict => s.put a.process s.datasets .colliding
    | .refused e => s.put a.process s.datasets (.failed (.other e))
  | .colliding => s.put a.process s.datasets (look s.datasets t (.failed .integrity))
  | .fetching k _ =>
    match a.commit.error with
    | none => s.put a.process (fetchColumns a.server none k s.datasets) (.returned (some k))
    | some e => s.put a.process s.datasets (.failed (.other e))
  | _ => s

/-- `sync_tables`, one operation at a time. -/
def syncStep (databaseId : Nat) (listed : List String) (s : Registering) (a : Event) : Registering :=
  match s.stages a.process with
  | .waiting =>
    s.put a.process s.datasets (.registering ((sortedNames listed).filter
      (· ∉ existingTableNames s.datasets databaseId)))
  | .registering [] => s.put a.process s.datasets (.returned none)
  | .registering (name :: rest) =>
    match a.commit with
    | .accepted =>
      s.put a.process (s.datasets.insert (newDataset databaseId none name))
        (.fetching s.datasets.next rest)
    | _ => s.put a.process s.datasets (.registering rest)
  | .fetching k rest =>
    s.put a.process (fetchColumns a.server a.commit.error k s.datasets) (.registering rest)
  | _ => s

variable (jobs : Nat → Job)

def step (s : Registering) (a : Event) : Registering :=
  match jobs a.process with
  | .ingest t => ingestStep t s a
  | .sync databaseId listed => syncStep databaseId listed s a

/-- Nobody has started. -/
def start (datasets : Table SqlaTable) : Registering := ⟨datasets, fun _ => .waiting⟩

/-- The datasets that a process found missing and has not committed yet. -/
def ahead : Job → Stage → List DatasetName
  | .ingest t, .registering _ => [t]
  | .sync databaseId _, .registering names => names.map (fun n => ⟨databaseId, none, n⟩)
  | .sync databaseId _, .fetching _ names => names.map (fun n => ⟨databaseId, none, n⟩)
  | _, _ => []

/-- The dataset that an operation commits. -/
def commits (s : Registering) (a : Event) : Option DatasetName :=
  match s.stages a.process, a.commit with
  | .registering _, .accepted => (ahead (jobs a.process) (s.stages a.process)).head?
  | _, _ => none

/-- Whoever commits the dataset, no other process is between its look and its commit. -/
def Alone (t : DatasetName) (s : Registering) (a : Event) : Prop :=
  commits jobs s a = some t →
    ∀ j, j ≠ a.process → t ∉ ahead (jobs j) (s.stages j)

/-! ## Datasets under a name -/

def isUnder (t : DatasetName) (d : SqlaTable) : Bool :=
  d.databaseId = t.databaseId ∧ d.schema = t.schema ∧ d.tableName = t.name

def isPhysical (t : DatasetName) (d : SqlaTable) : Bool := isUnder t d && !d.isVirtual

/-- Some sync of the database lists the table. -/
def Listed (t : DatasetName) : Prop :=
  t.schema = none ∧ ∃ i listed, jobs i = .sync t.databaseId listed ∧ t.name ∈ listed

/-- At most one dataset, which every upload that is through has returned, and none
has failed on a second one. -/
structure OneDataset (t : DatasetName) (s : Registering) : Prop where
  atMostOne : (s.datasets.keysWhere (isPhysical t)).length ≤ 1
  returned : ∀ i k, jobs i = .ingest t → s.stages i = .returned (some k) →
    s.datasets.keysWhere (isPhysical t) = [k]
  found : ∀ i, jobs i = .ingest t → s.stages i ≠ .failed .multipleRows

/-- The catalog that the processes start from: at most one dataset under the name,
not virtual, and with sql NULL where a sync looks for it. -/
structure Fresh (t : DatasetName) (datasets : Table SqlaTable) : Prop where
  atMostOne : (datasets.keysWhere (isUnder t)).length ≤ 1
  physical : datasets.keysWhere (fun d => isUnder t d && d.isVirtual) = []
  unset : Listed jobs t → datasets.keysWhere (fun d => isUnder t d && d.sql ≠ none) = []

/-! ## The invariant -/

section Invariant
variable {jobs} {t : DatasetName} {s : Registering}

/-- The process has the dataset. -/
def Stage.Holds (k : Nat) : Stage → Prop
  | .fetching k' _ => k' = k
  | .returned (some k') => k' = k
  | _ => False

/-- While a process is about to commit the dataset there is none, and a process that
has one has the only one. -/
structure Invariant (jobs : Nat → Job) (t : DatasetName) (s : Registering) : Prop
    extends Fresh jobs t s.datasets where
  missing : ∀ i, t ∈ ahead (jobs i) (s.stages i) → s.datasets.keysWhere (isUnder t) = []
  distinct : ∀ i, (ahead (jobs i) (s.stages i)).Nodup
  holds : ∀ i k, jobs i = .ingest t → Stage.Holds k (s.stages i) →
    s.datasets.keysWhere (isUnder t) = [k]
  found : ∀ i, jobs i = .ingest t → s.stages i ≠ .failed .multipleRows

theorem findDatasets_eq (datasets : Table SqlaTable) (t : DatasetName) :
    findDatasets datasets t.databaseId t.schema t.name = datasets.keysWhere (isUnder t) := rfl

theorem seesIdentity_isUnder (t : DatasetName) : SeesIdentity (isUnder t) := fun _ _ _ => rfl

theorem keysWhere_isPhysical (physical : s.datasets.keysWhere (fun d => isUnder t d && d.isVirtual) = []) :
    s.datasets.keysWhere (isPhysical t) = s.datasets.keysWhere (isUnder t) := by
  unfold Table.keysWhere Dict.keysWhere at physical ⊢
  rw [List.map_eq_nil_iff, List.filter_eq_nil_iff] at physical
  apply congrArg
  apply List.filter_congr
  intro e mem
  have none := physical e mem
  cases under : isUnder t e.2 with
  | false => simp [isPhysical, under]
  | true => simpa [isPhysical, under] using none

theorem Invariant.oneDataset (h : Invariant jobs t s) : OneDataset jobs t s where
  atMostOne := by
    rw [keysWhere_isPhysical h.physical]
    exact h.atMostOne
  returned i k job stage := by
    rw [keysWhere_isPhysical h.physical]
    exact h.holds i k job (by rw [stage]; rfl)
  found := h.found

theorem ahead_waiting (job : Job) : ahead job .waiting = [] := by
  cases job <;> rfl

theorem Fresh.invariant {datasets : Table SqlaTable} (fresh : Fresh jobs t datasets) :
    Invariant jobs t (start datasets) where
  toFresh := fresh
  missing i mem := by simp [start, ahead_waiting] at mem
  distinct i := by simp [start, ahead_waiting]
  holds i k _ holds := by simp [start, Stage.Holds] at holds
  found i _ := by simp [start]

/-- The datasets under the name stay as they are. -/
def SameUnder (t : DatasetName) (datasets datasets' : Table SqlaTable) : Prop :=
  ∀ p, SeesIdentity p → (∀ d, p d → isUnder t d) → datasets'.keysWhere p = datasets.keysWhere p

theorem SameUnder.refl (t : DatasetName) (datasets : Table SqlaTable) :
    SameUnder t datasets datasets := fun _ _ _ => rfl

theorem SameUnder.also {datasets datasets' : Table SqlaTable} (same : SameUnder t datasets datasets')
    (q : SqlaTable → Bool) (sees : SeesIdentity q) :
    datasets'.keysWhere (fun d => isUnder t d && q d) =
      datasets.keysWhere (fun d => isUnder t d && q d) := by
  apply same
  · intro server ext d
    exact congrArg (fun b => isUnder t d && b) (sees server ext d)
  · exact fun d both => (Bool.and_eq_true_iff.mp both).1

theorem sameUnder_fetchColumns (t : DatasetName) (server : PublishEnv) (refused : Option String)
    (k : Nat) (datasets : Table SqlaTable) :
    SameUnder t datasets (fetchColumns server refused k datasets) :=
  fun _ sees _ => fetchColumns_keysWhere server refused k datasets sees

theorem isUnder_newDataset (t u : DatasetName) :
    isUnder t (newDataset u.databaseId u.schema u.name) ↔ u = t := by
  unfold isUnder newDataset
  cases t
  cases u
  simp

theorem sameUnder_insert {u : DatasetName} (other : u ≠ t) (datasets : Table SqlaTable) :
    SameUnder t datasets (datasets.insert (newDataset u.databaseId u.schema u.name)) := by
  intro p _ under
  have no : p (newDataset u.databaseId u.schema u.name) = false := by
    by_contra yes
    exact other ((isUnder_newDataset t u).mp (under _ (by simpa using yes)))
  rw [Table.keysWhere_insert, no]
  simp

/-- What an operation that leaves the datasets under the name alone has to make sure
of for its own process. -/
structure Sound (jobs : Nat → Job) (t : DatasetName) (datasets : Table SqlaTable) (i : Nat)
    (stage : Stage) : Prop where
  missing : t ∈ ahead (jobs i) stage → datasets.keysWhere (isUnder t) = []
  distinct : (ahead (jobs i) stage).Nodup
  holds : ∀ k, jobs i = .ingest t → Stage.Holds k stage → datasets.keysWhere (isUnder t) = [k]
  found : jobs i = .ingest t → stage ≠ .failed .multipleRows

theorem Invariant.keep (h : Invariant jobs t s) {i : Nat} {stage : Stage}
    (sound : Sound jobs t s.datasets i stage) {datasets : Table SqlaTable}
    (same : SameUnder t s.datasets datasets) : Invariant jobs t (s.put i datasets stage) := by
  have under := same (isUnder t) (seesIdentity_isUnder t) (fun _ => id)
  have stage_eq : ∀ j, (s.put i datasets stage).stages j = if j = i then stage else s.stages j :=
    fun j => Function.update_apply s.stages i stage j
  have datasets_eq : (s.put i datasets stage).datasets = datasets := rfl
  constructor
  · constructor
    · rw [datasets_eq, under]
      exact h.atMostOne
    · exact (same.also SqlaTable.isVirtual (fun _ _ _ => rfl)).trans h.physical
    · intro listed
      exact (same.also (fun d => d.sql ≠ none) (fun _ _ _ => rfl)).trans (h.unset listed)
  · intro j mem
    rw [datasets_eq, under]
    rw [stage_eq] at mem
    split at mem
    · rename_i own
      exact sound.missing (own ▸ mem)
    · exact h.missing j mem
  · intro j
    rw [stage_eq]
    split
    · rename_i own
      exact own ▸ sound.distinct
    · exact h.distinct j
  · intro j k job holds
    rw [datasets_eq, under]
    rw [stage_eq] at holds
    split at holds
    · rename_i own
      exact sound.holds k (own ▸ job) holds
    · exact h.holds j k job holds
  · intro j job
    rw [stage_eq]
    split
    · rename_i own
      exact sound.found (own ▸ job)
    · exact h.found j job

/-- A commit of the dataset by the one process that is about to. -/
theorem Invariant.insert (h : Invariant jobs t s) {i : Nat} {stage : Stage}
    (was : t ∈ ahead (jobs i) (s.stages i))
    (alone : ∀ j, j ≠ i → t ∉ ahead (jobs j) (s.stages j))
    (gone : t ∉ ahead (jobs i) stage) (distinct : (ahead (jobs i) stage).Nodup)
    (holds : ∀ k, Stage.Holds k stage → k = s.datasets.next)
    (found : stage ≠ .failed .multipleRows) :
    Invariant jobs t
      (s.put i (s.datasets.insert (newDataset t.databaseId t.schema t.name)) stage) := by
  have absent := h.missing i was
  have under : (s.datasets.insert (newDataset t.databaseId t.schema t.name)).keysWhere (isUnder t) =
      [s.datasets.next] := by
    rw [Table.keysWhere_insert, absent, if_pos ((isUnder_newDataset t t).mpr rfl)]
    rfl
  have fresh : ∀ q : SqlaTable → Bool, q (newDataset t.databaseId t.schema t.name) = false →
      s.datasets.keysWhere (fun d => isUnder t d && q d) = [] →
      (s.datasets.insert (newDataset t.databaseId t.schema t.name)).keysWhere
        (fun d => isUnder t d && q d) = [] := by
    intro q fails before
    rw [Table.keysWhere_insert, before, fails]
    simp
  have stage_eq : ∀ j, (s.put i (s.datasets.insert (newDataset t.databaseId t.schema t.name))
      stage).stages j = if j = i then stage else s.stages j :=
    fun j => Function.update_apply s.stages i stage j
  constructor
  · constructor
    · exact (congrArg List.length under).le
    · exact fresh SqlaTable.isVirtual rfl h.physical
    · intro listed
      exact fresh (fun d => d.sql ≠ none) rfl (h.unset listed)
  · intro j mem
    rw [stage_eq] at mem
    split at mem
    · rename_i own
      exact absurd (own ▸ mem) gone
    · rename_i other
      exact absurd mem (alone j other)
  · intro j
    rw [stage_eq]
    split
    · rename_i own
      exact own ▸ distinct
    · exact h.distinct j
  · intro j k job has
    rw [stage_eq] at has
    split at has
    · rw [holds k has]
      exact under
    · have before := h.holds j k job has
      rw [absent] at before
      cases before
  · intro j job
    rw [stage_eq]
    split
    · exact found
    · exact h.found j job

/-! ## One operation -/

/-- A look finds the one dataset, or none. -/
theorem look_eq (h : Invariant jobs t s) (missing : Stage) :
    look s.datasets t missing = missing ∧ s.datasets.keysWhere (isUnder t) = [] ∨
      ∃ k, look s.datasets t missing = .fetching k [] ∧ s.datasets.keysWhere (isUnder t) = [k] := by
  unfold look
  rw [findDatasets_eq]
  have few := h.atMostOne
  cases rows : s.datasets.keysWhere (isUnder t) with
  | nil => exact .inl ⟨rfl, rfl⟩
  | cons k rest =>
    cases rest with
    | nil => exact .inr ⟨k, rfl, rfl⟩
    | cons k' rest => simp [rows] at few

theorem ahead_ingest (u : DatasetName) (stage : Stage) :
    ahead (.ingest u) stage = [u] ∨ ahead (.ingest u) stage = [] := by
  cases stage with
  | registering names => exact .inl rfl
  | _ => exact .inr rfl

/-- An upload that registers another dataset. -/
theorem sound_other {i : Nat} {u : DatasetName} (job : jobs i = .ingest u) (other : u ≠ t)
    (datasets : Table SqlaTable) (stage : Stage) : Sound jobs t datasets i stage where
  missing mem := by
    rw [job] at mem
    obtain one | nothing := ahead_ingest u stage
    · rw [one, List.mem_singleton] at mem
      exact absurd mem.symm other
    · simp [nothing] at mem
  distinct := by
    rw [job]
    obtain one | nothing := ahead_ingest u stage
    · simp [one]
    · simp [nothing]
  holds k same := by
    rw [job, Job.ingest.injEq] at same
    exact absurd same other
  found same := by
    rw [job, Job.ingest.injEq] at same
    exact absurd same other

/-- An upload that has nothing to commit and no dataset. -/
theorem sound_idle {i : Nat} (job : jobs i = .ingest t) {datasets : Table SqlaTable} {stage : Stage}
    (nothing : ahead (.ingest t) stage = []) (none : ∀ k, ¬Stage.Holds k stage)
    (found : stage ≠ .failed .multipleRows) : Sound jobs t datasets i stage where
  missing mem := by simp [job, nothing] at mem
  distinct := by simp [job, nothing]
  holds k _ holds := absurd holds (none k)
  found _ := found

/-- An upload that has found the dataset, or fetched its columns. -/
theorem sound_holding {i : Nat} (job : jobs i = .ingest t) {datasets : Table SqlaTable}
    {stage : Stage} {k : Nat} (rows : datasets.keysWhere (isUnder t) = [k])
    (nothing : ahead (.ingest t) stage = []) (only : ∀ k', Stage.Holds k' stage → k' = k)
    (found : stage ≠ .failed .multipleRows) : Sound jobs t datasets i stage where
  missing mem := by simp [job, nothing] at mem
  distinct := by simp [job, nothing]
  holds k' _ holds := by rw [only k' holds, rows]
  found _ := found

theorem sound_fetching {i : Nat} (job : jobs i = .ingest t) {k : Nat}
    (rows : s.datasets.keysWhere (isUnder t) = [k]) : Sound jobs t s.datasets i (.fetching k []) :=
  sound_holding job rows rfl (fun _ holds => holds.symm) (by simp)

/-- An upload for another table leaves the datasets of this one alone. -/
theorem invariant_ingestStep_other (h : Invariant jobs t s) {a : Event} {u : DatasetName}
    (job : jobs a.process = .ingest u) (same : u ≠ t) : Invariant jobs t (ingestStep u s a) := by
  unfold ingestStep
  have sound := sound_other job same s.datasets
  cases s.stages a.process with
  | waiting => exact h.keep (sound _) (.refl t s.datasets)
  | registering names =>
    cases a.commit with
    | accepted => exact h.keep (sound _) (sameUnder_insert same s.datasets)
    | conflict => exact h.keep (sound _) (.refl t s.datasets)
    | refused e => exact h.keep (sound _) (.refl t s.datasets)
  | colliding => exact h.keep (sound _) (.refl t s.datasets)
  | fetching k names =>
    cases a.commit.error with
    | none => exact h.keep (sound _) (sameUnder_fetchColumns t a.server none k s.datasets)
    | some e => exact h.keep (sound _) (.refl t s.datasets)
  | returned k => exact h
  | failed e => exact h

theorem invariant_ingestStep (h : Invariant jobs t s) {a : Event} {u : DatasetName}
    (job : jobs a.process = .ingest u) (alone : Alone jobs t s a) :
    Invariant jobs t (ingestStep u s a) := by
  by_cases same : u = t
  · subst same
    unfold ingestStep
    cases stage : s.stages a.process with
    | waiting =>
      obtain ⟨missing, rows⟩ | ⟨k, found, rows⟩ := look_eq h (.registering [u.name])
      · simp only [missing]
        have sound : Sound jobs u s.datasets a.process (.registering [u.name]) := by
          refine ⟨fun _ => rows, by simp [job, ahead], fun k _ holds => ?_, by simp⟩
          simp [Stage.Holds] at holds
        exact h.keep sound (.refl u s.datasets)
      · simp only [found]
        exact h.keep (sound_fetching job rows) (.refl u s.datasets)
    | registering names =>
      cases commit : a.commit with
      | accepted =>
        have was : u ∈ ahead (jobs a.process) (s.stages a.process) := by
          simp [job, stage, ahead]
        have committed : commits jobs s a = some u := by
          simp [commits, stage, commit, job, ahead]
        exact h.insert was (alone committed) (by simp [job, ahead]) (by simp [job, ahead])
          (fun k holds => holds.symm) (by simp)
      | conflict =>
        refine h.keep (sound_idle job rfl ?_ (by simp)) (.refl u s.datasets)
        simp [Stage.Holds]
      | refused e =>
        refine h.keep (sound_idle job rfl ?_ (by simp)) (.refl u s.datasets)
        simp [Stage.Holds]
    | colliding =>
      obtain ⟨missing, -⟩ | ⟨k, found, rows⟩ := look_eq h (.failed .integrity)
      · simp only [missing]
        refine h.keep (sound_idle job rfl ?_ (by simp)) (.refl u s.datasets)
        simp [Stage.Holds]
      · simp only [found]
        exact h.keep (sound_fetching job rows) (.refl u s.datasets)
    | fetching k names =>
      have rows := h.holds a.process k job (by rw [stage]; rfl)
      cases commit : a.commit.error with
      | none =>
        refine h.keep (sound_holding job rows rfl ?_ (by simp))
          (sameUnder_fetchColumns u a.server none k s.datasets)
        exact fun _ holds => holds.symm
      | some e =>
        refine h.keep (sound_idle job rfl ?_ (by simp)) (.refl u s.datasets)
        simp [Stage.Holds]
    | returned k => exact h
    | failed e => exact h
  · exact invariant_ingestStep_other h job same

/-- A sync has no dataset to return, so that only its names matter. -/
theorem sound_sync {i databaseId : Nat} {listed : List String} (job : jobs i = .sync databaseId listed)
    {datasets : Table SqlaTable} {stage : Stage}
    (missing : t ∈ ahead (.sync databaseId listed) stage → datasets.keysWhere (isUnder t) = [])
    (distinct : (ahead (.sync databaseId listed) stage).Nodup) : Sound jobs t datasets i stage where
  missing mem := missing (job ▸ mem)
  distinct := job ▸ distinct
  holds k same := by simp [job] at same
  found same := by simp [job] at same

theorem named_injective (databaseId : Nat) :
    Function.Injective (fun n => (⟨databaseId, none, n⟩ : DatasetName)) :=
  fun _ _ same => congrArg DatasetName.name same

/-- A table that no dataset without SQL is named after has no dataset. -/
theorem rows_of_not_existing (h : Fresh jobs t s.datasets) (listed : Listed jobs t)
    (missing : t.name ∉ existingTableNames s.datasets t.databaseId) :
    s.datasets.keysWhere (isUnder t) = [] := by
  apply List.eq_nil_iff_forall_not_mem.mpr
  intro k mem
  obtain ⟨d, row, under⟩ := Table.mem_keysWhere.mp mem
  have unset : d.sql = none := by
    by_contra set
    have there : k ∈ s.datasets.keysWhere (fun d => isUnder t d && d.sql ≠ none) :=
      Table.mem_keysWhere.mpr ⟨d, row, by simp [under, set]⟩
    rw [h.unset listed] at there
    cases there
  simp only [isUnder, decide_eq_true_eq] at under
  exact missing (mem_existingTableNames.mpr ⟨k, d, row, under.1, unset, under.2.2⟩)

theorem invariant_syncStep (h : Invariant jobs t s) {a : Event} {databaseId : Nat}
    {listed : List String} (job : jobs a.process = .sync databaseId listed)
    (alone : Alone jobs t s a) : Invariant jobs t (syncStep databaseId listed s a) := by
  have missing := h.missing a.process
  have distinct := h.distinct a.process
  unfold syncStep
  cases stage : s.stages a.process with
  | waiting =>
    refine h.keep (sound_sync job ?_ ?_) (.refl t s.datasets)
    · intro mem
      obtain ⟨n, inside, rfl⟩ := List.mem_map.mp mem
      have kept := List.mem_filter.mp inside
      have known : n ∈ listed := mem_sortedNames.mp kept.1
      exact rows_of_not_existing h.toFresh ⟨rfl, a.process, listed, job, known⟩ (by simpa using kept.2)
    · exact ((sortedNames_nodup listed).filter _).map (named_injective databaseId)
  | registering names =>
    rw [job, stage] at missing distinct
    cases names with
    | nil => exact h.keep (sound_sync job (by simp [ahead]) (by simp [ahead])) (.refl t s.datasets)
    | cons name rest =>
      simp only [ahead, List.map_cons, List.nodup_cons] at missing distinct
      have others : t ∈ rest.map (fun n => (⟨databaseId, none, n⟩ : DatasetName)) →
          s.datasets.keysWhere (isUnder t) = [] :=
        fun mem => missing (List.mem_cons_of_mem _ mem)
      have sound : Sound jobs t s.datasets a.process (.registering rest) :=
        sound_sync job others distinct.2
      cases commit : a.commit with
      | accepted =>
        by_cases same : (⟨databaseId, none, name⟩ : DatasetName) = t
        · subst same
          have committed : commits jobs s a = some ⟨databaseId, none, name⟩ := by
            simp [commits, stage, commit, job, ahead]
          have was : ⟨databaseId, none, name⟩ ∈ ahead (jobs a.process) (s.stages a.process) := by
            simp [job, stage, ahead]
          refine h.insert was (alone committed) ?_ ?_ (fun k holds => holds.symm) (by simp)
          · rw [job]
            exact distinct.1
          · rw [job]
            exact distinct.2
        · have fetching : Sound jobs t s.datasets a.process (.fetching s.datasets.next rest) :=
            sound_sync job others distinct.2
          exact h.keep fetching (sameUnder_insert same s.datasets)
      | conflict => exact h.keep sound (.refl t s.datasets)
      | refused e => exact h.keep sound (.refl t s.datasets)
  | fetching k rest =>
    rw [job, stage] at missing distinct
    have sound : Sound jobs t s.datasets a.process (.registering rest) :=
      sound_sync job missing distinct
    exact h.keep sound
      (sameUnder_fetchColumns t a.server a.commit.error k s.datasets)
  | colliding => exact h
  | returned k => exact h
  | failed e => exact h

theorem invariant_step (h : Invariant jobs t s) {a : Event} (alone : Alone jobs t s a) :
    Invariant jobs t (step jobs s a) := by
  unfold step
  cases job : jobs a.process with
  | ingest u => exact invariant_ingestStep h job alone
  | sync databaseId listed => exact invariant_syncStep h job alone

end Invariant

/-- From a catalog with at most one dataset, every run in which the dataset is only ever
committed while no other process is about to leaves at most one, the one that every
upload returns. -/
theorem oneDataset_of_alone (jobs : Nat → Job) (t : DatasetName) (datasets : Table SqlaTable)
    (fresh : Fresh jobs t datasets) (events : List Event)
    (alone : Runs.Each (step jobs) (Alone jobs t) (start datasets) events) :
    OneDataset jobs t (Runs.after (step jobs) (start datasets) events) := by
  have kept := Runs.Each.of_invariant (I := Invariant jobs t) (Q := fun _ _ => True)
    (fun _ _ h alone => ⟨trivial, invariant_step h alone⟩) fresh.invariant alone
  exact kept.2.oneDataset

/-! ## A sync that nobody disturbs -/

section Undisturbed
variable {jobs} {i databaseId : Nat} {listed : List String}

/-- The operations on one table. -/
def turn (env : SyncEnv) (i : Nat) (name : String) : List Event :=
  match env.registers name with
  | some e => [⟨i, .refused e, env.server⟩]
  | none =>
    [⟨i, .accepted, env.server⟩, ⟨i, (env.stores name).elim .accepted .refused, env.server⟩]

theorem after_turn (job : jobs i = .sync databaseId listed) (env : SyncEnv) {s : Registering}
    {name : String} {rest : List String} (stage : s.stages i = .registering (name :: rest)) :
    Runs.after (step jobs) s (turn env i name) = s.put i
      (match env.registers name with
        | some _ => s.datasets
        | none => fetchColumns env.server (env.stores name) s.datasets.next
            (s.datasets.insert (newDataset databaseId none name)))
      (.registering rest) := by
  unfold turn
  cases env.registers name with
  | some e => simp [Runs.after, step, job, syncStep, stage]
  | none =>
    have stored : ((env.stores name).elim Commit.accepted Commit.refused).error = env.stores name := by
      cases env.stores name <;> rfl
    simp [Runs.after, step, job, syncStep, stage, Registering.put, stored]

/-- The loop, by induction on the names. -/
theorem after_turns (job : jobs i = .sync databaseId listed) (env : SyncEnv)
    {names existing : List String} (distinct : names.Nodup) {r : Registering} {s : SyncState}
    (same : r.datasets = s.datasets)
    (stage : r.stages i = .registering (names.filter (· ∉ existing)))
    (known : ∀ n ∈ names, n ∈ s.existing ↔ n ∈ existing) :
    (Runs.after (step jobs) r ((names.filter (· ∉ existing)).flatMap (turn env i))).datasets =
      (names.foldl (syncTable env databaseId) s).datasets := by
  induction names generalizing r s with
  | nil => simpa using same
  | cons name rest ih =>
    rw [List.nodup_cons] at distinct
    rw [List.forall_mem_cons] at known
    have later := known_after env databaseId name distinct.1 known.2
    rw [List.foldl_cons]
    by_cases there : name ∈ existing
    · have skipped : (name :: rest).filter (· ∉ existing) = rest.filter (· ∉ existing) := by
        simp [there]
      rw [skipped] at stage ⊢
      refine ih distinct.2 ?_ stage later
      rw [syncTable_existing env databaseId (known.1.mpr there)]
      exact same
    · have kept : (name :: rest).filter (· ∉ existing) = name :: rest.filter (· ∉ existing) := by
        simp [there]
      have fresh : name ∉ s.existing := fun inside => there (known.1.mp inside)
      rw [kept] at stage ⊢
      rw [List.flatMap_cons, Runs.after_append, after_turn job env stage]
      refine ih distinct.2 ?_ (Function.update_self _ _ _) later
      unfold syncTable
      rw [if_neg fresh, ← same]
      cases env.registers name with
      | some e => rfl
      | none => rfl

/-- Undisturbed, the process does what `sync_tables` does. -/
theorem sync_undisturbed (job : jobs i = .sync databaseId listed) (env : SyncEnv)
    (listing : env.listed = .ok listed) {databaseName : String}
    (known : env.databaseName databaseId = some databaseName) (datasets : Table SqlaTable) :
    (Runs.after (step jobs) (start datasets) (⟨i, .accepted, env.server⟩ ::
      ((sortedNames listed).filter (· ∉ existingTableNames datasets databaseId)).flatMap
        (turn env i))).datasets = (syncTables env databaseId datasets).2 := by
  have looked : step jobs (start datasets) ⟨i, .accepted, env.server⟩ =
      (start datasets).put i datasets (.registering ((sortedNames listed).filter
        (· ∉ existingTableNames datasets databaseId))) := by
    simp only [step, job, syncStep, start]
    rfl
  rw [Runs.after_cons, looked, after_turns job env (sortedNames_nodup listed)
    (s := ⟨datasets, existingTableNames datasets databaseId, [], 0, []⟩) rfl
    (Function.update_self _ _ _) (fun _ _ => Iff.rfl)]
  simp [syncTables, known, listing]

end Undisturbed

/-! Two uploads and a sync of one table. -/

def uploads : DatasetName := ⟨1, none, "uploads"⟩

def uploadsJobs (i : Nat) : Job := if i = 2 then .sync 1 ["uploads"] else .ingest uploads

/-- An operation whose commit is accepted, when no columns can be read. -/
def acts (i : Nat) : Event where
  process := i
  commit := .accepted
  server := emptyServer

theorem uploads_fresh : Fresh uploadsJobs uploads Table.empty where
  atMostOne := by decide
  physical := rfl
  unset _ := rfl

/-- One upload, the sync and the other upload, one after another. -/
theorem uploads_inTurn : OneDataset uploadsJobs uploads (Runs.after (step uploadsJobs)
    (start Table.empty) [acts 0, acts 0, acts 0, acts 2, acts 2, acts 1, acts 1]) := by
  refine oneDataset_of_alone uploadsJobs uploads Table.empty uploads_fresh _ ?_
  have alone : Alone uploadsJobs uploads (step uploadsJobs (start Table.empty) (acts 0)) (acts 0) := by
    intro _ j other
    have waits : (step uploadsJobs (start Table.empty) (acts 0)).stages j = .waiting :=
      Function.update_of_ne other _ _
    simp [waits, ahead_waiting]
  have elsewhere : ∀ s a, commits uploadsJobs s a ≠ some uploads → Alone uploadsJobs uploads s a :=
    fun _ _ other committed => absurd committed other
  exact ⟨elsewhere _ _ (by decide), alone, elsewhere _ _ (by decide), elsewhere _ _ (by decide),
    elsewhere _ _ (by decide), elsewhere _ _ (by decide), elsewhere _ _ (by decide), trivial⟩

/-- Both uploads look before either commits: there are two datasets, and the next
upload fails on them. -/
theorem uploads_sideBySide :
    let s := Runs.after (step uploadsJobs) (start Table.empty)
      [acts 0, acts 1, acts 0, acts 1, acts 0, acts 1, acts 3]
    s.datasets.keysWhere (isPhysical uploads) = [1, 2] ∧ s.stages 0 = .returned (some 1) ∧
      s.stages 1 = .returned (some 2) ∧ s.stages 3 = .failed .multipleRows := by
  decide

end Sync
end XpBuilder
