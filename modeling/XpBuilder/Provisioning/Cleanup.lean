import Mathlib.Data.List.Infix
import XpBuilder.Library.Lists
import XpBuilder.PythonText

/-! What the provisioners delete before they create their report again: whatever carries
their slugs, their marker or the names of their datasets, on the page of each listing that
the server returns. The lists of a catalog are in the order of the listings. -/

namespace XpBuilder.Provisioning

/-! ## The catalog -/

/-- A dashboard, the alerts and reports attached to it, and whether an earlier run of the
script created it. -/
structure Dashboard where
  id : Nat
  slug : Option String
  reports : List String := []
  ours : Bool
  deriving DecidableEq, Repr

structure Chart where
  id : Nat
  description : Option String
  reports : List String := []
  ours : Bool
  deriving DecidableEq, Repr

structure Dataset where
  id : Nat
  database : Nat
  schema : String
  tableName : String
  ours : Bool
  deriving DecidableEq, Repr

/-- The objects of a server. Slugs are unique, table names only within a schema of a connection. -/
structure Catalog where
  dashboards : List Dashboard := []
  charts : List Chart := []
  datasets : List Dataset := []
  dashboardIds : (dashboards.map Dashboard.id).Nodup := by decide
  chartIds : (charts.map Chart.id).Nodup := by decide
  datasetIds : (datasets.map Dataset.id).Nodup := by decide
  slugs : (dashboards.filterMap Dashboard.slug).Nodup := by decide
  tables : (datasets.map (fun d => (d.database, d.schema, d.tableName))).Nodup := by decide

/-- The most rows that the server puts on a page, where there is such a limit. -/
structure Server where
  maxPageSize : Option Nat

/-- `page:0,page_size:1000` -/
def Server.listAll {α : Type} (s : Server) (objects : List α) : List α :=
  objects.take ((s.maxPageSize.map (min 1000)).getD 1000)

/-! ## Deletions -/

/-- The server refuses to delete what alerts or reports are attached to. -/
def refusal (reports : List String) : Option String :=
  if reports = [] then none
  else some ("There are associated alerts or reports: " ++ ",".intercalate reports)

/-- Objects deleted one after the other, up to the first that the server refuses. -/
def deleteEach {α : Type} (id : α → Nat) (refused : α → Option String) : List α → List α → List α × Option String
  | [], objects => (objects, none)
  | x :: rest, objects =>
    match refused x with
    | some error => (objects, some error)
    | none => deleteEach id refused rest (objects.filter (fun y => id y ≠ id x))

/-- What is left of a catalog, and the error that ended the run. -/
structure Outcome where
  dashboards : List Dashboard
  charts : List Chart
  datasets : List Dataset
  failure : Option String
  deriving DecidableEq, Repr

/-- By what a script knows its own objects. -/
structure Marks where
  slug : Option String → Bool
  description : Option String → Bool
  tableName : String → Bool

section
variable (m : Marks) (s : Server) (c : Catalog)

def dashboardRun : List Dashboard × Option String := deleteEach Dashboard.id (fun d => refusal d.reports)
  ((s.listAll c.dashboards).filter (fun d => m.slug d.slug)) c.dashboards

def chartRun : List Chart × Option String := deleteEach Chart.id (fun x => refusal x.reports)
  ((s.listAll c.charts).filter (fun x => m.description x.description)) c.charts

def datasetRun : List Dataset × Option String := deleteEach Dataset.id (fun _ => none)
  ((s.listAll c.datasets).filter (fun d => m.tableName d.tableName)) c.datasets

/-- An error ends the run. -/
def cleanupMarked : Outcome :=
  let dashboards := dashboardRun m s c
  if dashboards.2.isSome then ⟨dashboards.1, c.charts, c.datasets, dashboards.2⟩
  else
    let charts := chartRun m s c
    if charts.2.isSome then ⟨dashboards.1, charts.1, c.datasets, charts.2⟩
    else ⟨dashboards.1, charts.1, (datasetRun m s c).1, (datasetRun m s c).2⟩

end

/-! ## The scripts -/

namespace Demo

def marker : String := "XPBuilder synthetic education demo"

def slugs : List String := ["education-demo-executive-overview", "education-demo-student-analytics",
  "education-demo-teacher-analytics", "education-demo-course-analytics"]

/-- The keys of `DATASET_SQL`. -/
def datasetNames : List String := ["Student Overview", "Teacher Overview", "Course Analytics",
  "Enrollment Analytics", "Learning Progress", "Assessment Analytics"]

/-- `str` of a missing description is a word of its own. -/
def marks : Marks where
  slug := fun slug => slug.any (fun s => s ∈ slugs)
  description := fun description => marker.toList <+: (description.getD "None").toList
  tableName := fun name => name ∈ datasetNames

def cleanupDemo (s : Server) (c : Catalog) : Outcome := cleanupMarked marks s c

end Demo

namespace Programme

def marker : String := "XPBuilder training programme report"

def slugs : List String := ["programme-teacher-report", "programme-headmaster-report",
  "programme-education-officer-report"]

def datasetName : String := "Programme Activity Report"

def marks : Marks where
  slug := fun slug => slug.any (fun s => s ∈ slugs)
  description := fun description => marker.toList <:+: (description.getD "").toList
  tableName := fun name => name = datasetName

def cleanup (s : Server) (c : Catalog) : Outcome := cleanupMarked marks s c

end Programme

namespace UserReport

def marker : String := "XPBuilder Moodle user report"

def slug : String := "moodle-user-report"

/-- The name of the dataset is an argument of the script. -/
def marks (datasetName : String) : Marks where
  slug := fun s => s = some slug
  description := fun description => marker.toList <:+: (description.getD "").toList
  tableName := fun name => name = datasetName

def cleanup (datasetName : String) (s : Server) (c : Catalog) : Outcome := cleanupMarked (marks datasetName) s c

end UserReport

inductive Provisioner where
  | demo
  | programme
  | userReport (datasetName : String)
  deriving DecidableEq, Repr

def Provisioner.marks : Provisioner → Marks
  | .demo => Demo.marks
  | .programme => Programme.marks
  | .userReport datasetName => UserReport.marks datasetName

def Provisioner.cleanup : Provisioner → Server → Catalog → Outcome
  | .demo => Demo.cleanupDemo
  | .programme => Programme.cleanup
  | .userReport datasetName => UserReport.cleanup datasetName

def Provisioner.marker : Provisioner → String
  | .demo => Demo.marker
  | .programme => Programme.marker
  | .userReport _ => UserReport.marker

def Provisioner.slugs : Provisioner → List String
  | .demo => Demo.slugs
  | .programme => Programme.slugs
  | .userReport _ => [UserReport.slug]

def Provisioner.datasetNames : Provisioner → List String
  | .demo => Demo.datasetNames
  | .programme => [Programme.datasetName]
  | .userReport datasetName => [datasetName]

/-- `f"{MARKER}. {name}."` -/
def Provisioner.describe (p : Provisioner) (name : String) : String := p.marker ++ ". " ++ name ++ "."

/-- What a script creates carries its marks. -/
theorem marked_created (p : Provisioner) : (∀ slug ∈ p.slugs, p.marks.slug (some slug)) ∧
    (∀ name, p.marks.description (some (p.describe name))) ∧ ∀ name ∈ p.datasetNames, p.marks.tableName name := by
  have begins : ∀ name, p.marker.toList <+: (p.describe name).toList := by
    intro name
    simp [Provisioner.describe, List.append_assoc]
  cases p with
  | demo =>
    refine ⟨?_, fun name => decide_eq_true (begins name), fun name mem => decide_eq_true mem⟩
    intro slug mem
    exact decide_eq_true mem
  | programme =>
    refine ⟨fun slug mem => decide_eq_true mem, fun name => decide_eq_true (begins name).isInfix, ?_⟩
    intro name mem
    exact decide_eq_true (List.mem_singleton.mp mem)
  | userReport datasetName =>
    refine ⟨?_, fun name => decide_eq_true (begins name).isInfix, ?_⟩
    · intro slug mem
      exact decide_eq_true (congrArg some (List.mem_singleton.mp mem))
    · intro name mem
      exact decide_eq_true (List.mem_singleton.mp mem)

/-! ## One listing -/

section
variable {α : Type} {id : α → Nat} {refused : α → Option String} {marked ours : α → Bool}

theorem deleteEach_failure (l objects : List α) :
    (deleteEach id refused l objects).2 = none ↔ ∀ x ∈ l, refused x = none := by
  induction l generalizing objects with
  | nil => simp [deleteEach]
  | cons x rest ih =>
    rw [List.forall_mem_cons, deleteEach]
    cases refusal : refused x with
    | some error => simp
    | none => simpa using ih _

/-- With no refusal, the objects with the listed ids are gone. -/
theorem deleteEach_eq {l : List α} (allowed : ∀ x ∈ l, refused x = none) (objects : List α) :
    deleteEach id refused l objects = (objects.filter (fun y => id y ∉ l.map id), none) := by
  induction l generalizing objects with
  | nil => simp [deleteEach]
  | cons x rest ih =>
    rw [List.forall_mem_cons] at allowed
    have apart : (fun y => decide (id y ∉ rest.map id) && decide (id y ≠ id x)) =
        fun y => decide (id y ∉ (x :: rest).map id) := by
      funext y
      simp [Bool.and_comm]
    rw [deleteEach, allowed.1]
    simp only
    rw [ih allowed.2, List.filter_filter, apart]

/-- Exactly our objects are deleted where they are those that the page shows with a mark, and
nothing is attached to them. -/
theorem deleteEach_iff {objects page : List α} (distinct : (objects.map id).Nodup) (shown : page ⊆ objects) :
    deleteEach id refused (page.filter marked) objects = (objects.filter (fun y => !ours y), none) ↔
      (∀ y ∈ objects, ours y ↔ y ∈ page ∧ marked y) ∧ ∀ y ∈ objects, ours y → refused y = none := by
  have listed : ∀ y ∈ objects, id y ∈ (page.filter marked).map id ↔ y ∈ page ∧ marked y := by
    intro y mem
    rw [List.mem_map, ← List.mem_filter]
    constructor
    · rintro ⟨x, there, same⟩
      have equal := Lists.eq_of_key distinct (shown (List.mem_of_mem_filter there)) mem same
      rw [← equal]
      exact there
    · intro there
      exact ⟨y, there, rfl⟩
  have removed : objects.filter (fun y => id y ∉ (page.filter marked).map id) = objects.filter (fun y => !ours y) ↔
      ∀ y ∈ objects, ours y ↔ y ∈ page ∧ marked y := by
    rw [Lists.filter_eq_filter_iff]
    apply forall₂_congr
    intro y mem
    rw [← listed y mem]
    by_cases there : id y ∈ (page.filter marked).map id <;> cases ours y <;> simp [there]
  constructor
  · intro exact_run
    have allowed := (deleteEach_failure _ _).mp (congrArg Prod.snd exact_run)
    rw [deleteEach_eq allowed, Prod.mk.injEq, removed] at exact_run
    refine ⟨exact_run.1, ?_⟩
    intro y mem own
    exact allowed y (List.mem_filter.mpr ((exact_run.1 y mem).mp own))
  · rintro ⟨known, free⟩
    have allowed : ∀ x ∈ page.filter marked, refused x = none := by
      intro x there
      have mem := shown (List.mem_of_mem_filter there)
      exact free x mem ((known x mem).mpr (List.mem_filter.mp there))
    rw [deleteEach_eq allowed, removed.mpr known]

end

/-! ## The cleanup -/

/-- Exactly the objects of earlier runs are gone, and nothing went wrong. -/
def RemovesOwn (p : Provisioner) (s : Server) (c : Catalog) : Prop :=
  p.cleanup s c = ⟨c.dashboards.filter (fun d => !d.ours), c.charts.filter (fun x => !x.ours),
    c.datasets.filter (fun d => !d.ours), none⟩

/-- The objects of earlier runs are those that the listings show with a mark of the script,
and no alert or report is attached to them. -/
structure KnowsOwn (m : Marks) (s : Server) (c : Catalog) : Prop where
  dashboards : ∀ d ∈ c.dashboards, d.ours ↔ d ∈ s.listAll c.dashboards ∧ m.slug d.slug
  charts : ∀ x ∈ c.charts, x.ours ↔ x ∈ s.listAll c.charts ∧ m.description x.description
  datasets : ∀ d ∈ c.datasets, d.ours ↔ d ∈ s.listAll c.datasets ∧ m.tableName d.tableName
  freeDashboards : ∀ d ∈ c.dashboards, d.ours → d.reports = []
  freeCharts : ∀ x ∈ c.charts, x.ours → x.reports = []

theorem listAll_subset {α : Type} (s : Server) (objects : List α) : s.listAll objects ⊆ objects :=
  (List.take_sublist _ _).subset

@[simp] theorem refusal_eq_none_iff {reports : List String} : refusal reports = none ↔ reports = [] := by
  by_cases empty : reports = [] <;> simp [refusal, empty]

variable (m : Marks) (s : Server) (c : Catalog)

/-- A cleanup without an error is three runs without an error. -/
theorem cleanupMarked_eq_iff {dashboards : List Dashboard} {charts : List Chart} {datasets : List Dataset} :
    cleanupMarked m s c = ⟨dashboards, charts, datasets, none⟩ ↔ dashboardRun m s c = (dashboards, none) ∧
      chartRun m s c = (charts, none) ∧ datasetRun m s c = (datasets, none) := by
  rw [Prod.ext_iff, Prod.ext_iff, Prod.ext_iff]
  cases first : (dashboardRun m s c).2 with
  | some error => simp [cleanupMarked, first]
  | none =>
    cases second : (chartRun m s c).2 with
    | some error => simp [cleanupMarked, first, second]
    | none => simp [cleanupMarked, first, second]

theorem cleanupMarked_iff : cleanupMarked m s c = ⟨c.dashboards.filter (fun d => !d.ours),
    c.charts.filter (fun x => !x.ours), c.datasets.filter (fun d => !d.ours), none⟩ ↔ KnowsOwn m s c := by
  have dashboards : dashboardRun m s c = (c.dashboards.filter (fun d => !d.ours), none) ↔ _ :=
    deleteEach_iff c.dashboardIds (listAll_subset s c.dashboards)
  have charts : chartRun m s c = (c.charts.filter (fun x => !x.ours), none) ↔ _ :=
    deleteEach_iff c.chartIds (listAll_subset s c.charts)
  have datasets : datasetRun m s c = (c.datasets.filter (fun d => !d.ours), none) ↔ _ :=
    deleteEach_iff c.datasetIds (listAll_subset s c.datasets)
  rw [cleanupMarked_eq_iff, dashboards, charts, datasets]
  simp only [refusal_eq_none_iff]
  constructor
  · intro ⟨known, shown, named⟩
    exact ⟨known.1, shown.1, named.1, known.2, shown.2⟩
  · intro knows
    exact ⟨⟨knows.dashboards, knows.freeDashboards⟩, ⟨knows.charts, knows.freeCharts⟩, knows.datasets,
      fun _ _ _ => trivial⟩

/-- A cleanup removes exactly what earlier runs created where the marks and the first page
tell it apart from everything else. -/
theorem removesOwn_iff (p : Provisioner) (s : Server) (c : Catalog) : RemovesOwn p s c ↔ KnowsOwn p.marks s c := by
  cases p <;> exact cleanupMarked_iff _ s c

/-- A dataset of the same name, over another connection. -/
def otherConnection : Catalog where
  datasets := [⟨4, 1, "public", "Student Overview", true⟩, ⟨9, 2, "warehouse", "Student Overview", false⟩]

theorem foreign_lost : ¬RemovesOwn .demo ⟨none⟩ otherConnection := by
  have lost : (Provisioner.demo.cleanup ⟨none⟩ otherConnection).datasets = [] := by decide +kernel
  intro removes
  rw [removes] at lost
  exact absurd lost (by decide +kernel)

/-! ## The raw tables of the demo -/

def Demo.rawTables : List String :=
  ["students", "teachers", "courses", "enrollments", "course_progress", "assessment_results"]

/-- The last loop of `create_datasets`, after the uploads have entered their tables. -/
def Demo.removeRawEntries (s : Server) (c : Catalog) : List Dataset × Option String :=
  datasetRun ⟨fun _ => false, fun _ => false, fun name => name ∈ rawTables⟩ s c

/-- The entries of the uploads are removed, and no others, where only they have the names. -/
theorem removeRawEntries_iff (s : Server) (c : Catalog) :
    Demo.removeRawEntries s c = (c.datasets.filter (fun d => !d.ours), none) ↔
      ∀ d ∈ c.datasets, d.ours ↔ d ∈ s.listAll c.datasets ∧ d.tableName ∈ Demo.rawTables := by
  have run : Demo.removeRawEntries s c = (c.datasets.filter (fun d => !d.ours), none) ↔ _ :=
    deleteEach_iff c.datasetIds (listAll_subset s c.datasets)
  rw [run]
  simp

end XpBuilder.Provisioning
