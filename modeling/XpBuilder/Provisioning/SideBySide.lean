import Mathlib.Tactic.FinCases
import XpBuilder.Provisioning.Reruns

/-! Provisioners beside each other and beside other users, in any interleaving of their requests, each
cut off and started again at any time. -/

namespace XpBuilder.SupersetApi
open Provisioning (Marks Provisioner)
open Relation (ReflTransGen)

/-! ## Views of one catalog -/

/-- What of the objects in view carries the marks. -/
def View.restrict (m : Marks) (v : View) : View where
  dashboards := v.dashboards.filter (fun e => m.slug e.2.slug)
  charts := v.charts.filter (fun e => m.description e.2.description)
  datasets := v.datasets.filter (fun e => m.tableName e.2.tableName)
  slices := among (v.dashboards.filter (fun e => m.slug e.2.slug)) (v.charts.filter (fun e => m.description e.2.description)) v.slices

/-- Every object with the marks `m` has the marks `q`. -/
structure Below (m q : Marks) : Prop where
  slug : ∀ slug, m.slug slug = true → q.slug slug = true
  description : ∀ description, m.description description = true → q.description description = true
  tableName : ∀ tableName, m.tableName tableName = true → q.tableName tableName = true

variable {m q : Marks}

theorem among_among {dashboards dashboards' : List (Nat × Dashboard)} {charts charts' : List (Nat × Chart)} {slices : List (Nat × Nat)}
    (fewer : dashboards.map Prod.fst ⊆ dashboards'.map Prod.fst) (fewer' : charts.map Prod.fst ⊆ charts'.map Prod.fst) :
    among dashboards charts (among dashboards' charts' slices) = among dashboards charts slices := by
  unfold among
  rw [List.filter_filter]
  apply List.filter_congr
  intro p _
  rw [← Bool.decide_and, decide_eq_decide]
  exact ⟨fun holds => holds.1, fun holds => ⟨holds, fewer holds.1, fewer' holds.2⟩⟩

theorem view_restrict (below : Below m q) (s : Stored) : s.view m = (s.view q).restrict m := by
  have dashboards := Table.part_of_le (t := s.dashboards) (p := fun d => m.slug d.slug) (q := fun d => q.slug d.slug)
    (fun d => below.slug d.slug)
  have charts := Table.part_of_le (t := s.charts) (p := fun c => m.description c.description)
    (q := fun c => q.description c.description) (fun c => below.description c.description)
  have datasets := Table.part_of_le (t := s.datasets) (p := fun d => m.tableName d.tableName)
    (q := fun d => q.tableName d.tableName) (fun d => below.tableName d.tableName)
  unfold Stored.view View.restrict
  dsimp only
  rw [← dashboards, ← charts, ← datasets, among_among]
  · rw [dashboards]
    exact List.map_subset _ List.filter_sublist.subset
  · rw [charts]
    exact List.map_subset _ List.filter_sublist.subset

/-- What carries more marks is left, so what carries fewer is. -/
theorem view_of_below (below : Below m q) {s s' : Stored} (same : s'.view q = s.view q) : s'.view m = s.view m := by
  rw [view_restrict below, same, ← view_restrict below]

/-! ## Several scripts -/

/-- A script with its arguments. -/
inductive Job where
  | userReport (a : UserReport.Args)
  | programme (a : Programme.Args)

def Job.plan : Job → Plan
  | .userReport a => UserReport.plan a
  | .programme a => Programme.plan a

def Job.main : Job → Program Unit
  | .userReport a => UserReport.main a
  | .programme a => Programme.main a

/-- By what the script of a job knows its objects. -/
def Job.marks (job : Job) : Marks := job.plan.provisioner.marks

theorem marks_slug (job : Job) {id : Nat} {page : Page} (listed : page ∈ job.plan.pages id) : job.marks.slug (some page.slug) = true := by
  cases job with
  | userReport a =>
    obtain rfl := List.mem_singleton.mp listed
    exact (Provisioning.marked_created (.userReport a.datasetName)).1 _ List.mem_cons_self
  | programme a =>
    obtain ⟨spec, among, rfl⟩ := List.mem_map.mp listed
    apply (Provisioning.marked_created .programme).1
    simp only [Programme.dashboardSpecs, List.mem_cons, List.not_mem_nil, or_false] at among
    rcases among with rfl | rfl | rfl <;> simp [Provisioner.slugs, Provisioning.Programme.slugs, Programme.page]

theorem marks_tableName (job : Job) : job.marks.tableName job.plan.datasetName = true := by
  cases job with
  | userReport a => exact (Provisioning.marked_created (.userReport a.datasetName)).2.2 _ List.mem_cons_self
  | programme a => exact (Provisioning.marked_created .programme).2.2 _ List.mem_cons_self

section
variable {ι : Type} (jobs : ι → Job)

open scoped Classical in
/-- Not one's own, or also another's. -/
noncomputable def leave (mine : Bool) (another : Prop) : Bool := !mine || decide another

open scoped Classical in
theorem leave_eq_true {mine : Bool} {another : Prop} : leave mine another = true ↔ mine = false ∨ another := by
  rw [leave, Bool.or_eq_true, Bool.not_eq_true', decide_eq_true_eq]

theorem leave_eq_false {mine : Bool} {another : Prop} : leave mine another = false ↔ mine = true ∧ ¬another := by
  rw [← Bool.not_eq_true, leave_eq_true, not_or, Bool.not_eq_false]

/-- The marks of what a job has to leave: everything but its own objects, and whatever is another job's. -/
noncomputable def others (i : ι) : Marks where
  slug slug := leave ((jobs i).marks.slug slug) (∃ j, j ≠ i ∧ (jobs j).marks.slug slug = true)
  description text := leave ((jobs i).marks.description text) (∃ j, j ≠ i ∧ (jobs j).marks.description text = true)
  tableName name := leave ((jobs i).marks.tableName name) (∃ j, j ≠ i ∧ (jobs j).marks.tableName name = true)

/-- The jobs beside each other, and beside users that leave the objects of the jobs and their connections. -/
noncomputable def scripts (env : Env) : Scripts ι Request Request.Response Stored Unit where
  serve := env.serve
  within := env.Shows
  outside s s' := ∀ i, s'.view (jobs i).marks = s.view (jobs i).marks ∧
    env.resolved s' (jobs i).plan.connection = env.resolved s (jobs i).plan.connection
  script i := (jobs i).main
  others i := (setting env (jobs i).marks (others jobs i) (jobs i).plan.connection).others
  own i := (setting env (jobs i).marks (others jobs i) (jobs i).plan.connection).own
  refused i := (setting env (jobs i).marks (others jobs i) (jobs i).plan.connection).refused
  quits i := (setting env (jobs i).marks (others jobs i) (jobs i).plan.connection).quits
  before i s := (s.view (jobs i).marks).Free (others jobs i)
  after i _ s := (jobs i).plan.Published env (s.view (jobs i).marks) (env.resolved s (jobs i).plan.connection)

variable {jobs}

theorem below_others {i j : ι} (ne : j ≠ i) : Below (jobs j).marks (others jobs i) where
  slug _ marked := leave_eq_true.mpr (.inr ⟨j, ne, marked⟩)
  description _ marked := leave_eq_true.mpr (.inr ⟨j, ne, marked⟩)
  tableName _ marked := leave_eq_true.mpr (.inr ⟨j, ne, marked⟩)

/-- What a job creates carries its own marks and none of another job. -/
theorem foreign_others {i : ι} (apart : ∀ j, i ≠ j → (jobs i).plan.Foreign (jobs j).marks) : (jobs i).plan.Foreign (others jobs i) where
  slugs id page listed := by
    refine leave_eq_false.mpr ⟨marks_slug (jobs i) listed, ?_⟩
    rintro ⟨j, ne, marked⟩
    rw [(apart j (Ne.symm ne)).slugs id page listed] at marked
    cases marked
  charts id page listed spec among := by
    refine leave_eq_false.mpr ⟨(Provisioning.marked_created _).2.1 spec.name, ?_⟩
    rintro ⟨j, ne, marked⟩
    rw [(apart j (Ne.symm ne)).charts id page listed spec among] at marked
    cases marked
  dataset := by
    refine leave_eq_false.mpr ⟨marks_tableName (jobs i), ?_⟩
    rintro ⟨j, ne, marked⟩
    rw [(apart j (Ne.symm ne)).dataset] at marked
    cases marked

theorem run_main (env : Env) (job : Job) (foreign : job.plan.Foreign q) :
    Run env job.marks q job.plan.connection (fun v _ => v.Free q) job.main (fun _ => job.plan.Published env) := by
  cases job with
  | userReport a => exact run_userReport a foreign
  | programme a => exact run_programme a foreign

theorem compatible (env : Env) (apart : ∀ i j, i ≠ j → (jobs i).plan.Foreign (jobs j).marks) : (scripts jobs env).Compatible where
  apart _ _ _ _ ne own := ⟨view_of_below (below_others (Ne.symm ne)) own.1, resolved_congr own.2.1⟩
  outside i _ _ change := change i
  stable i := stable_at (fun v _ => v.Free (others jobs i))
  ready _ _ _ free own := own.2.2 free
  meets i := run_main env (jobs i) (foreign_others (fun j ne => apart i j ne))

/-- No object carries the marks of two jobs. -/
def Sole (jobs : ι → Job) (s : Stored) : Prop := ∀ i j, i ≠ j → (s.view (jobs i).marks).Free (jobs j).marks

theorem free_of_sole {s : Stored} (sole : Sole jobs s) (i : ι) : (s.view (jobs i).marks).Free (others jobs i) := by
  refine ⟨fun e mem => leave_eq_false.mpr ⟨?_, ?_⟩, fun e mem => leave_eq_false.mpr ⟨?_, ?_⟩, fun e mem => leave_eq_false.mpr ⟨?_, ?_⟩⟩
  · exact ((Table.mem_part (t := s.dashboards) (p := fun d => (jobs i).marks.slug d.slug)).mp mem).2
  · rintro ⟨j, ne, marked⟩
    rw [(sole i j (Ne.symm ne)).dashboards e mem] at marked
    cases marked
  · exact ((Table.mem_part (t := s.charts) (p := fun c => (jobs i).marks.description c.description)).mp mem).2
  · rintro ⟨j, ne, marked⟩
    rw [(sole i j (Ne.symm ne)).charts e mem] at marked
    cases marked
  · exact ((Table.mem_part (t := s.datasets) (p := fun d => (jobs i).marks.tableName d.tableName)).mp mem).2
  · rintro ⟨j, ne, marked⟩
    rw [(sole i j (Ne.symm ne)).datasets e mem] at marked
    cases marked

variable [DecidableEq ι]

end

/-! ## A server that an earlier run was cut off on -/

/-- The listings are in the order of the ids. -/
def plainEnv : Env where
  server := ⟨none⟩
  arrange := id
  arranged l := .refl l
  columns _ _ := ["user_id"]

def fits (s : Stored) : Bool :=
  s.dashboards.rows.entries.length ≤ 1000 && s.charts.rows.entries.length ≤ 1000 && s.datasets.rows.entries.length ≤ 1000

theorem shows_of_fits {s : Stored} (fitting : fits s = true) : plainEnv.Shows s := by
  unfold fits at fitting
  simp only [Bool.and_eq_true, decide_eq_true_eq] at fitting
  have page : ∀ {α : Type} (t : Table α), t.rows.entries.length ≤ 1000 → (plainEnv.page t).Perm t.rows.entries := by
    intro α t short
    have whole : plainEnv.page t = t.rows.entries := List.take_of_length_le short
    rw [whole]
  exact ⟨page _ fitting.1.1, page _ fitting.1.2, page _ fitting.2⟩

/-- A dashboard of somebody else, and one with a chart that was left. -/
def leftServer (reports : List ReportSchedule) : Stored where
  databases := Table.empty.insert ⟨"kefuat", some "moodle"⟩
  datasets := Table.empty
  dashboards := (Table.empty.insert ⟨"Sales", some "sales", [], Dict.empty, true⟩).insert (shell "User Report" "moodle-user-report")
  charts := Table.empty.insert ⟨"Users", some "XPBuilder Moodle user report. Users.", "pie", "{}", 1⟩
  slices := [(2, 1), (1, 1)]
  reports := reports
  known := by decide

def userJob : Job := .userReport
  { database := "kefuat"
    datasetName := "Moodle User Report"
    schema := none
    sql := "SELECT 1"
    chartSpecs := fun _ => [⟨"Users", "{}", "pie", 6⟩, ⟨"Roles", "{}", "table", 12⟩] }

def programmeJob : Job := .programme
  { connection := "kefuat"
    sql := "SELECT 2"
    teacherReport := fun _ => [⟨"Teachers", "{}", "table", 12⟩]
    headmasterReport := fun _ => []
    educationOfficerReport := fun _ => [] }

def bothJobs : Bool → Job
  | false => userJob
  | true => programmeJob

theorem bothJobs_apart : ∀ i j, i ≠ j → (bothJobs i).plan.Foreign (bothJobs j).marks := by
  have slugs : programmeJob.marks.slug (some "moodle-user-report") = false ∧
      ∀ slug ∈ Provisioning.Programme.slugs, userJob.marks.slug (some slug) = false := by decide +kernel
  have charts : (∀ name ∈ ["Users", "Roles"], programmeJob.marks.description (some (userJob.plan.provisioner.describe name)) = false) ∧
      userJob.marks.description (some (programmeJob.plan.provisioner.describe "Teachers")) = false := by decide +kernel
  have user : userJob.plan.Foreign programmeJob.marks := by
    refine ⟨fun id page listed => ?_, fun id page listed spec among => ?_, by decide +kernel⟩
    · obtain rfl := List.mem_singleton.mp listed
      exact slugs.1
    · obtain rfl := List.mem_singleton.mp listed
      rcases List.mem_cons.mp among with rfl | last
      · exact charts.1 _ (by simp)
      · obtain rfl := List.mem_singleton.mp last
        exact charts.1 _ (by simp)
  have programme : programmeJob.plan.Foreign userJob.marks := by
    refine ⟨fun id page listed => ?_, fun id page listed spec among => ?_, by decide +kernel⟩
    · obtain ⟨spec, mem, rfl⟩ := List.mem_map.mp listed
      apply slugs.2
      fin_cases mem <;> simp [Provisioning.Programme.slugs, Programme.page]
    · obtain ⟨page, mem, rfl⟩ := List.mem_map.mp listed
      have one : spec = ⟨"Teachers", "{}", "table", 12⟩ := by
        fin_cases mem
        · exact List.mem_singleton.mp among
        · cases among
        · cases among
      rw [one]
      exact charts.2
  intro i j ne
  cases i <;> cases j
  · exact absurd rfl ne
  · exact user
  · exact programme
  · exact absurd rfl ne

theorem bothJobs_sole (reports : List ReportSchedule) : Sole bothJobs (leftServer reports) := by
  have user : ((leftServer []).view (bothJobs false).marks).Free (bothJobs true).marks := by constructor <;> decide +kernel
  have programme : ((leftServer []).view (bothJobs true).marks).Free (bothJobs false).marks := by
    constructor <;> decide +kernel
  intro i j ne
  cases i <;> cases j
  · exact absurd rfl ne
  · exact user
  · exact programme
  · exact absurd rfl ne

theorem left_shows (reports : List ReportSchedule) : plainEnv.Shows (leftServer reports) := shows_of_fits rfl

theorem left_started (reports : List ReportSchedule) : ReflTransGen (scripts bothJobs plainEnv).Step
    (fun _ => .quit, leftServer reports) (Function.update (fun _ => .quit) false (bothJobs false).main, leftServer reports) :=
  .single (.start false)

/-- The run of the user report that takes away what was left. -/
theorem user_run : ((bothJobs false).main.run plainEnv.serve fits (leftServer [])).isSome := by decide +kernel

/-- The run before its first deletion. -/
theorem deletion_reached (reports : List ReportSchedule) : ∃ cs next, cs false = .ask (.deleteDashboard 2) next ∧
    ReflTransGen (scripts bothJobs plainEnv).Step (fun _ => .quit, leftServer reports) (cs, leftServer reports) := by
  have shows := left_shows reports
  have listed := (left_started reports).tail (.asked (x := [(1, ⟨"kefuat", some "moodle"⟩)]) (Function.update_self ..) rfl shows)
  have told := listed.tail (.asked (x := some "moodle") (Function.update_self ..) rfl shows)
  have found := told.tail (.asked (x := [(1, ⟨"Sales", some "sales", [], Dict.empty, true⟩), (2, shell "User Report" "moodle-user-report")])
    (Function.update_self ..) rfl shows)
  exact ⟨_, _, Function.update_self .., found⟩

end XpBuilder.SupersetApi
