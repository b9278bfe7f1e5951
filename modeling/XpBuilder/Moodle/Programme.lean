import Mathlib.Data.Prod.Lex
import XpBuilder.Moodle.Tables

/-! The dataset of the training programme report: one row for each participant, programme
course and activity. -/

namespace XpBuilder.Moodle
open Relational

/-- The kinds of activity, in the order of their texts. -/
inductive ActivityKind where
  | artefact | baseline | classroomObservation | enrolment | microAssessment | otherAssessment
  | otherSubmission | postTest
  deriving DecidableEq, Repr

namespace ActivityKind

def text : ActivityKind → String
  | artefact => "artefact"
  | baseline => "baseline"
  | classroomObservation => "classroom_observation"
  | enrolment => "enrolment"
  | microAssessment => "micro_assessment"
  | otherAssessment => "other_assessment"
  | otherSubmission => "other_submission"
  | postTest => "post_test"

def index : ActivityKind → Nat
  | artefact => 0
  | baseline => 1
  | classroomObservation => 2
  | enrolment => 3
  | microAssessment => 4
  | otherAssessment => 5
  | otherSubmission => 6
  | postTest => 7

theorem index_le_iff (a b : ActivityKind) : a.index ≤ b.index ↔ a.text.toList ≤ b.text.toList := by
  cases a <;> cases b <;> decide

theorem index_injective : Function.Injective index := by
  intro a b same
  cases a <;> cases b <;> first | rfl | cases same

end ActivityKind

structure ProgrammeCourse where
  courseId : Nat
  courseName : String
  courseShortname : String
  courseCategory : String
  deriving DecidableEq

/-- What the four unions of activities have in common. -/
structure ActivityRow where
  userId : Option Nat
  courseId : Option Nat
  activityKind : ActivityKind
  activityName : Option String
  concept : Option String
  scorePct : Option ℚ
  scoredOn : Option Int
  deriving DecidableEq

structure ProgrammeRow where
  participantId : Nat
  participantName : String
  participantUsername : String
  designation : Option String
  schoolId : Option String
  schoolName : String
  districtId : Option String
  talukaId : Option String
  courseId : Option Nat
  courseName : Option String
  courseShortname : Option String
  courseCategory : Option String
  enrolledFlag : Nat
  completedFlag : Nat
  courseLearners : Nat
  activityKind : ActivityKind
  activityName : Option String
  concept : Option String
  scorePct : Option ℚ
  scoredOn : Option Int
  deriving DecidableEq

/-- `TRIM(SUBSTRING_INDEX(s, '-', -1))` -/
def afterDash (s : String) : String :=
  trim (String.ofList (s.toList.reverse.takeWhile (· ≠ '-')).reverse)

namespace Programme
variable (S : Server) (db : Database)

def isProgrammeCourse (c : Course) : Bool :=
  1 < c.id && (
    S.like c.shortname "KSH%" || S.like c.shortname "%TRTI%" || S.like c.shortname "%FLN%" ||
    S.like c.shortname "%ART%" || S.like (S.lower c.fullname) "%trti%" ||
    S.like (S.lower c.fullname) "%artefact%" || S.like (S.lower c.fullname) "%kshamata%" ||
    S.like (S.lower c.fullname) "%ped-tech%" || S.like (S.lower c.fullname) "%pedtech%" ||
    S.like (S.lower c.fullname) "%fln%")

/-- `programme_courses` -/
def courses : List ProgrammeCourse :=
  let rows := leftJoin (fun c cc => cc.id = c.category) db.course db.courseCategories
  (rows.filter (fun p => isProgrammeCourse S p.1)).map (fun p =>
    { courseId := p.1.id, courseName := p.1.fullname, courseShortname := p.1.shortname
      courseCategory := (p.2.map CourseCategory.name).getD "Uncategorised" })

/-- The assignments of a role in a programme course: `((assignment, role), context), course`. -/
def roleRows : List (((RoleAssignment × Role) × Context) × ProgrammeCourse) :=
  let assigned := join (fun ra r => r.id = ra.roleid) db.roleAssignments db.role
  let placed := join (fun p ctx => ctx.id = p.1.contextid && ctx.contextlevel = 50) assigned db.context
  let inCourse := join (fun p pc => pc.courseId = p.2.instanceid) placed (courses S db)
  inCourse.filter (fun p =>
    S.isIn p.1.1.2.shortname ["employee", "editingteacher", "trainer", "teacher"])

/-- `participants`, as pairs of a course and a user. -/
def participants : List (Nat × Nat) :=
  ((roleRows S db).map (fun p => (p.1.2.instanceid, p.1.1.1.userid))).dedup

/-- `learners`: each programme course with the number of its learners. -/
def learners : List (Nat × Nat) :=
  let enrolled := join (fun e ue => ue.enrolid = e.id) db.enrol db.userEnrolments
  let rows := join (fun p pc => pc.courseId = p.1.courseid) enrolled (courses S db)
  (groupBy (fun p => p.1.1.courseid) rows).map (fun g =>
    (g.1, countDistinct (g.2.map (fun p => some p.1.2.userid))))

/-- `completions`, as pairs of a course and a user. -/
def completions : List (Nat × Nat) :=
  let rows := join (fun cc pc => pc.courseId = cc.course) db.courseCompletions (courses S db)
  (rows.map (fun p => (p.1.course, p.1.userid))).dedup

/-! ## The activities -/

def submissionKind (a : Assign) (pc : ProgrammeCourse) : ActivityKind :=
  if S.like (S.lower a.name) "%micro assessment%" then .microAssessment
  else if S.like (S.lower a.name) "%observation%" then .classroomObservation
  else if S.like (S.lower a.name) "%artefact%" || S.like (S.lower a.name) "%artifact%" ||
      S.like (S.lower pc.courseName) "%artefact%" || S.like (S.lower pc.courseName) "%artifact%" ||
      S.like (S.upper pc.courseShortname) "%ART%" then .artefact
  else .otherSubmission

def submissionScore (a : Assign) (ag : Option AssignGrade) : Option ℚ :=
  match ag.bind AssignGrade.grade with
  | some grade =>
    if 0 < a.grade ∧ 0 ≤ grade then (S.divide grade a.grade).map (fun q => roundTo 2 (q * 100)) else none
  | none => none

/-- The submitted submissions of programme courses: `(submission, assignment), course`. -/
def submissions : List ((AssignSubmission × Assign) × ProgrammeCourse) :=
  let placed := join (fun s a => a.id = s.assignment) db.assignSubmission db.assign
  (join (fun p pc => pc.courseId = p.2.course) placed (courses S db)).filter (fun p =>
    p.1.1.status.any (fun status => S.same status "submitted"))

/-- The grades of a submission, of whatever attempt. -/
def gradeOf (p : (AssignSubmission × Assign) × ProgrammeCourse) (ag : AssignGrade) : Bool :=
  ag.assignment = p.1.2.id && ag.userid = p.1.1.userid

def submissionRow (p : (AssignSubmission × Assign) × ProgrammeCourse) (ag : Option AssignGrade) :
    ActivityRow where
  userId := some p.1.1.userid
  courseId := some p.1.2.course
  activityKind := submissionKind S p.1.2 p.2
  activityName := some p.1.2.name
  concept := if S.like (S.lower p.1.2.name) "%micro assessment%" then some (afterDash p.1.2.name) else none
  scorePct := submissionScore S p.1.2 ag
  scoredOn := S.date (some p.1.1.timemodified)

/-- `submission_rows` -/
def submissionRows : List ActivityRow :=
  (leftJoin gradeOf (submissions S db) db.assignGrades).map (fun p => submissionRow S p.1 p.2)

def assessmentKind (itemname : String) : ActivityKind :=
  let name := S.lower itemname
  if S.like name "%micro assessment%" then .microAssessment
  else if S.like name "%baseline%" || S.like name "%pre test%" || S.like name "%pre-test%" ||
      S.like name "%pre course%" || S.like name "%pre survey%" then .baseline
  else if S.like name "%post%" then .postTest
  else if S.like name "%observation%" then .classroomObservation
  else if S.like name "%artefact%" || S.like name "%artifact%" then .artefact
  else .otherAssessment

/-- The WHERE clause on a grade and its item. -/
def gradeKept (gg : GradeGrade) (gi : GradeItem) : Bool :=
  gg.finalgrade.any (0 ≤ ·) && gi.itemname.isSome &&
    gi.itemmodule.any (fun itemmodule => !S.same itemmodule "assign")

/-- The kept grades of programme courses: `(grade, item), course`. -/
def assessments : List ((GradeGrade × GradeItem) × ProgrammeCourse) :=
  let graded := join (fun gg gi => gi.id = gg.itemid) db.gradeGrades db.gradeItems
  (join (fun p pc => p.2.courseid = some pc.courseId) graded (courses S db)).filter (fun p =>
    gradeKept S p.1.1 p.1.2)

def assessmentRow (p : (GradeGrade × GradeItem) × ProgrammeCourse) : ActivityRow where
  userId := some p.1.1.userid
  courseId := p.1.2.courseid
  activityKind := assessmentKind S (p.1.2.itemname.getD "")
  activityName := p.1.2.itemname
  concept := (p.1.2.itemname.filter (fun name => S.like (S.lower name) "%micro assessment%")).map afterDash
  scorePct :=
    if 0 < p.1.2.grademax then
      (p.1.1.finalgrade.bind (fun grade => S.divide grade p.1.2.grademax)).map (fun q => roundTo 2 (q * 100))
    else none
  scoredOn := S.date p.1.1.timemodified

/-- `assessment_rows` -/
def assessmentRows : List ActivityRow := (assessments S db).map (assessmentRow S)

def observations : List (ObservationUser × Observation) :=
  join (fun ou o => ou.observationsid = some o.id) db.localObservationsUsers db.localObservations

def observationRow (p : ObservationUser × Observation) : ActivityRow where
  userId := p.1.userid
  courseId := none
  activityKind := .classroomObservation
  activityName := p.2.name
  concept := none
  scorePct := none
  scoredOn := S.date p.1.timecreated

/-- `observation_rows` -/
def observationRows : List ActivityRow := (observations db).map (observationRow S)

def enrolmentRow (p : Nat × Nat) : ActivityRow where
  userId := some p.2
  courseId := some p.1
  activityKind := .enrolment
  activityName := none
  concept := none
  scorePct := none
  scoredOn := none

/-- `enrolment_rows` -/
def enrolmentRows : List ActivityRow := (participants S db).map enrolmentRow

/-- `union_rows` -/
def unionRows : List ActivityRow :=
  submissionRows S db ++ assessmentRows S db ++ observationRows S db ++ enrolmentRows S db

/-- `ORDER BY u.user_id, u.activity_kind`, where NULL comes first. -/
def before (a b : ActivityRow) : Prop :=
  toLex (a.userId.elim 0 (· + 1), a.activityKind.index) ≤ toLex (b.userId.elim 0 (· + 1), b.activityKind.index)

instance : DecidableRel before := fun _ _ => inferInstanceAs (Decidable (toLex (_, _) ≤ toLex (_, _)))

instance : Std.Total before := ⟨fun _ _ => le_total (toLex (_, _)) (toLex (_, _))⟩

instance : IsTrans ActivityRow before :=
  ⟨fun _ _ _ ab bc => le_trans (a := toLex (_, _)) (b := toLex (_, _)) (c := toLex (_, _)) ab bc⟩

/-! ## The dataset -/

/-- The SELECT list; the second half of `r` is its `course_first_row`. -/
def selectRow (r : ActivityRow × Nat) (u : User) (school : Option School) (pc : Option ProgrammeCourse)
    (learnersRow : Option (Nat × Nat)) (completion : Option (Nat × Nat)) : ProgrammeRow where
  participantId := u.id
  participantName := u.fullName
  participantUsername := u.username
  designation := nullIf S (nullIf S u.openDesignation "") "NA"
  schoolId := u.openSchool
  schoolName := (school.bind School.schoolName).getD "No school set"
  districtId := school.bind School.openDistrict
  talukaId := school.bind School.openTahsil
  courseId := r.1.courseId
  courseName := pc.map ProgrammeCourse.courseName
  courseShortname := pc.map ProgrammeCourse.courseShortname
  courseCategory := pc.map ProgrammeCourse.courseCategory
  enrolledFlag := if r.1.activityKind = .enrolment then 1 else 0
  completedFlag := if completion.isNone then 0 else 1
  courseLearners := if r.2 = 1 then (learnersRow.map Prod.snd).getD 0 else 0
  activityKind := r.1.activityKind
  activityName := r.1.activityName
  concept := r.1.concept
  scorePct := r.1.scorePct
  scoredOn := r.1.scoredOn

/-- `s.id = u.open_school`, a number against a text. -/
def schoolOf (u : User) (s : School) : Bool := u.openSchool.any (fun t => S.numberOf t = s.id)

/-- `DATASET_SQL` -/
def dataset (w : Arrangement before) : List ProgrammeRow :=
  let ranked := rowNumber w ActivityRow.courseId (unionRows S db)
  let withUser := join (fun r u => r.1.userId = some u.id) ranked db.user
  let withSchool := leftJoin (fun p s => schoolOf S p.2 s) withUser db.localSchool
  let withCourse := leftJoin (fun p pc => p.1.1.1.courseId = some pc.courseId) withSchool (courses S db)
  let withLearners := leftJoin (fun p l => p.1.1.1.1.courseId = some l.1) withCourse (learners S db)
  let withCompletion := leftJoin (fun p cp =>
    p.1.1.1.1.1.courseId = some cp.1 && p.1.1.1.1.1.userId = some cp.2) withLearners (completions S db)
  withCompletion.map (fun p =>
    selectRow S p.1.1.1.1.1 p.1.1.1.1.2 p.1.1.1.2 p.1.1.2 p.1.2 p.2)

/-! ## Each join of the dataset is on a key -/

theorem courses_eq : courses S db = (db.course.filter (isProgrammeCourse S)).map (fun c =>
    { courseId := c.id, courseName := c.fullname, courseShortname := c.shortname
      courseCategory := ((db.courseCategories.find? (fun cc => cc.id = c.category)).map
        CourseCategory.name).getD "Uncategorised" }) := by
  have single : ∀ c ∈ db.course, (db.courseCategories.filter (fun cc => cc.id = c.category)).length ≤ 1 :=
    fun c _ => length_filter_eq_le_one db.categoryIds c.category
  simp only [courses]
  rw [leftJoin_eq_map single, List.filter_map, List.map_map]
  rfl

theorem nodup_courses : ((courses S db).map ProgrammeCourse.courseId).Nodup := by
  rw [courses_eq, List.map_map]
  have part : ((db.course.filter (isProgrammeCourse S)).map Course.id).Sublist (db.course.map Course.id) :=
    List.filter_sublist.map Course.id
  exact part.nodup db.courseIds

theorem nodup_learners : ((learners S db).map Prod.fst).Nodup := by
  unfold learners
  rw [List.map_map]
  exact nodup_groupBy

def userOf (r : ActivityRow) : Option User := db.user.find? (fun u => r.userId = some u.id)

/-- The row of the dataset for an activity of a user. -/
def rowOf (r : ActivityRow × Nat) (u : User) : ProgrammeRow :=
  selectRow S r u (db.localSchool.find? (schoolOf S u))
    ((courses S db).find? (fun pc => r.1.courseId = some pc.courseId))
    ((learners S db).find? (fun l => r.1.courseId = some l.1))
    ((completions S db).find? (fun cp => r.1.courseId = some cp.1 && r.1.userId = some cp.2))

variable (w : Arrangement before)

theorem dataset_eq : dataset S db w = (rowNumber w ActivityRow.courseId (unionRows S db)).filterMap
    (fun r => (userOf db r.1).map (rowOf S db r)) := by
  have users : ∀ r ∈ rowNumber w ActivityRow.courseId (unionRows S db),
      (db.user.filter (fun u => r.1.userId = some u.id)).length ≤ 1 :=
    fun r _ => length_filter_key_le_one db.userIds r.1.userId
  have schools : ∀ u : User, (db.localSchool.filter (schoolOf S u)).length ≤ 1 := by
    intro u
    apply length_filter_le_one db.schoolIds
    intro a _ b _ ha hb
    cases there : u.openSchool with
    | none => simp [schoolOf, there] at ha
    | some t =>
      simp only [schoolOf, there, Option.any_some, decide_eq_true_eq] at ha hb
      exact_mod_cast ha.symm.trans hb
  have byCourse : ∀ k : Option Nat, ((courses S db).filter (fun pc => k = some pc.courseId)).length ≤ 1 :=
    length_filter_key_le_one (nodup_courses S db)
  have byLearners : ∀ k : Option Nat, ((learners S db).filter (fun l => k = some l.1)).length ≤ 1 :=
    length_filter_key_le_one (nodup_learners S db)
  have byCompletion : ∀ k n : Option Nat,
      ((completions S db).filter (fun cp => k = some cp.1 && n = some cp.2)).length ≤ 1 := by
    intro k n
    have distinct : ((completions S db).map id).Nodup := by
      rw [List.map_id]
      exact List.nodup_dedup _
    apply length_filter_le_one distinct
    intro a _ b _ ha hb
    simp only [Bool.and_eq_true, decide_eq_true_eq] at ha hb
    have courses : a.1 = b.1 := by simpa using ha.1.symm.trans hb.1
    have users : a.2 = b.2 := by simpa using ha.2.symm.trans hb.2
    exact Prod.ext courses users
  simp only [dataset]
  rw [join_eq_filterMap users, leftJoin_eq_map (fun _ _ => schools _), leftJoin_eq_map (fun _ _ => byCourse _),
    leftJoin_eq_map (fun _ _ => byLearners _), leftJoin_eq_map (fun _ _ => byCompletion _ _)]
  simp only [List.map_filterMap, Option.map_map]
  rfl

end Programme
end XpBuilder.Moodle
