import Mathlib.Data.Prod.Lex
import XpBuilder.Library.Regexp
import XpBuilder.Moodle.Tables

/-! The view `kpi7_baseline_endline_teacher`: the grades of students before and after, for
each pair of courses whose names differ in the phase, under the trainers of the classroom
in which a student was active last. -/

namespace XpBuilder.Moodle
open Relational Regexp

inductive Phase where
  | baseline | endline
  deriving DecidableEq, Repr

structure PhaseCourse where
  courseId : Nat
  fullname : String
  pairKey : String
  phase : Phase
  deriving DecidableEq

structure CoursePair where
  pairKey : String
  baselineCourseId : Option Nat
  endlineCourseId : Option Nat
  baselineCourse : Option String
  endlineCourse : Option String
  deriving DecidableEq

/-- `g.courseid IN (pr.baseline_course_id, pr.endline_course_id)` -/
def CoursePair.has (p : CoursePair) (courseid : Option Nat) : Bool :=
  courseid.isSome && (courseid = p.baselineCourseId || courseid = p.endlineCourseId)

structure CourseGrade where
  courseid : Option Nat
  userid : Nat
  pct : Option ℚ
  deriving DecidableEq

structure StudentResult where
  pairKey : String
  baselineCourse : Option String
  endlineCourse : Option String
  userid : Nat
  baselinePct : Option ℚ
  endlinePct : Option ℚ
  deriving DecidableEq

structure TeacherStudentRow where
  pairKey : String
  surveyLabel : String
  baselineCourse : Option String
  endlineCourse : Option String
  teacherId : Nat
  teacherName : String
  teacherUsername : String
  teacherSchool : String
  studentId : Nat
  studentName : String
  studentUsername : String
  studentSchool : String
  baselinePct : Option ℚ
  endlinePct : Option ℚ
  gainPct : Option ℚ
  teacherAvgBaselinePct : Option ℚ
  teacherAvgEndlinePct : Option ℚ
  teacherStudentCount : Nat
  deriving DecidableEq

namespace BaselineEndline
variable (S : Server) (db : Database)

/-! ## The pairs of courses -/

def baselineOrEndline : Pattern := [word "baseline", word "endline"]

def beforeForms : Pattern :=
  [perhaps "_" ++ word "pre" ++ perhaps "-_ " ++ word "survey", word "pre" ++ one "-_ " ++ word "session",
    word "presurvey", word "pre" ++ perhaps "_" ++ word "assessment"]

def afterForms : Pattern :=
  [perhaps "_" ++ word "post" ++ perhaps "-_ " ++ word "survey", word "post" ++ one "-_ " ++ word "session",
    word "postsurvey", word "post" ++ perhaps "_" ++ word "assessment"]

/-- The pattern of the CASE over the phase. -/
def baselineForms : Pattern :=
  [word "baseline", word "pre" ++ one "-_ " ++ word "session", word "presurvey",
    word "pre" ++ perhaps "_" ++ word "assessment"]

/-- The pattern of the WHERE clause. -/
def phaseForms : Pattern :=
  [word "baseline", word "endline", word "pre" ++ one "-_ " ++ word "session",
    word "post" ++ one "-_ " ++ word "session", word "presurvey", word "post" ++ perhaps "-_ " ++ word "survey"]

/-- `[[:space:]]` -/
def isSpace (c : Char) : Bool :=
  let n := c.toNat
  (9 ≤ n && n ≤ 13) || n == 32 || n == 0x85 || n == 0xa0 || n == 0x1680 || n == 0x180e ||
    (0x2000 ≤ n && n ≤ 0x200a) || n == 0x2028 || n == 0x2029 || n == 0x202f || n == 0x205f || n == 0x3000

def pairKey (fullname : String) : String :=
  let named := replace baselineOrEndline "<ph>" (S.lower fullname)
  let both := replace afterForms "<ph>" (replace beforeForms "<ph>" named)
  trim (String.ofList (squeeze isSpace false both.toList))

/-- `crs` -/
def phaseCourses : List PhaseCourse :=
  (db.course.filter (fun c => occurs phaseForms (S.lower c.fullname).toList)).map (fun c =>
    { courseId := c.id
      fullname := c.fullname
      pairKey := pairKey S c.fullname
      phase := if occurs baselineForms (S.lower c.fullname).toList then .baseline else .endline })

/-- `MIN(text)` under the collation -/
def minText (texts : List String) : Option String :=
  (texts.insertionSort (fun a b => S.sortKey a ≤ S.sortKey b)).head?

def ofPhase (phase : Phase) (group : List PhaseCourse) : List PhaseCourse := group.filter (fun c => c.phase = phase)

def coursePair (first : PhaseCourse) (group : List PhaseCourse) : CoursePair where
  pairKey := first.pairKey
  baselineCourseId := ((ofPhase .baseline group).map PhaseCourse.courseId).max?
  endlineCourseId := ((ofPhase .endline group).map PhaseCourse.courseId).max?
  baselineCourse := minText S ((ofPhase .baseline group).map PhaseCourse.fullname)
  endlineCourse := minText S ((ofPhase .endline group).map PhaseCourse.fullname)

/-- `pr`; both phases occur where both have a course. -/
def pairs : List CoursePair :=
  (selectGroups (fun c => S.sortKey c.pairKey) (coursePair S) (phaseCourses S db)).filter
    (fun p => p.baselineCourseId.isSome && p.endlineCourseId.isSome)

/-! ## The grades of the students -/

/-- A final grade for the whole of a course. -/
def isCourseGrade (gi : GradeItem) (gg : GradeGrade) : Bool :=
  gg.itemid = gi.id && S.same gi.itemtype "course" && 0 < gi.grademax && gg.finalgrade.isSome

/-- `grades` -/
def grades : List CourseGrade :=
  ((join (isCourseGrade S) db.gradeItems db.gradeGrades).filter (fun p =>
    (pairs S db).any (fun pair => pair.has p.1.courseid))).map (fun p =>
      { courseid := p.1.courseid
        userid := p.2.userid
        pct := (p.2.finalgrade.bind (fun grade => S.divide grade p.1.grademax)).map (fun q => roundTo 1 (q * 100)) })

/-- `MAX(CASE WHEN g.courseid = course THEN g.pct END)` -/
def maxPct (course : Option Nat) (group : List (CourseGrade × CoursePair)) : Option ℚ :=
  ((group.filter (fun p => p.1.courseid.isSome && p.1.courseid = course)).map (fun p => p.1.pct)).reduceOption.max?

def studentKey (p : CourseGrade × CoursePair) : List Nat × Option (List Nat) × Option (List Nat) × Nat :=
  (S.sortKey p.2.pairKey, p.2.baselineCourse.map S.sortKey, p.2.endlineCourse.map S.sortKey, p.1.userid)

def studentResult (first : CourseGrade × CoursePair) (group : List (CourseGrade × CoursePair)) :
    StudentResult where
  pairKey := first.2.pairKey
  baselineCourse := first.2.baselineCourse
  endlineCourse := first.2.endlineCourse
  userid := first.1.userid
  baselinePct := maxPct first.2.baselineCourseId group
  endlinePct := maxPct first.2.endlineCourseId group

/-- `stu` -/
def students : List StudentResult :=
  selectGroups (studentKey S) studentResult
    (join (fun g pair => pair.has g.courseid) (grades S db) (pairs S db))

/-! ## The trainers of the students -/

/-- `GREATEST(COALESCE(cu.timemodified, 0), COALESCE(cl.timemodified, 0))` -/
def activity (p : ClassroomUser × Classroom) : Int := max (p.1.timemodified.getD 0) (p.2.timemodified.getD 0)

/-- The last activity first, then the greatest classroom id. -/
def before (a b : ClassroomUser × Classroom) : Prop :=
  toLex (activity b, b.2.id) ≤ toLex (activity a, a.2.id)

instance : DecidableRel before := fun _ _ => inferInstanceAs (Decidable (toLex (_, _) ≤ toLex (_, _)))

instance : Std.Total before := ⟨fun _ _ => le_total (toLex (_, _)) (toLex (_, _))⟩

instance : IsTrans (ClassroomUser × Classroom) before :=
  ⟨fun _ _ _ ab bc => le_trans (a := toLex (_, _)) (b := toLex (_, _)) (c := toLex (_, _)) bc ab⟩

/-- The memberships of the students in existing classrooms. -/
def memberships : List (ClassroomUser × Classroom) :=
  (join (fun cu cl => cu.classroomid = some cl.id) db.localClassroomUsers db.localClassroom).filter (fun p =>
    p.1.userid.isSome && (students S db).any (fun s => p.1.userid = some s.userid))

variable (w : Arrangement before)

/-- The rows of `x` with `rn = 1`. -/
def latest : List (ClassroomUser × Classroom) :=
  firstRows w (fun p => p.1.userid) (memberships S db)

/-- `teach`, as pairs of a student and a trainer. -/
def teach : List (Option Nat × Option Nat) :=
  ((join (fun x t => t.classroomid.isSome && t.classroomid = x.1.classroomid) (latest S db w)
    db.localClassroomTrainers).map (fun p => (p.1.1.userid, p.2.trainerid))).dedup

/-! ## The view -/

/-- `u.open_school` against the number of a school -/
def schoolOf (openSchool : Option String) (s : School) : Bool := openSchool.any (fun t => S.numberOf t = s.id)

/-- `((((student, user), school), trainer), trainer's user), trainer's school` -/
abbrev JoinedRow := ((((StudentResult × User) × Option School) × Option (Option Nat × Option Nat)) ×
  Option User) × Option School

def joinedRows : List JoinedRow :=
  let withUser := join (fun s u => u.id = s.userid) (students S db) db.user
  let withSchool := leftJoin (fun p ss => schoolOf S p.2.openSchool ss) withUser db.localSchool
  let withTeach := leftJoin (fun p t => t.1 = some p.1.1.userid) withSchool (teach S db w)
  let withTrainer := leftJoin (fun p tu => p.2.bind Prod.snd = some tu.id) withTeach db.user
  leftJoin (fun p ts => schoolOf S (p.2.bind User.openSchool) ts) withTrainer db.localSchool

def studentOf (r : JoinedRow) : StudentResult := r.1.1.1.1.1

/-- `COALESCE(t.trainerid, 0)` -/
def teacherIdOf (r : JoinedRow) : Nat := (r.1.1.2.bind Prod.snd).getD 0

/-- `PARTITION BY s.pair_key, COALESCE(t.trainerid, 0)` -/
def cohort (r : JoinedRow) : List Nat × Nat := (S.sortKey (studentOf r).pairKey, teacherIdOf r)

/-- `TRIM(CONCAT(COALESCE(firstname, ''), ' ', COALESCE(lastname, '')))` -/
def trimmedName (u : Option User) : String :=
  trim ((u.map User.firstname).getD "" ++ " " ++ (u.map User.lastname).getD "")

/-- `TRIM(TRAILING '_' FROM TRIM(SUBSTRING_INDEX(pair_key, '<ph>', 1)))` -/
def surveyLabel (key : String) : String :=
  let label := trim (String.ofList (beforeTag key.toList))
  String.ofList (label.toList.reverse.dropWhile (· = '_')).reverse
where
  beforeTag : List Char → List Char
    | [] => []
    | c :: cs => if ['<', 'p', 'h', '>'] <+: c :: cs then [] else c :: beforeTag cs

def selectRow (r : JoinedRow) (partition_ : List JoinedRow) : TeacherStudentRow where
  pairKey := (studentOf r).pairKey
  surveyLabel := surveyLabel (studentOf r).pairKey
  baselineCourse := (studentOf r).baselineCourse
  endlineCourse := (studentOf r).endlineCourse
  teacherId := teacherIdOf r
  teacherName := (nullIf S (some (trimmedName r.1.2)) "").getD "Unassigned"
  teacherUsername := (r.1.2.map User.username).getD "(unassigned)"
  teacherSchool := (r.2.bind School.schoolName).getD "(not set)"
  studentId := (studentOf r).userid
  studentName := trimmedName (some r.1.1.1.1.2)
  studentUsername := r.1.1.1.1.2.username
  studentSchool := (r.1.1.1.2.bind School.schoolName).getD "(not set)"
  baselinePct := (studentOf r).baselinePct
  endlinePct := (studentOf r).endlinePct
  gainPct := (studentOf r).endlinePct.bind (fun after => (studentOf r).baselinePct.map (fun start =>
    roundTo 1 (after - start)))
  teacherAvgBaselinePct := (S.average (partition_.map (fun x => (studentOf x).baselinePct))).map (roundTo 1)
  teacherAvgEndlinePct := (S.average (partition_.map (fun x => (studentOf x).endlinePct))).map (roundTo 1)
  teacherStudentCount := partition_.length

/-- `kpi7_baseline_endline_teacher` -/
def view : List TeacherStudentRow :=
  (overPartition (cohort S) id (joinedRows S db w)).map (fun p => selectRow S p.1 p.2)

end BaselineEndline
end XpBuilder.Moodle
