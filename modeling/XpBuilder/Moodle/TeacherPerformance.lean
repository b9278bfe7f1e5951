import XpBuilder.Moodle.Tables

/-! The student and the course dataset of the teacher performance report: one row for each
teacher, class and student, and one for each teacher and course. -/

namespace XpBuilder.Moodle
open Relational

/-- `s REGEXP '^[0-9]+$'`, where the end may be before a last line break. -/
def isNumber (s : String) : Bool :=
  let body := if s.toList.getLast? = some (Char.ofNat 10) then s.toList.dropLast else s.toList
  body ≠ [] && body.all Char.isDigit

/-- `CAST(s AS UNSIGNED)` -/
def castUnsigned (s : String) : Nat :=
  min (2 ^ 64 - 1) ((s.toList.takeWhile Char.isDigit).foldl (fun n c => 10 * n + (c.toNat - 48)) 0)

structure ClassStudent where
  teacherId : Option Nat
  classId : Option Nat
  studentId : Option Nat
  deriving DecidableEq

/-- A student's average over some of the graded items and the day of the last of them. -/
structure StudentScore where
  studentId : Nat
  pct : Option ℚ
  on : Option Int
  deriving DecidableEq

structure TeacherCourse where
  teacherId : Option Nat
  courseId : Nat
  completedFlag : Nat
  deriving DecidableEq

structure TeacherCourses where
  teacherId : Option Nat
  coursesAssigned : Nat
  coursesCompleted : Nat
  deriving DecidableEq

structure GradedRow where
  teacherId : Option Nat
  classId : Option Nat
  studentId : Option Nat
  className : Option String
  gradeCode : Option String
  gradeId : Option Nat
  schoolCode : Option String
  coursesAssigned : Option Nat
  coursesCompleted : Option Nat
  artefactsSubmitted : Nat
  baselinePct : Option ℚ
  masteryPct : Option ℚ
  gradesRecorded : Nat
  assessedOn : Int
  deriving DecidableEq

structure StudentRow where
  teacherId : Option Nat
  teacherName : String
  teacherUsername : String
  gradeId : Option Nat
  gradeName : String
  classId : Option Nat
  className : Option String
  schoolId : Option Nat
  schoolName : String
  studentId : Option Nat
  studentName : String
  studentUsername : String
  coursesAssigned : Nat
  coursesCompleted : Nat
  artefactsSubmitted : Nat
  baselineScore : Option ℚ
  masteryScore : Option ℚ
  studentGain : Option ℚ
  assessmentsRecorded : Nat
  lastAssessmentDate : Option Int
  deriving DecidableEq

structure CourseRow where
  teacherId : Option Nat
  teacherName : String
  courseId : Nat
  courseName : String
  courseShortname : String
  courseCategory : String
  completedFlag : Nat
  artefactsSubmitted : Nat
  deriving DecidableEq

namespace TeacherPerformance
variable (S : Server) (db : Database)

/-- The day of `'1900-01-01'`. -/
def noDate : Int := -25567

/-- `teacher_classes` -/
def teacherClasses : List (Option Nat × Option Nat) :=
  (db.localClassroomTrainers.map (fun t => (t.trainerid, t.classroomid))).dedup

/-- `class_students` -/
def classStudents : List ClassStudent :=
  ((join (fun tc cu => cu.classroomid.isSome && cu.classroomid = tc.2) (teacherClasses db)
    db.localClassroomUsers).map (fun p => ⟨p.1.1, p.1.2, p.2.userid⟩)).dedup

def scored (patterns : List String) (gg : GradeGrade) (gi : GradeItem) : Bool :=
  gg.finalgrade.isSome && 0 < gi.grademax &&
    gi.itemname.any (fun name => patterns.any (fun pattern => S.like (S.lower name) pattern))

def scoresLike (patterns : List String) : List StudentScore :=
  let rows := (join (fun gg gi => gi.id = gg.itemid) db.gradeGrades db.gradeItems).filter
    (fun p => scored S patterns p.1 p.2)
  (groupBy (fun p => p.1.userid) rows).map (fun g =>
    { studentId := g.1
      pct := S.average (g.2.map (fun p =>
        (p.1.finalgrade.bind (fun grade => S.divide grade p.2.grademax)).map (· * 100)))
      on := (g.2.map (fun p => S.date p.1.timemodified)).reduceOption.max? })

/-- `student_baseline` -/
def studentBaseline : List StudentScore :=
  scoresLike S db ["%baseline%", "%pre test%", "%pre-test%", "%pretest%", "%pre course%", "%pre-course%",
    "%pre session%", "%pre-survey%", "%pre survey%"]

/-- `student_mastery` -/
def studentMastery : List StudentScore :=
  scoresLike S db ["%midline%", "%mid line%", "%mid-line%", "%endline%", "%post test%", "%post-test%",
    "%postest%", "%post course%", "%post session%", "%post survey%"]

/-- `student_volume` -/
def studentVolume : List (Nat × Nat) :=
  (groupBy GradeGrade.userid (db.gradeGrades.filter (fun gg => gg.finalgrade.isSome))).map (fun g =>
    (g.1, g.2.length))

def isTrainer (u : Nat) : Bool := db.localClassroomTrainers.any (fun t => t.trainerid = some u)

/-- `trainers` -/
def trainers : List (Option Nat) := (db.localClassroomTrainers.map ClassroomTrainer.trainerid).dedup

/-- `teacher_course_rows`, and `course_rows` of the course dataset -/
def teacherCourseRows : List TeacherCourse :=
  let placed := join (fun tr ue => some ue.userid = tr) (trainers db) db.userEnrolments
  let enrolled := (join (fun p e => e.id = p.2.enrolid) placed db.enrol).map (fun p =>
    ({ teacherId := p.1.1, courseId := p.2.courseid, completedFlag := 0 } : TeacherCourse))
  let completed := (db.courseCompletions.filter (fun cc => isTrainer db cc.userid)).map (fun cc =>
    ({ teacherId := some cc.userid, courseId := cc.course, completedFlag := 1 } : TeacherCourse))
  (enrolled ++ completed).dedup

/-- `teacher_courses` -/
def teacherCourses : List TeacherCourses :=
  (groupBy TeacherCourse.teacherId (teacherCourseRows db)).map (fun g =>
    { teacherId := g.1
      coursesAssigned := countDistinct (g.2.map (fun r => some r.courseId))
      coursesCompleted := countDistinct (g.2.map (fun r =>
        if r.completedFlag = 1 then some r.courseId else none)) })

/-- `teacher_artefacts`, and `artefacts` of the course dataset -/
def teacherArtefacts : List (Nat × Nat) :=
  (groupBy AssignSubmission.userid (db.assignSubmission.filter (fun s =>
    s.status.any (fun status => S.same status "submitted") && isTrainer db s.userid))).map (fun g =>
    (g.1, g.2.length))

def gradedRow (cs : ClassStudent) (cls : Classroom) (sb sm : Option StudentScore) (sv : Option (Nat × Nat))
    (tc : Option TeacherCourses) (ta : Option (Nat × Nat)) : GradedRow where
  teacherId := cs.teacherId
  classId := cs.classId
  studentId := cs.studentId
  className := cls.name
  gradeCode := nullIf S cls.openStandard ""
  gradeId := (cls.openStandard.filter isNumber).map castUnsigned
  schoolCode := nullIf S cls.openSchool ""
  coursesAssigned := tc.map TeacherCourses.coursesAssigned
  coursesCompleted := tc.map TeacherCourses.coursesCompleted
  artefactsSubmitted := (ta.map Prod.snd).getD 0
  baselinePct := sb.bind StudentScore.pct
  masteryPct := sm.bind StudentScore.pct
  gradesRecorded := (sv.map Prod.snd).getD 0
  assessedOn := max ((sb.bind StudentScore.on).getD noDate) ((sm.bind StudentScore.on).getD noDate)

/-- `graded` -/
def graded : List GradedRow :=
  let inClass := join (fun cs cls => cs.classId = some cls.id) (classStudents db) db.localClassroom
  let withBaseline := leftJoin (fun p sb => p.1.studentId = some sb.studentId) inClass (studentBaseline S db)
  let withMastery := leftJoin (fun p sm => p.1.1.studentId = some sm.studentId) withBaseline (studentMastery S db)
  let withVolume := leftJoin (fun p sv => p.1.1.1.studentId = some sv.1) withMastery (studentVolume db)
  let withCourses := leftJoin (fun p tc => p.1.1.1.1.teacherId.isSome && p.1.1.1.1.teacherId = tc.teacherId)
    withVolume (teacherCourses db)
  let withArtefacts := leftJoin (fun p ta => p.1.1.1.1.1.teacherId = some ta.1) withCourses (teacherArtefacts S db)
  withArtefacts.map (fun p =>
    gradedRow S p.1.1.1.1.1.1 p.1.1.1.1.1.2 p.1.1.1.1.2 p.1.1.1.2 p.1.1.2 p.1.2 p.2)

def studentGain (baselinePct masteryPct : Option ℚ) : Option ℚ :=
  match baselinePct, masteryPct with
  | some baseline, some mastery => (S.divide (mastery - baseline) baseline).map (roundTo 4)
  | _, _ => none

def studentRow (g : GradedRow) (tu su : User) (sc : Option School) : StudentRow where
  teacherId := g.teacherId
  teacherName := tu.fullName
  teacherUsername := tu.username
  gradeId := g.gradeId
  gradeName := (g.gradeCode.map ("Grade " ++ ·)).getD "Grade not set"
  classId := g.classId
  className := g.className
  schoolId := sc.map School.id
  schoolName := (sc.bind School.schoolName).getD "No school set"
  studentId := g.studentId
  studentName := su.fullName
  studentUsername := su.username
  coursesAssigned := g.coursesAssigned.getD 0
  coursesCompleted := g.coursesCompleted.getD 0
  artefactsSubmitted := g.artefactsSubmitted
  baselineScore := g.baselinePct.map (roundTo 2)
  masteryScore := g.masteryPct.map (roundTo 2)
  studentGain := studentGain S g.baselinePct g.masteryPct
  assessmentsRecorded := g.gradesRecorded
  lastAssessmentDate := if g.assessedOn = noDate then none else some g.assessedOn

def schoolOf (g : GradedRow) (sc : School) : Bool :=
  g.schoolCode.any (fun code => isNumber code && sc.id = castUnsigned code)

/-- `STUDENT_SQL` -/
def studentDataset : List StudentRow :=
  let withTeacher := join (fun g tu => g.teacherId = some tu.id) (graded S db) db.user
  let withStudent := join (fun p su => p.1.studentId = some su.id) withTeacher db.user
  let withSchool := leftJoin (fun p sc => schoolOf p.1.1 sc) withStudent db.localSchool
  withSchool.map (fun p => studentRow S p.1.1.1 p.1.1.2 p.1.2 p.2)

/-- `assigned` -/
def assigned : List TeacherCourse :=
  (groupBy (fun r => (r.teacherId, r.courseId)) (teacherCourseRows db)).map (fun g =>
    { teacherId := g.1.1, courseId := g.1.2
      completedFlag := (g.2.map TeacherCourse.completedFlag).max?.getD 0 })

def courseRow (a : TeacherCourse) (u : User) (c : Course) (cc : Option CourseCategory)
    (ar : Option (Nat × Nat)) : CourseRow where
  teacherId := a.teacherId
  teacherName := u.fullName
  courseId := a.courseId
  courseName := c.fullname
  courseShortname := c.shortname
  courseCategory := (cc.map CourseCategory.name).getD "Uncategorised"
  completedFlag := a.completedFlag
  artefactsSubmitted := (ar.map Prod.snd).getD 0

/-- `COURSE_SQL` -/
def courseDataset : List CourseRow :=
  let withUser := join (fun a u => a.teacherId = some u.id) (assigned db) db.user
  let withCourse := join (fun p c => c.id = p.1.courseId) withUser db.course
  let withCategory := leftJoin (fun p cc => cc.id = p.2.category) withCourse db.courseCategories
  let withArtefacts := leftJoin (fun p ar => p.1.1.1.teacherId = some ar.1) withCategory (teacherArtefacts S db)
  withArtefacts.map (fun p => courseRow p.1.1.1.1 p.1.1.1.2 p.1.1.2 p.1.2 p.2)

end TeacherPerformance
end XpBuilder.Moodle
