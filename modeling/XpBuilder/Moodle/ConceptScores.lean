import XpBuilder.Moodle.TeacherGrain

/-! The concept dataset of the teacher performance report: what the gradebook records of the
micro courses and the tests of the classrooms, each averaged for a teacher, a class, a
student or none, and a concept. -/

namespace XpBuilder.Moodle
open Relational

/-- A row of `mdl_local_classroom_test_score`. -/
structure TestScore where
  classroomid : Option Nat
  courseid : Option Nat := none
  testid : Option String := none
  testdate : Option Int := none
  score : Option String
  totalmarks : Option String
  deriving DecidableEq

/-- With `iteminstance` of each grade item, by its id. -/
structure ConceptDatabase extends Database where
  itemInstance : Nat → Option Nat := fun _ => none
  localClassroomTestScore : List TestScore := []

/-- `s REGEXP '^[0-9]+([.][0-9]+)?$'`, where the end may be before a last line break. -/
def isDecimal (s : String) : Bool :=
  let body := if s.toList.getLast? = some (Char.ofNat 10) then s.toList.dropLast else s.toList
  body.takeWhile Char.isDigit ≠ [] &&
    match body.dropWhile Char.isDigit with
    | [] => true
    | point :: fraction => point = '.' && fraction ≠ [] && fraction.all Char.isDigit

def digitsValue (digits : List Char) : Nat := digits.foldl (fun n c => 10 * n + (c.toNat - 48)) 0

/-- The number that a text begins with. -/
def readDecimal (s : String) : ℚ :=
  let fraction := match s.toList.dropWhile Char.isDigit with
    | '.' :: rest => rest.takeWhile Char.isDigit
    | _ => []
  digitsValue (s.toList.takeWhile Char.isDigit) + digitsValue fraction / 10 ^ fraction.length

/-- `CAST(s AS DECIMAL(12, 4))` -/
def castDecimal (s : String) : ℚ := min (999999999999 / 10 ^ 4) (roundTo 4 (readDecimal s))

structure GradebookRow where
  student : ClassStudent
  grade : GradeGrade
  item : GradeItem
  assign : Option Assign
  deriving DecidableEq

structure ClassroomTest where
  classId : Option Nat
  courseId : Option Nat
  testid : Option String
  testdate : Option Int
  score : ℚ
  totalmarks : ℚ
  deriving DecidableEq

structure TestRow where
  test : ClassroomTest
  teacherId : Option Nat
  course : Option Course
  deriving DecidableEq

structure ConceptScore where
  place : ClassStudent
  conceptName : Option String
  conceptScore : Option ℚ
  assessmentsRecorded : Nat
  conceptOn : Option Int
  deriving DecidableEq

structure ConceptRow where
  teacherId : Option Nat
  teacherName : String
  gradeCode : Option String
  gradeId : Option Nat
  gradeName : String
  classId : Option Nat
  className : Option String
  studentId : Option Nat
  studentName : Option String
  conceptName : Option String
  microassessmentScore : Option ℚ
  assessmentsRecorded : Nat
  lastAssessmentDate : Option Int
  deriving DecidableEq

namespace TeacherPerformance
variable (S : Server) (db : ConceptDatabase)

/-- `micro_courses` -/
def microCourses : List Nat :=
  (db.course.filter (fun c => S.like (S.lower c.fullname) "%micro%")).map Course.id

/-- The assignment behind a grade item. -/
def itemAssign (gi : GradeItem) (a : Assign) : Bool :=
  gi.itemmodule.any (S.same · "assign") && db.itemInstance gi.id = some a.id

def itemConcept (gi : GradeItem) (a : Option Assign) : Option String :=
  (nullIf S gi.itemname "").or (nullIf S (a.map Assign.name) "")

def GradebookRow.concept (r : GradebookRow) : Option String := itemConcept S r.item r.assign

/-- The joined rows of `gradebook_scores`. -/
def gradebookRows : List GradebookRow :=
  let graded := join (fun cs gg => cs.studentId = some gg.userid) (classStudents db.toDatabase) db.gradeGrades
  let ofItem := join (fun p gi => gi.id = p.2.itemid) graded db.gradeItems
  let ofMicro := join (fun p course => p.2.courseid = some course) ofItem (microCourses S db)
  let withAssign := leftJoin (fun p a => itemAssign S db p.1.2 a) ofMicro db.assign
  (withAssign.map (fun p => ⟨p.1.1.1.1, p.1.1.1.2, p.1.1.2, p.2⟩)).filter (fun r =>
    r.grade.finalgrade.isSome && 0 < r.item.grademax && (GradebookRow.concept S r).isSome)

def gradePct (gg : GradeGrade) (gi : GradeItem) : Option ℚ :=
  (gg.finalgrade.bind (fun grade => S.divide grade gi.grademax)).map (· * 100)

/-- `gradebook_scores` -/
def gradebookScores : List ConceptScore :=
  selectGroups (fun r => (r.student, (GradebookRow.concept S r).map S.sortKey))
    (fun first group =>
      { place := first.student
        conceptName := GradebookRow.concept S first
        conceptScore := S.average (group.map (fun r => gradePct S r.grade r.item))
        assessmentsRecorded := group.length
        conceptOn := (group.map (fun r => S.date r.grade.timemodified)).reduceOption.max? })
    (gradebookRows S db)

def classroomTest (ts : TestScore) : Option ClassroomTest :=
  match ts.score, ts.totalmarks with
  | some score, some totalmarks =>
    if isDecimal score && isDecimal totalmarks && 0 < castDecimal totalmarks then
      some ⟨ts.classroomid, ts.courseid, ts.testid, ts.testdate, castDecimal score, castDecimal totalmarks⟩
    else none
  | _, _ => none

/-- `classroom_tests` -/
def classroomTests : List ClassroomTest := db.localClassroomTestScore.filterMap classroomTest

def testConcept (ct : ClassroomTest) (c : Option Course) : String :=
  ((nullIf S (c.map Course.fullname) "").or (nullIf S ct.testid "")).getD "Test"

/-- The joined rows of `test_scores`. -/
def testRows : List TestRow :=
  let taken := join (fun ct tc => ct.classId.isSome && tc.2 = ct.classId) (classroomTests db)
    (teacherClasses db.toDatabase)
  let withCourse := leftJoin (fun p c => p.1.courseId = some c.id) taken db.course
  withCourse.map (fun p => ⟨p.1.1, p.1.2.1, p.2⟩)

def testPct (ct : ClassroomTest) : Option ℚ := (S.divide ct.score ct.totalmarks).map (· * 100)

/-- `test_scores` -/
def testScores : List ConceptScore :=
  selectGroups (fun r => (r.teacherId, r.test.classId, S.sortKey (testConcept S r.test r.course)))
    (fun first group =>
      { place := ⟨first.teacherId, first.test.classId, none⟩
        conceptName := some (testConcept S first.test first.course)
        conceptScore := S.average (group.map (fun r => testPct S r.test))
        assessmentsRecorded := group.length
        conceptOn := (group.map (fun r => S.date r.test.testdate)).reduceOption.max? })
    (testRows db)

def conceptRow (t : ConceptScore) (cls : Classroom) (tu : User) (su : Option User) : ConceptRow where
  teacherId := t.place.teacherId
  teacherName := tu.fullName
  gradeCode := nullIf S cls.openStandard ""
  gradeId := (cls.openStandard.filter isNumber).map castUnsigned
  gradeName := ((nullIf S cls.openStandard "").map ("Grade " ++ ·)).getD "Grade not set"
  classId := t.place.classId
  className := cls.name
  studentId := t.place.studentId
  studentName := su.map User.fullName
  conceptName := t.conceptName
  microassessmentScore := t.conceptScore.map (roundTo 2)
  assessmentsRecorded := t.assessmentsRecorded
  lastAssessmentDate := t.conceptOn

/-- `CONCEPT_SQL` -/
def conceptDataset : List ConceptRow :=
  let inClass := join (fun t cls => t.place.classId = some cls.id) (gradebookScores S db ++ testScores S db)
    db.localClassroom
  let withTeacher := join (fun p tu => p.1.place.teacherId = some tu.id) inClass db.user
  let withStudent := leftJoin (fun p su => p.1.1.place.studentId = some su.id) withTeacher db.user
  withStudent.map (fun p => conceptRow S p.1.1.1 p.1.1.2 p.1.2 p.2)

end TeacherPerformance
end XpBuilder.Moodle
