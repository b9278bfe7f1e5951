import XpBuilder.Library.Relational
import XpBuilder.PythonText
import Mathlib.Algebra.Order.Floor.Ring
import Mathlib.Data.List.ReduceOption
import Mathlib.Data.Rat.Floor
import Mathlib.Tactic.Linarith
import Mathlib.Tactic.Positivity

/-! The Moodle tables that the report queries read, with their primary keys, and what the
database server decides for itself: the collation of its texts, its time zone, the digits
it keeps of a quotient. A column that may be NULL is an `Option`. -/

namespace XpBuilder.Moodle

structure User where
  id : Nat
  username : String := ""
  firstname : String := ""
  lastname : String := ""
  email : String := ""
  phone1 : String := ""
  auth : String := "manual"
  gender : Option String := none
  suspended : Nat := 0
  confirmed : Nat := 1
  deleted : Nat := 0
  timecreated : Int := 0
  lastaccess : Int := 0
  lastlogin : Int := 0
  openEmployeeid : Option String := none
  openDesignation : Option String := none
  openSchool : Option String := none
  deriving DecidableEq

structure Course where
  id : Nat
  fullname : String := ""
  shortname : String := ""
  category : Nat := 0
  visible : Nat := 1
  deriving DecidableEq

structure CourseCategory where
  id : Nat
  name : String
  deriving DecidableEq

structure Enrol where
  id : Nat
  courseid : Nat
  deriving DecidableEq

structure UserEnrolment where
  enrolid : Nat
  userid : Nat
  status : Nat := 0
  deriving DecidableEq

/-- The row stays while the aggregation is pending, with no `timecompleted`. -/
structure CourseCompletion where
  userid : Nat
  course : Nat
  timecompleted : Option Int
  deriving DecidableEq

structure Role where
  id : Nat
  shortname : String
  deriving DecidableEq

structure Context where
  id : Nat
  contextlevel : Nat
  instanceid : Nat
  deriving DecidableEq

structure RoleAssignment where
  roleid : Nat
  contextid : Nat
  userid : Nat
  deriving DecidableEq

structure CourseModule where
  id : Nat
  course : Nat
  deletioninprogress : Nat := 0
  deriving DecidableEq

structure CourseModuleCompletion where
  coursemoduleid : Nat
  userid : Nat
  completionstate : Int
  deriving DecidableEq

structure Assign where
  id : Nat
  course : Nat
  name : String
  grade : Int := 100
  deriving DecidableEq

/-- One row for each attempt. -/
structure AssignSubmission where
  assignment : Nat
  userid : Nat
  timemodified : Int := 0
  status : Option String
  deriving DecidableEq

/-- One row for each graded attempt. -/
structure AssignGrade where
  assignment : Nat
  userid : Nat
  grade : Option ℚ
  deriving DecidableEq

structure GradeItem where
  id : Nat
  courseid : Option Nat
  itemname : Option String := none
  itemtype : String := "manual"
  itemmodule : Option String := none
  grademax : ℚ := 100
  deriving DecidableEq

structure GradeGrade where
  itemid : Nat
  userid : Nat
  finalgrade : Option ℚ
  timemodified : Option Int := none
  deriving DecidableEq

structure Observation where
  id : Nat
  name : Option String
  deriving DecidableEq

structure ObservationUser where
  userid : Option Nat
  observationsid : Option Nat
  timecreated : Option Int := none
  deriving DecidableEq

structure School where
  id : Nat
  schoolName : Option String
  openDistrict : Option String := none
  openTahsil : Option String := none
  deriving DecidableEq

structure Classroom where
  id : Nat
  name : Option String := none
  openStandard : Option String := none
  openSchool : Option String := none
  timemodified : Option Int := none
  deriving DecidableEq

structure ClassroomTrainer where
  classroomid : Option Nat
  trainerid : Option Nat
  deriving DecidableEq

structure ClassroomUser where
  classroomid : Option Nat
  userid : Option Nat
  timemodified : Option Int := none
  deriving DecidableEq

/-- The contents of a Moodle database. -/
structure Database where
  user : List User := []
  course : List Course := []
  courseCategories : List CourseCategory := []
  enrol : List Enrol := []
  userEnrolments : List UserEnrolment := []
  courseCompletions : List CourseCompletion := []
  role : List Role := []
  context : List Context := []
  roleAssignments : List RoleAssignment := []
  courseModules : List CourseModule := []
  courseModulesCompletion : List CourseModuleCompletion := []
  assign : List Assign := []
  assignSubmission : List AssignSubmission := []
  assignGrades : List AssignGrade := []
  gradeItems : List GradeItem := []
  gradeGrades : List GradeGrade := []
  localObservations : List Observation := []
  localObservationsUsers : List ObservationUser := []
  localSchool : List School := []
  localClassroom : List Classroom := []
  localClassroomTrainers : List ClassroomTrainer := []
  localClassroomUsers : List ClassroomUser := []
  userIds : (user.map User.id).Nodup := by first | exact List.nodup_nil | decide
  courseIds : (course.map Course.id).Nodup := by first | exact List.nodup_nil | decide
  categoryIds : (courseCategories.map CourseCategory.id).Nodup := by first | exact List.nodup_nil | decide
  enrolIds : (enrol.map Enrol.id).Nodup := by first | exact List.nodup_nil | decide
  roleIds : (role.map Role.id).Nodup := by first | exact List.nodup_nil | decide
  contextIds : (context.map Context.id).Nodup := by first | exact List.nodup_nil | decide
  moduleIds : (courseModules.map CourseModule.id).Nodup := by first | exact List.nodup_nil | decide
  assignIds : (assign.map Assign.id).Nodup := by first | exact List.nodup_nil | decide
  itemIds : (gradeItems.map GradeItem.id).Nodup := by first | exact List.nodup_nil | decide
  observationIds : (localObservations.map Observation.id).Nodup := by first | exact List.nodup_nil | decide
  schoolIds : (localSchool.map School.id).Nodup := by first | exact List.nodup_nil | decide
  classroomIds : (localClassroom.map Classroom.id).Nodup := by first | exact List.nodup_nil | decide

/-! ## The server -/

/-- Texts that the collation does not tell apart have one sort key, characters one `fold`.
Of a quotient the server keeps some of its digits, which never takes it past a whole number. -/
structure Server where
  fold : Char → Char
  sortKey : String → List Nat
  lowerChar : Char → Char
  upperChar : Char → Char
  numberOf : String → ℚ
  /-- The wall clock at a Unix time, in seconds. -/
  fromUnixtime : Int → Option Int
  /-- The wall clock of the query. -/
  now : Int
  keep : ℚ → ℚ
  keep_mono : ∀ p q, p ≤ q → keep p ≤ keep q
  keep_int : ∀ n : Int, keep n = n

namespace Server
variable (S : Server)

/-- `a = b` -/
def same (a b : String) : Bool := S.sortKey a = S.sortKey b

/-- `a IN (...)` -/
def isIn (a : String) (items : List String) : Bool := items.any (S.same a)

/-- `text LIKE pattern` -/
def like (text pattern : String) : Bool :=
  Sql.likeMatch true (pattern.toList.map S.fold) (text.toList.map S.fold)

def lower (s : String) : String := String.ofList (s.toList.map S.lowerChar)

def upper (s : String) : String := String.ofList (s.toList.map S.upperChar)

/-- `DATE(FROM_UNIXTIME(t))`, as a number of days. -/
def date (t : Option Int) : Option Int := (t.bind S.fromUnixtime).map (· / 86400)

/-- `a / b`, NULL where `b` is 0. -/
def divide (a b : ℚ) : Option ℚ := if b = 0 then none else some (S.keep (a / b))

/-- `AVG(value)`, which skips NULL. -/
def average (values : List (Option ℚ)) : Option ℚ :=
  S.divide values.reduceOption.sum values.reduceOption.length

/-- A server in UTC with a binary collation, which keeps all digits. -/
def plain : Server where
  fold := id
  sortKey s := s.toList.map Char.toNat
  lowerChar := Char.toLower
  upperChar := Char.toUpper
  numberOf s := ((s.toList.takeWhile Char.isDigit).foldl (fun n c => 10 * n + (c.toNat - 48)) 0 : Nat)
  fromUnixtime t := if 0 ≤ t then some t else none
  now := 1800000000
  keep := id
  keep_mono _ _ := id
  keep_int _ := rfl

end Server

/-- `ROUND(x, digits)`: halves go away from zero. -/
def roundTo (digits : Nat) (x : ℚ) : ℚ :=
  if 0 ≤ x then ⌊x * 10 ^ digits + 1 / 2⌋ / 10 ^ digits else -(⌊-x * 10 ^ digits + 1 / 2⌋ / 10 ^ digits)

/-- What the server keeps of a quotient is between the same whole numbers. -/
theorem Server.divide_between {S : Server} {a b q : ℚ} {low high : Int} (positive : 0 < b)
    (below : low * b ≤ a) (above : a ≤ high * b) (quotient : S.divide a b = some q) :
    (low : ℚ) ≤ q ∧ q ≤ high := by
  have kept : q = S.keep (a / b) := by
    rw [Server.divide, if_neg (ne_of_gt positive)] at quotient
    exact (Option.some.inj quotient).symm
  have lower : (low : ℚ) ≤ a / b := (le_div_iff₀ positive).mpr below
  have upper : a / b ≤ high := (div_le_iff₀ positive).mpr above
  rw [kept, ← S.keep_int low, ← S.keep_int high]
  exact ⟨S.keep_mono _ _ lower, S.keep_mono _ _ upper⟩

theorem Server.average_between {S : Server} {values : List (Option ℚ)} {a : ℚ} {low high : Int}
    (bounds : ∀ v ∈ values.reduceOption, (low : ℚ) ≤ v ∧ v ≤ high) (mean : S.average values = some a) :
    (low : ℚ) ≤ a ∧ a ≤ high := by
  have some_value : values.reduceOption ≠ [] := by
    intro empty
    simp [Server.average, Server.divide, empty] at mean
  have positive : (0 : ℚ) < values.reduceOption.length := by
    exact_mod_cast List.length_pos_of_ne_nil some_value
  have sums : ∀ l : List ℚ, (∀ v ∈ l, (low : ℚ) ≤ v ∧ v ≤ high) →
      (low : ℚ) * l.length ≤ l.sum ∧ l.sum ≤ high * l.length := by
    intro l
    induction l with
    | nil => simp
    | cons v rest ih =>
      intro each
      rw [List.forall_mem_cons] at each
      have tail := ih each.2
      have head := each.1
      rw [List.sum_cons, List.length_cons]
      push_cast
      constructor <;> linarith [tail.1, tail.2, head.1, head.2]
  have total := sums _ bounds
  exact Server.divide_between positive total.1 total.2 mean

theorem roundTo_between {digits : Nat} {x : ℚ} {high : Nat} (below : 0 ≤ x) (above : x ≤ high) :
    0 ≤ roundTo digits x ∧ roundTo digits x ≤ high := by
  have scale : (0 : ℚ) < 10 ^ digits := by positivity
  have scaled : 0 ≤ x * 10 ^ digits := mul_nonneg below scale.le
  rw [roundTo, if_pos below]
  constructor
  · have floor : 0 ≤ ⌊x * 10 ^ digits + 1 / 2⌋ := Int.floor_nonneg.mpr (by linarith)
    have cast : (0 : ℚ) ≤ (⌊x * 10 ^ digits + 1 / 2⌋ : Int) := by exact_mod_cast floor
    exact div_nonneg cast scale.le
  · rw [div_le_iff₀ scale]
    have bound : x * 10 ^ digits ≤ high * 10 ^ digits := mul_le_mul_of_nonneg_right above scale.le
    have floor : ⌊x * 10 ^ digits + 1 / 2⌋ < (high * 10 ^ digits : Nat) + 1 := by
      rw [Int.floor_lt]
      push_cast
      linarith
    have small : ⌊x * 10 ^ digits + 1 / 2⌋ ≤ (high * 10 ^ digits : Nat) := by omega
    calc ((⌊x * 10 ^ digits + 1 / 2⌋ : Int) : ℚ) ≤ ((high * 10 ^ digits : Nat) : Int) := by exact_mod_cast small
      _ = high * 10 ^ digits := by push_cast; rfl

/-- `NULLIF(a, b)` -/
def nullIf (S : Server) (a : Option String) (b : String) : Option String :=
  a.filter (fun s => !S.same s b)

/-- `TRIM(s)` -/
def trim (s : String) : String := String.ofList (PythonText.stripChars (· = ' ') s.toList)

/-- `CONCAT(firstname, ' ', lastname)` -/
def User.fullName (u : User) : String := u.firstname ++ " " ++ u.lastname

end XpBuilder.Moodle
