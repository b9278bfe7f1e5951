import XpBuilder.Moodle.TeacherPerformance

/-! The rows of the teacher performance datasets: no join multiplies them, and the courses
that the student rows carry for a teacher are the rows of the course dataset. -/

namespace XpBuilder.Moodle
open Relational

namespace TeacherPerformance
variable (S : Server) (db : Database)

def userOf (k : Option Nat) : Option User := db.user.find? (fun u => k = some u.id)

def classOf (k : Option Nat) : Option Classroom := db.localClassroom.find? (fun cls => k = some cls.id)

def coursesOf (k : Option Nat) : Option TeacherCourses :=
  (teacherCourses db).find? (fun tc => k.isSome && k = tc.teacherId)

/-- The teacher trains the class, of which the student is a member; all three exist. -/
def taught (t k s : Nat) : Bool :=
  db.localClassroomTrainers.any (fun tr => tr.trainerid = some t && tr.classroomid = some k) &&
    db.localClassroomUsers.any (fun cu => cu.classroomid = some k && cu.userid = some s) &&
    db.localClassroom.any (fun cls => cls.id = k) && db.user.any (fun u => u.id = t) &&
    db.user.any (fun u => u.id = s)

/-- One row for each teacher, class and student. -/
structure StudentGrain (rows : List StudentRow) : Prop where
  keyed : ∀ r ∈ rows, ∃ t k s, r.teacherId = some t ∧ r.classId = some k ∧ r.studentId = some s
  once : ∀ t k s, rows.countP (fun r =>
      r.teacherId = some t && r.classId = some k && r.studentId = some s) = if taught db t k s then 1 else 0

/-- Every course that users are enrolled in or have completed exists. -/
def NoDanglingCourses : Prop :=
  (∀ e ∈ db.enrol, ∃ c ∈ db.course, c.id = e.courseid) ∧
    ∀ cc ∈ db.courseCompletions, ∃ c ∈ db.course, c.id = cc.course

/-! ## No join multiplies the rows -/

theorem nodup_scoresLike (patterns : List String) :
    ((scoresLike S db patterns).map StudentScore.studentId).Nodup := by
  unfold scoresLike
  rw [List.map_map]
  exact nodup_groupBy

theorem nodup_studentVolume : ((studentVolume db).map Prod.fst).Nodup := by
  unfold studentVolume
  rw [List.map_map]
  exact nodup_groupBy

theorem nodup_teacherCourses : ((teacherCourses db).map TeacherCourses.teacherId).Nodup := by
  unfold teacherCourses
  rw [List.map_map]
  exact nodup_groupBy

theorem nodup_teacherArtefacts : ((teacherArtefacts S db).map Prod.fst).Nodup := by
  unfold teacherArtefacts
  rw [List.map_map]
  exact nodup_groupBy

def gradedOf (cs : ClassStudent) (cls : Classroom) : GradedRow :=
  gradedRow S cs cls ((studentBaseline S db).find? (fun sb => cs.studentId = some sb.studentId))
    ((studentMastery S db).find? (fun sm => cs.studentId = some sm.studentId))
    ((studentVolume db).find? (fun sv => cs.studentId = some sv.1)) (coursesOf db cs.teacherId)
    ((teacherArtefacts S db).find? (fun ta => cs.teacherId = some ta.1))

theorem graded_eq : graded S db = (classStudents db).filterMap (fun cs =>
    (classOf db cs.classId).map (gradedOf S db cs)) := by
  have byCourses : ∀ k : Option Nat,
      ((teacherCourses db).filter (fun tc => k.isSome && k = tc.teacherId)).length ≤ 1 := by
    intro k
    apply length_filter_le_one (nodup_teacherCourses db)
    intro a _ b _ ha hb
    simp only [Bool.and_eq_true, decide_eq_true_eq] at ha hb
    exact ha.2.symm.trans hb.2
  have byBaseline : ∀ k : Option Nat,
      ((studentBaseline S db).filter (fun sb => k = some sb.studentId)).length ≤ 1 :=
    length_filter_key_le_one (nodup_scoresLike S db _)
  have byMastery : ∀ k : Option Nat,
      ((studentMastery S db).filter (fun sm => k = some sm.studentId)).length ≤ 1 :=
    length_filter_key_le_one (nodup_scoresLike S db _)
  have byVolume : ∀ k : Option Nat, ((studentVolume db).filter (fun sv => k = some sv.1)).length ≤ 1 :=
    length_filter_key_le_one (nodup_studentVolume db)
  have byArtefacts : ∀ k : Option Nat, ((teacherArtefacts S db).filter (fun ta => k = some ta.1)).length ≤ 1 :=
    length_filter_key_le_one (nodup_teacherArtefacts S db)
  simp only [graded]
  rw [join_eq_filterMap (fun cs _ => length_filter_key_le_one db.classroomIds cs.classId),
    leftJoin_eq_map (fun _ _ => byBaseline _), leftJoin_eq_map (fun _ _ => byMastery _),
    leftJoin_eq_map (fun _ _ => byVolume _), leftJoin_eq_map (fun _ _ => byCourses _),
    leftJoin_eq_map (fun _ _ => byArtefacts _)]
  simp only [List.map_filterMap, Option.map_map]
  rfl

theorem studentDataset_eq : studentDataset S db = (graded S db).filterMap (fun g =>
    (userOf db g.teacherId).bind (fun tu => (userOf db g.studentId).map (fun su =>
      studentRow S g tu su (db.localSchool.find? (schoolOf g))))) := by
  have bySchool : ∀ g : GradedRow, (db.localSchool.filter (schoolOf g)).length ≤ 1 := by
    intro g
    apply length_filter_le_one db.schoolIds
    intro a _ b _ ha hb
    cases there : g.schoolCode with
    | none => simp [schoolOf, there] at ha
    | some code =>
      simp only [schoolOf, there, Option.any_some, Bool.and_eq_true, decide_eq_true_eq] at ha hb
      exact ha.2.trans hb.2.symm
  have byUser : ∀ k : Option Nat, (db.user.filter (fun u => k = some u.id)).length ≤ 1 :=
    length_filter_key_le_one db.userIds
  simp only [studentDataset]
  rw [join_eq_filterMap (fun _ _ => byUser _), join_eq_filterMap (fun _ _ => byUser _),
    leftJoin_eq_map (fun _ _ => bySchool _), List.filterMap_filterMap]
  simp only [List.map_filterMap]
  congr 1
  funext g
  simp only [userOf]
  cases db.user.find? (fun u => g.teacherId = some u.id) with
  | none => rfl
  | some tu =>
    simp only [Option.map_some, Option.bind_some, Option.map_map]
    rfl

/-! ## One row for each teacher, class and student -/

def rowOf (cs : ClassStudent) : Option StudentRow :=
  (classOf db cs.classId).bind (fun cls => (userOf db cs.teacherId).bind (fun tu =>
    (userOf db cs.studentId).map (fun su =>
      studentRow S (gradedOf S db cs cls) tu su (db.localSchool.find? (schoolOf (gradedOf S db cs cls))))))

theorem studentDataset_rows : studentDataset S db = (classStudents db).filterMap (rowOf S db) := by
  rw [studentDataset_eq, graded_eq, List.filterMap_filterMap]
  congr 1
  funext cs
  unfold rowOf
  cases classOf db cs.classId <;> rfl

variable {S db}

theorem rowOf_eq_some {cs : ClassStudent} {r : StudentRow} (found : rowOf S db cs = some r) :
    (r.teacherId = cs.teacherId ∧ r.classId = cs.classId ∧ r.studentId = cs.studentId) ∧
      r.coursesAssigned = ((coursesOf db cs.teacherId).map TeacherCourses.coursesAssigned).getD 0 ∧
      r.coursesCompleted = ((coursesOf db cs.teacherId).map TeacherCourses.coursesCompleted).getD 0 := by
  unfold rowOf at found
  obtain ⟨cls, -, found⟩ := Option.bind_eq_some_iff.mp found
  obtain ⟨tu, -, found⟩ := Option.bind_eq_some_iff.mp found
  obtain ⟨su, -, rfl⟩ := Option.map_eq_some_iff.mp found
  simp only [studentRow, gradedOf, gradedRow, and_self]

theorem isSome_userOf {k : Option Nat} : (userOf db k).isSome ↔ ∃ u ∈ db.user, k = some u.id := by
  unfold userOf
  rw [List.find?_isSome]
  simp

theorem isSome_classOf {k : Option Nat} : (classOf db k).isSome ↔ ∃ cls ∈ db.localClassroom, k = some cls.id := by
  unfold classOf
  rw [List.find?_isSome]
  simp

theorem isSome_rowOf {cs : ClassStudent} : (rowOf S db cs).isSome ↔
    (classOf db cs.classId).isSome ∧ (userOf db cs.teacherId).isSome ∧ (userOf db cs.studentId).isSome := by
  unfold rowOf
  cases classOf db cs.classId with
  | none => simp
  | some cls => cases userOf db cs.teacherId <;> simp

theorem mem_classStudents {t k s : Nat} : (⟨some t, some k, some s⟩ : ClassStudent) ∈ classStudents db ↔
    (∃ tr ∈ db.localClassroomTrainers, tr.trainerid = some t ∧ tr.classroomid = some k) ∧
      ∃ cu ∈ db.localClassroomUsers, cu.classroomid = some k ∧ cu.userid = some s := by
  simp only [classStudents, teacherClasses, List.mem_dedup, List.mem_map, mem_join, Bool.and_eq_true,
    decide_eq_true_eq]
  constructor
  · rintro ⟨p, ⟨⟨tr, tr_mem, same⟩, cu_mem, -, on⟩, shape⟩
    have teacher : p.1.1 = some t := congrArg ClassStudent.teacherId shape
    have room : p.1.2 = some k := congrArg ClassStudent.classId shape
    have student : p.2.userid = some s := congrArg ClassStudent.studentId shape
    rw [← same] at teacher room on
    exact ⟨⟨tr, tr_mem, teacher, room⟩, p.2, cu_mem, on.trans room, student⟩
  · rintro ⟨⟨tr, tr_mem, teacher, room⟩, cu, cu_mem, on, student⟩
    refine ⟨((some t, some k), cu), ⟨⟨tr, tr_mem, ?_⟩, cu_mem, ?_, on⟩, ?_⟩
    · rw [teacher, room]
    · simp [on]
    · simp only [student]

theorem rowOf_matches (t k s : Nat) : (fun cs => ((rowOf S db cs).map (fun r =>
      decide (r.teacherId = some t) && decide (r.classId = some k) && decide (r.studentId = some s))).getD false) =
    fun cs => cs == ⟨some t, some k, some s⟩ &&
      (db.localClassroom.any (fun cls => cls.id = k) && db.user.any (fun u => u.id = t) &&
        db.user.any (fun u => u.id = s)) := by
  funext cs
  rw [Bool.eq_iff_iff]
  constructor
  · intro matches_
    cases found : rowOf S db cs with
    | none => simp [found] at matches_
    | some r =>
      simp only [found, Option.map_some, Option.getD_some, Bool.and_eq_true, decide_eq_true_eq] at matches_
      have keys := (rowOf_eq_some found).1
      have shape : cs = ⟨some t, some k, some s⟩ := by
        cases cs
        simp only [ClassStudent.mk.injEq]
        exact ⟨keys.1.symm.trans matches_.1.1, keys.2.1.symm.trans matches_.1.2, keys.2.2.symm.trans matches_.2⟩
      have known := isSome_rowOf.mp (Option.isSome_of_eq_some found)
      rw [shape, isSome_classOf, isSome_userOf, isSome_userOf] at known
      obtain ⟨⟨cls, cls_mem, room⟩, ⟨tu, tu_mem, teacher⟩, su, su_mem, student⟩ := known
      simp only [shape, Bool.and_eq_true, beq_iff_eq, List.any_eq_true, decide_eq_true_eq]
      exact ⟨trivial, ⟨⟨cls, cls_mem, (Option.some.inj room).symm⟩, tu, tu_mem, (Option.some.inj teacher).symm⟩,
        su, su_mem, (Option.some.inj student).symm⟩
  · intro both
    simp only [Bool.and_eq_true, beq_iff_eq, List.any_eq_true, decide_eq_true_eq] at both
    obtain ⟨rfl, ⟨⟨cls, cls_mem, room⟩, tu, tu_mem, teacher⟩, su, su_mem, student⟩ := both
    have known : (rowOf S db ⟨some t, some k, some s⟩).isSome := by
      rw [isSome_rowOf, isSome_classOf, isSome_userOf, isSome_userOf]
      exact ⟨⟨cls, cls_mem, by rw [room]⟩, ⟨tu, tu_mem, by rw [teacher]⟩, su, su_mem, by rw [student]⟩
    obtain ⟨r, found⟩ := Option.isSome_iff_exists.mp known
    have keys := (rowOf_eq_some found).1
    simp [found, keys]

theorem studentGrain : StudentGrain db (studentDataset S db) := by
  constructor
  · intro r mem
    rw [studentDataset_rows] at mem
    obtain ⟨cs, -, found⟩ := List.mem_filterMap.mp mem
    obtain ⟨room, teacher, student⟩ := isSome_rowOf.mp (Option.isSome_of_eq_some found)
    obtain ⟨cls, -, room⟩ := isSome_classOf.mp room
    obtain ⟨tu, -, teacher⟩ := isSome_userOf.mp teacher
    obtain ⟨su, -, student⟩ := isSome_userOf.mp student
    have keys := (rowOf_eq_some found).1
    exact ⟨tu.id, cls.id, su.id, keys.1.trans teacher, keys.2.1.trans room, keys.2.2.trans student⟩
  · intro t k s
    have distinct : (classStudents db).Nodup := List.nodup_dedup _
    have once := distinct.count (a := (⟨some t, some k, some s⟩ : ClassStudent))
    rw [studentDataset_rows, List.countP_filterMap, rowOf_matches]
    have taught_iff : taught db t k s ↔ (⟨some t, some k, some s⟩ : ClassStudent) ∈ classStudents db ∧
        (db.localClassroom.any (fun cls => cls.id = k) && db.user.any (fun u => u.id = t) &&
          db.user.any (fun u => u.id = s)) := by
      rw [mem_classStudents]
      simp [taught, and_assoc]
    cases known : db.localClassroom.any (fun cls => cls.id = k) && db.user.any (fun u => u.id = t) &&
        db.user.any (fun u => u.id = s) with
    | false =>
      have never : ¬taught db t k s := by
        rw [taught_iff, known]
        simp
      simp [never]
    | true =>
      rw [known] at taught_iff
      simp only [Bool.and_true, taught_iff, and_true]
      exact once

/-! ## The courses of a teacher -/

variable (db) in
def rowsOf (t : Nat) : List TeacherCourse := (teacherCourseRows db).filter (fun r => r.teacherId = some t)

theorem coursesOf_some (t : Nat) : coursesOf db (some t) =
    ((groupBy TeacherCourse.teacherId (teacherCourseRows db)).find? (fun g => g.1 = some t)).map (fun g =>
      { teacherId := g.1
        coursesAssigned := countDistinct (g.2.map (fun r => some r.courseId))
        coursesCompleted := countDistinct (g.2.map (fun r =>
          if r.completedFlag = 1 then some r.courseId else none)) }) := by
  unfold coursesOf teacherCourses
  rw [List.find?_map]
  congr 2
  funext g
  simp [eq_comm]

theorem rowsOf_eq_nil {t : Nat} (away : some t ∉ (teacherCourseRows db).map TeacherCourse.teacherId) :
    rowsOf db t = [] := by
  unfold rowsOf
  rw [List.filter_eq_nil_iff]
  intro r mem same
  exact away (List.mem_map.mpr ⟨r, mem, of_decide_eq_true same⟩)

theorem coursesAssigned_eq (t : Nat) : ((coursesOf db (some t)).map TeacherCourses.coursesAssigned).getD 0 =
    ((rowsOf db t).map TeacherCourse.courseId).dedup.length := by
  rw [coursesOf_some, find?_groupBy]
  split
  · simp only [Option.map_some, Option.getD_some, countDistinct_some]
    rfl
  · rename_i away
    rw [rowsOf_eq_nil away]
    rfl

theorem coursesCompleted_eq (t : Nat) : ((coursesOf db (some t)).map TeacherCourses.coursesCompleted).getD 0 =
    (((rowsOf db t).filter (fun r => r.completedFlag = 1)).map TeacherCourse.courseId).dedup.length := by
  have counted := countDistinct_if (fun r : TeacherCourse => r.completedFlag = 1) TeacherCourse.courseId (rowsOf db t)
  simp only [decide_eq_true_eq] at counted
  rw [coursesOf_some, find?_groupBy]
  split
  · simp only [Option.map_some, Option.getD_some]
    exact counted
  · rename_i away
    rw [rowsOf_eq_nil away]
    rfl

theorem completed_le_assigned {r : StudentRow} (mem : r ∈ studentDataset S db) :
    r.coursesCompleted ≤ r.coursesAssigned := by
  obtain ⟨t, k, s, teacher, -, -⟩ := studentGrain.keyed r mem
  rw [studentDataset_rows] at mem
  obtain ⟨cs, -, found⟩ := List.mem_filterMap.mp mem
  obtain ⟨keys, total, completed⟩ := rowOf_eq_some found
  rw [total, completed, ← keys.1, teacher, coursesAssigned_eq, coursesCompleted_eq]
  apply length_dedup_le
  exact List.map_subset _ (List.filter_subset_self _)

theorem completedFlag_of_mem {r : TeacherCourse} (mem : r ∈ teacherCourseRows db) :
    r.completedFlag = 0 ∨ r.completedFlag = 1 := by
  simp only [teacherCourseRows, List.mem_dedup, List.mem_append, List.mem_map] at mem
  obtain ⟨p, -, rfl⟩ | ⟨cc, -, rfl⟩ := mem
  · exact .inl rfl
  · exact .inr rfl

theorem nodup_assigned : ((assigned db).map (fun a => (a.teacherId, a.courseId))).Nodup := by
  unfold assigned
  rw [List.map_map]
  exact nodup_groupBy

theorem mem_assigned_keys {t : Option Nat} {c : Nat} :
    (t, c) ∈ (assigned db).map (fun a => (a.teacherId, a.courseId)) ↔
      ∃ r ∈ teacherCourseRows db, r.teacherId = t ∧ r.courseId = c := by
  unfold assigned
  rw [List.map_map]
  have keys : (groupBy (fun r : TeacherCourse => (r.teacherId, r.courseId)) (teacherCourseRows db)).map
      ((fun a : TeacherCourse => (a.teacherId, a.courseId)) ∘ fun g =>
        { teacherId := g.1.1, courseId := g.1.2
          completedFlag := (g.2.map TeacherCourse.completedFlag).max?.getD 0 }) =
      ((teacherCourseRows db).map (fun r => (r.teacherId, r.courseId))).dedup := map_fst_groupBy
  rw [keys, List.mem_dedup]
  simp

/-- The flag of a course is 1 where a completion of the teacher is among its rows. -/
theorem completedFlag_assigned {a : TeacherCourse} (mem : a ∈ assigned db) :
    a.completedFlag = if (teacherCourseRows db).any (fun r =>
      r.teacherId = a.teacherId && r.courseId = a.courseId && r.completedFlag = 1) then 1 else 0 := by
  unfold assigned at mem
  obtain ⟨g, inside, rfl⟩ := List.mem_map.mp mem
  obtain ⟨-, rows⟩ := mem_groupBy.mp inside
  have flags : g.2.map TeacherCourse.completedFlag =
      g.2.map (fun r => if decide (r.completedFlag = 1) then 1 else 0) := by
    apply List.map_congr_left
    intro r there
    rw [rows] at there
    obtain zero | one := completedFlag_of_mem (List.mem_filter.mp there).1
    · simp [zero]
    · simp [one]
  have any : g.2.any (fun r => decide (r.completedFlag = 1)) = (teacherCourseRows db).any (fun r =>
      r.teacherId = g.1.1 && r.courseId = g.1.2 && r.completedFlag = 1) := by
    rw [rows, List.any_filter]
    congr 1
    funext r
    rw [Bool.eq_iff_iff]
    simp [Prod.ext_iff]
  simp only [flags]
  rw [max_flag, any]

/-! ## The course dataset -/

variable (S db) in
def courseRowOf (a : TeacherCourse) : Option CourseRow :=
  (userOf db a.teacherId).bind (fun u => (db.course.find? (fun c => c.id = a.courseId)).map (fun c =>
    courseRow a u c (db.courseCategories.find? (fun cc => cc.id = c.category))
      ((teacherArtefacts S db).find? (fun ar => a.teacherId = some ar.1))))

theorem courseDataset_eq : courseDataset S db = (assigned db).filterMap (courseRowOf S db) := by
  have byUser : ∀ k : Option Nat, (db.user.filter (fun u => k = some u.id)).length ≤ 1 :=
    length_filter_key_le_one db.userIds
  have byCourse : ∀ c : Nat, (db.course.filter (fun x => x.id = c)).length ≤ 1 :=
    length_filter_eq_le_one db.courseIds
  have byCategory : ∀ c : Nat, (db.courseCategories.filter (fun x => x.id = c)).length ≤ 1 :=
    length_filter_eq_le_one db.categoryIds
  have byArtefacts : ∀ k : Option Nat, ((teacherArtefacts S db).filter (fun ar => k = some ar.1)).length ≤ 1 :=
    length_filter_key_le_one (nodup_teacherArtefacts S db)
  simp only [courseDataset]
  rw [join_eq_filterMap (fun _ _ => byUser _), join_eq_filterMap (fun _ _ => byCourse _),
    leftJoin_eq_map (fun _ _ => byCategory _), leftJoin_eq_map (fun _ _ => byArtefacts _),
    List.filterMap_filterMap]
  simp only [List.map_filterMap]
  congr 1
  funext a
  unfold courseRowOf
  simp only [userOf]
  cases db.user.find? (fun u => a.teacherId = some u.id) with
  | none => rfl
  | some u =>
    simp only [Option.map_some, Option.bind_some, Option.map_map]
    rfl

theorem courseRowOf_eq_some {a : TeacherCourse} {r : CourseRow} (found : courseRowOf S db a = some r) :
    r.teacherId = a.teacherId ∧ r.courseId = a.courseId ∧ r.completedFlag = a.completedFlag := by
  unfold courseRowOf at found
  obtain ⟨u, -, found⟩ := Option.bind_eq_some_iff.mp found
  obtain ⟨c, -, rfl⟩ := Option.map_eq_some_iff.mp found
  simp only [courseRow, and_self]

variable (db) in
def assignedTo (t : Nat) : List TeacherCourse := (assigned db).filter (fun a => a.teacherId = some t)

theorem course_exists (sound : NoDanglingCourses db) {r : TeacherCourse} (mem : r ∈ teacherCourseRows db) :
    ∃ c ∈ db.course, c.id = r.courseId := by
  simp only [teacherCourseRows, List.mem_dedup, List.mem_append, List.mem_map, mem_join, List.mem_filter] at mem
  obtain ⟨p, ⟨-, e_mem, -⟩, rfl⟩ | ⟨cc, ⟨cc_mem, -⟩, rfl⟩ := mem
  · exact sound.1 p.2 e_mem
  · exact sound.2 cc cc_mem

/-- The rows of the course dataset for an existing teacher are the courses assigned. -/
theorem courseDataset_filter (sound : NoDanglingCourses db) {t : Nat} (known : (userOf db (some t)).isSome) :
    ((courseDataset S db).filter (fun r => r.teacherId = some t)).map CourseRow.completedFlag =
      (assignedTo db t).map TeacherCourse.completedFlag := by
  rw [courseDataset_eq]
  apply map_filter_filterMap
  intro a mem
  cases found : courseRowOf S db a with
  | some r =>
    have keys := courseRowOf_eq_some found
    by_cases own : a.teacherId = some t
    · simp [own, keys, Option.filter]
    · simp [own, keys, Option.filter]
  | none =>
    have other : a.teacherId ≠ some t := by
      intro own
      have keys := List.mem_map_of_mem (f := fun a : TeacherCourse => (a.teacherId, a.courseId)) mem
      obtain ⟨r, row_mem, -, course⟩ := mem_assigned_keys.mp keys
      obtain ⟨c, c_mem, same⟩ := course_exists sound row_mem
      obtain ⟨u, user⟩ := Option.isSome_iff_exists.mp known
      have there : (db.course.find? (fun c => c.id = a.courseId)).isSome := by
        rw [List.find?_isSome]
        exact ⟨c, c_mem, by simpa using same.trans course⟩
      obtain ⟨c', course'⟩ := Option.isSome_iff_exists.mp there
      simp [courseRowOf, own, user, course'] at found
    simp [other]

theorem nodup_assignedTo (t : Nat) : ((assignedTo db t).map TeacherCourse.courseId).Nodup := by
  have pairs : ((assignedTo db t).map (fun a => (a.teacherId, a.courseId))).Nodup :=
    (List.filter_sublist.map _).nodup nodup_assigned
  apply (Lists.nodup_map_congr _).mp pairs
  intro a ha b hb
  have left := of_decide_eq_true (List.mem_filter.mp ha).2
  have right := of_decide_eq_true (List.mem_filter.mp hb).2
  simp [left, right]

theorem mem_assignedTo {t c : Nat} : c ∈ (assignedTo db t).map TeacherCourse.courseId ↔
    ∃ r ∈ rowsOf db t, r.courseId = c := by
  have keys := @mem_assigned_keys db (some t) c
  simp only [assignedTo, rowsOf, List.mem_map, List.mem_filter, decide_eq_true_eq, Prod.mk.injEq] at keys ⊢
  constructor
  · rintro ⟨a, ⟨mem, own⟩, course⟩
    obtain ⟨r, there, teacher, course⟩ := keys.mp ⟨a, mem, own, course⟩
    exact ⟨r, ⟨there, teacher⟩, course⟩
  · rintro ⟨r, ⟨there, teacher⟩, course⟩
    obtain ⟨a, mem, own, course⟩ := keys.mpr ⟨r, there, teacher, course⟩
    exact ⟨a, ⟨mem, own⟩, course⟩

/-- The number of courses of a teacher is the number of courses assigned. -/
theorem length_assignedTo (t : Nat) :
    (assignedTo db t).length = ((rowsOf db t).map TeacherCourse.courseId).dedup.length := by
  have perm : ((assignedTo db t).map TeacherCourse.courseId).Perm
      ((rowsOf db t).map TeacherCourse.courseId).dedup := by
    apply (List.perm_ext_iff_of_nodup (nodup_assignedTo t) (List.nodup_dedup _)).mpr
    intro c
    rw [mem_assignedTo, List.mem_dedup, List.mem_map]
  rw [← perm.length_eq, List.length_map]

variable (db) in
def completedIn (t : Nat) (c : Nat) : Bool :=
  (rowsOf db t).any (fun r => r.courseId = c && r.completedFlag = 1)

theorem sum_assignedTo (t : Nat) : ((assignedTo db t).map TeacherCourse.completedFlag).sum =
    (((rowsOf db t).filter (fun r => r.completedFlag = 1)).map TeacherCourse.courseId).dedup.length := by
  have flags : (assignedTo db t).map TeacherCourse.completedFlag =
      ((assignedTo db t).map TeacherCourse.courseId).map (fun c => if completedIn db t c then 1 else 0) := by
    rw [List.map_map]
    apply List.map_congr_left
    intro a mem
    obtain ⟨inside, own⟩ := List.mem_filter.mp mem
    rw [completedFlag_assigned inside, of_decide_eq_true own]
    simp only [Function.comp_apply, completedIn, rowsOf, List.any_filter, Bool.and_assoc]
  have perm : (((assignedTo db t).map TeacherCourse.courseId).filter (completedIn db t)).Perm
      (((rowsOf db t).filter (fun r => r.completedFlag = 1)).map TeacherCourse.courseId).dedup := by
    apply (List.perm_ext_iff_of_nodup ((nodup_assignedTo t).filter _) (List.nodup_dedup _)).mpr
    intro c
    rw [List.mem_filter, mem_assignedTo, List.mem_dedup]
    simp only [completedIn, List.any_eq_true, Bool.and_eq_true, decide_eq_true_eq, List.mem_map, List.mem_filter]
    constructor
    · rintro ⟨-, r, mem, course, flag⟩
      exact ⟨r, ⟨mem, flag⟩, course⟩
    · rintro ⟨r, ⟨mem, flag⟩, course⟩
      exact ⟨⟨r, mem, course⟩, r, mem, course, flag⟩
  rw [flags, ← sum_map_filter (completedIn db t) (fun _ => 1), ← perm.length_eq]
  simp

theorem counts_agree (sound : NoDanglingCourses db) {r : StudentRow} (mem : r ∈ studentDataset S db) :
    r.coursesAssigned = ((courseDataset S db).filter (fun row => row.teacherId = r.teacherId)).length ∧
    r.coursesCompleted = (((courseDataset S db).filter (fun row => row.teacherId = r.teacherId)).map
      CourseRow.completedFlag).sum := by
  obtain ⟨t, k, s, teacher, -, -⟩ := studentGrain.keyed r mem
  rw [studentDataset_rows] at mem
  obtain ⟨cs, -, found⟩ := List.mem_filterMap.mp mem
  obtain ⟨keys, total, completed⟩ := rowOf_eq_some found
  have own : cs.teacherId = some t := keys.1.symm.trans teacher
  have known : (userOf db (some t)).isSome := by
    rw [← own]
    exact (isSome_rowOf.mp (Option.isSome_of_eq_some found)).2.1
  have rows := courseDataset_filter (S := S) sound known
  have lengths := congrArg List.length rows
  rw [List.length_map, List.length_map] at lengths
  rw [total, completed, own, teacher, rows, lengths, coursesAssigned_eq, coursesCompleted_eq,
    length_assignedTo, sum_assignedTo]
  exact ⟨rfl, rfl⟩

/-- The student dataset has one row for each teacher, class and student, and carries for
each teacher what the course dataset counts. -/
theorem datasets_agree (S : Server) {db : Database} (sound : NoDanglingCourses db) :
    StudentGrain db (studentDataset S db) ∧
    (∀ r ∈ studentDataset S db, r.coursesCompleted ≤ r.coursesAssigned) ∧
    ∀ r ∈ studentDataset S db,
      r.coursesAssigned = ((courseDataset S db).filter (fun row => row.teacherId = r.teacherId)).length ∧
      r.coursesCompleted = (((courseDataset S db).filter (fun row => row.teacherId = r.teacherId)).map
        CourseRow.completedFlag).sum :=
  ⟨studentGrain, fun _ mem => completed_le_assigned mem, fun _ mem => counts_agree sound mem⟩

/-- A class with a trainer and a student, both listed twice. -/
def oneClass : Database where
  user := [{ id := 2, username := "t", firstname := "T", lastname := "A" },
    { id := 3, username := "s", firstname := "S", lastname := "B" }]
  course := [{ id := 5, fullname := "Training" }]
  enrol := [{ id := 1, courseid := 5 }, { id := 2, courseid := 5 }]
  userEnrolments := [{ enrolid := 1, userid := 2 }, { enrolid := 2, userid := 2 }]
  courseCompletions := [{ userid := 2, course := 5, timecompleted := some 1700000000 }]
  localClassroom := [{ id := 8, name := some "Class", openStandard := some "4" }]
  localClassroomTrainers := [{ classroomid := some 8, trainerid := some 2 }, { classroomid := some 8, trainerid := some 2 }]
  localClassroomUsers := [{ classroomid := some 8, userid := some 3 }, { classroomid := some 8, userid := some 3 }]

theorem datasets_agree_oneClass : NoDanglingCourses oneClass ∧
    StudentGrain oneClass (studentDataset Server.plain oneClass) ∧
    (∀ r ∈ studentDataset Server.plain oneClass, r.coursesCompleted ≤ r.coursesAssigned) ∧
    ∀ r ∈ studentDataset Server.plain oneClass,
      r.coursesAssigned =
        ((courseDataset Server.plain oneClass).filter (fun row => row.teacherId = r.teacherId)).length ∧
      r.coursesCompleted =
        (((courseDataset Server.plain oneClass).filter (fun row => row.teacherId = r.teacherId)).map
          CourseRow.completedFlag).sum := by
  have sound : NoDanglingCourses oneClass := by
    unfold NoDanglingCourses
    decide
  exact ⟨sound, datasets_agree Server.plain sound⟩

example : (studentDataset Server.plain oneClass).map (fun r => (r.teacherId, r.studentId, r.coursesAssigned)) =
    [(some 2, some 3, 1)] := by decide +kernel

end TeacherPerformance
end XpBuilder.Moodle
