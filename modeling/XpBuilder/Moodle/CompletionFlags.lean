import XpBuilder.Moodle.CourseLearners
import XpBuilder.Moodle.CourseProgress
import XpBuilder.Moodle.TeacherGrain

/-! Whether the three reports agree on who completed a course. A completion row stays
without a time while Moodle still aggregates it: one report looks at the time, the other
two only at the row. -/

namespace XpBuilder.Moodle
open Relational

namespace CompletionFlags
variable (S : Server) (db : Database) (w : Arrangement Programme.before)

/-- The pair is a learner of `kpi1_course_progress` and occurs in the programme dataset, or
it occurs in the course dataset of the teachers. -/
def Compared (c u : Nat) : Prop :=
  ((∃ l ∈ CourseProgress.learners db, l.courseId = c ∧ l.userid = u) ∧
    ∃ r ∈ Programme.dataset S db w, r.courseId = some c ∧ r.participantId = u) ∨
  ∃ r ∈ TeacherPerformance.courseDataset S db, r.courseId = c ∧ r.teacherId = some u

/-- All flags of the pair say whether it has a completion with a time. -/
structure FlagsAgree (c u : Nat) : Prop where
  progress : ∀ l ∈ CourseProgress.learners db, l.courseId = c → l.userid = u →
    (l.courseCompleted = 1 ↔ CourseProgress.finished db c u) ∧ l.courseCompleted ≤ 1
  programme : ∀ r ∈ Programme.dataset S db w, r.courseId = some c → r.participantId = u →
    (r.completedFlag = 1 ↔ CourseProgress.finished db c u) ∧ r.completedFlag ≤ 1
  teacher : ∀ r ∈ TeacherPerformance.courseDataset S db, r.courseId = c → r.teacherId = some u →
    (r.completedFlag = 1 ↔ CourseProgress.finished db c u) ∧ r.completedFlag ≤ 1

/-- There is a completion row of the pair, with a time or pending. -/
def hasCompletion (c u : Nat) : Bool := db.courseCompletions.any (fun cc => cc.course = c && cc.userid = u)

variable {S db w}

theorem hasCompletion_of_finished {c u : Nat} (done : CourseProgress.finished db c u) : hasCompletion db c u := by
  simp only [CourseProgress.finished, hasCompletion, List.any_eq_true, Bool.and_eq_true] at done ⊢
  obtain ⟨cc, mem, same, -⟩ := done
  exact ⟨cc, mem, same⟩

theorem flag_progress {l : Learner} (mem : l ∈ CourseProgress.learners db) :
    (l.courseCompleted = 1 ↔ CourseProgress.finished db l.courseId l.userid) ∧ l.courseCompleted ≤ 1 := by
  rw [CourseProgress.courseCompleted_eq mem]
  cases CourseProgress.finished db l.courseId l.userid <;> decide

/-- The programme dataset looks at the row only. -/
theorem flag_programme {r : ProgrammeRow} (mem : r ∈ Programme.dataset S db w) {c : Nat} (at_c : r.courseId = some c) :
    (r.completedFlag = 1 ↔ hasCompletion db c r.participantId) ∧ r.completedFlag ≤ 1 := by
  rw [Programme.dataset_eq] at mem
  obtain ⟨n, ranked, found⟩ := List.mem_filterMap.mp mem
  obtain ⟨x, user, rfl⟩ := Option.map_eq_some_iff.mp found
  have there : n.1 ∈ Programme.unionRows S db :=
    (rowNumber_perm w).mem_iff.mp (List.mem_map_of_mem ranked)
  have known := Programme.courseOf_of_mem there at_c
  have own := (Programme.userOf_eq_some user).2
  have course : n.1.courseId = some c := at_c
  have listed : ((Programme.completions S db).find? (fun cp =>
      n.1.courseId = some cp.1 && n.1.userId = some cp.2)).isSome ↔ hasCompletion db c x.id := by
    rw [List.find?_isSome]
    simp only [Programme.completions, List.mem_dedup, List.mem_map, mem_join, Bool.and_eq_true, decide_eq_true_eq,
      hasCompletion, List.any_eq_true, course, own, Option.some.injEq]
    constructor
    · rintro ⟨-, ⟨p, ⟨cc_mem, -, -⟩, rfl⟩, left, right⟩
      exact ⟨p.1, cc_mem, left.symm, right.symm⟩
    · rintro ⟨cc, cc_mem, left, right⟩
      obtain ⟨pc, pc_mem, same⟩ := known
      exact ⟨(cc.course, cc.userid), ⟨(cc, pc), ⟨cc_mem, pc_mem, same.trans left.symm⟩, rfl⟩, left.symm,
        right.symm⟩
  have value : (Programme.rowOf S db n x).completedFlag = if ((Programme.completions S db).find? (fun cp =>
      n.1.courseId = some cp.1 && n.1.userId = some cp.2)).isNone then 0 else 1 := rfl
  have person : (Programme.rowOf S db n x).participantId = x.id := rfl
  rw [value, person, ← listed]
  cases (Programme.completions S db).find? (fun cp => n.1.courseId = some cp.1 && n.1.userId = some cp.2) with
  | none => decide
  | some cp => simp

/-- So does the course dataset of the teachers. -/
theorem flag_teacher {r : CourseRow} (mem : r ∈ TeacherPerformance.courseDataset S db) {u : Nat}
    (own : r.teacherId = some u) :
    (r.completedFlag = 1 ↔ hasCompletion db r.courseId u) ∧ r.completedFlag ≤ 1 := by
  rw [TeacherPerformance.courseDataset_eq] at mem
  obtain ⟨a, assigned, found⟩ := List.mem_filterMap.mp mem
  obtain ⟨teacher, course, flag⟩ := TeacherPerformance.courseRowOf_eq_some found
  rw [own] at teacher
  have trainer : TeacherPerformance.isTrainer db u := by
    have keys := List.mem_map_of_mem (f := fun a : TeacherCourse => (a.teacherId, a.courseId)) assigned
    obtain ⟨row, row_mem, same, -⟩ := TeacherPerformance.mem_assigned_keys.mp keys
    rw [← teacher] at same
    simp only [TeacherPerformance.teacherCourseRows, List.mem_dedup, List.mem_append, List.mem_map,
      List.mem_filter] at row_mem
    obtain ⟨p, inside, rfl⟩ | ⟨cc, ⟨-, is_trainer⟩, rfl⟩ := row_mem
    · have placed := (mem_join.mp (mem_join.mp inside).1).1
      obtain ⟨t, t_mem, id⟩ := List.mem_map.mp (List.mem_dedup.mp placed)
      exact List.any_eq_true.mpr ⟨t, t_mem, decide_eq_true (id.trans same)⟩
    · rw [Option.some.inj same] at is_trainer
      exact is_trainer
  have row : (TeacherPerformance.teacherCourseRows db).any (fun x =>
      x.teacherId = a.teacherId && x.courseId = a.courseId && x.completedFlag = 1) = hasCompletion db a.courseId u := by
    rw [Bool.eq_iff_iff]
    simp only [List.any_eq_true, Bool.and_eq_true, decide_eq_true_eq, ← teacher, hasCompletion,
      TeacherPerformance.teacherCourseRows, List.mem_dedup, List.mem_append, List.mem_map, List.mem_filter]
    constructor
    · rintro ⟨x, ⟨p, -, rfl⟩ | ⟨cc, ⟨cc_mem, -⟩, rfl⟩, ⟨user, same⟩, one⟩
      · cases one
      · exact ⟨cc, cc_mem, same, Option.some.inj user⟩
    · rintro ⟨cc, cc_mem, same, user⟩
      exact ⟨⟨some cc.userid, cc.course, 1⟩, .inr ⟨cc, ⟨cc_mem, by rw [user]; exact trainer⟩, rfl⟩,
        ⟨by rw [user], same⟩, rfl⟩
  rw [flag, TeacherPerformance.completedFlag_assigned assigned, row, course]
  cases hasCompletion db a.courseId u <;> decide

/-- The reports agree on a pair that they share exactly where its completion is not left
pending. -/
theorem flagsAgree_iff (S : Server) (db : Database) (w : Arrangement Programme.before) {c u : Nat}
    (compared : Compared S db w c u) :
    FlagsAgree S db w c u ↔ (hasCompletion db c u → CourseProgress.finished db c u) := by
  constructor
  · intro agree has
    obtain ⟨-, r, mem, course, user⟩ | ⟨r, mem, course, user⟩ := compared
    · have flag := flag_programme mem course
      rw [user] at flag
      exact (agree.programme r mem course user).1.mp (flag.1.mpr has)
    · have flag := flag_teacher mem user
      rw [course] at flag
      exact (agree.teacher r mem course user).1.mp (flag.1.mpr has)
  · intro settled
    have both : hasCompletion db c u ↔ CourseProgress.finished db c u := ⟨settled, hasCompletion_of_finished⟩
    constructor
    · rintro l mem rfl rfl
      exact flag_progress mem
    · rintro r mem course rfl
      rw [← both]
      exact flag_programme mem course
    · rintro r mem rfl user
      rw [← both]
      exact flag_teacher mem user

/-- A learner, with a role in the course, whose completion is pending. -/
def pending : Database where
  user := [{ id := 2, username := "a", firstname := "A", lastname := "B" }]
  course := [{ id := 5, fullname := "Training", shortname := "KSH-1" }]
  enrol := [{ id := 1, courseid := 5 }]
  userEnrolments := [{ enrolid := 1, userid := 2 }]
  role := [{ id := 1, shortname := "employee" }]
  context := [{ id := 9, contextlevel := 50, instanceid := 5 }]
  roleAssignments := [{ roleid := 1, contextid := 9, userid := 2 }]
  courseCompletions := [{ userid := 2, course := 5, timecompleted := none }]
  userIds := Programme.twoAttempts.userIds
  courseIds := Programme.twoAttempts.courseIds
  enrolIds := Programme.twoLearners.enrolIds
  roleIds := Programme.twoLearners.roleIds
  contextIds := Programme.twoLearners.contextIds

theorem compared_pending : Compared Server.plain pending (Arrangement.sorting Programme.before) 5 2 := by
  refine .inl ⟨?_, ?_⟩
  · decide +kernel
  · decide +kernel

theorem flagsAgree_iff_pending : Compared Server.plain pending (Arrangement.sorting Programme.before) 5 2 ∧
    (FlagsAgree Server.plain pending (Arrangement.sorting Programme.before) 5 2 ↔
      (hasCompletion pending 5 2 → CourseProgress.finished pending 5 2)) :=
  ⟨compared_pending, flagsAgree_iff Server.plain pending (Arrangement.sorting Programme.before) compared_pending⟩

/-- `kpi1_course_progress` says no, the programme dataset says yes. -/
theorem pending_disagrees : Compared Server.plain pending (Arrangement.sorting Programme.before) 5 2 ∧
    ¬FlagsAgree Server.plain pending (Arrangement.sorting Programme.before) 5 2 := by
  refine ⟨compared_pending, ?_⟩
  intro agree
  have programme := agree.programme
  revert programme
  decide +kernel

end CompletionFlags
end XpBuilder.Moodle
