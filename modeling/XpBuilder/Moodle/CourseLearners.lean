import Mathlib.Data.List.ReduceOption
import XpBuilder.Moodle.ProgrammeGrain

/-! The number of learners of a course stands on one row of the course, the first by user
and kind of activity. When a sum over the rows that a filter leaves is the number of
learners of the courses that it leaves. -/

namespace XpBuilder.Moodle
open Relational

/-- What the filters of the dashboards look at. -/
structure Facets where
  participantId : Nat
  participantName : String
  schoolId : Option String
  schoolName : String
  districtId : Option String
  talukaId : Option String
  courseId : Option Nat
  courseName : Option String
  courseShortname : Option String
  courseCategory : Option String
  activityKind : ActivityKind

def ProgrammeRow.facets (r : ProgrammeRow) : Facets where
  participantId := r.participantId
  participantName := r.participantName
  schoolId := r.schoolId
  schoolName := r.schoolName
  districtId := r.districtId
  talukaId := r.talukaId
  courseId := r.courseId
  courseName := r.courseName
  courseShortname := r.courseShortname
  courseCategory := r.courseCategory
  activityKind := r.activityKind

namespace Programme
variable (S : Server) (db : Database)

/-- The number of distinct users enrolled in a course. -/
def learnersIn (c : Nat) : Nat :=
  ((db.userEnrolments.filter (fun ue => db.enrol.any (fun e => e.id = ue.enrolid && e.courseid = c))).map
    UserEnrolment.userid).dedup.length

/-- The distinct courses of some rows. -/
def coursesIn (rows : List ProgrammeRow) : List Nat := (rows.map ProgrammeRow.courseId).reduceOption.dedup

/-- The sum of `course_learners` is the number of learners of the courses that occur. -/
def SumsUp (rows : List ProgrammeRow) : Prop :=
  (rows.map ProgrammeRow.courseLearners).sum = ((coursesIn rows).map (learnersIn db)).sum

/-- The activity is one of an existing user and passes the filter. -/
def passes (filter : Facets → Bool) (a : ActivityRow) : Bool :=
  (userOf db a).any (fun u => filter (rowOf S db (a, 0) u).facets)

/-- Of each course with learners that has an activity passing the filter, the first
activity passes. -/
def FirstPasses (filter : Facets → Bool) : Prop :=
  ∀ c, 0 < learnersIn db c → ∀ first ∈ unionRows S db, first.courseId = some c →
    (∀ a ∈ unionRows S db, a.courseId = some c → before first a) →
    (∃ a ∈ unionRows S db, a.courseId = some c ∧ passes S db filter a) → passes S db filter first

variable {S db}

theorem facets_rowOf (r : ActivityRow × Nat) (u : User) :
    (rowOf S db r u).facets = (rowOf S db (r.1, 0) u).facets := rfl

theorem passes_iff {filter : Facets → Bool} {a : ActivityRow} : passes S db filter a ↔
    ∃ u, userOf db a = some u ∧ filter (rowOf S db (a, 0) u).facets := by
  unfold passes
  cases userOf db a <;> simp

/-- Activities of one user, course and kind pass together. -/
theorem passes_congr {filter : Facets → Bool} {a b : ActivityRow} (users : a.userId = b.userId)
    (courses : a.courseId = b.courseId) (kinds : a.activityKind = b.activityKind) :
    passes S db filter a = passes S db filter b := by
  simp only [passes, userOf, rowOf, selectRow, ProgrammeRow.facets, users, courses, kinds]

theorem before_antisymm {a b : ActivityRow} (ab : before a b) (ba : before b a) :
    a.userId = b.userId ∧ a.activityKind = b.activityKind := by
  have same := toLex_inj.mp (le_antisymm ab ba)
  obtain ⟨users, kinds⟩ := Prod.mk.inj same
  refine ⟨?_, ActivityKind.index_injective kinds⟩
  cases ha : a.userId <;> cases hb : b.userId <;> simp [ha, hb] at users ⊢
  exact users

/-! ## The learners of a course -/

/-- The course of an activity is a programme course. -/
theorem courseOf_of_mem {a : ActivityRow} {c : Nat} (mem : a ∈ unionRows S db) (at_c : a.courseId = some c) :
    ∃ pc ∈ courses S db, pc.courseId = c := by
  simp only [unionRows, submissionRows, assessmentRows, observationRows, enrolmentRows, List.mem_append,
    List.mem_map] at mem
  obtain ((⟨p, inside, rfl⟩ | ⟨p, inside, rfl⟩) | ⟨p, -, rfl⟩) | ⟨p, inside, rfl⟩ := mem
  · have placed := (List.mem_filter.mp (mem_leftJoin_fst inside)).1
    obtain ⟨-, there, same⟩ := mem_join.mp placed
    have course : p.1.1.2.course = c := Option.some.inj at_c
    exact ⟨p.1.2, there, (of_decide_eq_true same).trans course⟩
  · have placed := (List.mem_filter.mp inside).1
    obtain ⟨-, there, same⟩ := mem_join.mp placed
    have course : p.1.2.courseid = some c := at_c
    exact ⟨p.2, there, Option.some.inj ((of_decide_eq_true same).symm.trans course)⟩
  · simp [observationRow] at at_c
  · have role := mem_participants.mp inside
    have course : p.1 = c := Option.some.inj at_c
    rw [← course]
    apply isSome_courseOf.mp
    simp only [participates, Bool.and_eq_true] at role
    exact role.1

theorem learners_find? {c : Nat} (known : ∃ pc ∈ courses S db, pc.courseId = c) :
    (((learners S db).find? (fun l => some c = some l.1)).map Prod.snd).getD 0 = learnersIn db c := by
  let rows := join (fun p pc => pc.courseId = p.1.courseid)
    (join (fun e ue => ue.enrolid = e.id) db.enrol db.userEnrolments) (courses S db)
  have members : ((rows.filter (fun p => p.1.1.courseid = c)).map (fun p => p.1.2.userid)).dedup.length =
      learnersIn db c := by
    apply length_dedup_congr
    intro u
    simp only [rows, List.mem_map, List.mem_filter, mem_join, decide_eq_true_eq, List.any_eq_true,
      Bool.and_eq_true]
    constructor
    · rintro ⟨p, ⟨⟨⟨e_mem, ue_mem, on⟩, -, -⟩, course⟩, rfl⟩
      exact ⟨p.1.2, ⟨ue_mem, p.1.1, e_mem, on.symm, course⟩, rfl⟩
    · rintro ⟨ue, ⟨ue_mem, e, e_mem, on, course⟩, rfl⟩
      obtain ⟨pc, pc_mem, same⟩ := known
      exact ⟨((e, ue), pc), ⟨⟨⟨e_mem, ue_mem, on.symm⟩, pc_mem, same.trans course.symm⟩, course⟩, rfl⟩
  have found : (learners S db).find? (fun l => some c = some l.1) =
      ((groupBy (fun p => p.1.1.courseid) rows).find? (fun g => g.1 = c)).map (fun g =>
        (g.1, countDistinct (g.2.map (fun p => some p.1.2.userid)))) := by
    simp only [learners]
    rw [List.find?_map]
    congr 2
    funext g
    simp [eq_comm]
  rw [found, find?_groupBy]
  split
  · simp only [Option.map_some, Option.getD_some, countDistinct_some]
    exact members
  · rename_i away
    have empty : rows.filter (fun p => p.1.1.courseid = c) = [] := by
      rw [List.filter_eq_nil_iff]
      intro p mem at_c
      exact away (List.mem_map.mpr ⟨p, mem, of_decide_eq_true at_c⟩)
    rw [empty] at members
    exact members

theorem courseLearners_rowOf {r : ActivityRow × Nat} {c : Nat} (mem : r.1 ∈ unionRows S db)
    (at_c : r.1.courseId = some c) (u : User) :
    (rowOf S db r u).courseLearners = if r.2 = 1 then learnersIn db c else 0 := by
  have known := courseOf_of_mem mem at_c
  simp only [rowOf, selectRow, at_c, learners_find? known]

theorem courseLearners_rowOf_none {r : ActivityRow × Nat} (nowhere : r.1.courseId = none) (u : User) :
    (rowOf S db r u).courseLearners = 0 := by
  have missing : (learners S db).find? (fun l => (none : Option Nat) = some l.1) = none := by
    rw [List.find?_eq_none]
    simp
  simp only [rowOf, selectRow, nowhere, missing]
  simp

/-! ## The two sums, group by group -/

variable {w : Arrangement before} {filter : Facets → Bool}

variable (S db) in
/-- The activities of each course. -/
def courseGroups : List (Option Nat × List ActivityRow) := groupBy ActivityRow.courseId (unionRows S db)

variable (S db w filter) in
def firstPasses (g : Option Nat × List ActivityRow) : Bool :=
  (w.arrange g.2).head?.any (passes S db filter)

theorem mem_of_head {g : Option Nat × List ActivityRow} (mem : g ∈ courseGroups S db) {a : ActivityRow}
    (first : (w.arrange g.2).head? = some a) : a ∈ unionRows S db ∧ a.courseId = g.1 := by
  have inside := (head_arrange w first).1
  rw [(mem_groupBy.mp mem).2] at inside
  obtain ⟨there, same⟩ := List.mem_filter.mp inside
  exact ⟨there, of_decide_eq_true same⟩

theorem value_of_mem {r : ActivityRow × Nat} (mem : r.1 ∈ unionRows S db) :
    ((((userOf db r.1).map (rowOf S db r)).filter (fun row => filter row.facets)).map
      ProgrammeRow.courseLearners).getD 0 =
    if r.2 = 1 then (if passes S db filter r.1 then r.1.courseId.elim 0 (learnersIn db) else 0) else 0 := by
  cases found : userOf db r.1 with
  | none => simp [passes, found]
  | some u =>
    have value : (rowOf S db r u).courseLearners = if r.2 = 1 then r.1.courseId.elim 0 (learnersIn db) else 0 := by
      cases course : r.1.courseId with
      | none => simp [courseLearners_rowOf_none course]
      | some c => exact courseLearners_rowOf mem course u
    by_cases pass : filter (rowOf S db (r.1, 0) u).facets
    · simp [passes, found, Option.filter, facets_rowOf r u, pass, value]
    · simp [passes, found, Option.filter, facets_rowOf r u, pass]

theorem sum_courseLearners :
    (((dataset S db w).filter (fun row => filter row.facets)).map ProgrammeRow.courseLearners).sum =
    ((courseGroups S db).map (fun g =>
      if firstPasses S db w filter g then g.1.elim 0 (learnersIn db) else 0)).sum := by
  have inside : ∀ r ∈ rowNumber w ActivityRow.courseId (unionRows S db), r.1 ∈ unionRows S db := by
    intro r mem
    exact (rowNumber_perm w).mem_iff.mp (List.mem_map_of_mem mem)
  let value := fun a : ActivityRow => if passes S db filter a then a.courseId.elim 0 (learnersIn db) else 0
  calc (((dataset S db w).filter (fun row => filter row.facets)).map ProgrammeRow.courseLearners).sum
      = ((rowNumber w ActivityRow.courseId (unionRows S db)).map (fun r =>
          if r.2 = 1 then value r.1 else 0)).sum := by
        rw [dataset_eq, List.filter_filterMap, sum_map_filterMap]
        apply congrArg List.sum
        apply List.map_congr_left
        intro r mem
        exact value_of_mem (inside r mem)
    _ = ((courseGroups S db).map (fun g => ((w.arrange g.2).head?.map value).getD 0)).sum := by
        have numbered := sum_map_filter (fun r : ActivityRow × Nat => r.2 = 1) (fun r => value r.1)
          (rowNumber w ActivityRow.courseId (unionRows S db))
        simp only [decide_eq_true_eq] at numbered
        rw [← numbered, rowNumber_filter_first, sum_map_filterMap]
        simp only [Option.map_map, courseGroups]
        rfl
    _ = _ := by
        apply congrArg List.sum
        apply List.map_congr_left
        intro g mem
        cases first : (w.arrange g.2).head? with
        | none => simp [firstPasses, first]
        | some a => simp [firstPasses, first, value, (mem_of_head mem first).2]

theorem mem_coursesIn {c : Nat} : c ∈ coursesIn ((dataset S db w).filter (fun row => filter row.facets)) ↔
    ∃ a ∈ unionRows S db, a.courseId = some c ∧ passes S db filter a := by
  have numbered : ∀ a, a ∈ unionRows S db ↔ ∃ i, (a, i) ∈ rowNumber w ActivityRow.courseId (unionRows S db) := by
    intro a
    have perm : ((rowNumber w ActivityRow.courseId (unionRows S db)).map Prod.fst).Perm (unionRows S db) :=
      rowNumber_perm w
    rw [← perm.mem_iff]
    simp
  simp only [coursesIn, List.mem_dedup, List.reduceOption_mem_iff, List.mem_map, List.mem_filter, dataset_eq,
    List.mem_filterMap, Option.map_eq_some_iff, passes_iff]
  constructor
  · rintro ⟨row, ⟨⟨r, mem, u, found, rfl⟩, pass⟩, course⟩
    exact ⟨r.1, (numbered r.1).mpr ⟨r.2, mem⟩, course, u, found, pass⟩
  · rintro ⟨a, mem, course, u, found, pass⟩
    obtain ⟨i, there⟩ := (numbered a).mp mem
    exact ⟨rowOf S db (a, i) u, ⟨⟨(a, i), there, u, found, rfl⟩, pass⟩, course⟩

variable (S db filter) in
/-- The courses of the activities that pass. -/
def passingCourses : List (Option Nat) :=
  ((courseGroups S db).filter (fun g => g.2.any (passes S db filter))).map Prod.fst

theorem nodup_passingCourses : (passingCourses S db filter).reduceOption.Nodup := by
  have nodup : (passingCourses S db filter).Nodup := (List.filter_sublist.map Prod.fst).nodup nodup_groupBy
  have distinct : ∀ a b : Option Nat, ∀ c ∈ id a, c ∈ id b → a = b := by
    intro a b c left right
    exact (left : a = some c).trans (right : b = some c).symm
  exact nodup.filterMap distinct

theorem mem_passingCourses {c : Nat} : some c ∈ passingCourses S db filter ↔
    ∃ a ∈ unionRows S db, a.courseId = some c ∧ passes S db filter a := by
  simp only [passingCourses, List.mem_map, List.mem_filter, List.any_eq_true, courseGroups, mem_groupBy]
  constructor
  · rintro ⟨g, ⟨⟨-, rows⟩, a, inside, pass⟩, key⟩
    rw [rows, key] at inside
    obtain ⟨mem, course⟩ := List.mem_filter.mp inside
    exact ⟨a, mem, of_decide_eq_true course, pass⟩
  · rintro ⟨a, mem, course, pass⟩
    exact ⟨(some c, (unionRows S db).filter (fun r => r.courseId = some c)),
      ⟨⟨⟨a, mem, course⟩, rfl⟩, a, List.mem_filter.mpr ⟨mem, decide_eq_true course⟩, pass⟩, rfl⟩

theorem sum_learnersIn :
    ((coursesIn ((dataset S db w).filter (fun row => filter row.facets))).map (learnersIn db)).sum =
    ((courseGroups S db).map (fun g =>
      if g.2.any (passes S db filter) then g.1.elim 0 (learnersIn db) else 0)).sum := by
  have perm : (coursesIn ((dataset S db w).filter (fun row => filter row.facets))).Perm
      (passingCourses S db filter).reduceOption := by
    apply (List.perm_ext_iff_of_nodup (List.nodup_dedup _) nodup_passingCourses).mpr
    intro c
    rw [List.reduceOption_mem_iff, mem_passingCourses]
    exact mem_coursesIn
  have sums := (perm.map (learnersIn db)).sum_nat
  rw [sums, sum_map_reduceOption, passingCourses, List.map_map]
  exact sum_map_filter _ _ _

/-! ## When they agree -/

/-- The first row of a course passes exactly where every first activity does. -/
theorem firstPasses_iff {g : Option Nat × List ActivityRow} (mem : g ∈ courseGroups S db) {c : Nat}
    (at_c : g.1 = some c) : firstPasses S db w filter g ↔
      ∀ first ∈ unionRows S db, first.courseId = some c →
        (∀ a ∈ unionRows S db, a.courseId = some c → before first a) → passes S db filter first := by
  have shape := mem_groupBy.mp mem
  have members : ∀ a, a ∈ g.2 ↔ a ∈ unionRows S db ∧ a.courseId = some c := by
    intro a
    rw [shape.2, List.mem_filter, decide_eq_true_eq, at_c]
  have some_row : g.2 ≠ [] := by
    obtain ⟨a, there, course⟩ := List.mem_map.mp shape.1
    exact List.ne_nil_of_mem ((members a).mpr ⟨there, course.trans at_c⟩)
  obtain ⟨head, head_eq⟩ : ∃ a, (w.arrange g.2).head? = some a := by
    cases arranged : w.arrange g.2 with
    | nil => exact absurd arranged (arrange_ne_nil w some_row)
    | cons a rest => exact ⟨a, rfl⟩
  have least := head_arrange w head_eq
  have there := (members head).mp least.1
  simp only [firstPasses, head_eq, Option.any_some]
  constructor
  · intro pass first mem course lowest
    have ranks := before_antisymm (lowest head there.1 there.2) (least.2 first ((members first).mpr ⟨mem, course⟩))
    rw [passes_congr ranks.1 (course.trans there.2.symm) ranks.2]
    exact pass
  · intro all
    apply all head there.1 there.2
    intro a mem course
    exact least.2 a ((members a).mpr ⟨mem, course⟩)

theorem firstPasses_le (g : Option Nat × List ActivityRow) :
    (if firstPasses S db w filter g then g.1.elim 0 (learnersIn db) else 0) ≤
      if g.2.any (passes S db filter) then g.1.elim 0 (learnersIn db) else 0 := by
  have weaker : firstPasses S db w filter g → g.2.any (passes S db filter) := by
    intro pass
    unfold firstPasses at pass
    cases first : (w.arrange g.2).head? with
    | none => simp [first] at pass
    | some a =>
      rw [first, Option.any_some] at pass
      exact List.any_eq_true.mpr ⟨a, (head_arrange w first).1, pass⟩
  split_ifs with pass some_pass
  · exact le_rfl
  · exact absurd (weaker pass) some_pass
  · exact Nat.zero_le _
  · exact le_rfl

/-- The sum over the rows that a filter leaves is right exactly where it leaves the first
activity of each course that it leaves. -/
theorem sumsUp_iff_firstPasses : SumsUp db ((dataset S db w).filter (fun row => filter row.facets)) ↔
    FirstPasses S db filter := by
  unfold SumsUp
  rw [sum_courseLearners, sum_learnersIn, sum_map_eq_iff (fun g _ => firstPasses_le g)]
  constructor
  · intro each c learners first mem course lowest some_pass
    let g : Option Nat × List ActivityRow := (some c, (unionRows S db).filter (fun r => r.courseId = some c))
    have inside : g ∈ courseGroups S db := mem_groupBy.mpr ⟨List.mem_map.mpr ⟨first, mem, course⟩, rfl⟩
    have any : g.2.any (passes S db filter) := by
      obtain ⟨a, there, at_c, pass⟩ := some_pass
      exact List.any_eq_true.mpr ⟨a, List.mem_filter.mpr ⟨there, decide_eq_true at_c⟩, pass⟩
    have same := each g inside
    rw [if_pos any] at same
    by_contra fails
    rw [if_neg (fun pass => fails ((firstPasses_iff inside rfl).mp pass first mem course lowest))] at same
    exact absurd same.symm (Nat.ne_of_gt learners)
  · intro carried g mem
    cases key : g.1 with
    | none => simp
    | some c =>
      by_cases learners : 0 < learnersIn db c
      · have both : firstPasses S db w filter g ↔ g.2.any (passes S db filter) := by
          constructor
          · intro pass
            by_contra none_pass
            have bound := @firstPasses_le S db w filter g
            rw [if_pos pass, if_neg none_pass, key] at bound
            exact absurd bound (Nat.not_le.mpr learners)
          · intro some_pass
            rw [firstPasses_iff mem key]
            intro first there course lowest
            apply carried c learners first there course lowest
            obtain ⟨a, inside, pass⟩ := List.any_eq_true.mp some_pass
            rw [(mem_groupBy.mp mem).2, key] at inside
            obtain ⟨there, at_c⟩ := List.mem_filter.mp inside
            exact ⟨a, there, of_decide_eq_true at_c, pass⟩
        simp only [both]
      · have none_there : learnersIn db c = 0 := by omega
        simp [none_there]

/-- Two learners with roles in one course. -/
def twoLearners : Database where
  user := [{ id := 2, username := "a", firstname := "A", lastname := "B" },
    { id := 3, username := "c", firstname := "C", lastname := "D" }]
  course := [{ id := 5, fullname := "Training", shortname := "KSH-1" }]
  enrol := [{ id := 1, courseid := 5 }]
  userEnrolments := [{ enrolid := 1, userid := 2 }, { enrolid := 1, userid := 3 }]
  role := [{ id := 1, shortname := "employee" }]
  context := [{ id := 9, contextlevel := 50, instanceid := 5 }]
  roleAssignments := [{ roleid := 1, contextid := 9, userid := 2 }, { roleid := 1, contextid := 9, userid := 3 }]
  courseIds := twoAttempts.courseIds

/-- A filter on the second learner leaves no row with the number of learners. -/
theorem twoLearners_lost : ¬SumsUp twoLearners
    ((dataset Server.plain twoLearners (Arrangement.sorting before)).filter
      (fun row => row.facets.participantName = "C D")) := by
  unfold SumsUp
  decide +kernel

end Programme
end XpBuilder.Moodle
