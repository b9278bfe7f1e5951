import XpBuilder.Moodle.Programme

/-! Whether the programme dataset has one row for each activity. Of its joins only the one
with the grades of an assignment is not on a key: there is a grade for each attempt. -/

namespace XpBuilder.Moodle
open Relational

/-- The activity that a row is about. -/
def ProgrammeRow.activity (r : ProgrammeRow) : ActivityRow where
  userId := some r.participantId
  courseId := r.courseId
  activityKind := r.activityKind
  activityName := r.activityName
  concept := r.concept
  scorePct := r.scorePct
  scoredOn := r.scoredOn

namespace Programme
variable (S : Server) (db : Database)

/-! ## What is recorded -/

def assignOf (s : AssignSubmission) : Option Assign := db.assign.find? (fun a => a.id = s.assignment)

def itemOf (gg : GradeGrade) : Option GradeItem := db.gradeItems.find? (fun gi => gi.id = gg.itemid)

def courseOf (k : Option Nat) : Option ProgrammeCourse :=
  (courses S db).find? (fun pc => k = some pc.courseId)

/-- A submitted submission of a programme course, with its assignment and course. -/
def submissionOf (s : AssignSubmission) : Option ((AssignSubmission × Assign) × ProgrammeCourse) :=
  ((assignOf db s).bind (fun a => (courseOf S db (some a.course)).map (fun pc => ((s, a), pc)))).filter
    (fun _ => s.status.any (fun status => S.same status "submitted"))

/-- A kept grade of a programme course, with its item and course. -/
def assessmentOf (gg : GradeGrade) : Option ((GradeGrade × GradeItem) × ProgrammeCourse) :=
  ((itemOf db gg).bind (fun gi => (courseOf S db gi.courseid).map (fun pc => ((gg, gi), pc)))).filter
    (fun p => gradeKept S p.1.1 p.1.2)

def observationOf (ou : ObservationUser) : Option (ObservationUser × Observation) :=
  (db.localObservations.find? (fun o => ou.observationsid = some o.id)).map (Prod.mk ou)

/-- The user has a role of a participant in the programme course. -/
def participates (c u : Nat) : Bool :=
  (courseOf S db (some c)).isSome && db.roleAssignments.any (fun ra => ra.userid = u &&
    db.role.any (fun r => r.id = ra.roleid &&
      S.isIn r.shortname ["employee", "editingteacher", "trainer", "teacher"]) &&
    db.context.any (fun ctx => ctx.id = ra.contextid && ctx.contextlevel = 50 && ctx.instanceid = c))

def hasUser (r : ActivityRow) : Bool := (userOf db r).isSome

/-- The activities of existing users, one for each record; `grade` is the grade that a
submission is scored by. -/
def recorded (grade : AssignSubmission → Option AssignGrade) : List ActivityRow :=
  (db.assignSubmission.filterMap (fun s => (submissionOf S db s).map (fun p => submissionRow S p (grade s))) ++
    db.gradeGrades.filterMap (fun gg => (assessmentOf S db gg).map (assessmentRow S)) ++
    db.localObservationsUsers.filterMap (fun ou => (observationOf db ou).map (observationRow S)) ++
    (participants S db).map enrolmentRow).filter (hasUser db)

/-- `count_of_kind` -/
def countOfKind (rows : List ProgrammeRow) (kind : ActivityKind) : Nat :=
  (rows.map (fun r => if r.activityKind = kind then 1 else 0)).sum

/-- Each submission is scored by at most one grade, of its own. -/
def OwnGrade (grade : AssignSubmission → Option AssignGrade) : Prop :=
  ∀ s, ∀ ag ∈ grade s, ag ∈ db.assignGrades ∧ ag.assignment = s.assignment ∧ ag.userid = s.userid

/-- One row for each submission, kept grade and observation of an existing user, with one
score; one enrolment row for each participant and course; each activity counted once. -/
structure OneRowEach (rows : List ProgrammeRow) : Prop where
  activities : ∃ grade, OwnGrade db grade ∧ (rows.map ProgrammeRow.activity).Perm (recorded S db grade)
  enrolments : ∀ c u, rows.countP (fun r =>
      r.activityKind = .enrolment && r.courseId = some c && r.participantId = u) =
    if participates S db c u && db.user.any (fun x => x.id = u) then 1 else 0
  counts : ∀ kind, countOfKind rows kind =
    (recorded S db (fun _ => none)).countP (fun a => a.activityKind = kind)

/-! ## The parts of the union -/

variable {S db}

theorem courseOf_single (k : Option Nat) :
    ((courses S db).filter (fun pc => k = some pc.courseId)).length ≤ 1 :=
  length_filter_key_le_one (nodup_courses S db) k

theorem submissions_eq : submissions S db = db.assignSubmission.filterMap (submissionOf S db) := by
  have assigns : ∀ s ∈ db.assignSubmission, (db.assign.filter (fun a => a.id = s.assignment)).length ≤ 1 :=
    fun s _ => length_filter_eq_le_one db.assignIds s.assignment
  have turned : ∀ p : AssignSubmission × Assign, (fun pc : ProgrammeCourse => decide (pc.courseId = p.2.course)) =
      fun pc => decide (some p.2.course = some pc.courseId) := by
    intro p
    funext pc
    simp [eq_comm]
  simp only [submissions]
  rw [join_eq_filterMap assigns, join_eq_filterMap (fun p _ => by rw [turned]; exact courseOf_single _),
    List.filterMap_filterMap, List.filter_filterMap]
  congr 1
  funext s
  simp only [turned, submissionOf, assignOf, courseOf]
  cases db.assign.find? (fun a => a.id = s.assignment) with
  | none => rfl
  | some a =>
    simp only [Option.map_some, Option.bind_some]
    cases (courses S db).find? (fun pc => decide (some a.course = some pc.courseId)) <;> rfl

theorem assessments_eq : assessments S db = db.gradeGrades.filterMap (assessmentOf S db) := by
  have items : ∀ gg ∈ db.gradeGrades, (db.gradeItems.filter (fun gi => gi.id = gg.itemid)).length ≤ 1 :=
    fun gg _ => length_filter_eq_le_one db.itemIds gg.itemid
  simp only [assessments]
  rw [join_eq_filterMap items, join_eq_filterMap (fun p _ => courseOf_single _),
    List.filterMap_filterMap, List.filter_filterMap]
  congr 1
  funext gg
  simp only [assessmentOf, itemOf, courseOf]
  cases db.gradeItems.find? (fun gi => gi.id = gg.itemid) <;> rfl

theorem observations_eq : observations db = db.localObservationsUsers.filterMap (observationOf db) := by
  have single : ∀ ou ∈ db.localObservationsUsers,
      (db.localObservations.filter (fun o => ou.observationsid = some o.id)).length ≤ 1 :=
    fun ou _ => length_filter_key_le_one db.observationIds ou.observationsid
  unfold observations
  rw [join_eq_filterMap single]
  rfl

theorem courseOf_eq_some {k : Option Nat} {pc : ProgrammeCourse} (found : courseOf S db k = some pc) :
    pc ∈ courses S db ∧ k = some pc.courseId := by
  unfold courseOf at found
  have holds := List.find?_some found
  exact ⟨List.mem_of_find?_eq_some found, of_decide_eq_true holds⟩

theorem isSome_courseOf {c : Nat} : (courseOf S db (some c)).isSome ↔ ∃ pc ∈ courses S db, pc.courseId = c := by
  unfold courseOf
  rw [List.find?_isSome]
  constructor
  · rintro ⟨pc, mem, same⟩
    exact ⟨pc, mem, (Option.some.inj (of_decide_eq_true same)).symm⟩
  · rintro ⟨pc, mem, rfl⟩
    exact ⟨pc, mem, decide_eq_true rfl⟩

theorem mem_participants {p : Nat × Nat} : p ∈ participants S db ↔ participates S db p.1 p.2 := by
  obtain ⟨c, u⟩ := p
  simp only [participants, List.mem_dedup, List.mem_map, roleRows, List.mem_filter, mem_join,
    participates, Bool.and_eq_true, List.any_eq_true, decide_eq_true_eq, isSome_courseOf]
  constructor
  · rintro ⟨⟨⟨⟨ra, r⟩, ctx⟩, pc⟩, ⟨⟨⟨⟨ra_mem, r_mem, role⟩, ctx_mem, context⟩, pc_mem, course⟩, named⟩, same⟩
    simp only [Prod.mk.injEq] at same role context course named
    obtain ⟨rfl, rfl⟩ := same
    exact ⟨⟨pc, pc_mem, course⟩, ra, ra_mem, ⟨rfl, r, r_mem, role, named⟩, ctx, ctx_mem, context, rfl⟩
  · rintro ⟨⟨pc, pc_mem, course⟩, ra, ra_mem, ⟨rfl, r, r_mem, role, named⟩, ctx, ctx_mem, context, rfl⟩
    exact ⟨(((ra, r), ctx), pc), ⟨⟨⟨⟨ra_mem, r_mem, role⟩, ctx_mem, context⟩, pc_mem, course⟩, named⟩, rfl⟩

/-! ## The rows and their activities -/

theorem userOf_eq_some {r : ActivityRow} {u : User} (found : userOf db r = some u) :
    u ∈ db.user ∧ r.userId = some u.id := by
  unfold userOf at found
  have holds := List.find?_some found
  exact ⟨List.mem_of_find?_eq_some found, of_decide_eq_true holds⟩

theorem hasUser_iff {r : ActivityRow} : hasUser db r ↔ ∃ u ∈ db.user, r.userId = some u.id := by
  unfold hasUser userOf
  rw [List.find?_isSome]
  simp

theorem activity_rowOf {r : ActivityRow × Nat} {u : User} (found : userOf db r.1 = some u) :
    (rowOf S db r u).activity = r.1 := by
  simp only [ProgrammeRow.activity, rowOf, selectRow, ← (userOf_eq_some found).2]

variable {w : Arrangement before}

/-- The rows of the dataset are the united activities of existing users. -/
theorem activities_perm : ((dataset S db w).map ProgrammeRow.activity).Perm
    ((unionRows S db).filter (hasUser db)) := by
  have each : ∀ r : ActivityRow × Nat,
      ((userOf db r.1).map (rowOf S db r)).map ProgrammeRow.activity =
        Option.guard (hasUser db) r.1 := by
    intro r
    cases found : userOf db r.1 with
    | none => simp [Option.guard, hasUser, found]
    | some u => simp [Option.guard, hasUser, found, activity_rowOf found]
  have same : (dataset S db w).map ProgrammeRow.activity =
      ((rowNumber w ActivityRow.courseId (unionRows S db)).map Prod.fst).filter (hasUser db) := by
    rw [dataset_eq, List.map_filterMap, ← List.filterMap_eq_filter, List.filterMap_map]
    congr 1
    funext r
    exact each r
  rw [same]
  exact (rowNumber_perm w).filter _

theorem countOfKind_eq (kind : ActivityKind) :
    countOfKind (dataset S db w) kind =
      ((unionRows S db).filter (hasUser db)).countP (fun a => a.activityKind = kind) := by
  rw [← activities_perm (w := w).countP_eq, List.countP_map, countOfKind]
  induction dataset S db w with
  | nil => rfl
  | cons r rest ih =>
    rw [List.map_cons, List.sum_cons, ih, List.countP_cons]
    by_cases same : r.activityKind = kind
    · simp [ProgrammeRow.activity, same, Nat.add_comm]
    · simp [ProgrammeRow.activity, same]

theorem count_filter_participants (c u : Nat) :
    (participants S db).countP (fun p => p.1 = c && p.2 = u) = if participates S db c u then 1 else 0 := by
  have same : (fun p : Nat × Nat => decide (p.1 = c) && decide (p.2 = u)) = fun p => p == (c, u) := by
    funext p
    rw [Bool.eq_iff_iff]
    simp [Prod.ext_iff]
  rw [same]
  have distinct : (participants S db).Nodup := List.nodup_dedup _
  have once := distinct.count (a := (c, u))
  simp only [mem_participants] at once
  exact once

theorem kind_of_mem {a : ActivityRow}
    (mem : a ∈ submissionRows S db ++ assessmentRows S db ++ observationRows S db) :
    a.activityKind ≠ .enrolment := by
  simp only [List.mem_append, submissionRows, assessmentRows, observationRows, List.mem_map] at mem
  obtain (⟨p, -, rfl⟩ | ⟨p, -, rfl⟩) | ⟨p, -, rfl⟩ := mem
  · simp only [submissionRow, submissionKind]
    split_ifs <;> simp
  · simp only [assessmentRow, assessmentKind]
    split_ifs <;> simp
  · simp [observationRow]

def enrols (c u : Nat) (a : ActivityRow) : Bool :=
  a.activityKind = .enrolment && a.courseId = some c && a.userId = some u

/-- There is one enrolment row for each participant and course. -/
theorem enrolments_dataset (c u : Nat) : (dataset S db w).countP (fun r =>
      r.activityKind = .enrolment && r.courseId = some c && r.participantId = u) =
    if participates S db c u && db.user.any (fun x => x.id = u) then 1 else 0 := by
  have through : (dataset S db w).countP (fun r =>
      r.activityKind = .enrolment && r.courseId = some c && r.participantId = u) =
      ((dataset S db w).map ProgrammeRow.activity).countP (enrols c u) := by
    rw [List.countP_map]
    congr 1
    funext r
    rw [Bool.eq_iff_iff]
    simp only [enrols, Function.comp_apply, Bool.and_eq_true, decide_eq_true_eq]
    simp [ProgrammeRow.activity]
  have others : (submissionRows S db ++ assessmentRows S db ++ observationRows S db).countP
      (fun a => enrols c u a && hasUser db a) = 0 := by
    rw [List.countP_eq_zero]
    intro a mem both
    have kind : a.activityKind = .enrolment := by
      simp only [enrols, Bool.and_eq_true, decide_eq_true_eq] at both
      exact both.1.1.1
    exact kind_of_mem mem kind
  have people : (fun q => enrols c u (enrolmentRow q) && hasUser db (enrolmentRow q)) =
      fun q => (q.1 = c && q.2 = u) && db.user.any (fun x => x.id = u) := by
    funext q
    rw [Bool.eq_iff_iff]
    simp only [enrols, enrolmentRow, Bool.and_eq_true, decide_eq_true_eq, hasUser_iff, List.any_eq_true,
      Option.some.injEq, true_and]
    constructor
    · rintro ⟨⟨rfl, rfl⟩, x, mem, same⟩
      exact ⟨⟨rfl, rfl⟩, x, mem, same.symm⟩
    · rintro ⟨⟨rfl, rfl⟩, x, mem, same⟩
      exact ⟨⟨rfl, rfl⟩, x, mem, same.symm⟩
  rw [through, activities_perm.countP_eq, List.countP_filter, unionRows, List.countP_append, others,
    Nat.zero_add, enrolmentRows, List.countP_map]
  have composed : ((fun a => enrols c u a && hasUser db a) ∘ enrolmentRow) =
      fun q => (q.1 = c && q.2 = u) && db.user.any (fun x => x.id = u) := people
  rw [composed]
  have counted := @count_filter_participants S db c u
  cases db.user.any (fun x => x.id = u) with
  | false => simp
  | true => simpa using counted

/-! ## The grades of the submissions -/

def submitterExists (db : Database) (s : AssignSubmission) : Bool := db.user.any (fun u => u.id = s.userid)

theorem hasUser_submissionRow (p : (AssignSubmission × Assign) × ProgrammeCourse) (ag : Option AssignGrade) :
    hasUser db (submissionRow S p ag) = submitterExists db p.1.1 := by
  rw [Bool.eq_iff_iff, hasUser_iff]
  simp only [submissionRow, submitterExists, List.any_eq_true, decide_eq_true_eq, Option.some.injEq]
  constructor
  · rintro ⟨u, mem, same⟩
    exact ⟨u, mem, same.symm⟩
  · rintro ⟨u, mem, same⟩
    exact ⟨u, mem, same.symm⟩

theorem submissionOf_eq_some {s : AssignSubmission} {p : (AssignSubmission × Assign) × ProgrammeCourse}
    (found : submissionOf S db s = some p) : p.1.1 = s ∧ p.1.2.id = s.assignment := by
  unfold submissionOf assignOf at found
  have whole := Option.eq_some_of_filter_eq_some found
  obtain ⟨a, assigned, rest⟩ := Option.bind_eq_some_iff.mp whole
  obtain ⟨pc, -, rfl⟩ := Option.map_eq_some_iff.mp rest
  have holds := List.find?_some assigned
  exact ⟨rfl, of_decide_eq_true holds⟩

/-- The submissions of existing users. -/
def ownSubmissions (S : Server) (db : Database) : List ((AssignSubmission × Assign) × ProgrammeCourse) :=
  (submissions S db).filter (fun p => submitterExists db p.1.1)

/-- The activities that are not submissions. -/
def otherActivities (S : Server) (db : Database) : List ActivityRow :=
  (assessmentRows S db ++ (observationRows S db ++ enrolmentRows S db)).filter (hasUser db)

theorem unionRows_filter : (unionRows S db).filter (hasUser db) =
    (leftJoin gradeOf (ownSubmissions S db) db.assignGrades).map (fun p => submissionRow S p.1 p.2) ++
      otherActivities S db := by
  have first : (submissionRows S db).filter (hasUser db) =
      (leftJoin gradeOf (ownSubmissions S db) db.assignGrades).map (fun p => submissionRow S p.1 p.2) := by
    rw [submissionRows, List.filter_map, ownSubmissions, ← filter_leftJoin]
    congr 2
    funext p
    exact hasUser_submissionRow p.1 p.2
  unfold unionRows otherActivities
  rw [List.append_assoc, List.append_assoc, List.filter_append, first]

theorem recorded_eq (grade : AssignSubmission → Option AssignGrade) : recorded S db grade =
    (ownSubmissions S db).map (fun p => submissionRow S p (grade p.1.1)) ++ otherActivities S db := by
  have first : (db.assignSubmission.filterMap
      (fun s => (submissionOf S db s).map (fun p => submissionRow S p (grade s)))).filter (hasUser db) =
      (ownSubmissions S db).map (fun p => submissionRow S p (grade p.1.1)) := by
    have through : (fun s => (submissionOf S db s).map (fun p => submissionRow S p (grade s))) =
        fun s => (submissionOf S db s).map (fun p => submissionRow S p (grade p.1.1)) := by
      funext s
      cases found : submissionOf S db s with
      | none => rfl
      | some p => simp [(submissionOf_eq_some found).1]
    rw [through, ← List.map_filterMap, ← submissions_eq, List.filter_map, ownSubmissions]
    congr 2
    funext p
    exact hasUser_submissionRow p _
  unfold recorded otherActivities
  rw [List.append_assoc, List.append_assoc, List.filter_append, first, ← List.map_filterMap,
    ← assessments_eq, ← List.map_filterMap, ← observations_eq]
  rfl

variable (S db) in
/-- No submission by an existing user has grades for two attempts. -/
def SingleGrade : Prop :=
  ∀ s ∈ db.assignSubmission, (submissionOf S db s).isSome → submitterExists db s →
    (db.assignGrades.filter (fun ag => ag.assignment = s.assignment && ag.userid = s.userid)).length ≤ 1

theorem gradeOf_eq {s : AssignSubmission} {p : (AssignSubmission × Assign) × ProgrammeCourse}
    (found : submissionOf S db s = some p) :
    gradeOf p = fun ag => ag.assignment = s.assignment && ag.userid = s.userid := by
  funext ag
  simp [gradeOf, submissionOf_eq_some found]

theorem singleGrade_iff : SingleGrade S db ↔
    ∀ p ∈ ownSubmissions S db, (db.assignGrades.filter (gradeOf p)).length ≤ 1 := by
  unfold SingleGrade ownSubmissions
  rw [submissions_eq]
  simp only [List.mem_filter, List.mem_filterMap]
  constructor
  · rintro single p ⟨⟨s, mem, found⟩, exists_⟩
    rw [gradeOf_eq found]
    rw [(submissionOf_eq_some found).1] at exists_
    exact single s mem (by simp [found]) exists_
  · intro single s mem some_ exists_
    obtain ⟨p, found⟩ := Option.isSome_iff_exists.mp some_
    rw [← gradeOf_eq found]
    apply single
    rw [(submissionOf_eq_some found).1]
    exact ⟨⟨s, mem, found⟩, exists_⟩

theorem map_kind_recorded (grade grade' : AssignSubmission → Option AssignGrade) :
    (recorded S db grade).map ActivityRow.activityKind = (recorded S db grade').map ActivityRow.activityKind := by
  rw [recorded_eq, recorded_eq, List.map_append, List.map_append, List.map_map, List.map_map]
  rfl

theorem countP_kind_recorded (grade grade' : AssignSubmission → Option AssignGrade) (kind : ActivityKind) :
    (recorded S db grade).countP (fun a => a.activityKind = kind) =
      (recorded S db grade').countP (fun a => a.activityKind = kind) := by
  have through : ∀ rows : List ActivityRow, rows.countP (fun a => a.activityKind = kind) =
      (rows.map ActivityRow.activityKind).countP (fun k => k = kind) := by
    intro rows
    rw [List.countP_map]
    rfl
  rw [through, through, map_kind_recorded grade grade']

/-- The grade that a submission is scored by where there is no other. -/
def firstGrade (db : Database) (s : AssignSubmission) : Option AssignGrade :=
  db.assignGrades.find? (fun ag => ag.assignment = s.assignment && ag.userid = s.userid)

theorem ownGrade_firstGrade : OwnGrade db (firstGrade db) := by
  intro s ag found
  unfold firstGrade at found
  have holds := List.find?_some found
  simp only [Bool.and_eq_true, decide_eq_true_eq] at holds
  exact ⟨List.mem_of_find?_eq_some found, holds⟩

theorem recorded_of_singleGrade (single : SingleGrade S db) :
    (unionRows S db).filter (hasUser db) = recorded S db (firstGrade db) := by
  have keyed := singleGrade_iff.mp single
  rw [unionRows_filter, recorded_eq, leftJoin_eq_map keyed, List.map_map]
  congr 1
  apply List.map_congr_left
  intro p mem
  have inside := (List.mem_filter.mp mem).1
  rw [submissions_eq] at inside
  obtain ⟨s, -, found⟩ := List.mem_filterMap.mp inside
  simp only [Function.comp_apply, gradeOf_eq found, firstGrade, (submissionOf_eq_some found).1]

/-- The dataset has one row for each activity exactly where no submission has grades for
two attempts. -/
theorem oneRowEach_iff_singleGrade : OneRowEach S db (dataset S db w) ↔ SingleGrade S db := by
  constructor
  · intro each
    obtain ⟨grade, -, perm⟩ := each.activities
    have lengths := (activities_perm.symm.trans perm).length_eq
    rw [unionRows_filter, recorded_eq, List.length_append, List.length_append, List.length_map,
      List.length_map] at lengths
    rw [singleGrade_iff]
    exact length_leftJoin_eq_iff.mp (by omega)
  · intro single
    have perm := @activities_perm S db w
    rw [recorded_of_singleGrade single] at perm
    refine ⟨⟨firstGrade db, ownGrade_firstGrade, perm⟩, enrolments_dataset, ?_⟩
    intro kind
    rw [countOfKind_eq, recorded_of_singleGrade single]
    exact countP_kind_recorded _ _ kind

/-- One submission with two graded attempts, in a course that is a programme course. -/
def twoAttempts : Database where
  user := [{ id := 2, username := "a", firstname := "A", lastname := "B" }]
  course := [{ id := 5, fullname := "Training", shortname := "KSH-1" }]
  assign := [{ id := 7, course := 5, name := "Essay" }]
  assignSubmission := [{ assignment := 7, userid := 2, status := some "submitted" }]
  assignGrades := [{ assignment := 7, userid := 2, grade := some 40 }, { assignment := 7, userid := 2, grade := some 80 }]

theorem twoAttempts_twoRows :
    ¬OneRowEach Server.plain twoAttempts (dataset Server.plain twoAttempts (Arrangement.sorting before)) := by
  intro each
  have counted := each.counts .otherSubmission
  revert counted
  decide +kernel

end Programme
end XpBuilder.Moodle
