import XpBuilder.Moodle.Tables

/-! The view `kpi1_course_progress`: for each visible course its learners, how many of them
completed the course, and their progress through its modules. -/

namespace XpBuilder.Moodle
open Relational

structure Learner where
  courseId : Nat
  userid : Nat
  courseCompleted : Nat
  modulesCompleted : Nat
  deriving DecidableEq

structure CourseProgressRow where
  courseId : Nat
  courseName : String
  courseCode : String
  courseCategory : String
  enrolledBeneficiaries : Nat
  completedBeneficiaries : Nat
  progressPct : Option ℚ
  totalModules : Nat
  avgModulesCompleted : Option ℚ
  moduleProgressPct : Option ℚ
  deriving DecidableEq

namespace CourseProgress
variable (S : Server) (db : Database)

/-- `cm_totals` -/
def cmTotals : List (Nat × Nat) :=
  (groupBy CourseModule.course (db.courseModules.filter (fun cm => cm.deletioninprogress = 0))).map
    (fun g => (g.1, g.2.length))

/-- `cm_done`: the modules that a user completed, by course and user. -/
def cmDone : List ((Nat × Nat) × Nat) :=
  let rows := (join (fun cmc cm => cm.id = cmc.coursemoduleid && cm.deletioninprogress = 0)
    db.courseModulesCompletion db.courseModules).filter (fun p => 0 < p.1.completionstate)
  (groupBy (fun p => (p.2.course, p.1.userid)) rows).map (fun g => (g.1, g.2.length))

/-- The active enrolments of active users: `(enrolment method, enrolment), user`. -/
def activeEnrolments : List ((Enrol × UserEnrolment) × User) :=
  join (fun p u => u.id = p.2.userid && u.deleted = 0 && u.suspended = 0)
    (join (fun e ue => ue.enrolid = e.id && ue.status = 0) db.enrol db.userEnrolments) db.user

/-- With the completions of the course and the number of modules completed. -/
def learnerRows : List (((((Enrol × UserEnrolment) × User) × Option CourseCompletion)) ×
    Option ((Nat × Nat) × Nat)) :=
  let withCompletion := leftJoin (fun p cc => cc.course = p.1.1.courseid && cc.userid = p.1.2.userid)
    (activeEnrolments db) db.courseCompletions
  leftJoin (fun p d => d.1.1 = p.1.1.1.courseid && d.1.2 = p.1.1.2.userid) withCompletion (cmDone db)

def isFinished (cc : Option CourseCompletion) : Bool :=
  (cc.bind CourseCompletion.timecompleted).any (0 < ·)

/-- `learner` -/
def learners : List Learner :=
  (groupBy (fun p => (p.1.1.1.1.courseid, p.1.1.1.2.userid)) (learnerRows db)).map (fun g =>
    { courseId := g.1.1
      userid := g.1.2
      courseCompleted := (g.2.map (fun p => if isFinished p.1.2 then 1 else 0)).max?.getD 0
      modulesCompleted := ((g.2.map (fun p => p.2.map Prod.snd)).reduceOption.max?).getD 0 })

/-- The rows of the last join: `((course, learner), total), category`. -/
def courseRows : List (((Course × Learner) × Option (Nat × Nat)) × Option CourseCategory) :=
  let withLearner := join (fun c l => l.courseId = c.id) db.course (learners db)
  let withTotal := leftJoin (fun p t => t.1 = p.1.id) withLearner (cmTotals db)
  (leftJoin (fun p cat => cat.id = p.1.1.category) withTotal db.courseCategories).filter
    (fun p => p.1.1.1.visible = 1)

/-- `l.modules_completed / NULLIF(t.total_modules, 0)`, at most 1 -/
def moduleShare (p : ((Course × Learner) × Option (Nat × Nat)) × Option CourseCategory) : Option ℚ :=
  (p.1.2.bind (fun t => S.divide p.1.1.2.modulesCompleted t.2)).map (min 1)

/-- The SELECT list over the rows of a course; `first` is any of them. -/
def progressRow (first : ((Course × Learner) × Option (Nat × Nat)) × Option CourseCategory)
    (group : List (((Course × Learner) × Option (Nat × Nat)) × Option CourseCategory)) :
    CourseProgressRow :=
  let completed := (group.map (fun p => p.1.1.2.courseCompleted)).sum
  { courseId := first.1.1.1.id
    courseName := first.1.1.1.fullname
    courseCode := first.1.1.1.shortname
    courseCategory := (first.2.map CourseCategory.name).getD "Uncategorised"
    enrolledBeneficiaries := group.length
    completedBeneficiaries := completed
    progressPct := (S.divide (100 * completed) group.length).map (roundTo 1)
    totalModules := ((group.map (fun p => p.1.2.map Prod.snd)).reduceOption.max?).getD 0
    avgModulesCompleted :=
      (S.average (group.map (fun p => some (p.1.1.2.modulesCompleted : ℚ)))).map (roundTo 1)
    moduleProgressPct := (S.average (group.map (moduleShare S))).map (fun a => roundTo 1 (100 * a)) }

/-- `kpi1_course_progress` -/
def view : List CourseProgressRow :=
  selectGroups (fun p => p.1.1.1.id) (progressRow S) (courseRows db)

/-! ## The learners of a course -/

def isActiveLearner (c : Nat) (u : User) : Bool :=
  u.deleted = 0 && u.suspended = 0 && db.userEnrolments.any (fun ue =>
    ue.userid = u.id && ue.status = 0 && db.enrol.any (fun e => e.id = ue.enrolid && e.courseid = c))

/-- The active users with an active enrolment in the course, by whatever method. -/
def activeLearners (c : Nat) : List User := db.user.filter (isActiveLearner db c)

/-- A completion of the course by the user has a time of completion. -/
def finished (c u : Nat) : Bool :=
  db.courseCompletions.any (fun cc => cc.course = c && cc.userid = u && cc.timecompleted.any (0 < ·))

variable {S db}

theorem nodup_learners : ((learners db).map (fun l => (l.courseId, l.userid))).Nodup := by
  unfold learners
  rw [List.map_map]
  exact nodup_groupBy

theorem mem_learnerRows_fst {p : ((((Enrol × UserEnrolment) × User) × Option CourseCompletion)) ×
    Option ((Nat × Nat) × Nat)} (mem : p ∈ learnerRows db) : p.1.1 ∈ activeEnrolments db :=
  mem_leftJoin_fst (mem_leftJoin_fst mem)

theorem mem_learners_keys {c u : Nat} : (c, u) ∈ (learners db).map (fun l => (l.courseId, l.userid)) ↔
    ∃ x ∈ activeLearners db c, x.id = u := by
  have keys : (learners db).map (fun l => (l.courseId, l.userid)) =
      ((learnerRows db).map (fun p => (p.1.1.1.1.courseid, p.1.1.1.2.userid))).dedup := by
    unfold learners
    rw [List.map_map]
    exact map_fst_groupBy
  rw [keys, List.mem_dedup, List.mem_map]
  simp only [Prod.mk.injEq, activeLearners, isActiveLearner, List.mem_filter, Bool.and_eq_true, decide_eq_true_eq,
    List.any_eq_true]
  constructor
  · rintro ⟨p, mem, course, user⟩
    have active := mem_learnerRows_fst mem
    simp only [activeEnrolments, mem_join, Bool.and_eq_true, decide_eq_true_eq] at active
    obtain ⟨⟨e_mem, ue_mem, on, status⟩, u_mem, ⟨same, deleted⟩, suspended⟩ := active
    exact ⟨p.1.1.2, ⟨u_mem, ⟨deleted, suspended⟩, p.1.1.1.2, ue_mem, ⟨same.symm, status⟩, p.1.1.1.1, e_mem,
      on.symm, course⟩, same.trans user⟩
  · rintro ⟨x, ⟨x_mem, ⟨deleted, suspended⟩, ue, ue_mem, ⟨same, status⟩, e, e_mem, on, course⟩, user⟩
    have active : ((e, ue), x) ∈ activeEnrolments db := by
      simp only [activeEnrolments, mem_join, Bool.and_eq_true, decide_eq_true_eq]
      exact ⟨⟨e_mem, ue_mem, on.symm, status⟩, x_mem, ⟨same.symm, deleted⟩, suspended⟩
    obtain ⟨cc, first⟩ : ∃ cc, (((e, ue), x), cc) ∈ leftJoin
        (fun (p : (Enrol × UserEnrolment) × User) (cc : CourseCompletion) =>
          cc.course = p.1.1.courseid && cc.userid = p.1.2.userid) (activeEnrolments db) db.courseCompletions :=
      exists_mem_leftJoin active
    obtain ⟨d, second⟩ : ∃ d, ((((e, ue), x), cc), d) ∈ learnerRows db := exists_mem_leftJoin first
    exact ⟨_, second, course, same.trans user⟩

/-- Of each active enrolment and each completion of the same course and user there is a row. -/
theorem exists_learnerRow {p : (Enrol × UserEnrolment) × User} (mem : p ∈ activeEnrolments db)
    {cc : CourseCompletion} (there : cc ∈ db.courseCompletions) (course : cc.course = p.1.1.courseid)
    (user : cc.userid = p.1.2.userid) : ∃ d, ((p, some cc), d) ∈ learnerRows db := by
  have joined : (p, some cc) ∈ leftJoin
      (fun (p : (Enrol × UserEnrolment) × User) (cc : CourseCompletion) =>
        cc.course = p.1.1.courseid && cc.userid = p.1.2.userid) (activeEnrolments db) db.courseCompletions := by
    rw [mem_leftJoin_some]
    simp [mem, there, course, user]
  exact exists_mem_leftJoin joined

theorem courseCompleted_eq {l : Learner} (mem : l ∈ learners db) :
    l.courseCompleted = if finished db l.courseId l.userid then 1 else 0 := by
  unfold learners at mem
  obtain ⟨g, inside, rfl⟩ := List.mem_map.mp mem
  obtain ⟨some_row, rows⟩ := mem_groupBy.mp inside
  have any : g.2.any (fun p => isFinished p.1.2) = finished db g.1.1 g.1.2 := by
    rw [rows, Bool.eq_iff_iff]
    simp only [List.any_filter, finished, List.any_eq_true, Bool.and_eq_true, decide_eq_true_eq]
    constructor
    · rintro ⟨p, row, key, done⟩
      obtain ⟨⟨ae, cc⟩, d⟩ := p
      cases cc with
      | none => simp [isFinished] at done
      | some cc =>
        have matched := mem_leftJoin_some.mp (mem_leftJoin_fst row)
        simp only [Bool.and_eq_true, decide_eq_true_eq] at matched
        obtain ⟨course, user⟩ := Prod.mk.inj key
        exact ⟨cc, matched.2.1, ⟨matched.2.2.1.trans course, matched.2.2.2.trans user⟩, done⟩
    · rintro ⟨cc, there, ⟨course, user⟩, done⟩
      obtain ⟨p, row, key⟩ := List.mem_map.mp some_row
      obtain ⟨course', user'⟩ := Prod.mk.inj key
      obtain ⟨d, found⟩ := exists_learnerRow (mem_learnerRows_fst row) there (course.trans course'.symm)
        (user.trans user'.symm)
      exact ⟨_, found, key, done⟩
  have flag := max_flag (fun p => isFinished p.1.2) g.2
  rw [any] at flag
  exact flag

variable (db) in
def learnersIn (c : Nat) : List Learner := (learners db).filter (fun l => l.courseId = c)

theorem length_learnersIn (c : Nat) : (learnersIn db c).length = (activeLearners db c).length := by
  have left : ((learnersIn db c).map Learner.userid).Nodup := by
    have pairs : ((learnersIn db c).map (fun l => (l.courseId, l.userid))).Nodup :=
      (List.filter_sublist.map _).nodup nodup_learners
    apply (Lists.nodup_map_congr _).mp pairs
    intro a ha b hb
    have course := of_decide_eq_true (List.mem_filter.mp ha).2
    have course' := of_decide_eq_true (List.mem_filter.mp hb).2
    simp [course, course']
  have right : ((activeLearners db c).map User.id).Nodup := (List.filter_sublist.map _).nodup db.userIds
  have perm : ((learnersIn db c).map Learner.userid).Perm ((activeLearners db c).map User.id) := by
    apply (List.perm_ext_iff_of_nodup left right).mpr
    intro u
    have keys := @mem_learners_keys db c u
    simp only [List.mem_map, learnersIn, List.mem_filter, decide_eq_true_eq, Prod.mk.injEq] at keys ⊢
    rw [← keys]
    constructor
    · rintro ⟨l, ⟨mem, course⟩, user⟩
      exact ⟨l, mem, course, user⟩
    · rintro ⟨l, mem, course, user⟩
      exact ⟨l, ⟨mem, course⟩, user⟩
  have lengths := perm.length_eq
  rwa [List.length_map, List.length_map] at lengths

/-! ## One row for each course -/

variable (db) in
def rowsOf (c : Nat) : List (((Course × Learner) × Option (Nat × Nat)) × Option CourseCategory) :=
  (courseRows db).filter (fun p => p.1.1.1.id = c)

theorem courseRows_eq : courseRows db = (join (fun c l => l.courseId = c.id)
    (db.course.filter (fun c => c.visible = 1)) (learners db)).map (fun p =>
      ((p, (cmTotals db).find? (fun t => t.1 = p.1.id)),
        db.courseCategories.find? (fun cat => cat.id = p.1.category))) := by
  have byTotal : ∀ c : Nat, ((cmTotals db).filter (fun t => t.1 = c)).length ≤ 1 := by
    apply length_filter_eq_le_one
    unfold cmTotals
    rw [List.map_map]
    exact nodup_groupBy
  have byCategory : ∀ c : Nat, (db.courseCategories.filter (fun cat => cat.id = c)).length ≤ 1 :=
    length_filter_eq_le_one db.categoryIds
  simp only [courseRows]
  rw [leftJoin_eq_map (fun _ _ => byTotal _), leftJoin_eq_map (fun _ _ => byCategory _), List.map_map,
    List.filter_map, ← filter_join]
  rfl

/-- The rows of a course join it with each of its learners once. -/
theorem map_learner_rowsOf {x : Course} (mem : x ∈ db.course) (visible : x.visible = 1) :
    (rowsOf db x.id).map (fun p => p.1.1.2) = learnersIn db x.id := by
  have single : db.course.filter (fun c => c.visible = 1 && c.id = x.id) = [x] := by
    have atMost : (db.course.filter (fun c => c.visible = 1 && c.id = x.id)).length ≤ 1 := by
      apply length_filter_le_one db.courseIds
      intro a _ b _ ha hb
      simp only [Bool.and_eq_true, decide_eq_true_eq] at ha hb
      exact ha.2.trans hb.2.symm
    have inside : x ∈ db.course.filter (fun c => c.visible = 1 && c.id = x.id) :=
      List.mem_filter.mpr ⟨mem, by simp [visible]⟩
    cases found : db.course.filter (fun c => c.visible = 1 && c.id = x.id) with
    | nil => simp [found] at inside
    | cons y rest =>
      rw [found, List.length_cons] at atMost
      have empty : rest = [] := List.length_eq_zero_iff.mp (by omega)
      rw [found, empty, List.mem_singleton] at inside
      rw [empty, inside]
  have part : (rowsOf db x.id).map (fun p => p.1.1) =
      (join (fun c l => l.courseId = c.id) (db.course.filter (fun c => c.visible = 1)) (learners db)).filter
        (fun p => p.1.id = x.id) := by
    rw [rowsOf, courseRows_eq, List.filter_map, List.map_map]
    exact List.map_id _
  have whole : (rowsOf db x.id).map (fun p => p.1.1.2) = ((rowsOf db x.id).map (fun p => p.1.1)).map Prod.snd := by
    rw [List.map_map]
    rfl
  have joined : (join (fun (c : Course) (l : Learner) => decide (l.courseId = c.id))
      (db.course.filter (fun c => c.visible = 1)) (learners db)).filter (fun p => decide (p.1.id = x.id)) =
      join (fun c l => decide (l.courseId = c.id))
        ((db.course.filter (fun c => c.visible = 1)).filter (fun c => c.id = x.id)) (learners db) :=
    filter_join (fun c : Course => decide (c.id = x.id))
  rw [whole, part, joined, List.filter_filter]
  have swap : (fun c : Course => decide (c.id = x.id) && decide (c.visible = 1)) =
      fun c => c.visible = 1 && c.id = x.id := by
    funext c
    exact Bool.and_comm _ _
  rw [swap, single]
  simp [join, learnersIn, Function.comp_def]

theorem mem_rowsOf {c : Nat} {p : ((Course × Learner) × Option (Nat × Nat)) × Option CourseCategory}
    (mem : p ∈ rowsOf db c) : p.1.1.1 ∈ db.course ∧ p.1.1.1.visible = 1 ∧ p.1.1.1.id = c := by
  obtain ⟨inside, same⟩ := List.mem_filter.mp mem
  rw [courseRows_eq] at inside
  obtain ⟨q, joined, rfl⟩ := List.mem_map.mp inside
  have course := (mem_join.mp joined).1
  obtain ⟨there, visible⟩ := List.mem_filter.mp course
  exact ⟨there, of_decide_eq_true visible, of_decide_eq_true same⟩

theorem mem_view {r : CourseProgressRow} (mem : r ∈ view S db) : ∃ first ∈ rowsOf db r.courseId,
    r = progressRow S first (rowsOf db r.courseId) := by
  obtain ⟨first, inside, row⟩ := mem_selectGroups mem
  have course : r.courseId = first.1.1.1.id := congrArg CourseProgressRow.courseId row
  rw [course]
  exact ⟨first, List.mem_filter.mpr ⟨inside, decide_eq_true rfl⟩, row⟩

theorem map_courseId_view : (view S db).map CourseProgressRow.courseId =
    ((courseRows db).map (fun p => p.1.1.1.id)).dedup :=
  map_selectGroups (fun _ _ => rfl)

/-! ## Counts and bounds -/

variable (db) in
/-- Each visible course with learners has one row, which counts each learner once; the
percentages are in range. -/
structure CountsOnce (rows : List CourseProgressRow) : Prop where
  once : ∀ c, rows.countP (fun r => r.courseId = c) =
    if db.course.any (fun x => x.id = c && x.visible = 1) && activeLearners db c ≠ [] then 1 else 0
  enrolled : ∀ r ∈ rows, r.enrolledBeneficiaries = (activeLearners db r.courseId).length
  completed : ∀ r ∈ rows, 0 ≤ r.completedBeneficiaries ∧ r.completedBeneficiaries ≤ r.enrolledBeneficiaries
  progress : ∀ r ∈ rows, ∀ pct ∈ r.progressPct, 0 ≤ pct ∧ pct ≤ 100
  modules : ∀ r ∈ rows, ∀ pct ∈ r.moduleProgressPct, 0 ≤ pct ∧ pct ≤ 100

theorem once_view (c : Nat) : (view S db).countP (fun r => r.courseId = c) =
    if db.course.any (fun x => x.id = c && x.visible = 1) && activeLearners db c ≠ [] then 1 else 0 := by
  have counted : (view S db).countP (fun r => r.courseId = c) =
      ((view S db).map CourseProgressRow.courseId).count c := by
    rw [List.count, List.countP_map]
    rfl
  have distinct : ((courseRows db).map (fun p => p.1.1.1.id)).dedup.Nodup := List.nodup_dedup _
  have there : c ∈ ((courseRows db).map (fun p => p.1.1.1.id)).dedup ↔
      (db.course.any (fun x => x.id = c && x.visible = 1) && activeLearners db c ≠ []) := by
    rw [List.mem_dedup, Bool.and_eq_true, decide_eq_true_eq, List.any_eq_true]
    constructor
    · intro mem
      obtain ⟨p, inside, same⟩ := List.mem_map.mp mem
      have own : p ∈ rowsOf db c := List.mem_filter.mpr ⟨inside, decide_eq_true same⟩
      obtain ⟨x_mem, visible, x_id⟩ := mem_rowsOf own
      refine ⟨⟨p.1.1.1, x_mem, by simp [x_id, visible]⟩, ?_⟩
      intro nobody
      have learners := map_learner_rowsOf x_mem visible
      rw [x_id] at learners
      have lengths := congrArg List.length learners
      rw [List.length_map, length_learnersIn, nobody] at lengths
      exact List.ne_nil_of_mem own (List.length_eq_zero_iff.mp lengths)
    · rintro ⟨⟨x, x_mem, both⟩, some_learner⟩
      simp only [Bool.and_eq_true, decide_eq_true_eq] at both
      have learners := map_learner_rowsOf x_mem both.2
      have lengths := congrArg List.length learners
      rw [List.length_map, length_learnersIn, both.1] at lengths
      have some_row : rowsOf db c ≠ [] := by
        intro empty
        rw [empty] at lengths
        exact some_learner (List.length_eq_zero_iff.mp lengths.symm)
      obtain ⟨p, own⟩ := List.exists_mem_of_ne_nil _ some_row
      obtain ⟨inside, same⟩ := List.mem_filter.mp own
      exact List.mem_map.mpr ⟨p, inside, of_decide_eq_true same⟩
  rw [counted, map_courseId_view, distinct.count]
  exact if_congr there rfl rfl

/-- What a row counts is counted over the learners of its course. -/
theorem counts_of_mem {r : CourseProgressRow} (mem : r ∈ view S db) :
    r.enrolledBeneficiaries = (learnersIn db r.courseId).length ∧
    r.completedBeneficiaries = ((learnersIn db r.courseId).map Learner.courseCompleted).sum := by
  obtain ⟨first, own, row⟩ := mem_view mem
  obtain ⟨x_mem, visible, x_id⟩ := mem_rowsOf own
  have learners := map_learner_rowsOf x_mem visible
  rw [x_id] at learners
  have enrolled : r.enrolledBeneficiaries = (rowsOf db r.courseId).length :=
    congrArg CourseProgressRow.enrolledBeneficiaries row
  have completed : r.completedBeneficiaries =
      ((rowsOf db r.courseId).map (fun p => p.1.1.2.courseCompleted)).sum :=
    congrArg CourseProgressRow.completedBeneficiaries row
  rw [enrolled, completed, ← learners, List.length_map, List.map_map]
  exact ⟨rfl, rfl⟩

theorem completed_le {r : CourseProgressRow} (mem : r ∈ view S db) :
    r.completedBeneficiaries ≤ r.enrolledBeneficiaries := by
  have counts := counts_of_mem mem
  have flags : ∀ l ∈ learnersIn db r.courseId, l.courseCompleted ≤ 1 := by
    intro l inside
    rw [courseCompleted_eq (List.mem_filter.mp inside).1]
    split <;> omega
  have bound := List.sum_le_sum flags
  rw [counts.1, counts.2]
  simpa using bound

theorem progress_between {r : CourseProgressRow} (mem : r ∈ view S db) {pct : ℚ} (some_pct : pct ∈ r.progressPct) :
    0 ≤ pct ∧ pct ≤ 100 := by
  have part := completed_le mem
  obtain ⟨first, own, row⟩ := mem_view mem
  have value : r.progressPct =
      (S.divide (100 * r.completedBeneficiaries) r.enrolledBeneficiaries).map (roundTo 1) := by
    rw [row]
    rfl
  have positive : 0 < r.enrolledBeneficiaries := by
    have enrolled : r.enrolledBeneficiaries = (rowsOf db r.courseId).length :=
      congrArg CourseProgressRow.enrolledBeneficiaries row
    rw [enrolled]
    exact List.length_pos_of_mem own
  rw [value] at some_pct
  obtain ⟨q, quotient, rfl⟩ := Option.map_eq_some_iff.mp some_pct
  have below : ((0 : Int) : ℚ) * r.enrolledBeneficiaries ≤ 100 * r.completedBeneficiaries := by
    rw [Int.cast_zero, zero_mul]
    positivity
  have above : (100 * r.completedBeneficiaries : ℚ) ≤ ((100 : Int) : ℚ) * r.enrolledBeneficiaries := by
    have cast : (r.completedBeneficiaries : ℚ) ≤ r.enrolledBeneficiaries := by exact_mod_cast part
    push_cast
    linarith
  have kept := Server.divide_between (by exact_mod_cast positive) below above quotient
  exact @roundTo_between _ _ 100 (by simpa using kept.1) (by simpa using kept.2)

theorem moduleShare_between {p : ((Course × Learner) × Option (Nat × Nat)) × Option CourseCategory} {v : ℚ}
    (share : moduleShare S p = some v) : (0 : ℚ) ≤ v ∧ v ≤ 1 := by
  obtain ⟨q, quotient, rfl⟩ := Option.map_eq_some_iff.mp share
  obtain ⟨t, -, quotient⟩ := Option.bind_eq_some_iff.mp quotient
  refine ⟨?_, min_le_left 1 q⟩
  have nonzero : (t.2 : ℚ) ≠ 0 := by
    intro zero
    simp [Server.divide, zero] at quotient
  have positive : (0 : ℚ) < t.2 := lt_of_le_of_ne (by positivity) (Ne.symm nonzero)
  have kept : (0 : ℚ) ≤ q := by
    rw [Server.divide, if_neg nonzero] at quotient
    have share_nonneg : (0 : ℚ) ≤ p.1.1.2.modulesCompleted / t.2 := by positivity
    have mono := S.keep_mono _ _ share_nonneg
    have zero := S.keep_int 0
    rw [Int.cast_zero] at zero
    rw [zero, Option.some.inj quotient] at mono
    exact mono
  exact le_min zero_le_one kept

theorem modules_between {r : CourseProgressRow} (mem : r ∈ view S db) {pct : ℚ}
    (some_pct : pct ∈ r.moduleProgressPct) : 0 ≤ pct ∧ pct ≤ 100 := by
  obtain ⟨first, -, row⟩ := mem_view mem
  have value : r.moduleProgressPct =
      (S.average ((rowsOf db r.courseId).map (moduleShare S))).map (fun a => roundTo 1 (100 * a)) :=
    congrArg CourseProgressRow.moduleProgressPct row
  rw [value] at some_pct
  obtain ⟨a, mean, rfl⟩ := Option.map_eq_some_iff.mp some_pct
  have shares : ∀ v ∈ ((rowsOf db r.courseId).map (moduleShare S)).reduceOption,
      ((0 : Int) : ℚ) ≤ v ∧ v ≤ ((1 : Int) : ℚ) := by
    intro v inside
    obtain ⟨p, -, share⟩ := List.mem_map.mp (List.reduceOption_mem_iff.mp inside)
    simpa using moduleShare_between share
  have bounds := Server.average_between shares mean
  push_cast at bounds
  exact @roundTo_between _ _ 100 (by linarith [bounds.1]) (by push_cast; linarith [bounds.2])

/-- `kpi1_course_progress` counts each learner once and stays in range. -/
theorem countsOnce_view (S : Server) (db : Database) : CountsOnce db (view S db) where
  once := once_view
  enrolled r mem := by rw [(counts_of_mem mem).1, length_learnersIn]
  completed r mem := ⟨Nat.zero_le _, completed_le mem⟩
  progress r mem _ some_pct := progress_between mem some_pct
  modules r mem _ some_pct := modules_between mem some_pct

end CourseProgress
end XpBuilder.Moodle
