import XpBuilder.Moodle.ConceptScores

/-! Each row of the concept dataset is over the assessments of its concept: no join repeats
one, none is lost, and the average stays between 0 and 100. -/

namespace XpBuilder.Moodle
open Relational

namespace TeacherPerformance
variable (S : Server) (db : ConceptDatabase)

/-- The micro item that a grade is counted for, with its assignment. -/
def microItem (gg : GradeGrade) : Option (GradeItem × Option Assign) :=
  ((db.gradeItems.find? (fun gi => gi.id = gg.itemid)).bind (fun gi =>
    ((microCourses S db).find? (fun course => gi.courseid = some course)).map (fun _ =>
      (gi, db.assign.find? (itemAssign S db gi))))).filter (fun m =>
    gg.finalgrade.isSome && 0 < m.1.grademax && (itemConcept S m.1 m.2).isSome)

/-- The sort key of the concept that a grade is counted for. -/
def conceptOf (gg : GradeGrade) : Option (List Nat) :=
  (microItem S db gg).bind (fun m => (itemConcept S m.1 m.2).map S.sortKey)

def scoreOf (gg : GradeGrade) : Option ℚ := (microItem S db gg).bind (fun m => gradePct S gg m.1)

/-- The grades of a student for a concept. -/
def gradesOf (s : Nat) (concept : List Nat) : List GradeGrade :=
  db.gradeGrades.filter (fun gg => gg.userid = s && conceptOf S db gg = some concept)

/-- The sort key of the concept of a classroom test. -/
def testedOf (ct : ClassroomTest) : List Nat :=
  S.sortKey (testConcept S ct (db.course.find? (fun c => ct.courseId = some c.id)))

/-- The tests of a class for a concept. -/
def testsOf (k : Nat) (concept : List Nat) : List ClassroomTest :=
  (classroomTests db).filter (fun ct => ct.classId = some k && testedOf S db ct = concept)

/-- The teacher trains the class; both exist. -/
def teaches (t k : Nat) : Bool :=
  db.localClassroomTrainers.any (fun tr => tr.trainerid = some t && tr.classroomid = some k) &&
    db.localClassroom.any (fun cls => cls.id = k) && db.user.any (fun u => u.id = t)

def memberOf (k s : Nat) : Bool :=
  db.localClassroomUsers.any (fun cu => cu.classroomid = some k && cu.userid = some s)

/-- The teacher, the class, the student or none, and the sort key of the concept. -/
def ConceptRow.key (r : ConceptRow) : ClassStudent × Option (List Nat) :=
  (⟨r.teacherId, r.classId, r.studentId⟩, r.conceptName.map S.sortKey)

/-- The row is over these scores and days. -/
structure Averages (r : ConceptRow) (scores : List (Option ℚ)) (days : List (Option Int)) : Prop where
  recorded : r.assessmentsRecorded = scores.length
  average : r.microassessmentScore = (S.average scores).map (roundTo 2)
  last : r.lastAssessmentDate = days.reduceOption.max?

/-- One row for each teacher, class, student and concept that the student has grades for,
and one for each teacher, class and concept that the class has tests for, over just these. -/
structure ConceptGrain (rows : List ConceptRow) : Prop where
  keyed : ∀ r ∈ rows, ∃ t k name, r.teacherId = some t ∧ r.classId = some k ∧ r.conceptName = some name
  graded : ∀ t k s concept, rows.countP (fun r => ConceptRow.key S r = (⟨some t, some k, some s⟩, some concept)) =
    if teaches db t k && memberOf db k s && gradesOf S db s concept ≠ [] then 1 else 0
  tested : ∀ t k concept, rows.countP (fun r => ConceptRow.key S r = (⟨some t, some k, none⟩, some concept)) =
    if teaches db t k && testsOf S db k concept ≠ [] then 1 else 0
  ofGrades : ∀ r ∈ rows, ∀ s name, r.studentId = some s → r.conceptName = some name →
    Averages S r ((gradesOf S db s (S.sortKey name)).map (scoreOf S db))
      ((gradesOf S db s (S.sortKey name)).map (fun gg => S.date gg.timemodified))
  ofTests : ∀ r ∈ rows, ∀ k name, r.studentId = none → r.classId = some k → r.conceptName = some name →
    Averages S r ((testsOf S db k (S.sortKey name)).map (testPct S))
      ((testsOf S db k (S.sortKey name)).map (fun ct => S.date ct.testdate))

/-- No grade and no test score is above its maximum. -/
structure WithinMarks : Prop where
  grades : ∀ gg ∈ db.gradeGrades, ∀ gi ∈ db.gradeItems, gi.id = gg.itemid →
    ∀ grade, gg.finalgrade = some grade → 0 ≤ grade ∧ grade ≤ gi.grademax
  tests : ∀ ct ∈ classroomTests db, ct.score ≤ ct.totalmarks

/-! ## No join repeats an assessment -/

theorem length_filter_microCourses (gi : GradeItem) :
    ((microCourses S db).filter (fun course => gi.courseid = some course)).length ≤ 1 := by
  have distinct : ((microCourses S db).map id).Nodup := by
    rw [List.map_id]
    exact (List.filter_sublist.map _).nodup db.courseIds
  apply length_filter_le_one distinct
  intro a _ b _ ha hb
  exact Option.some.inj ((of_decide_eq_true ha).symm.trans (of_decide_eq_true hb))

theorem length_filter_itemAssign (gi : GradeItem) : (db.assign.filter (itemAssign S db gi)).length ≤ 1 := by
  apply length_filter_le_one db.assignIds
  intro a _ b _ ha hb
  simp only [itemAssign, Bool.and_eq_true, decide_eq_true_eq] at ha hb
  exact Option.some.inj (ha.2.symm.trans hb.2)

def gradebookRow (p : ClassStudent × GradeGrade) : Option GradebookRow :=
  (microItem S db p.2).map (fun m => ⟨p.1, p.2, m.1, m.2⟩)

theorem gradebookRows_eq : gradebookRows S db =
    (join (fun cs gg => cs.studentId = some gg.userid) (classStudents db.toDatabase) db.gradeGrades).filterMap
      (gradebookRow S db) := by
  have byItem : ∀ i : Nat, (db.gradeItems.filter (fun gi => gi.id = i)).length ≤ 1 :=
    length_filter_eq_le_one db.itemIds
  simp only [gradebookRows]
  rw [join_eq_filterMap (fun _ _ => byItem _), join_eq_filterMap (fun _ _ => length_filter_microCourses S db _),
    leftJoin_eq_map (fun _ _ => length_filter_itemAssign S db _), List.filterMap_filterMap]
  simp only [List.map_filterMap, List.filter_filterMap]
  congr 1
  funext p
  unfold gradebookRow microItem
  cases db.gradeItems.find? (fun gi => gi.id = p.2.itemid) with
  | none => rfl
  | some gi =>
    simp only [Option.map_some, Option.bind_some]
    cases (microCourses S db).find? (fun course => gi.courseid = some course) with
    | none => rfl
    | some course =>
      exact Option.filter_map (x := some (gi, db.assign.find? (itemAssign S db gi)))
        (f := fun m => (⟨p.1, p.2, m.1, m.2⟩ : GradebookRow))

theorem testRows_eq : testRows db =
    (join (fun ct tc => ct.classId.isSome && tc.2 = ct.classId) (classroomTests db)
      (teacherClasses db.toDatabase)).map (fun p =>
        ⟨p.1, p.2.1, db.course.find? (fun c => p.1.courseId = some c.id)⟩) := by
  have byCourse : ∀ k : Option Nat, (db.course.filter (fun c => k = some c.id)).length ≤ 1 :=
    length_filter_key_le_one db.courseIds
  simp only [testRows]
  rw [leftJoin_eq_map (fun _ _ => byCourse _), List.map_map]
  rfl

variable {S db}

theorem microItem_eq_some {gg : GradeGrade} {m : GradeItem × Option Assign} (found : microItem S db gg = some m) :
    (m.1 ∈ db.gradeItems ∧ m.1.id = gg.itemid) ∧ (∃ grade, gg.finalgrade = some grade) ∧ 0 < m.1.grademax ∧
      ∃ name, itemConcept S m.1 m.2 = some name ∧ conceptOf S db gg = some (S.sortKey name) := by
  have concept : conceptOf S db gg = (itemConcept S m.1 m.2).map S.sortKey := by rw [conceptOf, found, Option.bind_some]
  obtain ⟨there, counts⟩ := Option.filter_eq_some_iff.mp found
  obtain ⟨gi, item, there⟩ := Option.bind_eq_some_iff.mp there
  obtain ⟨course, -, rfl⟩ := Option.map_eq_some_iff.mp there
  simp only [Bool.and_eq_true, decide_eq_true_eq] at counts
  obtain ⟨name, named⟩ := Option.isSome_iff_exists.mp counts.2
  have same := List.find?_some item
  exact ⟨⟨List.mem_of_find?_eq_some item, of_decide_eq_true same⟩, Option.isSome_iff_exists.mp counts.1.1, counts.1.2,
    name, named, by rw [concept, named, Option.map_some]⟩

theorem mem_gradebookRows {r : GradebookRow} (mem : r ∈ gradebookRows S db) :
    r.student ∈ classStudents db.toDatabase ∧ r.student.studentId = some r.grade.userid ∧
      microItem S db r.grade = some (r.item, r.assign) ∧ r.grade ∈ db.gradeGrades := by
  rw [gradebookRows_eq] at mem
  obtain ⟨p, inside, found⟩ := List.mem_filterMap.mp mem
  obtain ⟨m, item, rfl⟩ := Option.map_eq_some_iff.mp found
  obtain ⟨student, grade, same⟩ := mem_join.mp inside
  exact ⟨student, of_decide_eq_true same, item, grade⟩

/-- The rows of a student of a class for a concept are the student's grades for it. -/
theorem filter_gradebookRows {γ : Type} {cs : ClassStudent} {s : Nat} (concept : List Nat) {f : GradebookRow → γ}
    {g : GradeGrade → γ} (mem : cs ∈ classStudents db.toDatabase) (student : cs.studentId = some s)
    (same : ∀ gg m, microItem S db gg = some m → f ⟨cs, gg, m.1, m.2⟩ = g gg) :
    ((gradebookRows S db).filter (fun r =>
      (r.student, (GradebookRow.concept S r).map S.sortKey) = (cs, some concept))).map f =
      (gradesOf S db s concept).map g := by
  have distinct : (classStudents db.toDatabase).Nodup := List.nodup_dedup _
  rw [gradebookRows_eq, map_filter_filterMap (q := fun p => p.1 = cs && conceptOf S db p.2 = some concept)
    (h := fun p => g p.2), filter_join_of_mem distinct mem (fun gg => conceptOf S db gg = some concept), List.map_map]
  · simp only [student, gradesOf, Option.some.injEq, eq_comm]
    rfl
  · rintro ⟨cs', gg⟩ -
    obtain missing | ⟨m, found⟩ := Option.eq_none_or_eq_some (microItem S db gg)
    · simp [gradebookRow, conceptOf, missing]
    · have value : (gradebookRow S db (cs', gg)) = some ⟨cs', gg, m.1, m.2⟩ := by rw [gradebookRow, found, Option.map_some]
      have about : conceptOf S db gg = (itemConcept S m.1 m.2).map S.sortKey := by rw [conceptOf, found, Option.bind_some]
      rw [value, about, Option.filter_some]
      by_cases own : cs' = cs
      · subst own
        by_cases here : (itemConcept S m.1 m.2).map S.sortKey = some concept
        · simp [GradebookRow.concept, here, same gg m found]
        · simp [GradebookRow.concept, here]
      · simp [own]

/-! ## The scores of the gradebook -/

variable (S) in
def ConceptScore.key (c : ConceptScore) : ClassStudent × Option (List Nat) := (c.place, c.conceptName.map S.sortKey)

theorem map_key_gradebookScores : (gradebookScores S db).map (ConceptScore.key S) =
    ((gradebookRows S db).map (fun r => (r.student, (GradebookRow.concept S r).map S.sortKey))).dedup :=
  map_selectGroups (fun _ _ => rfl)

theorem concept_of_mem {r : GradebookRow} (mem : r ∈ gradebookRows S db) :
    ∃ name, GradebookRow.concept S r = some name ∧ r.grade ∈ gradesOf S db r.grade.userid (S.sortKey name) := by
  obtain ⟨-, -, found, grade⟩ := mem_gradebookRows mem
  obtain ⟨-, -, -, name, named, concept⟩ := microItem_eq_some found
  refine ⟨name, named, List.mem_filter.mpr ⟨grade, ?_⟩⟩
  simp [concept]

/-- A score of the gradebook is that of a student of a class, over the student's grades. -/
theorem mem_gradebookScores {c : ConceptScore} (mem : c ∈ gradebookScores S db) :
    c.place ∈ classStudents db.toDatabase ∧ ∃ s name, c.place.studentId = some s ∧ c.conceptName = some name ∧
      gradesOf S db s (S.sortKey name) ≠ [] ∧
      c.assessmentsRecorded = (gradesOf S db s (S.sortKey name)).length ∧
      c.conceptScore = S.average ((gradesOf S db s (S.sortKey name)).map (scoreOf S db)) ∧
      c.conceptOn = ((gradesOf S db s (S.sortKey name)).map (fun gg => S.date gg.timemodified)).reduceOption.max? := by
  obtain ⟨first, there, rfl⟩ := mem_selectGroups mem
  obtain ⟨student, own, -, -⟩ := mem_gradebookRows there
  obtain ⟨name, named, grade⟩ := concept_of_mem there
  have key : (GradebookRow.concept S first).map S.sortKey = some (S.sortKey name) := by rw [named, Option.map_some]
  have scores := filter_gradebookRows (f := fun r => gradePct S r.grade r.item) (g := scoreOf S db)
    (S.sortKey name) student own (fun gg m found => by rw [scoreOf, found, Option.bind_some])
  have days := filter_gradebookRows (S := S) (f := fun r => S.date r.grade.timemodified)
    (g := fun gg => S.date gg.timemodified) (S.sortKey name) student own (fun _ _ _ => rfl)
  refine ⟨student, first.grade.userid, name, own, named, List.ne_nil_of_mem grade, ?_, ?_, ?_⟩
  · rw [key, ← List.length_map (scoreOf S db), ← scores, List.length_map]
  · rw [key, scores]
  · rw [key, days]

theorem mem_keys_gradebookScores {t k s : Nat} {concept : List Nat} :
    ((⟨some t, some k, some s⟩ : ClassStudent), some concept) ∈ (gradebookScores S db).map (ConceptScore.key S) ↔
      ⟨some t, some k, some s⟩ ∈ classStudents db.toDatabase ∧ gradesOf S db s concept ≠ [] := by
  constructor
  · intro there
    obtain ⟨c, mem, same⟩ := List.mem_map.mp there
    obtain ⟨place, s', name, student, named, some_grade, -⟩ := mem_gradebookScores mem
    obtain ⟨shape, about⟩ := Prod.mk.inj same
    rw [named, Option.map_some, Option.some.injEq] at about
    rw [shape, Option.some.injEq] at student
    rw [shape] at place
    exact ⟨place, by rwa [← about, student]⟩
  · rintro ⟨place, some_grade⟩
    have rows := filter_gradebookRows (S := S) (f := GradebookRow.grade) (g := id) concept place rfl
      (fun _ _ _ => rfl)
    rw [map_key_gradebookScores, List.mem_dedup]
    have some_row : (gradebookRows S db).filter (fun r =>
        (r.student, (GradebookRow.concept S r).map S.sortKey) =
          ((⟨some t, some k, some s⟩ : ClassStudent), some concept)) ≠ [] := by
      intro empty
      rw [empty, List.map_nil, eq_comm, List.map_id] at rows
      exact some_grade rows
    obtain ⟨r, mem⟩ := List.exists_mem_of_ne_nil _ some_row
    obtain ⟨mem, key⟩ := List.mem_filter.mp mem
    exact List.mem_map.mpr ⟨r, mem, of_decide_eq_true key⟩

/-! ## The scores of the tests -/

theorem mem_testRows {r : TestRow} (mem : r ∈ testRows db) :
    r.test ∈ classroomTests db ∧ (r.teacherId, r.test.classId) ∈ teacherClasses db.toDatabase ∧
      (∃ k, r.test.classId = some k) ∧ S.sortKey (testConcept S r.test r.course) = testedOf S db r.test := by
  rw [testRows_eq] at mem
  obtain ⟨p, inside, rfl⟩ := List.mem_map.mp mem
  obtain ⟨test, taken, on⟩ := mem_join.mp inside
  simp only [Bool.and_eq_true, decide_eq_true_eq] at on
  exact ⟨test, by rwa [← on.2], Option.isSome_iff_exists.mp on.1, rfl⟩

/-- The rows of a class for a concept are its tests for it. -/
theorem filter_testRows {γ : Type} {t : Option Nat} {k : Nat} (concept : List Nat) {f : TestRow → γ}
    {g : ClassroomTest → γ} (mem : (t, some k) ∈ teacherClasses db.toDatabase) (same : ∀ r, f r = g r.test) :
    ((testRows db).filter (fun r =>
      (r.teacherId, r.test.classId, S.sortKey (testConcept S r.test r.course)) = (t, some k, concept))).map f =
      (testsOf S db k concept).map g := by
  have distinct : (teacherClasses db.toDatabase).Nodup := List.nodup_dedup _
  have onlyTheir : ∀ p ∈ join (fun (ct : ClassroomTest) (tc : Option Nat × Option Nat) =>
      ct.classId.isSome && tc.2 = ct.classId) (classroomTests db) (teacherClasses db.toDatabase),
      decide ((p.2.1, p.1.classId, testedOf S db p.1) = (t, some k, concept)) =
        (p.2 = (t, some k) && testedOf S db p.1 = concept) := by
    intro p inside
    have on := (mem_join.mp inside).2.2
    simp only [Bool.and_eq_true, decide_eq_true_eq] at on
    simp [Prod.ext_iff, on.2, Bool.and_assoc]
  have theirs : (classroomTests db).filter (fun ct =>
      (ct.classId.isSome && some k = ct.classId) && testedOf S db ct = concept) = testsOf S db k concept := by
    unfold testsOf
    congr 1
    funext ct
    cases ct.classId <;> simp [eq_comm]
  rw [testRows_eq, List.filter_map, List.map_map]
  simp only [Function.comp_def]
  refine (congrArg (List.map _) (List.filter_congr onlyTheir)).trans ?_
  rw [filter_join_right_of_mem distinct mem (fun ct => testedOf S db ct = concept), theirs, List.map_map]
  apply List.map_congr_left
  intro ct _
  exact same _

theorem map_key_testScores : (testScores S db).map (ConceptScore.key S) =
    ((testRows db).map (fun r => (r.teacherId, r.test.classId, S.sortKey (testConcept S r.test r.course)))).dedup.map
      (fun k => (⟨k.1, k.2.1, none⟩, some k.2.2)) := by
  have keys : (testScores S db).map (fun c =>
      (c.place.teacherId, c.place.classId, (c.conceptName.map S.sortKey).getD [])) =
      ((testRows db).map (fun r =>
        (r.teacherId, r.test.classId, S.sortKey (testConcept S r.test r.course)))).dedup :=
    map_selectGroups (fun _ _ => rfl)
  rw [← keys, List.map_map]
  apply List.map_congr_left
  intro c mem
  obtain ⟨first, -, rfl⟩ := mem_selectGroups mem
  rfl

theorem mem_testScores {c : ConceptScore} (mem : c ∈ testScores S db) :
    c.place.studentId = none ∧ ∃ k name, c.place.classId = some k ∧ c.conceptName = some name ∧
      testsOf S db k (S.sortKey name) ≠ [] ∧
      c.assessmentsRecorded = (testsOf S db k (S.sortKey name)).length ∧
      c.conceptScore = S.average ((testsOf S db k (S.sortKey name)).map (testPct S)) ∧
      c.conceptOn = ((testsOf S db k (S.sortKey name)).map (fun ct => S.date ct.testdate)).reduceOption.max? := by
  obtain ⟨first, there, rfl⟩ := mem_selectGroups mem
  obtain ⟨test, taught, ⟨k, room⟩, about⟩ := mem_testRows (S := S) there
  rw [room] at taught
  have scores := filter_testRows (S := S) (f := fun r => testPct S r.test) (g := testPct S)
    (S.sortKey (testConcept S first.test first.course)) taught (fun _ => rfl)
  have days := filter_testRows (S := S) (f := fun r => S.date r.test.testdate) (g := fun ct => S.date ct.testdate)
    (S.sortKey (testConcept S first.test first.course)) taught (fun _ => rfl)
  have own : first.test ∈ testsOf S db k (S.sortKey (testConcept S first.test first.course)) :=
    List.mem_filter.mpr ⟨test, by simp [room, about]⟩
  refine ⟨rfl, k, _, room, rfl, List.ne_nil_of_mem own, ?_, ?_, ?_⟩
  · rw [room, ← List.length_map (testPct S), ← scores, List.length_map]
  · rw [room, scores]
  · rw [room, days]

theorem mem_keys_testScores {t k : Nat} {concept : List Nat} :
    ((⟨some t, some k, none⟩ : ClassStudent), some concept) ∈ (testScores S db).map (ConceptScore.key S) ↔
      (some t, some k) ∈ teacherClasses db.toDatabase ∧ testsOf S db k concept ≠ [] := by
  have shape : ((⟨some t, some k, none⟩ : ClassStudent), some concept) ∈ (testScores S db).map (ConceptScore.key S) ↔
      ∃ r ∈ testRows db, r.teacherId = some t ∧ r.test.classId = some k ∧
        S.sortKey (testConcept S r.test r.course) = concept := by
    rw [map_key_testScores, List.mem_map]
    simp [and_assoc]
  rw [shape]
  constructor
  · rintro ⟨r, mem, teacher, room, about⟩
    obtain ⟨test, taught, -, same⟩ := mem_testRows (S := S) mem
    rw [teacher, room] at taught
    exact ⟨taught, List.ne_nil_of_mem (List.mem_filter.mpr ⟨test, by simp [room, ← same, about]⟩)⟩
  · rintro ⟨taught, some_test⟩
    have rows := filter_testRows (S := S) (f := TestRow.test) (g := id) concept taught (fun _ => rfl)
    rw [List.map_id] at rows
    obtain ⟨test, mem⟩ := List.exists_mem_of_ne_nil _ some_test
    rw [← rows] at mem
    obtain ⟨r, mem, -⟩ := List.mem_map.mp mem
    obtain ⟨mem, key⟩ := List.mem_filter.mp mem
    simp only [decide_eq_true_eq, Prod.mk.injEq] at key
    exact ⟨r, mem, key⟩

/-! ## The rows of the dataset -/

theorem nodup_scores : ((gradebookScores S db ++ testScores S db).map (ConceptScore.key S)).Nodup := by
  rw [List.map_append, List.nodup_append']
  refine ⟨?_, ?_, ?_⟩
  · rw [map_key_gradebookScores]
    exact List.nodup_dedup _
  · rw [map_key_testScores]
    apply (List.nodup_dedup _).map
    intro a b same
    simpa [Prod.ext_iff, and_assoc] using same
  · intro k graded tested
    obtain ⟨c, mem, rfl⟩ := List.mem_map.mp graded
    obtain ⟨c', mem', same⟩ := List.mem_map.mp tested
    obtain ⟨-, s, -, student, -⟩ := mem_gradebookScores mem
    have none' := (mem_testScores mem').1
    rw [(Prod.mk.inj same).1, student] at none'
    cases none'

variable (S db) in
def conceptRowOf (c : ConceptScore) : Option ConceptRow :=
  (classOf db.toDatabase c.place.classId).bind (fun cls => (userOf db.toDatabase c.place.teacherId).map (fun tu =>
    conceptRow S c cls tu (userOf db.toDatabase c.place.studentId)))

theorem conceptDataset_eq : conceptDataset S db =
    (gradebookScores S db ++ testScores S db).filterMap (conceptRowOf S db) := by
  have byUser : ∀ k : Option Nat, (db.user.filter (fun u => k = some u.id)).length ≤ 1 :=
    length_filter_key_le_one db.userIds
  simp only [conceptDataset]
  rw [join_eq_filterMap (fun _ _ => byUser _),
    join_eq_filterMap (fun c _ => length_filter_key_le_one db.classroomIds c.place.classId), leftJoin_eq_map (fun _ _ => byUser _), List.filterMap_filterMap]
  simp only [List.map_filterMap]
  congr 1
  funext c
  simp only [conceptRowOf, classOf, userOf]
  cases db.localClassroom.find? (fun cls => c.place.classId = some cls.id) with
  | none => rfl
  | some cls =>
    simp only [Option.map_some, Option.bind_some, Option.map_map]
    rfl

theorem conceptRowOf_eq_some {c : ConceptScore} {r : ConceptRow} (found : conceptRowOf S db c = some r) :
    (∃ cls tu su, r = conceptRow S c cls tu su) ∧ (∃ cls ∈ db.localClassroom, c.place.classId = some cls.id) ∧
      ∃ u ∈ db.user, c.place.teacherId = some u.id := by
  obtain ⟨cls, room, found⟩ := Option.bind_eq_some_iff.mp found
  obtain ⟨tu, teacher, rfl⟩ := Option.map_eq_some_iff.mp found
  exact ⟨⟨cls, tu, _, rfl⟩, isSome_classOf.mp (Option.isSome_of_eq_some room),
    isSome_userOf.mp (Option.isSome_of_eq_some teacher)⟩

/-- The rows with a key: those of the scores, where the class and the teacher exist. -/
theorem countP_key {t k : Nat} {s : Option Nat} {concept : List Nat} :
    (conceptDataset S db).countP (fun r => ConceptRow.key S r = (⟨some t, some k, s⟩, some concept)) =
      if (db.localClassroom.any (fun cls => cls.id = k) && db.user.any (fun u => u.id = t)) &&
        ((⟨some t, some k, s⟩ : ClassStudent), some concept) ∈
          (gradebookScores S db ++ testScores S db).map (ConceptScore.key S) then 1 else 0 := by
  have each : ∀ c : ConceptScore, ((conceptRowOf S db c).map (fun r =>
      decide (ConceptRow.key S r = (⟨some t, some k, s⟩, some concept)))).getD false =
      ((db.localClassroom.any (fun cls => cls.id = k) && db.user.any (fun u => u.id = t)) &&
        ConceptScore.key S c == (⟨some t, some k, s⟩, some concept)) := by
    intro c
    rw [Bool.eq_iff_iff]
    simp only [Bool.and_eq_true, List.any_eq_true, decide_eq_true_eq, beq_iff_eq]
    constructor
    · intro matches_
      obtain missing | ⟨r, found⟩ := Option.eq_none_or_eq_some (conceptRowOf S db c)
      · simp [missing] at matches_
      · rw [found, Option.map_some, Option.getD_some, decide_eq_true_eq] at matches_
        obtain ⟨⟨cls, tu, su, rfl⟩, ⟨cls', cls_mem, room⟩, u, u_mem, teacher⟩ := conceptRowOf_eq_some found
        have key : ConceptScore.key S c = (⟨some t, some k, s⟩, some concept) := matches_
        have place := (Prod.mk.inj key).1
        rw [place] at room teacher
        exact ⟨⟨⟨cls', cls_mem, (Option.some.inj room).symm⟩, u, u_mem, (Option.some.inj teacher).symm⟩, key⟩
    · rintro ⟨⟨⟨cls, cls_mem, room⟩, u, u_mem, teacher⟩, key⟩
      have place := (Prod.mk.inj key).1
      have class_known : (classOf db.toDatabase c.place.classId).isSome :=
        isSome_classOf.mpr ⟨cls, cls_mem, by rw [place, room]⟩
      have user_known : (userOf db.toDatabase c.place.teacherId).isSome :=
        isSome_userOf.mpr ⟨u, u_mem, by rw [place, teacher]⟩
      obtain ⟨cls', class_found⟩ := Option.isSome_iff_exists.mp class_known
      obtain ⟨tu, user_found⟩ := Option.isSome_iff_exists.mp user_known
      rw [conceptRowOf, class_found, Option.bind_some, user_found, Option.map_some, Option.map_some, Option.getD_some]
      exact decide_eq_true key
  rw [conceptDataset_eq, List.countP_filterMap, funext each]
  cases db.localClassroom.any (fun cls => cls.id = k) && db.user.any (fun u => u.id = t) with
  | false => simp
  | true =>
    have once := (@nodup_scores S db).count (a := ((⟨some t, some k, s⟩ : ClassStudent), some concept))
    simp only [Bool.true_and, decide_eq_true_eq]
    rw [← once, List.count, List.countP_map]
    rfl

theorem mem_teacherClasses {t k : Nat} : (some t, some k) ∈ teacherClasses db.toDatabase ↔
    ∃ tr ∈ db.localClassroomTrainers, tr.trainerid = some t ∧ tr.classroomid = some k := by
  simp [teacherClasses]

theorem mem_scores {t k s : Nat} {concept : List Nat} :
    ((⟨some t, some k, some s⟩ : ClassStudent), some concept) ∈
      (gradebookScores S db ++ testScores S db).map (ConceptScore.key S) ↔
      ⟨some t, some k, some s⟩ ∈ classStudents db.toDatabase ∧ gradesOf S db s concept ≠ [] := by
  rw [List.map_append, List.mem_append, mem_keys_gradebookScores, or_iff_left]
  intro there
  obtain ⟨c, mem, same⟩ := List.mem_map.mp there
  have student := (mem_testScores mem).1
  rw [(Prod.mk.inj same).1] at student
  cases student

theorem mem_scores_none {t k : Nat} {concept : List Nat} :
    ((⟨some t, some k, none⟩ : ClassStudent), some concept) ∈
      (gradebookScores S db ++ testScores S db).map (ConceptScore.key S) ↔
      (some t, some k) ∈ teacherClasses db.toDatabase ∧ testsOf S db k concept ≠ [] := by
  rw [List.map_append, List.mem_append, mem_keys_testScores, or_iff_right]
  intro there
  obtain ⟨c, mem, same⟩ := List.mem_map.mp there
  obtain ⟨-, s, -, student, -⟩ := mem_gradebookScores mem
  rw [(Prod.mk.inj same).1] at student
  cases student

theorem mem_conceptDataset {r : ConceptRow} (mem : r ∈ conceptDataset S db) :
    ∃ c ∈ gradebookScores S db ++ testScores S db, (∃ cls tu su, r = conceptRow S c cls tu su) ∧
      (∃ k, c.place.classId = some k) ∧ ∃ t, c.place.teacherId = some t := by
  rw [conceptDataset_eq] at mem
  obtain ⟨c, there, found⟩ := List.mem_filterMap.mp mem
  obtain ⟨shape, ⟨cls, -, room⟩, u, -, teacher⟩ := conceptRowOf_eq_some found
  exact ⟨c, there, shape, ⟨_, room⟩, _, teacher⟩

theorem conceptGrain : ConceptGrain S db (conceptDataset S db) := by
  constructor
  · intro r mem
    obtain ⟨c, there, ⟨cls, tu, su, rfl⟩, ⟨k, room⟩, t, teacher⟩ := mem_conceptDataset mem
    have named : ∃ name, c.conceptName = some name := by
      obtain graded | tested := List.mem_append.mp there
      · obtain ⟨-, -, name, -, named, -⟩ := mem_gradebookScores graded
        exact ⟨name, named⟩
      · obtain ⟨-, -, name, -, named, -⟩ := mem_testScores tested
        exact ⟨name, named⟩
    obtain ⟨name, named⟩ := named
    exact ⟨t, k, name, teacher, room, named⟩
  · intro t k s concept
    rw [countP_key]
    congr 1
    simp only [mem_scores, mem_classStudents, teaches, memberOf, Bool.and_eq_true, List.any_eq_true,
      decide_eq_true_eq, eq_iff_iff]
    tauto
  · intro t k concept
    rw [countP_key]
    congr 1
    simp only [mem_scores_none, mem_teacherClasses, teaches, Bool.and_eq_true, List.any_eq_true,
      decide_eq_true_eq, eq_iff_iff]
    tauto
  · intro r mem s name student named
    obtain ⟨c, there, ⟨cls, tu, su, rfl⟩, -, -⟩ := mem_conceptDataset mem
    obtain graded | tested := List.mem_append.mp there
    · obtain ⟨-, s', name', student', named', -, recorded, average, last⟩ := mem_gradebookScores graded
      obtain rfl : s' = s := Option.some.inj (student'.symm.trans student)
      obtain rfl : name' = name := Option.some.inj (named'.symm.trans named)
      constructor
      · rw [List.length_map]
        exact recorded
      · exact congrArg (Option.map (roundTo 2)) average
      · exact last
    · cases (mem_testScores tested).1.symm.trans student
  · intro r mem k name student room named
    obtain ⟨c, there, ⟨cls, tu, su, rfl⟩, -, -⟩ := mem_conceptDataset mem
    obtain graded | tested := List.mem_append.mp there
    · obtain ⟨-, s', -, student', -⟩ := mem_gradebookScores graded
      cases student'.symm.trans student
    · obtain ⟨-, k', name', room', named', -, recorded, average, last⟩ := mem_testScores tested
      obtain rfl : k' = k := Option.some.inj (room'.symm.trans room)
      obtain rfl : name' = name := Option.some.inj (named'.symm.trans named)
      constructor
      · rw [List.length_map]
        exact recorded
      · exact congrArg (Option.map (roundTo 2)) average
      · exact last

/-! ## The scores are percentages -/

/-- The value is a percentage. -/
def Percent (v : Option ℚ) : Prop := ∃ p, v = some p ∧ 0 ≤ p ∧ p ≤ 100

theorem percent_divide {a b : ℚ} (positive : 0 < b) (below : 0 ≤ a) (above : a ≤ b) :
    Percent ((S.divide a b).map (· * 100)) := by
  have quotient : S.divide a b = some (S.keep (a / b)) := by rw [Server.divide, if_neg (ne_of_gt positive)]
  have bounds := @Server.divide_between S a b _ 0 1 positive (by simpa using below) (by simpa using above) quotient
  refine ⟨S.keep (a / b) * 100, by rw [quotient, Option.map_some], ?_, ?_⟩
  · have lower : (0 : ℚ) ≤ S.keep (a / b) := by exact_mod_cast bounds.1
    linarith
  · have upper : S.keep (a / b) ≤ (1 : ℚ) := by exact_mod_cast bounds.2
    linarith

theorem percent_average {values : List (Option ℚ)} (some_value : values ≠ []) (each : ∀ v ∈ values, Percent v) :
    Percent ((S.average values).map (roundTo 2)) := by
  have numbers : values.reduceOption ≠ [] := by
    obtain ⟨v, rest, rfl⟩ := List.exists_cons_of_ne_nil some_value
    obtain ⟨p, rfl, -⟩ := each v List.mem_cons_self
    simp
  have counted : (values.reduceOption.length : ℚ) ≠ 0 := by
    exact_mod_cast (List.length_pos_of_ne_nil numbers).ne'
  have mean : S.average values = some (S.keep (values.reduceOption.sum / values.reduceOption.length)) := by
    rw [Server.average, Server.divide, if_neg counted]
  have bounds := @Server.average_between S values _ 0 100 (by
    intro v mem
    obtain ⟨p, same, below, above⟩ := each (some v) (List.reduceOption_mem_iff.mp mem)
    obtain rfl := Option.some.inj same
    exact ⟨by exact_mod_cast below, by exact_mod_cast above⟩) mean
  have rounded := @roundTo_between 2 _ 100 (by exact_mod_cast bounds.1) (by exact_mod_cast bounds.2)
  exact ⟨_, by rw [mean, Option.map_some], rounded.1, by exact_mod_cast rounded.2⟩

theorem castDecimal_nonneg (s : String) : 0 ≤ castDecimal s := by
  have number : 0 ≤ readDecimal s := by
    unfold readDecimal
    positivity
  exact le_min (by norm_num) (roundTo_between number (Nat.le_ceil _)).1

theorem classroomTest_bounds {ct : ClassroomTest} (mem : ct ∈ classroomTests db) : 0 ≤ ct.score ∧ 0 < ct.totalmarks := by
  obtain ⟨ts, -, found⟩ := List.mem_filterMap.mp mem
  unfold classroomTest at found
  split at found
  · split at found
    · rename_i holds
      simp only [Bool.and_eq_true, decide_eq_true_eq] at holds
      obtain rfl := Option.some.inj found
      exact ⟨castDecimal_nonneg _, holds.2⟩
    · cases found
  · cases found

theorem percent_scoreOf (marks : WithinMarks db) {s : Nat} {concept : List Nat} {gg : GradeGrade}
    (mem : gg ∈ gradesOf S db s concept) : Percent (scoreOf S db gg) := by
  obtain ⟨grade_mem, about⟩ := List.mem_filter.mp mem
  simp only [Bool.and_eq_true, decide_eq_true_eq] at about
  obtain ⟨m, found, -⟩ := Option.bind_eq_some_iff.mp about.2
  obtain ⟨⟨item, same⟩, ⟨grade, graded⟩, positive, -⟩ := microItem_eq_some found
  have bounds := marks.grades gg grade_mem m.1 item same grade graded
  rw [scoreOf, found, Option.bind_some, gradePct, graded, Option.bind_some]
  exact percent_divide positive bounds.1 bounds.2

theorem percent_testPct (marks : WithinMarks db) {k : Nat} {concept : List Nat} {ct : ClassroomTest}
    (mem : ct ∈ testsOf S db k concept) : Percent (testPct S ct) := by
  obtain ⟨test, -⟩ := List.mem_filter.mp mem
  have bounds := classroomTest_bounds test
  exact percent_divide bounds.2 bounds.1 (marks.tests ct test)

theorem percent_of_mem (marks : WithinMarks db) {r : ConceptRow} (mem : r ∈ conceptDataset S db) :
    Percent r.microassessmentScore := by
  obtain ⟨c, there, ⟨cls, tu, su, rfl⟩, -, -⟩ := mem_conceptDataset mem
  obtain graded | tested := List.mem_append.mp there
  · obtain ⟨-, s, name, -, -, some_grade, -, average, -⟩ := mem_gradebookScores graded
    have value : (conceptRow S c cls tu su).microassessmentScore = c.conceptScore.map (roundTo 2) := rfl
    rw [value, average]
    apply percent_average (by simpa using some_grade)
    intro v inside
    obtain ⟨gg, own, rfl⟩ := List.mem_map.mp inside
    exact percent_scoreOf marks own
  · obtain ⟨-, k, name, -, -, some_test, -, average, -⟩ := mem_testScores tested
    have value : (conceptRow S c cls tu su).microassessmentScore = c.conceptScore.map (roundTo 2) := rfl
    rw [value, average]
    apply percent_average (by simpa using some_test)
    intro v inside
    obtain ⟨ct, own, rfl⟩ := List.mem_map.mp inside
    exact percent_testPct marks own

/-- A class with an assignment graded in a micro course and two tests. -/
def microClass : ConceptDatabase where
  user := [{ id := 12, username := "ayesha", firstname := "A", lastname := "K" },
    { id := 13, username := "bilal", firstname := "B", lastname := "M" }]
  course := [{ id := 15, fullname := "Micro lessons" }]
  assign := [{ id := 16, course := 15, name := "Fractions" }]
  gradeItems := [{ id := 17, courseid := some 15, itemname := some "", itemmodule := some "assign" }]
  gradeGrades := [{ itemid := 17, userid := 13, finalgrade := some 80, timemodified := some 1700000000 }]
  localClassroom := [{ id := 18, name := some "Maths", openStandard := some "5" }]
  localClassroomTrainers := [{ classroomid := some 18, trainerid := some 12 }, { classroomid := some 18, trainerid := some 12 }]
  localClassroomUsers := [{ classroomid := some 18, userid := some 13 }, { classroomid := some 18, userid := some 13 }]
  itemInstance := fun _ => some 16
  localClassroomTestScore := [{ classroomid := some 18, testid := some "Decimals", score := some "7.5", totalmarks := some "10" },
    { classroomid := some 18, testid := some "Decimals", score := some "absent", totalmarks := some "10" }]

example : (conceptDataset Server.plain microClass).map (fun r => (r.studentId, r.conceptName, r.microassessmentScore)) =
    [(some 13, some "Fractions", some 80), (none, some "Decimals", some 75)] := by decide +kernel

end TeacherPerformance
end XpBuilder.Moodle
