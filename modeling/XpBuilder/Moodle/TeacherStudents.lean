import XpBuilder.Moodle.BaselineEndline

/-! The rows of `kpi7_baseline_endline_teacher`: one for each student with a grade in a pair
of courses and each trainer of the classroom in which the student was active last. -/

namespace XpBuilder.Moodle.BaselineEndline
open Relational
variable {S : Server} {db : Database} {w : Arrangement before}

/-! ## The students of a pair -/

theorem nodup_pairs : ((pairs S db).map (fun p => S.sortKey p.pairKey)).Nodup := by
  have keys : (selectGroups (fun c => S.sortKey c.pairKey) (coursePair S) (phaseCourses S db)).map
      (fun p => S.sortKey p.pairKey) = ((phaseCourses S db).map (fun c => S.sortKey c.pairKey)).dedup :=
    map_selectGroups (fun _ _ => rfl)
  apply (List.filter_sublist.map _).nodup
  rw [keys]
  exact List.nodup_dedup _

theorem eq_of_pairKey {p q : CoursePair} (hp : p ∈ pairs S db) (hq : q ∈ pairs S db)
    (same : S.sortKey p.pairKey = S.sortKey q.pairKey) : p = q :=
  List.inj_on_of_nodup_map nodup_pairs hp hq same

variable (S) in
def resultKey (s : StudentResult) : List Nat × Nat := (S.sortKey s.pairKey, s.userid)

/-- A result is that of a student with a grade in a course of the pair. -/
theorem mem_students {s : StudentResult} (mem : s ∈ students S db) :
    ∃ g ∈ grades S db, ∃ p ∈ pairs S db, s.userid = g.userid ∧ s.pairKey = p.pairKey ∧
      s.baselineCourse = p.baselineCourse ∧ s.endlineCourse = p.endlineCourse := by
  obtain ⟨first, there, rfl⟩ := mem_selectGroups mem
  obtain ⟨grade, pair, -⟩ := mem_join.mp there
  exact ⟨first.1, grade, first.2, pair, rfl, rfl, rfl, rfl⟩

theorem map_students : (students S db).map (fun s => (S.sortKey s.pairKey, s.baselineCourse.map S.sortKey,
    s.endlineCourse.map S.sortKey, s.userid)) =
      ((join (fun g pair => pair.has g.courseid) (grades S db) (pairs S db)).map (studentKey S)).dedup :=
  map_selectGroups (fun _ _ => rfl)

/-- The names of the courses add nothing to the key of the pair. -/
theorem nodup_students : ((students S db).map (resultKey S)).Nodup := by
  have whole := List.nodup_dedup
    ((join (fun g pair => pair.has g.courseid) (grades S db) (pairs S db)).map (studentKey S))
  rw [← map_students] at whole
  apply (Lists.nodup_map_congr _).mp whole
  intro a ha b hb
  obtain ⟨_, -, p, hp, -, key_a, base_a, end_a⟩ := mem_students ha
  obtain ⟨_, -, q, hq, -, key_b, base_b, end_b⟩ := mem_students hb
  have determined : S.sortKey a.pairKey = S.sortKey b.pairKey →
      a.baselineCourse = b.baselineCourse ∧ a.endlineCourse = b.endlineCourse := by
    intro same
    rw [key_a, key_b] at same
    have equal := eq_of_pairKey hp hq same
    rw [base_a, base_b, end_a, end_b, equal]
    exact ⟨rfl, rfl⟩
  simp only [resultKey, Prod.mk.injEq]
  constructor
  · intro same
    exact ⟨same.1, same.2.2.2⟩
  · intro same
    have names := determined same.1
    rw [names.1, names.2]
    exact ⟨same.1, rfl, rfl, same.2⟩

/-- Every grade in a course of a pair gives its student a result. -/
theorem exists_student {p : CoursePair} (pair : p ∈ pairs S db) {gi : GradeItem} (item : gi ∈ db.gradeItems)
    {gg : GradeGrade} (grade : gg ∈ db.gradeGrades) (counts : isCourseGrade S gi gg)
    (within : p.has gi.courseid) :
    ∃ s ∈ students S db, s.pairKey = p.pairKey ∧ s.userid = gg.userid := by
  have graded : ∃ g ∈ grades S db, g.courseid = gi.courseid ∧ g.userid = gg.userid := by
    have joined : (gi, gg) ∈ join (isCourseGrade S) db.gradeItems db.gradeGrades :=
      mem_join.mpr ⟨item, grade, counts⟩
    have known : (pairs S db).any (fun pair => pair.has gi.courseid) := List.any_eq_true.mpr ⟨p, pair, within⟩
    have kept : (gi, gg) ∈ (join (isCourseGrade S) db.gradeItems db.gradeGrades).filter (fun p =>
        (pairs S db).any (fun pair => pair.has p.1.courseid)) := List.mem_filter.mpr ⟨joined, known⟩
    exact ⟨_, List.mem_map_of_mem kept, rfl, rfl⟩
  obtain ⟨g, mem, course, user⟩ := graded
  have joined : (g, p) ∈ join (fun g pair => pair.has g.courseid) (grades S db) (pairs S db) := by
    apply mem_join.mpr
    exact ⟨mem, pair, by rw [course]; exact within⟩
  have key : studentKey S (g, p) ∈ (students S db).map (fun s => (S.sortKey s.pairKey,
      s.baselineCourse.map S.sortKey, s.endlineCourse.map S.sortKey, s.userid)) := by
    rw [map_students, List.mem_dedup]
    exact List.mem_map_of_mem joined
  obtain ⟨s, there, same⟩ := List.mem_map.mp key
  simp only [studentKey, Prod.mk.injEq] at same
  obtain ⟨_, -, q, hq, -, key_s, -, -⟩ := mem_students there
  have equal : q = p := by
    apply eq_of_pairKey hq pair
    rw [← key_s]
    exact same.1
  rw [equal] at key_s
  exact ⟨s, there, key_s, same.2.2.2.trans user⟩

/-! ## The trainers of a student -/

variable (db) in
/-- The memberships of a user in existing classrooms. -/
def activeIn (user : Nat) : List (ClassroomUser × Classroom) :=
  (join (fun cu cl => cu.classroomid = some cl.id) db.localClassroomUsers db.localClassroom).filter
    (fun p => p.1.userid = some user)

variable (db) in
/-- No membership of the user is later than one in the classroom. -/
def MostRecent (user : Nat) (classroom : Classroom) : Prop :=
  ∃ m ∈ activeIn db user, m.2 = classroom ∧ ∀ other ∈ activeIn db user, activity other ≤ activity m

variable (db) in
/-- The trainers of a classroom, each once. -/
def trainersOf (classroom : Classroom) : List Nat :=
  ((db.localClassroomTrainers.filter (fun t => t.classroomid = some classroom.id)).filterMap
    ClassroomTrainer.trainerid).dedup

theorem mem_memberships {user : Nat} (student : ∃ s ∈ students S db, s.userid = user)
    {m : ClassroomUser × Classroom} : m ∈ activeIn db user ↔ m ∈ memberships S db ∧ m.1.userid = some user := by
  obtain ⟨s, mem, own⟩ := student
  simp only [activeIn, memberships, List.mem_filter, Bool.and_eq_true, decide_eq_true_eq, List.any_eq_true]
  constructor
  · rintro ⟨joined, same⟩
    exact ⟨⟨joined, by simp [same], s, mem, by rw [same, own]⟩, same⟩
  · rintro ⟨⟨joined, -⟩, same⟩
    exact ⟨joined, same⟩

theorem latest_mostRecent {m : ClassroomUser × Classroom} (mem : m ∈ latest S db w) {user : Nat}
    (own : m.1.userid = some user) (student : ∃ s ∈ students S db, s.userid = user) :
    MostRecent db user m.2 := by
  have first := firstRows_first w mem
  refine ⟨m, (mem_memberships student).mpr ⟨first.1, own⟩, rfl, ?_⟩
  intro other active
  have row := (mem_memberships student).mp active
  have earlier : before m other := first.2 other row.1 (row.2.trans own.symm)
  have activities := (Prod.Lex.toLex_le_toLex.mp earlier)
  obtain less | same := activities
  · exact le_of_lt less
  · exact le_of_eq same.1

theorem classroom_of_latest {m : ClassroomUser × Classroom} (mem : m ∈ latest S db w) :
    m.1.classroomid = some m.2.id := by
  have row := (firstRows_first w mem).1
  have joined := mem_join.mp (List.mem_filter.mp row).1
  exact of_decide_eq_true joined.2.2

variable (S db w) in
/-- The rows of `teach` for a user. -/
def teachers (user : Nat) : List (Option Nat × Option Nat) := (teach S db w).filter (fun t => t.1 = some user)

theorem mem_teachers {user : Nat} {t : Option Nat} : (some user, t) ∈ teachers S db w user ↔
    ∃ m ∈ latest S db w, m.1.userid = some user ∧
      ∃ row ∈ db.localClassroomTrainers, row.classroomid = some m.2.id ∧ row.trainerid = t := by
  simp only [teachers, teach, List.mem_filter, List.mem_dedup, List.mem_map, decide_true, and_true, Prod.mk.injEq]
  constructor
  · rintro ⟨p, joined, own, trainer⟩
    obtain ⟨mem, row, on⟩ := mem_join.mp joined
    simp only [Bool.and_eq_true, decide_eq_true_eq] at on
    exact ⟨p.1, mem, own, p.2, row, on.2.trans (classroom_of_latest mem), trainer⟩
  · rintro ⟨m, mem, own, row, there, on, trainer⟩
    refine ⟨(m, row), mem_join.mpr ⟨mem, there, ?_⟩, own, trainer⟩
    have classroom := classroom_of_latest mem
    simp [on, classroom]

theorem nodup_teachers (user : Nat) : ((teachers S db w user).map Prod.snd).Nodup := by
  have pairs : ((teachers S db w user).map id).Nodup := by
    rw [List.map_id]
    exact List.filter_sublist.nodup (List.nodup_dedup _)
  apply (Lists.nodup_map_congr _).mp pairs
  intro a ha b hb
  have left : a.1 = some user := of_decide_eq_true (List.mem_filter.mp ha).2
  have right : b.1 = some user := of_decide_eq_true (List.mem_filter.mp hb).2
  simp [Prod.ext_iff, left, right]

variable (S db w) in
/-- `COALESCE(t.trainerid, 0)` in the rows of a user -/
def teacherIds (user : Nat) : List Nat :=
  (padded (teachers S db w user)).map (fun t => (t.bind Prod.snd).getD 0)

/-- The trainers of a user are those of the classroom of the user's latest membership. -/
theorem teachers_perm {m : ClassroomUser × Classroom} (mem : m ∈ latest S db w) {user : Nat}
    (own : m.1.userid = some user) (named : ∀ t ∈ db.localClassroomTrainers, ∃ n, t.trainerid = some n) :
    ((teachers S db w user).map Prod.snd).Perm ((trainersOf db m.2).map some) := by
  have distinct : ((trainersOf db m.2).map some).Nodup :=
    (List.nodup_dedup _).map (Option.some_injective _)
  apply (List.perm_ext_iff_of_nodup (nodup_teachers user) distinct).mpr
  intro t
  have left : t ∈ (teachers S db w user).map Prod.snd ↔ (some user, t) ∈ teachers S db w user := by
    rw [List.mem_map]
    constructor
    · rintro ⟨p, there, rfl⟩
      have same : p.1 = some user := of_decide_eq_true (List.mem_filter.mp there).2
      rw [← same]
      exact there
    · intro there
      exact ⟨_, there, rfl⟩
  rw [left, mem_teachers]
  simp only [trainersOf, List.mem_map, List.mem_dedup, List.mem_filterMap, List.mem_filter, decide_eq_true_eq]
  constructor
  · rintro ⟨other, latest_mem, same_user, row, there, on, trainer⟩
    have equal : other = m := firstRows_unique w latest_mem mem (same_user.trans own.symm)
    obtain ⟨n, number⟩ := named row there
    rw [equal] at on
    exact ⟨n, ⟨row, ⟨there, on⟩, number⟩, number.symm.trans trainer⟩
  · rintro ⟨n, ⟨row, ⟨there, on⟩, number⟩, rfl⟩
    exact ⟨m, mem, own, row, there, on, number⟩

/-- A student is under all the trainers of one classroom that no other is later than, or
under none where that classroom has no trainer or there is no classroom. -/
theorem teacherIds_cases {user : Nat} (student : ∃ s ∈ students S db, s.userid = user)
    (named : ∀ t ∈ db.localClassroomTrainers, ∃ n, t.trainerid = some n) :
    (∃ classroom, MostRecent db user classroom ∧ trainersOf db classroom ≠ [] ∧
      (teacherIds S db w user).Perm (trainersOf db classroom)) ∨
    (teacherIds S db w user = [0] ∧
      (activeIn db user = [] ∨ ∃ classroom, MostRecent db user classroom ∧ trainersOf db classroom = [])) := by
  by_cases active : activeIn db user = []
  · have none_left : teachers S db w user = [] := by
      apply List.eq_nil_iff_forall_not_mem.mpr
      intro t there
      have same : t.1 = some user := of_decide_eq_true (List.mem_filter.mp there).2
      have row : (some user, t.2) ∈ teachers S db w user := by
        rw [← same]
        exact there
      obtain ⟨m, mem, own, -⟩ := mem_teachers.mp row
      have inside := (mem_memberships student).mpr ⟨(firstRows_first w mem).1, own⟩
      rw [active] at inside
      cases inside
    exact .inr ⟨by simp [teacherIds, none_left, padded], .inl active⟩
  · obtain ⟨m, mem, own⟩ : ∃ m ∈ latest S db w, m.1.userid = some user := by
      obtain ⟨r, there⟩ := List.exists_mem_of_ne_nil _ active
      have row := (mem_memberships student).mp there
      obtain ⟨m, mem, same⟩ : ∃ m ∈ latest S db w, m.1.userid = r.1.userid := exists_mem_firstRows w row.1
      exact ⟨m, mem, same.trans row.2⟩
    have recent := latest_mostRecent mem own student
    have perm := teachers_perm mem own named
    by_cases trainers : trainersOf db m.2 = []
    · have none_left : teachers S db w user = [] := by
        rw [trainers, List.map_nil, List.perm_nil, List.map_eq_nil_iff] at perm
        exact perm
      exact .inr ⟨by simp [teacherIds, none_left, padded], .inr ⟨m.2, recent, trainers⟩⟩
    · have some_teacher : teachers S db w user ≠ [] := by
        intro none_left
        rw [none_left] at perm
        exact trainers (List.map_eq_nil_iff.mp perm.symm.eq_nil)
      have numbers := perm.map (fun t => t.getD 0)
      simp only [List.map_map] at numbers
      have ids : (teacherIds S db w user).Perm (trainersOf db m.2) := by
        rw [teacherIds, padded_of_ne_nil some_teacher, List.map_map]
        simpa [Function.comp_def] using numbers
      exact .inl ⟨m.2, recent, trainers, ids⟩

theorem nodup_teacherIds {user : Nat} (student : ∃ s ∈ students S db, s.userid = user)
    (named : ∀ t ∈ db.localClassroomTrainers, ∃ n, t.trainerid = some n) :
    (teacherIds S db w user).Nodup := by
  obtain ⟨classroom, -, -, perm⟩ | ⟨unassigned, -⟩ := teacherIds_cases student named
  · exact perm.nodup_iff.mpr (List.nodup_dedup _)
  · rw [unassigned]
    exact List.nodup_singleton 0

/-! ## The rows of the view -/

variable (S db) in
def withUser : List (StudentResult × User) := join (fun s u => u.id = s.userid) (students S db) db.user

variable (S db) in
/-- The row of a student and a row of `teach`. -/
def rowOf (p : (StudentResult × User) × Option (Option Nat × Option Nat)) : JoinedRow :=
  let school := db.localSchool.find? (schoolOf S p.1.2.openSchool)
  let trainer := db.user.find? (fun tu => p.2.bind Prod.snd = some tu.id)
  ((((p.1, school), p.2), trainer), db.localSchool.find? (schoolOf S (trainer.bind User.openSchool)))

theorem one_school (openSchool : Option String) : (db.localSchool.filter (schoolOf S openSchool)).length ≤ 1 := by
  apply length_filter_le_one db.schoolIds
  intro a _ b _ ha hb
  cases openSchool with
  | none => cases ha
  | some t =>
    simp only [schoolOf, Option.any_some, decide_eq_true_eq] at ha hb
    rw [ha] at hb
    exact_mod_cast hb

theorem joinedRows_eq : joinedRows S db w =
    (leftJoin (fun p t => t.1 = some p.1.userid) (withUser S db) (teach S db w)).map (rowOf S db) := by
  have trainer : ∀ t : Option Nat, (db.user.filter (fun tu => t = some tu.id)).length ≤ 1 :=
    length_filter_key_le_one db.userIds
  unfold joinedRows
  rw [leftJoin_eq_map (fun _ _ => one_school _), leftJoin_eq_map (fun _ _ => trainer _),
    leftJoin_eq_map (fun _ _ => one_school _), leftJoin_map_left, List.map_map, List.map_map]
  rfl

/-- What is read off the rows of the view without their partition. -/
theorem view_filter_map {β : Type} {q : TeacherStudentRow → Bool} {q' : JoinedRow → Bool}
    {f : TeacherStudentRow → β} {f' : JoinedRow → β} (same_q : ∀ x part, q (selectRow S x part) = q' x)
    (same_f : ∀ x part, f (selectRow S x part) = f' x) :
    ((view S db w).filter q).map f = ((joinedRows S db w).filter q').map f' := by
  unfold view overPartition
  rw [List.map_map, List.filter_map, List.map_map]
  simp only [Function.comp_def, same_q, same_f]

variable (S) in
/-- The columns that tell the rows apart. -/
def grain (r : TeacherStudentRow) : List Nat × Nat × Nat := (S.sortKey r.pairKey, r.teacherId, r.studentId)

variable (S) in
def ofStudent (p : CoursePair) (user : Nat) (r : TeacherStudentRow) : Bool :=
  S.same r.pairKey p.pairKey && r.studentId = user

variable (S) in
def sameCohort (r r' : TeacherStudentRow) : Bool := S.same r'.pairKey r.pairKey && r'.teacherId = r.teacherId

theorem graded_of_student {s : StudentResult} (mem : s ∈ students S db) :
    ∃ gg ∈ db.gradeGrades, gg.userid = s.userid := by
  obtain ⟨g, grade, -, -, user, -⟩ := mem_students mem
  obtain ⟨p, kept, rfl⟩ := List.mem_map.mp grade
  have joined := mem_join.mp (List.mem_filter.mp kept).1
  exact ⟨p.2, joined.2.1, user.symm⟩

theorem map_fst_withUser (existing : ∀ gg ∈ db.gradeGrades, ∃ u ∈ db.user, u.id = gg.userid) :
    (withUser S db).map Prod.fst = students S db := by
  have single : ∀ s ∈ students S db, (db.user.filter (fun u => u.id = s.userid)).length ≤ 1 :=
    fun s _ => length_filter_eq_le_one db.userIds s.userid
  unfold withUser
  rw [join_eq_filterMap single, List.map_filterMap]
  nth_rewrite 2 [← List.filterMap_some (l := students S db)]
  apply List.filterMap_congr
  intro s mem
  obtain ⟨gg, there, user⟩ := graded_of_student mem
  obtain ⟨u, known, id⟩ := existing gg there
  have found : (db.user.find? (fun u => u.id = s.userid)).isSome := by
    rw [List.find?_isSome]
    exact ⟨u, known, decide_eq_true (id.trans user)⟩
  obtain ⟨u', found⟩ := Option.isSome_iff_exists.mp found
  rw [found]
  rfl

theorem nodup_withUser (existing : ∀ gg ∈ db.gradeGrades, ∃ u ∈ db.user, u.id = gg.userid) :
    ((withUser S db).map (fun p => resultKey S p.1)).Nodup := by
  have keys := @nodup_students S db
  rw [← map_fst_withUser existing, List.map_map] at keys
  exact keys

theorem nodup_grain (existing : ∀ gg ∈ db.gradeGrades, ∃ u ∈ db.user, u.id = gg.userid)
    (named : ∀ t ∈ db.localClassroomTrainers, ∃ n, t.trainerid = some n) :
    ((view S db w).map (grain S)).Nodup := by
  have read : (view S db w).map (grain S) = (leftJoin (fun p t => t.1 = some p.1.userid) (withUser S db)
      (teach S db w)).map (fun p => (S.sortKey p.1.1.pairKey, (p.2.bind Prod.snd).getD 0, p.1.1.userid)) := by
    unfold view overPartition
    rw [joinedRows_eq, List.map_map, List.map_map, List.map_map]
    rfl
  rw [read]
  apply nodup_map_leftJoin (nodup_withUser existing)
  · intro p q same
    simp only [Prod.mk.injEq] at same
    exact Prod.ext same.1 same.2.2
  · intro p mem
    have student : ∃ s ∈ students S db, s.userid = p.1.userid := ⟨p.1, (mem_join.mp mem).1, rfl⟩
    have ids : (teacherIds S db w p.1.userid).Nodup := nodup_teacherIds student named
    unfold teacherIds at ids
    apply (Lists.nodup_map_congr _).mp ids
    intro a _ b _
    simp

/-- The rows of a student in a pair. -/
theorem ofStudent_teacherIds (existing : ∀ gg ∈ db.gradeGrades, ∃ u ∈ db.user, u.id = gg.userid)
    {p : CoursePair} {s : StudentResult} (mem : s ∈ students S db) (pair : s.pairKey = p.pairKey) :
    ((view S db w).filter (ofStudent S p s.userid)).map TeacherStudentRow.teacherId =
      teacherIds S db w s.userid := by
  obtain ⟨x, there, rfl⟩ : ∃ x ∈ withUser S db, x.1 = s := by
    rw [← map_fst_withUser existing] at mem
    exact List.mem_map.mp mem
  have alone : (withUser S db).filter (fun y => resultKey S y.1 = resultKey S x.1) = [x] := by
    rw [filter_eq_toList_find? (length_filter_eq_le_one (nodup_withUser existing) _),
      Lists.find?_key (fun y : StudentResult × User => resultKey S y.1) (nodup_withUser existing) there]
    rfl
  have own : ∀ (y : JoinedRow) (part : List JoinedRow), ofStudent S p x.1.userid (selectRow S y part) =
      decide (resultKey S (studentOf y) = resultKey S x.1) := by
    intro y part
    rw [Bool.eq_iff_iff]
    simp only [ofStudent, Server.same, Bool.and_eq_true, decide_eq_true_eq, resultKey, Prod.mk.injEq, pair]
    rfl
  rw [view_filter_map own (fun _ _ => rfl), joinedRows_eq, List.filter_map, List.map_map]
  have left : ((fun y => decide (resultKey S (studentOf y) = resultKey S x.1)) ∘ rowOf S db) =
      (fun y => decide (resultKey S y.1.1 = resultKey S x.1)) := rfl
  rw [left, filter_leftJoin (fun y : StudentResult × User => decide (resultKey S y.1 = resultKey S x.1)), alone,
    leftJoin, List.flatMap_singleton, List.map_map]
  rfl

theorem nodup_cohort (existing : ∀ gg ∈ db.gradeGrades, ∃ u ∈ db.user, u.id = gg.userid)
    (named : ∀ t ∈ db.localClassroomTrainers, ∃ n, t.trainerid = some n) (r : TeacherStudentRow) :
    (((view S db w).filter (sameCohort S r)).map TeacherStudentRow.studentId).Nodup := by
  have part : ((view S db w).filter (sameCohort S r)).Sublist (view S db w) := List.filter_sublist
  have whole := (part.map (grain S)).nodup (nodup_grain existing named)
  apply (Lists.nodup_map_congr _).mp whole
  intro a ha b hb
  have left := (List.mem_filter.mp ha).2
  have right := (List.mem_filter.mp hb).2
  simp only [sameCohort, Server.same, Bool.and_eq_true, decide_eq_true_eq] at left right
  simp [grain, left, right]

/-- A row counts the rows of its partition. -/
theorem teacherStudentCount_length {r : TeacherStudentRow} (mem : r ∈ view S db w) :
    r.teacherStudentCount = ((view S db w).filter (sameCohort S r)).length := by
  obtain ⟨x, count, key, teacher⟩ : ∃ x, r.teacherStudentCount =
      ((joinedRows S db w).filter (fun y => cohort S y = cohort S x)).length ∧
      r.pairKey = (studentOf x).pairKey ∧ r.teacherId = teacherIdOf x := by
    obtain ⟨y, there, rfl⟩ := List.mem_map.mp mem
    obtain ⟨x, -, rfl⟩ := List.mem_map.mp there
    refine ⟨x, ?_, ?_, ?_⟩
    · simp only [selectRow, id]
    · simp only [selectRow]
    · simp only [selectRow]
  have cohorts : ∀ y part, sameCohort S r (selectRow S y part) = decide (cohort S y = cohort S x) := by
    intro y part
    rw [Bool.eq_iff_iff]
    simp only [sameCohort, Server.same, Bool.and_eq_true, decide_eq_true_eq, cohort, Prod.mk.injEq, key, teacher]
    rfl
  have ids : ∀ y part, TeacherStudentRow.studentId (selectRow S y part) = (studentOf y).userid := fun _ _ => rfl
  have lengths := congrArg List.length (@view_filter_map S db w _ _ _ _ _ cohorts ids)
  rw [List.length_map, List.length_map] at lengths
  rw [count, lengths]

/-- The view keeps the grain of teacher and student: no row is repeated, a student with a
grade in a pair is under the trainers of one classroom that no other is later than, or
unassigned, and a teacher's students are counted once each. -/
theorem keepsGrain (S : Server) (db : Database) (w : Arrangement before)
    (trainers : ∀ t ∈ db.localClassroomTrainers, ∃ n, t.trainerid = some n ∧ 0 < n)
    (existing : ∀ gg ∈ db.gradeGrades, ∃ u ∈ db.user, u.id = gg.userid) :
    ((view S db w).map (grain S)).Nodup ∧
    (∀ p ∈ pairs S db, ∀ gi ∈ db.gradeItems, ∀ gg ∈ db.gradeGrades, isCourseGrade S gi gg → p.has gi.courseid →
      (∃ classroom, MostRecent db gg.userid classroom ∧ trainersOf db classroom ≠ [] ∧
        (((view S db w).filter (ofStudent S p gg.userid)).map TeacherStudentRow.teacherId).Perm
          (trainersOf db classroom)) ∨
      (((view S db w).filter (ofStudent S p gg.userid)).map TeacherStudentRow.teacherId = [0] ∧
        (activeIn db gg.userid = [] ∨
          ∃ classroom, MostRecent db gg.userid classroom ∧ trainersOf db classroom = []))) ∧
    ∀ r ∈ view S db w, r.teacherStudentCount =
      (((view S db w).filter (sameCohort S r)).map TeacherStudentRow.studentId).dedup.length := by
  have named : ∀ t ∈ db.localClassroomTrainers, ∃ n, t.trainerid = some n := by
    intro t mem
    obtain ⟨n, number, -⟩ := trainers t mem
    exact ⟨n, number⟩
  refine ⟨nodup_grain existing named, ?_, ?_⟩
  · intro p pair gi item gg grade counts within
    obtain ⟨s, mem, key, user⟩ := exists_student pair item grade counts within
    rw [← user, ofStudent_teacherIds existing mem key]
    exact teacherIds_cases ⟨s, mem, rfl⟩ named
  · intro r mem
    rw [(nodup_cohort existing named r).dedup, List.length_map]
    exact teacherStudentCount_length mem

/-- A student graded before and after a course, twice in a classroom of two trainers. -/
def coTaught : Database where
  user := [{ id := 5, firstname := "Asha" }, { id := 7, firstname := "Ravi" }, { id := 8, firstname := "Meena" }]
  course := [{ id := 1, fullname := "Reading Baseline" }, { id := 2, fullname := "Reading Endline" }]
  gradeItems := [{ id := 1, courseid := some 1, itemtype := "course" }, { id := 2, courseid := some 2, itemtype := "course" }]
  gradeGrades := [{ itemid := 1, userid := 5, finalgrade := some 40 }, { itemid := 2, userid := 5, finalgrade := some 75 }]
  localClassroom := [{ id := 3 }, { id := 4 }]
  localClassroomTrainers := [{ classroomid := some 3, trainerid := some 9 }, { classroomid := some 4, trainerid := some 7 },
    { classroomid := some 4, trainerid := some 8 }, { classroomid := some 4, trainerid := some 7 }]
  localClassroomUsers := [{ classroomid := some 3, userid := some 5, timemodified := some 10 },
    { classroomid := some 4, userid := some 5, timemodified := some 20 },
    { classroomid := some 4, userid := some 5, timemodified := some 20 }]

theorem keepsGrain_coTaught : ((view Server.plain coTaught (.sorting before)).map (grain Server.plain)).Nodup ∧
    ∀ r ∈ view Server.plain coTaught (.sorting before), r.teacherStudentCount =
      (((view Server.plain coTaught (.sorting before)).filter (sameCohort Server.plain r)).map
        TeacherStudentRow.studentId).dedup.length := by
  have trainers : ∀ t ∈ coTaught.localClassroomTrainers, ∃ n, t.trainerid = some n ∧ 0 < n := by simp [coTaught]
  have existing : ∀ gg ∈ coTaught.gradeGrades, ∃ u ∈ coTaught.user, u.id = gg.userid := by decide
  have kept := keepsGrain Server.plain coTaught (.sorting before) trainers existing
  exact ⟨kept.1, kept.2.2⟩

example : (view Server.plain coTaught (.sorting before)).map (fun r => (r.surveyLabel, r.teacherName, r.studentId,
    r.gainPct)) = [("reading", "Meena", 5, some 35), ("reading", "Ravi", 5, some 35)] := by
  decide +kernel

end XpBuilder.Moodle.BaselineEndline
