import XpBuilder.Library.Brackets
import XpBuilder.Library.Squeeze
import XpBuilder.Moodle.BaselineEndline
import XpBuilder.Moodle.Feedback
import XpBuilder.Moodle.TeacherStudents

/-! The view `kpi5_artefact_grades`: the graded attempts at assignments with their percentages and
the graders' comments. -/

namespace XpBuilder.Moodle.ArtefactGrades
open Relational

/-- A row of `mdl_assign_grades`. -/
structure Graded where
  id : Nat
  assignment : Nat
  userid : Nat
  grader : Nat
  timemodified : Int
  grade : Option ℚ
  deriving DecidableEq

/-- A row of `mdl_assign_submission`. -/
structure Submitted where
  assignment : Nat
  userid : Nat
  timemodified : Int
  status : Option String
  latest : Nat
  deriving DecidableEq

/-- A row of `mdl_assignfeedback_comments`. -/
structure Comment where
  grade : Nat
  commenttext : Option String
  deriving DecidableEq

structure Row where
  gradeId : Nat
  artefactId : Nat
  artefact : String
  courseId : Nat
  courseName : String
  studentId : Nat
  studentUsername : String
  studentName : String
  studentSchool : String
  submittedOn : Option Int
  gradedOn : Option Int
  grade : Option ℚ
  maxGrade : ℚ
  gradePct : Option ℚ
  graderFirstname : String
  graderName : String
  graderUsername : Option String
  feedback : String
  deriving DecidableEq

/-! ## The comment -/

/-- The chain of `REPLACE`. -/
def decode (text : List Char) : List Char :=
  Feedback.put ' ' "&nbsp;" (Feedback.put '"' "&quot;" (Feedback.put '&' "&amp;" (Feedback.put Feedback.apostrophe "&#039;" text)))

/-- `REGEXP_REPLACE(text, '<[^>]*>', ' ')` -/
def dropTags (text : List Char) : List Char := Brackets.cut '<' '>' [' '] text

def tidy (text : List Char) : List Char :=
  PythonText.stripChars (· = ' ') (Regexp.squeeze BaselineEndline.isSpace false (dropTags (decode text)))

/-- No tag, single blanks and no other white space, none of it at the ends. -/
structure Tidy (text : List Char) : Prop where
  untagged : ¬['<', '>'].Sublist text
  spaced : Regexp.Spaced BaselineEndline.isSpace text
  stripped : Regexp.Stripped (· = ' ') text

theorem tidy_tidy (text : List Char) : Tidy (tidy text) := by
  have inside := Regexp.isInfix_stripChars (· = ' ') (Regexp.squeeze BaselineEndline.isSpace false (dropTags (decode text)))
  refine ⟨fun tag => ?_, (Regexp.spaced_squeeze false _).part inside, Regexp.stripped_stripChars _ _⟩
  -- the marks of a tag are no white space, and in their order they were there before
  have marks := (tag.trans inside.sublist).filter (fun c => !BaselineEndline.isSpace c)
  rw [Regexp.filter_squeeze (by decide)] at marks
  have tag' : ['<', '>'].Sublist (dropTags (decode text)) := marks.trans List.filter_sublist
  exact Brackets.cut_apart (by decide) (by decide) (decode text) tag'

/-- The entities of the chain. -/
def decoded : List (Char × String) := [(Feedback.apostrophe, "&#039;"), ('&', "&amp;"), ('"', "&quot;"), (' ', "&nbsp;")]

theorem tidy_eq_self_iff (text : List Char) : tidy text = text ↔ Tidy text ∧
    ∀ e ∈ decoded, ¬e.2.toList <:+: text := by
  have chain : decode text = Replacement.replaceEach (decoded.map (fun e => (e.2.toList, [e.1]))) text := rfl
  have shorter : ∀ s ∈ decoded.map (fun e => (e.2.toList, [e.1])), s.2.length < s.1.length := by decide
  constructor
  · intro same
    refine ⟨same ▸ tidy_tidy text, ?_⟩
    have lengths : text.length ≤ (decode text).length :=
      calc text.length = (tidy text).length := by rw [same]
        _ ≤ (Regexp.squeeze BaselineEndline.isSpace false (dropTags (decode text))).length :=
          (Regexp.isInfix_stripChars _ _).length_le
        _ ≤ (dropTags (decode text)).length := Regexp.length_squeeze_le _ _
        _ ≤ (decode text).length := Brackets.length_cut_le (by decide) _
    rw [chain] at lengths
    have absent := Replacement.not_infix_of_length shorter lengths
    rwa [List.forall_mem_map] at absent
  · rintro ⟨⟨untagged, spaced, stripped⟩, absent⟩
    have kept : decode text = text := by
      rw [chain, Replacement.replaceEach_eq_self_iff shorter, List.forall_mem_map]
      exact absent
    rw [tidy, kept, dropTags, (Brackets.cut_eq_self_iff (by decide) text).mpr untagged,
      (Regexp.squeeze_eq_self_iff text).mpr spaced, Regexp.stripChars_of_stripped stripped]

/-- Whatever the comment, its text is tidy; and it is the comment itself exactly where the comment is tidy and has none of
the entities. -/
theorem feedback_tidy (text : List Char) :
    Tidy (tidy text) ∧ (tidy text = text ↔ Tidy text ∧ ∀ e ∈ decoded, ¬e.2.toList <:+: text) :=
  ⟨tidy_tidy text, tidy_eq_self_iff text⟩

/-- An entity of an entity is taken back twice. -/
example : tidy "<p>1 &amp;quot; tall,\n2 wide </p>".toList = "1 \" tall, 2 wide".toList := by decide +kernel

/-! ## The view -/

section
variable (S : Server) (db : Database) (grades : List Graded) (submissions : List Submitted) (comments : List Comment)

/-- `sub.latest = 1 AND sub.status = 'submitted'` for the assignment and the user of the grade -/
def isLatest (g : Graded) (sub : Submitted) : Bool :=
  sub.assignment = g.assignment && sub.userid = g.userid && sub.latest = 1 &&
    sub.status.any (fun s => S.same s "submitted")

/-- `(((grade, assignment), course), user), grader), school` -/
abbrev Known := ((((Graded × Assign) × Course) × User) × Option User) × Option School

def known : List Known :=
  let withCourse := join (fun p c => c.id = p.2.course) (join (fun g a => a.id = g.assignment) grades db.assign) db.course
  let withUser := join (fun p u => u.id = p.1.1.userid) withCourse db.user
  leftJoin (fun p s => BaselineEndline.schoolOf S p.1.2.openSchool s)
    (leftJoin (fun p g => g.id = p.1.1.1.grader) withUser db.user) db.localSchool

def Known.graded (k : Known) : Graded := k.1.1.1.1.1

def row (k : Known) (sub : Option Submitted) (afc : Option Comment) : Row :=
  let g := k.graded
  let a := k.1.1.1.1.2
  let c := k.1.1.1.2
  let u := k.1.1.2
  let grader := k.1.2
  { gradeId := g.id
    artefactId := a.id
    artefact := a.name
    courseId := c.id
    courseName := c.fullname
    studentId := g.userid
    studentUsername := u.username
    studentName := BaselineEndline.trimmedName (some u)
    studentSchool := (k.2.bind School.schoolName).getD "(not set)"
    submittedOn := S.date (sub.map Submitted.timemodified)
    gradedOn := S.date (some g.timemodified)
    grade := g.grade.map (roundTo 2)
    maxGrade := roundTo 2 a.grade
    gradePct := (g.grade.bind (fun x => S.divide (100 * x) a.grade)).map (roundTo 1)
    graderFirstname := (grader.map User.firstname).getD ""
    graderName := BaselineEndline.trimmedName grader
    graderUsername := grader.map User.username
    feedback := String.ofList (tidy (((afc.bind Comment.commenttext).getD "").toList)) }

/-- `kpi5_artefact_grades` -/
def view : List Row :=
  let withSubmission := leftJoin (fun k sub => isLatest S k.graded sub) (known S db grades) submissions
  let withComment := leftJoin (fun p afc => afc.grade = p.1.graded.id) withSubmission comments
  (withComment.filter (fun p => p.1.1.graded.grade.any (0 ≤ ·))).map (fun p => row S p.1.1 p.1.2 p.2)

/-! ## The rows of a grade -/

/-- What the joins on primary keys find for a grade. -/
def found (g : Graded) : Option Known :=
  (db.assign.find? (fun a => a.id = g.assignment)).bind (fun a =>
    (db.course.find? (fun c => c.id = a.course)).bind (fun c =>
      (db.user.find? (fun u => u.id = g.userid)).map (fun u =>
        (((((g, a), c), u), db.user.find? (fun x => x.id = g.grader)),
          db.localSchool.find? (BaselineEndline.schoolOf S u.openSchool)))))

theorem known_eq : known S db grades = grades.filterMap (found S db) := by
  have assign : ∀ g ∈ grades, (db.assign.filter (fun a => a.id = g.assignment)).length ≤ 1 :=
    fun g _ => length_filter_eq_le_one db.assignIds g.assignment
  have course : ∀ i, (db.course.filter (fun c => c.id = i)).length ≤ 1 := length_filter_eq_le_one db.courseIds
  have user : ∀ i, (db.user.filter (fun u => u.id = i)).length ≤ 1 := length_filter_eq_le_one db.userIds
  unfold known
  rw [leftJoin_eq_map (fun _ _ => BaselineEndline.one_school _), leftJoin_eq_map (fun _ _ => user _),
    join_eq_filterMap (fun _ _ => user _), join_eq_filterMap (fun _ _ => course _), join_eq_filterMap assign,
    List.filterMap_filterMap, List.filterMap_filterMap, List.map_filterMap, List.map_filterMap]
  apply List.filterMap_congr
  intro g _
  unfold found
  cases db.assign.find? (fun a => a.id = g.assignment) with
  | none => rfl
  | some a =>
    dsimp only [Option.map_some, Option.bind_some]
    cases db.course.find? (fun c => c.id = a.course) with
    | none => rfl
    | some c =>
      dsimp only [Option.map_some, Option.bind_some]
      cases db.user.find? (fun u => u.id = g.userid) <;> rfl

theorem graded_of_found {g : Graded} {k : Known} (there : found S db g = some k) : k.graded = g := by
  unfold found at there
  obtain ⟨a, -, there⟩ := Option.bind_eq_some_iff.mp there
  obtain ⟨c, -, there⟩ := Option.bind_eq_some_iff.mp there
  obtain ⟨u, -, rfl⟩ := Option.map_eq_some_iff.mp there
  rfl

/-- The rows of a grade: one for each of its latest submissions, or one without, and for each of its comments, or one
without. -/
def rowsOf (g : Graded) : List Row :=
  if g.grade.any (0 ≤ ·) then
    (found S db g).toList.flatMap (fun k =>
      (padded (submissions.filter (isLatest S g))).flatMap (fun sub =>
        (padded (comments.filter (fun afc => afc.grade = g.id))).map (row S k sub)))
  else []

theorem view_eq : view S db grades submissions comments = grades.flatMap (rowsOf S db submissions comments) := by
  let rows (k : Known) : List Row := (padded (submissions.filter (isLatest S k.graded))).flatMap (fun sub =>
    (padded (comments.filter (fun afc => afc.grade = k.graded.id))).map (row S k sub))
  have joined (ks : List Known) : (leftJoin (fun p afc => afc.grade = p.1.graded.id)
      (leftJoin (fun k sub => isLatest S k.graded sub) ks submissions) comments).map (fun p => row S p.1.1 p.1.2 p.2) =
      ks.flatMap rows := by
    unfold leftJoin
    rw [List.map_flatMap, List.flatMap_assoc]
    congr 1
    funext k
    rw [List.flatMap_map]
    congr 1
    funext sub
    rw [List.map_map]
    rfl
  unfold view
  dsimp only
  rw [filter_leftJoin (fun p : Known × Option Submitted => p.1.graded.grade.any (0 ≤ ·)),
    filter_leftJoin (fun k : Known => k.graded.grade.any (0 ≤ ·)), joined, known_eq]
  induction grades with
  | nil => rfl
  | cons g rest ih =>
    rw [List.flatMap_cons, ← ih, List.filterMap_cons]
    cases there : found S db g with
    | none =>
      have none_left : rowsOf S db submissions comments g = [] := by
        rw [rowsOf, there]
        split_ifs <;> rfl
      rw [none_left, List.nil_append]
    | some k =>
      have same : k.graded = g := graded_of_found S db there
      dsimp only
      by_cases shown : g.grade.any (0 ≤ ·) = true
      · have own : rowsOf S db submissions comments g = rows k := by
          rw [rowsOf, if_pos shown, there, Option.toList_some, List.flatMap_singleton, ← same]
        rw [List.filter_cons_of_pos (by rwa [same]), List.flatMap_cons, own]
      · have own : rowsOf S db submissions comments g = [] := by rw [rowsOf, if_neg shown]
        rw [List.filter_cons_of_neg (by rwa [same]), own, List.nil_append]

/-- Whether a grade is listed at all. -/
def isListed (g : Graded) : Bool := g.grade.any (0 ≤ ·) && (found S db g).isSome

theorem length_rowsOf (g : Graded) : (rowsOf S db submissions comments g).length =
    if isListed S db g then
      max 1 (submissions.filter (isLatest S g)).length * max 1 (comments.filter (fun afc => afc.grade = g.id)).length
    else 0 := by
  unfold rowsOf isListed
  cases found S db g with
  | none =>
    rw [Option.isSome_none, Bool.and_false, if_neg Bool.false_ne_true]
    split_ifs <;> rfl
  | some k =>
    by_cases shown : g.grade.any (0 ≤ ·) = true
    · rw [if_pos shown, if_pos (by simp [shown]), Option.toList_some, List.flatMap_singleton, List.length_flatMap]
      simp only [List.length_map, length_padded]
      rw [List.map_const', List.sum_replicate_nat, length_padded]
    · rw [if_neg shown, if_neg (by simp [shown])]
      rfl

theorem mem_rowsOf {g : Graded} {r : Row} (mem : r ∈ rowsOf S db submissions comments g) : ∃ k sub afc,
    found S db g = some k ∧ sub ∈ padded (submissions.filter (isLatest S g)) ∧ r = row S k sub afc := by
  unfold rowsOf at mem
  split_ifs at mem
  · obtain ⟨k, there, mem⟩ := List.mem_flatMap.mp mem
    obtain ⟨sub, latest, mem⟩ := List.mem_flatMap.mp mem
    obtain ⟨afc, -, rfl⟩ := List.mem_map.mp mem
    exact ⟨k, sub, afc, Option.mem_toList.mp there, latest, rfl⟩
  · cases mem

theorem gradeId_of_mem {g : Graded} {r : Row} (mem : r ∈ rowsOf S db submissions comments g) : r.gradeId = g.id := by
  obtain ⟨k, sub, afc, there, -, rfl⟩ := mem_rowsOf S db submissions comments mem
  exact congrArg Graded.id (graded_of_found S db there)

/-- The rows of a grade by its id. -/
theorem filter_view (ids : (grades.map Graded.id).Nodup) {g : Graded} (mem : g ∈ grades) :
    (view S db grades submissions comments).filter (fun r => r.gradeId = g.id) =
    rowsOf S db submissions comments g := by
  rw [view_eq]
  exact filter_flatMap_of_key (fun _ _ _ there => gradeId_of_mem S db submissions comments there) ids mem

/-- The rows of a grade are counted by its latest submissions and its comments, and each shows the date of a latest
submission, whichever attempt was graded. -/
theorem artefacts_counted (ids : (grades.map Graded.id).Nodup) {g : Graded} (mem : g ∈ grades) :
    ((view S db grades submissions comments).filter (fun r => r.gradeId = g.id)).length =
      (if isListed S db g then
        max 1 (submissions.filter (isLatest S g)).length * max 1 (comments.filter (fun afc => afc.grade = g.id)).length
      else 0) ∧
    ∀ r ∈ view S db grades submissions comments, r.gradeId = g.id →
      ∃ sub ∈ padded (submissions.filter (isLatest S g)), r.submittedOn = S.date (sub.map Submitted.timemodified) := by
  have rows := filter_view S db grades submissions comments ids mem
  refine ⟨by rw [rows, length_rowsOf], fun r there same => ?_⟩
  have own : r ∈ rowsOf S db submissions comments g := by
    rw [← rows]
    exact List.mem_filter.mpr ⟨there, decide_eq_true same⟩
  obtain ⟨k, sub, afc, -, latest, rfl⟩ := mem_rowsOf S db submissions comments own
  exact ⟨sub, latest, rfl⟩

end

/-! Two graded attempts at an essay. -/

def essay : Database where
  assign := [⟨15, 12, "Essay", 50⟩]
  course := [{ id := 12, fullname := "Composition" }]
  user := [{ id := 33, username := "learner" }, { id := 39, username := "marker" }]

def essayGrades : List Graded := [⟨1, 15, 33, 39, 170000, some 20⟩, ⟨2, 15, 33, 39, 350000, some 45⟩]

def essaySubmissions : List Submitted := [⟨15, 33, 90000, some "submitted", 0⟩, ⟨15, 33, 260000, some "submitted", 1⟩]

def essayComments : List Comment := [⟨2, some "<p>Better</p>"⟩]

/-- The first attempt is shown with the date of the second. -/
theorem artefacts_counted_essay :
    ((view .plain essay essayGrades essaySubmissions essayComments).filter (fun r => r.gradeId = 1)).length = 1 ∧
    ∀ r ∈ view .plain essay essayGrades essaySubmissions essayComments, r.gradeId = 1 → r.submittedOn = some 3 := by
  have first : essayGrades.head (by decide) ∈ essayGrades := List.head_mem _
  obtain ⟨count, dates⟩ := artefacts_counted .plain essay essayGrades essaySubmissions essayComments (by decide) first
  refine ⟨count.trans (by decide +kernel), fun r there same => ?_⟩
  obtain ⟨sub, latest, date⟩ := dates r there same
  have only : padded (essaySubmissions.filter (isLatest .plain (essayGrades.head (by decide)))) =
      [some ⟨15, 33, 260000, some "submitted", 1⟩] := by decide +kernel
  rw [only, List.mem_singleton] at latest
  rw [date, latest]
  decide

end XpBuilder.Moodle.ArtefactGrades
