import XpBuilder.Library.RegexpWords
import XpBuilder.Moodle.BaselineEndline

/-! Which courses the view pairs. Two names that differ in the phase alone should get one key and
both phases, and the names of a pair should be those of the courses whose grades it shows. Both
depend on the names: four patterns spell the phases differently, and the id and the name of a
course are picked apart from each other. -/

namespace XpBuilder.Moodle.BaselineEndline
open Relational Regexp

/-! ## The phase keywords -/

inductive Keyword where
  | line | session | survey | assessment
  deriving DecidableEq, Repr

namespace Keyword

/-- The spellings before, as the normaliser knows them. -/
def before : Keyword → List String
  | .line => ["baseline"]
  | .session => ["pre-session", "pre_session", "pre session"]
  | .survey => ["presurvey", "pre-survey", "pre_survey", "pre survey"]
  | .assessment => ["preassessment", "pre_assessment"]

def after : Keyword → List String
  | .line => ["endline"]
  | .session => ["post-session", "post_session", "post session"]
  | .survey => ["postsurvey", "post-survey", "post_survey", "post survey"]
  | .assessment => ["postassessment", "post_assessment"]

end Keyword

/-- Names that are the same but for a keyword, before the phase in one and after it in the other. -/
structure Twins (S : Server) (c d : Course) (keyword : Keyword) (front : List Char) (k k' : String) (behind : List Char) :
    Prop where
  before : k ∈ keyword.before
  after : k' ∈ keyword.after
  name : (S.lower c.fullname).toList = front ++ (k.toList ++ behind)
  name' : (S.lower d.fullname).toList = front ++ (k'.toList ++ behind)

/-! ## Marked names -/

def tag : List Char := "<ph>".toList

/-- The three replacements of the keywords. -/
def marked (name : List Char) : List Char :=
  replaceFrom afterForms tag 0 (replaceFrom beforeForms tag 0 (replaceFrom baselineOrEndline tag 0 name))

theorem pairKey_eq (S : Server) (fullname : String) :
    pairKey S fullname = trim (String.ofList (squeeze isSpace false (marked (S.lower fullname).toList))) := by
  unfold pairKey marked replace
  simp only [String.toList_ofList]
  rfl

/-- No pattern of the normaliser knows the text but for one. -/
def untouched (p : Pattern) (k : List Char) : Bool :=
  apartLeft [] (words p) k && apartRight (words p) k && (replaceFrom p tag 0 k = k)

/-- The text is a word of the pattern that no other is like. -/
def unmistakable (p : Pattern) (k : List Char) : Bool :=
  k ≠ [] && (words p).contains k && (words p).all (fun v => !(v.isPrefixOf k || k.isPrefixOf v) || v = k)

section
variable {p : Pattern} {a k s : List Char}

theorem replaceFrom_untouched (kept : untouched p k) :
    replaceFrom p tag 0 (a ++ (k ++ s)) = replaceFrom p tag 0 a ++ (k ++ replaceFrom p tag 0 s) := by
  simp only [untouched, Bool.and_eq_true, decide_eq_true_eq] at kept
  exact replaceFrom_around kept.1.1 kept.1.2 kept.2

theorem replaceFrom_unmistakable (known : unmistakable p k) (apart : ¬Across (words p) a (k ++ s)) :
    replaceFrom p tag 0 (a ++ (k ++ s)) = replaceFrom p tag 0 a ++ (tag ++ replaceFrom p tag 0 s) := by
  simp only [unmistakable, Bool.and_eq_true, decide_eq_true_eq, List.contains_iff_mem, List.all_eq_true, Bool.or_eq_true,
    Bool.not_eq_true', Bool.or_eq_false_iff] at known
  obtain ⟨⟨some, word⟩, only⟩ := known
  rw [replaceFrom_append apart (Nat.zero_le _)]
  have here : replaceFrom p tag 0 (k ++ s) = tag ++ replaceFrom p tag 0 s := by
    apply replaceFrom_word word some
    intro v mem like
    rcases only v mem with other | same
    · rw [← Bool.not_eq_true, ← Bool.not_eq_true, List.isPrefixOf_iff_prefix, List.isPrefixOf_iff_prefix] at other
      exact absurd like (by simp [other.1, other.2])
    · exact same
  rw [here]

end

/-- A keyword before the phase, with what it is written in the second replacement. -/
theorem marked_before {a k s : List Char} (first : untouched baselineOrEndline k) (known : unmistakable beforeForms k)
    (apart : ¬Across (words beforeForms) (replaceFrom baselineOrEndline tag 0 a)
      (k ++ replaceFrom baselineOrEndline tag 0 s)) :
    marked (a ++ (k ++ s)) = marked a ++ (tag ++ marked s) := by
  have last : untouched afterForms tag := by decide +kernel
  unfold marked
  rw [replaceFrom_untouched first, replaceFrom_unmistakable known apart, replaceFrom_untouched last]

/-- A keyword after it, which is replaced in the third place. -/
theorem marked_after {a k s : List Char} (first : untouched baselineOrEndline k) (second : untouched beforeForms k)
    (known : unmistakable afterForms k)
    (apart : ¬Across (words afterForms) (replaceFrom beforeForms tag 0 (replaceFrom baselineOrEndline tag 0 a))
      (k ++ replaceFrom beforeForms tag 0 (replaceFrom baselineOrEndline tag 0 s))) :
    marked (a ++ (k ++ s)) = marked a ++ (tag ++ marked s) := by
  unfold marked
  rw [replaceFrom_untouched first, replaceFrom_untouched second, replaceFrom_unmistakable known apart]

/-- What has been replaced in the first place stays, whatever is on its sides. -/
theorem marked_line {a s : List Char} :
    replaceFrom afterForms tag 0 (replaceFrom beforeForms tag 0
      (replaceFrom baselineOrEndline tag 0 a ++ (tag ++ replaceFrom baselineOrEndline tag 0 s))) =
      marked a ++ (tag ++ marked s) := by
  have second : untouched beforeForms tag := by decide +kernel
  have last : untouched afterForms tag := by decide +kernel
  unfold marked
  rw [replaceFrom_untouched second, replaceFrom_untouched last]

/-- A text that ends in an underscore only if it did before. -/
theorem no_underscore {p : Pattern} {a : List Char} (free : ¬['_'] <:+ a) : ¬['_'] <:+ replaceFrom p tag 0 a := by
  have ends : ∀ {cs : List Char}, ['_'] <:+ cs ↔ cs.getLast? = some '_' := by
    intro cs
    rw [List.singleton_suffix_iff_getLast?_eq_some]
  rw [ends] at free ⊢
  intro last
  rcases getLast?_replaceFrom (by decide) last with own | own
  · exact free own
  · exact absurd own (by decide)

/-! ## One key for both -/

def markedBefore (but k : List Char) : Bool :=
  untouched baselineOrEndline k && unmistakable beforeForms k && apartLeft but (words beforeForms) k

def markedAfter (but k : List Char) : Bool :=
  untouched baselineOrEndline k && untouched beforeForms k && unmistakable afterForms k && apartLeft but (words afterForms) k

theorem marked_of_before {but a k : List Char} (known : markedBefore but k) (free : but ≠ [] → but = ['_'] ∧ ¬['_'] <:+ a)
    (s : List Char) : marked (a ++ (k ++ s)) = marked a ++ (tag ++ marked s) := by
  simp only [markedBefore, Bool.and_eq_true] at known
  refine marked_before known.1.1 known.1.2 (not_across_left known.2 (fun some => ?_) _)
  rw [(free some).1]
  exact no_underscore (free some).2

theorem marked_of_after {but a k : List Char} (known : markedAfter but k) (free : but ≠ [] → but = ['_'] ∧ ¬['_'] <:+ a)
    (s : List Char) : marked (a ++ (k ++ s)) = marked a ++ (tag ++ marked s) := by
  simp only [markedAfter, Bool.and_eq_true] at known
  refine marked_after known.1.1.1 known.1.1.2 known.1.2 (not_across_left known.2 (fun some => ?_) _)
  rw [(free some).1]
  exact no_underscore (no_underscore (free some).2)

theorem sessions_marked : (∀ k ∈ Keyword.session.before ++ Keyword.assessment.before, markedBefore [] k.toList) ∧
    ∀ k ∈ Keyword.session.after ++ Keyword.assessment.after, markedAfter [] k.toList := by decide +kernel

theorem surveys_marked : (∀ k ∈ Keyword.survey.before, markedBefore ['_'] k.toList ∧ markedBefore [] ('_' :: k.toList)) ∧
    ∀ k ∈ Keyword.survey.after, markedAfter ['_'] k.toList ∧ markedAfter [] ('_' :: k.toList) := by decide +kernel

/-- Both keywords of a session, a survey or an assessment are marked alike, with the underscore
before a survey. -/
theorem marked_twins {keyword : Keyword} (other : keyword ≠ .line) (a s : List Char) :
    ∃ b, (∀ k ∈ keyword.before, marked (a ++ (k.toList ++ s)) = marked b ++ (tag ++ marked s)) ∧
      ∀ k ∈ keyword.after, marked (a ++ (k.toList ++ s)) = marked b ++ (tag ++ marked s) := by
  have none : ([] : List Char) ≠ [] → ([] : List Char) = ['_'] ∧ ¬['_'] <:+ a := fun some => absurd rfl some
  cases keyword with
  | line => exact absurd rfl other
  | session =>
    refine ⟨a, fun k mem => ?_, fun k mem => ?_⟩
    · exact marked_of_before (sessions_marked.1 k (List.mem_append_left _ mem)) none s
    · exact marked_of_after (sessions_marked.2 k (List.mem_append_left _ mem)) none s
  | assessment =>
    refine ⟨a, fun k mem => ?_, fun k mem => ?_⟩
    · exact marked_of_before (sessions_marked.1 k (List.mem_append_right _ mem)) none s
    · exact marked_of_after (sessions_marked.2 k (List.mem_append_right _ mem)) none s
  | survey =>
    by_cases underscore : ['_'] <:+ a
    · obtain ⟨b, rfl⟩ := underscore
      have split : ∀ k : String, b ++ ['_'] ++ (k.toList ++ s) = b ++ (('_' :: k.toList) ++ s) := by
        intro k
        simp
      refine ⟨b, fun k mem => ?_, fun k mem => ?_⟩
      · rw [split]
        exact marked_of_before (surveys_marked.1 k mem).2 (fun some => absurd rfl some) s
      · rw [split]
        exact marked_of_after (surveys_marked.2 k mem).2 (fun some => absurd rfl some) s
    · refine ⟨a, fun k mem => ?_, fun k mem => ?_⟩
      · exact marked_of_before (surveys_marked.1 k mem).1 (fun _ => ⟨rfl, underscore⟩) s
      · exact marked_of_after (surveys_marked.2 k mem).1 (fun _ => ⟨rfl, underscore⟩) s

theorem marked_baseline (a s : List Char) : marked (a ++ ("baseline".toList ++ s)) = marked a ++ (tag ++ marked s) := by
  have known : unmistakable baselineOrEndline "baseline".toList := by decide +kernel
  have apart : apartLeft [] (words baselineOrEndline) "baseline".toList := by decide +kernel
  rw [← marked_line, marked, replaceFrom_unmistakable known (not_across_left apart (fun some => absurd rfl some) s)]

/-- The normaliser gets to the keyword as such. -/
theorem marked_endline {a s : List Char} (reached : overhang baselineOrEndline 0 a ("endline".toList ++ s) = 0) :
    marked (a ++ ("endline".toList ++ s)) = marked a ++ (tag ++ marked s) := by
  have known : unmistakable baselineOrEndline "endline".toList := by decide +kernel
  have apart : ¬Across (words baselineOrEndline) [] ("endline".toList ++ s) := by
    rintro ⟨x, y, -, some, -, behind, -⟩
    exact some (List.suffix_nil.mp behind)
  have here : replaceFrom baselineOrEndline tag 0 ("endline".toList ++ s) =
      tag ++ replaceFrom baselineOrEndline tag 0 s := replaceFrom_unmistakable known apart
  rw [← marked_line, marked, replaceFrom_of_overhang reached, here]

/-! ## Two keys where a word begins before the keyword -/

/-- Of the words of the first replacement only the last letter can be the first of `endline`. -/
theorem across_endline {x y s : List Char} (word : x ++ y ∈ words baselineOrEndline) (some_x : x ≠ []) (some_y : y ≠ [])
    (front : y <+: "endline".toList ++ s) : y = ['e'] ∧ (x = "baselin".toList ∨ x = "endlin".toList) := by
  have table : (words baselineOrEndline).all (fun w => (List.range w.length).all (fun i =>
      i = 0 || (w.drop i = ['e'] && (w.take i = "baselin".toList || w.take i = "endlin".toList)) ||
        !((w.drop i).isPrefixOf "endline".toList || "endline".toList.isPrefixOf (w.drop i)))) := by decide +kernel
  have positive := List.length_pos_of_ne_nil some_x
  have positive' := List.length_pos_of_ne_nil some_y
  rw [List.all_eq_true] at table
  have here := table _ word
  rw [List.all_eq_true] at here
  have seam := here x.length (by rw [List.mem_range, List.length_append]; omega)
  rw [List.drop_left, List.take_left] at seam
  simp only [Bool.or_eq_true, Bool.and_eq_true, decide_eq_true_eq] at seam
  rcases seam with (empty | same) | other
  · omega
  · exact same
  · rw [Bool.not_eq_true', Bool.or_eq_false_iff, ← Bool.not_eq_true, ← Bool.not_eq_true, List.isPrefixOf_iff_prefix,
      List.isPrefixOf_iff_prefix] at other
    rcases List.prefix_or_prefix_of_prefix front (List.prefix_append _ s) with short | long
    · exact absurd short other.1
    · exact absurd long other.2

/-- The marked names differ in a letter after a common beginning. -/
theorem marked_apart {a s : List Char} (hangs : overhang baselineOrEndline 0 a ("endline".toList ++ s) ≠ 0)
    (plain : ¬occurs baselineForms (a ++ ("endline".toList ++ s))) :
    ∃ b u v, marked (a ++ ("baseline".toList ++ s)) = b ++ 'e' :: u ∧ marked (a ++ ("endline".toList ++ s)) = b ++ '<' :: v := by
  obtain ⟨a₀, x, y, rfl, -, some_x, some_y, word, front, left, both⟩ :=
    exists_across tag (Nat.zero_le _) hangs
  obtain ⟨rfl, rfl | rfl⟩ := across_endline word some_x some_y front
  · -- the name after the phase would say baseline
    refine absurd ((occurs_iff _ _).mpr ⟨"baseline".toList, by decide +kernel, ?_⟩) plain
    exact ⟨a₀, "ndline".toList ++ s, by simp⟩
  · have known : unmistakable baselineOrEndline "baseline".toList := by decide +kernel
    have apart : apartLeft [] (words baselineOrEndline) "baseline".toList := by decide +kernel
    have bare : replaceFrom baselineOrEndline tag 0 "endlin".toList = "endlin".toList := by decide +kernel
    have second : untouched beforeForms "endlin".toList := by decide +kernel
    have last : untouched afterForms "endlin".toList := by decide +kernel
    have secondTag : untouched beforeForms tag := by decide +kernel
    have lastTag : untouched afterForms tag := by decide +kernel
    have early : marked (a₀ ++ "endlin".toList ++ ("baseline".toList ++ s)) = marked a₀ ++ ("endlin".toList ++
        replaceFrom afterForms tag 0 (replaceFrom beforeForms tag 0 (tag ++ replaceFrom baselineOrEndline tag 0 s))) := by
      rw [marked, replaceFrom_unmistakable known (not_across_left apart (fun some => absurd rfl some) s), left, bare,
        List.append_assoc, replaceFrom_untouched second, replaceFrom_untouched last]
      rfl
    have late : marked (a₀ ++ "endlin".toList ++ ("endline".toList ++ s)) = marked a₀ ++ (tag ++ replaceFrom afterForms tag 0
        (replaceFrom beforeForms tag 0 (replaceFrom baselineOrEndline tag ['e'].length ("endline".toList ++ s)))) := by
      rw [marked, both, replaceFrom_untouched secondTag, replaceFrom_untouched lastTag]
      rfl
    exact ⟨marked a₀, "ndlin".toList ++ _, "ph>".toList ++ _, early, late⟩

theorem squeeze_append {q : Char → Bool} {c : Char} (solid : q c = false) (inRun : Bool) (a u : List Char) :
    squeeze q inRun (a ++ c :: u) = squeeze q inRun a ++ c :: squeeze q false u := by
  induction a generalizing inRun with
  | nil => simp [squeeze, solid]
  | cons d rest ih =>
    rw [List.cons_append, squeeze, squeeze]
    split_ifs <;> simp [ih]

theorem dropWhile_append {q : Char → Bool} {c : Char} (solid : q c = false) (a u : List Char) :
    (a ++ c :: u).dropWhile q = a.dropWhile q ++ c :: u := by
  induction a with
  | nil => simp [solid]
  | cons d rest ih =>
    rw [List.cons_append, List.dropWhile_cons, List.dropWhile_cons, ih]
    split_ifs <;> rfl

theorem stripChars_append {q : Char → Bool} {c : Char} (solid : q c = false) (a u : List Char) :
    PythonText.stripChars q (a ++ c :: u) = a.dropWhile q ++ c :: (u.reverse.dropWhile q).reverse := by
  unfold PythonText.stripChars
  rw [dropWhile_append solid, List.reverse_append, List.reverse_cons, List.append_assoc, List.singleton_append,
    dropWhile_append solid]
  simp

/-- A letter that is not a blank stays, with the same before it. -/
theorem exists_trim_squeeze (b : List Char) :
    ∃ b', ∀ c, isSpace c = false → c ≠ ' ' → ∀ u, ∃ u',
      trim (String.ofList (squeeze isSpace false (b ++ c :: u))) = String.ofList (b' ++ c :: u') := by
  refine ⟨(squeeze isSpace false b).dropWhile (fun c => c = ' '), fun c solid notBlank u => ?_⟩
  unfold trim
  simp only [String.toList_ofList, squeeze_append solid]
  rw [stripChars_append (by simpa using notBlank)]
  exact ⟨_, rfl⟩

/-- The collation tells texts apart that go on with the letter e and with the sign `<`. -/
def TellsApart (S : Server) : Prop :=
  ∀ b u v, S.sortKey (String.ofList (b ++ 'e' :: u)) ≠ S.sortKey (String.ofList (b ++ '<' :: v))

section
variable {S : Server} {c d : Course} {keyword : Keyword} {front behind : List Char} {k k' : String}

/-- Twins have one key but where the normaliser does not get to the keyword. -/
theorem pairKey_eq_iff (apart : TellsApart S) (twins : Twins S c d keyword front k k' behind)
    (plain : ¬occurs baselineForms (front ++ (k'.toList ++ behind))) :
    S.sortKey (pairKey S c.fullname) = S.sortKey (pairKey S d.fullname) ↔
      (keyword = .line → overhang baselineOrEndline 0 front (k'.toList ++ behind) = 0) := by
  rw [pairKey_eq, pairKey_eq, twins.name, twins.name']
  by_cases line : keyword = .line
  · have before : k = "baseline" := by
      have mem := twins.before
      rw [line] at mem
      exact List.mem_singleton.mp mem
    have after : k' = "endline" := by
      have mem := twins.after
      rw [line] at mem
      exact List.mem_singleton.mp mem
    subst before after
    constructor
    · intro same _
      by_contra hangs
      obtain ⟨b, u, v, early, late⟩ := marked_apart hangs plain
      obtain ⟨b', kept⟩ := exists_trim_squeeze b
      obtain ⟨u', letter⟩ := kept 'e' (by decide) (by decide) u
      obtain ⟨v', sign⟩ := kept '<' (by decide) (by decide) v
      rw [early, late, letter, sign] at same
      exact apart b' u' v' same
    · intro reached
      rw [marked_baseline, marked_endline (reached line)]
  · obtain ⟨b, before, after⟩ := marked_twins line front behind
    rw [before k twins.before, after k' twins.after]
    simp [line]

end

/-! ## Which twins are paired -/

variable (S : Server) (db : Database)

/-- A course in `crs`. -/
def phaseCourse (c : Course) : PhaseCourse where
  courseId := c.id
  fullname := c.fullname
  pairKey := pairKey S c.fullname
  phase := if occurs baselineForms (S.lower c.fullname).toList then .baseline else .endline

def isPhaseCourse (c : Course) : Bool := occurs phaseForms (S.lower c.fullname).toList

/-- The courses are one pair, `c` before and `d` after. -/
structure Paired (c d : Course) : Prop where
  before : isPhaseCourse S c ∧ (phaseCourse S c).phase = .baseline
  after : isPhaseCourse S d ∧ (phaseCourse S d).phase = .endline
  key : S.sortKey (pairKey S c.fullname) = S.sortKey (pairKey S d.fullname)
  emitted : ∃ pair ∈ pairs S db, S.sortKey pair.pairKey = S.sortKey (pairKey S c.fullname)

/-- The patterns agree on the keyword: the survey before is written without a separator, some other
phase selects the assessment, nothing else in the names says before, and the normaliser gets to
the keyword. -/
structure Agreed (keyword : Keyword) (front : List Char) (k k' : String) (behind : List Char) : Prop where
  known : keyword = .survey → k = "presurvey"
  selected : keyword = .assessment → occurs phaseForms (front ++ (k'.toList ++ behind))
  after : ¬occurs baselineForms (front ++ (k'.toList ++ behind))
  reached : keyword = .line → overhang baselineOrEndline 0 front (k'.toList ++ behind) = 0

theorem baseline_known : (∀ k ∈ Keyword.line.before ++ Keyword.session.before ++ ["presurvey"] ++ Keyword.assessment.before,
      occurs baselineForms k.toList) ∧
    (∀ k ∈ Keyword.line.before ++ Keyword.session.before ++ ["presurvey"], occurs phaseForms k.toList) ∧
    (∀ k ∈ Keyword.line.after ++ Keyword.session.after ++ Keyword.survey.after, occurs phaseForms k.toList) ∧
    (∀ k ∈ Keyword.survey.before, k ≠ "presurvey" →
      occurs baselineForms k.toList = false ∧ apartLeft [] (words baselineForms) k.toList ∧
        apartRight (words baselineForms) k.toList) ∧
    ∀ k ∈ Keyword.assessment.after,
      occurs phaseForms k.toList = false ∧ apartLeft [] (words phaseForms) k.toList ∧ apartRight (words phaseForms) k.toList := by
  decide +kernel

variable {S db}

theorem phase_eq_baseline {c : Course} : (phaseCourse S c).phase = .baseline ↔ occurs baselineForms (S.lower c.fullname).toList := by
  unfold phaseCourse
  simp

theorem phase_eq_endline {c : Course} : (phaseCourse S c).phase = .endline ↔ ¬occurs baselineForms (S.lower c.fullname).toList := by
  unfold phaseCourse
  simp

/-- The courses of one key are put together. -/
theorem exists_coursePair {r : PhaseCourse} (row : r ∈ phaseCourses S db) :
    ∃ first, S.sortKey first.pairKey = S.sortKey r.pairKey ∧
      coursePair S first ((phaseCourses S db).filter (fun s => S.sortKey s.pairKey = S.sortKey r.pairKey)) ∈
        selectGroups (fun c => S.sortKey c.pairKey) (coursePair S) (phaseCourses S db) := by
  have found : ∃ first ∈ phaseCourses S db, S.sortKey first.pairKey = S.sortKey r.pairKey ∧
      coursePair S first ((phaseCourses S db).filter (fun s => S.sortKey s.pairKey = S.sortKey r.pairKey)) ∈
        selectGroups (fun c => S.sortKey c.pairKey) (coursePair S) (phaseCourses S db) := exists_mem_selectGroups row
  obtain ⟨first, -, same, made⟩ := found
  exact ⟨first, same, made⟩

/-- Courses of one key and of both phases make a pair. -/
theorem exists_pair {c d : Course} (mem : c ∈ db.course) (mem' : d ∈ db.course) (before : isPhaseCourse S c)
    (after : isPhaseCourse S d) (phase : (phaseCourse S c).phase = .baseline) (phase' : (phaseCourse S d).phase = .endline)
    (key : S.sortKey (pairKey S c.fullname) = S.sortKey (pairKey S d.fullname)) :
    ∃ pair ∈ pairs S db, S.sortKey pair.pairKey = S.sortKey (pairKey S c.fullname) := by
  have row : phaseCourse S c ∈ phaseCourses S db := List.mem_map_of_mem (List.mem_filter.mpr ⟨mem, before⟩)
  have row' : phaseCourse S d ∈ phaseCourses S db := List.mem_map_of_mem (List.mem_filter.mpr ⟨mem', after⟩)
  obtain ⟨first, same, made⟩ := exists_coursePair row
  refine ⟨_, List.mem_filter.mpr ⟨made, ?_⟩, same⟩
  have some : ∀ {r : PhaseCourse} {phase : Phase}, r ∈ phaseCourses S db →
      S.sortKey r.pairKey = S.sortKey (phaseCourse S c).pairKey → r.phase = phase →
      ((ofPhase phase ((phaseCourses S db).filter (fun s =>
        S.sortKey s.pairKey = S.sortKey (phaseCourse S c).pairKey))).map PhaseCourse.courseId).max?.isSome := by
    intro r phase mem key own
    rw [Option.isSome_iff_ne_none, ne_eq, List.max?_eq_none_iff]
    apply List.ne_nil_of_mem (a := r.courseId)
    apply List.mem_map_of_mem
    exact List.mem_filter.mpr ⟨List.mem_filter.mpr ⟨mem, decide_eq_true key⟩, decide_eq_true own⟩
  rw [Bool.and_eq_true]
  exact ⟨some row rfl phase, some row' key.symm phase'⟩

/-- Twins are paired exactly where the patterns agree on their keyword. -/
theorem paired_iff {c d : Course} (apart : TellsApart S) {keyword : Keyword} {front behind : List Char} {k k' : String} (mem : c ∈ db.course)
    (mem' : d ∈ db.course) (twins : Twins S c d keyword front k k' behind) :
    Paired S db c d ↔ Agreed keyword front k k' behind := by
  obtain ⟨formsBefore, phasesBefore, phasesAfter, surveys, assessments⟩ := baseline_known
  have inside : ∀ k : String, k.toList <:+: front ++ (k.toList ++ behind) := fun k => List.infix_append' front k.toList behind
  constructor
  · rintro ⟨⟨-, phase⟩, ⟨selected', phase'⟩, key, -⟩
    rw [phase_eq_baseline, twins.name] at phase
    rw [phase_eq_endline, twins.name'] at phase'
    rw [isPhaseCourse, twins.name'] at selected'
    refine ⟨?_, fun _ => selected', phase', (pairKey_eq_iff apart twins phase').mp key⟩
    intro survey
    by_contra other
    have before := twins.before
    rw [survey] at before
    obtain ⟨unknown, left, right⟩ := surveys k before other
    exact phase' (occurs_elsewhere left right unknown phase k'.toList)
  · intro agreed
    have before := twins.before
    have after := twins.after
    have form : occurs baselineForms k.toList := by
      apply formsBefore k
      cases keyword with
      | line => simp [before]
      | session => simp [before]
      | survey => simp [agreed.known rfl]
      | assessment => simp [before]
    have selected : occurs phaseForms (front ++ (k.toList ++ behind)) := by
      have own : k ∈ Keyword.line.before ++ Keyword.session.before ++ ["presurvey"] →
          occurs phaseForms (front ++ (k.toList ++ behind)) := fun mem => occurs_mono (inside k) (phasesBefore k mem)
      cases keyword with
      | line => exact own (by simp [before])
      | session => exact own (by simp [before])
      | survey => exact own (by simp [agreed.known rfl])
      | assessment =>
        -- the assessment itself is not selected, so a phase stands elsewhere in the name
        obtain ⟨unknown, left, right⟩ := assessments k' after
        exact occurs_elsewhere left right unknown (agreed.selected rfl) k.toList
    have selected' : occurs phaseForms (front ++ (k'.toList ++ behind)) := by
      have own : k' ∈ Keyword.line.after ++ Keyword.session.after ++ Keyword.survey.after →
          occurs phaseForms (front ++ (k'.toList ++ behind)) := fun mem => occurs_mono (inside k') (phasesAfter k' mem)
      cases keyword with
      | line => exact own (by simp [after])
      | session => exact own (by simp [after])
      | survey => exact own (by simp [after])
      | assessment => exact agreed.selected rfl
    have phase : (phaseCourse S c).phase = .baseline := by
      rw [phase_eq_baseline, twins.name]
      exact occurs_mono (inside k) form
    have phase' : (phaseCourse S d).phase = .endline := by
      rw [phase_eq_endline, twins.name']
      exact agreed.after
    have isBefore : isPhaseCourse S c := by
      rw [isPhaseCourse, twins.name]
      exact selected
    have isAfter : isPhaseCourse S d := by
      rw [isPhaseCourse, twins.name']
      exact selected'
    have key := (pairKey_eq_iff apart twins agreed.after).mpr agreed.reached
    exact ⟨⟨isBefore, phase⟩, ⟨isAfter, phase'⟩, key, exists_pair mem mem' isBefore isAfter phase phase' key⟩

/-! ## The names of a pair -/

theorem minText_nil : minText S [] = none := rfl

theorem minText_cons (a : String) (texts : List String) : minText S (a :: texts) =
    some (match minText S texts with
      | none => a
      | some b => if S.sortKey a ≤ S.sortKey b then a else b) := by
  unfold minText
  rw [List.insertionSort_cons]
  cases texts.insertionSort (fun a b => S.sortKey a ≤ S.sortKey b) with
  | nil => rfl
  | cons b rest =>
    rw [List.orderedInsert]
    simp only [List.head?_cons]
    split_ifs <;> rfl

/-- The least text is the first of those that the collation takes for least. -/
theorem minText_eq_some_iff {texts : List String} {m : String} : minText S texts = some m ↔
    (∀ t ∈ texts, S.sortKey m ≤ S.sortKey t) ∧ texts.find? (fun t => S.sortKey t = S.sortKey m) = some m := by
  induction texts generalizing m with
  | nil => simp [minText_nil]
  | cons a texts ih =>
    rw [minText_cons, Option.some.injEq, List.forall_mem_cons, List.find?_cons]
    cases least : minText S texts with
    | none =>
      have empty : texts = [] := by
        cases texts with
        | nil => rfl
        | cons b rest =>
          rw [minText_cons] at least
          cases least
      subst empty
      constructor
      · rintro rfl
        simp
      · rintro ⟨-, found⟩
        simp only [List.find?_nil] at found
        split at found
        · exact Option.some.inj found
        · cases found
    | some b =>
      obtain ⟨below, -⟩ := ih.mp least
      simp only
      split_ifs with first
      · constructor
        · rintro rfl
          exact ⟨⟨le_rfl, fun t mem => first.trans (below t mem)⟩, by simp⟩
        · rintro ⟨⟨le, -⟩, found⟩
          split at found
          · exact Option.some.inj found
          · next other =>
            have mem := List.mem_of_find?_eq_some found
            have same := le_antisymm (first.trans (below m mem)) le
            simp [same] at other
      · constructor
        · rintro rfl
          have later := lt_of_not_ge first
          have differs : ¬S.sortKey a = S.sortKey b := fun same => first same.le
          exact ⟨⟨later.le, below⟩, by simpa [differs] using (ih.mp least).2⟩
        · rintro ⟨⟨-, le⟩, found⟩
          split at found
          · next same =>
            obtain rfl := Option.some.inj found
            have mem : b ∈ texts := by
              have there := (ih.mp least).2
              exact List.mem_of_find?_eq_some there
            exact absurd (le b mem) first
          · exact Option.some.inj (least.symm.trans (ih.mpr ⟨le, found⟩))

variable (S db) in
/-- The courses of one key and one phase. -/
def group (key : List Nat) (phase : Phase) : List PhaseCourse :=
  ofPhase phase ((phaseCourses S db).filter (fun c => S.sortKey c.pairKey = key))

variable (S) in
/-- The course with the greatest id has the first name: no name is before it, and the first of those
that the collation takes for the same is spelled like it. -/
def Led (rows : List PhaseCourse) : Prop :=
  ∀ c ∈ rows, (∀ e ∈ rows, e.courseId ≤ c.courseId) → (∀ e ∈ rows, S.sortKey c.fullname ≤ S.sortKey e.fullname) ∧
    (rows.find? (fun e => S.sortKey e.fullname = S.sortKey c.fullname)).map PhaseCourse.fullname = some c.fullname

/-- The name is that of the course whose grades are shown. -/
def NameFits (db : Database) (courseId : Option Nat) (name : Option String) : Prop :=
  ∃ c ∈ db.course, courseId = some c.id ∧ name = some c.fullname

theorem mem_group {key : List Nat} {phase : Phase} {r : PhaseCourse} (mem : r ∈ group S db key phase) :
    ∃ c ∈ db.course, isPhaseCourse S c ∧ r = phaseCourse S c ∧ S.sortKey r.pairKey = key ∧ r.phase = phase := by
  obtain ⟨inside, own⟩ := List.mem_filter.mp mem
  obtain ⟨row, same⟩ := List.mem_filter.mp inside
  obtain ⟨c, there, rfl⟩ := List.mem_map.mp row
  obtain ⟨course, selected⟩ := List.mem_filter.mp there
  exact ⟨c, course, selected, rfl, of_decide_eq_true same, of_decide_eq_true own⟩

/-- Courses with one id are one. -/
theorem course_unique {c d : Course} (mem : c ∈ db.course) (mem' : d ∈ db.course) (same : c.id = d.id) : c = d :=
  List.inj_on_of_nodup_map db.courseIds mem mem' same

theorem nameFits_iff {key : List Nat} {phase : Phase} (some_row : group S db key phase ≠ []) :
    NameFits db ((group S db key phase).map PhaseCourse.courseId).max?
      (minText S ((group S db key phase).map PhaseCourse.fullname)) ↔ Led S (group S db key phase) := by
  obtain ⟨i, greatest⟩ : ∃ i, ((group S db key phase).map PhaseCourse.courseId).max? = some i := by
    rw [← Option.ne_none_iff_exists', ne_eq, List.max?_eq_none_iff, List.map_eq_nil_iff]
    exact some_row
  obtain ⟨mem, bound⟩ := List.max?_eq_some_iff.mp greatest
  obtain ⟨r, row, rfl⟩ := List.mem_map.mp mem
  obtain ⟨c, course, -, own, -, -⟩ := mem_group row
  have top : ∀ e ∈ group S db key phase, e.courseId ≤ r.courseId := by
    intro e there
    exact bound _ (List.mem_map_of_mem there)
  have names : minText S ((group S db key phase).map PhaseCourse.fullname) = some r.fullname ↔
      (∀ e ∈ group S db key phase, S.sortKey r.fullname ≤ S.sortKey e.fullname) ∧
        ((group S db key phase).find? (fun e => S.sortKey e.fullname = S.sortKey r.fullname)).map PhaseCourse.fullname =
          some r.fullname := by
    rw [minText_eq_some_iff, List.forall_mem_map, List.find?_map]
    rfl
  rw [greatest]
  constructor
  · rintro ⟨d, course', id, name⟩ e there highest
    have same : d = c := course_unique course' course (by rw [← Option.some.inj id, own]; rfl)
    obtain ⟨f, course'', -, rfl, -, -⟩ := mem_group there
    have level : (phaseCourse S f).courseId = r.courseId := Nat.le_antisymm (top _ there) (highest r row)
    have one : f = c := by
      rw [own] at level
      exact course_unique course'' course level
    rw [one, ← own]
    apply names.mp
    rw [name, same, own]
    rfl
  · intro led
    refine ⟨c, course, by rw [own]; rfl, ?_⟩
    rw [names.mpr (led r row top), own]
    rfl

variable (S db) in
/-- Twins are paired, and the names of a pair are those of the courses whose grades it shows. -/
structure PairsRight : Prop where
  paired : ∀ c ∈ db.course, ∀ d ∈ db.course, ∀ keyword front k k' behind,
    Twins S c d keyword front k k' behind → Paired S db c d
  named : ∀ pair ∈ pairs S db, NameFits db pair.baselineCourseId pair.baselineCourse ∧
    NameFits db pair.endlineCourseId pair.endlineCourse

/-- The pairs are right exactly where the patterns agree on the keywords of all twins and where, of
the courses of one key and one phase, the one with the greatest id has the first name. -/
theorem pairsRight_iff (S : Server) (db : Database) (apart : TellsApart S) : PairsRight S db ↔
    (∀ c ∈ db.course, ∀ d ∈ db.course, ∀ keyword front k k' behind,
      Twins S c d keyword front k k' behind → Agreed keyword front k k' behind) ∧
    ∀ key, group S db key .baseline ≠ [] → group S db key .endline ≠ [] → ∀ phase, Led S (group S db key phase) := by
  constructor
  · rintro ⟨paired, named⟩
    refine ⟨fun c mem d mem' keyword front k k' behind twins =>
      (paired_iff apart mem mem' twins).mp (paired c mem d mem' keyword front k k' behind twins), ?_⟩
    intro key before after phase
    obtain ⟨r, row⟩ := List.exists_mem_of_ne_nil _ before
    obtain ⟨e, row'⟩ := List.exists_mem_of_ne_nil _ after
    obtain ⟨c, course, selected, rfl, same, own⟩ := mem_group row
    have inside : phaseCourse S c ∈ phaseCourses S db := List.mem_map_of_mem (List.mem_filter.mpr ⟨course, selected⟩)
    obtain ⟨first, -, made⟩ := exists_coursePair inside
    rw [same] at made
    have complete : ∀ phase, group S db key phase ≠ [] →
        ((group S db key phase).map PhaseCourse.courseId).max?.isSome := by
      intro phase some_row
      rw [Option.isSome_iff_ne_none, ne_eq, List.max?_eq_none_iff, List.map_eq_nil_iff]
      exact some_row
    have pair : coursePair S first ((phaseCourses S db).filter (fun c => S.sortKey c.pairKey = key)) ∈ pairs S db := by
      refine List.mem_filter.mpr ⟨made, ?_⟩
      rw [Bool.and_eq_true]
      exact ⟨complete .baseline before, complete .endline after⟩
    obtain ⟨fits, fits'⟩ := named _ pair
    cases phase with
    | baseline => exact (nameFits_iff before).mp fits
    | endline => exact (nameFits_iff after).mp fits'
  · rintro ⟨agreed, led⟩
    refine ⟨fun c mem d mem' keyword front k k' behind twins =>
      (paired_iff apart mem mem' twins).mpr (agreed c mem d mem' keyword front k k' behind twins), ?_⟩
    intro pair mem
    obtain ⟨made, both⟩ := List.mem_filter.mp mem
    obtain ⟨first, -, rfl⟩ := mem_selectGroups made
    rw [Bool.and_eq_true] at both
    have some_row : ∀ phase, ((group S db (S.sortKey first.pairKey) phase).map PhaseCourse.courseId).max?.isSome →
        group S db (S.sortKey first.pairKey) phase ≠ [] := by
      intro phase some empty
      rw [empty] at some
      cases some
    have before := some_row .baseline both.1
    have after := some_row .endline both.2
    exact ⟨(nameFits_iff before).mpr (led _ before after .baseline), (nameFits_iff after).mpr (led _ before after .endline)⟩

/-- A binary collation tells the texts apart. -/
theorem tellsApart_plain : TellsApart Server.plain := by
  intro b u v same
  simp only [Server.plain, String.toList_ofList, List.map_append, List.map_cons] at same
  have letters := (List.cons.inj (List.append_cancel_left same)).1
  exact absurd letters (by decide)

/-- Two courses of one key come before the phase, and a survey before is written with a hyphen. -/
def surveys : Database where
  course := [⟨1, "MATH Baseline", "m1", 0, 1⟩, ⟨2, "Math Baseline", "m2", 0, 1⟩, ⟨3, "Math Endline", "m3", 0, 1⟩,
    ⟨4, "Reading pre-survey", "r1", 0, 1⟩, ⟨5, "Reading post-survey", "r2", 0, 1⟩]

theorem pairsRight_iff_surveys : TellsApart Server.plain ∧ (PairsRight Server.plain surveys ↔
    (∀ c ∈ surveys.course, ∀ d ∈ surveys.course, ∀ keyword front k k' behind,
      Twins Server.plain c d keyword front k k' behind → Agreed keyword front k k' behind) ∧
    ∀ key, group Server.plain surveys key .baseline ≠ [] → group Server.plain surveys key .endline ≠ [] →
      ∀ phase, Led Server.plain (group Server.plain surveys key phase)) :=
  ⟨tellsApart_plain, pairsRight_iff Server.plain surveys tellsApart_plain⟩

/-- The reading surveys are not paired, and the name before of the other pair is that of a course
whose grades are not shown. -/
theorem surveys_wrong : (∃ c ∈ surveys.course, ∃ d ∈ surveys.course,
      Twins Server.plain c d .survey "reading ".toList "pre-survey" "post-survey" [] ∧ ¬Paired Server.plain surveys c d) ∧
    ∃ pair ∈ pairs Server.plain surveys, pair.baselineCourseId = some 2 ∧ pair.baselineCourse = some "MATH Baseline" ∧
      ¬NameFits surveys pair.baselineCourseId pair.baselineCourse := by
  constructor
  · refine ⟨⟨4, "Reading pre-survey", "r1", 0, 1⟩, by decide +kernel, ⟨5, "Reading post-survey", "r2", 0, 1⟩,
      by decide +kernel, ⟨by decide, by decide, by decide +kernel, by decide +kernel⟩, fun paired => ?_⟩
    have unselected : isPhaseCourse Server.plain ⟨4, "Reading pre-survey", "r1", 0, 1⟩ = false := by decide +kernel
    rw [paired.before.1] at unselected
    cases unselected
  · refine ⟨⟨"math <ph>", some 2, some 3, some "MATH Baseline", some "Math Endline"⟩, by decide +kernel, rfl, rfl, ?_⟩
    unfold NameFits
    decide +kernel

end XpBuilder.Moodle.BaselineEndline
