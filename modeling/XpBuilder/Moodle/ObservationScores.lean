import XpBuilder.Moodle.Feedback
import XpBuilder.Moodle.TeacherStudents

/-! The view `kpi3_classroom_observations`: the responses to observation forms with the average of
their rated items and their remarks. -/

namespace XpBuilder.Moodle.Observations
open Relational Feedback

/-- A row of `mdl_local_observations_completed`. -/
structure Response where
  id : Nat
  observations : Nat
  userid : Nat
  evaluatedby : Option Nat
  timemodified : Int
  deriving DecidableEq

/-- A row of the CTE `scored`. -/
structure Score where
  completed : Nat
  ratedItems : Nat
  avgScore : Option ℚ
  deriving DecidableEq

structure Row where
  responseId : Nat
  formId : Nat
  form : Option String
  teacherId : Nat
  teacherName : String
  teacherUsername : String
  teacherSchool : String
  evaluatorId : Option Nat
  evaluatorName : String
  observationDate : Option Int
  ratedItems : Nat
  avgScore : ℚ
  scorePct : Option ℚ
  feedback : String
  deriving DecidableEq

/-! ## Rounding twice -/

theorem roundTo_int (digits : Nat) (n : Int) : roundTo digits (n / 10 ^ digits) = n / 10 ^ digits := by
  have scale : (10 : ℚ) ^ digits ≠ 0 := by positivity
  have floor (m : Int) : ⌊(m : ℚ) / 10 ^ digits * 10 ^ digits + 1 / 2⌋ = m := by
    rw [div_mul_cancel₀ _ scale, Int.floor_intCast_add]
    norm_num
  unfold roundTo
  split_ifs
  · rw [floor]
  · have turned : -((n : ℚ) / 10 ^ digits) = ((-n : Int) : ℚ) / 10 ^ digits := by
      push_cast
      ring
    rw [turned, floor]
    push_cast
    ring

theorem roundTo_zero (digits : Nat) : roundTo digits 0 = 0 := by
  simpa using roundTo_int digits 0

theorem roundTo_roundTo (digits : Nat) (x : ℚ) : roundTo digits (roundTo digits x) = roundTo digits x := by
  have whole : ∃ n : Int, roundTo digits x = n / 10 ^ digits := by
    unfold roundTo
    split_ifs
    · exact ⟨_, rfl⟩
    · refine ⟨-⌊-x * 10 ^ digits + 1 / 2⌋, ?_⟩
      push_cast
      ring
  obtain ⟨n, same⟩ := whole
  rw [same, roundTo_int]

section
variable (S : Server) (db : Database) (items : List ObservationItem) (values : List ObservationValue)

/-- `CAST(value AS DECIMAL(6, 2))` -/
def castScore (value : String) : ℚ := max (-999999 / 100) (min (999999 / 100) (roundTo 2 (S.numberOf value)))

/-- `v.value IS NOT NULL AND TRIM(v.value) <> ''` -/
def isFilled (v : ObservationValue) : Bool := v.value.any (fun value => !S.same (trim value) "")

/-- The rows of a CTE before they are grouped. -/
def filledRows (typ : String) : List (ObservationValue × ObservationItem) :=
  (join (fun v i => i.id = v.item && S.same i.typ typ) values items).filter (fun r => isFilled S r.1)

/-- `scored` -/
def scored : List Score :=
  (groupBy (fun r => r.1.completed) (filledRows S items values "multichoicerated")).map (fun g =>
    { completed := g.1
      ratedItems := g.2.length
      avgScore := (S.average (g.2.map (fun r => r.1.value.map (castScore S)))).map (roundTo 2) })

/-- `feedback` -/
def remarked : List (Nat × List Char) :=
  (groupBy (fun r => r.1.completed) (filledRows S items values "textarea")).map (fun g =>
    let ordered := g.2.mergeSort (fun a b => decide (a.2.position ≤ b.2.position))
    (g.1, concatenated ((ordered.map Prod.fst).filterMap ObservationValue.value)))

/-- `((((response, form), user), evaluator), school), score), feedback` -/
abbrev Joined :=
  (((((Response × Observation) × User) × Option User) × Option School) × Option Score) × Option (Nat × List Char)

def joined (responses : List Response) : List Joined :=
  let withForm := join (fun oc o => o.id = oc.observations) responses db.localObservations
  let withUser := join (fun p u => u.id = p.1.userid) withForm db.user
  let withEvaluator := leftJoin (fun p ev => p.1.1.evaluatedby = some ev.id) withUser db.user
  let withSchool := leftJoin (fun p s => BaselineEndline.schoolOf S p.1.2.openSchool s) withEvaluator db.localSchool
  let withScore := leftJoin (fun p sc => sc.completed = p.1.1.1.1.id) withSchool (scored S items values)
  leftJoin (fun p fb => fb.1 = p.1.1.1.1.1.id) withScore (remarked S items values)

def row (j : Joined) : Row :=
  let oc := j.1.1.1.1.1.1
  let o := j.1.1.1.1.1.2
  let u := j.1.1.1.1.2
  let ev := j.1.1.1.2
  let avg := ((j.1.2.bind Score.avgScore).getD 0)
  { responseId := oc.id
    formId := oc.observations
    form := o.name
    teacherId := oc.userid
    teacherName := BaselineEndline.trimmedName (some u)
    teacherUsername := u.username
    teacherSchool := (j.1.1.2.bind School.schoolName).getD "(not set)"
    evaluatorId := oc.evaluatedby
    evaluatorName := BaselineEndline.trimmedName ev
    observationDate := S.date (some oc.timemodified)
    ratedItems := (j.1.2.map Score.ratedItems).getD 0
    avgScore := roundTo 2 avg
    scorePct := (S.divide (100 * avg) 5).map (roundTo 1)
    feedback := String.ofList (unescape ((j.2.map Prod.snd).getD [])) }

/-- `kpi3_classroom_observations` -/
def view (responses : List Response) : List Row := (joined S db items values responses).map (row S)

/-! ## The values of a response -/

def isOfType (typ : String) (v : ObservationValue) : Bool := items.any (fun i => i.id = v.item && S.same i.typ typ)

/-- The rated values that were filled in for a response. -/
def rated (completed : Nat) : List ObservationValue :=
  values.filter (fun v => v.completed = completed && isFilled S v && isOfType S items "multichoicerated" v)

/-- What the row of a response shows of its own values. -/
structure Scored (completed : Nat) (r : Row) : Prop where
  count : r.ratedItems = (rated S items values completed).length
  average : r.avgScore =
    ((S.average ((rated S items values completed).map (fun v => v.value.map (castScore S)))).map (roundTo 2)).getD 0
  percentage : r.scorePct = (S.divide (100 * r.avgScore) 5).map (roundTo 1)
  bounds : (∀ v ∈ rated S items values completed, ∀ value, v.value = some value →
      0 ≤ castScore S value ∧ castScore S value ≤ 5) →
    (0 ≤ r.avgScore ∧ r.avgScore ≤ 5) ∧ ∃ pct, r.scorePct = some pct ∧ 0 ≤ pct ∧ pct ≤ 100
  /-- Where nothing was rated, as where all of it is 0. -/
  unrated : rated S items values completed = [] → r.avgScore = 0 ∧ r.scorePct = some 0
  feedback : r.feedback = Feedback.feedback S items values completed

variable {S items values}

theorem map_fst_filledRows (itemIds : (items.map ObservationItem.id).Nodup) (typ : String) (c : Nat) :
    ((filledRows S items values typ).filter (fun r => r.1.completed = c)).map Prod.fst =
      values.filter (fun v => v.completed = c && isFilled S v && isOfType S items typ v) := by
  have single : ∀ v ∈ values, (items.filter (fun i => i.id = v.item && S.same i.typ typ)).length ≤ 1 := by
    intro v _
    apply length_filter_le_one itemIds
    intro a _ b _ first second
    simp only [Bool.and_eq_true, decide_eq_true_eq] at first second
    exact first.1.trans second.1.symm
  rw [filledRows, join_eq_filterMap single, List.filter_filter]
  rw [map_filter_filterMap (h := id) (q := fun v => v.completed = c && isFilled S v && isOfType S items typ v),
    List.map_id]
  intro v _
  unfold isOfType
  cases found : items.find? (fun i => i.id = v.item && S.same i.typ typ) with
  | none =>
    have absent : items.any (fun i => i.id = v.item && S.same i.typ typ) = false := by
      rw [← List.isSome_find?, found]
      rfl
    rw [absent, Bool.and_false]
    rfl
  | some i =>
    have present : items.any (fun i => i.id = v.item && S.same i.typ typ) = true := by
      rw [← List.isSome_find?, found]
      rfl
    rw [present, Bool.and_true]
    by_cases kept : (decide (v.completed = c) && isFilled S v) = true
    · rw [if_pos kept, Option.map_some, Option.filter_some, if_pos kept]
      rfl
    · rw [if_neg kept, Option.map_some, Option.filter_some, if_neg kept]
      rfl

/-- What the left join on `scored` finds. -/
theorem find?_scored (itemIds : (items.map ObservationItem.id).Nodup) (c : Nat) :
    (scored S items values).find? (fun sc => sc.completed = c) =
      if rated S items values c = [] then none
      else some ⟨c, (rated S items values c).length,
        (S.average ((rated S items values c).map (fun v => v.value.map (castScore S)))).map (roundTo 2)⟩ := by
  have own : ((filledRows S items values "multichoicerated").filter (fun r => r.1.completed = c)).map Prod.fst =
      rated S items values c := map_fst_filledRows itemIds "multichoicerated" c
  have group := @find?_groupBy (ObservationValue × ObservationItem) Nat _ (fun r => r.1.completed)
    (filledRows S items values "multichoicerated") c
  have none_iff : rated S items values c = [] ↔
      c ∉ (filledRows S items values "multichoicerated").map (fun r => r.1.completed) := by
    rw [← own, List.map_eq_nil_iff, List.filter_eq_nil_iff, List.mem_map]
    simp only [decide_eq_true_eq, not_exists, not_and]
  rw [scored, List.find?_map]
  change Option.map _ (List.find? (fun g : Nat × List (ObservationValue × ObservationItem) => decide (g.1 = c)) _) = _
  rw [group]
  by_cases there : c ∈ (filledRows S items values "multichoicerated").map (fun r => r.1.completed)
  · rw [if_pos there, if_neg (fun empty => none_iff.mp empty there), Option.map_some, ← own,
      List.length_map, List.map_map]
    rfl
  · rw [if_neg there, if_pos (none_iff.mpr there), Option.map_none]

theorem find?_remarked (c : Nat) :
    (((remarked S items values).find? (fun fb => fb.1 = c)).map Prod.snd).getD [] =
      concatenated ((remarks S items values c).filterMap ObservationValue.value) := by
  have group := @find?_groupBy (ObservationValue × ObservationItem) Nat _ (fun r => r.1.completed)
    (filledRows S items values "textarea") c
  have own : remarks S items values c = (((filledRows S items values "textarea").filter (fun r => r.1.completed = c)).mergeSort
      (fun a b => decide (a.2.position ≤ b.2.position))).map Prod.fst := by
    rw [remarks, filledRows, List.filter_filter]
    rfl
  rw [remarked, List.find?_map]
  change ((Option.map _ (List.find? (fun g : Nat × List (ObservationValue × ObservationItem) =>
    decide (g.1 = c)) _)).map _).getD _ = _
  rw [group, own]
  by_cases there : c ∈ (filledRows S items values "textarea").map (fun r => r.1.completed)
  · rw [if_pos there]
    rfl
  · have empty : (filledRows S items values "textarea").filter (fun r => r.1.completed = c) = [] := by
      rw [List.filter_eq_nil_iff]
      exact fun r mem same => there (List.mem_map.mpr ⟨r, mem, of_decide_eq_true same⟩)
    rw [if_neg there, empty, List.mergeSort_nil]
    rfl

/-- The average that the CTE gives for a response, 0 without one. -/
def shownAverage (S : Server) (items : List ObservationItem) (values : List ObservationValue) (c : Nat) : ℚ :=
  ((S.average ((rated S items values c).map (fun v => v.value.map (castScore S)))).map (roundTo 2)).getD 0

theorem average_of_unrated {c : Nat} (empty : rated S items values c = []) : shownAverage S items values c = 0 := by
  rw [shownAverage, empty, List.map_nil, Server.average, List.reduceOption_nil, Server.divide]
  simp

theorem shownAverage_between {c : Nat} (scale : ∀ v ∈ rated S items values c, ∀ value, v.value = some value →
      0 ≤ castScore S value ∧ castScore S value ≤ 5) :
    0 ≤ shownAverage S items values c ∧ shownAverage S items values c ≤ 5 := by
  unfold shownAverage
  cases mean : S.average ((rated S items values c).map (fun v => v.value.map (castScore S))) with
  | none => exact ⟨le_refl _, by norm_num⟩
  | some a =>
    have bounds := @Server.average_between S _ a 0 5 (by
      intro x mem
      obtain ⟨v, own, same⟩ := List.mem_map.mp (List.reduceOption_mem_iff.mp mem)
      obtain ⟨value, filled, rfl⟩ := Option.map_eq_some_iff.mp same
      have kept := scale v own value filled
      exact ⟨by exact_mod_cast kept.1, by exact_mod_cast kept.2⟩) mean
    exact_mod_cast @roundTo_between 2 a 5 (by exact_mod_cast bounds.1) (by exact_mod_cast bounds.2)

theorem percentage_between {avg : ℚ} (below : 0 ≤ avg) (above : avg ≤ 5) :
    ∃ pct, (S.divide (100 * avg) 5).map (roundTo 1) = some pct ∧ 0 ≤ pct ∧ pct ≤ 100 := by
  have quotient : S.divide (100 * avg) 5 = some (S.keep (100 * avg / 5)) := by rw [Server.divide, if_neg (by norm_num)]
  have bounds := @Server.divide_between S (100 * avg) 5 _ 0 100 (by norm_num) (by push_cast; linarith)
    (by push_cast; linarith) quotient
  rw [quotient]
  exact ⟨_, rfl, by exact_mod_cast @roundTo_between 1 _ 100 (by exact_mod_cast bounds.1) (by exact_mod_cast bounds.2)⟩

/-! ## The row of a response -/

variable (S items values)

/-- What the joins find for a response. -/
def found (oc : Response) : Option Joined :=
  (db.localObservations.find? (fun o => o.id = oc.observations)).bind (fun o =>
    (db.user.find? (fun u => u.id = oc.userid)).map (fun u =>
      ((((((oc, o), u), db.user.find? (fun ev => oc.evaluatedby = some ev.id)),
        db.localSchool.find? (BaselineEndline.schoolOf S u.openSchool)),
        (scored S items values).find? (fun sc => sc.completed = oc.id)),
        (remarked S items values).find? (fun fb => fb.1 = oc.id))))

theorem joined_eq (responses : List Response) : joined S db items values responses =
    responses.filterMap (found S db items values) := by
  have scores : ((scored S items values).map Score.completed).Nodup := by
    rw [scored, List.map_map]
    exact nodup_groupBy
  have remarks : ((remarked S items values).map Prod.fst).Nodup := by
    rw [remarked, List.map_map]
    exact nodup_groupBy
  have forms : ∀ i, (db.localObservations.filter (fun o => o.id = i)).length ≤ 1 :=
    length_filter_eq_le_one db.observationIds
  have users : ∀ i, (db.user.filter (fun u => u.id = i)).length ≤ 1 := length_filter_eq_le_one db.userIds
  unfold joined
  rw [leftJoin_eq_map (fun _ _ => length_filter_eq_le_one remarks _),
    leftJoin_eq_map (fun _ _ => length_filter_eq_le_one scores _),
    leftJoin_eq_map (fun _ _ => BaselineEndline.one_school _), leftJoin_eq_map (fun _ _ => length_filter_key_le_one db.userIds _),
    join_eq_filterMap (fun _ _ => users _), join_eq_filterMap (fun _ _ => forms _), List.filterMap_filterMap,
    List.map_filterMap, List.map_filterMap, List.map_filterMap, List.map_filterMap]
  apply List.filterMap_congr
  intro oc _
  unfold found
  cases db.localObservations.find? (fun o => o.id = oc.observations) with
  | none => rfl
  | some o =>
    dsimp only [Option.map_some, Option.bind_some]
    cases db.user.find? (fun u => u.id = oc.userid) <;> rfl

/-- Whether the form and the teacher of a response are there. -/
def isKnown (oc : Response) : Bool :=
  db.localObservations.any (fun o => o.id = oc.observations) && db.user.any (fun u => u.id = oc.userid)

theorem isSome_found (oc : Response) : (found S db items values oc).isSome = isKnown db oc := by
  rw [isKnown, ← List.isSome_find?, ← List.isSome_find?, found]
  cases db.localObservations.find? (fun o => o.id = oc.observations) with
  | none => rfl
  | some o => simp

variable {S db items values}

theorem average_found (itemIds : (items.map ObservationItem.id).Nodup) (c : Nat) :
    (((scored S items values).find? (fun sc => sc.completed = c)).bind Score.avgScore).getD 0 =
    shownAverage S items values c := by
  rw [find?_scored itemIds]
  split_ifs with empty
  · exact (average_of_unrated empty).symm
  · rfl

theorem roundTo_shownAverage (c : Nat) : roundTo 2 (shownAverage S items values c) =
    shownAverage S items values c := by
  unfold shownAverage
  cases S.average ((rated S items values c).map (fun v => v.value.map (castScore S))) with
  | none => exact roundTo_zero 2
  | some a => exact roundTo_roundTo 2 a

theorem scored_row (itemIds : (items.map ObservationItem.id).Nodup) {oc : Response} {j : Joined}
    (there : found S db items values oc = some j) : Scored S items values oc.id (row S j) := by
  obtain ⟨o, -, there⟩ := Option.bind_eq_some_iff.mp there
  obtain ⟨u, -, rfl⟩ := Option.map_eq_some_iff.mp there
  have score := @find?_scored S items values itemIds oc.id
  have found := @average_found S items values itemIds oc.id
  -- the average is rounded once more, which changes nothing
  have average := (congrArg (roundTo 2) found).trans (roundTo_shownAverage oc.id)
  have percentage := congrArg (fun avg => (S.divide (100 * avg) 5).map (roundTo 1)) found
  constructor
  · refine (congrArg (fun sc => (sc.map Score.ratedItems).getD 0) score).trans ?_
    split_ifs with empty
    · rw [empty]
      rfl
    · rfl
  · exact average
  · exact percentage.trans (congrArg (fun avg => (S.divide (100 * avg) 5).map (roundTo 1)) average.symm)
  · intro scale
    have between := shownAverage_between scale
    obtain ⟨pct, same, bounds⟩ := percentage_between (S := S) between.1 between.2
    exact ⟨⟨between.1.trans_eq average.symm, average.trans_le between.2⟩, pct, percentage.trans same, bounds⟩
  · intro empty
    rw [average_of_unrated empty] at average percentage
    refine ⟨average, percentage.trans ?_⟩
    have quotient : S.divide (100 * 0) 5 = some (S.keep (0 : Int)) := by
      rw [Server.divide, if_neg (by norm_num)]
      norm_num
    rw [quotient, S.keep_int, Option.map_some, Int.cast_zero, roundTo_zero]
  · exact congrArg (fun text => String.ofList (unescape text)) (find?_remarked oc.id)

/-- A response has a row exactly where its form and its teacher are there, and one only, of its own values. -/
theorem observations_scored (S : Server) (db : Database) {items : List ObservationItem}
    (values : List ObservationValue) {responses : List Response}
    (itemIds : (items.map ObservationItem.id).Nodup) (ids : (responses.map Response.id).Nodup)
    {oc : Response} (mem : oc ∈ responses) :
    ((view S db items values responses).filter (fun r => r.responseId = oc.id)).length =
    (if isKnown db oc then 1 else 0) ∧
    ∀ r ∈ view S db items values responses, r.responseId = oc.id → Scored S items values oc.id r := by
  have rows : (view S db items values responses).filter (fun r => r.responseId = oc.id) =
      ((found S db items values oc).map (row S)).toList := by
    rw [view, joined_eq, List.map_filterMap, List.filterMap_eq_flatMap_toList]
    refine filter_flatMap_of_key (fun a _ r there => ?_) ids mem
    obtain ⟨j, same, rfl⟩ := Option.map_eq_some_iff.mp (Option.mem_toList.mp there)
    obtain ⟨o, -, same⟩ := Option.bind_eq_some_iff.mp same
    obtain ⟨u, -, rfl⟩ := Option.map_eq_some_iff.mp same
    rfl
  constructor
  · rw [rows, ← isSome_found S db items values]
    cases found S db items values oc <;> rfl
  · intro r there same
    have own : r ∈ ((found S db items values oc).map (row S)).toList := by
      rw [← rows]
      exact List.mem_filter.mpr ⟨there, decide_eq_true same⟩
    obtain ⟨j, some_row, rfl⟩ := Option.map_eq_some_iff.mp (Option.mem_toList.mp own)
    exact scored_row itemIds some_row

end

/-! One lesson, observed twice. -/

def lesson : Database where
  user := [{ id := 21, username := "teacher" }]
  localObservations := [⟨6, some "Micro teaching"⟩]

def lessonItems : List ObservationItem :=
  [⟨61, "multichoicerated", 1⟩, ⟨62, "multichoicerated", 2⟩, ⟨63, "textarea", 3⟩]

def lessonValues : List ObservationValue :=
  [⟨601, 61, some "4"⟩, ⟨601, 62, some "5"⟩, ⟨601, 63, some "Pace &amp; clarity"⟩, ⟨602, 61, some " "⟩]

def lessonResponses : List Response := [⟨601, 6, 21, none, 86400⟩, ⟨602, 6, 21, some 21, 172800⟩]

theorem observations_scored_lesson :
    ((view .plain lesson lessonItems lessonValues lessonResponses).filter (fun r => r.responseId = 601)).length = 1 ∧
    ∀ r ∈ view .plain lesson lessonItems lessonValues lessonResponses, r.responseId = 601 →
      Scored .plain lessonItems lessonValues 601 r := by
  have first : lessonResponses.head (by decide) ∈ lessonResponses := List.head_mem _
  exact observations_scored .plain lesson lessonValues (by decide) (by decide) first

example : (view .plain lesson lessonItems lessonValues lessonResponses).map
      (fun r => (r.ratedItems, r.avgScore, r.scorePct, r.feedback)) =
    [(2, 9 / 2, some 90, "Pace & clarity"), (0, 0, some 0, "")] := by decide +kernel

end XpBuilder.Moodle.Observations
