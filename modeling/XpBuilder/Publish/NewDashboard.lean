import XpBuilder.Publish.Placement

/-! The slug of a new dashboard. It is made from the name alone, and the names without letters and
digits, those that differ in their punctuation and the long ones with one beginning all have one. -/

namespace XpBuilder.Publish
open PythonText (isSlugChar subRuns)

/-- A name that has nothing of what a slug is made of, however long it is, gets the same one. -/
theorem slugify_of_foreign {name : String} (given : PythonText.lower (PythonText.strip name) ≠ "")
    (foreign : ∀ c ∈ (PythonText.lower (PythonText.strip name)).toList, isSlugChar c = false) : slugify name = "-" := by
  have dropped : ∀ cs : List Char, (∀ c ∈ cs, isSlugChar c = false) → subRuns ['-'] true cs = [] := by
    intro cs plain
    induction cs with
    | nil => rfl
    | cons c cs ih =>
      rw [List.forall_mem_cons] at plain
      rw [subRuns, if_neg (by simp [plain.1]), if_pos rfl, ih plain.2]
  have single : PythonText.subUnsafe "-" (PythonText.lower (PythonText.strip name)) = "-" := by
    unfold PythonText.subUnsafe
    generalize PythonText.lower (PythonText.strip name) = s at given foreign
    have chars : s.toList ≠ [] := by
      rw [ne_eq, String.toList_eq_nil_iff]
      exact given
    generalize s.toList = cs at chars foreign
    cases cs with
    | nil => exact absurd rfl chars
    | cons c cs =>
      rw [List.forall_mem_cons] at foreign
      have mark : "-".toList = ['-'] := by decide
      rw [mark, subRuns, if_neg (by simp [foreign.1]), if_neg (by simp), dropped cs foreign.2]
      rfl
  unfold slugify
  rw [single]
  decide

/-! ## Dashboards after a publish -/

theorem slugTaken_iff (slug : String) (m : Metadata) :
    slugTaken slug m = true ↔ ∃ id d, m.dashboards.get id = some d ∧ d.slug = some slug := by
  unfold slugTaken
  cases found : m.dashboards.first (fun d => d.slug = some slug) with
  | none =>
    rw [Option.isSome_none]
    constructor
    · intro taken
      cases taken
    · rintro ⟨id, d, there, same⟩
      have other := Table.first_eq_none found there
      simp [same] at other
  | some entry =>
    obtain ⟨there, same⟩ := Table.first_eq_some found
    exact ⟨fun _ => ⟨entry.1, entry.2, there, by simpa using same⟩, fun _ => rfl⟩

namespace Course
variable (c : Course)

/-- A publish that gets to its dashboard, which nothing but its slug can stop. -/
structure ReachesDashboard : Prop where
  dataset : c.env.refuses .dataset = none
  metrics : ¬c.metricsRefused
  fields : c.fields.toOption.isSome = true
  chart : ¬c.chartRefused
  dashboard : c.env.refuses .newDashboard = none

theorem board_slug (id : Nat) (d : Dashboard) (p : Point) : (c.board id d p).slug = d.slug := by
  have left : (c.leave id d).slug = d.slug := by
    unfold leave
    split_ifs
    · rfl
    · rfl
  cases p with
  | done =>
    unfold board
    split_ifs
    · rfl
    · exact left
  | detachAgain | report => exact left
  | _ => rfl

/-- Where the slug is taken the publish ends before anything is stored for its dashboard. -/
theorem point_of_taken {name : String} (reached : c.ReachesDashboard) (target : c.target = .new name)
    (taken : slugTaken (slugify name) c.before = true) : c.point = .unplaced := by
  have refused : (c.target.refusal c.env c.before).isSome = true := by
    rw [target, Target.refusal, newDashboardRefusal, if_pos taken]
    rfl
  have kept : ¬c.target.Discards c.env c.recorded.isNone := by
    rw [target]
    exact id
  have fields : ¬c.fields.toOption.isNone = true := by
    simp [Option.isNone_iff_eq_none, Option.isSome_iff_ne_none.mp reached.fields]
  unfold point
  rw [if_neg (by simp [reached.dataset]), if_neg reached.metrics, if_neg fields, if_neg reached.chart, if_pos refused,
    if_neg kept]

theorem point_of_free {name : String} (reached : c.ReachesDashboard) (target : c.target = .new name)
    (free : slugTaken (slugify name) c.before = false) :
    c.point = .detach ∨ c.point = .detachAgain ∨ c.point = .report ∨ c.point = .done := by
  have accepted : ¬(c.target.refusal c.env c.before).isSome = true := by
    rw [target, Target.refusal, newDashboardRefusal, if_neg (by simp [free]), reached.dashboard]
    simp
  have fields : ¬c.fields.toOption.isNone = true := by
    simp [Option.isNone_iff_eq_none, Option.isSome_iff_ne_none.mp reached.fields]
  unfold point
  rw [if_neg (by simp [reached.dataset]), if_neg reached.metrics, if_neg fields, if_neg reached.chart, if_neg accepted]
  split_ifs <;> simp

/-- The new dashboard is stored with its slug. -/
theorem stored_new {name : String} (target : c.target = .new name) {p : Point}
    (opened : p = .detach ∨ p = .detachAgain ∨ p = .report ∨ p = .done) :
    ∃ d, (c.stored p).dashboards.get c.before.dashboards.next = some d ∧ d.slug = some (slugify name) := by
  have detached := c.detached_new target
  rcases opened with rfl | rfl | rfl | rfl
  · refine ⟨newDashboard c.env.user name, ?_, rfl⟩
    simp only [stored, Course.opened, target, Target.opened, afterChart_dashboards, Table.get_insert_next]
  · exact ⟨_, detached, rfl⟩
  · exact ⟨_, detached, rfl⟩
  · have aimed : c.dashboardId = some c.before.dashboards.next := by
      rw [dashboardId, target]
      rfl
    have published := c.published_target aimed
    rw [detached, Option.map_some] at published
    exact ⟨_, published, rfl⟩

end Course

/-! ## A free slug -/

/-- The publish stores a new dashboard, and no other dashboard has its slug. -/
def MakesFreshDashboard (m : Metadata) (r : Except PublishFailure PublishResult × Metadata) : Prop :=
  ∃ d, r.2.dashboards.get m.dashboards.next = some d ∧
    ∀ id d', id ≠ m.dashboards.next → r.2.dashboards.get id = some d' → d'.slug ≠ d.slug

/-- A publish under a new name makes its dashboard exactly where no dashboard has the slug of the name. -/
theorem makesFreshDashboard_iff {env : PublishEnv} {reportId : Nat} {report : ReportDesigner} {req : PublishRequest}
    {m : Metadata} {c : Course} {name : String} (started : courseOf env reportId report req m = some c)
    (target : targetOf req = .new name) (reached : c.ReachesDashboard) :
    MakesFreshDashboard m ((publishReport env reportId report req).finish m) ↔
      ∀ id d, m.dashboards.get id = some d → d.slug ≠ some (slugify name) := by
  have ends := publishReport_of_course started
  obtain ⟨-, rfl, rfl, rfl, rfl, rfl⟩ := courseOf_eq_some started
  have stored := ends.2
  have aimed : c.dashboardId = some c.before.dashboards.next := by
    rw [Course.dashboardId, Course.target, target]
    rfl
  have free_iff : (∀ id d, c.before.dashboards.get id = some d → d.slug ≠ some (slugify name)) ↔
      slugTaken (slugify name) c.before = false := by
    rw [← Bool.not_eq_true, slugTaken_iff]
    push Not
    rfl
  rw [free_iff, MakesFreshDashboard, stored]
  cases taken : slugTaken (slugify name) c.before with
  | true =>
    have point := c.point_of_taken reached target taken
    constructor
    · rintro ⟨d, there, -⟩
      rw [point, Course.stored, c.afterChart_dashboards, Table.get_next] at there
      cases there
    · intro free
      cases free
  | false =>
    constructor
    · intro _
      rfl
    · intro _
      obtain ⟨d, there, named⟩ := c.stored_new target (c.point_of_free reached target taken)
      refine ⟨d, there, ?_⟩
      intro id d' other found
      cases before : c.before.dashboards.get id with
      | none =>
        have absent : (c.stored c.point).dashboards.get id = c.before.dashboards.get id :=
          c.stored_dashboards_get c.point (fun same => other (Option.some.inj (same.symm.trans aimed)))
            (fun d held => by rw [before] at held; cases held)
        rw [absent, before] at found
        cases found
      | some old =>
        have kept := c.stored_dashboard before c.point
        obtain rfl := Option.some.inj (kept.symm.trans found)
        rw [c.board_slug, named]
        exact free_iff.mpr taken id old before

/-- One report and the dashboards with these names. -/
def dashboardsNamed (names : List String) : Metadata :=
  { oneReport with
    dashboards := names.foldl (fun t name => t.insert (newDashboard (some 1) name)) Table.empty }

def underName (name : String) : PublishRequest := ⟨"table", none, none, some name⟩

theorem otherName_makesFreshDashboard : MakesFreshDashboard (dashboardsNamed ["A b"])
    ((publishReport plainEnv 1 (unpublished "Sales" valuesOfA) (underName "B")).finish (dashboardsNamed ["A b"])) := by
  obtain ⟨c, started, reached⟩ : ∃ c, courseOf plainEnv 1 (unpublished "Sales" valuesOfA) (underName "B")
      (dashboardsNamed ["A b"]) = some c ∧ c.ReachesDashboard :=
    ⟨_, rfl, ⟨rfl, by decide, rfl, by decide, rfl⟩⟩
  apply (makesFreshDashboard_iff started rfl reached).mpr
  intro id d there
  obtain rfl : d = newDashboard (some 1) "A b" := by
    simp only [dashboardsNamed, List.foldl_cons, List.foldl_nil, Table.get_insert] at there
    split_ifs at there
    · exact (Option.some.inj there).symm
    · simp at there
  decide

/-- The names differ in a mark and in their case. -/
theorem sameSlug_not_fresh : slugify "A-B" = slugify "A b" ∧
    (∃ e, ((publishReport plainEnv 1 (unpublished "Sales" valuesOfA) (underName "A-B")).finish
      (dashboardsNamed ["A b"])).1 = .error e) ∧
    ¬MakesFreshDashboard (dashboardsNamed ["A b"])
      ((publishReport plainEnv 1 (unpublished "Sales" valuesOfA) (underName "A-B")).finish (dashboardsNamed ["A b"])) := by
  obtain ⟨c, started, reached⟩ : ∃ c, courseOf plainEnv 1 (unpublished "Sales" valuesOfA) (underName "A-B")
      (dashboardsNamed ["A b"]) = some c ∧ c.ReachesDashboard :=
    ⟨_, rfl, ⟨rfl, by decide, rfl, by decide, rfl⟩⟩
  have ends := publishReport_of_course started
  obtain ⟨-, -, -, -, request, before⟩ := courseOf_eq_some started
  have target : c.target = .new "A-B" := by
    rw [Course.target, request]
    rfl
  have taken : slugTaken (slugify "A-B") c.before = true := by
    rw [before]
    decide +kernel
  have point := c.point_of_taken reached target taken
  obtain ⟨answer, stored⟩ := ends
  rw [if_neg (by simp [point])] at answer
  refine ⟨by decide +kernel, answer, ?_⟩
  rintro ⟨d, there, -⟩
  rw [stored, point, Course.stored, c.afterChart_dashboards, before, Table.get_next] at there
  cases there

end XpBuilder.Publish
