import XpBuilder.Publish.Places
import XpBuilder.Publish.Requests
import XpBuilder.Publish.Atomicity

/-! What publish and unpublish requests may touch. The code looks dashboards and
the recorded chart up without any filter, so a request stays within the rights
of its user exactly when the rows it comes upon are ones the user may edit. -/

namespace XpBuilder.Publish
open PythonText (truthyId)
open Layout (chartKey)

/-- Who may see which dashboard, and who is an administrator. -/
structure Authority where
  mayAccess : Metadata → Option Nat → Nat → Bool
  isAdmin : Nat → Bool

namespace Authority

/-- `raise_for_ownership` passes. -/
def owns (A : Authority) (user : Option Nat) (owners : List Nat) : Bool :=
  user.any (fun u => A.isAdmin u || u ∈ owners)

/-- The user may access the dashboard and owns it. -/
def mayEdit (A : Authority) (m : Metadata) (user : Option Nat) (id : Nat) (d : Dashboard) : Bool :=
  A.mayAccess m user id && A.owns user d.owners

end Authority

/-- The same charts in the same places. -/
def SamePlaces (d d' : Dashboard) : Prop := d'.slices = d.slices ∧ d'.positionJson = d.positionJson

theorem SamePlaces.refl (d : Dashboard) : SamePlaces d d := ⟨rfl, rfl⟩

/-- From `m` to `m'` nothing changes that the user may not edit. -/
structure Respects (A : Authority) (user : Option Nat) (m m' : Metadata) : Prop where
  dashboards : ∀ id d, m.dashboards.get id = some d → A.mayEdit m user id d = false →
    ∃ d', m'.dashboards.get id = some d' ∧ SamePlaces d d'
  charts : ∀ k row, m.charts.get k = some row → A.owns user row.owners = false →
    m'.charts.get k = some row

theorem Respects.refl (A : Authority) (user : Option Nat) (m : Metadata) : Respects A user m m :=
  ⟨fun _ d h _ => ⟨d, h, .refl d⟩, fun _ _ h _ => h⟩

/-! ## Publishing -/

/-- The chart is listed and placed under its key already. -/
def Attached (chartId : Nat) (d : Dashboard) : Prop :=
  chartId ∈ d.slices ∧ ∃ l, d.positionJson = .layout l ∧ (l.get (chartKey chartId)).isSome

theorem attachChart_samePlaces_iff (ids : Layout.FreshIds) (chartId : Nat) (sliceName : String)
    (d : Dashboard) : SamePlaces d (attachChart ids chartId sliceName d) ↔ Attached chartId d := by
  unfold SamePlaces attachChart Attached
  constructor
  · rintro ⟨slices, position⟩
    simp only at slices position
    refine ⟨?_, ?_⟩
    · by_contra absent
      simp [absent] at slices
    · rw [← position]
      refine ⟨_, rfl, ?_⟩
      split
      · assumption
      · exact Layout.isSome_get_of_chartAt (Layout.chartAt_addChart_self _ _ _ _)
  · rintro ⟨listed, l, position, placed⟩
    simp [listed, position, PositionJson.load, placed]

theorem detachFrom_not_samePlaces {chartId : Nat} {d : Dashboard} (h : chartId ∈ d.slices) :
    ¬SamePlaces d (detachFrom chartId d) := by
  intro same
  have slices : (dropSlice chartId d).slices = d.slices := same.1
  rw [← slices] at h
  simp [dropSlice] at h

theorem dropSlice_samePlaces_iff (chartId : Nat) (d : Dashboard) :
    SamePlaces d (dropSlice chartId d) ↔ chartId ∉ d.slices := by
  constructor
  · rintro ⟨slices, -⟩ listed
    rw [← slices] at listed
    simp [dropSlice] at listed
  · intro absent
    rw [dropSlice_of_not_mem absent]
    exact .refl d

namespace Course
variable (c : Course)

/-- The publish stays within the rights of the user on what it comes upon. -/
structure Permitted (A : Authority) : Prop where
  chart : c.point.charted → ∀ id row, c.recorded = some id → c.before.charts.get id = some row →
    A.owns c.env.user row.owners ∨ ∀ f, c.fields = .ok f → rewriteChart c.env.user f row = row
  discarded : c.point = .discarded → ∀ id d, c.before.dashboards.get id = some d →
    c.chartId ∈ d.slices → A.mayEdit c.before c.env.user id d
  detached : c.point.detached → ∀ id d, c.before.dashboards.get id = some d →
    c.chartId ∈ d.slices → c.target ≠ .existing id → A.mayEdit c.before c.env.user id d
  target : c.point = .done → ∀ id d, c.before.dashboards.get id = some d →
    c.target = .existing id → A.mayEdit c.before c.env.user id d ∨ Attached c.chartId d

theorem leave_samePlaces_iff (id : Nat) (d : Dashboard) :
    SamePlaces d (c.leave id d) ↔ (c.chartId ∈ d.slices → c.target = .existing id) := by
  unfold leave
  by_cases leaves : c.chartId ∈ d.slices ∧ c.target ≠ .existing id
  · rw [if_pos leaves]
    exact iff_of_false (detachFrom_not_samePlaces leaves.1) (fun h => leaves.2 (h leaves.1))
  · rw [if_neg leaves]
    refine iff_of_true (.refl d) (fun listed => ?_)
    by_contra other
    exact leaves ⟨listed, other⟩

theorem chart_respected_iff (A : Authority) :
    (∀ k row, c.before.charts.get k = some row → A.owns c.env.user row.owners = false →
      (c.stored c.point).charts.get k = some row) ↔
    (c.point.charted → ∀ id row, c.recorded = some id → c.before.charts.get id = some row →
      A.owns c.env.user row.owners ∨
        ∀ f, c.fields = .ok f → rewriteChart c.env.user f row = row) := by
  constructor
  · intro kept charted id row recorded found
    by_cases owned : A.owns c.env.user row.owners
    · exact .inl owned
    · refine .inr (fun f fields => ?_)
      have same := kept id row found (by simpa using owned)
      rcases c.stored_recorded recorded found with ⟨uncharted, -⟩ | ⟨g, -, hg, written⟩
      · simp [charted] at uncharted
      · obtain rfl : f = g := Except.ok.inj (fields.symm.trans hg)
        exact Option.some.inj (written.symm.trans same)
  · intro permitted k row found foreign
    by_cases own : k = c.chartId
    · cases recorded : c.recorded with
      | none =>
        rw [own, c.chartId_of_new recorded, Table.get_next] at found
        exact absurd found (by simp)
      | some id =>
        obtain rfl : k = id := own.trans (c.chartId_of_recorded recorded)
        rcases c.stored_recorded recorded found with ⟨-, kept⟩ | ⟨f, charted, fields, written⟩
        · exact kept
        · rcases permitted charted k row recorded found with owned | same
          · rw [owned] at foreign
            exact absurd foreign (by simp)
          · rw [written, same f fields]
    · rw [c.stored_charts_get _ own, found]

/-- A publish respects the rights of its user exactly when it stays within them. -/
theorem respects_iff_permitted (A : Authority) :
    Respects A c.env.user c.before (c.stored c.point) ↔ c.Permitted A := by
  have board : ∀ {id d}, c.before.dashboards.get id = some d →
      ((∃ d', (c.stored c.point).dashboards.get id = some d' ∧ SamePlaces d d') ↔
        SamePlaces d (c.board id d c.point)) := by
    intro id d found
    rw [c.stored_dashboard found]
    simp
  constructor
  · intro respects
    refine ⟨(c.chart_respected_iff A).mp respects.charts, ?_, ?_, ?_⟩
    · intro point id d found listed
      by_contra foreign
      have same := (board found).mp (respects.dashboards id d found (by simpa using foreign))
      rw [point] at same
      exact (dropSlice_samePlaces_iff _ _).mp same listed
    · intro detached id d found listed other
      by_contra foreign
      have same := (board found).mp (respects.dashboards id d found (by simpa using foreign))
      have left : c.board id d c.point = c.leave id d := by
        cases point : c.point <;> simp [point, Point.detached, Course.board, other] at detached ⊢
      rw [left] at same
      exact other ((c.leave_samePlaces_iff id d).mp same listed)
    · intro point id d found target
      by_cases foreign : A.mayEdit c.before c.env.user id d = true
      · exact .inl foreign
      · have same := (board found).mp (respects.dashboards id d found (by simpa using foreign))
        simp only [point, Course.board, if_pos target] at same
        exact .inr ((attachChart_samePlaces_iff _ _ _ _).mp same)
  · intro permitted
    refine ⟨fun id d found foreign => (board found).mpr ?_,
      (c.chart_respected_iff A).mpr permitted.chart⟩
    have left : c.point.detached → SamePlaces d (c.leave id d) := by
      intro detached
      rw [c.leave_samePlaces_iff]
      intro listed
      by_contra other
      rw [permitted.detached detached id d found listed other] at foreign
      exact absurd foreign (by simp)
    cases point : c.point with
    | dataset | metrics | params | chart | unplaced | detach => exact .refl d
    | discarded =>
      refine (dropSlice_samePlaces_iff _ _).mpr (fun listed => ?_)
      rw [permitted.discarded point id d found listed] at foreign
      exact absurd foreign (by simp)
    | detachAgain | report => exact left (by simp [point, Point.detached])
    | done =>
      by_cases target : c.target = .existing id
      · simp only [Course.board, if_pos target, attachChart_samePlaces_iff]
        rcases permitted.target point id d found target with allowed | attached
        · rw [allowed] at foreign
          exact absurd foreign (by simp)
        · exact attached
      · simp only [Course.board, if_neg target]
        exact left (by simp [point, Point.detached])

end Course
/-! ## Unpublishing -/

/-- The recorded chart is neither listed nor placed on the dashboard, and its
position document is a layout, so that taking the chart off rewrites nothing. -/
def OffAlready (chartId : Option Nat) (d : Dashboard) : Prop :=
  (∀ c ∈ d.slices, some c ≠ chartId) ∧
    ∃ l, d.positionJson = .layout l ∧ l.get (recordedKey chartId) = none

theorem unplace_samePlaces_iff {chartId : Option Nat} {d d' : Dashboard}
    (h : unplace chartId d = some d') : SamePlaces d d' ↔ OffAlready chartId d := by
  obtain ⟨position, found, rfl⟩ := Option.map_eq_some_iff.mp h
  have slices : d.slices.filter (fun c => some c ≠ chartId) = d.slices ↔
      ∀ c ∈ d.slices, some c ≠ chartId := by
    rw [List.filter_eq_self]
    simp
  have layout : position = d.positionJson ↔
      ∃ l, d.positionJson = .layout l ∧ l.get (recordedKey chartId) = none := by
    cases document : d.positionJson with
    | absent | unreadable =>
      rw [document] at found
      have written := Option.some.inj found
      simp [← written]
    | notDict searchable =>
      rw [document] at found
      cases searchable with
      | false => simp at found
      | true =>
        have written := Option.some.inj found
        simp [← written]
    | layout l =>
      rw [document] at found
      have written := Option.some.inj found
      simp only [← written, PositionJson.load, Option.getD_some, PositionJson.layout.injEq,
        exists_eq_left']
      constructor
      · intro same
        rw [← same]
        exact Layout.get_removeKey_self l _
      · exact Layout.removeKey_of_none
  simp only [SamePlaces, OffAlready, slices, layout]

namespace Withdrawal
variable (w : Withdrawal)

/-- The unpublish stays within the rights of the user on what it comes upon. -/
structure Permitted (A : Authority) : Prop where
  chart : w.point.uncharted → ∀ k row, w.chart = some k → w.before.charts.get k = some row →
    A.owns w.env.user row.owners
  listed : w.point.uncharted → ∀ k id d, w.chart = some k → w.before.dashboards.get id = some d →
    k ∈ d.slices → A.mayEdit w.before w.env.user id d
  board : w.point ≠ .unplace → ∀ id d, w.before.dashboards.get id = some d →
    truthyId w.report.dashboardId = some id →
    A.mayEdit w.before w.env.user id d ∨ OffAlready w.report.chartId d

/-- Past the first commit the position document could be searched. -/
theorem unplace_of_point (h : w.point ≠ .unplace) {id : Nat} {d : Dashboard}
    (found : w.before.dashboards.get id = some d)
    (recorded : truthyId w.report.dashboardId = some id) :
    ∃ d', Publish.unplace w.report.chartId d = some d' := by
  cases searched : Publish.unplace w.report.chartId d with
  | some d' => exact ⟨d', rfl⟩
  | none =>
    have refused : w.unplaceRefused := by
      simp [unplaceRefused, Withdrawal.board, recorded, found, searched]
    exact absurd (by simp [point, refused]) h

theorem takenOff_samePlaces_iff (h : w.point ≠ .unplace) {id : Nat} {d : Dashboard}
    (found : w.before.dashboards.get id = some d) :
    SamePlaces d (w.takenOff id d) ↔
      (truthyId w.report.dashboardId = some id → OffAlready w.report.chartId d) := by
  unfold takenOff
  by_cases recorded : truthyId w.report.dashboardId = some id
  · obtain ⟨d', off⟩ := w.unplace_of_point h found recorded
    rw [if_pos recorded, off, Option.getD_some, unplace_samePlaces_iff off]
    simp [recorded]
  · rw [if_neg recorded]
    exact iff_of_true (.refl d) (fun h => absurd h recorded)

theorem takenOff_slices (id : Nat) (d : Dashboard) :
    (w.takenOff id d).slices.Sublist d.slices := by
  unfold takenOff
  split
  · cases off : Publish.unplace w.report.chartId d with
    | none => exact List.Sublist.refl _
    | some d' =>
      obtain ⟨position, -, rfl⟩ := Option.map_eq_some_iff.mp off
      exact List.filter_sublist
  · exact List.Sublist.refl _

/-- Both edits of a dashboard leave it alone only if each does. -/
theorem dropSlice_takenOff_samePlaces_iff (k id : Nat) (d : Dashboard) :
    SamePlaces d (dropSlice k (w.takenOff id d)) ↔
      SamePlaces d (w.takenOff id d) ∧ k ∉ d.slices := by
  constructor
  · rintro ⟨slices, position⟩
    have unlisted : k ∉ d.slices := by
      intro listed
      rw [← slices] at listed
      simp [dropSlice] at listed
    have dropped := dropSlice_of_not_mem (fun h => unlisted ((w.takenOff_slices id d).subset h))
    rw [dropped] at slices position
    exact ⟨⟨slices, position⟩, unlisted⟩
  · rintro ⟨same, unlisted⟩
    rw [dropSlice_of_not_mem (fun h => unlisted ((w.takenOff_slices id d).subset h))]
    exact same

theorem chart_respected_iff (A : Authority) :
    (∀ k row, w.before.charts.get k = some row → A.owns w.env.user row.owners = false →
      (w.stored w.point).charts.get k = some row) ↔
    (w.point.uncharted → ∀ k row, w.chart = some k → w.before.charts.get k = some row →
      A.owns w.env.user row.owners) := by
  simp only [w.stored_charts]
  constructor
  · intro kept uncharted k row chart found
    by_contra foreign
    have same := kept k row found (by simpa using foreign)
    rw [if_pos ⟨uncharted, chart⟩] at same
    exact absurd same (by simp)
  · intro permitted k row found foreign
    by_cases deleted : w.point.uncharted ∧ w.chart = some k
    · rw [permitted deleted.1 k row deleted.2 found] at foreign
      exact absurd foreign (by simp)
    · rw [if_neg deleted, found]

/-- What becomes of a dashboard once the unpublish is past its first commit. -/
theorem boardAfter_samePlaces_iff (h : w.point ≠ .unplace) {id : Nat} {d : Dashboard}
    (found : w.before.dashboards.get id = some d) :
    SamePlaces d (w.boardAfter id d w.point) ↔
      (truthyId w.report.dashboardId = some id → OffAlready w.report.chartId d) ∧
        (w.point.uncharted → ∀ k, w.chart = some k → k ∉ d.slices) := by
  have off := w.takenOff_samePlaces_iff h found
  have dropped : SamePlaces d (w.boardAfter id d .done) ↔
      (truthyId w.report.dashboardId = some id → OffAlready w.report.chartId d) ∧
        ∀ k, w.chart = some k → k ∉ d.slices := by
    unfold boardAfter
    cases w.chart with
    | none => simp [off]
    | some k => simp [w.dropSlice_takenOff_samePlaces_iff, off]
  cases point : w.point with
  | unplace => exact absurd point h
  | deleteChart => simpa [boardAfter, Point.uncharted] using off
  | deleteDataset | clear | done =>
    simp only [Point.uncharted, true_implies]
    exact dropped

/-- An unpublish respects the rights of its user exactly when it stays within them. -/
theorem respects_iff_permitted (A : Authority) :
    Respects A w.env.user w.before (w.stored w.point) ↔ w.Permitted A := by
  have board : ∀ {id d}, w.before.dashboards.get id = some d →
      ((∃ d', (w.stored w.point).dashboards.get id = some d' ∧ SamePlaces d d') ↔
        SamePlaces d (w.boardAfter id d w.point)) := by
    intro id d found
    rw [w.stored_dashboard found]
    simp
  have early : w.point.uncharted → w.point ≠ .unplace := by
    intro uncharted point
    simp [point, Point.uncharted] at uncharted
  constructor
  · intro respects
    refine ⟨(w.chart_respected_iff A).mp respects.charts, ?_, ?_⟩
    · intro uncharted k id d chart found listed
      by_contra foreign
      have same := (board found).mp (respects.dashboards id d found (by simpa using foreign))
      rw [w.boardAfter_samePlaces_iff (early uncharted) found] at same
      exact same.2 uncharted k chart listed
    · intro point id d found recorded
      by_cases foreign : A.mayEdit w.before w.env.user id d = true
      · exact .inl foreign
      · have same := (board found).mp (respects.dashboards id d found (by simpa using foreign))
        rw [w.boardAfter_samePlaces_iff point found] at same
        exact .inr (same.1 recorded)
  · intro permitted
    refine ⟨fun id d found foreign => (board found).mpr ?_,
      (w.chart_respected_iff A).mpr permitted.chart⟩
    by_cases point : w.point = .unplace
    · rw [point]
      exact .refl d
    · rw [w.boardAfter_samePlaces_iff point found]
      refine ⟨fun recorded => ?_, fun uncharted k chart listed => ?_⟩
      · rcases permitted.board point id d found recorded with allowed | off
        · rw [allowed] at foreign
          exact absurd foreign (by simp)
        · exact off
      · rw [permitted.listed uncharted k id d chart found listed] at foreign
        exact absurd foreign (by simp)

end Withdrawal
/-! ## Runs of requests -/

namespace Action

def SentBy (user : Option Nat) : Action → Prop
  | .publish env _ _ => env.user = user
  | .unpublish env _ => env.user = user
  | _ => False

/-- A publish or unpublish changes nothing its user may not edit. -/
def Respectful (A : Authority) (m : Metadata) : Action → Prop
  | .publish env reportId req => Respects A env.user m (act m (.publish env reportId req))
  | .unpublish env reportId => Respects A env.user m (act m (.unpublish env reportId))
  | _ => True

/-- What a publish or unpublish comes upon its user may edit. -/
def Permitted (A : Authority) (m : Metadata) : Action → Prop
  | .publish env reportId req => ∀ c, requestCourse env reportId req m = some c → c.Permitted A
  | .unpublish env reportId => ∀ w, requestWithdrawal env reportId m = some w → w.Permitted A
  | _ => True

end Action

theorem respectful_iff_permitted (A : Authority) (m : Metadata) (a : Action) :
    a.Respectful A m ↔ a.Permitted A m := by
  cases a with
  | publish env reportId req =>
    simp only [Action.Respectful, Action.Permitted, act]
    cases course : requestCourse env reportId req m with
    | none =>
      rw [(apiPublish_of_none course).1]
      exact iff_of_true (.refl A _ m) (by simp)
    | some c =>
      obtain ⟨-, user, -, -, before⟩ := requestCourse_eq_some course
      rw [(apiPublish_of_course course).1, ← user, ← before, c.respects_iff_permitted A]
      simp
  | unpublish env reportId =>
    simp only [Action.Respectful, Action.Permitted, act]
    cases withdrawal : requestWithdrawal env reportId m with
    | none =>
      rw [(apiUnpublish_of_none withdrawal).1]
      exact iff_of_true (.refl A _ m) (by simp)
    | some w =>
      obtain ⟨report, -, rfl⟩ := Option.map_eq_some_iff.mp withdrawal
      rw [(apiUnpublish_of_withdrawal withdrawal).1]
      have exact' := Withdrawal.respects_iff_permitted ⟨env, m, reportId, report⟩ A
      simpa using exact'
  | create _ _ | save _ _ _ | delete _ _ | outside _ => exact Iff.rfl

/-- Over the run, a dashboard the user may edit in none of its states keeps its
charts, and a chart the user does not own stays as it is. -/
structure KeepsForeign (A : Authority) (user : Option Nat) (m : Metadata) (run : List Action) :
    Prop where
  dashboards : ∀ id d, m.dashboards.get id = some d →
    Runs.Each act (fun s _ => ∀ d, s.dashboards.get id = some d → A.mayEdit s user id d = false)
      m run →
    ∃ d', (Runs.after act m run).dashboards.get id = some d' ∧ SamePlaces d d'
  charts : ∀ k row, m.charts.get k = some row → A.owns user row.owners = false →
    (Runs.after act m run).charts.get k = some row

/-- A request of the user that is respectful, read off the state it leads to. -/
theorem respects_of_sentBy {A : Authority} {user : Option Nat} {m : Metadata} {a : Action}
    (sent : a.SentBy user) (respectful : a.Respectful A m) : Respects A user m (act m a) := by
  cases a with
  | publish env reportId req =>
    obtain rfl : env.user = user := sent
    exact respectful
  | unpublish env reportId =>
    obtain rfl : env.user = user := sent
    exact respectful
  | create _ _ | save _ _ _ | delete _ _ | outside _ => exact sent.elim

theorem keepsForeign_of_respectful {A : Authority} {user : Option Nat} {m : Metadata}
    {run : List Action} (sent : ∀ a ∈ run, a.SentBy user)
    (respectful : Runs.Each act (fun s a => a.Respectful A s) m run) :
    KeepsForeign A user m run := by
  have steps := (Runs.Each.of_forall_mem sent).and respectful
  constructor
  · intro id d found foreign
    refine (Runs.Each.of_invariant (Q := fun _ _ => True)
      (I := fun s => ∃ d', s.dashboards.get id = some d' ∧ SamePlaces d d') ?_ ⟨d, found, .refl d⟩
      (steps.and foreign)).2
    rintro s a ⟨d', now, same⟩ ⟨⟨mine, quiet⟩, apart⟩
    obtain ⟨d'', next, kept⟩ := (respects_of_sentBy mine quiet).dashboards id d' now (apart d' now)
    exact ⟨trivial, d'', next, kept.1.trans same.1, kept.2.trans same.2⟩
  · intro k row found foreign
    refine (Runs.Each.of_invariant (Q := fun _ _ => True)
      (I := fun s => s.charts.get k = some row) ?_ found steps).2
    rintro s a now ⟨mine, quiet⟩
    exact ⟨trivial, (respects_of_sentBy mine quiet).charts k row now foreign⟩

/-- In a run whose publishes and unpublishes come only upon rows that their users
may edit, each of them changes nothing else, and a user who sends all of them
leaves every foreign dashboard and chart as it was. -/
theorem requests_keepForeign (A : Authority) (m : Metadata) (run : List Action)
    (permitted : Runs.Each act (fun s a => a.Permitted A s) m run) :
    Runs.Each act (fun s a => a.Respectful A s) m run ∧
      ∀ user, (∀ a ∈ run, a.SentBy user) → KeepsForeign A user m run := by
  have respectful : Runs.Each act (fun s a => a.Respectful A s) m run :=
    permitted.mono (fun s a h => (respectful_iff_permitted A s a).mpr h)
  exact ⟨respectful, fun user sent => keepsForeign_of_respectful sent respectful⟩

def ownersOnly : Authority := ⟨fun _ _ _ => true, fun _ => false⟩

/-- One report, and a dashboard of user 1. -/
def oneDashboard : Metadata :=
  { oneReport with
    dashboards := Table.empty.insert ⟨"Board", some "board", [], .absent, [1], true⟩ }

def onDashboard (viz : String) (id : Nat) : PublishRequest := ⟨viz, none, some id, none⟩

theorem oneDashboard_owners {id : Nat} {d : Dashboard}
    (h : oneDashboard.dashboards.get id = some d) : d.owners = [1] := by
  simp only [oneDashboard, Table.get_insert] at h
  split_ifs at h
  · rw [← Option.some.inj h]
  · simp at h

/-- User 1 publishes on the dashboard that user 1 owns. -/
theorem ownDashboard_keepForeign :
    Runs.Each act (fun s a => a.Respectful ownersOnly s) oneDashboard
        [.publish plainEnv 1 (onDashboard "table" 1)] ∧
      ∀ user, (∀ a ∈ [Action.publish plainEnv 1 (onDashboard "table" 1)], a.SentBy user) →
        KeepsForeign ownersOnly user oneDashboard [.publish plainEnv 1 (onDashboard "table" 1)] := by
  refine requests_keepForeign ownersOnly oneDashboard _ ⟨fun c course => ?_, trivial⟩
  obtain ⟨report, user, -, -, before⟩ := requestCourse_eq_some course
  have owned : ∀ id d, c.before.dashboards.get id = some d →
      ownersOnly.mayEdit c.before c.env.user id d := by
    intro id d found
    rw [before] at found
    simp [Authority.mayEdit, Authority.owns, ownersOnly, user, plainEnv, oneDashboard_owners found]
  refine ⟨fun _ id row _ found => ?_, fun _ id d found _ => owned id d found,
    fun _ id d found _ _ => owned id d found, fun _ id d found _ => .inl (owned id d found)⟩
  rw [before] at found
  simp [oneDashboard, oneReport] at found

/-- User 2 publishes on the dashboard of user 1, and the chart is there. -/
theorem foreignDashboard_not_keepForeign :
    ¬∀ user, (∀ a ∈ [Action.publish { plainEnv with user := some 2 } 1 (onDashboard "table" 1)],
      a.SentBy user) → KeepsForeign ownersOnly user oneDashboard
        [.publish { plainEnv with user := some 2 } 1 (onDashboard "table" 1)] := by
  intro all
  have keeps := all (some 2) (by simp [Action.SentBy])
  obtain ⟨d', found, slices, -⟩ := keeps.dashboards 1 _ rfl ⟨by
    intro d h
    simp [Authority.mayEdit, Authority.owns, ownersOnly, oneDashboard_owners h], trivial⟩
  obtain ⟨d'', now, listed⟩ : ∃ d'', (Runs.after act oneDashboard
      [.publish { plainEnv with user := some 2 } 1 (onDashboard "table" 1)]).dashboards.get 1 =
      some d'' ∧ d''.slices = [1] := ⟨_, rfl, rfl⟩
  obtain rfl : d' = d'' := Option.some.inj (found.symm.trans now)
  rw [listed] at slices
  simp at slices

end XpBuilder.Publish
