import XpBuilder.Publish.Authorisation

/-! Where the published chart stands. A chart is placed twice, in the slices of a
dashboard and in its position tree, and the code looks it up in the tree by its
own key only; so a publish leaves it on exactly the recorded dashboard as long
as nobody has placed it under another key. -/

namespace XpBuilder

/-- The components the code works on: none when the document is no layout. -/
def PositionJson.tree (p : PositionJson) : Layout := p.load.getD Dict.empty

namespace Layout

/-- Every node that shows the chart is under its key. -/
def OnlyUnderKey (l : Layout) (chartId : Nat) : Prop :=
  ∀ k, l.chartAt k = some chartId → k = chartKey chartId

/-- The tree refers to the chart: by its key, by a node or by a child. -/
def Mentions (l : Layout) (chartId : Nat) : Prop :=
  (l.get (chartKey chartId)).isSome ∨ (∃ k, l.chartAt k = some chartId) ∨
    ∃ k n, l.nodeAt k = some n ∧ chartKey chartId ∈ n.childIds

/-- At most one COLUMN refers to the key, once, and the key is there. -/
def SoleReference (l : Layout) (key : String) : Prop :=
  ∀ k n, k ≠ key → l.nodeAt k = some n → key ∈ n.childIds →
    (l.get key).isSome ∧ n.type = .column ∧ n.childIds.count key = 1 ∧
      ∀ k' n', k' ≠ key → l.nodeAt k' = some n' → key ∈ n'.childIds → k' = k

theorem keysOf_removeKey {l : Layout} {chartId : Nat} (h : l.OnlyUnderKey chartId) :
    (l.removeKey (chartKey chartId)).keysOf chartId = [] := by
  rw [keysOf_eq_nil_iff]
  intro k shown
  obtain ⟨old, other⟩ := chartAt_removeKey shown
  exact other (h k old)

theorem keysOf_addChart {l : Layout} {chartId : Nat} (h : ∀ k, l.chartAt k ≠ some chartId)
    (ids : FreshIds) (sliceName : String) :
    (l.addChart ids chartId sliceName).keysOf chartId = [chartKey chartId] := by
  apply keysOf_eq_singleton
  intro k
  rw [chartAt_addChart]
  constructor
  · intro shown
    split_ifs at shown with fresh key
    · exact key
    · exact absurd shown (h k)
  · rintro rfl
    have row := (row_ne_chartKey ids chartId).symm
    have column := (column_ne_chartKey ids chartId).symm
    simp [row, column]

/-- The child lists after the removal: the one COLUMN that referred to the key
loses it or goes away. -/
theorem childIds_removeKey {l : Layout} {key : String} (sole : l.SoleReference key) {k : String}
    {n : Node} (hn : (l.removeKey key).nodeAt k = some n) : key ∉ n.childIds := by
  obtain ⟨old, popped, -, -, below⟩ := shrunk_removeKey l key k n hn
  have kept := popped
  rw [nodeAt_erase] at popped
  split_ifs at popped with other
  intro holds
  obtain ⟨present, column, once, only⟩ := sole k old other popped (below.subset holds)
  unfold removeKey at hn
  have here : ¬(l.get key).isNone = true := by simp [Option.isSome_iff_ne_none.mp present]
  rw [if_neg here] at hn
  simp only at hn
  cases holder : firstHolder (l.erase key) .column key with
  | none => exact firstHolder_eq_none holder kept column (below.subset holds)
  | some p =>
    obtain ⟨colKey, col⟩ := p
    obtain ⟨found, type, child⟩ := firstHolder_eq_some holder
    have there := found
    rw [nodeAt_erase] at there
    split_ifs at there with apart
    obtain rfl : colKey = k := only colKey col apart there child
    obtain rfl : col = old := Option.some.inj (found.symm.trans kept)
    simp only [holder] at hn
    split_ifs at hn with empty
    · obtain ⟨m, gone, -⟩ := shrunk_dropColumn _ _ _ _ hn
      rw [nodeAt_erase, if_pos rfl] at gone
      exact absurd gone (by simp)
    · rw [nodeAt_modifyNode, if_pos rfl, found, Option.map_some] at hn
      rw [← Option.some.inj hn, removeChild_childIds] at holds
      have count := List.count_erase_self (a := key) (l := col.childIds)
      have positive := List.count_pos_iff.mpr holds
      omega

theorem not_mentions_removeKey {l : Layout} {chartId : Nat} (only : l.OnlyUnderKey chartId)
    (sole : l.SoleReference (chartKey chartId)) :
    ¬(l.removeKey (chartKey chartId)).Mentions chartId := by
  rintro (present | ⟨k, shown⟩ | ⟨k, n, hn, child⟩)
  · rw [get_removeKey_self] at present
    exact absurd present (by simp)
  · obtain ⟨old, other⟩ := chartAt_removeKey shown
    exact other (only k old)
  · exact childIds_removeKey sole hn child

end Layout

namespace Publish
open PythonText (truthyId)
open Layout (chartKey)

theorem tree_detachFrom (chartId : Nat) (d : Dashboard) :
    (detachFrom chartId d).positionJson.tree = d.positionJson.tree.removeChart chartId := by
  unfold detachFrom PositionJson.tree
  cases document : d.positionJson.load with
  | some l => rfl
  | none =>
    simp only [document, Option.getD_none]
    exact (Layout.removeKey_of_none rfl).symm

theorem tree_attachChart (ids : Layout.FreshIds) (chartId : Nat) (sliceName : String)
    (d : Dashboard) :
    (attachChart ids chartId sliceName d).positionJson.tree =
      if (d.positionJson.tree.get (chartKey chartId)).isSome then d.positionJson.tree
      else d.positionJson.tree.addChart ids chartId sliceName := rfl

theorem tree_unplace {chartId : Option Nat} {d d' : Dashboard} (h : unplace chartId d = some d') :
    d'.positionJson.tree = d.positionJson.tree.removeKey (recordedKey chartId) := by
  obtain ⟨position, found, rfl⟩ := Option.map_eq_some_iff.mp h
  unfold PositionJson.tree
  cases document : d.positionJson with
  | absent | unreadable | layout l =>
    rw [document] at found
    rw [← Option.some.inj found]
    rfl
  | notDict searchable =>
    rw [document] at found
    cases searchable with
    | false => simp at found
    | true =>
      rw [← Option.some.inj found]
      exact (Layout.removeKey_of_none rfl).symm

/-! ## After a publish -/

/-- The chart is listed on the target and nowhere else, and shown by exactly one
node there and by none elsewhere. -/
structure Placed (chartId : Nat) (target : Option Nat) (m : Metadata) : Prop where
  there : ∀ id, target = some id → (m.dashboards.get id).isSome
  slices : ∀ id d, m.dashboards.get id = some d → (chartId ∈ d.slices ↔ target = some id)
  nodes : ∀ id d, m.dashboards.get id = some d →
    (d.positionJson.tree.keysOf chartId).length = if target = some id then 1 else 0

/-- The chart stands where the report says. -/
def PlacedAsRecorded (reportId : Nat) (m : Metadata) : Prop :=
  ∃ report chartId, m.reports.get reportId = some report ∧ report.chartId = some chartId ∧
    Placed chartId report.dashboardId m

namespace Course
variable (c : Course)

/-- The publish can find the chart wherever it stands: on a dashboard that lists it
only under its key, on the target also nowhere else, and on no other dashboard. -/
structure Findable : Prop where
  listed : ∀ id d, c.before.dashboards.get id = some d → c.target ≠ .existing id →
    c.chartId ∈ d.slices → d.positionJson.tree.OnlyUnderKey c.chartId
  unlisted : ∀ id d, c.before.dashboards.get id = some d → c.target ≠ .existing id →
    c.chartId ∉ d.slices → ∀ k, d.positionJson.tree.chartAt k ≠ some c.chartId
  target : ∀ id d, c.before.dashboards.get id = some d → c.target = .existing id →
    d.positionJson.tree.OnlyUnderKey c.chartId ∧
      ((d.positionJson.tree.get (chartKey c.chartId)).isSome →
        d.positionJson.tree.chartAt (chartKey c.chartId) = some c.chartId)

theorem attachChart_slices (ids : Layout.FreshIds) (chartId : Nat) (sliceName : String)
    (d : Dashboard) : chartId ∈ (attachChart ids chartId sliceName d).slices := by
  unfold attachChart
  simp only
  split
  · assumption
  · simp

theorem attachChart_nodes {chartId : Nat} {d : Dashboard}
    (only : d.positionJson.tree.OnlyUnderKey chartId)
    (shown : (d.positionJson.tree.get (chartKey chartId)).isSome →
      d.positionJson.tree.chartAt (chartKey chartId) = some chartId)
    (ids : Layout.FreshIds) (sliceName : String) :
    (attachChart ids chartId sliceName d).positionJson.tree.keysOf chartId =
      [chartKey chartId] := by
  rw [tree_attachChart]
  split
  · next present =>
    apply Layout.keysOf_eq_singleton
    intro k
    constructor
    · exact only k
    · rintro rfl
      exact shown present
  · next absent =>
    refine Layout.keysOf_addChart (fun k hk => absent ?_) ids sliceName
    rw [← only k hk]
    exact Layout.isSome_get_of_chartAt hk

/-- The target after the publish. -/
theorem published_target {id : Nat} (h : c.dashboardId = some id) :
    c.published.dashboards.get id =
      (c.detached.dashboards.get id).map (attachChart c.env.freshIds c.chartId c.sliceName) := by
  unfold published recordPublish Target.attached
  rw [c.dashboardId_afterChart, h]
  exact Table.get_update_self _ _ _

/-- A new dashboard is not detached. -/
theorem detached_new {name : String} (h : c.target = .new name) :
    c.detached.dashboards.get c.before.dashboards.next = some (newDashboard c.env.user name) := by
  have opened : c.opened.dashboards.get c.before.dashboards.next =
      some (newDashboard c.env.user name) := by
    simp only [opened, h, Target.opened, afterChart_dashboards, Table.get_insert_next]
  have shape := detachAll_get c.chartId c.target.kept c.opened c.before.dashboards.next
  have free : c.chartId ∉ (newDashboard c.env.user name).slices := by simp [newDashboard]
  rw [opened, Option.map_some, if_neg (fun h => free h.1)] at shape
  exact shape

/-- The dashboards there are after the publish. -/
theorem published_dashboard {id : Nat} {d' : Dashboard}
    (h : c.published.dashboards.get id = some d') :
    (∃ d, c.before.dashboards.get id = some d ∧ d' = c.board id d .done) ∨
      ∃ name, c.target = .new name ∧ id = c.before.dashboards.next ∧
        d' = attachChart c.env.freshIds c.chartId c.sliceName (newDashboard c.env.user name) := by
  cases found : c.before.dashboards.get id with
  | some d =>
    have after := c.stored_dashboard found .done
    exact .inl ⟨d, rfl, Option.some.inj (h.symm.trans after)⟩
  | none =>
    by_cases aimed : c.dashboardId = some id
    · rw [c.published_target aimed] at h
      unfold dashboardId at aimed
      cases target : c.target with
      | new name =>
        rw [target] at aimed
        obtain rfl : c.before.dashboards.next = id := Option.some.inj aimed
        rw [c.detached_new target, Option.map_some] at h
        exact .inr ⟨name, rfl, rfl, (Option.some.inj h).symm⟩
      | existing i =>
        have shape := detachAll_get c.chartId c.target.kept c.opened id
        have opened : c.opened.dashboards.get id = none := by
          simpa [opened, target, Target.opened] using found
        have absent : c.detached.dashboards.get id = none := by
          rw [opened] at shape
          exact shape
        rw [absent] at h
        exact absurd h (by simp)
      | nowhere =>
        rw [target] at aimed
        exact absurd aimed (by simp [Target.dashboardId])
    · rw [c.published_dashboards_get aimed, c.detached_dashboards_get aimed, found] at h
      exact absurd h (by simp)

theorem leave_not_listed {id : Nat} (d : Dashboard) (other : c.target ≠ .existing id) :
    c.chartId ∉ (c.leave id d).slices := by
  unfold leave
  by_cases listed : c.chartId ∈ d.slices
  · rw [if_pos ⟨listed, other⟩]
    simp [detachFrom, dropSlice]
  · rw [if_neg (fun h => listed h.1)]
    exact listed

theorem leave_nodes (h : c.Findable) {id : Nat} {d : Dashboard}
    (found : c.before.dashboards.get id = some d) (other : c.target ≠ .existing id) :
    (c.leave id d).positionJson.tree.keysOf c.chartId = [] := by
  unfold leave
  by_cases listed : c.chartId ∈ d.slices
  · rw [if_pos ⟨listed, other⟩, tree_detachFrom]
    exact Layout.keysOf_removeKey (h.listed id d found other listed)
  · rw [if_neg (fun h => listed h.1), Layout.keysOf_eq_nil_iff]
    exact h.unlisted id d found other listed

theorem newDashboard_nodes (user : Option Nat) (name : String) (chartId : Nat)
    (ids : Layout.FreshIds) (sliceName : String) :
    (attachChart ids chartId sliceName (newDashboard user name)).positionJson.tree.keysOf chartId =
      [chartKey chartId] := by
  have empty : ∀ k, (newDashboard user name).positionJson.tree.chartAt k = none := fun _ => rfl
  refine attachChart_nodes (fun k hk => ?_) (fun present => ?_) ids sliceName
  · rw [empty] at hk
    exact absurd hk (by simp)
  · exact absurd present (by simp [newDashboard, PositionJson.tree, PositionJson.load])

/-- The chart after a publish that could find it. -/
theorem placed_of_findable (h : c.Findable) (stands : c.target.refusal c.env c.before = none) :
    Placed c.chartId c.dashboardId c.published := by
  refine ⟨fun id aimed => ?_, fun id d' found' => ?_, fun id d' found' => ?_⟩
  · cases target : c.target with
    | existing i =>
      rw [target] at stands
      have there : (c.before.dashboards.get i).isSome := by
        by_contra missing
        simp [Target.refusal, missing] at stands
      obtain ⟨d, found⟩ := Option.isSome_iff_exists.mp there
      obtain rfl : i = id := by simpa [dashboardId, target, Target.dashboardId] using aimed
      have after := c.stored_dashboard found .done
      simp only [stored] at after
      simp [after]
    | new name =>
      obtain rfl : c.before.dashboards.next = id := by
        simpa [dashboardId, target, Target.dashboardId] using aimed
      simp [c.published_target aimed, c.detached_new target]
    | nowhere => simp [dashboardId, target, Target.dashboardId] at aimed
  · rcases c.published_dashboard found' with ⟨d, found, rfl⟩ | ⟨name, target, rfl, rfl⟩
    · by_cases target : c.target = .existing id
      · have aimed := (c.dashboardId_eq_some_iff found).mpr target
        simp only [board, if_pos target]
        exact iff_of_true (attachChart_slices _ _ _ _) aimed
      · have aimed := fun eq => target ((c.dashboardId_eq_some_iff found).mp eq)
        simp only [board, if_neg target]
        exact iff_of_false (c.leave_not_listed d target) aimed
    · have aimed : c.dashboardId = some c.before.dashboards.next := by
        simp [dashboardId, target, Target.dashboardId]
      exact iff_of_true (attachChart_slices _ _ _ _) aimed
  · rcases c.published_dashboard found' with ⟨d, found, rfl⟩ | ⟨name, target, rfl, rfl⟩
    · by_cases target : c.target = .existing id
      · have aimed := (c.dashboardId_eq_some_iff found).mpr target
        obtain ⟨only, shown⟩ := h.target id d found target
        simp only [board, if_pos target, if_pos aimed, attachChart_nodes only shown]
        rfl
      · have aimed := fun eq => target ((c.dashboardId_eq_some_iff found).mp eq)
        simp only [board, if_neg target, if_neg aimed, c.leave_nodes h found target]
        rfl
    · have aimed : c.dashboardId = some c.before.dashboards.next := by
        simp [dashboardId, target, Target.dashboardId]
      rw [if_pos aimed, newDashboard_nodes]
      rfl

theorem refusal_of_done (h : c.point = .done) : c.target.refusal c.env c.before = none := by
  unfold point at h
  split_ifs at h with _ _ _ _ stands
  simpa using stands

end Course

/-! ## After an unpublish -/

/-- No dashboard lists the chart, and no position tree refers to it. -/
def Gone (chartId : Nat) (m : Metadata) : Prop :=
  ∀ id d, m.dashboards.get id = some d →
    chartId ∉ d.slices ∧ ¬d.positionJson.tree.Mentions chartId

namespace Withdrawal
variable (w : Withdrawal)

/-- The unpublish can find every reference to the chart: on the recorded dashboard
the chart stands only under its key, below one COLUMN, and no other tree refers
to it. -/
structure Findable (chartId : Nat) : Prop where
  recorded : ∀ id d, w.before.dashboards.get id = some d →
    truthyId w.report.dashboardId = some id →
    d.positionJson.tree.OnlyUnderKey chartId ∧
      d.positionJson.tree.SoleReference (chartKey chartId)
  elsewhere : ∀ id d, w.before.dashboards.get id = some d →
    truthyId w.report.dashboardId ≠ some id → ¬d.positionJson.tree.Mentions chartId

theorem chart_recorded {chartId : Nat} (h : w.chart = some chartId) :
    w.report.chartId = some chartId :=
  (PythonText.truthyId_eq_some (Option.filter_eq_some_iff.mp h).1).1

theorem gone_of_findable {chartId : Nat} (chart : w.chart = some chartId)
    (done : w.point = .done) (h : w.Findable chartId) : Gone chartId (w.stored .done) := by
  have report := w.chart_recorded chart
  intro id d' found'
  cases found : w.before.dashboards.get id with
  | none =>
    rw [w.stored_dashboard_none found] at found'
    exact absurd found' (by simp)
  | some d =>
    have after := w.stored_dashboard found .done
    obtain rfl : w.boardAfter id d .done = d' := Option.some.inj (after.symm.trans found')
    simp only [boardAfter, chart]
    refine ⟨by simp [dropSlice], ?_⟩
    have tree : (dropSlice chartId (w.takenOff id d)).positionJson = (w.takenOff id d).positionJson :=
      rfl
    rw [tree]
    unfold takenOff
    by_cases recorded : truthyId w.report.dashboardId = some id
    · obtain ⟨e, off⟩ := w.unplace_of_point (by simp [done]) found recorded
      rw [if_pos recorded, off, Option.getD_some, tree_unplace off, report]
      obtain ⟨only, sole⟩ := h.recorded id d found recorded
      exact Layout.not_mentions_removeKey only sole
    · rw [if_neg recorded]
      exact h.elsewhere id d found recorded

end Withdrawal
/-! ## Runs -/

namespace Action

/-- After a successful publish the chart stands where the report says, and after a
successful unpublish the deleted chart stands nowhere. -/
def Sound (m : Metadata) : Action → Prop
  | .publish env reportId req => ∀ result, (apiPublish env reportId req m).1 = .done result →
      PlacedAsRecorded reportId (act m (.publish env reportId req))
  | .unpublish env reportId => ∀ text, (apiUnpublish env reportId m).1 = .done text →
      ∀ report, m.reports.get reportId = some report →
        ∀ chartId, recordedChart m report = some chartId →
          Gone chartId (act m (.unpublish env reportId))
  | _ => True

/-- The chart can be found by a publish or unpublish that gets to its end. -/
def Findable (m : Metadata) : Action → Prop
  | .publish env reportId req => ∀ c, requestCourse env reportId req m = some c →
      c.point = .done → c.Findable
  | .unpublish env reportId => ∀ w, requestWithdrawal env reportId m = some w →
      w.point = .done → ∀ chartId, w.chart = some chartId → w.Findable chartId
  | _ => True

end Action

theorem sound_of_findable (m : Metadata) (a : Action) (h : a.Findable m) : a.Sound m := by
  cases a with
  | publish env reportId req =>
    intro result answer
    simp only [act]
    cases course : requestCourse env reportId req m with
    | none => exact absurd answer ((apiPublish_of_none course).2 result)
    | some c =>
      obtain ⟨found, -, rfl, -, before⟩ := requestCourse_eq_some course
      obtain ⟨stored, -, ends⟩ := apiPublish_of_course course
      have done := (ends result answer).1
      have reports := c.published_reports_get c.reportId
      rw [if_pos rfl, before, found, Option.map_some] at reports
      rw [stored, done]
      exact ⟨_, c.chartId, reports, rfl,
        c.placed_of_findable (h c course done) (c.refusal_of_done done)⟩
  | unpublish env reportId =>
    intro text answer report found chartId recorded
    simp only [act]
    have withdrawal : requestWithdrawal env reportId m = some ⟨env, m, reportId, report⟩ := by
      simp [requestWithdrawal, found]
    obtain ⟨stored, ends⟩ := apiUnpublish_of_withdrawal withdrawal
    have done := ends.mp ⟨text, answer⟩
    rw [stored, done]
    exact Withdrawal.gone_of_findable _ recorded done (h _ withdrawal done chartId recorded)
  | create _ _ | save _ _ _ | delete _ _ | outside _ => trivial

/-- In every run of publishes, unpublishes and edits of others in which each publish
and unpublish can find the chart, each publish leaves it exactly where the report
says and each unpublish leaves no trace of it. -/
theorem placement_run (m : Metadata) (run : List Action)
    (findable : Runs.Each act (fun s a => a.Findable s) m run) :
    Runs.Each act (fun s a => a.Sound s) m run :=
  findable.mono sound_of_findable

theorem oneDashboard_plain {id : Nat} {d : Dashboard}
    (h : oneDashboard.dashboards.get id = some d) :
    d.slices = [] ∧ d.positionJson = .absent := by
  simp only [oneDashboard, Table.get_insert] at h
  split_ifs at h
  · rw [← Option.some.inj h]
    exact ⟨rfl, rfl⟩
  · simp at h

/-- A first publish on an empty dashboard. -/
theorem firstPublish_sound : Runs.Each act (fun s a => a.Sound s) oneDashboard
    [.publish plainEnv 1 (onDashboard "table" 1)] := by
  refine placement_run oneDashboard _ ⟨fun c course _ => ?_, trivial⟩
  obtain ⟨-, -, -, -, before⟩ := requestCourse_eq_some course
  have bare : ∀ id d, c.before.dashboards.get id = some d → ∀ k,
      d.positionJson.tree.get k = none := by
    intro id d found k
    rw [before] at found
    rw [(oneDashboard_plain found).2]
    rfl
  have free : ∀ id d, c.before.dashboards.get id = some d → ∀ k,
      d.positionJson.tree.chartAt k = none := fun id d found k =>
    Layout.chartAt_of_get_none (bare id d found k)
  refine ⟨fun id d found _ _ k hk => ?_, fun id d found _ _ k hk => ?_, fun id d found _ =>
    ⟨fun k hk => ?_, fun present => ?_⟩⟩
  · simp [free id d found] at hk
  · simp [free id d found] at hk
  · simp [free id d found] at hk
  · simp [bare id d found] at present

/-- An editor places chart 1 of dashboard 1 under a key of its own. -/
def movedByEditor (m : Metadata) : Metadata :=
  { m with
    dashboards := m.dashboards.update 1 (fun d =>
      { d with
        positionJson := .layout (Dict.empty.set "CHART-x9" (.node
          ⟨.chart, "CHART-x9", some [], none, ⟨some 1, none, none, none, none⟩⟩)) }) }

/-- A publish elsewhere takes the moved chart out of the slices only. -/
theorem movedChart_not_sound : ¬Runs.Each act (fun s a => a.Sound s) oneDashboard
    [.publish plainEnv 1 (onDashboard "table" 1), .outside movedByEditor,
      .publish plainEnv 1 (asChart "table")] := by
  intro all
  have sound := all.2.2.1
  obtain ⟨result, answer, report, recorded, chart, nowhere, d, found, nodes⟩ : ∃ result,
      (apiPublish plainEnv 1 (asChart "table") (movedByEditor (act oneDashboard
        (.publish plainEnv 1 (onDashboard "table" 1))))).1 = .done result ∧
      ∃ report, (act (movedByEditor (act oneDashboard
          (.publish plainEnv 1 (onDashboard "table" 1))))
          (.publish plainEnv 1 (asChart "table"))).reports.get 1 = some report ∧
        report.chartId = some 1 ∧ report.dashboardId = none ∧
        ∃ d, (act (movedByEditor (act oneDashboard (.publish plainEnv 1 (onDashboard "table" 1))))
          (.publish plainEnv 1 (asChart "table"))).dashboards.get 1 = some d ∧
          (d.positionJson.tree.keysOf 1).length = 1 :=
    ⟨_, rfl, _, rfl, rfl, rfl, _, rfl, by decide⟩
  obtain ⟨report', chartId, recorded', chart', placed⟩ := sound result answer
  obtain rfl : report = report' := Option.some.inj (recorded.symm.trans recorded')
  obtain rfl : 1 = chartId := Option.some.inj (chart.symm.trans chart')
  have none := placed.nodes 1 d found
  rw [nodes, nowhere] at none
  simp at none

end Publish
end XpBuilder
