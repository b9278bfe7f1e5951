import XpBuilder.Provisioning.ReportScripts

/-! Runs of the provisioners beside each other and beside other users of the server, any of them cut
off and started again at any time. A run that comes to its end leaves what it is for and nothing of the
runs before it, and at no time does a run change what is not its own. -/

namespace XpBuilder.SupersetApi
open Provisioning (Marks Provisioner)

/-! ## What a run is for -/

/-- A dashboard to publish. -/
structure Page where
  title : String
  slug : String
  filters : List NativeFilter
  layoutFor : List GridLayout.Chart → GridLayout.Layout
  specs : List ChartSpec

/-- The pages of a script over its dataset, in a schema of its connection. -/
structure Plan where
  provisioner : Provisioner
  connection : String
  schemaOf : String → String
  sql : String
  datasetName : String
  pages : Nat → List Page

/-- The ids that the server gave to a page. -/
structure Made where
  dashboard : Nat
  charts : List Nat
  deriving DecidableEq, Repr

def Page.row (page : Page) (ids : List Nat) : Dashboard :=
  ⟨page.title, some page.slug, page.filters, page.layoutFor (List.zipWith placed page.specs ids), true⟩

def chartRows (p : Provisioner) (datasetId : Nat) (specs : List ChartSpec) (ids : List Nat) : List (Nat × Chart) :=
  List.zipWith (fun spec id => (id, chartRow p datasetId spec)) specs ids

/-- A dataset and the pages over it, each with its charts in their order and nothing else. -/
def shown (p : Provisioner) (dataset : Nat × Dataset) (made : List (Page × Made)) : View where
  dashboards := made.map (fun m => (m.2.dashboard, m.1.row m.2.charts))
  charts := made.flatMap (fun m => chartRows p dataset.1 m.1.specs m.2.charts)
  datasets := [dataset]
  slices := made.flatMap (fun m => (chartRows p dataset.1 m.1.specs m.2.charts).map (fun e => (m.2.dashboard, e.1)))

def Plan.dataset (plan : Plan) (env : Env) (connection : Nat × String) : Dataset :=
  ⟨connection.1, plan.schemaOf connection.2, plan.sql, plan.datasetName, env.columns connection.1 plan.sql⟩

/-- What carries the marks of the script is what one run creates. -/
def Plan.Published (plan : Plan) (env : Env) (v : View) (resolved : Option (Nat × String)) : Prop :=
  ∃ (connection : Nat × String) (id : Nat) (made : List (Page × Made)), resolved = some connection ∧
    made.map Prod.fst = plan.pages id ∧ (∀ m ∈ made, m.2.charts.length = m.1.specs.length) ∧
    v = shown plan.provisioner (id, plan.dataset env connection) made

def UserReport.plan (a : UserReport.Args) : Plan where
  provisioner := .userReport a.datasetName
  connection := a.database
  schemaOf schema := (a.schema.filter (· ≠ "")).getD schema
  sql := a.sql
  datasetName := a.datasetName
  pages datasetId := [⟨UserReport.dashboardTitle, Provisioning.UserReport.slug, UserReport.nativeFilters datasetId,
    GridLayout.userReportLayoutFor, a.chartSpecs datasetId⟩]

def Programme.page (datasetId : Nat) (spec : Programme.DashboardSpec) : Page :=
  ⟨spec.title, spec.slug, Programme.nativeFilters datasetId spec.filters, GridLayout.programmeLayoutFor spec.title, spec.charts⟩

def Programme.plan (a : Programme.Args) : Plan where
  provisioner := .programme
  connection := a.connection
  schemaOf := id
  sql := a.sql
  datasetName := Provisioning.Programme.datasetName
  pages datasetId := (Programme.dashboardSpecs a datasetId).map (Programme.page datasetId)

/-! ## What a run relies on and what it promises -/

/-- The connection of that name, as the listing shows it. -/
def Env.resolved (env : Env) (s : Stored) (name : String) : Option (Nat × String) :=
  ((env.page s.databases).find? (fun d => d.2.databaseName = name)).map (fun d => (d.1, schemaOr name d.2.parameter))

/-- The listings show every dashboard, chart and dataset. -/
structure Env.Shows (env : Env) (s : Stored) : Prop where
  dashboards : (env.page s.dashboards).Perm s.dashboards.rows.entries
  charts : (env.page s.charts).Perm s.charts.rows.entries
  datasets : (env.page s.datasets).Perm s.datasets.rows.entries

/-- None of the objects carries the marks. -/
structure View.Free (q : Marks) (v : View) : Prop where
  dashboards : ∀ e ∈ v.dashboards, q.slug e.2.slug = false
  charts : ∀ e ∈ v.charts, q.description e.2.description = false
  datasets : ∀ e ∈ v.datasets, q.tableName e.2.tableName = false

/-- An alert or a report keeps a dashboard or a chart in view from being deleted. -/
inductive Attached (m : Marks) (s : Stored) : Request → Prop
  | dashboard {id : Nat} (mem : id ∈ (s.view m).dashboards.map Prod.fst) (attached : s.attachedTo (fun r => r.dashboard = some id) ≠ []) :
    Attached m s (.deleteDashboard id)
  | chart {id : Nat} (mem : id ∈ (s.view m).charts.map Prod.fst) (attached : s.attachedTo (fun r => r.chart = some id) ≠ []) :
    Attached m s (.deleteChart id)

/-- A script whose objects carry the marks `m` relies on these and on its connection, and promises to leave what
carries the marks `q`. -/
def setting (env : Env) (m q : Marks) (name : String) : Setting Request Request.Response Stored where
  serve := env.serve
  others s s' := s'.view m = s.view m ∧ env.resolved s' name = env.resolved s name
  own s s' := s'.view q = s.view q ∧ s'.databases = s.databases ∧ ((s.view m).Free q → (s'.view m).Free q)
  refused r s := Attached m s r
  quits s := env.resolved s name = none
  within := env.Shows

/-- What is said of the objects in view and of the connection. -/
abbrev Fact := View → Option (Nat × String) → Prop

section
variable {env : Env} {m q : Marks} {name : String}

def Fact.at (φ : Fact) (env : Env) (m : Marks) (name : String) (s : Stored) : Prop := φ (s.view m) (env.resolved s name)

theorem stable_at (φ : Fact) : (setting env m q name).Stable (φ.at env m name) := by
  rintro s s' ⟨view, resolved⟩ holds
  unfold Fact.at
  rw [view, resolved]
  exact holds

/-- What a script comes to from objects of which `φ` is said. -/
def Run {α : Type} (env : Env) (m q : Marks) (name : String) (φ : Fact) (c : Program α) (ψ : α → Fact) : Prop :=
  (setting env m q name).Meets (φ.at env m name) c (fun a => (ψ a).at env m name)

variable {φ φ' : Fact}

theorem Run.send {r : Request} {ψ : r.Response → Fact}
    (served : ∀ s x s', φ (s.view m) (env.resolved s name) → env.Shows s → env.serve r s = some (x, s') →
      (setting env m q name).own s s' ∧ ψ x (s'.view m) (env.resolved s' name))
    (refused : ∀ s, φ (s.view m) (env.resolved s name) → env.serve r s = none → Attached m s r) :
    Run env m q name φ (send r) ψ :=
  Setting.Meets.request (stable_at φ) (fun x => stable_at (ψ x)) (fun s x s' holds shows answer _ => served s x s' holds shows answer)
    (fun s holds _ none => refused s holds none)

theorem Run.bind {α β : Type} {c : Program α} {f : α → Program β} {χ : α → Fact} {ψ : β → Fact}
    (first : Run env m q name φ c χ) (later : ∀ a, Run env m q name (χ a) (f a) ψ) : Run env m q name φ (c >>= f) ψ :=
  Setting.Meets.bind first later

theorem Run.pure {α : Type} {a : α} {ψ : α → Fact} (result : ∀ (s : Stored) r, φ (s.view m) r → ψ a (s.view m) r) :
    Run env m q name φ (pure a) ψ := Setting.Meets.done (stable_at φ) (fun _ holds => result _ _ holds)

theorem Run.mono {α : Type} {c : Program α} {ψ ψ' : α → Fact} (run : Run env m q name φ c ψ)
    (weaker : ∀ (s : Stored) r, φ' (s.view m) r → φ (s.view m) r)
    (stronger : ∀ a (s : Stored) r, ψ a (s.view m) r → ψ' a (s.view m) r) : Run env m q name φ' c ψ' :=
  Setting.Meets.mono run (fun _ holds => weaker _ _ holds) (fun a _ holds => stronger a _ _ holds)

theorem Run.exists {α β : Type} {c : Program α} {φ : β → Fact} {ψ : α → Fact} (run : ∀ b, Run env m q name (φ b) c ψ) :
    Run env m q name (fun v r => ∃ b, φ b v r) c ψ := by
  rintro s ⟨b, start⟩ shows
  exact run b s start shows

theorem Run.and {α : Type} {c : Program α} {P : Prop} {ψ : α → Fact} (run : P → Run env m q name φ c ψ) :
    Run env m q name (fun v r => P ∧ φ v r) c ψ := by
  rintro s ⟨holds, start⟩ shows
  exact run holds s start shows

theorem Run.each {β : Type} {body : β → Program Unit} {l : List β} {I : List β → Fact}
    (rounds : ∀ before b rest, before ++ b :: rest = l → Run env m q name (I before) (body b) (fun _ => I (before ++ [b]))) :
    Run env m q name (I []) (Script.each body l) (fun _ => I l) :=
  Setting.Meets.each (I := fun before => (I before).at env m name) rounds (stable_at _)

theorem Run.collect {β γ : Type} {body : β → Program γ} {l : List β} {I : List β → List γ → Fact}
    (rounds : ∀ before xs b rest, before ++ b :: rest = l →
      Run env m q name (I before xs) (body b) (fun x => I (before ++ [b]) (xs ++ [x]))) :
    Run env m q name (I [] []) (Script.collect body l) (I l) :=
  Setting.Meets.collect (I := fun before xs => (I before xs).at env m name) rounds (fun _ => stable_at _)

/-- A loop that takes its elements away. -/
theorem Run.drain {β : Type} {body : β → Program Unit} {left : View → List β} {K : Fact}
    (round : ∀ b rest, Run env m q name (fun v r => K v r ∧ (left v).Perm (b :: rest)) (body b)
      (fun _ v r => K v r ∧ (left v).Perm rest)) (l : List β) :
    Run env m q name (fun v r => K v r ∧ (left v).Perm l) (Script.each body l) (fun _ v r => K v r ∧ left v = []) := by
  induction l with
  | nil => exact Run.pure (fun s r holds => ⟨holds.1, holds.2.eq_nil⟩)
  | cons b rest ih => exact Run.bind (round b rest) (fun _ => ih)

/-! ## The promises of the requests -/

theorem own_self (s : Stored) : (setting env m q name).own s s := ⟨rfl, rfl, id⟩

theorem dropDashboard_of_absent {s : Stored} {id : Nat} (absent : id ∉ (s.view q).dashboards.map Prod.fst) :
    (s.view q).dropDashboard id = s.view q := by
  ext1
  · apply List.filter_eq_self.mpr
    intro e mem
    exact decide_eq_true (fun same => absent (List.mem_map.mpr ⟨e, mem, same⟩))
  · rfl
  · rfl
  · apply List.filter_eq_self.mpr
    intro p mem
    exact decide_eq_true (fun same => absent (same ▸ (s.mem_view_slices q mem).1))

theorem dropChart_of_absent {s : Stored} {id : Nat} (absent : id ∉ (s.view q).charts.map Prod.fst) :
    (s.view q).dropChart id = s.view q := by
  ext1
  · rfl
  · apply List.filter_eq_self.mpr
    intro e mem
    exact decide_eq_true (fun same => absent (List.mem_map.mpr ⟨e, mem, same⟩))
  · rfl
  · apply List.filter_eq_self.mpr
    intro p mem
    exact decide_eq_true (fun same => absent (same ▸ (s.mem_view_slices q mem).2))

theorem dropDataset_of_absent {v : View} {id : Nat} (absent : id ∉ v.datasets.map Prod.fst) : v.dropDataset id = v := by
  ext1
  · rfl
  · rfl
  · apply List.filter_eq_self.mpr
    intro e mem
    exact decide_eq_true (fun same => absent (List.mem_map.mpr ⟨e, mem, same⟩))
  · rfl

/-- The rows that are left when one of them goes. -/
theorem perm_without {α : Type} {l rest : List (Nat × α)} {e : Nat × α} (distinct : (l.map Prod.fst).Nodup)
    (perm : l.Perm (e :: rest)) : (l.filter (fun e' => e'.1 ≠ e.1)).Perm rest := by
  have keys : ((e :: rest).map Prod.fst).Nodup := (perm.map Prod.fst).nodup_iff.mp distinct
  rw [List.map_cons, List.nodup_cons] at keys
  have others : (e :: rest).filter (fun e' => e'.1 ≠ e.1) = rest := by
    rw [List.filter_cons_of_neg (by simp)]
    apply List.filter_eq_self.mpr
    intro e' mem
    exact decide_eq_true (fun same => keys.1 (List.mem_map.mpr ⟨e', mem, same⟩))
  rw [← others]
  exact perm.filter _

theorem get_of_view {s : Stored} {e : Nat × Dashboard} (mem : e ∈ (s.view m).dashboards) : s.dashboards.get e.1 = some e.2 :=
  ((Table.mem_part (t := s.dashboards) (p := fun d => m.slug d.slug)).mp mem).1

/-- The key of an object in view is none of the objects with other marks. -/
theorem dashboard_absent {s : Stored} {e : Nat × Dashboard} (mem : e ∈ (s.view m).dashboards) (free : q.slug e.2.slug = false) :
    e.1 ∉ (s.view q).dashboards.map Prod.fst :=
  Table.key_notMem_part (t := s.dashboards) (p := fun d => m.slug d.slug) (q := fun d => q.slug d.slug) mem free

theorem chart_absent {s : Stored} {e : Nat × Chart} (mem : e ∈ (s.view m).charts) (free : q.description e.2.description = false) :
    e.1 ∉ (s.view q).charts.map Prod.fst :=
  Table.key_notMem_part (t := s.charts) (p := fun c => m.description c.description) (q := fun c => q.description c.description) mem
    free

theorem dataset_absent {s : Stored} {e : Nat × Dataset} (mem : e ∈ (s.view m).datasets) (free : q.tableName e.2.tableName = false) :
    e.1 ∉ (s.view q).datasets.map Prod.fst :=
  Table.key_notMem_part (t := s.datasets) (p := fun d => m.tableName d.tableName) (q := fun d => q.tableName d.tableName) mem free

theorem own_deleteDashboard {s s' : Stored} {e : Nat × Dashboard} {x : Unit} (free : (s.view m).Free q)
    (mem : e ∈ (s.view m).dashboards) (answer : env.serve (.deleteDashboard e.1) s = some (x, s')) :
    (setting env m q name).own s s' ∧ s'.view m = (s.view m).dropDashboard e.1 ∧ s'.databases = s.databases := by
  rw [Env.serve] at answer
  split_ifs at answer
  obtain ⟨-, rfl⟩ := Prod.mk.inj (Option.some.inj answer)
  have view := s.view_dropDashboard m e.1
  refine ⟨⟨?_, rfl, ?_⟩, view, rfl⟩
  · rw [s.view_dropDashboard]
    exact dropDashboard_of_absent (dashboard_absent mem (free.dashboards e mem))
  · rw [view]
    exact fun free => ⟨fun e mem => free.dashboards e (List.mem_of_mem_filter mem), free.charts, free.datasets⟩

theorem own_deleteChart {s s' : Stored} {e : Nat × Chart} {x : Unit} (free : (s.view m).Free q)
    (mem : e ∈ (s.view m).charts) (answer : env.serve (.deleteChart e.1) s = some (x, s')) :
    (setting env m q name).own s s' ∧ s'.view m = (s.view m).dropChart e.1 ∧ s'.databases = s.databases := by
  rw [Env.serve] at answer
  split_ifs at answer
  obtain ⟨-, rfl⟩ := Prod.mk.inj (Option.some.inj answer)
  have view := s.view_dropChart m e.1
  refine ⟨⟨?_, rfl, ?_⟩, view, rfl⟩
  · rw [s.view_dropChart]
    exact dropChart_of_absent (chart_absent mem (free.charts e mem))
  · rw [view]
    exact fun free => ⟨free.dashboards, fun e mem => free.charts e (List.mem_of_mem_filter mem), free.datasets⟩

theorem own_deleteDataset {s s' : Stored} {e : Nat × Dataset} {x : Unit} (free : (s.view m).Free q)
    (mem : e ∈ (s.view m).datasets) (answer : env.serve (.deleteDataset e.1) s = some (x, s')) :
    (setting env m q name).own s s' ∧ s'.view m = (s.view m).dropDataset e.1 ∧ s'.databases = s.databases := by
  rw [Env.serve] at answer
  split_ifs at answer
  obtain ⟨-, rfl⟩ := Prod.mk.inj (Option.some.inj answer)
  have view := s.view_dropDataset m e.1
  refine ⟨⟨?_, rfl, ?_⟩, view, rfl⟩
  · rw [s.view_dropDataset]
    exact dropDataset_of_absent (dataset_absent mem (free.datasets e mem))
  · rw [view]
    exact fun free => ⟨free.dashboards, free.charts, fun e mem => free.datasets e (List.mem_of_mem_filter mem)⟩

theorem own_postDataset {s s' : Stored} {database : Nat} {schema sql tableName : String} {id : Nat}
    (marked : m.tableName tableName = true) (free : q.tableName tableName = false)
    (answer : env.serve (.postDataset database schema sql tableName) s = some (id, s')) :
    (setting env m q name).own s s' ∧
      s'.view m = (s.view m).addDataset (id, ⟨database, schema, sql, tableName, env.columns database sql⟩) ∧
      s'.databases = s.databases := by
  rw [Env.serve] at answer
  split_ifs at answer
  obtain ⟨rfl, rfl⟩ := Prod.mk.inj (Option.some.inj answer)
  have view := s.view_addDataset m ⟨database, schema, sql, tableName, env.columns database sql⟩
  rw [if_pos marked] at view
  refine ⟨⟨?_, rfl, ?_⟩, view, rfl⟩
  · rw [s.view_addDataset, if_neg (by simp [free])]
  · rw [view]
    refine fun before => ⟨before.dashboards, before.charts, fun e mem => ?_⟩
    rcases List.mem_append.mp mem with old | new
    · exact before.datasets e old
    · rw [List.mem_singleton.mp new]
      exact free

theorem own_postDashboard {s s' : Stored} {d : Dashboard} {id : Nat} (marked : m.slug d.slug = true) (free : q.slug d.slug = false)
    (answer : env.serve (.postDashboard d) s = some (id, s')) :
    (setting env m q name).own s s' ∧ s'.view m = (s.view m).addDashboard (id, d) ∧ s'.databases = s.databases := by
  rw [Env.serve] at answer
  split_ifs at answer
  obtain ⟨rfl, rfl⟩ := Prod.mk.inj (Option.some.inj answer)
  have view := s.view_addDashboard m d
  rw [if_pos marked] at view
  refine ⟨⟨?_, rfl, ?_⟩, view, rfl⟩
  · rw [s.view_addDashboard, if_neg (by simp [free])]
  · rw [view]
    refine fun before => ⟨fun e mem => ?_, before.charts, before.datasets⟩
    rcases List.mem_append.mp mem with old | new
    · exact before.dashboards e old
    · rw [List.mem_singleton.mp new]
      exact free

theorem own_postChart {s s' : Stored} {c : Chart} {dashboards : List Nat} {id : Nat} (marked : m.description c.description = true)
    (free : q.description c.description = false) (answer : env.serve (.postChart c dashboards) s = some (id, s')) :
    (setting env m q name).own s s' ∧ s'.view m = (s.view m).addChart (id, c) dashboards ∧ s'.databases = s.databases := by
  rw [Env.serve] at answer
  split_ifs at answer with exist there
  obtain ⟨rfl, rfl⟩ := Prod.mk.inj (Option.some.inj answer)
  have view := s.view_addChart m c dashboards exist
  rw [if_pos marked] at view
  refine ⟨⟨?_, rfl, ?_⟩, view, rfl⟩
  · rw [s.view_addChart, if_neg (by simp [free])]
  · rw [view]
    refine fun before => ⟨before.dashboards, fun e mem => ?_, before.datasets⟩
    rcases List.mem_append.mp mem with old | new
    · exact before.charts e old
    · rw [List.mem_singleton.mp new]
      exact free

theorem own_putDashboard {s s' : Stored} {id : Nat} {d d' : Dashboard} {x : Unit} (mem : (id, d') ∈ (s.view m).dashboards)
    (same : d'.slug = d.slug) (free : q.slug d.slug = false) (answer : env.serve (.putDashboard id d) s = some (x, s')) :
    (setting env m q name).own s s' ∧ s'.view m = (s.view m).putDashboard id d ∧ s'.databases = s.databases := by
  rw [Env.serve] at answer
  split_ifs at answer
  obtain ⟨-, rfl⟩ := Prod.mk.inj (Option.some.inj answer)
  have row : ∀ e, s.dashboards.get id = some e → e.slug = d.slug := by
    intro e there
    rw [← Option.some.inj ((get_of_view mem).symm.trans there)]
    exact same
  have view := s.view_putDashboard m row
  refine ⟨⟨?_, rfl, ?_⟩, view, rfl⟩
  · rw [s.view_putDashboard q row]
    have absent : id ∉ (s.view q).dashboards.map Prod.fst := dashboard_absent mem (by rw [same, free])
    ext1
    · apply (List.map_congr_left ?_).trans (List.map_id _)
      intro e there
      exact if_neg (fun here => absent (List.mem_map.mpr ⟨e, there, here⟩))
    · rfl
    · rfl
    · rfl
  · rw [view]
    refine fun before => ⟨fun e mem => ?_, before.charts, before.datasets⟩
    obtain ⟨e', mem', rfl⟩ := List.mem_map.mp mem
    split_ifs
    · exact free
    · exact before.dashboards e' mem'

/-! ## The refusals -/

theorem refused_deleteDashboard {s : Stored} {e : Nat × Dashboard} (mem : e ∈ (s.view m).dashboards)
    (none : env.serve (.deleteDashboard e.1) s = none) : Attached m s (.deleteDashboard e.1) := by
  apply Attached.dashboard (List.mem_map_of_mem mem)
  intro free
  rw [Env.serve, if_pos ⟨by rw [get_of_view mem, Option.isSome_some], by rw [free]; rfl⟩] at none
  cases none

theorem refused_deleteChart {s : Stored} {e : Nat × Chart} (mem : e ∈ (s.view m).charts)
    (none : env.serve (.deleteChart e.1) s = none) : Attached m s (.deleteChart e.1) := by
  apply Attached.chart (List.mem_map_of_mem mem)
  intro free
  have there := ((Table.mem_part (t := s.charts) (p := fun c => m.description c.description)).mp mem).1
  rw [Env.serve, if_pos ⟨by rw [there, Option.isSome_some], by rw [free]; rfl⟩] at none
  cases none

theorem dataset_there {s : Stored} {e : Nat × Dataset} (mem : e ∈ (s.view m).datasets) : (s.datasets.get e.1).isSome := by
  rw [((Table.mem_part (t := s.datasets) (p := fun d => m.tableName d.tableName)).mp mem).1, Option.isSome_some]

/-- A request that is answered is not refused. -/
theorem not_refused {r : Request} {s : Stored} (answers : (env.serve r s).isSome) (none : env.serve r s = none) : Attached m s r := by
  rw [none] at answers
  cases answers

/-- A slug of one's own is taken by an object in view. -/
theorem slug_free {s : Stored} {slug : String} {except : Option Nat} (marked : m.slug (some slug) = true)
    (other : ∀ e ∈ (s.view m).dashboards, e.2.slug = some slug → some e.1 = except) : s.slugTaken (some slug) except = false := by
  rw [Stored.slugTaken, Bool.and_eq_false_iff]
  refine .inr (List.any_eq_false.mpr ?_)
  intro e mem
  rw [Bool.and_eq_true, decide_eq_true_eq, decide_eq_true_eq]
  rintro ⟨same, ne⟩
  have inView : e ∈ (s.view m).dashboards := List.mem_filter.mpr ⟨mem, by dsimp only; rw [same, marked]⟩
  exact ne (other e inView same)

theorem answers_postDataset {s : Stored} {database : Nat} {schema sql tableName : String} (there : (s.databases.get database).isSome)
    (marked : m.tableName tableName = true) (none : (s.view m).datasets = []) :
    (env.serve (.postDataset database schema sql tableName) s).isSome := by
  have free : s.tableTaken database schema tableName = false := by
    apply List.any_eq_false.mpr
    intro e mem
    rw [Bool.and_eq_true, decide_eq_true_eq]
    rintro ⟨-, same⟩
    have inView : e ∈ (s.view m).datasets := List.mem_filter.mpr ⟨mem, by dsimp only; rw [same, marked]⟩
    rw [none] at inView
    cases inView
  rw [Env.serve, if_pos ⟨there, free⟩, Option.isSome_some]

theorem answers_postChart {s : Stored} {c : Chart} {d : Nat} (there : d ∈ (s.view m).dashboards.map Prod.fst)
    (dataset : (s.datasets.get c.datasourceId).isSome) : (env.serve (.postChart c [d]) s).isSome := by
  have exist : ∀ d' ∈ [d], (s.dashboards.get d').isSome := by
    intro d' mem
    obtain ⟨e, listed, rfl⟩ := List.mem_map.mp there
    rw [List.mem_singleton.mp mem, get_of_view listed, Option.isSome_some]
  rw [Env.serve, dif_pos exist, if_pos dataset, Option.isSome_some]

/-! ## The connection -/

theorem resolved_congr {s s' : Stored} (same : s'.databases = s.databases) : env.resolved s' name = env.resolved s name := by
  rw [Env.resolved, same, Env.resolved]

/-- A request that only reads. -/
theorem Run.read {r : Request} {χ : r.Response → Fact} (reads : ∀ s x s', env.serve r s = some (x, s') → s' = s)
    (tells : ∀ s x s', env.Shows s → env.serve r s = some (x, s') → φ (s.view m) (env.resolved s name) →
      χ x (s.view m) (env.resolved s name))
    (answers : ∀ s, φ (s.view m) (env.resolved s name) → (env.serve r s).isSome) : Run env m q name φ (SupersetApi.send r) χ := by
  apply Run.send
  · intro s x s' holds shows answer
    have told := tells s x s' shows answer holds
    obtain rfl := reads s x s' answer
    exact ⟨own_self s', told⟩
  · intro s holds none
    have answered := answers s holds
    rw [none] at answered
    cases answered

theorem page_subset {α : Type} {t : Table α} {e : Nat × α} (mem : e ∈ env.page t) : e ∈ t.rows.entries :=
  (env.arranged t.rows.entries).subset (Provisioning.listAll_subset _ _ mem)

theorem database_there {s : Stored} {c : Nat × String} (resolved : env.resolved s name = some c) :
    (s.databases.get c.1).isSome := by
  unfold Env.resolved at resolved
  obtain ⟨e, found, rfl⟩ := Option.map_eq_some_iff.mp resolved
  have row := (Dict.get_eq_some_iff s.databases.rows e.1 e.2).mpr (page_subset (List.mem_of_find?_eq_some found))
  exact Option.isSome_of_mem row

theorem run_resolveConnection : Run env m q name φ (resolveConnection name) (fun c v r => φ v r ∧ r = some c) := by
  unfold resolveConnection
  have listed : Run env m q name φ (send .listDatabases) (fun (x : List (Nat × Database)) v r =>
      φ v r ∧ r = (x.find? (fun d => d.2.databaseName = name)).map (fun d => (d.1, schemaOr name d.2.parameter))) := by
    apply Run.read
    · intro s x s' answer
      exact (Prod.mk.inj (Option.some.inj answer)).2.symm
    · intro s x s' _ answer holds
      obtain ⟨rfl, -⟩ := Prod.mk.inj (Option.some.inj answer)
      exact ⟨holds, rfl⟩
    · exact fun _ _ => rfl
  apply Run.bind listed
  intro databases
  cases found : databases.find? (fun d => d.2.databaseName = name) with
  | none => exact Setting.Meets.quit (stable_at _) (fun s holds => holds.2)
  | some d =>
    dsimp only [Option.map_some]
    have told : Run env m q name (fun v r => φ v r ∧ r = some (d.1, schemaOr name d.2.parameter)) (send (.connection d.1))
        (fun (parameter : Option String) v r => φ v r ∧ r = some (d.1, schemaOr name parameter)) := by
      apply Run.read
      · intro s x s' answer
        obtain ⟨d', -, same⟩ := Option.map_eq_some_iff.mp answer
        exact (Prod.mk.inj same).2.symm
      · rintro s x s' - answer ⟨holds, resolved⟩
        refine ⟨holds, ?_⟩
        obtain ⟨d', row, same⟩ := Option.map_eq_some_iff.mp answer
        obtain ⟨rfl, -⟩ := Prod.mk.inj same
        -- the connection of that name is still the one that was listed
        have here := resolved
        unfold Env.resolved at here
        obtain ⟨e, found', pair⟩ := Option.map_eq_some_iff.mp here
        obtain ⟨key, schema⟩ := Prod.mk.inj pair
        have row' := (Dict.get_eq_some_iff s.databases.rows e.1 e.2).mpr (page_subset (List.mem_of_find?_eq_some found'))
        rw [key] at row'
        have known : e.2 = d' := Option.some.inj (row'.symm.trans row)
        rw [resolved, ← schema, known]
      · rintro s ⟨-, resolved⟩
        have there := database_there resolved
        rw [Env.serve, Option.isSome_map, there]
    exact Run.bind told (fun parameter => Run.pure (fun s r holds => holds))

/-! ## The cleanup -/

section
variable {c : Option (Nat × String)}

theorem run_deleteDashboard (e : Nat × Dashboard) (rest : List (Nat × Dashboard)) :
    Run env m q name (fun v r => (v.Free q ∧ r = c) ∧ v.dashboards.Perm (e :: rest)) (send (.deleteDashboard e.1))
      (fun _ v r => (v.Free q ∧ r = c) ∧ v.dashboards.Perm rest) := by
  apply Run.send
  swap
  · exact fun s holds none => refused_deleteDashboard (holds.2.symm.subset List.mem_cons_self) none
  rintro s x s' ⟨⟨free, resolved⟩, perm⟩ - answer
  obtain ⟨own, view, databases⟩ := own_deleteDashboard free (perm.symm.subset List.mem_cons_self) answer
  refine ⟨own, ⟨own.2.2 free, (resolved_congr databases).trans resolved⟩, ?_⟩
  rw [view]
  exact perm_without (Table.nodup_part (t := s.dashboards) (p := fun d => m.slug d.slug)) perm

theorem run_deleteChart (e : Nat × Chart) (rest : List (Nat × Chart)) :
    Run env m q name (fun v r => (v.dashboards = [] ∧ v.Free q ∧ r = c) ∧ v.charts.Perm (e :: rest)) (send (.deleteChart e.1))
      (fun _ v r => (v.dashboards = [] ∧ v.Free q ∧ r = c) ∧ v.charts.Perm rest) := by
  apply Run.send
  swap
  · exact fun s holds none => refused_deleteChart (holds.2.symm.subset List.mem_cons_self) none
  rintro s x s' ⟨⟨none, free, resolved⟩, perm⟩ - answer
  obtain ⟨own, view, databases⟩ := own_deleteChart free (perm.symm.subset List.mem_cons_self) answer
  refine ⟨own, ⟨?_, own.2.2 free, (resolved_congr databases).trans resolved⟩, ?_⟩
  · rw [view]
    exact none
  · rw [view]
    exact perm_without (Table.nodup_part (t := s.charts) (p := fun c => m.description c.description)) perm

theorem run_deleteDataset (e : Nat × Dataset) (rest : List (Nat × Dataset)) :
    Run env m q name (fun v r => (v.dashboards = [] ∧ v.charts = [] ∧ v.Free q ∧ r = c) ∧ v.datasets.Perm (e :: rest))
      (send (.deleteDataset e.1))
      (fun _ v r => (v.dashboards = [] ∧ v.charts = [] ∧ v.Free q ∧ r = c) ∧ v.datasets.Perm rest) := by
  apply Run.send
  swap
  · intro s holds
    have there := dataset_there (holds.2.symm.subset List.mem_cons_self)
    exact not_refused (by rw [Env.serve, if_pos there, Option.isSome_some])
  rintro s x s' ⟨⟨none, none', free, resolved⟩, perm⟩ - answer
  obtain ⟨own, view, databases⟩ := own_deleteDataset free (perm.symm.subset List.mem_cons_self) answer
  refine ⟨own, ⟨?_, ?_, own.2.2 free, (resolved_congr databases).trans resolved⟩, ?_⟩
  · rw [view]
    exact none
  · rw [view]
    exact none'
  · rw [view]
    exact perm_without (Table.nodup_part (t := s.datasets) (p := fun d => m.tableName d.tableName)) perm

/-- Nothing in view. -/
def View.nothing : View := ⟨[], [], [], []⟩

theorem run_cleanup : Run env m q name (fun v r => v.Free q ∧ r = c) (cleanup m) (fun _ v r => v = View.nothing ∧ r = c) := by
  unfold cleanup
  have dashboards : Run env m q name (fun v r => v.Free q ∧ r = c) (send .listDashboards) (fun (x : List (Nat × Dashboard)) v r =>
      (v.Free q ∧ r = c) ∧ v.dashboards.Perm (x.filter (fun d => m.slug d.2.slug))) := by
    apply Run.read
    · intro s x s' answer
      exact (Prod.mk.inj (Option.some.inj answer)).2.symm
    · intro s x s' shows answer holds
      obtain ⟨rfl, -⟩ := Prod.mk.inj (Option.some.inj answer)
      exact ⟨holds, (shows.dashboards.filter _).symm⟩
    · exact fun _ _ => rfl
  have charts : Run env m q name (fun v r => (v.Free q ∧ r = c) ∧ v.dashboards = []) (send .listCharts)
      (fun (x : List (Nat × Chart)) v r =>
        (v.dashboards = [] ∧ v.Free q ∧ r = c) ∧ v.charts.Perm (x.filter (fun c => m.description c.2.description))) := by
    apply Run.read
    · intro s x s' answer
      exact (Prod.mk.inj (Option.some.inj answer)).2.symm
    · intro s x s' shows answer holds
      obtain ⟨rfl, -⟩ := Prod.mk.inj (Option.some.inj answer)
      exact ⟨⟨holds.2, holds.1⟩, (shows.charts.filter _).symm⟩
    · exact fun _ _ => rfl
  have datasets : Run env m q name (fun v r => (v.dashboards = [] ∧ v.Free q ∧ r = c) ∧ v.charts = []) (send .listDatasets)
      (fun (x : List (Nat × Dataset)) v r =>
        (v.dashboards = [] ∧ v.charts = [] ∧ v.Free q ∧ r = c) ∧ v.datasets.Perm (x.filter (fun d => m.tableName d.2.tableName))) := by
    apply Run.read
    · intro s x s' answer
      exact (Prod.mk.inj (Option.some.inj answer)).2.symm
    · intro s x s' shows answer holds
      obtain ⟨rfl, -⟩ := Prod.mk.inj (Option.some.inj answer)
      exact ⟨⟨holds.1.1, holds.2, holds.1.2⟩, (shows.datasets.filter _).symm⟩
    · exact fun _ _ => rfl
  refine Run.bind dashboards (fun x => Run.bind (Run.drain run_deleteDashboard _) (fun _ => ?_))
  refine Run.bind charts (fun y => Run.bind (Run.drain run_deleteChart _) (fun _ => ?_))
  refine Run.bind datasets (fun z => (Run.drain run_deleteDataset _).mono (fun s r holds => holds) ?_)
  rintro _ s r ⟨⟨noDashboards, noCharts, -, resolved⟩, noDatasets⟩
  refine ⟨?_, resolved⟩
  ext1
  · exact noDashboards
  · exact noCharts
  · exact noDatasets
  · apply List.eq_nil_iff_forall_not_mem.mpr
    intro p mem
    have place := (s.mem_view_slices m mem).1
    rw [noDashboards] at place
    cases place

end

/-! ## The pages -/

section
variable {p : Provisioner} {ds : Nat × Dataset} {c : Option (Nat × String)}

/-- Charts on a dashboard, beside what is in view. -/
def View.withCharts (v : View) (d : Nat) (rows : List (Nat × Chart)) : View :=
  { v with charts := v.charts ++ rows, slices := v.slices ++ rows.map (fun e => (d, e.1)) }

theorem addChart_withCharts {v : View} {d : Nat} (there : d ∈ v.dashboards.map Prod.fst) (rows : List (Nat × Chart)) (e : Nat × Chart) :
    (v.withCharts d rows).addChart e [d] = v.withCharts d (rows ++ [e]) := by
  have listed : [d].filter (fun d => d ∈ v.dashboards.map Prod.fst) = [d] :=
    List.filter_eq_self.mpr (fun d' mem => decide_eq_true (List.mem_singleton.mp mem ▸ there))
  unfold View.withCharts View.addChart
  rw [listed, List.map_append, List.append_assoc, List.append_assoc]
  rfl

theorem chartRows_snoc {specs : List ChartSpec} {ids : List Nat} (same : ids.length = specs.length) (datasetId : Nat)
    (spec : ChartSpec) (id : Nat) : chartRows p datasetId (specs ++ [spec]) (ids ++ [id]) =
      chartRows p datasetId specs ids ++ [(id, chartRow p datasetId spec)] :=
  List.zipWith_append same.symm

/-- What the marks of a script say of what it creates, and the others do not. -/
structure Page.Marked (p : Provisioner) (q : Marks) (page : Page) : Prop where
  slug : p.marks.slug (some page.slug) = true
  slugFree : q.slug (some page.slug) = false
  chartsFree : ∀ spec ∈ page.specs, q.description (some (p.describe spec.name)) = false

variable {page : Page}

theorem run_createChart {spec : ChartSpec} (free : q.description (some (p.describe spec.name)) = false) {v₀ : View} {d : Nat}
    (there : d ∈ v₀.dashboards.map Prod.fst) (dataset : ds ∈ v₀.datasets) {before : List ChartSpec} {ids : List Nat}
    (same : ids.length = before.length) :
    Run env p.marks q name (fun v r => v = v₀.withCharts d (chartRows p ds.1 before ids) ∧ r = c) (createChart p d ds.1 spec)
      (fun x v r => ∃ id, x = placed spec id ∧ v = v₀.withCharts d (chartRows p ds.1 (before ++ [spec]) (ids ++ [id])) ∧ r = c) := by
  unfold createChart
  have posted : Run env p.marks q name (fun v r => v = v₀.withCharts d (chartRows p ds.1 before ids) ∧ r = c)
      (send (.postChart (chartRow p ds.1 spec) [d]))
      (fun (id : Nat) v r => v = v₀.withCharts d (chartRows p ds.1 (before ++ [spec]) (ids ++ [id])) ∧ r = c) := by
    apply Run.send
    swap
    · rintro s ⟨view, -⟩
      have inView : ds ∈ (s.view p.marks).datasets := by
        rw [view]
        exact dataset
      exact not_refused (answers_postChart (m := p.marks) (by rw [view]; exact there) (dataset_there inView))
    rintro s (id : Nat) s' ⟨view, resolved⟩ - answer
    obtain ⟨own, view', databases⟩ : (setting env p.marks q name).own s s' ∧ _ ∧ _ :=
      own_postChart ((Provisioning.marked_created p).2.1 spec.name) free answer
    refine ⟨own, ?_, (resolved_congr databases).trans resolved⟩
    rw [view', view, addChart_withCharts there, chartRows_snoc same]
  exact Run.bind posted (fun id => Run.pure (fun s r holds => ⟨id, rfl, holds⟩))

theorem run_createCharts (chartsFree : ∀ spec ∈ page.specs, q.description (some (p.describe spec.name)) = false) {v₀ : View} {d : Nat}
    (there : d ∈ v₀.dashboards.map Prod.fst) (dataset : ds ∈ v₀.datasets) :
    Run env p.marks q name (fun v r => v = v₀ ∧ r = c) (Script.collect (createChart p d ds.1) page.specs)
      (fun xs v r => ∃ ids : List Nat, ids.length = page.specs.length ∧ xs = List.zipWith placed page.specs ids ∧
        v = v₀.withCharts d (chartRows p ds.1 page.specs ids) ∧ r = c) := by
  -- after some of the charts
  let I : List ChartSpec → List GridLayout.Chart → Fact := fun before xs v r => ∃ ids : List Nat,
    ids.length = before.length ∧ xs = List.zipWith placed before ids ∧ v = v₀.withCharts d (chartRows p ds.1 before ids) ∧ r = c
  have loop : Run env p.marks q name (I [] []) (Script.collect (createChart p d ds.1) page.specs) (I page.specs) := by
    apply Run.collect
    intro before xs spec rest whole
    apply Run.exists
    intro ids
    apply Run.and
    intro same
    apply Run.and
    rintro rfl
    have free := chartsFree spec (whole ▸ List.mem_append_right _ List.mem_cons_self)
    apply (run_createChart free there dataset same).mono (fun _ _ holds => holds)
    rintro x s r ⟨id, rfl, holds⟩
    have results : List.zipWith placed (before ++ [spec]) (ids ++ [id]) = List.zipWith placed before ids ++ [placed spec id] :=
      List.zipWith_append same.symm
    exact ⟨ids ++ [id], by simp [same], results.symm, holds⟩
  refine loop.mono ?_ (fun _ _ _ holds => holds)
  rintro s r ⟨view, resolved⟩
  refine ⟨[], rfl, rfl, ?_, resolved⟩
  rw [view]
  unfold View.withCharts chartRows
  simp

theorem shown_snoc (made : List (Page × Made)) (m : Page × Made) : shown p ds (made ++ [m]) =
    { (shown p ds made).withCharts m.2.dashboard (chartRows p ds.1 m.1.specs m.2.charts) with
      dashboards := (shown p ds made).dashboards ++ [(m.2.dashboard, m.1.row m.2.charts)] } := by
  unfold shown View.withCharts
  simp

/-- The row that is written last. -/
theorem putDashboard_last {v : View} {rows : List (Nat × Chart)} {d : Nat} {before row : Dashboard}
    (new : d ∉ v.dashboards.map Prod.fst) : ((v.addDashboard (d, before)).withCharts d rows).putDashboard d row =
      { v.withCharts d rows with dashboards := v.dashboards ++ [(d, row)] } := by
  have others : v.dashboards.map (fun e => if e.1 = d then (e.1, row) else e) = v.dashboards := by
    apply (List.map_congr_left ?_).trans (List.map_id _)
    intro e mem
    exact if_neg (fun here => new (List.mem_map.mpr ⟨e, mem, here⟩))
  unfold View.putDashboard View.withCharts View.addDashboard
  simp [others]

/-- A page: the dashboard, its charts, and then its layout. -/
theorem run_page (ds : Nat × Dataset) (marked : page.Marked p q) {made : List (Page × Made)} (fresh : ∀ m ∈ made, m.1.slug ≠ page.slug)
    {α : Type} (ending : Nat → α) :
    Run env p.marks q name (fun v r => v = shown p ds made ∧ r = c)
      (do
        let d : Nat ← send (.postDashboard (shell page.title page.slug))
        let charts ← Script.collect (createChart p d ds.1) page.specs
        let _ : Unit ← send (.putDashboard d ⟨page.title, some page.slug, page.filters, page.layoutFor charts, true⟩)
        pure (ending d))
      (fun _ v r => ∃ m : Made, m.charts.length = page.specs.length ∧ v = shown p ds (made ++ [(page, m)]) ∧ r = c) := by
  have posted : Run env p.marks q name (fun v r => v = shown p ds made ∧ r = c)
      (send (.postDashboard (shell page.title page.slug)))
      (fun (d : Nat) v r => v = (shown p ds made).addDashboard (d, shell page.title page.slug) ∧ r = c) := by
    apply Run.send
    swap
    · rintro s ⟨view, -⟩
      have free : s.slugTaken (some page.slug) none = false := by
        apply slug_free marked.slug
        intro e mem same
        rw [view] at mem
        obtain ⟨m, listed, rfl⟩ := List.mem_map.mp mem
        exact absurd (Option.some.inj same) (fresh m listed)
      exact not_refused (by rw [Env.serve, shell, if_pos free, Option.isSome_some])
    rintro s (d : Nat) s' ⟨view, resolved⟩ - answer
    obtain ⟨own, view', databases⟩ : (setting env p.marks q name).own s s' ∧ _ ∧ _ :=
      own_postDashboard marked.slug marked.slugFree answer
    exact ⟨own, by rw [view', view], (resolved_congr databases).trans resolved⟩
  apply Run.bind posted
  rintro (d : Nat)
  have there : d ∈ ((shown p ds made).addDashboard (d, shell page.title page.slug)).dashboards.map Prod.fst := by
    simp [View.addDashboard]
  have dataset : ds ∈ ((shown p ds made).addDashboard (d, shell page.title page.slug)).datasets := List.mem_cons_self
  apply Run.bind (run_createCharts marked.chartsFree there dataset)
  intro charts
  apply Run.exists
  intro ids
  apply Run.and
  intro same
  apply Run.and
  rintro rfl
  have put : Run env p.marks q name
      (fun v r => v = ((shown p ds made).addDashboard (d, shell page.title page.slug)).withCharts d
        (chartRows p ds.1 page.specs ids) ∧ r = c)
      (send (.putDashboard d (page.row ids))) (fun _ v r => v = shown p ds (made ++ [(page, ⟨d, ids⟩)]) ∧ r = c) := by
    have listed : ∀ s : Stored, s.view p.marks = ((shown p ds made).addDashboard (d, shell page.title page.slug)).withCharts d
        (chartRows p ds.1 page.specs ids) → (d, shell page.title page.slug) ∈ (s.view p.marks).dashboards := by
      intro s view
      rw [view]
      exact List.mem_append_right _ List.mem_cons_self
    apply Run.send
    swap
    · rintro s ⟨view, -⟩
      have free : s.slugTaken (page.row ids).slug (some d) = false := by
        apply slug_free marked.slug
        intro e mem same
        rw [view] at mem
        rcases List.mem_append.mp mem with before | last
        · obtain ⟨m, there, rfl⟩ := List.mem_map.mp before
          exact absurd (Option.some.inj same) (fresh m there)
        · rw [List.mem_singleton.mp last]
      have stored : (s.dashboards.get d).isSome := by
        rw [get_of_view (listed s view), Option.isSome_some]
      exact not_refused (by rw [Env.serve, if_pos ⟨stored, free⟩, Option.isSome_some])
    rintro s x s' ⟨view, resolved⟩ - answer
    have mem := listed s view
    obtain ⟨own, view', databases⟩ : (setting env p.marks q name).own s s' ∧ _ ∧ _ :=
      own_putDashboard (d := page.row ids) mem rfl marked.slugFree answer
    refine ⟨own, ?_, (resolved_congr databases).trans resolved⟩
    have keys := Table.nodup_part (t := s.dashboards) (p := fun d => p.marks.slug d.slug)
    have new : d ∉ (shown p ds made).dashboards.map Prod.fst := by
      change ((s.view p.marks).dashboards.map Prod.fst).Nodup at keys
      rw [view] at keys
      unfold View.withCharts View.addDashboard at keys
      rw [List.map_append, List.nodup_append] at keys
      exact fun mem => keys.2.2 d mem d (by simp) rfl
    rw [view', view, putDashboard_last new, shown_snoc]
  apply Run.bind put
  intro _
  apply Run.pure
  intro s r holds
  exact ⟨⟨d, ids⟩, same, holds⟩

/-! ## The two scripts -/

theorem run_postDataset {connection : Nat × String} {schema sql tableName : String} (marked : p.marks.tableName tableName = true)
    (free : q.tableName tableName = false) :
    Run env p.marks q name (fun v r => v = View.nothing ∧ r = some connection)
      (send (.postDataset connection.1 schema sql tableName))
      (fun (id : Nat) v r => v = shown p (id, ⟨connection.1, schema, sql, tableName, env.columns connection.1 sql⟩) [] ∧
        r = some connection) := by
  apply Run.send
  swap
  · rintro s ⟨view, resolved⟩
    exact not_refused (answers_postDataset (m := p.marks) (database_there resolved) marked (by rw [view]; rfl))
  rintro s (id : Nat) s' ⟨view, resolved⟩ - answer
  obtain ⟨own, view', databases⟩ : (setting env p.marks q name).own s s' ∧ _ ∧ _ := own_postDataset marked free answer
  refine ⟨own, ?_, (resolved_congr databases).trans resolved⟩
  rw [view', view]
  rfl

theorem refreshDataset_of_absent {v : View} {id : Nat} {columns : Dataset → List String} (absent : id ∉ v.datasets.map Prod.fst) :
    v.refreshDataset id columns = v := by
  ext1
  · rfl
  · rfl
  · apply (List.map_congr_left ?_).trans (List.map_id _)
    intro e mem
    exact if_neg (fun here => absent (List.mem_map.mpr ⟨e, mem, here⟩))
  · rfl

/-- The columns that a dataset has already. -/
theorem run_refreshDataset {id database : Nat} {schema sql tableName : String} (free : q.tableName tableName = false) :
    Run env p.marks q name
      (fun v r => v = shown p (id, ⟨database, schema, sql, tableName, env.columns database sql⟩) [] ∧ r = c)
      (send (.refreshDataset id))
      (fun _ v r => v = shown p (id, ⟨database, schema, sql, tableName, env.columns database sql⟩) [] ∧ r = c) := by
  have listed : ∀ s : Stored, s.view p.marks = shown p (id, ⟨database, schema, sql, tableName, env.columns database sql⟩) [] →
      (id, (⟨database, schema, sql, tableName, env.columns database sql⟩ : Dataset)) ∈ (s.view p.marks).datasets := by
    intro s view
    rw [view]
    exact List.mem_cons_self
  apply Run.send
  swap
  · rintro s ⟨view, -⟩
    exact not_refused (by rw [Env.serve, if_pos (dataset_there (listed s view)), Option.isSome_some])
  rintro s x s' ⟨view, resolved⟩ - answer
  rw [Env.serve] at answer
  split_ifs at answer
  obtain ⟨-, rfl⟩ := Prod.mk.inj (Option.some.inj answer)
  have mem := listed s view
  have same : (s.withDatasets (s.datasets.update id (fun d => { d with columns := env.columns d.database d.sql }))).view p.marks =
      s.view p.marks := by
    rw [s.view_refreshDataset p.marks id (fun d => env.columns d.database d.sql), view]
    simp [View.refreshDataset, shown]
  refine ⟨⟨?_, rfl, fun before => same ▸ before⟩, same.trans view, resolved⟩
  rw [s.view_refreshDataset q id (fun d => env.columns d.database d.sql)]
  exact refreshDataset_of_absent (dataset_absent mem free)

end

/-- Marks that none of the objects of a plan carries. -/
structure Plan.Foreign (plan : Plan) (q : Marks) : Prop where
  slugs : ∀ id, ∀ page ∈ plan.pages id, q.slug (some page.slug) = false
  charts : ∀ id, ∀ page ∈ plan.pages id, ∀ spec ∈ page.specs, q.description (some (plan.provisioner.describe spec.name)) = false
  dataset : q.tableName plan.datasetName = false

/-- The setting of a script among others. -/
def Plan.setting (plan : Plan) (env : Env) (q : Marks) : Setting Request Request.Response Stored :=
  SupersetApi.setting env plan.provisioner.marks q plan.connection

theorem run_userReport (a : UserReport.Args) (foreign : (UserReport.plan a).Foreign q) :
    Run env (UserReport.plan a).provisioner.marks q a.database (fun v _ => v.Free q) (UserReport.main a)
      (fun _ => (UserReport.plan a).Published env) := by
  obtain ⟨slugs, -, tables⟩ := Provisioning.marked_created (.userReport a.datasetName)
  unfold UserReport.main
  apply Run.bind run_resolveConnection
  intro database
  apply Run.bind run_cleanup
  intro _
  apply Run.bind (run_postDataset (tables a.datasetName List.mem_cons_self) foreign.dataset)
  rintro (id : Nat)
  let page : Page := ⟨UserReport.dashboardTitle, Provisioning.UserReport.slug, UserReport.nativeFilters id,
    GridLayout.userReportLayoutFor, a.chartSpecs id⟩
  have marked : page.Marked (.userReport a.datasetName) q :=
    ⟨slugs _ List.mem_cons_self, foreign.slugs id page List.mem_cons_self, foreign.charts id page List.mem_cons_self⟩
  have fresh : ∀ m ∈ ([] : List (Page × Made)), m.1.slug ≠ page.slug := fun m mem => nomatch mem
  apply (run_page (id, (UserReport.plan a).dataset env database) marked fresh (fun _ => ())).mono (fun _ _ holds => holds)
  rintro _ s r ⟨m, same, view, resolved⟩
  exact ⟨database, id, [(page, m)], resolved, rfl, fun x mem => List.mem_singleton.mp mem ▸ same, view⟩

theorem run_createDataset {a : Programme.Args} {connection : Nat × String} (free : q.tableName Provisioning.Programme.datasetName = false) :
    Run env Provisioner.programme.marks q name (fun v r => v = View.nothing ∧ r = some connection)
      (Programme.createDataset a connection)
      (fun id v r => v = shown .programme (id, (Programme.plan a).dataset env connection) [] ∧ r = some connection) := by
  unfold Programme.createDataset
  obtain ⟨-, -, tables⟩ := Provisioning.marked_created .programme
  apply Run.bind (run_postDataset (tables _ List.mem_cons_self) free)
  rintro (id : Nat)
  have read : Run env Provisioner.programme.marks q name
      (fun v r => v = shown .programme (id, (Programme.plan a).dataset env connection) [] ∧ r = some connection)
      (send (.getDataset id))
      (fun _ v r => v = shown .programme (id, (Programme.plan a).dataset env connection) [] ∧ r = some connection) := by
    apply Run.read
    · intro s x s' answer
      obtain ⟨d, -, same⟩ := Option.map_eq_some_iff.mp answer
      exact (Prod.mk.inj same).2.symm
    · exact fun _ _ _ _ _ holds => holds
    · rintro s ⟨view, -⟩
      have inView : (id, (Programme.plan a).dataset env connection) ∈ (s.view Provisioner.programme.marks).datasets := by
        rw [view]
        exact List.mem_cons_self
      exact (Option.isSome_map ..).trans (dataset_there inView)
  apply Run.bind read
  rintro (detail : Dataset)
  split
  · apply Run.bind (run_refreshDataset free)
    intro _
    apply Run.bind read
    exact fun _ => Run.pure (fun _ _ holds => holds)
  · exact Run.pure (fun _ _ holds => holds)

/-- A page that comes later has a slug of its own. -/
theorem slug_fresh {a : Programme.Args} {id : Nat} {before rest : List Programme.DashboardSpec} {spec : Programme.DashboardSpec}
    (whole : before ++ spec :: rest = Programme.dashboardSpecs a id) {b : Programme.DashboardSpec} (mem : b ∈ before) :
    b.slug ≠ spec.slug := by
  have distinct : ((Programme.dashboardSpecs a id).map Programme.DashboardSpec.slug).Nodup := by
    change Provisioning.Programme.slugs.Nodup
    decide
  rw [← whole, List.map_append, List.nodup_append] at distinct
  exact distinct.2.2 _ (List.mem_map_of_mem mem) _ List.mem_cons_self

theorem run_programme (a : Programme.Args) (foreign : (Programme.plan a).Foreign q) :
    Run env (Programme.plan a).provisioner.marks q a.connection (fun v _ => v.Free q) (Programme.main a)
      (fun _ => (Programme.plan a).Published env) := by
  obtain ⟨slugs, -, -⟩ := Provisioning.marked_created .programme
  unfold Programme.main
  apply Run.bind run_resolveConnection
  intro connection
  apply Run.bind run_cleanup
  intro _
  apply Run.bind (run_createDataset foreign.dataset)
  intro id
  -- after some of the pages
  let I : List Programme.DashboardSpec → Fact := fun before v r => ∃ made : List (Page × Made),
    made.map Prod.fst = before.map (Programme.page id) ∧ (∀ m ∈ made, m.2.charts.length = m.1.specs.length) ∧
      v = shown .programme (id, (Programme.plan a).dataset env connection) made ∧ r = some connection
  have loop : Run env Provisioner.programme.marks q a.connection (I []) (Script.each (fun spec => do
      let _ ← Programme.createDashboard spec id
      pure ()) (Programme.dashboardSpecs a id)) (fun _ => I (Programme.dashboardSpecs a id)) := by
    apply Run.each
    intro before spec rest whole
    apply Run.exists
    intro made
    apply Run.and
    intro pages
    apply Run.and
    intro lengths
    have listed : Programme.page id spec ∈ (Programme.plan a).pages id :=
      List.mem_map_of_mem (whole ▸ List.mem_append_right _ List.mem_cons_self)
    have slug : spec.slug ∈ Provisioning.Programme.slugs := by
      have among : spec ∈ Programme.dashboardSpecs a id := whole ▸ List.mem_append_right _ List.mem_cons_self
      simp only [Programme.dashboardSpecs, List.mem_cons, List.not_mem_nil, or_false] at among
      rcases among with rfl | rfl | rfl <;> simp [Provisioning.Programme.slugs]
    have marked : (Programme.page id spec).Marked .programme q :=
      ⟨slugs _ slug, foreign.slugs id _ listed, foreign.charts id _ listed⟩
    have fresh : ∀ m ∈ made, m.1.slug ≠ (Programme.page id spec).slug := by
      intro m mem
      have page : m.1 ∈ before.map (Programme.page id) := pages ▸ List.mem_map_of_mem mem
      obtain ⟨b, earlier, same⟩ := List.mem_map.mp page
      rw [← same]
      exact slug_fresh whole earlier
    apply Run.bind (run_page (id, (Programme.plan a).dataset env connection) marked fresh (fun d => d))
    intro _
    apply Run.pure
    rintro s r ⟨m, same, view, resolved⟩
    refine ⟨made ++ [(Programme.page id spec, m)], ?_, ?_, view, resolved⟩
    · rw [List.map_append, List.map_append, pages]
      rfl
    · intro x mem
      rcases List.mem_append.mp mem with before | last
      · exact lengths x before
      · rw [List.mem_singleton.mp last]
        exact same
  refine loop.mono ?_ ?_
  · rintro s r ⟨view, resolved⟩
    exact ⟨[], rfl, fun x mem => (nomatch mem), view, resolved⟩
  · rintro _ s r ⟨made, pages, lengths, view, resolved⟩
    exact ⟨connection, id, made, resolved, pages, lengths, view⟩

end
end XpBuilder.SupersetApi
