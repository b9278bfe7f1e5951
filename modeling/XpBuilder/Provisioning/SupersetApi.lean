import Mathlib.Tactic.Tauto
import XpBuilder.Library.Scripts
import XpBuilder.Library.TableParts
import XpBuilder.Provisioning.Cleanup
import XpBuilder.Provisioning.GridLayout

/-! The part of the REST API that the provisioners use: the objects of a server, what it answers to each
request, when it refuses, and what a request does to the objects that carry given marks. -/

namespace XpBuilder.SupersetApi
open Provisioning (Marks refusal)

/-! ## The objects -/

structure Database where
  databaseName : String
  /-- `parameters.database` of the connection -/
  parameter : Option String
  deriving DecidableEq, Repr

structure Dataset where
  database : Nat
  schema : String
  sql : String
  tableName : String
  columns : List String
  deriving DecidableEq, Repr

/-- A filter of a dashboard, for a column of a dataset. -/
structure NativeFilter where
  id : String
  name : String
  filterType : String
  column : String
  datasetId : Nat
  deriving DecidableEq, Repr

structure Dashboard where
  dashboardTitle : String
  slug : Option String
  nativeFilters : List NativeFilter
  positionJson : GridLayout.Layout
  published : Bool
  deriving DecidableEq

structure Chart where
  sliceName : String
  description : Option String
  vizType : String
  params : String
  datasourceId : Nat
  deriving DecidableEq, Repr

/-- An alert or a report, attached to a dashboard or to a chart. -/
structure ReportSchedule where
  name : String
  dashboard : Option Nat
  chart : Option Nat
  deriving DecidableEq, Repr

/-- What a server has stored. `slices` relates dashboards and charts. -/
structure Stored where
  databases : Table Database
  datasets : Table Dataset
  dashboards : Table Dashboard
  charts : Table Chart
  slices : List (Nat × Nat)
  reports : List ReportSchedule
  known : ∀ p ∈ slices, p.1 < dashboards.next ∧ p.2 < charts.next

/-! ## The changes -/

namespace Stored
variable (s : Stored)

def dropDashboard (id : Nat) : Stored where
  databases := s.databases
  datasets := s.datasets
  dashboards := s.dashboards.delete id
  charts := s.charts
  slices := s.slices.filter (fun p => p.1 ≠ id)
  reports := s.reports
  known p mem := s.known p (List.mem_of_mem_filter mem)

def dropChart (id : Nat) : Stored where
  databases := s.databases
  datasets := s.datasets
  dashboards := s.dashboards
  charts := s.charts.delete id
  slices := s.slices.filter (fun p => p.2 ≠ id)
  reports := s.reports
  known p mem := s.known p (List.mem_of_mem_filter mem)

def withDatasets (datasets : Table Dataset) : Stored := { s with datasets := datasets }

def addDashboard (d : Dashboard) : Stored where
  databases := s.databases
  datasets := s.datasets
  dashboards := s.dashboards.insert d
  charts := s.charts
  slices := s.slices
  reports := s.reports
  known p mem := ⟨Nat.lt_succ_of_lt (s.known p mem).1, (s.known p mem).2⟩

def putDashboard (id : Nat) (d : Dashboard) : Stored := { s with dashboards := s.dashboards.update id (fun _ => d) }

/-- A chart on dashboards that exist. -/
def addChart (c : Chart) (dashboards : List Nat) (exist : ∀ d ∈ dashboards, (s.dashboards.get d).isSome) : Stored where
  databases := s.databases
  datasets := s.datasets
  dashboards := s.dashboards
  charts := s.charts.insert c
  slices := s.slices ++ dashboards.map (fun d => (d, s.charts.next))
  reports := s.reports
  known p mem := by
    rcases List.mem_append.mp mem with before | new
    · exact ⟨(s.known p before).1, Nat.lt_succ_of_lt (s.known p before).2⟩
    · obtain ⟨d, listed, rfl⟩ := List.mem_map.mp new
      obtain ⟨row, there⟩ := Option.isSome_iff_exists.mp (exist d listed)
      exact ⟨Table.lt_next there, Nat.lt_succ_self _⟩

/-- The names of what is attached. -/
def attachedTo (p : ReportSchedule → Bool) : List String := (s.reports.filter p).map ReportSchedule.name

end Stored

/-! ## The requests -/

inductive Request where
  | listDatabases
  | connection (id : Nat)
  | listDashboards
  | listCharts
  | listDatasets
  | deleteDashboard (id : Nat)
  | deleteChart (id : Nat)
  | deleteDataset (id : Nat)
  | postDataset (database : Nat) (schema sql tableName : String)
  | getDataset (id : Nat)
  | refreshDataset (id : Nat)
  | postDashboard (d : Dashboard)
  | postChart (c : Chart) (dashboards : List Nat)
  | putDashboard (id : Nat) (d : Dashboard)

def Request.Response : Request → Type
  | .listDatabases => List (Nat × Database)
  | .connection _ => Option String
  | .listDashboards => List (Nat × Dashboard)
  | .listCharts => List (Nat × Chart)
  | .listDatasets => List (Nat × Dataset)
  | .deleteDashboard _ => Unit
  | .deleteChart _ => Unit
  | .deleteDataset _ => Unit
  | .postDataset .. => Nat
  | .getDataset _ => Dataset
  | .refreshDataset _ => Unit
  | .postDashboard _ => Nat
  | .postChart .. => Nat
  | .putDashboard .. => Unit

/-- The page limit of a server, the order of its listings, and the columns that a connection finds for a query. -/
structure Env where
  server : Provisioning.Server
  arrange : {α : Type} → List (Nat × α) → List (Nat × α)
  arranged : ∀ {α : Type} (l : List (Nat × α)), (arrange l).Perm l
  columns : Nat → String → List String

/-- The page that a listing returns. -/
def Env.page {α : Type} (env : Env) (t : Table α) : List (Nat × α) := env.server.listAll (env.arrange t.rows.entries)

/-- Another dashboard has the slug. -/
def Stored.slugTaken (s : Stored) (slug : Option String) (except : Option Nat) : Bool :=
  slug.any (· ≠ "") && s.dashboards.rows.entries.any (fun e => e.2.slug = slug && some e.1 ≠ except)

def Stored.tableTaken (s : Stored) (database : Nat) (schema tableName : String) : Bool :=
  s.datasets.rows.entries.any (fun e => e.2.database = database && e.2.schema = schema && e.2.tableName = tableName)

/-- What the server answers, and what it has stored then, unless it refuses. -/
def Env.serve (env : Env) : (q : Request) → Stored → Option (q.Response × Stored)
  | .listDatabases, s => some (env.page s.databases, s)
  | .connection id, s => (s.databases.get id).map (fun d => (d.parameter, s))
  | .listDashboards, s => some (env.page s.dashboards, s)
  | .listCharts, s => some (env.page s.charts, s)
  | .listDatasets, s => some (env.page s.datasets, s)
  | .deleteDashboard id, s =>
    if (s.dashboards.get id).isSome ∧ refusal (s.attachedTo (fun r => r.dashboard = some id)) = none
    then some ((), s.dropDashboard id) else none
  | .deleteChart id, s =>
    if (s.charts.get id).isSome ∧ refusal (s.attachedTo (fun r => r.chart = some id)) = none
    then some ((), s.dropChart id) else none
  | .deleteDataset id, s =>
    if (s.datasets.get id).isSome then some ((), s.withDatasets (s.datasets.delete id)) else none
  | .postDataset database schema sql tableName, s =>
    if (s.databases.get database).isSome ∧ s.tableTaken database schema tableName = false
    then some (s.datasets.next, s.withDatasets (s.datasets.insert ⟨database, schema, sql, tableName, env.columns database sql⟩))
    else none
  | .getDataset id, s => (s.datasets.get id).map (fun d => (d, s))
  | .refreshDataset id, s =>
    if (s.datasets.get id).isSome
    then some ((), s.withDatasets (s.datasets.update id (fun d => { d with columns := env.columns d.database d.sql })))
    else none
  | .postDashboard d, s =>
    if s.slugTaken d.slug none = false then some (s.dashboards.next, s.addDashboard d) else none
  | .postChart c dashboards, s =>
    if exist : ∀ d ∈ dashboards, (s.dashboards.get d).isSome then
      if (s.datasets.get c.datasourceId).isSome then some (s.charts.next, s.addChart c dashboards exist) else none
    else none
  | .putDashboard id d, s =>
    if (s.dashboards.get id).isSome ∧ s.slugTaken d.slug (some id) = false then some ((), s.putDashboard id d) else none

/-! ## What carries given marks -/

/-- The objects with the marks, and which of the charts are on which of the dashboards. -/
@[ext] structure View where
  dashboards : List (Nat × Dashboard)
  charts : List (Nat × Chart)
  datasets : List (Nat × Dataset)
  slices : List (Nat × Nat)

/-- The pairs of a dashboard and a chart of two lists. -/
def among (dashboards : List (Nat × Dashboard)) (charts : List (Nat × Chart)) (slices : List (Nat × Nat)) : List (Nat × Nat) :=
  slices.filter (fun p => p.1 ∈ dashboards.map Prod.fst ∧ p.2 ∈ charts.map Prod.fst)

def Stored.view (s : Stored) (m : Marks) : View where
  dashboards := s.dashboards.part (fun d => m.slug d.slug)
  charts := s.charts.part (fun c => m.description c.description)
  datasets := s.datasets.part (fun d => m.tableName d.tableName)
  slices := among (s.dashboards.part (fun d => m.slug d.slug)) (s.charts.part (fun c => m.description c.description)) s.slices

namespace View
variable (v : View)

def dropDashboard (id : Nat) : View :=
  { v with dashboards := v.dashboards.filter (fun e => e.1 ≠ id), slices := v.slices.filter (fun p => p.1 ≠ id) }

def dropChart (id : Nat) : View :=
  { v with charts := v.charts.filter (fun e => e.1 ≠ id), slices := v.slices.filter (fun p => p.2 ≠ id) }

def dropDataset (id : Nat) : View := { v with datasets := v.datasets.filter (fun e => e.1 ≠ id) }

def addDashboard (e : Nat × Dashboard) : View := { v with dashboards := v.dashboards ++ [e] }

def addDataset (e : Nat × Dataset) : View := { v with datasets := v.datasets ++ [e] }

/-- A new chart, on those of the dashboards that are in view. -/
def addChart (e : Nat × Chart) (dashboards : List Nat) : View :=
  { v with
    charts := v.charts ++ [e]
    slices := v.slices ++ (dashboards.filter (fun d => d ∈ v.dashboards.map Prod.fst)).map (fun d => (d, e.1)) }

def putDashboard (id : Nat) (d : Dashboard) : View :=
  { v with dashboards := v.dashboards.map (fun e => if e.1 = id then (e.1, d) else e) }

def refreshDataset (id : Nat) (columns : Dataset → List String) : View :=
  { v with datasets := v.datasets.map (fun e => if e.1 = id then (e.1, { e.2 with columns := columns e.2 }) else e) }

end View

section among
variable {dashboards : List (Nat × Dashboard)} {charts : List (Nat × Chart)} {slices : List (Nat × Nat)}

theorem keys_without {α : Type} (l : List (Nat × α)) (id : Nat) :
    (l.filter (fun e => e.1 ≠ id)).map Prod.fst = (l.map Prod.fst).filter (fun k => k ≠ id) := by
  rw [List.filter_map]
  rfl

theorem among_dropDashboard (id : Nat) :
    among (dashboards.filter (fun e => e.1 ≠ id)) charts (slices.filter (fun p => p.1 ≠ id)) =
      (among dashboards charts slices).filter (fun p => p.1 ≠ id) := by
  unfold among
  rw [List.filter_filter, List.filter_filter, keys_without]
  apply List.filter_congr
  intro p _
  simp only [List.mem_filter, decide_eq_true_eq, ← Bool.decide_and, decide_eq_decide]
  tauto

theorem among_dropChart (id : Nat) :
    among dashboards (charts.filter (fun e => e.1 ≠ id)) (slices.filter (fun p => p.2 ≠ id)) =
      (among dashboards charts slices).filter (fun p => p.2 ≠ id) := by
  unfold among
  rw [List.filter_filter, List.filter_filter, keys_without]
  apply List.filter_congr
  intro p _
  simp only [List.mem_filter, decide_eq_true_eq, ← Bool.decide_and, decide_eq_decide]
  tauto

/-- A new dashboard has no charts. -/
theorem among_newDashboard {next : Nat} (known : ∀ p ∈ slices, p.1 < next) (keep : Bool) (d : Dashboard) :
    among (dashboards ++ if keep then [(next, d)] else []) charts slices = among dashboards charts slices := by
  unfold among
  apply List.filter_congr
  intro p mem
  have old := known p mem
  have other : p.1 ≠ next := Nat.ne_of_lt old
  rw [decide_eq_decide, List.map_append, List.mem_append]
  cases keep <;> simp [other]

theorem among_newChart {next : Nat} (known : ∀ p ∈ slices, p.2 < next) (keep : Bool) (c : Chart) :
    among dashboards (charts ++ if keep then [(next, c)] else []) slices = among dashboards charts slices := by
  unfold among
  apply List.filter_congr
  intro p mem
  have old := known p mem
  have other : p.2 ≠ next := Nat.ne_of_lt old
  rw [decide_eq_decide, List.map_append, List.mem_append]
  cases keep <;> simp [other]

/-- The pairs of a new chart. -/
theorem among_placed {next : Nat} (known : ∀ e ∈ charts, e.1 < next) (keep : Bool) (c : Chart) (ids : List Nat) :
    among dashboards (charts ++ if keep then [(next, c)] else []) (ids.map (fun d => (d, next))) =
      if keep then (ids.filter (fun d => d ∈ dashboards.map Prod.fst)).map (fun d => (d, next)) else [] := by
  have absent : next ∉ charts.map Prod.fst := by
    intro there
    obtain ⟨e, mem, same⟩ := List.mem_map.mp there
    have old := known e mem
    omega
  unfold among
  rw [List.filter_map]
  cases keep with
  | true =>
    rw [if_pos rfl, if_pos rfl]
    congr 1
    apply List.filter_congr
    intro d _
    simp
  | false =>
    rw [if_neg Bool.false_ne_true, if_neg Bool.false_ne_true, List.append_nil, List.map_eq_nil_iff]
    apply List.filter_eq_nil_iff.mpr
    intro d _
    rw [Function.comp_apply, decide_eq_true_eq]
    exact fun holds => absent holds.2

theorem among_append (slices' : List (Nat × Nat)) :
    among dashboards charts (slices ++ slices') = among dashboards charts slices ++ among dashboards charts slices' :=
  List.filter_append ..

theorem among_congr {dashboards' : List (Nat × Dashboard)} (same : dashboards'.map Prod.fst = dashboards.map Prod.fst) :
    among dashboards' charts slices = among dashboards charts slices := by
  rw [among, same, among]

end among

namespace Stored
variable (s : Stored) (m : Marks)

theorem view_dropDashboard (id : Nat) : (s.dropDashboard id).view m = (s.view m).dropDashboard id := by
  have part := s.dashboards.part_delete id (fun d => m.slug d.slug)
  unfold view dropDashboard
  rw [part]
  ext1
  · rfl
  · rfl
  · rfl
  · exact among_dropDashboard id

theorem view_dropChart (id : Nat) : (s.dropChart id).view m = (s.view m).dropChart id := by
  have part := s.charts.part_delete id (fun c => m.description c.description)
  unfold view dropChart
  rw [part]
  ext1
  · rfl
  · rfl
  · rfl
  · exact among_dropChart id

theorem view_dropDataset (id : Nat) : (s.withDatasets (s.datasets.delete id)).view m = (s.view m).dropDataset id := by
  have part := s.datasets.part_delete id (fun d => m.tableName d.tableName)
  unfold view withDatasets
  rw [part]
  rfl

theorem view_addDataset (d : Dataset) : (s.withDatasets (s.datasets.insert d)).view m =
    if m.tableName d.tableName then (s.view m).addDataset (s.datasets.next, d) else s.view m := by
  have part := s.datasets.part_insert d (fun d => m.tableName d.tableName)
  unfold view withDatasets
  rw [part]
  split_ifs
  · rfl
  · rw [List.append_nil]

theorem view_refreshDataset (id : Nat) (columns : Dataset → List String) :
    (s.withDatasets (s.datasets.update id (fun d => { d with columns := columns d }))).view m =
      (s.view m).refreshDataset id columns := by
  have part := s.datasets.part_update id (f := fun d => { d with columns := columns d }) (p := fun d => m.tableName d.tableName)
    (fun _ _ => rfl)
  unfold view withDatasets
  rw [part]
  rfl

theorem view_addDashboard (d : Dashboard) : (s.addDashboard d).view m =
    if m.slug d.slug then (s.view m).addDashboard (s.dashboards.next, d) else s.view m := by
  have part := s.dashboards.part_insert d (fun d => m.slug d.slug)
  unfold view addDashboard
  rw [part, among_newDashboard (fun p mem => (s.known p mem).1)]
  split_ifs
  · rfl
  · rw [List.append_nil]

theorem view_putDashboard {id : Nat} {d : Dashboard} (same : ∀ e, s.dashboards.get id = some e → e.slug = d.slug) :
    (s.putDashboard id d).view m = (s.view m).putDashboard id d := by
  have part := s.dashboards.part_update id (f := fun _ => d) (p := fun d => m.slug d.slug)
    (fun e there => by rw [same e there])
  have keys : ((s.dashboards.part (fun d => m.slug d.slug)).map (fun e => if e.1 = id then (e.1, d) else e)).map Prod.fst =
      (s.dashboards.part (fun d => m.slug d.slug)).map Prod.fst := by
    rw [List.map_map]
    apply List.map_congr_left
    intro e _
    dsimp only [Function.comp_apply]
    split_ifs <;> rfl
  unfold view putDashboard
  rw [part, among_congr keys]
  rfl

theorem view_addChart (c : Chart) (dashboards : List Nat) (exist : ∀ d ∈ dashboards, (s.dashboards.get d).isSome) :
    (s.addChart c dashboards exist).view m =
      if m.description c.description then (s.view m).addChart (s.charts.next, c) dashboards else s.view m := by
  have part := s.charts.part_insert c (fun c => m.description c.description)
  unfold view addChart
  rw [part, among_append, among_newChart (fun p mem => (s.known p mem).2),
    among_placed (fun e mem => Table.lt_next_of_mem_part mem)]
  split_ifs
  · rfl
  · rw [List.append_nil, List.append_nil]

/-- The pairs in view are about objects in view. -/
theorem mem_view_slices {p : Nat × Nat} (mem : p ∈ (s.view m).slices) :
    p.1 ∈ (s.view m).dashboards.map Prod.fst ∧ p.2 ∈ (s.view m).charts.map Prod.fst :=
  of_decide_eq_true (List.mem_filter.mp mem).2

end Stored
end XpBuilder.SupersetApi
