import XpBuilder.Library.Packing
import XpBuilder.Provisioning.GridLayout

/-! The layouts of the programme dashboards and of the user report. The charts go into rows
of twelve grid columns in their order, and the layout is a tree of the grid, its rows and
their charts. -/

namespace XpBuilder.GridLayout
open ChildTree (IsTree Path)

/-! ## The two scripts -/

/-- `rows_of` -/
def rowsOf (charts : List Chart) : List (List Chart) := Packing.pack Chart.width 12 charts

/-- A layout without charts. -/
def emptyLayout (title : String) : Layout :=
  Dict.empty.setAll [("DASHBOARD_VERSION_KEY", .version "v2"), ("HEADER_ID", headerItem title),
    ("ROOT_ID", rootItem), ("GRID_ID", gridItem [])]

/-- `layout_for`, with the height that a script gives its charts. -/
def layoutWith (height : Chart → Nat) (title : String) (charts : List Chart) : Layout :=
  fill (emptyLayout title) (charts.map (fun c => (c, height c))) ((rowsOf charts).map (List.map Chart.id))

/-- `layout_for` of the programme dashboards -/
def programmeLayoutFor (title : String) (charts : List Chart) : Layout :=
  layoutWith (fun c => if c.width ≤ 3 then 26 else if c.vizType = "table" then 60 else 44) title charts

/-- `layout_for` of the user report, under its `DASHBOARD_TITLE` -/
def userReportLayoutFor (charts : List Chart) : Layout :=
  layoutWith (fun c => if c.width = 2 then 26 else if c.vizType = "table" then 60 else 44) "User Report" charts

/-! ## What they write -/

/-- The way to a component as its parents tell it. -/
def Layout.told (l : Layout) (key : String) : List String := ((l.componentAt key).bind Component.parents).getD []

/-- A tree of which the charts are the third level, in their order, and whose components tell
their paths. -/
structure IsChartTree (l : Layout) (charts : List Chart) : Prop where
  tree : IsTree l.children "ROOT_ID"
  parents : ∀ key c path, l.componentAt key = some c → c.parents = some path →
    ∀ p, Path l.children "ROOT_ID" p key ↔ p = path
  inOrder : ((l.childrenAt "ROOT_ID").flatMap l.childrenAt).flatMap l.childrenAt = charts.map Chart.key
  nodes : ∀ key c, l.componentAt key = some c → (c.type = .chart ↔ key ∈ charts.map Chart.key)

/-- The entries of a layout. -/
inductive Written (height : Chart → Nat) (title : String) (charts : List Chart) : String → Item → Prop
  | version : Written height title charts "DASHBOARD_VERSION_KEY" (.version "v2")
  | header : Written height title charts "HEADER_ID" (headerItem title)
  | root : Written height title charts "ROOT_ID" rootItem
  | grid : Written height title charts "GRID_ID" (gridItem ((List.range' 0 (rowsOf charts).length).map rowKey))
  | row {i : Nat} {row : List Chart} (there : (rowsOf charts)[i]? = some row) :
    Written height title charts (rowKey i) (rowItem (rowKey i) (row.map Chart.key))
  | chart {i : Nat} {row : List Chart} {c : Chart} (there : (rowsOf charts)[i]? = some row) (mem : c ∈ row) :
    Written height title charts c.key (addParent (rowKey i) (chartItem c (height c)))

section Layout
variable {height : Chart → Nat} {title : String} {charts : List Chart}

theorem get_emptyLayout_grid : (emptyLayout title).get "GRID_ID" = some (gridItem []) :=
  Dict.get_setAll_of_mem (by simp) (by simp) _

variable (packed : Packing.Packed Chart.width 12 charts (rowsOf charts)) (distinct : (charts.map Chart.id).Nodup)
include packed distinct

theorem nodup_rows : ((rowsOf charts).map (List.map Chart.id)).flatten.Nodup := by
  rw [← List.map_flatten, packed.whole]
  exact distinct

theorem get_layout_grid : (layoutWith height title charts).get "GRID_ID" =
    some (gridItem ((List.range' 0 (rowsOf charts).length).map rowKey)) := by
  rw [layoutWith, get_fill_grid (nodup_rows packed distinct), get_emptyLayout_grid, List.length_map]
  rfl

omit packed distinct in
theorem getElem?_ids {i : Nat} {row : List Chart} (there : (rowsOf charts)[i]? = some row) :
    ((rowsOf charts).map (List.map Chart.id))[i]? = some (row.map Chart.id) := by
  rw [List.getElem?_map, there, Option.map_some]

theorem get_layout_row {i : Nat} {row : List Chart} (there : (rowsOf charts)[i]? = some row) :
    (layoutWith height title charts).get (rowKey i) = some (rowItem (rowKey i) (row.map Chart.key)) := by
  rw [layoutWith, get_fill_row (nodup_rows packed distinct) (getElem?_ids there), List.map_map]
  rfl

theorem get_layout_chart {i : Nat} {row : List Chart} {c : Chart} (there : (rowsOf charts)[i]? = some row)
    (mem : c ∈ row) : (layoutWith height title charts).get c.key =
      some (addParent (rowKey i) (chartItem c (height c))) := by
  have ids : ((charts.map (fun c => (c, height c))).map (fun c => c.1.id)).Nodup := by
    rw [List.map_map]
    exact distinct
  have listed : (c, height c) ∈ charts.map (fun c => (c, height c)) := by
    refine List.mem_map_of_mem ?_
    rw [← packed.whole]
    exact List.mem_flatten.mpr ⟨row, List.mem_of_getElem? there, mem⟩
  exact get_fill_chart (nodup_rows packed distinct) ids listed (getElem?_ids there) (List.mem_map_of_mem mem)

theorem get_layout_other {key : String} (grid : key ≠ "GRID_ID")
    (row : ∀ i < (rowsOf charts).length, key ≠ rowKey i) (chart : key ∉ charts.map Chart.key) :
    (layoutWith height title charts).get key = (emptyLayout title).get key := by
  refine get_fill_other (nodup_rows packed distinct) grid (fun i below => ?_) ?_ ?_
  · rw [List.length_map] at below
    exact row i below
  · rw [← List.map_flatten, packed.whole, List.map_map]
    exact chart
  · rw [List.map_map]
    exact chart

omit distinct in
theorem mem_row_of_mem {c : Chart} (mem : c ∈ charts) : ∃ (i : Nat) (row : List Chart), (rowsOf charts)[i]? = some row ∧ c ∈ row := by
  rw [← packed.whole, List.mem_flatten] at mem
  obtain ⟨row, inside, within⟩ := mem
  obtain ⟨i, there⟩ := List.mem_iff_getElem?.mp inside
  exact ⟨i, row, there, within⟩

/-- The layout has the entries that are written and no others. -/
theorem get_layout_iff {key : String} {item : Item} :
    (layoutWith height title charts).get key = some item ↔ Written height title charts key item := by
  constructor
  · intro got
    by_cases grid : key = "GRID_ID"
    · rw [grid, get_layout_grid packed distinct, Option.some.injEq] at got
      rw [grid, ← got]
      exact .grid
    by_cases row : ∃ i < (rowsOf charts).length, key = rowKey i
    · obtain ⟨i, below, rfl⟩ := row
      have there : (rowsOf charts)[i]? = some (rowsOf charts)[i] := List.getElem?_eq_getElem below
      rw [get_layout_row packed distinct there, Option.some.injEq] at got
      rw [← got]
      exact .row there
    by_cases chart : key ∈ charts.map Chart.key
    · obtain ⟨c, mem, rfl⟩ := List.mem_map.mp chart
      obtain ⟨i, r, there, within⟩ := mem_row_of_mem packed mem
      rw [get_layout_chart packed distinct there within, Option.some.injEq] at got
      rw [← got]
      exact .chart there within
    · rw [get_layout_other packed distinct grid (fun i below same => row ⟨i, below, same⟩) chart] at got
      have entry := Dict.mem_of_get_setAll got
      simp only [List.mem_cons, Prod.mk.injEq, List.not_mem_nil, or_false] at entry
      obtain ⟨rfl, rfl⟩ | ⟨rfl, rfl⟩ | ⟨rfl, rfl⟩ | ⟨rfl, -⟩ := entry
      · exact .version
      · exact .header
      · exact .root
      · exact absurd rfl grid
  · intro written
    have flat := nodup_rows packed distinct
    cases written with
    | version =>
      rw [layoutWith, get_fill_fixed flat (by decide) (rowKey_ne (by simp)) (by simp)]
      exact Dict.get_setAll_of_mem (by simp) (by simp) _
    | header =>
      rw [layoutWith, get_fill_fixed flat (by decide) (rowKey_ne (by simp)) (by simp)]
      exact Dict.get_setAll_of_mem (by simp) (by simp) _
    | root =>
      rw [layoutWith, get_fill_fixed flat (by decide) (rowKey_ne (by simp)) (by simp)]
      exact Dict.get_setAll_of_mem (by simp) (by simp) _
    | grid => exact get_layout_grid packed distinct
    | row there => exact get_layout_row packed distinct there
    | chart there mem => exact get_layout_chart packed distinct there mem

theorem componentAt_iff {key : String} {c : Component} :
    (layoutWith height title charts).componentAt key = some c ↔ Written height title charts key (.component c) := by
  rw [← get_layout_iff packed distinct, Layout.componentAt, Option.bind_eq_some_iff]
  constructor
  · rintro ⟨item, got, shape⟩
    cases item with
    | version text => cases shape
    | component c' =>
      obtain rfl : c' = c := Option.some.inj shape
      exact got
  · exact fun got => ⟨_, got, rfl⟩

/-! ### The tree -/

theorem children_of_written {key : String} {c : Component} (written : Written height title charts key (.component c)) :
    (layoutWith height title charts).children key = some (c.children.getD []) := by
  rw [Layout.children, (componentAt_iff packed distinct).mpr written, Option.map_some]

theorem told_of_written {key : String} {c : Component} (written : Written height title charts key (.component c)) :
    (layoutWith height title charts).told key = c.parents.getD [] := by
  rw [Layout.told, (componentAt_iff packed distinct).mpr written, Option.bind_some]

/-- Every child is there and knows the way to it. -/
theorem child_written {key child : String} {cs : List String}
    (lists : (layoutWith height title charts).children key = some cs) (within : child ∈ cs) :
    ∃ c, Written height title charts child (.component c) ∧
      c.parents = some ((layoutWith height title charts).told key ++ [key]) := by
  obtain ⟨holder, there, rfl⟩ := Option.map_eq_some_iff.mp lists
  have written := (componentAt_iff packed distinct).mp there
  rw [told_of_written packed distinct written]
  cases written with
  | header => exact absurd within List.not_mem_nil
  | root =>
    obtain rfl := List.mem_singleton.mp within
    exact ⟨_, .grid, rfl⟩
  | grid =>
    obtain ⟨i, below, rfl⟩ := List.mem_map.mp within
    rw [List.mem_range'_1, Nat.zero_add] at below
    exact ⟨_, .row (List.getElem?_eq_getElem below.2), rfl⟩
  | row found =>
    obtain ⟨c, mem, rfl⟩ := List.mem_map.mp within
    exact ⟨_, .chart found mem, rfl⟩
  | chart => exact absurd within List.not_mem_nil

theorem path_eq_told {p : List String} {key : String}
    (path : Path (layoutWith height title charts).children "ROOT_ID" p key) :
    p = (layoutWith height title charts).told key := by
  refine path.eq_told (told_of_written packed distinct .root) ?_
  intro k cs lists child within
  obtain ⟨c, written, told⟩ := child_written packed distinct lists within
  rw [told_of_written packed distinct written, told, Option.getD_some]

theorem nodup_children {key : String} {cs : List String}
    (lists : (layoutWith height title charts).children key = some cs) : cs.Nodup := by
  obtain ⟨holder, there, rfl⟩ := Option.map_eq_some_iff.mp lists
  cases (componentAt_iff packed distinct).mp there with
  | header => exact List.nodup_nil
  | root => exact List.nodup_singleton _
  | grid =>
    have numbers : (List.range' 0 (rowsOf charts).length).Nodup := List.nodup_range'
    exact numbers.map rowKey_injective
  | row found =>
    have part := List.sublist_flatten_of_mem (List.mem_of_getElem? found)
    rw [packed.whole] at part
    have ids := distinct.sublist (part.map Chart.id)
    have keys := ids.map chartKey_injective
    rw [List.map_map] at keys
    exact keys
  | chart => exact List.nodup_nil

theorem isTree_layout : IsTree (layoutWith height title charts).children "ROOT_ID" where
  there := by
    rw [children_of_written packed distinct .root]
    rfl
  resolves := by
    intro k cs lists child within
    obtain ⟨c, written, -⟩ := child_written packed distinct lists within
    rw [children_of_written packed distinct written]
    rfl
  once := fun _ _ _ _ lists => nodup_children packed distinct lists
  path := by
    intro p q k path path'
    rw [path_eq_told packed distinct path, path_eq_told packed distinct path']

theorem path_child {p : List String} {key child : String} {cs : List String}
    (path : Path (layoutWith height title charts).children "ROOT_ID" p key)
    (lists : (layoutWith height title charts).children key = some cs) (within : child ∈ cs) :
    Path (layoutWith height title charts).children "ROOT_ID" (p ++ [key]) child :=
  path.child lists within ((isTree_layout packed distinct).resolves key cs lists child within)

/-- What has parents is reached. -/
theorem exists_path {key : String} {c : Component} {path : List String}
    (written : Written height title charts key (.component c)) (told : c.parents = some path) :
    ∃ p, Path (layoutWith height title charts).children "ROOT_ID" p key := by
  have toGrid : Path (layoutWith height title charts).children "ROOT_ID" ["ROOT_ID"] "GRID_ID" :=
    path_child packed distinct (.start (isTree_layout packed distinct).there)
      (children_of_written packed distinct .root) List.mem_cons_self
  have toRow : ∀ {i : Nat} {row : List Chart}, (rowsOf charts)[i]? = some row →
      Path (layoutWith height title charts).children "ROOT_ID" ["ROOT_ID", "GRID_ID"] (rowKey i) := by
    intro i row found
    refine path_child packed distinct toGrid (children_of_written packed distinct .grid) (List.mem_map_of_mem ?_)
    obtain ⟨below, -⟩ := List.getElem?_eq_some_iff.mp found
    rw [List.mem_range'_1, Nat.zero_add]
    exact ⟨Nat.zero_le i, below⟩
  cases written with
  | header => cases told
  | root => cases told
  | grid => exact ⟨_, toGrid⟩
  | row found => exact ⟨_, toRow found⟩
  | chart found mem =>
    exact ⟨_, path_child packed distinct (toRow found) (children_of_written packed distinct (.row found))
      (List.mem_map_of_mem mem)⟩

theorem charts_inOrder : (((layoutWith height title charts).childrenAt "ROOT_ID").flatMap
    (layoutWith height title charts).childrenAt).flatMap (layoutWith height title charts).childrenAt =
      charts.map Chart.key := by
  have atKey : ∀ {key : String} {c : Component}, Written height title charts key (.component c) →
      (layoutWith height title charts).childrenAt key = c.children.getD [] := by
    intro key c written
    rw [Layout.childrenAt, children_of_written packed distinct written, Option.getD_some]
  have rows : ∀ e ∈ (rowsOf charts).zipIdx, (layoutWith height title charts).childrenAt (rowKey e.2) =
      e.1.map Chart.key := by
    intro e mem
    exact atKey (.row (List.mem_zipIdx_iff_getElem?.mp mem))
  rw [atKey .root]
  simp only [Option.getD_some, List.flatMap_cons, List.flatMap_nil, List.append_nil]
  rw [atKey .grid, Option.getD_some, ← List.zipIdx_map_snd 0 (rowsOf charts), List.map_map, List.flatMap_map]
  calc (rowsOf charts).zipIdx.flatMap (fun e => (layoutWith height title charts).childrenAt (rowKey e.2))
      = (rowsOf charts).zipIdx.flatMap (fun e => e.1.map Chart.key) := List.flatMap_congr rows
    _ = ((rowsOf charts).zipIdx.map Prod.fst).flatMap (List.map Chart.key) := by rw [List.flatMap_map]
    _ = charts.map Chart.key := by
      rw [List.zipIdx_map_fst, ← packed.whole, List.map_flatten, List.flatMap_def, packed.whole]

theorem isChartTree_layout : IsChartTree (layoutWith height title charts) charts where
  tree := isTree_layout packed distinct
  parents := by
    intro key c path there told p
    have written := (componentAt_iff packed distinct).mp there
    have way : (layoutWith height title charts).told key = path := by
      rw [told_of_written packed distinct written, told, Option.getD_some]
    constructor
    · intro reached
      rw [path_eq_told packed distinct reached, way]
    · rintro rfl
      obtain ⟨q, reached⟩ := exists_path packed distinct written told
      rw [path_eq_told packed distinct reached, way] at reached
      exact reached
  inOrder := charts_inOrder packed distinct
  nodes := by
    intro key c there
    have fixed : ∀ k : String, k.toList[5]? ≠ some '-' → k ∉ charts.map Chart.key := by
      intro k sixth mem
      obtain ⟨c, -, same⟩ := List.mem_map.mp mem
      exact chartKey_ne sixth c.id same
    cases (componentAt_iff packed distinct).mp there with
    | header => exact iff_of_false (by simp) (fixed _ (by simp))
    | root => exact iff_of_false (by simp) (fixed _ (by simp))
    | grid => exact iff_of_false (by simp) (fixed _ (by simp))
    | @row i row found =>
      refine iff_of_false (by simp) ?_
      intro mem
      obtain ⟨c, -, same⟩ := List.mem_map.mp mem
      exact rowKey_ne_chartKey i c.id same.symm
    | chart found mem =>
      refine iff_of_true rfl (List.mem_map_of_mem ?_)
      rw [← packed.whole]
      exact List.mem_flatten.mpr ⟨_, List.mem_of_getElem? found, mem⟩

end Layout

/-- Charts of twelve columns at most with ids of their own: the rows are packed, and both
scripts write a tree of them. -/
theorem layouts_wellFormed {charts : List Chart} (distinct : (charts.map Chart.id).Nodup)
    (fit : ∀ c ∈ charts, c.width ≤ 12) (title : String) :
    Packing.Packed Chart.width 12 charts (rowsOf charts) ∧
      IsChartTree (programmeLayoutFor title charts) charts ∧ IsChartTree (userReportLayoutFor charts) charts := by
  have packed : Packing.Packed Chart.width 12 charts (rowsOf charts) := Packing.pack_packed fit
  exact ⟨packed, isChartTree_layout packed distinct, isChartTree_layout packed distinct⟩

/-- A number, a chart and a table. -/
def threeCharts : List Chart :=
  [⟨7, "Learners", "big_number_total", 3⟩, ⟨8, "Learners by course", "echarts_timeseries_bar", 6⟩, ⟨9, "Detail", "table", 12⟩]

theorem threeCharts_wellFormed : Packing.Packed Chart.width 12 threeCharts (rowsOf threeCharts) ∧
    IsChartTree (programmeLayoutFor "Programme" threeCharts) threeCharts ∧
    IsChartTree (userReportLayoutFor threeCharts) threeCharts :=
  layouts_wellFormed (by decide) (by decide) "Programme"

end XpBuilder.GridLayout
