import XpBuilder.Library.ChildTree
import XpBuilder.Publish.Places

/-! The position tree as a tree: every component has one path from ROOT_ID at most, and its
`parents` tell it. Adding a chart grafts a row, a column and the chart itself below the GRID or
the first TAB, and keeps all of this. -/

namespace XpBuilder.Layout
open ChildTree (IsTree Path graft single)

/-- The child lists of the components. -/
def children (l : Layout) : ChildTree.Children String := fun k => (l.nodeAt k).map Node.childIds

/-- What a component is and which parents it tells. -/
def frame (l : Layout) (k : String) : Option (NodeType × Option (List String)) :=
  (l.nodeAt k).map (fun n => (n.type, n.parents))

/-- ROOT_ID and GRID_ID are there, every child resolves, no component has two paths, every TABS
has a TAB, and the parents are the path; the GRID below the root may tell none. -/
structure WellFormed (l : Layout) : Prop where
  tree : IsTree l.children "ROOT_ID"
  grid : (l.nodeAt "GRID_ID").isSome
  tabs : ∀ k cs, l.isType .tabs k → l.children k = some cs → ∃ c ∈ cs, l.isType .tab c
  parents : ∀ p k t parents, Path l.children "ROOT_ID" p k → l.frame k = some (t, parents) →
    parents.getD [] = p ∨ (k = "GRID_ID" ∧ p = ["ROOT_ID"] ∧ parents.getD [] = [])

/-- Flat or tabbed: the root holds the GRID or TABS. -/
def Laid (l : Layout) : Prop :=
  ∃ cs, l.children "ROOT_ID" = some cs ∧ ("GRID_ID" ∈ cs ∨ ∃ c ∈ cs, l.isType .tabs c)

/-- A component of type `t` whose one path is `p`, as its parents tell. -/
def Stands (l : Layout) (key : String) (t : NodeType) (p : List String) : Prop :=
  (∀ q, Path l.children "ROOT_ID" q key ↔ q = p) ∧ l.frame key = some (t, some p)

theorem isType_iff {l : Layout} {t : NodeType} {k : String} : l.isType t k ↔ ∃ parents, l.frame k = some (t, parents) := by
  unfold isType frame
  cases l.nodeAt k with
  | none => simp
  | some n => simp

theorem isSome_children {l : Layout} {k : String} : (l.children k).isSome = (l.nodeAt k).isSome := by
  unfold children
  exact Option.isSome_map

theorem children_of_get_none {l : Layout} {k : String} (absent : l.get k = none) : l.children k = none := by
  simp [children, nodeAt, absent]

/-! ## Where the row goes -/

theorem tabUnder_eq_some {l : Layout} {cs : List String} {tab : String} (found : l.tabUnder cs = some tab) :
    l.isType .tab tab ∧ ∃ c ∈ cs, ∃ ds, l.isType .tabs c ∧ l.children c = some ds ∧ tab ∈ ds := by
  induction cs with
  | nil => cases found
  | cons c rest ih =>
    have later : l.tabUnder rest = some tab →
        l.isType .tab tab ∧ ∃ c' ∈ c :: rest, ∃ ds, l.isType .tabs c' ∧ l.children c' = some ds ∧ tab ∈ ds := by
      intro found
      obtain ⟨isTab, c', within, holds⟩ := ih found
      exact ⟨isTab, c', List.mem_cons_of_mem _ within, holds⟩
    unfold tabUnder at found
    cases there : l.nodeAt c with
    | none =>
      rw [there] at found
      exact later found
    | some n =>
      rw [there] at found
      by_cases tabs : n.type = .tabs
      · simp only [if_pos tabs] at found
        cases first : n.childIds.find? (l.isType .tab) with
        | none =>
          rw [first] at found
          exact later found
        | some tab' =>
          rw [first] at found
          obtain rfl : tab' = tab := Option.some.inj found
          refine ⟨List.find?_some first, c, List.mem_cons_self, n.childIds, ?_, ?_, List.mem_of_find?_eq_some first⟩
          · simp [isType, there, tabs]
          · simp [children, there]
      · simp only [if_neg tabs] at found
        exact later found

theorem tabUnder_eq_none {l : Layout} {cs : List String} (absent : l.tabUnder cs = none) {c : String} (within : c ∈ cs)
    (tabs : l.isType .tabs c) {ds : List String} (lists : l.children c = some ds) : ∀ d ∈ ds, ¬l.isType .tab d := by
  induction cs with
  | nil => exact absurd within List.not_mem_nil
  | cons first rest ih =>
    unfold tabUnder at absent
    cases there : l.nodeAt first with
    | none =>
      rw [there] at absent
      rcases List.mem_cons.mp within with rfl | later
      · simp [isType, there] at tabs
      · exact ih absent later
    | some n =>
      rw [there] at absent
      by_cases type : n.type = .tabs
      · simp only [if_pos type] at absent
        cases found : n.childIds.find? (l.isType .tab) with
        | some tab =>
          rw [found] at absent
          cases absent
        | none =>
          rw [found] at absent
          rcases List.mem_cons.mp within with rfl | later
          · simp only [children, there, Option.map_some, Option.some.injEq] at lists
            rw [← lists]
            exact List.find?_eq_none.mp found
          · exact ih absent later
      · simp only [if_neg type] at absent
        rcases List.mem_cons.mp within with rfl | later
        · simp [isType, there, type] at tabs
        · exact ih absent later

/-- The holder of the new row. -/
def holder (l : Layout) : String := (tabTarget l).getD "GRID_ID"

theorem holder_kind (l : Layout) : l.holder = "GRID_ID" ∨ l.isType .tab l.holder := by
  unfold holder
  cases target : tabTarget l with
  | none => exact .inl rfl
  | some tab =>
    right
    unfold tabTarget at target
    rcases Option.or_eq_some_iff.mp target with under | ⟨-, under⟩
    · obtain ⟨n, -, found⟩ := Option.bind_eq_some_iff.mp under
      exact (tabUnder_eq_some found).1
    · obtain ⟨n, -, found⟩ := Option.bind_eq_some_iff.mp under
      exact (tabUnder_eq_some found).1

/-- The parents of the holder, as the new row tells them. -/
def holderParents (l : Layout) : List String :=
  let known := ((l.nodeAt l.holder).bind Node.parents).getD []
  if l.holder = "GRID_ID" ∧ known = [] then ["ROOT_ID"] else known

theorem addChart_eq (l : Layout) (ids : FreshIds) (chartId : Nat) (sliceName : String) :
    l.addChart ids chartId sliceName =
      wireRoot (hangRow l (placeNodes l ids chartId sliceName (l.holderParents ++ [l.holder])) l.holder ids.row
        [chartKey chartId, ids.column, ids.row]) := rfl

theorem path_root {l : Layout} (formed : l.WellFormed) : Path l.children "ROOT_ID" [] "ROOT_ID" := .start formed.tree.there

/-- The holder is in the tree. -/
theorem exists_path_holder {l : Layout} (formed : l.WellFormed) (laid : l.Laid) : ∃ p, Path l.children "ROOT_ID" p l.holder := by
  obtain ⟨cs, lists, top⟩ := laid
  have step : ∀ {p k ds c}, Path l.children "ROOT_ID" p k → l.children k = some ds → c ∈ ds →
      Path l.children "ROOT_ID" (p ++ [k]) c := fun path lists within =>
    .child path lists within (formed.tree.resolves _ _ lists _ within)
  have root : ∃ n, l.nodeAt "ROOT_ID" = some n ∧ n.childIds = cs := Option.map_eq_some_iff.mp lists
  obtain ⟨root, there, rfl⟩ := root
  have first : (l.nodeAt "ROOT_ID").bind (fun n => tabUnder l n.childIds) = tabUnder l root.childIds := by
    rw [there, Option.bind_some]
  unfold holder tabTarget
  simp only [first]
  cases under : tabUnder l root.childIds with
  | some tab =>
    obtain ⟨-, c, within, ds, -, listed, tabWithin⟩ := tabUnder_eq_some under
    exact ⟨_, step (step (path_root formed) lists within) listed tabWithin⟩
  | none =>
    -- TABS under the root would have shown a TAB, so the layout is flat
    have flat : "GRID_ID" ∈ root.childIds := by
      rcases top with flat | ⟨c, within, tabs⟩
      · exact flat
      · have resolved := formed.tree.resolves _ _ lists c within
        obtain ⟨ds, listed⟩ := Option.isSome_iff_exists.mp resolved
        obtain ⟨d, inside, isTab⟩ := formed.tabs c ds tabs listed
        exact absurd isTab (tabUnder_eq_none under within tabs listed d inside)
    have grid := step (path_root formed) lists flat
    obtain ⟨n, gridThere⟩ := Option.isSome_iff_exists.mp formed.grid
    simp only [Option.none_or, gridThere, Option.bind_some]
    cases below : tabUnder l n.childIds with
    | none => exact ⟨_, grid⟩
    | some tab =>
      obtain ⟨-, c, within, ds, -, listed, tabWithin⟩ := tabUnder_eq_some below
      have gridLists : l.children "GRID_ID" = some n.childIds := by simp [children, gridThere]
      exact ⟨_, step (step grid gridLists within) listed tabWithin⟩

/-- The parents of the new row are its path. -/
theorem holderParents_eq {l : Layout} (formed : l.WellFormed) {p : List String} (path : Path l.children "ROOT_ID" p l.holder) :
    l.holderParents = p := by
  obtain ⟨n, there⟩ : ∃ n, l.nodeAt l.holder = some n := by
    have known := path.there
    rw [isSome_children] at known
    exact Option.isSome_iff_exists.mp known
  have told : l.frame l.holder = some (n.type, n.parents) := by simp [frame, there]
  unfold holderParents
  simp only [there, Option.bind_some]
  rcases formed.parents p _ _ _ path told with parents | ⟨grid, below, none⟩
  · rw [parents]
    split_ifs with bare
    · -- only the root has no parents, and it is not the GRID
      obtain ⟨isGrid, none⟩ := bare
      have top := path.eq_root (parents ▸ none)
      rw [isGrid] at top
      exact absurd top (by decide)
    · rfl
  · rw [if_pos ⟨grid, none⟩, below]

/-! ## What is added -/

/-- `l'` is `l` with a row below `at`, a column in the row and the chart in the column. -/
structure Added (l l' : Layout) (ids : FreshIds) (chartId : Nat) (parents : List String) (parentId : String) : Prop where
  children : l'.children =
    graft (graft (graft l.children parentId ids.row) ids.row ids.column) ids.column (chartKey chartId)
  kept : ∀ k, k ≠ ids.row → k ≠ ids.column → k ≠ chartKey chartId → l'.frame k = l.frame k
  row : l'.frame ids.row = some (.row, some (parents ++ [parentId]))
  column : l'.frame ids.column = some (.column, some (parents ++ [parentId] ++ [ids.row]))
  chart : l'.frame (chartKey chartId) = some (.chart, some (parents ++ [parentId] ++ [ids.row] ++ [ids.column]))

theorem row_ne_column (ids : FreshIds) : ids.row ≠ ids.column := by
  intro same
  have chars := congrArg String.toList same
  simp [FreshIds.row, FreshIds.column] at chars

section
variable {l l' : Layout} {ids : FreshIds} {chartId : Nat} {p : List String} {parentId : String}

/-- The keys of the new components are free. -/
structure Fresh (l : Layout) (ids : FreshIds) (chartId : Nat) : Prop where
  row : l.get ids.row = none
  column : l.get ids.column = none
  chart : l.get (chartKey chartId) = none

theorem Fresh.ne (fresh : l.Fresh ids chartId) {k : String} (there : (l.get k).isSome) :
    k ≠ ids.row ∧ k ≠ ids.column ∧ k ≠ chartKey chartId := by
  refine ⟨?_, ?_, ?_⟩
  · rintro rfl
    rw [fresh.row] at there
    cases there
  · rintro rfl
    rw [fresh.column] at there
    cases there
  · rintro rfl
    rw [fresh.chart] at there
    cases there

/-! ## The nodes after each part of the code -/

theorem frame_placeNodes (l : Layout) (ids : FreshIds) (chartId : Nat) (sliceName : String) (parents : List String) (k : String) :
    frame (placeNodes l ids chartId sliceName parents) k =
      if k = ids.row then some (.row, some parents)
      else if k = ids.column then some (.column, some (parents ++ [ids.row]))
      else if k = chartKey chartId then some (.chart, some (parents ++ [ids.row] ++ [ids.column]))
      else l.frame k := by
  unfold frame placeNodes
  simp only [nodeAt_set]
  split_ifs <;> rfl

theorem children_placeNodes (l : Layout) (ids : FreshIds) (chartId : Nat) (sliceName : String) (parents : List String) (k : String) :
    children (placeNodes l ids chartId sliceName parents) k =
      if k = ids.row then some [ids.column] else if k = ids.column then some [chartKey chartId]
      else if k = chartKey chartId then some [] else l.children k := by
  unfold children placeNodes
  simp only [nodeAt_set]
  split_ifs <;> rfl

theorem frame_modifyNode (l : Layout) (key : String) {f : Node → Node}
    (same : ∀ n, (f n).type = n.type ∧ (f n).parents = n.parents) (k : String) :
    frame (l.modifyNode key f) k = l.frame k := by
  unfold frame
  rw [nodeAt_modifyNode]
  split_ifs
  · cases l.nodeAt k with
    | none => rfl
    | some n => simp [same n]
  · rfl

theorem children_modifyNode (l : Layout) (key : String) {f : Node → Node} {g : List String → List String}
    (lists : ∀ n, (f n).childIds = g n.childIds) (k : String) :
    children (l.modifyNode key f) k = if k = key then (l.children k).map g else l.children k := by
  unfold children
  rw [nodeAt_modifyNode]
  split_ifs
  · cases l.nodeAt k with
    | none => rfl
    | some n => simp [lists n]
  · rfl

theorem childIds_addChild (n : Node) (key : String) : (n.addChild key).childIds = n.childIds ++ [key] := rfl

theorem nodeAt_versioned (l : Layout) (k : String) :
    nodeAt (if (l.get "DASHBOARD_VERSION_KEY").isSome then l
      else l.set "DASHBOARD_VERSION_KEY" (.scalar "v2")) k = l.nodeAt k := by
  split_ifs with known
  · rfl
  · rw [nodeAt_set]
    split_ifs with same
    · have none : l.get "DASHBOARD_VERSION_KEY" = none := by simpa using known
      simp [same, nodeAt, none, Entry.node?]
    · rfl

/-- A root that holds the GRID or TABS is left as it is, but for a missing child list. -/
theorem nodeAt_wireRoot (grid : (l.get "GRID_ID").isSome) (laid : l.Laid) (k : String) :
    nodeAt (wireRoot l) k =
      if k = "ROOT_ID" then (l.nodeAt k).map (fun n => { n with children := some n.childIds }) else l.nodeAt k := by
  obtain ⟨cs, lists, top⟩ := laid
  obtain ⟨root, there, rfl⟩ := Option.map_eq_some_iff.mp lists
  have wired : (root.childIds.any (isType l .tabs) || "GRID_ID" ∈ root.childIds) = true := by
    rw [Bool.or_eq_true, decide_eq_true_eq, List.any_eq_true]
    exact top.symm
  unfold wireRoot
  simp only [if_pos grid, there, wired, if_true]
  rw [nodeAt_versioned, nodeAt_modifyNode]

/-- A missing root is made, with the GRID below it. -/
theorem nodeAt_wireRoot_of_none (grid : (l.get "GRID_ID").isSome) (absent : l.nodeAt "ROOT_ID" = none) (k : String) :
    nodeAt (wireRoot l) k =
      if k = "ROOT_ID" then some ⟨.root, "ROOT_ID", some ["GRID_ID"], none, NodeMeta.none⟩ else l.nodeAt k := by
  unfold wireRoot
  simp only [if_pos grid, absent]
  rw [nodeAt_versioned, nodeAt_set]
  rfl

theorem isSome_get_of_nodeAt {k : String} (there : (l.nodeAt k).isSome) : (l.get k).isSome := by
  unfold nodeAt at there
  cases found : l.get k with
  | none => simp [found] at there
  | some e => rfl

theorem isSome_get_of_children {k : String} {cs : List String} (lists : l.children k = some cs) : (l.get k).isSome := by
  apply isSome_get_of_nodeAt
  rw [← isSome_children, lists]
  rfl

theorem isSome_get_of_isType {t : NodeType} {k : String} (type : l.isType t k) : (l.get k).isSome := by
  apply isSome_get_of_nodeAt
  unfold isType at type
  cases there : l.nodeAt k with
  | none => simp [there] at type
  | some n => rfl

/-- The child lists after the three grafts. -/
theorem grafts_apply (t : ChildTree.Children String) (ids : FreshIds) (chartId : Nat) (k : String) :
    graft (graft (graft t parentId ids.row) ids.row ids.column) ids.column (chartKey chartId) k =
      if k = ids.row then some [ids.column] else if k = ids.column then some [chartKey chartId]
      else if k = chartKey chartId then some []
      else if k = parentId then (t k).map (fun cs => cs ++ [ids.row]) else t k := by
  have rowColumn := row_ne_column ids
  have rowChart := row_ne_chartKey ids chartId
  have columnChart := column_ne_chartKey ids chartId
  unfold graft
  by_cases isRow : k = ids.row
  · subst isRow
    simp [rowColumn, rowChart]
  · by_cases isColumn : k = ids.column
    · subst isColumn
      simp [isRow, columnChart]
    · by_cases isChart : k = chartKey chartId
      · subst isChart
        simp [isRow, isColumn]
      · simp [isChart, isColumn, isRow]

/-- The layout with the three components, before the root is looked at. -/
def hung (l : Layout) (ids : FreshIds) (chartId : Nat) (sliceName : String) : Layout :=
  (placeNodes l ids chartId sliceName (l.holderParents ++ [l.holder])).modifyNode l.holder (fun n => n.addChild ids.row)

theorem holder_there (path : Path l.children "ROOT_ID" p l.holder) : (l.nodeAt l.holder).isSome := by
  have known := path.there
  rw [isSome_children] at known
  exact known

theorem addChart_eq_wireRoot (fresh : l.Fresh ids chartId) (path : Path l.children "ROOT_ID" p l.holder) (sliceName : String) :
    l.addChart ids chartId sliceName = wireRoot (l.hung ids chartId sliceName) := by
  obtain ⟨n, there⟩ := Option.isSome_iff_exists.mp (holder_there path)
  have holderNew := fresh.ne (isSome_get_of_nodeAt (holder_there path))
  have unwritten : l.holder ∉ [chartKey chartId, ids.column, ids.row] := by simp [holderNew]
  rw [addChart_eq, hung, hangRow]
  simp only [there]
  rw [if_neg unwritten]

theorem frame_hung (l : Layout) (ids : FreshIds) (chartId : Nat) (sliceName : String) (k : String) :
    (l.hung ids chartId sliceName).frame k =
      (placeNodes l ids chartId sliceName (l.holderParents ++ [l.holder])).frame k :=
  frame_modifyNode _ l.holder (f := fun n => n.addChild ids.row) (fun _ => ⟨rfl, rfl⟩) k

theorem children_hung (l : Layout) (ids : FreshIds) (chartId : Nat) (sliceName : String) (k : String) :
    (l.hung ids chartId sliceName).children k =
      if k = l.holder then
        ((placeNodes l ids chartId sliceName (l.holderParents ++ [l.holder])).children k).map (fun cs => cs ++ [ids.row])
      else (placeNodes l ids chartId sliceName (l.holderParents ++ [l.holder])).children k :=
  children_modifyNode _ l.holder (f := fun n => n.addChild ids.row) (fun n => childIds_addChild n ids.row) k

/-- What stood there before has its frame. -/
theorem frame_hung_old (fresh : l.Fresh ids chartId) (sliceName : String) {k : String} (there : (l.get k).isSome) :
    (l.hung ids chartId sliceName).frame k = l.frame k := by
  obtain ⟨row, column, chart⟩ := fresh.ne there
  rw [frame_hung, frame_placeNodes, if_neg row, if_neg column, if_neg chart]

/-- What stood there before has its children, with the row perhaps behind them. -/
theorem children_hung_old (fresh : l.Fresh ids chartId) (sliceName : String) {k : String} {cs : List String}
    (lists : l.children k = some cs) :
    (l.hung ids chartId sliceName).children k = some (if k = l.holder then cs ++ [ids.row] else cs) := by
  obtain ⟨row, column, chart⟩ := fresh.ne (isSome_get_of_children lists)
  rw [children_hung, children_placeNodes, if_neg row, if_neg column, if_neg chart, lists]
  split_ifs <;> rfl

theorem grid_hung (formed : l.WellFormed) (fresh : l.Fresh ids chartId) (sliceName : String) :
    ((l.hung ids chartId sliceName).get "GRID_ID").isSome := by
  obtain ⟨n, there⟩ := Option.isSome_iff_exists.mp formed.grid
  have lists : l.children "GRID_ID" = some n.childIds := by simp [children, there]
  exact isSome_get_of_children (children_hung_old fresh sliceName lists)

theorem laid_hung (laid : l.Laid) (fresh : l.Fresh ids chartId) (sliceName : String) : (l.hung ids chartId sliceName).Laid := by
  obtain ⟨cs, lists, top⟩ := laid
  have front : cs <+: if "ROOT_ID" = l.holder then cs ++ [ids.row] else cs := by
    split_ifs
    · exact List.prefix_append cs [ids.row]
    · exact List.prefix_rfl
  refine ⟨_, children_hung_old fresh sliceName lists, ?_⟩
  refine top.imp (fun flat => front.subset flat) (fun ⟨c, within, tabs⟩ => ⟨c, front.subset within, ?_⟩)
  have kept := frame_hung_old fresh sliceName (isSome_get_of_isType tabs)
  rw [isType_iff] at tabs ⊢
  rw [kept]
  exact tabs

theorem frame_wireRoot (grid : (l.get "GRID_ID").isSome) (laid : l.Laid) (k : String) : (wireRoot l).frame k = l.frame k := by
  unfold frame
  rw [nodeAt_wireRoot grid laid]
  split_ifs
  · cases l.nodeAt k <;> rfl
  · rfl

theorem children_wireRoot (grid : (l.get "GRID_ID").isSome) (laid : l.Laid) (k : String) :
    (wireRoot l).children k = l.children k := by
  unfold children
  rw [nodeAt_wireRoot grid laid]
  split_ifs
  · cases l.nodeAt k <;> rfl
  · rfl

/-- Adding a chart to a laid tree grafts its three components below the holder. -/
theorem added_of_laid (formed : l.WellFormed) (laid : l.Laid) (fresh : l.Fresh ids chartId)
    (path : Path l.children "ROOT_ID" p l.holder) (sliceName : String) :
    Added l (l.addChart ids chartId sliceName) ids chartId p l.holder := by
  have grid := grid_hung formed fresh sliceName
  have laidHung := laid_hung laid fresh sliceName
  have frames : ∀ k, (l.addChart ids chartId sliceName).frame k =
      (placeNodes l ids chartId sliceName (p ++ [l.holder])).frame k := by
    intro k
    rw [addChart_eq_wireRoot fresh path, frame_wireRoot grid laidHung, frame_hung, holderParents_eq formed path]
  have rowColumn := row_ne_column ids
  have rowChart := row_ne_chartKey ids chartId
  have columnChart := column_ne_chartKey ids chartId
  obtain ⟨holderRow, holderColumn, holderChart⟩ := fresh.ne (isSome_get_of_nodeAt (holder_there path))
  refine ⟨?_, ?_, ?_, ?_, ?_⟩
  · funext k
    rw [addChart_eq_wireRoot fresh path, children_wireRoot grid laidHung, children_hung, children_placeNodes, grafts_apply]
    by_cases here : k = l.holder
    · rw [here]
      simp [holderRow, holderColumn, holderChart]
    · rw [if_neg here, if_neg here]
  · intro k row column chart
    rw [frames, frame_placeNodes, if_neg row, if_neg column, if_neg chart]
  · rw [frames, frame_placeNodes, if_pos rfl]
  · rw [frames, frame_placeNodes, if_neg rowColumn.symm, if_pos rfl]
  · rw [frames, frame_placeNodes, if_neg rowChart.symm, if_neg columnChart.symm, if_pos rfl]

/-! ## An empty layout -/

/-- The layout that the code makes of an empty one before the row hangs in it. -/
def bare : Layout :=
  (Dict.empty.set "GRID_ID" (.node ⟨.grid, "GRID_ID", some [], none, NodeMeta.none⟩)).set "ROOT_ID"
    (.node ⟨.root, "ROOT_ID", some ["GRID_ID"], none, NodeMeta.none⟩)

theorem children_bare : bare.children = graft (single "ROOT_ID") "ROOT_ID" "GRID_ID" := by
  funext k
  unfold children bare graft single
  simp only [nodeAt_set]
  by_cases grid : k = "GRID_ID"
  · subst grid
    rfl
  · by_cases root : k = "ROOT_ID"
    · subst root
      rfl
    · rw [if_neg root, if_neg grid, if_neg grid, if_neg root, if_neg root]
      rfl

theorem wellFormed_bare : bare.WellFormed where
  tree := by
    rw [children_bare]
    exact (ChildTree.isTree_single "ROOT_ID").graft rfl rfl
  grid := rfl
  tabs := by
    intro k cs tabs
    rw [isType_iff] at tabs
    obtain ⟨parents, frame⟩ := tabs
    unfold Layout.frame bare at frame
    simp only [nodeAt_set] at frame
    split_ifs at frame <;> cases frame
  parents := by
    intro q k t parents path frame
    rw [children_bare, (ChildTree.isTree_single "ROOT_ID").path_graft_iff rfl rfl, ChildTree.path_single_iff] at path
    rcases path with ⟨rfl, rfl⟩ | ⟨rfl, r, below, rfl⟩
    · cases frame
      exact .inl rfl
    · obtain ⟨rfl, -⟩ := ChildTree.path_single_iff.mp below
      cases frame
      exact .inr ⟨rfl, rfl, rfl⟩

theorem laid_bare : bare.Laid := ⟨["GRID_ID"], rfl, .inl List.mem_cons_self⟩

theorem path_bare : Path bare.children "ROOT_ID" ["ROOT_ID"] "GRID_ID" :=
  .child (path_root wellFormed_bare) rfl List.mem_cons_self rfl

theorem fresh_ne_known (ids : FreshIds) (chartId : Nat) {k : String} (known : k = "ROOT_ID" ∨ k = "GRID_ID") :
    k ≠ ids.row ∧ k ≠ ids.column ∧ k ≠ chartKey chartId := by
  have apart : ∀ {k k' : String}, k.toList ≠ k'.toList → k ≠ k' := fun differ same => differ (congrArg String.toList same)
  rcases known with rfl | rfl
  · exact ⟨apart (by simp [FreshIds.row]), apart (by simp [FreshIds.column]), apart (by simp [chartKey])⟩
  · exact ⟨apart (by simp [FreshIds.row]), apart (by simp [FreshIds.column]), apart (by simp [chartKey])⟩

/-- The nodes of a chart that is added to an empty layout: a ROOT and a GRID beside its own. -/
theorem nodeAt_addChart_empty (ids : FreshIds) (chartId : Nat) (sliceName : String) (k : String) :
    nodeAt (addChart Dict.empty ids chartId sliceName) k =
      if k = "ROOT_ID" then some ⟨.root, "ROOT_ID", some ["GRID_ID"], none, NodeMeta.none⟩
      else if k = "GRID_ID" then some ⟨.grid, "GRID_ID", some [ids.row], none, NodeMeta.none⟩
      else nodeAt (placeNodes Dict.empty ids chartId sliceName (["ROOT_ID"] ++ ["GRID_ID"])) k := by
  obtain ⟨rootRow, rootColumn, rootChart⟩ := fresh_ne_known ids chartId (.inl rfl)
  obtain ⟨gridRow, gridColumn, gridChart⟩ := fresh_ne_known ids chartId (.inr rfl)
  have made : addChart Dict.empty ids chartId sliceName = wireRoot (hangRow Dict.empty
      (placeNodes Dict.empty ids chartId sliceName (["ROOT_ID"] ++ ["GRID_ID"])) "GRID_ID" ids.row
      [chartKey chartId, ids.column, ids.row]) := rfl
  rw [made]
  generalize placed_eq : placeNodes Dict.empty ids chartId sliceName (["ROOT_ID"] ++ ["GRID_ID"]) = placed
  have noGrid : placed.get "GRID_ID" = none := by
    rw [← placed_eq, placeNodes]
    simp [gridRow, gridColumn, gridChart]
  have noRoot : placed.nodeAt "ROOT_ID" = none := by
    rw [← placed_eq, placeNodes]
    simp only [nodeAt_set, if_neg rootRow, if_neg rootColumn, if_neg rootChart]
    rfl
  have hung : ∀ k, nodeAt (hangRow Dict.empty placed "GRID_ID" ids.row [chartKey chartId, ids.column, ids.row]) k =
      if k = "GRID_ID" then some ⟨.grid, "GRID_ID", some [ids.row], none, NodeMeta.none⟩ else placed.nodeAt k := by
    intro k
    have empty : nodeAt Dict.empty "GRID_ID" = none := rfl
    unfold hangRow
    simp only [empty, noGrid, Option.isSome_none, Bool.false_eq_true, if_false]
    rw [nodeAt_modifyNode, nodeAt_set]
    split_ifs <;> rfl
  have grid : ((hangRow Dict.empty placed "GRID_ID" ids.row [chartKey chartId, ids.column, ids.row]).get "GRID_ID").isSome := by
    apply isSome_get_of_nodeAt
    rw [hung, if_pos rfl]
    rfl
  have root : nodeAt (hangRow Dict.empty placed "GRID_ID" ids.row [chartKey chartId, ids.column, ids.row]) "ROOT_ID" = none := by
    rw [hung, if_neg (by decide), noRoot]
  rw [nodeAt_wireRoot_of_none grid root, hung]

/-- Adding a chart to an empty layout grafts its components below a new GRID. -/
theorem added_of_empty (ids : FreshIds) (chartId : Nat) (sliceName : String) :
    Added bare (addChart Dict.empty ids chartId sliceName) ids chartId ["ROOT_ID"] "GRID_ID" := by
  have rowColumn := row_ne_column ids
  have rowChart := row_ne_chartKey ids chartId
  have columnChart := column_ne_chartKey ids chartId
  obtain ⟨rootRow, rootColumn, rootChart⟩ := fresh_ne_known ids chartId (.inl rfl)
  obtain ⟨gridRow, gridColumn, gridChart⟩ := fresh_ne_known ids chartId (.inr rfl)
  have wired := nodeAt_addChart_empty ids chartId sliceName
  generalize placed_eq : placeNodes Dict.empty ids chartId sliceName (["ROOT_ID"] ++ ["GRID_ID"]) = placed at wired
  generalize addChart Dict.empty ids chartId sliceName = result at wired
  have frames : ∀ k, k ≠ "ROOT_ID" → k ≠ "GRID_ID" → result.frame k = placed.frame k := by
    intro k root grid
    unfold Layout.frame
    rw [wired, if_neg root, if_neg grid]
  have lists : ∀ k, k ≠ "ROOT_ID" → k ≠ "GRID_ID" → result.children k = placed.children k := by
    intro k root grid
    unfold Layout.children
    rw [wired, if_neg root, if_neg grid]
  refine ⟨?_, ?_, ?_, ?_, ?_⟩
  · funext k
    rw [grafts_apply, children_bare]
    by_cases isRoot : k = "ROOT_ID"
    · subst isRoot
      unfold Layout.children
      rw [wired, if_pos rfl]
      simp [graft, single, rootRow, rootColumn, rootChart, Node.childIds]
    · by_cases isGrid : k = "GRID_ID"
      · subst isGrid
        unfold Layout.children
        rw [wired, if_neg isRoot, if_pos rfl]
        simp [graft, gridRow, gridColumn, gridChart, Node.childIds]
      · rw [lists k isRoot isGrid, ← placed_eq, children_placeNodes]
        simp [graft, single, isRoot, isGrid]
        rfl
  · intro k row column chart
    by_cases isRoot : k = "ROOT_ID"
    · subst isRoot
      unfold Layout.frame
      rw [wired, if_pos rfl]
      rfl
    · by_cases isGrid : k = "GRID_ID"
      · subst isGrid
        unfold Layout.frame
        rw [wired, if_neg isRoot, if_pos rfl]
        rfl
      · rw [frames k isRoot isGrid, ← placed_eq, frame_placeNodes, if_neg row, if_neg column, if_neg chart]
        unfold Layout.frame bare
        rw [nodeAt_set, nodeAt_set, if_neg isRoot, if_neg isGrid]
  · rw [frames _ rootRow.symm gridRow.symm, ← placed_eq, frame_placeNodes, if_pos rfl]
  · rw [frames _ rootColumn.symm gridColumn.symm, ← placed_eq, frame_placeNodes, if_neg rowColumn.symm, if_pos rfl]
  · rw [frames _ rootChart.symm gridChart.symm, ← placed_eq, frame_placeNodes, if_neg rowChart.symm,
      if_neg columnChart.symm, if_pos rfl]

/-! ## The tree after the chart is added -/

namespace Added

/-- Where everything stands afterwards. -/
theorem paths (added : Added l l' ids chartId p parentId) (formed : l.WellFormed) (fresh : l.Fresh ids chartId)
    (path : Path l.children "ROOT_ID" p parentId) :
    IsTree l'.children "ROOT_ID" ∧
    (∀ q, Path l'.children "ROOT_ID" q ids.row ↔ q = p ++ [parentId]) ∧
    (∀ q, Path l'.children "ROOT_ID" q ids.column ↔ q = p ++ [parentId] ++ [ids.row]) ∧
    (∀ q, Path l'.children "ROOT_ID" q (chartKey chartId) ↔ q = p ++ [parentId] ++ [ids.row] ++ [ids.column]) ∧
    ∀ q k, k ≠ ids.row → k ≠ ids.column → k ≠ chartKey chartId →
      (Path l'.children "ROOT_ID" q k ↔ Path l.children "ROOT_ID" q k) := by
  have rowColumn := row_ne_column ids
  have rowChart := row_ne_chartKey ids chartId
  have columnChart := column_ne_chartKey ids chartId
  have freeRow := children_of_get_none fresh.row
  have freeColumn : graft l.children parentId ids.row ids.column = none :=
    ChildTree.graft_eq_none rowColumn.symm (children_of_get_none fresh.column)
  have freeChart : graft (graft l.children parentId ids.row) ids.row ids.column (chartKey chartId) = none :=
    ChildTree.graft_eq_none columnChart.symm (ChildTree.graft_eq_none rowChart.symm (children_of_get_none fresh.chart))
  have tree := formed.tree
  have treeRow := tree.graft freeRow path.there
  have below : Path (graft l.children parentId ids.row) "ROOT_ID" (p ++ [parentId]) ids.row :=
    (tree.path_leaf_iff freeRow path).mpr rfl
  have treeColumn := treeRow.graft freeColumn below.there
  have belowRow := (treeRow.path_leaf_iff freeColumn below (p := p ++ [parentId] ++ [ids.row])).mpr rfl
  have treeChart := treeColumn.graft freeChart belowRow.there
  rw [added.children]
  refine ⟨treeChart, ?_, ?_, ?_, ?_⟩
  · intro q
    rw [treeColumn.path_graft_old freeChart belowRow.there rowChart, treeRow.path_graft_old freeColumn below.there rowColumn,
      tree.path_leaf_iff freeRow path]
  · intro q
    rw [treeColumn.path_graft_old freeChart belowRow.there columnChart, treeRow.path_leaf_iff freeColumn below]
  · intro q
    exact treeColumn.path_leaf_iff freeChart belowRow
  · intro q k row column chart
    rw [treeColumn.path_graft_old freeChart belowRow.there chart, treeRow.path_graft_old freeColumn below.there column,
      tree.path_graft_old freeRow path.there row]

/-- What was there keeps its children, as the first of those it has. -/
theorem children_kept (added : Added l l' ids chartId p parentId) (fresh : l.Fresh ids chartId) {k : String}
    {cs : List String} (lists : l.children k = some cs) : ∃ ds, l'.children k = some ds ∧ cs <+: ds := by
  obtain ⟨row, column, chart⟩ := fresh.ne (isSome_get_of_children lists)
  rw [added.children, grafts_apply, if_neg row, if_neg column, if_neg chart, lists]
  split_ifs
  · exact ⟨_, rfl, List.prefix_append cs [ids.row]⟩
  · exact ⟨cs, rfl, List.prefix_rfl⟩

theorem isType_kept (added : Added l l' ids chartId p parentId) (fresh : l.Fresh ids chartId) {t : NodeType} {k : String}
    (type : l.isType t k) : l'.isType t k := by
  obtain ⟨row, column, chart⟩ := fresh.ne (isSome_get_of_isType type)
  rw [isType_iff] at type ⊢
  rw [added.kept k row column chart]
  exact type

theorem laid (added : Added l l' ids chartId p parentId) (fresh : l.Fresh ids chartId) (laid : l.Laid) : l'.Laid := by
  obtain ⟨cs, lists, top⟩ := laid
  obtain ⟨ds, lists', front⟩ := added.children_kept fresh lists
  refine ⟨ds, lists', top.imp (fun flat => front.subset flat) (fun ⟨c, within, tabs⟩ => ?_)⟩
  exact ⟨c, front.subset within, added.isType_kept fresh tabs⟩

theorem wellFormed (added : Added l l' ids chartId p parentId) (formed : l.WellFormed) (fresh : l.Fresh ids chartId)
    (path : Path l.children "ROOT_ID" p parentId) : l'.WellFormed := by
  obtain ⟨tree, row, column, chart, old⟩ := added.paths formed fresh path
  refine ⟨tree, ?_, ?_, ?_⟩
  · obtain ⟨n, there⟩ := Option.isSome_iff_exists.mp formed.grid
    have lists : l.children "GRID_ID" = some n.childIds := by simp [Layout.children, there]
    obtain ⟨ds, lists', -⟩ := added.children_kept fresh lists
    rw [← isSome_children, lists']
    rfl
  · intro k ds tabs lists'
    -- the three new components are no TABS
    have isOld : k ≠ ids.row ∧ k ≠ ids.column ∧ k ≠ chartKey chartId := by
      obtain ⟨parents, frame⟩ := isType_iff.mp tabs
      refine ⟨?_, ?_, ?_⟩
      · rintro rfl
        simp [added.row] at frame
      · rintro rfl
        simp [added.column] at frame
      · rintro rfl
        simp [added.chart] at frame
    have before : l.isType .tabs k := by
      rw [isType_iff] at tabs ⊢
      rw [← added.kept k isOld.1 isOld.2.1 isOld.2.2]
      exact tabs
    obtain ⟨cs, lists⟩ : ∃ cs, l.children k = some cs := by
      obtain ⟨parents, frame⟩ := isType_iff.mp before
      obtain ⟨n, there, -⟩ := Option.map_eq_some_iff.mp frame
      exact ⟨n.childIds, by simp [Layout.children, there]⟩
    obtain ⟨c, within, tab⟩ := formed.tabs k cs before lists
    obtain ⟨es, lists'', front⟩ := added.children_kept fresh lists
    obtain rfl : es = ds := Option.some.inj (lists''.symm.trans lists')
    exact ⟨c, front.subset within, added.isType_kept fresh tab⟩
  · intro q k t parents walk frame
    by_cases isRow : k = ids.row
    · subst isRow
      rw [added.row] at frame
      cases frame
      exact .inl ((row q).mp walk).symm
    · by_cases isColumn : k = ids.column
      · subst isColumn
        rw [added.column] at frame
        cases frame
        exact .inl ((column q).mp walk).symm
      · by_cases isChart : k = chartKey chartId
        · subst isChart
          rw [added.chart] at frame
          cases frame
          exact .inl ((chart q).mp walk).symm
        · rw [added.kept k isRow isColumn isChart] at frame
          exact formed.parents q k t parents ((old q k isRow isColumn isChart).mp walk) frame

end Added

theorem fresh_bare (ids : FreshIds) (chartId : Nat) : bare.Fresh ids chartId := by
  obtain ⟨rootRow, rootColumn, rootChart⟩ := fresh_ne_known ids chartId (.inl rfl)
  obtain ⟨gridRow, gridColumn, gridChart⟩ := fresh_ne_known ids chartId (.inr rfl)
  refine ⟨?_, ?_, ?_⟩
  · simp [bare, rootRow.symm, gridRow.symm]
  · simp [bare, rootColumn.symm, gridColumn.symm]
  · simp [bare, rootChart.symm, gridChart.symm]

end

/-- The chart stands in a column, the column in a row and the row below one of the components. -/
def HangsIn (l : Layout) (ids : FreshIds) (chartId : Nat) : Prop :=
  ∃ p, l.Stands ids.row .row p ∧ l.Stands ids.column .column (p ++ [ids.row]) ∧
    l.Stands (chartKey chartId) .chart (p ++ [ids.row] ++ [ids.column])

/-- What is in the tree of `l` stands in that of `l'` where it stood, with its children first. -/
def KeptIn (l l' : Layout) : Prop :=
  ∀ p k cs, Path l.children "ROOT_ID" p k → l.children k = some cs →
    Path l'.children "ROOT_ID" p k ∧ ∃ ds, l'.children k = some ds ∧ cs <+: ds

theorem Added.hangs {l l' : Layout} {ids : FreshIds} {chartId : Nat} {p : List String} {parentId : String}
    (added : Added l l' ids chartId p parentId) (formed : l.WellFormed) (fresh : l.Fresh ids chartId)
    (path : Path l.children "ROOT_ID" p parentId) : l'.HangsIn ids chartId ∧ KeptIn l l' := by
  obtain ⟨-, row, column, chart, old⟩ := added.paths formed fresh path
  refine ⟨⟨p ++ [parentId], ⟨row, added.row⟩, ⟨column, added.column⟩, ⟨chart, added.chart⟩⟩, ?_⟩
  intro q k cs walk lists
  obtain ⟨isRow, isColumn, isChart⟩ := fresh.ne (isSome_get_of_children lists)
  exact ⟨(old q k isRow isColumn isChart).mpr walk, added.children_kept fresh lists⟩

/-- Adding a chart to an empty or a well-formed layout makes a well-formed one, with the chart at
one place, as the parents tell, and with all that was there before. -/
theorem addChart_keepsTree {l : Layout} {ids : FreshIds} {chartId : Nat}
    (formed : l = Dict.empty ∨ (l.WellFormed ∧ l.Laid)) (fresh : l.Fresh ids chartId) (sliceName : String) :
    (l.addChart ids chartId sliceName).WellFormed ∧ (l.addChart ids chartId sliceName).Laid ∧
      (l.addChart ids chartId sliceName).HangsIn ids chartId ∧ KeptIn l (l.addChart ids chartId sliceName) := by
  rcases formed with rfl | ⟨formed, laid⟩
  · have added := added_of_empty ids chartId sliceName
    have free := fresh_bare ids chartId
    have hangs := added.hangs wellFormed_bare free path_bare
    refine ⟨added.wellFormed wellFormed_bare free path_bare, added.laid free laid_bare, hangs.1, ?_⟩
    intro p k cs walk lists
    cases lists
  · obtain ⟨p, path⟩ := exists_path_holder formed laid
    have added := added_of_laid formed laid fresh path sliceName
    have hangs := added.hangs formed fresh path
    exact ⟨added.wellFormed formed fresh path, added.laid fresh laid, hangs⟩

/-- A chart on a flat layout. -/
theorem addChart_keepsTree_flat :
    (addChart bare ⟨"0a1b2c3d", "4e5f6a7b"⟩ 7 "Sales").WellFormed ∧ (addChart bare ⟨"0a1b2c3d", "4e5f6a7b"⟩ 7 "Sales").Laid ∧
      (addChart bare ⟨"0a1b2c3d", "4e5f6a7b"⟩ 7 "Sales").HangsIn ⟨"0a1b2c3d", "4e5f6a7b"⟩ 7 ∧
      KeptIn bare (addChart bare ⟨"0a1b2c3d", "4e5f6a7b"⟩ 7 "Sales") :=
  addChart_keepsTree (.inr ⟨wellFormed_bare, laid_bare⟩) (fresh_bare _ 7) "Sales"

end XpBuilder.Layout
