import XpBuilder.Publish.Layout

/-! Where a chart stands in a position tree: the nodes whose record names it, its
key and the child lists that refer to the key. Adding a chart places exactly one
node; removing one only ever takes nodes away, and only the node under the key
for sure. -/

namespace XpBuilder

@[simp] theorem Entry.node?_mapNode (f : Node → Node) (e : Entry) :
    (e.mapNode f).node? = e.node?.map f := by cases e <;> rfl

namespace Layout

/-- The chart that the node under `key` shows. -/
def chartAt (l : Layout) (key : String) : Option Nat :=
  (l.nodeAt key).bind (fun n => n.info.chartId)

/-- The keys of the nodes that show the chart. -/
def keysOf (l : Layout) (chartId : Nat) : List String :=
  (l.entries.map Prod.fst).filter (fun key => l.chartAt key = some chartId)

/-- The children of the node under `key`. -/
def childrenAt (l : Layout) (key : String) : List String :=
  ((l.nodeAt key).map Node.childIds).getD []

theorem mem_keys_of_chartAt {l : Layout} {key : String} {chartId : Nat}
    (h : l.chartAt key = some chartId) : key ∈ l.entries.map Prod.fst := by
  by_contra absent
  have none : l.get key = none := (l.get_eq_none_iff key).mpr absent
  simp [chartAt, nodeAt, none] at h

theorem keysOf_eq_singleton {l : Layout} {key : String} {chartId : Nat}
    (h : ∀ k, l.chartAt k = some chartId ↔ k = key) : l.keysOf chartId = [key] := by
  have shape : l.keysOf chartId = (l.entries.map Prod.fst).filter (fun k => k = key) := by
    apply List.filter_congr
    intro k _
    simp only [h k]
  have one : (l.entries.map Prod.fst).count key = 1 :=
    List.count_eq_one_of_mem l.distinct (mem_keys_of_chartAt ((h key).mpr rfl))
  rw [shape, List.filter_eq, one]
  rfl

theorem keysOf_eq_nil_iff {l : Layout} {chartId : Nat} :
    l.keysOf chartId = [] ↔ ∀ k, l.chartAt k ≠ some chartId := by
  unfold keysOf
  rw [List.filter_eq_nil_iff]
  constructor
  · intro h k hk
    exact h k (mem_keys_of_chartAt hk) (by simpa using hk)
  · intro h k _
    simpa using h k

/-! ## The elementary edits -/

theorem nodeAt_set (l : Layout) (key k : String) (e : Entry) :
    nodeAt (l.set key e) k = if k = key then e.node? else l.nodeAt k := by
  unfold nodeAt
  rw [Dict.get_set]
  split <;> rfl

theorem nodeAt_erase (l : Layout) (key k : String) :
    nodeAt (l.erase key) k = if k = key then none else l.nodeAt k := by
  unfold nodeAt
  rw [Dict.get_erase]
  split <;> rfl

theorem nodeAt_modifyNode (l : Layout) (key k : String) (f : Node → Node) :
    nodeAt (l.modifyNode key f) k = if k = key then (l.nodeAt k).map f else l.nodeAt k := by
  unfold nodeAt modifyNode
  rw [Dict.get_modify]
  split
  · cases l.get k <;> simp
  · rfl

theorem chartAt_set (l : Layout) (key k : String) (n : Node) :
    chartAt (l.set key (.node n)) k = if k = key then n.info.chartId else l.chartAt k := by
  unfold chartAt
  rw [nodeAt_set]
  split <;> rfl

theorem chartAt_erase (l : Layout) (key k : String) :
    chartAt (l.erase key) k = if k = key then none else l.chartAt k := by
  unfold chartAt
  rw [nodeAt_erase]
  split <;> rfl

/-- Edits of the child lists leave the records alone. -/
theorem chartAt_modifyNode (l : Layout) (key : String) {f : Node → Node}
    (h : ∀ n, (f n).info = n.info) (k : String) :
    chartAt (l.modifyNode key f) k = l.chartAt k := by
  unfold chartAt
  rw [nodeAt_modifyNode]
  split
  · cases l.nodeAt k with
    | none => rfl
    | some n => simp [h]
  · rfl

theorem chartAt_of_get_none {l : Layout} {key : String} (h : l.get key = none) :
    l.chartAt key = none := by simp [chartAt, nodeAt, h]

theorem chartAt_of_nodeAt_none {l : Layout} {key : String} (h : l.nodeAt key = none) :
    l.chartAt key = none := by simp [chartAt, h]

/-- A new component without a chart where none stood. -/
theorem chartAt_set_plain {l : Layout} {key : String} {n : Node} (free : l.chartAt key = none)
    (plain : n.info.chartId = none) (k : String) :
    chartAt (l.set key (.node n)) k = l.chartAt k := by
  rw [chartAt_set]
  split
  · next same => rw [plain, same, free]
  · rfl

/-! ## Adding a chart -/

theorem row_ne_chartKey (ids : FreshIds) (chartId : Nat) : ids.row ≠ chartKey chartId := by
  intro same
  have chars := congrArg String.toList same
  simp [FreshIds.row, chartKey] at chars

theorem column_ne_chartKey (ids : FreshIds) (chartId : Nat) : ids.column ≠ chartKey chartId := by
  intro same
  have chars := congrArg String.toList same
  simp [FreshIds.column, chartKey] at chars

theorem chartAt_placeNodes (l : Layout) (ids : FreshIds) (chartId : Nat) (sliceName : String)
    (rowParents : List String) (k : String) :
    chartAt (placeNodes l ids chartId sliceName rowParents) k =
      if k = ids.row ∨ k = ids.column then none
      else if k = chartKey chartId then some chartId else l.chartAt k := by
  unfold placeNodes
  simp only [chartAt_set]
  by_cases row : k = ids.row
  · simp [row]
  · by_cases column : k = ids.column <;> simp [row, column]

@[simp] theorem addChild_info (n : Node) (key : String) : (n.addChild key).info = n.info := rfl

@[simp] theorem removeChild_info (n : Node) (key : String) : (n.removeChild key).info = n.info := rfl

theorem chartAt_withGrid (l : Layout) (parents : Option (List String)) (k : String) :
    chartAt (if (l.get "GRID_ID").isSome then l else
      l.set "GRID_ID" (.node ⟨.grid, "GRID_ID", some [], parents, NodeMeta.none⟩)) k =
      l.chartAt k := by
  split
  · rfl
  · next absent =>
    have none : l.get "GRID_ID" = none := by simpa using absent
    exact chartAt_set_plain (chartAt_of_get_none none) rfl k

theorem chartAt_hangRow (before l : Layout) (parentId rowKey : String) (written : List String)
    (k : String) : chartAt (hangRow before l parentId rowKey written) k = l.chartAt k := by
  unfold hangRow
  cases before.nodeAt parentId with
  | some n =>
    simp only
    split
    · rfl
    · exact chartAt_modifyNode _ _ (fun n => addChild_info n rowKey) k
  | none =>
    simp only
    rw [chartAt_modifyNode _ _ (fun n => addChild_info n rowKey), chartAt_withGrid]

theorem chartAt_versioned (l : Layout) (k : String) :
    chartAt (if (l.get "DASHBOARD_VERSION_KEY").isSome then l
      else l.set "DASHBOARD_VERSION_KEY" (.scalar "v2")) k = l.chartAt k := by
  split
  · rfl
  · next absent =>
    have none : l.get "DASHBOARD_VERSION_KEY" = none := by simpa using absent
    unfold chartAt
    rw [nodeAt_set]
    split
    · next same => simp [same, nodeAt, none, Entry.node?]
    · rfl

theorem chartAt_wireRoot (l : Layout) (k : String) : chartAt (wireRoot l) k = l.chartAt k := by
  have grid := chartAt_withGrid l (some ["ROOT_ID"]) k
  unfold wireRoot
  simp only
  rw [chartAt_versioned, ← grid]
  generalize (if (l.get "GRID_ID").isSome then l else
    l.set "GRID_ID" (.node ⟨.grid, "GRID_ID", some [], some ["ROOT_ID"], NodeMeta.none⟩)) = withGrid
  cases root : withGrid.nodeAt "ROOT_ID" with
  | none => exact chartAt_set_plain (chartAt_of_nodeAt_none root) rfl k
  | some n =>
    simp only
    split
    · apply chartAt_modifyNode
      intro n
      rfl
    · exact chartAt_modifyNode _ _ (fun n => addChild_info n "GRID_ID") k

/-- Adding a chart places one node for it, under its key, and no other. -/
theorem chartAt_addChart (l : Layout) (ids : FreshIds) (chartId : Nat) (sliceName : String)
    (k : String) :
    chartAt (l.addChart ids chartId sliceName) k =
      if k = ids.row ∨ k = ids.column then none
      else if k = chartKey chartId then some chartId else l.chartAt k := by
  unfold addChart
  rw [chartAt_wireRoot, chartAt_hangRow, chartAt_placeNodes]

theorem chartAt_addChart_self (l : Layout) (ids : FreshIds) (chartId : Nat) (sliceName : String) :
    chartAt (l.addChart ids chartId sliceName) (chartKey chartId) = some chartId := by
  have row := (row_ne_chartKey ids chartId).symm
  have column := (column_ne_chartKey ids chartId).symm
  simp [chartAt_addChart, row, column]

theorem isSome_get_of_chartAt {l : Layout} {key : String} {chartId : Nat}
    (h : l.chartAt key = some chartId) : (l.get key).isSome := by
  by_contra absent
  have none : l.get key = none := by simpa using absent
  rw [chartAt_of_get_none none] at h
  exact absurd h (by simp)

/-! ## Removing a chart -/

theorem firstHolder_eq_some {l : Layout} {t : NodeType} {child key : String} {n : Node}
    (h : l.firstHolder t child = some (key, n)) :
    l.nodeAt key = some n ∧ n.type = t ∧ child ∈ n.childIds := by
  unfold firstHolder at h
  obtain ⟨e, mem, found⟩ := List.exists_of_findSome?_eq_some h
  cases entry : e.2 with
  | scalar text => simp [entry] at found
  | node n' =>
    simp only [entry] at found
    split_ifs at found with holds
    obtain ⟨rfl, rfl⟩ : e.1 = key ∧ n' = n := by simpa using found
    have get : l.get e.1 = some (.node n') := by
      rw [Dict.get_eq_some_iff, ← entry]
      exact mem
    exact ⟨by simp [nodeAt, get, Entry.node?], holds⟩

theorem firstHolder_eq_none {l : Layout} {t : NodeType} {child : String}
    (h : l.firstHolder t child = none) {key : String} {n : Node} (hn : l.nodeAt key = some n)
    (type : n.type = t) : child ∉ n.childIds := by
  intro holds
  unfold firstHolder at h
  rw [List.findSome?_eq_none_iff] at h
  obtain ⟨e, get, node⟩ := Option.bind_eq_some_iff.mp hn
  have none := h (key, e) ((l.get_eq_some_iff key e).mp get)
  cases e with
  | scalar text => simp [Entry.node?] at node
  | node n' =>
    obtain rfl : n' = n := by simpa [Entry.node?] using node
    simp [type, holds] at none

theorem nodeAt_unhangRow (l : Layout) (rowKey k : String) :
    nodeAt (l.unhangRow rowKey) k = (l.nodeAt k).map (fun n =>
      if (n.type = .grid ∨ n.type = .tab) ∧ rowKey ∈ n.childIds then n.removeChild rowKey else n) := by
  unfold unhangRow nodeAt
  rw [Dict.get_mapValues]
  cases l.get k <;> simp

/-- The same component, but perhaps for some children. -/
def Node.Below (n' n : Node) : Prop :=
  n'.type = n.type ∧ n'.info = n.info ∧ n'.childIds.Sublist n.childIds

/-- Components may be missing and may have lost children, nothing else. -/
def Shrunk (l' l : Layout) : Prop :=
  ∀ k n', l'.nodeAt k = some n' → ∃ n, l.nodeAt k = some n ∧ Node.Below n' n

theorem Node.Below.refl (n : Node) : Node.Below n n := ⟨rfl, rfl, List.Sublist.refl _⟩

theorem removeChild_childIds (n : Node) (key : String) :
    (n.removeChild key).childIds = n.childIds.erase key := by
  unfold Node.childIds Node.removeChild
  cases n.children <;> simp

theorem removeChild_below (n : Node) (key : String) : Node.Below (n.removeChild key) n :=
  ⟨rfl, rfl, by rw [removeChild_childIds]; exact List.erase_sublist⟩

theorem Shrunk.refl (l : Layout) : Shrunk l l := fun _ n h => ⟨n, h, .refl n⟩

theorem Shrunk.trans {l l' l'' : Layout} (h : Shrunk l'' l') (h' : Shrunk l' l) : Shrunk l'' l := by
  intro k n'' hn''
  obtain ⟨n', hn', type', info', children'⟩ := h k n'' hn''
  obtain ⟨n, hn, type, info, children⟩ := h' k n' hn'
  exact ⟨n, hn, type'.trans type, info'.trans info, children'.trans children⟩

theorem shrunk_erase (l : Layout) (key : String) : Shrunk (l.erase key) l := by
  intro k n hn
  rw [nodeAt_erase] at hn
  split_ifs at hn
  exact ⟨n, hn, .refl n⟩

theorem shrunk_modifyNode (l : Layout) (key child : String) :
    Shrunk (l.modifyNode key (fun n => n.removeChild child)) l := by
  intro k n' hn'
  rw [nodeAt_modifyNode] at hn'
  split_ifs at hn'
  · obtain ⟨n, hn, rfl⟩ := Option.map_eq_some_iff.mp hn'
    exact ⟨n, hn, removeChild_below n child⟩
  · exact ⟨n', hn', .refl n'⟩

theorem shrunk_unhangRow (l : Layout) (rowKey : String) : Shrunk (l.unhangRow rowKey) l := by
  intro k n' hn'
  rw [nodeAt_unhangRow] at hn'
  obtain ⟨n, hn, rfl⟩ := Option.map_eq_some_iff.mp hn'
  refine ⟨n, hn, ?_⟩
  split
  · exact removeChild_below n rowKey
  · exact .refl n

theorem shrunk_dropColumn (l : Layout) (colKey : String) : Shrunk (l.dropColumn colKey) l := by
  unfold dropColumn
  split
  · exact .refl l
  · split
    · exact (shrunk_unhangRow _ _).trans (shrunk_erase l _)
    · exact shrunk_modifyNode l _ _

theorem shrunk_removeKey (l : Layout) (key : String) : Shrunk (l.removeKey key) (l.erase key) := by
  unfold removeKey
  split
  · next absent =>
    intro k n hn
    have other : k ≠ key := by
      intro same
      rw [same] at hn
      have none : l.get key = none := by simpa using absent
      simp [nodeAt, none] at hn
    exact ⟨n, by rwa [nodeAt_erase, if_neg other], .refl n⟩
  · simp only
    split
    · exact .refl _
    · split
      · exact (shrunk_dropColumn _ _).trans (shrunk_erase _ _)
      · exact shrunk_modifyNode _ _ _

theorem get_modifyNode_none {l : Layout} {k : String} (h : l.get k = none) (key : String)
    (f : Node → Node) : (l.modifyNode key f).get k = none := by
  unfold modifyNode
  rw [Dict.get_modify, h]
  simp

theorem get_erase_none {l : Layout} {k : String} (h : l.get k = none) (key : String) :
    Dict.get (l.erase key) k = none := by
  rw [Dict.get_erase, h]
  simp

theorem get_dropColumn_none {l : Layout} {k : String} (h : l.get k = none) (colKey : String) :
    (l.dropColumn colKey).get k = none := by
  unfold dropColumn
  split
  · exact h
  · split
    · unfold unhangRow
      rw [Dict.get_mapValues, get_erase_none h]
      rfl
    · exact get_modifyNode_none h _ _

theorem removeKey_of_none {l : Layout} {key : String} (h : l.get key = none) :
    l.removeKey key = l := by
  rw [removeKey, h]
  rfl

@[simp] theorem get_removeKey_self (l : Layout) (key : String) :
    (l.removeKey key).get key = none := by
  have popped : Dict.get (l.erase key) key = none := Dict.get_erase_self l key
  unfold removeKey
  split
  · next absent => simpa using absent
  · simp only
    split
    · exact popped
    · split
      · exact get_dropColumn_none (get_erase_none popped _) _
      · exact get_modifyNode_none popped _ _

theorem Shrunk.chartAt {l l' : Layout} (h : Shrunk l' l) {k : String} {chartId : Nat}
    (shown : l'.chartAt k = some chartId) : l.chartAt k = some chartId := by
  obtain ⟨n', hn', id⟩ := Option.bind_eq_some_iff.mp shown
  obtain ⟨n, hn, -, info, -⟩ := h k n' hn'
  unfold Layout.chartAt
  rw [hn, Option.bind_some, ← info, id]

/-- After the removal the chart is shown only by nodes under other keys. -/
theorem chartAt_removeKey {l : Layout} {key k : String} {chartId : Nat}
    (h : (l.removeKey key).chartAt k = some chartId) : l.chartAt k = some chartId ∧ k ≠ key := by
  have popped := (shrunk_removeKey l key).chartAt h
  rw [chartAt_erase] at popped
  split_ifs at popped with other
  exact ⟨popped, other⟩

end Layout
end XpBuilder
