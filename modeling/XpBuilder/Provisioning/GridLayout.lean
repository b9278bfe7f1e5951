import Mathlib.Data.List.Range
import XpBuilder.Library.ChildTree
import XpBuilder.Library.Dict

/-! The position tree that a provisioning script writes for a dashboard: a dictionary from
component id to component. The charts are put in first, below the grid, and hung into their
rows when the rows are written. -/

namespace XpBuilder.GridLayout

/-! ## The document -/

inductive ComponentType where
  | header | root | grid | row | chart | markdown
  deriving DecidableEq, Repr

/-- The `meta` of a component. -/
inductive Meta where
  | none
  | header (text : String)
  | markdown (code : String) (height width : Nat)
  | chart (chartId height : Nat) (sliceName : String) (width : Nat)
  | row (background : String)
  deriving DecidableEq, Repr

/-- A missing `children` or `parents` key is `none`. -/
structure Component where
  type : ComponentType
  id : String
  children : Option (List String)
  parents : Option (List String)
  info : Meta
  deriving DecidableEq, Repr

inductive Item where
  | version (text : String)
  | component (c : Component)
  deriving DecidableEq, Repr

abbrev Layout := Dict String Item

def Item.component? : Item → Option Component
  | .version _ => none
  | .component c => some c

def Item.map (f : Component → Component) : Item → Item
  | .version text => .version text
  | .component c => .component (f c)

def Layout.componentAt (l : Layout) (key : String) : Option Component := (l.get key).bind Item.component?

/-- The child lists of the components. -/
def Layout.children (l : Layout) : ChildTree.Children String :=
  fun key => (l.componentAt key).map (fun c => c.children.getD [])

def Layout.childrenAt (l : Layout) (key : String) : List String := (l.children key).getD []

/-- A chart as the API returned it, with its place in the grid. -/
structure Chart where
  id : Nat
  name : String
  vizType : String
  width : Nat
  deriving DecidableEq, Repr

def chartKey (id : Nat) : String := "CHART-" ++ toString id

/-- `f"ROW-{row_number:02d}"` -/
def rowKey (rowNumber : Nat) : String := "ROW-" ++ ((if rowNumber < 10 then "0" else "") ++ toString rowNumber)

def Chart.key (c : Chart) : String := chartKey c.id

def headerItem (title : String) : Item := .component ⟨.header, "HEADER_ID", none, none, .header title⟩

def rootItem : Item := .component ⟨.root, "ROOT_ID", some ["GRID_ID"], none, .none⟩

def gridItem (rows : List String) : Item := .component ⟨.grid, "GRID_ID", some rows, some ["ROOT_ID"], .none⟩

def rowItem (key : String) (children : List String) : Item :=
  .component ⟨.row, key, some children, some ["ROOT_ID", "GRID_ID"], .row "BACKGROUND_TRANSPARENT"⟩

/-- A chart of a height, before it is hung into a row. -/
def chartItem (c : Chart) (height : Nat) : Item :=
  .component ⟨.chart, c.key, some [], some ["ROOT_ID", "GRID_ID"], .chart c.id height c.name c.width⟩

/-- The charts, each with its height. -/
def addCharts (l : Layout) (charts : List (Chart × Nat)) : Layout :=
  l.setAll (charts.map (fun c => (c.1.key, chartItem c.1 c.2)))

/-! ## The rows -/

def addParent (key : String) : Item → Item := Item.map (fun c => { c with parents := c.parents.map (· ++ [key]) })

def addChildren (keys : List String) : Item → Item :=
  Item.map (fun c => { c with children := c.children.map (· ++ keys) })

def hangCharts (key : String) (row : List Nat) (l : Layout) : Layout :=
  row.foldl (fun l id => l.modify (chartKey id) (addParent key)) l

/-- A row is written, its charts are told and the grid gets it. -/
def addRow (l : Layout) (row : List Nat) (rowNumber : Nat) : Layout :=
  let key := rowKey rowNumber
  let placed : Layout := l.set key (rowItem key (row.map chartKey))
  (hangCharts key row placed).modify "GRID_ID" (addChildren [key])

def addRows (l : Layout) (rows : List (List Nat)) (rowNumber : Nat) : Layout :=
  (rows.zipIdx rowNumber).foldl (fun l row => addRow l row.1 row.2) l

/-- The charts with their heights, then their rows. -/
def fill (l : Layout) (charts : List (Chart × Nat)) (rows : List (List Nat)) : Layout :=
  addRows (addCharts l charts) rows 0

/-! ## Keys -/

theorem toString_injective : Function.Injective (fun n : Nat => toString n) := by
  intro m n same
  have digits : Nat.toDigits 10 m = Nat.toDigits 10 n := by
    simpa using congrArg String.toList same
  rw [← Nat.ofDigitChars_ten_toDigits (n := m), digits, Nat.ofDigitChars_ten_toDigits]

theorem chartKey_injective : Function.Injective chartKey := fun _ _ same =>
  toString_injective (String.append_right_inj _ |>.mp same)

/-- The value of the digits tells the row, with the zero before them or without. -/
theorem rowKey_injective : Function.Injective rowKey := by
  have value : ∀ n : Nat, Nat.ofDigitChars 10 (((if n < 10 then "0" else "") ++ toString n : String)).toList 0 = n := by
    intro n
    have digits : (toString n).toList = Nat.toDigits 10 n := by simp
    split_ifs
    · rw [String.toList_append, Nat.ofDigitChars_append, digits]
      exact Nat.ofDigitChars_ten_toDigits
    · rw [String.empty_append, digits]
      exact Nat.ofDigitChars_ten_toDigits
  intro m n same
  rw [← value m, String.append_right_inj _ |>.mp same, value]

/-- The fourth letter tells a row from what has another one there. -/
theorem rowKey_ne {key : String} (other : key.toList[3]? ≠ some '-') (rowNumber : Nat) : rowKey rowNumber ≠ key := by
  rintro rfl
  simp [rowKey] at other

theorem chartKey_ne {key : String} (other : key.toList[5]? ≠ some '-') (id : Nat) : chartKey id ≠ key := by
  rintro rfl
  simp [chartKey] at other

theorem rowKey_ne_chartKey (rowNumber id : Nat) : rowKey rowNumber ≠ chartKey id :=
  rowKey_ne (by simp [chartKey]) rowNumber

theorem rowKey_ne_grid (rowNumber : Nat) : rowKey rowNumber ≠ "GRID_ID" := rowKey_ne (by simp) rowNumber

theorem chartKey_ne_grid (id : Nat) : chartKey id ≠ "GRID_ID" := chartKey_ne (by simp) id

/-! ## What the charts and the rows change -/

theorem get_addCharts_other {charts : List (Chart × Nat)} {k : String} (other : k ∉ charts.map (fun c => c.1.key))
    (l : Layout) : (addCharts l charts).get k = l.get k := by
  refine Dict.get_setAll_of_not_mem ?_ l
  rw [List.map_map]
  exact other

theorem get_addCharts_chart {charts : List (Chart × Nat)} (distinct : (charts.map (fun c => c.1.id)).Nodup)
    {c : Chart × Nat} (mem : c ∈ charts) (l : Layout) :
    (addCharts l charts).get c.1.key = some (chartItem c.1 c.2) := by
  have entry : (c.1.key, chartItem c.1 c.2) ∈ charts.map (fun c => (c.1.key, chartItem c.1 c.2)) :=
    List.mem_map.mpr ⟨c, mem, rfl⟩
  refine Dict.get_setAll_of_mem ?_ entry l
  have keys : (charts.map (fun c => (c.1.key, chartItem c.1 c.2))).map Prod.fst =
      (charts.map (fun c => c.1.id)).map chartKey := by
    rw [List.map_map, List.map_map]
    rfl
  rw [keys]
  exact distinct.map chartKey_injective

theorem get_hangCharts {row : List Nat} (distinct : row.Nodup) (key : String) (l : Layout) (k : String) :
    (hangCharts key row l).get k = if k ∈ row.map chartKey then (l.get k).map (addParent key) else l.get k := by
  unfold hangCharts
  induction row generalizing l with
  | nil => simp
  | cons id rest ih =>
    rw [List.nodup_cons] at distinct
    rw [List.foldl_cons, ih distinct.2, Dict.get_modify]
    by_cases own : k = chartKey id
    · have later : chartKey id ∉ rest.map chartKey := by
        intro mem
        obtain ⟨other, there, same⟩ := List.mem_map.mp mem
        exact distinct.1 (chartKey_injective same ▸ there)
      simp only [own, if_neg later, List.map_cons, List.mem_cons, true_or]
    · simp only [own, List.map_cons, List.mem_cons, false_or]
      rfl

theorem get_addRow {row : List Nat} (distinct : row.Nodup) (l : Layout) (rowNumber : Nat) (k : String) :
    (addRow l row rowNumber).get k =
      if k = "GRID_ID" then (l.get k).map (addChildren [rowKey rowNumber])
      else if k = rowKey rowNumber then some (rowItem k (row.map chartKey))
      else if k ∈ row.map chartKey then (l.get k).map (addParent (rowKey rowNumber))
      else l.get k := by
  have apart : ∀ other, other ∉ row.map chartKey → (hangCharts (rowKey rowNumber) row
      (l.set (rowKey rowNumber) (rowItem (rowKey rowNumber) (row.map chartKey)))).get other =
        if other = rowKey rowNumber then some (rowItem (rowKey rowNumber) (row.map chartKey)) else l.get other := by
    intro other absent
    rw [get_hangCharts distinct, if_neg absent, Dict.get_set]
  unfold addRow
  rw [Dict.get_modify]
  by_cases grid : k = "GRID_ID"
  · have absent : "GRID_ID" ∉ row.map chartKey := by
      intro mem
      obtain ⟨id, -, same⟩ := List.mem_map.mp mem
      exact chartKey_ne_grid id same
    rw [grid, if_pos rfl, if_pos rfl, apart _ absent, if_neg (rowKey_ne_grid rowNumber).symm]
  · rw [if_neg grid, if_neg grid]
    by_cases own : k = rowKey rowNumber
    · have absent : rowKey rowNumber ∉ row.map chartKey := by
        intro mem
        obtain ⟨id, -, same⟩ := List.mem_map.mp mem
        exact rowKey_ne_chartKey rowNumber id same.symm
      rw [own, if_pos rfl, apart _ absent, if_pos rfl]
    · rw [if_neg own, get_hangCharts distinct, Dict.get_set, if_neg own]

section Rows
variable {l : Layout} {rows : List (List Nat)} {rowNumber : Nat}

theorem addRows_cons (l : Layout) (row : List Nat) (rows : List (List Nat)) (rowNumber : Nat) :
    addRows l (row :: rows) rowNumber = addRows (addRow l row rowNumber) rows (rowNumber + 1) := rfl

theorem addChildren_append (before after : List String) (item : Item) :
    addChildren after (addChildren before item) = addChildren (before ++ after) item := by
  cases item with
  | version text => rfl
  | component c => simp [addChildren, Item.map, Function.comp_def]

theorem get_addRows_grid (distinct : rows.flatten.Nodup) : (addRows l rows rowNumber).get "GRID_ID" =
    (l.get "GRID_ID").map (addChildren ((List.range' rowNumber rows.length).map rowKey)) := by
  induction rows generalizing l rowNumber with
  | nil =>
    cases found : l.get "GRID_ID" with
    | none => simpa [addRows] using found
    | some item => cases item <;> simp [addRows, found, addChildren, Item.map]
  | cons row rest ih =>
    rw [List.flatten_cons, List.nodup_append] at distinct
    rw [addRows_cons, ih distinct.2.1, get_addRow distinct.1, if_pos rfl, Option.map_map]
    congr 1
    funext item
    rw [Function.comp_apply, addChildren_append, List.length_cons, List.range'_succ]
    rfl

/-- A component that is no grid, no new row and no chart of the rows stays. -/
theorem get_addRows_other (distinct : rows.flatten.Nodup) {k : String} (grid : k ≠ "GRID_ID")
    (row : ∀ i < rows.length, k ≠ rowKey (rowNumber + i)) (chart : k ∉ rows.flatten.map chartKey) :
    (addRows l rows rowNumber).get k = l.get k := by
  induction rows generalizing l rowNumber with
  | nil => rfl
  | cons first rest ih =>
    rw [List.flatten_cons, List.nodup_append] at distinct
    rw [List.flatten_cons, List.map_append, List.mem_append, not_or] at chart
    have own : k ≠ rowKey rowNumber := row 0 (Nat.succ_pos _)
    have later : ∀ i < rest.length, k ≠ rowKey (rowNumber + 1 + i) := by
      intro i below
      rw [Nat.add_right_comm]
      exact row (i + 1) (Nat.succ_lt_succ below)
    rw [addRows_cons, ih distinct.2.1 later chart.2, get_addRow distinct.1, if_neg grid, if_neg own, if_neg chart.1]

theorem get_addRows_row (l : Layout) (rowNumber : Nat) (distinct : rows.flatten.Nodup) {i : Nat} {row : List Nat}
    (there : rows[i]? = some row) : (addRows l rows rowNumber).get (rowKey (rowNumber + i)) =
      some (rowItem (rowKey (rowNumber + i)) (row.map chartKey)) := by
  induction rows generalizing l rowNumber i with
  | nil => simp at there
  | cons first rest ih =>
    rw [List.flatten_cons, List.nodup_append] at distinct
    rw [addRows_cons]
    cases i with
    | zero =>
      obtain rfl : first = row := by simpa using there
      have charts : rowKey rowNumber ∉ rest.flatten.map chartKey := by
        intro mem
        obtain ⟨id, -, same⟩ := List.mem_map.mp mem
        exact rowKey_ne_chartKey rowNumber id same.symm
      have later : ∀ i < rest.length, rowKey rowNumber ≠ rowKey (rowNumber + 1 + i) := by
        intro i _ same
        have equal := rowKey_injective same
        omega
      have kept : (addRows (addRow l first rowNumber) rest (rowNumber + 1)).get (rowKey rowNumber) = _ :=
        get_addRows_other distinct.2.1 (rowKey_ne_grid rowNumber) later charts
      rw [get_addRow distinct.1, if_neg (rowKey_ne_grid rowNumber), if_pos rfl] at kept
      exact kept
    | succ i =>
      have shift : rowNumber + (i + 1) = rowNumber + 1 + i := by omega
      rw [shift]
      exact ih _ _ distinct.2.1 (by simpa using there)

theorem get_addRows_chart (l : Layout) (rowNumber : Nat) (distinct : rows.flatten.Nodup) {i id : Nat} {row : List Nat}
    (there : rows[i]? = some row) (mem : id ∈ row) : (addRows l rows rowNumber).get (chartKey id) =
      (l.get (chartKey id)).map (addParent (rowKey (rowNumber + i))) := by
  induction rows generalizing l rowNumber i with
  | nil => simp at there
  | cons first rest ih =>
    rw [List.flatten_cons, List.nodup_append] at distinct
    rw [addRows_cons]
    have grid := chartKey_ne_grid id
    have row_apart := (rowKey_ne_chartKey rowNumber id).symm
    cases i with
    | zero =>
      obtain rfl : first = row := by simpa using there
      have own : chartKey id ∈ first.map chartKey := List.mem_map_of_mem mem
      have later : chartKey id ∉ rest.flatten.map chartKey := by
        intro again
        obtain ⟨other, elsewhere, same⟩ := List.mem_map.mp again
        exact distinct.2.2 id mem other elsewhere (chartKey_injective same).symm
      have kept : (addRows (addRow l first rowNumber) rest (rowNumber + 1)).get (chartKey id) = _ :=
        get_addRows_other distinct.2.1 grid (fun i _ => (rowKey_ne_chartKey _ id).symm) later
      rw [get_addRow distinct.1, if_neg grid, if_neg row_apart, if_pos own] at kept
      exact kept
    | succ i =>
      have shift : rowNumber + (i + 1) = rowNumber + 1 + i := by omega
      have found : rest[i]? = some row := by simpa using there
      have here : chartKey id ∉ first.map chartKey := by
        intro again
        obtain ⟨other, elsewhere, same⟩ := List.mem_map.mp again
        have inside : id ∈ rest.flatten := List.mem_flatten.mpr ⟨row, List.mem_of_getElem? found, mem⟩
        exact distinct.2.2 other elsewhere id inside (chartKey_injective same)
      rw [shift, ih _ _ distinct.2.1 found, get_addRow distinct.1, if_neg grid, if_neg row_apart, if_neg here]

end Rows

/-! ## The whole layout -/

section Fill
variable {l : Layout} {charts : List (Chart × Nat)} {rows : List (List Nat)} (distinct : rows.flatten.Nodup)
include distinct

theorem get_fill_grid : (fill l charts rows).get "GRID_ID" =
    (l.get "GRID_ID").map (addChildren ((List.range' 0 rows.length).map rowKey)) := by
  have absent : "GRID_ID" ∉ charts.map (fun c => c.1.key) := by
    intro mem
    obtain ⟨c, -, same⟩ := List.mem_map.mp mem
    exact chartKey_ne_grid c.1.id same
  rw [fill, get_addRows_grid distinct, get_addCharts_other absent]

theorem get_fill_row {i : Nat} {row : List Nat} (there : rows[i]? = some row) :
    (fill l charts rows).get (rowKey i) = some (rowItem (rowKey i) (row.map chartKey)) := by
  have written := get_addRows_row (addCharts l charts) 0 distinct there
  rw [Nat.zero_add] at written
  exact written

theorem get_fill_chart (ids : (charts.map (fun c => c.1.id)).Nodup) {c : Chart × Nat} (listed : c ∈ charts) {i : Nat}
    {row : List Nat} (there : rows[i]? = some row) (mem : c.1.id ∈ row) :
    (fill l charts rows).get c.1.key = some (addParent (rowKey i) (chartItem c.1 c.2)) := by
  have placed : (addCharts l charts).get (chartKey c.1.id) = some (chartItem c.1 c.2) :=
    get_addCharts_chart ids listed l
  have written := get_addRows_chart (addCharts l charts) 0 distinct there mem
  rw [Nat.zero_add, placed] at written
  exact written

theorem get_fill_other {k : String} (grid : k ≠ "GRID_ID") (row : ∀ i < rows.length, k ≠ rowKey i)
    (inRows : k ∉ rows.flatten.map chartKey) (chart : k ∉ charts.map (fun c => c.1.key)) :
    (fill l charts rows).get k = l.get k := by
  have apart : ∀ i < rows.length, k ≠ rowKey (0 + i) := by
    intro i below
    rw [Nat.zero_add]
    exact row i below
  rw [fill, get_addRows_other distinct grid apart inRows, get_addCharts_other chart]

/-- A component that is neither the grid nor a row nor a chart by its letters. -/
theorem get_fill_fixed {k : String} (grid : k ≠ "GRID_ID") (row : ∀ i, rowKey i ≠ k)
    (sixth : k.toList[5]? ≠ some '-') : (fill l charts rows).get k = l.get k := by
  refine get_fill_other distinct grid (fun i _ => (row i).symm) ?_ ?_
  · intro mem
    obtain ⟨id, -, same⟩ := List.mem_map.mp mem
    exact chartKey_ne sixth id same
  · intro mem
    obtain ⟨c, -, same⟩ := List.mem_map.mp mem
    exact chartKey_ne sixth c.1.id same

end Fill
end XpBuilder.GridLayout
