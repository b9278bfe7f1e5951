import Mathlib.Tactic.IntervalCases
import XpBuilder.Provisioning.GridLayout

/-! The dashboards of the demo. The widths of the charts come from their number and their
kinds, and the rows are cut by position, so the two have to agree on where the numbers end. -/

namespace XpBuilder.GridLayout

/-! ## Widths -/

/-- A chart as it was posted, with the id of the response. -/
structure Posted where
  id : Nat
  name : String
  vizType : String
  deriving DecidableEq, Repr

def Posted.isNumber (p : Posted) : Bool := p.vizType = "big_number_total"

def chartWidth (kpiCount index : Nat) (vizType : String) : Nat :=
  if vizType = "table" then 12 else if index < kpiCount then 12 / min kpiCount 6 else 6

/-- A chart with the number of charts that lead the dashboard. -/
structure DemoChart extends Chart where
  kpiCount : Nat

def demoChart (kpiCount index : Nat) (p : Posted) : DemoChart :=
  ⟨⟨p.id, p.name, p.vizType, chartWidth kpiCount index p.vizType⟩, kpiCount⟩

/-- The charts of a dashboard in `create_charts_and_layouts`. `next` fails on a dashboard of numbers. -/
def createCharts (specs : List Posted) : Option (List DemoChart) :=
  (specs.findIdx? (fun p => !p.isNumber)).map (fun kpiCount =>
    specs.zipIdx.map (fun e => demoChart kpiCount e.2 e.1))

/-! ## Rows -/

def noticeCode (title : String) : String :=
  "<div class=\"demo-banner\"><strong>" ++ title ++ "</strong><br>Synthetic demo data - realistic, " ++
    "relationship-safe education records for product demonstration; no production learner data is shown.</div>"

/-- A layout with the notice only. -/
def noticeLayout (title : String) : Layout :=
  Dict.empty.setAll [("DASHBOARD_VERSION_KEY", .version "v2"), ("HEADER_ID", headerItem title),
    ("ROOT_ID", rootItem), ("GRID_ID", gridItem ["ROW-DEMO-NOTICE"]),
    ("MARKDOWN-DEMO-NOTICE", .component ⟨.markdown, "MARKDOWN-DEMO-NOTICE", some [],
      some ["ROOT_ID", "GRID_ID", "ROW-DEMO-NOTICE"], .markdown (noticeCode title) 10 12⟩),
    ("ROW-DEMO-NOTICE", rowItem "ROW-DEMO-NOTICE" ["MARKDOWN-DEMO-NOTICE"])]

def rowSize (kpiCount cursor : Nat) : Nat := if cursor < kpiCount then min kpiCount 6 else 2

theorem rowSize_pos (kpiCount cursor : Nat) : 0 < rowSize kpiCount cursor := by
  unfold rowSize
  split_ifs <;> omega

/-- The loop over the cursor. -/
def cutRows {α : Type} (kpiCount cursor : Nat) : List α → List (List α)
  | [] => []
  | c :: rest =>
    (c :: rest).take (rowSize kpiCount cursor) ::
      cutRows kpiCount (cursor + rowSize kpiCount cursor) ((c :: rest).drop (rowSize kpiCount cursor))
  termination_by rest => rest.length
  decreasing_by
    have positive := rowSize_pos kpiCount cursor
    simp only [List.length_drop, List.length_cons]
    omega

def demoHeight (index : Nat) (c : DemoChart) : Nat :=
  if index < c.kpiCount then 26 else if c.vizType = "table" then 56 else 44

/-- `charts[0]["kpi_count"]` -/
def leading (charts : List DemoChart) : Nat := (charts.head?.map DemoChart.kpiCount).getD 0

/-- `layout_for` -/
def demoLayoutFor (title : String) (charts : List DemoChart) : Layout :=
  fill (noticeLayout title) (charts.zipIdx.map (fun e => (e.1.toChart, demoHeight e.2 e.1)))
    (cutRows (leading charts) 0 (charts.map (fun c => c.id)))

/-! ## What fits the grid -/

/-- The columns that a component takes up. -/
def Layout.widthAt (l : Layout) (key : String) : Nat :=
  match (l.componentAt key).map Component.info with
  | some (.chart _ _ _ width) => width
  | some (.markdown _ _ width) => width
  | _ => 0

def Layout.rowWidth (l : Layout) (row : String) : Nat := ((l.childrenAt row).map l.widthAt).sum

/-- The rows of the grid hold the notice and the charts in their order, each row twelve
columns at most. -/
structure FitsGrid (l : Layout) (charts : List Chart) : Prop where
  inOrder : (l.childrenAt "GRID_ID").flatMap l.childrenAt = "MARKDOWN-DEMO-NOTICE" :: charts.map Chart.key
  within : ∀ row ∈ l.childrenAt "GRID_ID", l.rowWidth row ≤ 12

section Cut
variable {α β : Type} {kpiCount cursor : Nat}

theorem cutRows_of_ne_nil {rest : List α} (some_chart : rest ≠ []) : cutRows kpiCount cursor rest =
    rest.take (rowSize kpiCount cursor) ::
      cutRows kpiCount (cursor + rowSize kpiCount cursor) (rest.drop (rowSize kpiCount cursor)) := by
  obtain ⟨c, rest, rfl⟩ := List.exists_cons_of_ne_nil some_chart
  rw [cutRows]

theorem flatten_cutRows (kpiCount cursor : Nat) (rest : List α) : (cutRows kpiCount cursor rest).flatten = rest := by
  induction cursor, rest using cutRows.induct kpiCount with
  | case1 cursor => simp [cutRows]
  | case2 cursor c rest ih => rw [cutRows, List.flatten_cons, ih, List.take_append_drop]

theorem cutRows_map (f : α → β) (kpiCount cursor : Nat) (rest : List α) :
    cutRows kpiCount cursor (rest.map f) = (cutRows kpiCount cursor rest).map (List.map f) := by
  induction cursor, rest using cutRows.induct kpiCount with
  | case1 cursor => simp [cutRows]
  | case2 cursor c rest ih =>
    have some_chart : (c :: rest).map f ≠ [] := by simp
    rw [cutRows_of_ne_nil some_chart, cutRows_of_ne_nil (List.cons_ne_nil c rest), ← List.map_take,
      ← List.map_drop, ih]
    rfl

end Cut

/-! ## The rows of a layout -/

section Layout
variable {title : String} {charts : List DemoChart}

/-- No digit is in the name of the notice's row. -/
theorem rowKey_ne_notice (rowNumber : Nat) : rowKey rowNumber ≠ "ROW-DEMO-NOTICE" := by
  intro same
  have rest : ((if rowNumber < 10 then "0" else "") ++ toString rowNumber : String) = "DEMO-NOTICE" :=
    String.append_right_inj "ROW-" |>.mp same
  have letter : 'D' ∈ ((if rowNumber < 10 then "0" else "") ++ toString rowNumber : String).toList := by
    rw [rest]
    simp
  have digits : (toString rowNumber).toList = Nat.toDigits 10 rowNumber := Nat.toList_repr
  rw [String.toList_append, List.mem_append, digits] at letter
  rcases letter with before | digit
  · split_ifs at before <;> simp at before
  · have number := Nat.isDigit_of_mem_toDigits (by decide) (by decide) digit
    exact absurd number (by decide)

variable (distinct : (charts.map (fun c => c.id)).Nodup)
include distinct

theorem nodup_cutRows (kpiCount : Nat) : (cutRows kpiCount 0 (charts.map (fun c => c.id))).flatten.Nodup := by
  rw [flatten_cutRows]
  exact distinct

theorem childrenAt_grid : (demoLayoutFor title charts).childrenAt "GRID_ID" =
    "ROW-DEMO-NOTICE" :: (List.range' 0 (cutRows (leading charts) 0 charts).length).map rowKey := by
  have before : (noticeLayout title).get "GRID_ID" = some (gridItem ["ROW-DEMO-NOTICE"]) :=
    Dict.get_setAll_of_mem (by simp) (by simp) _
  simp only [Layout.childrenAt, Layout.children, Layout.componentAt, demoLayoutFor]
  rw [get_fill_grid (nodup_cutRows distinct _), before, cutRows_map, List.length_map]
  rfl

theorem childrenAt_notice : (demoLayoutFor title charts).childrenAt "ROW-DEMO-NOTICE" = ["MARKDOWN-DEMO-NOTICE"] := by
  have before : (noticeLayout title).get "ROW-DEMO-NOTICE" = some (rowItem "ROW-DEMO-NOTICE" ["MARKDOWN-DEMO-NOTICE"]) :=
    Dict.get_setAll_of_mem (by simp) (by simp) _
  simp only [Layout.childrenAt, Layout.children, Layout.componentAt, demoLayoutFor]
  rw [get_fill_fixed (nodup_cutRows distinct _) (by decide) rowKey_ne_notice (by simp), before]
  rfl

theorem widthAt_notice : (demoLayoutFor title charts).widthAt "MARKDOWN-DEMO-NOTICE" = 12 := by
  have before : (noticeLayout title).get "MARKDOWN-DEMO-NOTICE" = some (.component ⟨.markdown, "MARKDOWN-DEMO-NOTICE",
      some [], some ["ROOT_ID", "GRID_ID", "ROW-DEMO-NOTICE"], .markdown (noticeCode title) 10 12⟩) :=
    Dict.get_setAll_of_mem (by simp) (by simp) _
  simp only [Layout.widthAt, Layout.componentAt, demoLayoutFor]
  rw [get_fill_fixed (nodup_cutRows distinct _) (by decide) (rowKey_ne (by simp)) (by simp), before]
  rfl

theorem childrenAt_row {i : Nat} {row : List DemoChart} (there : (cutRows (leading charts) 0 charts)[i]? = some row) :
    (demoLayoutFor title charts).childrenAt (rowKey i) = row.map (fun c => c.key) := by
  have found : (cutRows (leading charts) 0 (charts.map (fun c => c.id)))[i]? = some (row.map (fun c => c.id)) := by
    rw [cutRows_map, List.getElem?_map, there, Option.map_some]
  simp only [Layout.childrenAt, Layout.children, Layout.componentAt, demoLayoutFor]
  rw [get_fill_row (nodup_cutRows distinct _) found, List.map_map]
  rfl

theorem widthAt_chart {i : Nat} {row : List DemoChart} (there : (cutRows (leading charts) 0 charts)[i]? = some row)
    {c : DemoChart} (mem : c ∈ row) : (demoLayoutFor title charts).widthAt c.key = c.width := by
  have found : (cutRows (leading charts) 0 (charts.map (fun c => c.id)))[i]? = some (row.map (fun c => c.id)) := by
    rw [cutRows_map, List.getElem?_map, there, Option.map_some]
  have ids : ((charts.zipIdx.map (fun e => (e.1.toChart, demoHeight e.2 e.1))).map (fun c => c.1.id)).Nodup := by
    have same : (charts.zipIdx.map (fun e => (e.1.toChart, demoHeight e.2 e.1))).map (fun c => c.1.id) =
        (charts.zipIdx.map Prod.fst).map (fun c => c.id) := by
      rw [List.map_map, List.map_map]
      rfl
    rw [same, List.zipIdx_map_fst]
    exact distinct
  have inside : c ∈ charts := by
    rw [← flatten_cutRows (leading charts) 0 charts]
    exact List.mem_flatten.mpr ⟨row, List.mem_of_getElem? there, mem⟩
  obtain ⟨j, position⟩ := List.mem_iff_getElem?.mp inside
  have listed : (c.toChart, demoHeight j c) ∈ charts.zipIdx.map (fun e => (e.1.toChart, demoHeight e.2 e.1)) :=
    List.mem_map.mpr ⟨(c, j), List.mk_mem_zipIdx_iff_getElem?.mpr position, rfl⟩
  have written := get_fill_chart (l := noticeLayout title) (nodup_cutRows distinct _) ids listed found
    (List.mem_map_of_mem mem)
  simp only [Layout.widthAt, Layout.componentAt, demoLayoutFor]
  rw [written]
  rfl

theorem rowWidth_row {i : Nat} {row : List DemoChart} (there : (cutRows (leading charts) 0 charts)[i]? = some row) :
    (demoLayoutFor title charts).rowWidth (rowKey i) = (row.map (fun c => c.width)).sum := by
  rw [Layout.rowWidth, childrenAt_row distinct there, List.map_map]
  exact congrArg List.sum (List.map_congr_left (fun c mem => widthAt_chart distinct there mem))

theorem demo_inOrder : ((demoLayoutFor title charts).childrenAt "GRID_ID").flatMap (demoLayoutFor title charts).childrenAt =
    "MARKDOWN-DEMO-NOTICE" :: (charts.map DemoChart.toChart).map Chart.key := by
  have rows : ∀ e ∈ (cutRows (leading charts) 0 charts).zipIdx,
      (demoLayoutFor title charts).childrenAt (rowKey e.2) = e.1.map (fun c => c.key) := by
    intro e mem
    exact childrenAt_row distinct (List.mem_zipIdx_iff_getElem?.mp mem)
  have whole := flatten_cutRows (leading charts) 0 charts
  rw [childrenAt_grid distinct, List.flatMap_cons, childrenAt_notice distinct, List.singleton_append,
    ← List.zipIdx_map_snd 0 (cutRows (leading charts) 0 charts), List.map_map, List.flatMap_map]
  congr 1
  calc (cutRows (leading charts) 0 charts).zipIdx.flatMap (fun e => (demoLayoutFor title charts).childrenAt (rowKey e.2))
      = (cutRows (leading charts) 0 charts).zipIdx.flatMap (fun e => e.1.map (fun c => c.key)) :=
        List.flatMap_congr rows
    _ = ((cutRows (leading charts) 0 charts).zipIdx.map Prod.fst).flatMap (List.map (fun c => c.key)) := by
      rw [List.flatMap_map]
    _ = (charts.map DemoChart.toChart).map Chart.key := by
      rw [List.zipIdx_map_fst, List.flatMap_def, ← List.map_flatten, whole, List.map_map]
      rfl

/-- The charts are always in their rows, so only the sums of their widths count. -/
theorem fitsGrid_iff : FitsGrid (demoLayoutFor title charts) (charts.map DemoChart.toChart) ↔
    ∀ row ∈ cutRows (leading charts) 0 (charts.map (fun c => c.width)), row.sum ≤ 12 := by
  rw [cutRows_map, List.forall_mem_map]
  constructor
  · intro fits row mem
    obtain ⟨i, there⟩ := List.mem_iff_getElem?.mp mem
    obtain ⟨below, -⟩ := List.getElem?_eq_some_iff.mp there
    have key : rowKey i ∈ (demoLayoutFor title charts).childrenAt "GRID_ID" := by
      rw [childrenAt_grid distinct]
      refine List.mem_cons_of_mem _ (List.mem_map_of_mem ?_)
      rw [List.mem_range'_1, Nat.zero_add]
      exact ⟨Nat.zero_le i, below⟩
    have within := fits.within _ key
    rw [rowWidth_row distinct there] at within
    exact within
  · intro fits
    refine ⟨demo_inOrder distinct, ?_⟩
    intro row mem
    rw [childrenAt_grid distinct, List.mem_cons, List.mem_map] at mem
    rcases mem with rfl | ⟨i, below, rfl⟩
    · rw [Layout.rowWidth, childrenAt_notice distinct, List.map_singleton, widthAt_notice distinct]
      exact le_rfl
    · rw [List.mem_range'_1, Nat.zero_add] at below
      have there := List.getElem?_eq_getElem below.2
      rw [rowWidth_row distinct there]
      exact fits _ (List.getElem_mem below.2)

end Layout

/-! ## When the rows fit -/

def otherWidth (p : Posted) : Nat := if p.vizType = "table" then 12 else 6

/-- A table stands behind an even number of the other charts, and last. -/
def TablesAtEnd (others : List Posted) : Prop :=
  ∀ i p, others[i]? = some p → p.vizType = "table" → i % 2 = 0 ∧ i + 1 = others.length

/-- The numbers fill their rows and the tables stand alone, or the last row of numbers has
room for one chart and there is no other. -/
def RowsAgree (kpiCount : Nat) (others : List Posted) : Prop :=
  ((kpiCount ≤ 6 ∨ kpiCount % 6 = 0) ∧ TablesAtEnd others) ∨
    (6 < kpiCount ∧ kpiCount % 6 ∈ [1, 2, 3] ∧ ∃ p, others = [p] ∧ p.vizType ≠ "table")

section Fits
variable {kpiCount cursor : Nat} {others : List Posted}

theorem tablesAtEnd_cons_cons {p q : Posted} : TablesAtEnd (p :: q :: others) ↔
    (p.vizType ≠ "table" ∧ q.vizType ≠ "table") ∧ TablesAtEnd others := by
  constructor
  · intro atEnd
    refine ⟨⟨?_, ?_⟩, ?_⟩
    · intro table
      have last := (atEnd 0 p rfl table).2
      simp at last
    · intro table
      have even := (atEnd 1 q rfl table).1
      simp at even
    · intro i r there table
      have later := atEnd (i + 2) r (by simpa using there) table
      rw [List.length_cons, List.length_cons] at later
      omega
  · rintro ⟨⟨first, second⟩, atEnd⟩ i r there table
    match i, there with
    | 0, there =>
      obtain rfl : p = r := by simpa using there
      exact absurd table first
    | 1, there =>
      obtain rfl : q = r := by simpa using there
      exact absurd table second
    | i + 2, there =>
      have later := atEnd i r (by simpa using there) table
      rw [List.length_cons, List.length_cons]
      omega

/-- Behind the numbers the charts go two to a row. -/
theorem pairs_fit_iff (others : List Posted) {cursor : Nat} (behind : kpiCount ≤ cursor) :
    (∀ row ∈ cutRows kpiCount cursor (others.map otherWidth), row.sum ≤ 12) ↔ TablesAtEnd others := by
  have size : rowSize kpiCount cursor = 2 := if_neg (Nat.not_lt.mpr behind)
  match others with
  | [] =>
    refine iff_of_true (by simp [cutRows]) ?_
    intro i p there
    simp at there
  | [p] =>
    have width : otherWidth p ≤ 12 := by
      unfold otherWidth
      split_ifs <;> omega
    refine iff_of_true ?_ ?_
    · rw [List.map_singleton, cutRows_of_ne_nil (List.cons_ne_nil _ _), size]
      simpa [cutRows] using width
    · intro i q there _
      obtain ⟨below, -⟩ := List.getElem?_eq_some_iff.mp there
      rw [List.length_singleton] at below ⊢
      omega
  | p :: q :: rest =>
    have later := pairs_fit_iff rest (Nat.le_add_right_of_le (k := 2) behind)
    have first : otherWidth p + otherWidth q ≤ 12 ↔ p.vizType ≠ "table" ∧ q.vizType ≠ "table" := by
      unfold otherWidth
      split_ifs <;> simp_all
    rw [tablesAtEnd_cons_cons, ← later, ← first, List.map_cons, List.map_cons,
      cutRows_of_ne_nil (List.cons_ne_nil _ _), size, List.forall_mem_cons]
    simp

/-- A full row of numbers. -/
theorem cutRows_replicate {width count : Nat} {rest : List Nat} (some_number : 0 < count)
    (full : rowSize kpiCount cursor ≤ count) : cutRows kpiCount cursor (List.replicate count width ++ rest) =
      List.replicate (rowSize kpiCount cursor) width :: cutRows kpiCount (cursor + rowSize kpiCount cursor)
        (List.replicate (count - rowSize kpiCount cursor) width ++ rest) := by
  have nonempty : List.replicate count width ++ rest ≠ [] := by
    intro empty
    have lengths := congrArg List.length empty
    simp at lengths
    omega
  have fits : rowSize kpiCount cursor ≤ (List.replicate count width).length := by
    rw [List.length_replicate]
    exact full
  rw [cutRows_of_ne_nil nonempty, List.take_append_of_le_length fits, List.drop_append_of_le_length fits,
    List.take_replicate, List.drop_replicate, Nat.min_eq_left full]

/-- A last row of numbers with room in it takes the charts behind them. -/
theorem last_fits_iff (many : 6 < kpiCount) {count : Nat} (some_number : 0 < count) (room : count < 6)
    (last : cursor + count = kpiCount) (some_other : others ≠ []) :
    (∀ row ∈ cutRows kpiCount cursor (List.replicate count 2 ++ others.map otherWidth), row.sum ≤ 12) ↔
      count % 6 ∈ [1, 2, 3] ∧ ∃ p, others = [p] ∧ p.vizType ≠ "table" := by
  have size : rowSize kpiCount cursor = 6 := by
    rw [rowSize, if_pos (by omega)]
    omega
  have nonempty : List.replicate count 2 ++ others.map otherWidth ≠ [] := by
    simp [some_other]
  have row : (List.replicate count 2 ++ others.map otherWidth).take 6 =
      List.replicate count 2 ++ (others.map otherWidth).take (6 - count) := by
    rw [List.take_append, List.length_replicate, List.take_of_length_le (by rw [List.length_replicate]; omega)]
  have small : count % 6 ∈ [1, 2, 3] ↔ count ≤ 3 := by
    rw [Nat.mod_eq_of_lt room]
    simp only [List.mem_cons, List.not_mem_nil, or_false]
    omega
  rw [cutRows_of_ne_nil nonempty, size, row, List.forall_mem_cons, List.sum_append, List.sum_replicate_nat,
    small]
  match others with
  | [] => exact absurd rfl some_other
  | [p] =>
    have taken : ([p].map otherWidth).take (6 - count) = [otherWidth p] := by
      rw [List.map_singleton, List.take_of_length_le (by rw [List.length_singleton]; omega)]
    have none_left : (List.replicate count 2 ++ [p].map otherWidth).drop 6 = [] := by
      rw [List.drop_eq_nil_iff, List.length_append, List.length_replicate, List.map_singleton, List.length_singleton]
      omega
    rw [taken, none_left, List.sum_singleton]
    have width : count * 2 + otherWidth p ≤ 12 ↔ count ≤ 3 ∧ p.vizType ≠ "table" := by
      unfold otherWidth
      split_ifs with table
      · simp only [table, ne_eq, not_true_eq_false, and_false, iff_false]
        omega
      · simp only [table, ne_eq, not_false_eq_true, and_true]
        omega
    simp [cutRows, width]
  | p :: q :: rest =>
    refine iff_of_false ?_ (by simp)
    rintro ⟨within, -⟩
    have wide : ∀ r : Posted, 6 ≤ otherWidth r := by
      intro r
      unfold otherWidth
      split_ifs <;> omega
    have first := wide p
    have second := wide q
    by_cases one : count = 5
    · rw [one] at within
      simp at within
      omega
    · obtain ⟨n, two⟩ : ∃ n, 6 - count = n + 2 := ⟨4 - count, by omega⟩
      rw [two, List.map_cons, List.map_cons, List.take_succ_cons, List.take_succ_cons, List.sum_cons, List.sum_cons]
        at within
      omega

/-- More than six numbers are two columns wide and go six to a row. -/
theorem numbers_fit_iff (many : 6 < kpiCount) (some_other : others ≠ []) (count cursor : Nat)
    (left : cursor + count = kpiCount) :
    (∀ row ∈ cutRows kpiCount cursor (List.replicate count 2 ++ others.map otherWidth), row.sum ≤ 12) ↔
      (count % 6 = 0 ∧ TablesAtEnd others) ∨
        (count % 6 ∈ [1, 2, 3] ∧ ∃ p, others = [p] ∧ p.vizType ≠ "table") := by
  induction count using Nat.strong_induction_on generalizing cursor with
  | _ count ih =>
    by_cases done : count = 0
    · rw [done, List.replicate_zero, List.nil_append, pairs_fit_iff others (by omega)]
      simp
    by_cases room : count < 6
    · rw [last_fits_iff many (by omega) room left some_other]
      have part : count % 6 ≠ 0 := by omega
      simp [part]
    · have size : rowSize kpiCount cursor = 6 := by
        rw [rowSize, if_pos (by omega)]
        omega
      have later := ih (count - 6) (by omega) (cursor + 6) (by omega)
      have same : (count - 6) % 6 = count % 6 := by omega
      rw [same] at later
      rw [cutRows_replicate (by omega) (by omega), size, List.forall_mem_cons, later]
      simp

/-- A few numbers share the first row. -/
theorem few_fit_iff (few : kpiCount ≤ 6) :
    (∀ row ∈ cutRows kpiCount 0 (List.replicate kpiCount (12 / min kpiCount 6) ++ others.map otherWidth), row.sum ≤ 12) ↔
      TablesAtEnd others := by
  by_cases none_leads : kpiCount = 0
  · rw [none_leads, List.replicate_zero, List.nil_append, pairs_fit_iff others le_rfl]
  · have size : rowSize kpiCount 0 = kpiCount := by
      rw [rowSize, if_pos (by omega), Nat.min_eq_left few]
    have sum : kpiCount * (12 / min kpiCount 6) ≤ 12 := by
      rw [Nat.min_eq_left few]
      exact Nat.mul_div_le 12 kpiCount
    rw [cutRows_replicate (by omega) (by omega), size, Nat.sub_self, List.replicate_zero, List.nil_append,
      List.forall_mem_cons, pairs_fit_iff others (by omega), List.sum_replicate_nat]
    simp [sum]

theorem widths_fit_iff (some_other : others ≠ []) :
    (∀ row ∈ cutRows kpiCount 0 (List.replicate kpiCount (12 / min kpiCount 6) ++ others.map otherWidth), row.sum ≤ 12) ↔
      RowsAgree kpiCount others := by
  unfold RowsAgree
  by_cases few : kpiCount ≤ 6
  · rw [few_fit_iff few]
    simp [few, Nat.not_lt.mpr few]
  · have width : 12 / min kpiCount 6 = 2 := by
      rw [Nat.min_eq_right (by omega)]
    rw [width, numbers_fit_iff (by omega) some_other kpiCount 0 (Nat.zero_add _)]
    simp [few, Nat.lt_of_not_le few]

end Fits

/-! ## The dashboards -/

section Charts
variable {numbers others : List Posted}

theorem createCharts_eq (first : Posted) (numeric : ∀ p ∈ numbers, p.isNumber) (other : first ∈ others.head?)
    (noNumber : first.isNumber = false) : createCharts (numbers ++ others) =
      some ((numbers ++ others).zipIdx.map (fun e => demoChart numbers.length e.2 e.1)) := by
  obtain ⟨rest, rfl⟩ := List.head?_eq_some_iff.mp other
  have none_found : numbers.findIdx? (fun p => !p.isNumber) = none := by
    rw [List.findIdx?_eq_none_iff]
    intro p mem
    rw [numeric p mem]
    rfl
  have found : (numbers ++ first :: rest).findIdx? (fun p => !p.isNumber) = some numbers.length := by
    rw [List.findIdx?_append, List.findIdx?_cons, noNumber, none_found]
    simp
  rw [createCharts, found, Option.map_some]

theorem ids_demoCharts (kpiCount : Nat) (specs : List Posted) :
    (specs.zipIdx.map (fun e => demoChart kpiCount e.2 e.1)).map (fun c => c.id) = specs.map Posted.id := by
  have same : (specs.zipIdx.map (fun e => demoChart kpiCount e.2 e.1)).map (fun c => c.id) =
      (specs.zipIdx.map Prod.fst).map Posted.id := by
    rw [List.map_map, List.map_map]
    rfl
  rw [same, List.zipIdx_map_fst]

theorem widths_demoCharts (numeric : ∀ p ∈ numbers, p.isNumber) (others : List Posted) :
    ((numbers ++ others).zipIdx.map (fun e => demoChart numbers.length e.2 e.1)).map (fun c => c.width) =
      List.replicate numbers.length (12 / min numbers.length 6) ++ others.map otherWidth := by
  have front : numbers.zipIdx.map (fun e => chartWidth numbers.length e.2 e.1.vizType) =
      List.replicate numbers.length (12 / min numbers.length 6) := by
    rw [List.eq_replicate_iff]
    refine ⟨by rw [List.length_map, List.length_zipIdx], ?_⟩
    rw [List.forall_mem_map]
    intro e mem
    obtain ⟨below, -⟩ := List.getElem?_eq_some_iff.mp (List.mem_zipIdx_iff_getElem?.mp mem)
    have kind : e.1.vizType = "big_number_total" := by
      simpa [Posted.isNumber] using numeric e.1 (List.fst_mem_of_mem_zipIdx mem)
    rw [chartWidth, kind, if_neg (by decide), if_pos below]
  have back : (others.zipIdx numbers.length).map (fun e => chartWidth numbers.length e.2 e.1.vizType) =
      ((others.zipIdx numbers.length).map Prod.fst).map otherWidth := by
    rw [List.map_map]
    refine List.map_congr_left ?_
    intro e mem
    have behind := List.le_snd_of_mem_zipIdx mem
    rw [chartWidth, if_neg (Nat.not_lt.mpr behind)]
    rfl
  rw [List.zipIdx_append, List.map_append, List.map_append, List.map_map, List.map_map, Nat.zero_add,
    ← List.zipIdx_map_fst numbers.length others, ← back, ← front]
  rw [List.zipIdx_map_fst]
  rfl

theorem fitsGrid_demoCharts_iff (title : String) (numeric : ∀ p ∈ numbers, p.isNumber) (some_other : others ≠ [])
    (distinct : ((numbers ++ others).map Posted.id).Nodup) :
    FitsGrid (demoLayoutFor title ((numbers ++ others).zipIdx.map (fun e => demoChart numbers.length e.2 e.1)))
      (((numbers ++ others).zipIdx.map (fun e => demoChart numbers.length e.2 e.1)).map DemoChart.toChart) ↔
        RowsAgree numbers.length others := by
  have leads : leading ((numbers ++ others).zipIdx.map (fun e => demoChart numbers.length e.2 e.1)) = numbers.length := by
    cases whole : numbers ++ others with
    | nil => exact absurd (List.append_eq_nil_iff.mp whole).2 some_other
    | cons p rest => rfl
  have ids : (((numbers ++ others).zipIdx.map (fun e => demoChart numbers.length e.2 e.1)).map (fun c => c.id)).Nodup := by
    rw [ids_demoCharts]
    exact distinct
  rw [fitsGrid_iff ids, leads, widths_demoCharts numeric, widths_fit_iff some_other]

/-- The charts of a dashboard fit the grid exactly where the rows of numbers and the widths agree. -/
theorem demoLayout_fits_iff (title : String) (first : Posted) (numeric : ∀ p ∈ numbers, p.isNumber)
    (other : first ∈ others.head?) (noNumber : first.isNumber = false)
    (distinct : ((numbers ++ others).map Posted.id).Nodup) :
    ∃ charts, createCharts (numbers ++ others) = some charts ∧
      charts.map (fun c => c.id) = (numbers ++ others).map Posted.id ∧
      (FitsGrid (demoLayoutFor title charts) (charts.map DemoChart.toChart) ↔ RowsAgree numbers.length others) := by
  have some_other : others ≠ [] := by
    rintro rfl
    cases other
  exact ⟨_, createCharts_eq first numeric other noNumber, ids_demoCharts _ _,
    fitsGrid_demoCharts_iff title numeric some_other distinct⟩

end Charts

/-! ## A bar and a table -/

def learners : Posted := ⟨1, "Learners", "big_number_total"⟩

def byCourse : Posted := ⟨2, "Learners by course", "echarts_timeseries_bar"⟩

def learnerList : Posted := ⟨3, "Learner list", "table"⟩

/-- A table behind a bar shares its row. -/
theorem barAndTable_overflow : ∃ charts, createCharts ([learners] ++ [byCourse, learnerList]) = some charts ∧
    ¬FitsGrid (demoLayoutFor "Learners" charts) (charts.map DemoChart.toChart) := by
  refine ⟨_, createCharts_eq byCourse (by decide) rfl (by decide), ?_⟩
  rw [fitsGrid_demoCharts_iff "Learners" (by decide) (by decide) (by decide)]
  rintro (⟨-, atEnd⟩ | ⟨many, -⟩)
  · exact absurd (atEnd 1 learnerList rfl rfl).1 (by decide)
  · exact absurd many (by decide)

theorem tableAlone_fits_iff : ∃ charts, createCharts ([learners] ++ [learnerList]) = some charts ∧
    charts.map (fun c => c.id) = ([learners] ++ [learnerList]).map Posted.id ∧
    (FitsGrid (demoLayoutFor "Learners" charts) (charts.map DemoChart.toChart) ↔ RowsAgree 1 [learnerList]) :=
  demoLayout_fits_iff "Learners" learnerList (by decide) rfl (by decide) (by decide)

end XpBuilder.GridLayout
