import XpBuilder.Report.Roles
import Mathlib.Algebra.BigOperators.Group.List.Basic

/-! The band of totals. The loop adds up, for every column that it takes for a metric, the
values of the result that are integers or floats. The band begins with its caption, so
what it adds up for a column stands under the next one. -/

namespace XpBuilder.Pdf

/-! ## The sums -/

/-- The numbers that the loop finds in a column. -/
def columnNumbers (rows : List (Dict String Value)) (name : String) : List ℚ :=
  rows.filterMap (fun row => (row.get name).bind numeric)

theorem getD_modify_add (grand : List ℚ) (idx : Nat) (value : ℚ) {i : Nat} (inside : i < grand.length) :
    (grand.modify idx (· + value)).getD i 0 = grand.getD i 0 + if i = idx then value else 0 := by
  have there : grand[i]? = some grand[i] := List.getElem?_eq_getElem inside
  simp only [List.getD_eq_getElem?_getD, List.getElem?_modify, there]
  by_cases same : i = idx
  · simp [same]
  · simp [same, Ne.symm same]

theorem columnNumbers_singleton (row : Dict String Value) (name : String) :
    (columnNumbers [row] name).sum = ((row.get name).bind numeric).getD 0 := by
  unfold columnNumbers
  cases found : (row.get name).bind numeric with
  | none => simp [found]
  | some value => simp [found]

section Loop
variable {columns : List String}

theorem length_addMetric (row : Dict String Value) (grand : List ℚ) (idx : Nat) :
    (addMetric columns row grand idx).length = grand.length := by
  unfold addMetric
  split
  · exact List.length_modify _ _ _
  · rfl

theorem getD_addMetric (row : Dict String Value) (grand : List ℚ) (idx : Nat) {i : Nat}
    (inside : i < grand.length) : (addMetric columns row grand idx).getD i 0 =
      grand.getD i 0 + if i = idx then (columnNumbers [row] (columns.getD i "")).sum else 0 := by
  rw [columnNumbers_singleton]
  unfold addMetric
  by_cases same : i = idx
  · rw [if_pos same, ← same]
    cases (row.get (columns.getD i "")).bind numeric with
    | none => exact (add_zero _).symm
    | some value => rw [getD_modify_add grand i value inside, if_pos rfl, Option.getD_some]
  · rw [if_neg same]
    cases (row.get (columns.getD idx "")).bind numeric with
    | none => exact (add_zero _).symm
    | some value => rw [getD_modify_add grand idx value inside, if_neg same]

theorem length_foldl_addMetric (row : Dict String Value) (metricIdx : List Nat) (grand : List ℚ) :
    (metricIdx.foldl (addMetric columns row) grand).length = grand.length := by
  induction metricIdx generalizing grand with
  | nil => rfl
  | cons idx rest ih => rw [List.foldl_cons, ih, length_addMetric]

theorem getD_foldl_addMetric (row : Dict String Value) {metricIdx : List Nat} (distinct : metricIdx.Nodup)
    (grand : List ℚ) {i : Nat} (inside : i < grand.length) :
    (metricIdx.foldl (addMetric columns row) grand).getD i 0 =
      grand.getD i 0 + if i ∈ metricIdx then (columnNumbers [row] (columns.getD i "")).sum else 0 := by
  induction metricIdx generalizing grand with
  | nil => simp
  | cons idx rest ih =>
    rw [List.nodup_cons] at distinct
    have inside' : i < (addMetric columns row grand idx).length := by
      rw [length_addMetric]
      exact inside
    rw [List.foldl_cons, ih distinct.2 _ inside', getD_addMetric row grand idx inside]
    by_cases same : i = idx
    · have later : i ∉ rest := same ▸ distinct.1
      simp [same, same ▸ later]
    · simp [same]

theorem columnNumbers_cons (row : Dict String Value) (rows : List (Dict String Value)) (name : String) :
    (columnNumbers (row :: rows) name).sum = (columnNumbers [row] name).sum + (columnNumbers rows name).sum := by
  have parts : columnNumbers (row :: rows) name = columnNumbers [row] name ++ columnNumbers rows name :=
    List.filterMap_append (l := [row])
  rw [parts, List.sum_append]

theorem getD_foldl_rows (rows : List (Dict String Value)) {metricIdx : List Nat} (distinct : metricIdx.Nodup)
    (grand : List ℚ) {i : Nat} (inside : i < grand.length) :
    (rows.foldl (fun grand row => metricIdx.foldl (addMetric columns row) grand) grand).getD i 0 =
      grand.getD i 0 + if i ∈ metricIdx then (columnNumbers rows (columns.getD i "")).sum else 0 := by
  induction rows generalizing grand with
  | nil => simp [columnNumbers]
  | cons row rest ih =>
    have inside' : i < (metricIdx.foldl (addMetric columns row) grand).length := by
      rw [length_foldl_addMetric]
      exact inside
    rw [List.foldl_cons, ih _ inside', getD_foldl_addMetric row distinct grand inside,
      columnNumbers_cons row rest]
    split
    · rw [add_assoc]
    · rw [add_zero]

/-- The sum for a column that is taken for a metric is that of its numbers. -/
theorem getD_grandTotals (rows : List (Dict String Value)) {metricIdx : List Nat} (distinct : metricIdx.Nodup)
    {i : Nat} (inside : i < columns.length) (metric : i ∈ metricIdx) :
    (grandTotals columns rows metricIdx).getD i 0 = (columnNumbers rows (columns.getD i "")).sum := by
  have start : i < (List.replicate columns.length (0 : ℚ)).length := by
    rw [List.length_replicate]
    exact inside
  have zero : (List.replicate columns.length (0 : ℚ)).getD i 0 = 0 := by
    rw [List.getD_eq_getElem?_getD, List.getElem?_replicate, if_pos inside]
    rfl
  rw [grandTotals, getD_foldl_rows rows distinct _ start, if_pos metric, zero, zero_add]

end Loop

/-! ## What stands under a column -/

/-- A cell shows a value: an amount shows a number and a blank shows NULL. -/
def TotalCell.Shows : TotalCell → Sql.Cell → Prop
  | .amount q, value => value = .number q
  | .blank, value => value = .null
  | .caption, _ => False

/-- Under every metric of the statement stands its aggregate over all source rows. -/
def TotalsShown (E : Sql.Engine) (tables : Sql.Contents) (s : Sql.Select) (band : List TotalCell) : Prop :=
  ∀ (j : Nat) (c : Sql.SelectColumn), s.columns[j]? = some c → SqlBuilder.Aggregated c →
    ∃ cell : TotalCell, band[j]? = some cell ∧ cell.Shows (c.body.eval E (s.sourceRows E tables))

/-- The column at a position bears what its right neighbour should show: for a number it is
taken for a metric and its numbers add up to that and not to 0; for NULL it is not taken
for a metric, or they add up to 0. -/
def Bears (raw : RawDefinition) (columns : List String) (rows : List (Dict String Value)) (i : Nat) :
    Sql.Cell → Prop
  | .number q => i ∈ metricIdx raw columns ∧ q ≠ 0 ∧ (columnNumbers rows (columns.getD i "")).sum = q
  | .null => i ∈ metricIdx raw columns → (columnNumbers rows (columns.getD i "")).sum = 0
  | .text _ => False

/-- Every metric of the statement has a left neighbour that bears its aggregate. -/
def NeighboursBear (raw : RawDefinition) (columns : List String) (rows : List (Dict String Value))
    (E : Sql.Engine) (tables : Sql.Contents) (s : Sql.Select) : Prop :=
  ∀ (j : Nat) (c : Sql.SelectColumn), s.columns[j]? = some c → SqlBuilder.Aggregated c →
    ∃ i, j = i + 1 ∧ Bears raw columns rows i (c.body.eval E (s.sourceRows E tables))

/-- The cell under a column is that of the column before. -/
theorem band_succ (raw : RawDefinition) (columns : List String) (rows : List (Dict String Value)) {i : Nat}
    (inside : i < columns.length) : (aggregateRows columns rows (metricIdx raw columns)).2[i + 1]? =
      some (if i ∈ metricIdx raw columns ∧ (columnNumbers rows (columns.getD i "")).sum ≠ 0 then
        .amount (columnNumbers rows (columns.getD i "")).sum else .blank) := by
  have distinct : (metricIdx raw columns).Nodup :=
    (sorted_positions _ columns).imp (fun before => Nat.ne_of_lt before)
  simp only [aggregateRows, List.getElem?_cons_succ, List.getElem?_map, List.getElem?_range inside,
    Option.map_some]
  by_cases metric : i ∈ metricIdx raw columns
  · rw [getD_grandTotals rows distinct inside metric]
  · simp [metric]

theorem shows_iff_bears (raw : RawDefinition) (columns : List String) (rows : List (Dict String Value))
    {i : Nat} (inside : i < columns.length) (value : Sql.Cell) :
    (∃ cell : TotalCell, (aggregateRows columns rows (metricIdx raw columns)).2[i + 1]? = some cell ∧
      cell.Shows value) ↔ Bears raw columns rows i value := by
  rw [band_succ raw columns rows inside]
  simp only [Option.some.injEq, exists_eq_left']
  split
  · rename_i added
    cases value with
    | null =>
      simp only [TotalCell.Shows, Bears, reduceCtorEq, false_iff]
      exact fun zero => added.2 (zero added.1)
    | number q =>
      simp only [TotalCell.Shows, Bears, added, true_and, Sql.Cell.number.injEq]
      constructor
      · intro same
        exact ⟨same ▸ added.2, same.symm⟩
      · exact fun same => same.2.symm
    | text t => simp [TotalCell.Shows, Bears]
  · rename_i left_blank
    rw [not_and, not_not] at left_blank
    cases value with
    | null => simpa [TotalCell.Shows, Bears] using left_blank
    | number q =>
      simp only [TotalCell.Shows, Bears, reduceCtorEq, false_iff, not_and]
      intro metric nonzero same
      exact nonzero (same ▸ left_blank metric)
    | text t => simp [TotalCell.Shows, Bears]

/-- The band shows the aggregates over all source rows exactly where every metric has a left
neighbour that bears its aggregate. -/
theorem totalsShown_iff {env : BuildEnv} {Q : QueryEnv} {state : DatabaseState} {raw : RawDefinition}
    {s : Sql.Select} {p : SqlaTable} {result : ReportResult}
    (accepted : SqlBuilder.buildSelect env raw = .ok (s, p))
    (ran : SqlBuilder.executeReport env Q state raw = .ok result) (rows : List (Dict String Value)) :
    TotalsShown (Q.engine p.databaseId) (fun t => state (Q.databases.resolve p.databaseId t)) s
        (aggregateRows result.columns rows (metricIdx raw result.columns)).2 ↔
      NeighboursBear raw result.columns rows (Q.engine p.databaseId)
        (fun t => state (Q.databases.resolve p.databaseId t)) s := by
  obtain ⟨tables, first, a⟩ := SqlBuilder.buildSelect_ok.mp accepted
  obtain ⟨_, -, rfl⟩ := (SqlBuilder.executeReport_ok accepted).mp ran
  have length : s.columns.length =
      (SqlBuilder.dedupNames [] (normalizeDefinition raw).outputLabels).length := by
    rw [SqlBuilder.length_dedupNames, ← a.labels, List.length_map]
  unfold TotalsShown NeighboursBear
  apply forall₄_congr
  intro j c there _
  have inside : j < s.columns.length := (List.getElem?_eq_some_iff.mp there).1
  cases j with
  | zero =>
    have caption : ¬∃ cell : TotalCell, (aggregateRows
        (SqlBuilder.dedupNames [] (normalizeDefinition raw).outputLabels) rows (metricIdx raw
          (SqlBuilder.dedupNames [] (normalizeDefinition raw).outputLabels))).2[0]? = some cell ∧
        cell.Shows (c.body.eval (Q.engine p.databaseId) (s.sourceRows (Q.engine p.databaseId)
          (fun t => state (Q.databases.resolve p.databaseId t)))) := by
      simp [aggregateRows, TotalCell.Shows]
    exact iff_of_false caption (by simp)
  | succ i =>
    have left : i < (SqlBuilder.dedupNames [] (normalizeDefinition raw).outputLabels).length := by omega
    simp only [Nat.add_right_cancel_iff, exists_eq_left']
    exact shows_iff_bears raw _ rows left _

/-! ## What is in line with the table -/

/-- A number in Python: an int, a float or a Decimal. -/
def Value.number : Value → Option ℚ
  | .int i => some i
  | .float q _ => some q
  | .decimal q _ => some q
  | _ => none

/-- The band has a cell for each column, and under a metric stands the sum of its numbers. -/
structure LinesUp (columns : List String) (rows : List (Dict String Value)) (metricIdx : List Nat) : Prop where
  cells : (aggregateRows columns rows metricIdx).2.length = columns.length
  sums : ∀ idx ∈ metricIdx, ∀ name, columns[idx]? = some name →
    (aggregateRows columns rows metricIdx).2[idx]? =
      some (.amount (rows.filterMap (fun row => (row.get name).bind Value.number)).sum)

theorem length_band (columns : List String) (rows : List (Dict String Value)) (metricIdx : List Nat) :
    (aggregateRows columns rows metricIdx).2.length = columns.length + 1 := by
  unfold aggregateRows
  dsimp only
  rw [List.length_cons, List.length_map, List.length_range]

/-- The caption has a cell of its own, so the band always has one too many. -/
theorem not_linesUp (columns : List String) (rows : List (Dict String Value)) (metricIdx : List Nat) :
    ¬LinesUp columns rows metricIdx := by
  intro level
  have cells := level.cells
  rw [length_band] at cells
  omega

def decimalRow : Dict String Value := (Dict.empty.set "k" (.text "a")).set "SUM(v)" (.decimal 3 "3.00")

/-- Two columns and a Decimal: there are three cells, and the one under the metric is blank. -/
theorem decimal_not_linesUp :
    (aggregateRows ["k", "SUM(v)"] [decimalRow] [1]).2 = [.caption, .blank, .blank] ∧
      ¬LinesUp ["k", "SUM(v)"] [decimalRow] [1] := by
  refine ⟨by decide +kernel, fun level => ?_⟩
  have sum := level.sums 1 List.mem_cons_self "SUM(v)" rfl
  exact absurd sum (by decide +kernel)

/-! ## A sum by a field -/

/-- Over no rows the sum is NULL and nothing stands under it. -/
theorem noRows_totalsShown : ∃ s p result,
    SqlBuilder.buildSelect SqlBuilder.twoDatabases (summed "k" (some "SUM")) = .ok (s, p) ∧
    SqlBuilder.executeReport SqlBuilder.twoDatabases SqlBuilder.plainQuery (fun _ => [])
      (summed "k" (some "SUM")) = .ok result ∧
    TotalsShown SqlBuilder.firstRowEngine (fun _ => []) s
      (aggregateRows result.columns [] (metricIdx (summed "k" (some "SUM")) result.columns)).2 := by
  obtain ⟨s, p, field, amount, accepted, accepts, limit, columns, none_there⟩ :
      ∃ (s : Sql.Select) (p : SqlaTable) (field amount : Sql.Expr),
      SqlBuilder.buildSelect SqlBuilder.twoDatabases (summed "k" (some "SUM")) = .ok (s, p) ∧
      s.fromAccepted = true ∧ s.limit = 1000 ∧
      s.columns = [⟨"k", .plain field⟩, ⟨"SUM(v)", .aggregate .sum amount⟩] ∧
      s.sourceRows SqlBuilder.firstRowEngine (fun _ => []) = [] :=
    ⟨_, _, _, _, rfl, by decide, rfl, rfl, rfl⟩
  obtain ⟨result, ran, named⟩ := SqlBuilder.executeReport_runs accepted accepts (by omega)
    SqlBuilder.plainQuery (fun _ => [])
  have names : result.columns = ["k", "SUM(v)"] := named.trans (by decide)
  refine ⟨s, p, result, accepted, ran, (totalsShown_iff accepted ran []).mpr ?_⟩
  intro j c there aggregated
  rw [columns] at there
  match j with
  | 0 =>
    cases there
    obtain ⟨agg, e, plain⟩ := aggregated
    cases plain
  | 1 =>
    cases there
    refine ⟨0, rfl, ?_⟩
    have null : (Sql.Output.aggregate .sum amount).eval SqlBuilder.firstRowEngine [] = .null := rfl
    have nothing : Bears (summed "k" (some "SUM")) ["k", "SUM(v)"] [] 0 .null := fun _ => rfl
    rw [names]
    show Bears _ _ _ _ ((Sql.Output.aggregate .sum amount).eval SqlBuilder.firstRowEngine
      (s.sourceRows SqlBuilder.firstRowEngine (fun _ => [])))
    rw [none_there, null]
    exact nothing
  | j + 2 => cases there

/-- One row with 3 in every column, of a table in which the driver reads integers. -/
def threes : DatabaseState := fun _ => [fun _ => .number 3]

def threesRow : Dict String Value := (Dict.empty.set "k" (.int 3)).set "SUM(v)" (.int 3)

/-- The sum is 3. What stands under it is the blank of the field, and the 3 is one further. -/
theorem threes_not_totalsShown : ∃ s p result,
    SqlBuilder.buildSelect SqlBuilder.twoDatabases (summed "k" (some "SUM")) = .ok (s, p) ∧
    SqlBuilder.executeReport SqlBuilder.twoDatabases SqlBuilder.plainQuery threes
      (summed "k" (some "SUM")) = .ok result ∧
    TypedRows result.rows [threesRow] ∧ result.truncated = false ∧
    (aggregateRows result.columns [threesRow] (metricIdx (summed "k" (some "SUM")) result.columns)).2 =
      [.caption, .blank, .amount 3] ∧
    ¬TotalsShown SqlBuilder.firstRowEngine
      (fun t => threes (SqlBuilder.plainQuery.databases.resolve p.databaseId t)) s
      (aggregateRows result.columns [threesRow] (metricIdx (summed "k" (some "SUM")) result.columns)).2 := by
  obtain ⟨s, p, amount, accepted, accepts, limit, unordered, metric, selected, total⟩ :
      ∃ (s : Sql.Select) (p : SqlaTable) (amount : Sql.Expr),
      SqlBuilder.buildSelect SqlBuilder.twoDatabases (summed "k" (some "SUM")) = .ok (s, p) ∧
      s.fromAccepted = true ∧ s.limit = 1000 ∧ s.orderBy = [] ∧
      s.columns[1]? = some ⟨"SUM(v)", .aggregate .sum amount⟩ ∧
      s.selected SqlBuilder.firstRowEngine
        (fun t => threes (SqlBuilder.plainQuery.databases.resolve p.databaseId t)) =
          [[.number 3, .number 3]] ∧
      (Sql.Output.aggregate .sum amount).eval SqlBuilder.firstRowEngine
        (s.sourceRows SqlBuilder.firstRowEngine
          (fun t => threes (SqlBuilder.plainQuery.databases.resolve p.databaseId t))) = .number 3 :=
    ⟨_, _, _, rfl, by decide, rfl, rfl, rfl, by decide +kernel, by decide +kernel⟩
  have run := Sql.Select.run_unordered (E := SqlBuilder.plainQuery.engine p.databaseId)
    (fun t => threes (SqlBuilder.plainQuery.databases.resolve p.databaseId t))
    accepts (by omega) unordered
  have names : SqlBuilder.dedupNames [] (normalizeDefinition (summed "k" (some "SUM"))).outputLabels =
      ["k", "SUM(v)"] := by decide
  have ran := (SqlBuilder.executeReport_ok (Q := SqlBuilder.plainQuery) accepted).mpr ⟨_, run, rfl⟩
  have rows : (s.selected (SqlBuilder.plainQuery.engine p.databaseId)
      (fun t => threes (SqlBuilder.plainQuery.databases.resolve p.databaseId t))).take s.limit.toNat =
        [[.number 3, .number 3]] := by
    rw [limit]
    exact congrArg (List.take 1000) selected
  rw [names, rows] at ran
  have typed : ∀ name, (threesRow.get name).map Value.cell =
      (SqlBuilder.recordOf ["k", "SUM(v)"] [.number 3, .number 3]).get name := by
    intro name
    by_cases sum : name = "SUM(v)"
    · simp [threesRow, SqlBuilder.recordOf, sum, Value.cell]
    · by_cases field : name = "k"
      · simp [threesRow, SqlBuilder.recordOf, field, Value.cell]
      · simp [threesRow, SqlBuilder.recordOf, sum, field]
  have band : (aggregateRows ["k", "SUM(v)"] [threesRow]
      (metricIdx (summed "k" (some "SUM")) ["k", "SUM(v)"])).2 = [.caption, .blank, .amount 3] := by
    decide +kernel
  refine ⟨s, p, _, accepted, ran, .cons typed .nil, rfl, band, fun shown => ?_⟩
  obtain ⟨cell, there, shows⟩ := shown 1 _ metric ⟨_, _, rfl⟩
  have blank : some TotalCell.blank = some cell := (congrArg (fun cells => cells[1]?) band).symm.trans there
  cases blank
  exact absurd (total.symm.trans shows) (by decide)

end XpBuilder.Pdf
