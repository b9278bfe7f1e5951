import Mathlib.Data.List.Induction
import XpBuilder.Library.Lists
import XpBuilder.Publish.Charts
import XpBuilder.Report.Labels
import XpBuilder.Report.RowSecurity

/-! When the charts of a report mean what its metrics mean. A row of the report is already
an aggregate, and the chart aggregates it again with SUM, or with AVG for an average: for
each aggregate it is said which groups of rows survive that. -/

namespace XpBuilder.Publish
open Sql (Cell Engine Contents Select Env Output Aggregate)
open PythonText (truthy strip)

/-! ## Reading the registered expressions -/

theorem quotedName_closed (name : String) : quotedName (name.toList ++ [tick, ')']) =
    if tick ∈ name.toList then none else some name := by
  have length : (name.toList ++ [tick, ')']).length - 2 = name.toList.length := by simp
  simp only [quotedName, length, List.drop_left, List.take_left, true_and]
  by_cases inside : tick ∈ name.toList <;> simp [inside]

theorem tick_closed : "`)".toList = [tick, ')'] := by decide

/-- The expression that is registered for a label. -/
def expressionFor (a : Aggregate) (label : String) : String :=
  if a = .avg then "AVG(`" ++ label ++ "`)" else "SUM(`" ++ label ++ "`)"

def metricFor (a : Aggregate) (label : String) : ChartMetric :=
  if a = .avg then .avg label else .sum label

/-- What is read behind the name of a function of three letters. -/
theorem readMetric_closed {expression word label : String} (five : word.toList.length = 5)
    (shape : expression.toList = word.toList ++ (label.toList ++ [tick, ')']))
    (word_ne : word.toList ≠ "COUNT".toList) (ticks : Bool) : readMetric ticks expression =
      if ticks = true ∧ tick ∉ label.toList then
        if word.toList = "SUM(`".toList then some (.sum label)
        else if word.toList = "AVG(`".toList then some (.avg label) else none
      else none := by
  have head : expression.toList.take 5 = word.toList := by rw [shape, ← five, List.take_left]
  have rest : expression.toList.drop 5 = label.toList ++ [tick, ')'] := by
    rw [shape, ← five, List.drop_left]
  have other : expression.toList ≠ "COUNT(*)".toList := by
    intro same
    apply word_ne
    rw [← head, same]
    decide
  simp only [readMetric, if_neg other, head, rest, quotedName_closed]
  -- the two words stay closed
  generalize "SUM(`".toList = sumWord
  generalize "AVG(`".toList = avgWord
  cases ticks
  · simp
  · by_cases inside : tick ∈ label.toList <;> simp [inside]

theorem readMetric_expressionFor (ticks : Bool) (a : Aggregate) (label : String) :
    readMetric ticks (expressionFor a label) =
      if ticks = true ∧ tick ∉ label.toList then some (metricFor a label) else none := by
  unfold expressionFor metricFor
  by_cases avg : a = .avg
  · have shape : ("AVG(`" ++ label ++ "`)").toList = "AVG(`".toList ++ (label.toList ++ [tick, ')']) := by
      rw [String.toList_append, String.toList_append, tick_closed, List.append_assoc]
    rw [if_pos avg, if_pos avg, readMetric_closed (by decide) shape (by decide),
      if_neg (by decide : "AVG(`".toList ≠ "SUM(`".toList), if_pos rfl]
  · have shape : ("SUM(`" ++ label ++ "`)").toList = "SUM(`".toList ++ (label.toList ++ [tick, ')']) := by
      rw [String.toList_append, String.toList_append, tick_closed, List.append_assoc]
    rw [if_neg avg, if_neg avg, readMetric_closed (by decide) shape (by decide), if_pos rfl]

/-! ## What is registered -/

/-- The metric that `_ensure_metrics` wants for a metric of the report. -/
def wantedEntry (m : MetricEntry) : Option (String × String) :=
  let label := strip (m.label.getD "")
  if label = "" then none
  else some (label,
    if m.aggregateName = "AVG" then "AVG(`" ++ label ++ "`)" else "SUM(`" ++ label ++ "`)")

theorem wantedMetrics_eq (d : Definition) : wantedMetrics d =
    (Dict.empty.set "count" "COUNT(*)").setAll (d.metrics.filterMap wantedEntry) := by
  unfold wantedMetrics
  generalize (Dict.empty.set "count" "COUNT(*)" : Dict String String) = start
  induction d.metrics generalizing start with
  | nil => rfl
  | cons m rest ih =>
    rw [List.foldl_cons, ih]
    unfold wantedEntry
    by_cases blank : strip (m.label.getD "") = ""
    · simp [blank]
    · simp [blank, Dict.setAll]

/-- Every name that is wanted is stripped. -/
theorem strip_of_wanted {d : Definition} {label expression : String}
    (wanted : (wantedMetrics d).get label = some expression) : strip label = label := by
  rw [wantedMetrics_eq] at wanted
  by_cases named : label ∈ (d.metrics.filterMap wantedEntry).map Prod.fst
  · obtain ⟨entry, there, rfl⟩ := List.mem_map.mp named
    obtain ⟨m, -, made⟩ := List.mem_filterMap.mp there
    unfold wantedEntry at made
    rw [Option.ite_none_left_eq_some, Option.some.injEq] at made
    rw [← made.2]
    exact PythonText.strip_strip _
  · rw [Dict.get_setAll_of_not_mem named, Dict.get_set, Dict.get_empty,
      Option.ite_none_right_eq_some] at wanted
    rw [wanted.1]
    decide

theorem find?_ensureMetric (name expression label : String) (ms : List SqlMetric) :
    ((ensureMetric name expression ms).find? (fun m => m.metricName = label)).map SqlMetric.expression =
      if label = name then some expression
      else (ms.find? (fun m => m.metricName = label)).map SqlMetric.expression := by
  induction ms with
  | nil =>
    by_cases same : label = name
    · simp [ensureMetric, same]
    · simp [ensureMetric, same, Ne.symm same]
  | cons m rest ih =>
    unfold ensureMetric
    by_cases here : m.metricName = name
    · by_cases same : label = name
      · simp [here, same]
      · simp [here, same, Ne.symm same]
    · rw [if_neg here, List.find?_cons, List.find?_cons]
      by_cases found : m.metricName = label
      · have apart : label ≠ name := fun same => here (found.trans same)
        simp [found, apart]
      · simp only [found, decide_false, ih]

/-- The dataset's metric of a wanted name has the wanted expression. -/
theorem publishedExpression_of_wanted {d : Definition} (t : SqlaTable) {label expression : String}
    (wanted : (wantedMetrics d).get label = some expression) :
    publishedExpression d t label = some expression := by
  have entry := (Dict.get_eq_some_iff _ _ _).mp wanted
  have distinct := (wantedMetrics d).distinct
  unfold publishedExpression registerMetrics
  generalize (wantedMetrics d).entries = es at entry distinct
  generalize t.metrics = ms
  induction es using List.reverseRecOn with
  | nil => cases entry
  | append_singleton es e ih =>
    rw [List.foldl_append, List.foldl_cons, List.foldl_nil, find?_ensureMetric]
    rw [List.map_append, List.nodup_append] at distinct
    cases List.mem_append.mp entry with
    | inl before =>
      have apart : label ≠ e.1 := by
        apply distinct.2.2 label (List.mem_map_of_mem before) e.1
        simp
      rw [if_neg apart]
      exact ih before distinct.1
    | inr last =>
      rw [List.mem_singleton] at last
      rw [← last, if_pos rfl]

/-- The label by which a chart can ask for the metric. -/
def Addressable (m : MetricEntry) : Prop :=
  ∃ label, m.label = some label ∧ label ≠ "" ∧ strip label = label

theorem aggregation_avg_iff {word : String} {a : Aggregate}
    (known : SqlBuilder.aggregation word = some a) : word = "AVG" ↔ a = .avg := by
  unfold SqlBuilder.aggregation at known
  split at known
  case h_7 => cases known
  all_goals
    cases known
    decide

theorem wantedEntry_of_addressable {m : MetricEntry} (addressable : Addressable m) {a : Aggregate}
    (known : SqlBuilder.aggregation m.aggregateName = some a) :
    wantedEntry m = some (m.outputLabel, expressionFor a m.outputLabel) := by
  obtain ⟨label, named, nonempty, stripped⟩ := addressable
  have output : m.outputLabel = label := by
    rw [MetricEntry.outputLabel, named, PythonText.orElse_some nonempty]
  have avg := aggregation_avg_iff known
  simp only [wantedEntry, named, Option.getD_some, stripped, nonempty, if_false, output, expressionFor,
    avg]

/-- With distinct labels each metric is registered under its own. -/
theorem wanted_of_addressable {d : Definition} (addressable : ∀ m ∈ d.metrics, Addressable m)
    (known : ∀ m ∈ d.metrics, ∃ a, SqlBuilder.aggregation m.aggregateName = some a)
    (distinct : (d.metrics.map MetricEntry.outputLabel).Nodup) {m : MetricEntry} (mem : m ∈ d.metrics)
    {a : Aggregate} (aggregate : SqlBuilder.aggregation m.aggregateName = some a) :
    (wantedMetrics d).get m.outputLabel = some (expressionFor a m.outputLabel) := by
  have keys : (d.metrics.filterMap wantedEntry).map Prod.fst = d.metrics.map MetricEntry.outputLabel := by
    rw [List.map_filterMap]
    have all : ∀ n ∈ d.metrics, (wantedEntry n).map Prod.fst = some n.outputLabel := by
      intro n there
      obtain ⟨b, aggregate'⟩ := known n there
      rw [wantedEntry_of_addressable (addressable n there) aggregate']
      rfl
    rw [List.filterMap_congr all, List.filterMap_eq_map']
  have entry : (m.outputLabel, expressionFor a m.outputLabel) ∈ d.metrics.filterMap wantedEntry :=
    List.mem_filterMap.mpr ⟨m, mem, wantedEntry_of_addressable (addressable m mem) aggregate⟩
  rw [wantedMetrics_eq]
  exact Dict.get_setAll_of_mem (keys ▸ distinct) entry _

/-! ## Aggregating again -/

/-- The aggregate that the registered expression applies to the rows of the report. -/
def again (a : Aggregate) : Aggregate := if a = .avg then .avg else .sum

/-- When the aggregates of the groups of cells, aggregated again, are the aggregate of all. -/
def Balanced (E : Engine) (gs : List (List Cell)) : Aggregate → Prop
  | .sum => True
  | .count => gs ≠ []
  | .countDistinct => gs ≠ [] ∧ (gs.map Sql.nonNull).Pairwise List.Disjoint
  | .min => Sql.RestCancels E List.min? (Sql.nonNull (gs.map (Aggregate.min.eval E)))
  | .max => Sql.RestCancels E List.max? (Sql.nonNull (gs.map (Aggregate.max.eval E)))
  | .avg => Sql.Uncorrelated E gs

theorem again_eval_iff (E : Engine) (a : Aggregate) (gs : List (List Cell)) :
    (again a).eval E (gs.map (a.eval E)) = a.eval E gs.flatten ↔ Balanced E gs a := by
  cases a with
  | sum => exact iff_of_true (Sql.sum_regroup E gs) trivial
  | avg => exact Sql.avg_regroup_iff E gs
  | count => exact Sql.count_regroup_iff E gs
  | countDistinct => exact Sql.countDistinct_regroup_iff E gs
  | min => exact Sql.min_regroup_iff E gs
  | max => exact Sql.max_regroup_iff E gs

theorem metricFor_eval (E : Engine) (labels : List String) (rows : List (List Cell)) (a : Aggregate)
    (label : String) : (metricFor a label).eval E labels rows =
      (again a).eval E (rows.map (outputCell labels label)) := by
  unfold metricFor again
  split <;> rfl

/-! ## Rows of the report and rows of its sources -/

theorem outputCell_map (columns : List Sql.SelectColumn) (f : Sql.SelectColumn → Cell) (name : String) :
    outputCell (columns.map Sql.SelectColumn.label) name (columns.map f) =
      ((columns.find? (fun c => c.label = name)).map f).getD .null := by
  unfold outputCell
  induction columns with
  | nil => rfl
  | cons c rest ih =>
    rw [List.map_cons, List.map_cons, List.zip_cons_cons, List.lookup_cons, List.find?_cons]
    by_cases same : c.label = name
    · simp [same]
    · have other : (name == c.label) = false := beq_eq_false_iff_ne.mpr (Ne.symm same)
      simp only [other, same, decide_false]
      exact ih

section Rows
variable (E : Engine) (tables : Contents) (s : Select) (groupby : List String)

theorem outputCell_outputRow {c : Sql.SelectColumn} (distinct : (labelsOf s).Nodup) (mem : c ∈ s.columns)
    (group : List Env) :
    outputCell (labelsOf s) c.label (s.outputRow E group) = c.body.eval E group := by
  have found : s.columns.find? (fun b => b.label = c.label) = some c :=
    Lists.find?_key Sql.SelectColumn.label distinct mem
  rw [labelsOf, Select.outputRow, outputCell_map, found]
  rfl

/-- The source rows behind a row of the report fall in the group that it falls in. -/
def Uniform : Prop := ∀ u ∈ s.units E (s.sourceRows E tables), ∀ env ∈ u,
  groupby.map (sourceValue E s env) = groupKey (labelsOf s) groupby (s.outputRow E u)

/-- The rows of the report in a group of the chart, each with the source rows behind it. -/
def unitsIn (key : List Cell) : List (List Env) :=
  (s.units E (s.sourceRows E tables)).filter (fun u =>
    groupKey (labelsOf s) groupby (s.outputRow E u) = key)

/-- The values of an expression behind each row of the report in the group. -/
def cellsBehind (e : Sql.Expr) (key : List Cell) : List (List Cell) :=
  (unitsIn E tables s groupby key).map (fun u => u.map (fun env => e.eval E env))

end Rows

section Groups
variable {E : Engine} {tables : Contents} {s : Select} {groupby : List String}

theorem rowsIn_perm (uniform : Uniform E tables s groupby) (key : List Cell) :
    (rowsIn E tables s groupby key).Perm (unitsIn E tables s groupby key).flatten := by
  have parted := (s.units_flatten_perm E (s.sourceRows E tables)).symm.filter
    (fun env => groupby.map (sourceValue E s env) = key)
  have whole : ∀ units : List (List Env), (∀ u ∈ units, ∀ env ∈ u,
      groupby.map (sourceValue E s env) = groupKey (labelsOf s) groupby (s.outputRow E u)) →
      units.flatten.filter (fun env => groupby.map (sourceValue E s env) = key) =
        (units.filter (fun u => groupKey (labelsOf s) groupby (s.outputRow E u) = key)).flatten := by
    intro units
    induction units with
    | nil => exact fun _ => rfl
    | cons u rest ih =>
      intro same
      rw [List.flatten_cons, List.filter_append, ih (fun v there => same v (List.mem_cons_of_mem u there))]
      have here := same u List.mem_cons_self
      by_cases falls : groupKey (labelsOf s) groupby (s.outputRow E u) = key
      · rw [List.filter_cons_of_pos (by simpa using falls), List.flatten_cons]
        congr 1
        exact List.filter_eq_self.mpr (fun env mem => by simp [here env mem, falls])
      · rw [List.filter_cons_of_neg (by simpa using falls)]
        have none : u.filter (fun env => groupby.map (sourceValue E s env) = key) = [] :=
          List.filter_eq_nil_iff.mpr (fun env mem => by simp [here env mem, falls])
        rw [none, List.nil_append]
  unfold rowsIn unitsIn
  rw [← whole _ uniform]
  exact parted

theorem meaning_eq (uniform : Uniform E tables s groupby) (a : Aggregate) (e : Sql.Expr) (key : List Cell) :
    (Output.aggregate a e).eval E (rowsIn E tables s groupby key) =
      a.eval E (cellsBehind E tables s groupby e key).flatten := by
  have values := (rowsIn_perm uniform key).map (fun env => e.eval E env)
  rw [Output.eval, a.eval_perm E values, List.map_flatten]
  rfl

theorem charted_eq {rows : List (List Cell)} (result : rows.Perm (s.selected E tables))
    (distinct : (labelsOf s).Nodup) {c : Sql.SelectColumn} (mem : c ∈ s.columns) {a : Aggregate}
    {e : Sql.Expr} (body : c.body = .aggregate a e) (key : List Cell) :
    (metricFor a c.label).eval E (labelsOf s)
        (rows.filter (fun cells => groupKey (labelsOf s) groupby cells = key)) =
      (again a).eval E ((cellsBehind E tables s groupby e key).map (a.eval E)) := by
  rw [metricFor_eval]
  apply Aggregate.eval_perm
  have kept := (result.filter (fun cells => groupKey (labelsOf s) groupby cells = key)).map
    (outputCell (labelsOf s) c.label)
  have cells : ((s.selected E tables).filter (fun cells => groupKey (labelsOf s) groupby cells = key)).map
      (outputCell (labelsOf s) c.label) = (cellsBehind E tables s groupby e key).map (a.eval E) := by
    unfold Select.selected cellsBehind unitsIn
    rw [List.filter_map, List.map_map, List.map_map]
    apply List.map_congr_left
    intro u _
    simp only [Function.comp_apply]
    rw [outputCell_outputRow E s distinct mem, body]
    rfl
  rw [cells] at kept
  exact kept

/-- A chart that groups by columns of the report's own grouping. -/
theorem uniform_of_grouped {keys : List Sql.Expr} (groups : s.groupBy = some keys)
    (grouped : ∀ name ∈ groupby, ∃ c x, s.columns.find? (fun c => c.label = name) = some c ∧
      c.body = .plain x ∧ x ∈ keys) : Uniform E tables s groupby := by
  intro u unit env mem
  apply List.map_congr_left
  intro name asked
  obtain ⟨c, x, found, body, key⟩ := grouped name asked
  have picked : E.pick u ∈ u := E.pick_mem u (List.ne_nil_of_mem mem)
  have agree : ∀ env ∈ u, ∀ env' ∈ u, x.eval E env = x.eval E env' := by
    unfold Select.units at unit
    rw [groups] at unit
    cases keys with
    | nil => cases key
    | cons k ks =>
      obtain ⟨values, -, rfl⟩ := List.mem_map.mp unit
      intro e he e' he'
      have left := (List.mem_filter.mp he).2
      have right := (List.mem_filter.mp he').2
      rw [decide_eq_true_eq] at left right
      exact List.map_inj_left.mp (left.trans right.symm) x key
  have row : outputCell (labelsOf s) name (s.outputRow E u) = x.eval E (E.pick u) := by
    rw [labelsOf, Select.outputRow, outputCell_map, found, Option.map_some, body]
    rfl
  rw [row, sourceValue, found, Option.map_some, body]
  exact agree env mem _ picked

/-- A chart with a grouping has no group without a row of the report. -/
theorem unitsIn_ne_nil {rows : List (List Cell)} (result : rows.Perm (s.selected E tables))
    (grouped : groupby ≠ []) {key : List Cell} (mem : key ∈ chartKeys (labelsOf s) groupby rows) :
    unitsIn E tables s groupby key ≠ [] := by
  rw [chartKeys, if_neg grouped, List.mem_dedup] at mem
  obtain ⟨cells, there, falls⟩ := List.mem_map.mp mem
  obtain ⟨u, unit, rfl⟩ := List.mem_map.mp (result.mem_iff.mp there)
  exact List.ne_nil_of_mem (List.mem_filter.mpr ⟨unit, by simpa using falls⟩)

/-- The chart of a metric shows what the metric means if and only if every group of it is
balanced. -/
theorem chart_eq_iff (uniform : Uniform E tables s groupby) {rows : List (List Cell)}
    (result : rows.Perm (s.selected E tables)) (ticks : Bool) {c : Sql.SelectColumn} (mem : c ∈ s.columns)
    {a : Aggregate} {e : Sql.Expr} (body : c.body = .aggregate a e) :
    chart ticks E (labelsOf s) groupby rows (expressionFor a c.label) =
        some ((chartKeys (labelsOf s) groupby rows).map (fun key =>
          (key, c.body.eval E (rowsIn E tables s groupby key)))) ↔
      (ticks = true ∧ tick ∉ c.label.toList) ∧ ((labelsOf s).Nodup ∧ ∀ name ∈ groupby, name ∈ labelsOf s) ∧
        ∀ key ∈ chartKeys (labelsOf s) groupby rows,
          Balanced E (cellsBehind E tables s groupby e key) a := by
  have shown : ∀ name ∈ (metricFor a c.label).columns, name ∈ labelsOf s := by
    intro name there
    have own : name = c.label := by
      unfold metricFor at there
      split at there <;> simpa [ChartMetric.columns] using there
    exact own ▸ List.mem_map_of_mem mem
  unfold chart
  rw [readMetric_expressionFor]
  by_cases readable : ticks = true ∧ tick ∉ c.label.toList
  · rw [if_pos readable]
    by_cases accepted : (labelsOf s).Nodup ∧ ∀ name ∈ groupby, name ∈ labelsOf s
    · have each : ∀ key, (metricFor a c.label).eval E (labelsOf s)
          (rows.filter (fun cells => groupKey (labelsOf s) groupby cells = key)) =
            c.body.eval E (rowsIn E tables s groupby key) ↔
          Balanced E (cellsBehind E tables s groupby e key) a := by
        intro key
        rw [charted_eq result accepted.1 mem body, body, meaning_eq uniform, again_eval_iff]
      simp only [if_pos (⟨accepted.1, accepted.2, shown⟩ : _ ∧ _ ∧ _), Option.some.injEq]
      rw [List.map_inj_left]
      simp only [Prod.mk.injEq, true_and, each]
      exact ⟨fun all => ⟨readable, accepted, all⟩, fun all => all.2.2⟩
    · have refused : ¬((labelsOf s).Nodup ∧ (∀ name ∈ groupby, name ∈ labelsOf s) ∧
          ∀ name ∈ (metricFor a c.label).columns, name ∈ labelsOf s) :=
        fun all => accepted ⟨all.1, all.2.1⟩
      simp only [if_neg refused]
      exact iff_of_false (by simp) (fun all => accepted all.2.1)
  · rw [if_neg readable]
    exact iff_of_false (by simp) (fun all => readable all.1)

end Groups

/-! ## Reports -/

/-- What a chart that is answered needs. -/
theorem accepted_of_chart {ticks : Bool} {E : Engine} {labels groupby : List String}
    {rows : List (List Cell)} {expression : String} {shown : List (List Cell × Cell)}
    (answered : chart ticks E labels groupby rows expression = some shown) :
    labels.Nodup ∧ ∀ name ∈ groupby, name ∈ labels := by
  unfold chart at answered
  split at answered
  · cases answered
  · rw [Option.ite_none_right_eq_some] at answered
    exact ⟨answered.1.1, answered.1.2.1⟩

/-- What the metrics of a report, its columns and the rows behind the groups of its chart
must be like for the charts to keep their meaning. -/
def SurvivesChart (ticks : Bool) (E : Engine) (tables : Contents) (bound : SqlBuilder.Tables) (s : Select)
    (rows : List (List Cell)) (groupby : List String) (m : MetricEntry) : Prop :=
  Addressable m ∧ ∀ a e, SqlBuilder.aggregation m.aggregateName = some a →
    SqlBuilder.exprOf bound m.dataset m.column = .ok e →
    (ticks = true ∧ tick ∉ m.outputLabel.toList) ∧
      ((labelsOf s).Nodup ∧ ∀ name ∈ groupby, name ∈ labelsOf s) ∧
      ∀ key ∈ chartKeys (labelsOf s) groupby rows, Balanced E (cellsBehind E tables s groupby e key) a

section Report
variable {env : BuildEnv} {d : Definition} {bound : SqlBuilder.Tables} {first : Nat} {s : Select}
  {p : SqlaTable} {ticks : Bool} {E : Engine} {tables : Contents} {rows : List (List Cell)}
  {t : SqlaTable} {groupby : List String}

theorem keepsMeaning_iff_survives (accepted : SqlBuilder.Accepted env d bound first s p)
    (uniform : Uniform E tables s groupby) (result : rows.Perm (s.selected E tables)) :
    KeepsMeaning ticks E tables bound s rows d t groupby ↔
      ∀ m ∈ d.metrics, SurvivesChart ticks E tables bound s rows groupby m := by
  obtain ⟨dimensions, metrics, columns, -, built⟩ := accepted.columns
  have made : ∀ m ∈ d.metrics, ∃ c ∈ s.columns, SqlBuilder.metric bound m = .ok c := by
    intro m mem
    obtain ⟨c, there, ok⟩ := Fallible.ok_of_mapM built mem
    exact ⟨c, columns ▸ List.mem_append_right _ there, ok⟩
  have known : ∀ m ∈ d.metrics, ∃ a, SqlBuilder.aggregation m.aggregateName = some a := by
    intro m mem
    obtain ⟨c, -, ok⟩ := made m mem
    obtain ⟨a, -, aggregate, -, -⟩ := SqlBuilder.metric_ok.mp ok
    exact ⟨a, aggregate⟩
  have distinct : (labelsOf s).Nodup → (d.metrics.map MetricEntry.outputLabel).Nodup := by
    intro all
    rw [labelsOf, columns, List.map_append, List.nodup_append] at all
    rw [← SqlBuilder.labels_of_mapM SqlBuilder.metric_label built]
    exact all.2.1
  constructor
  · intro keeps
    have addressable : ∀ m ∈ d.metrics, Addressable m := by
      intro m mem
      obtain ⟨c, -, ok⟩ := made m mem
      obtain ⟨label, expression, named, wanted, -, -⟩ := keeps m mem c ok
      obtain ⟨written, nonempty⟩ := PythonText.truthy_eq_some named
      exact ⟨label, written, nonempty, strip_of_wanted wanted⟩
    intro m mem
    refine ⟨addressable m mem, fun a e aggregate expr => ?_⟩
    obtain ⟨c, there, ok⟩ := made m mem
    obtain ⟨label, expression, named, wanted, -, answered⟩ := keeps m mem c ok
    obtain ⟨written, nonempty⟩ := PythonText.truthy_eq_some named
    have output : m.outputLabel = label := by
      rw [MetricEntry.outputLabel, written, PythonText.orElse_some nonempty]
    have single := distinct (accepted_of_chart answered).1
    have own := wanted_of_addressable addressable known single mem aggregate
    rw [output, wanted, Option.some.injEq] at own
    have shape : c = ⟨m.outputLabel, .aggregate a e⟩ := by
      have whole := SqlBuilder.metric_ok.mpr ⟨a, e, aggregate, expr, rfl⟩
      rw [ok] at whole
      exact Except.ok.inj whole
    subst shape
    rw [own, ← output] at answered
    exact (chart_eq_iff uniform result ticks there rfl).mp answered
  · intro survives m mem c ok
    obtain ⟨a, e, aggregate, expr, rfl⟩ := SqlBuilder.metric_ok.mp ok
    obtain ⟨⟨label, written, nonempty, stripped⟩, conditions⟩ := survives m mem
    have needs := conditions a e aggregate expr
    have output : m.outputLabel = label := by
      rw [MetricEntry.outputLabel, written, PythonText.orElse_some nonempty]
    have wanted := wanted_of_addressable (fun n there => (survives n there).1) known
      (distinct needs.2.1.1) mem aggregate
    have there : (⟨m.outputLabel, .aggregate a e⟩ : Sql.SelectColumn) ∈ s.columns := by
      obtain ⟨c', inside, ok'⟩ := made m mem
      rw [ok] at ok'
      exact Except.ok.inj ok' ▸ inside
    refine ⟨m.outputLabel, expressionFor a m.outputLabel, ?_, wanted, ?_, ?_⟩
    · rw [output, written]
      simp [truthy, nonempty]
    · exact publishedExpression_of_wanted t wanted
    · exact (chart_eq_iff uniform result ticks there rfl).mpr needs

end Report

def salesEnv : BuildEnv where
  find id := if id = 1 then some ⟨1, none, none, "sales", none, [], [], none⟩ else none
  reflect _ := some ["region", "amount"]
  reflect_ne := by simp

/-- Metrics for each region. -/
def byRegion (metrics : List MetricEntry) : RawDefinition where
  version := some 1
  datasets := some [⟨1, some "d1"⟩]
  relationships := none
  columns := some [⟨1, "region", some "Region"⟩]
  metrics := some metrics
  groupBy := none
  filters := none
  orderBy := none
  limit := some 1000

def sale (region : String) (amount : ℚ) : Sql.Row :=
  fun name => if name = "region" then .text region else .number amount

def sales : Contents := fun _ => [sale "north" 1, sale "north" 2, sale "south" 5]

/-- The dataset of the report with the columns that it has. -/
def salesDataset (columns : List String) : SqlaTable :=
  ⟨1, none, none, "rd_1_sales", some "SELECT ...", columns.map (fun n => ⟨n, none, none, false⟩), [], none⟩

def totals : RawDefinition :=
  byRegion [⟨1, "amount", some "SUM", some "Total"⟩, ⟨1, "amount", some "COUNT", some "Sales"⟩]

def pieByRegion : List String :=
  publishedGroupby "pie" ⟨"Pie", .aggregate, "pie", false⟩ 2 (salesDataset ["Region", "Total", "Sales"])
    (normalizeDefinition totals)

/-- The largest amount of each region. -/
def peaks : RawDefinition := byRegion [⟨1, "amount", some "MAX", some "Peak"⟩]

end XpBuilder.Publish
