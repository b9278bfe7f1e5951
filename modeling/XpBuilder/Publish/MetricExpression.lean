import XpBuilder.Library.SqlIdentifiers
import XpBuilder.Publish.MetricMeaning

/-! The expression of a published metric in the dialect of the database. The name of the output
column is put between backticks as it is, whatever the dialect and whatever is in the name. -/

namespace XpBuilder.Publish
open PythonText (truthy strip)
open SqlIdentifiers (Quoting Dialect Encloses readCall)

/-! ## Dialects -/

/-- MySQL and MariaDB: between backticks, a doubled one stands for one. -/
def mysql : Dialect := fun mark =>
  if mark = tick then some ⟨tick, true, none, id, by simp⟩ else none

/-- PostgreSQL: between double quotes. -/
def postgresql : Dialect := fun mark =>
  if mark = '"' then some ⟨'"', true, none, id, by simp⟩ else none

/-- BigQuery: between backticks, with a backslash before what would end the name. -/
def bigquery : Dialect := fun mark =>
  if mark = tick then some ⟨tick, false, some '\\', id, by decide⟩ else none

/-! ## Labels -/

/-- The metrics of the definition that are registered. -/
def Named (m : MetricEntry) : Prop := strip (m.label.getD "") ≠ ""

theorem wantedEntry_of_named {m : MetricEntry} (named : Named m) :
    ∃ a, wantedEntry m = some (strip (m.label.getD ""), expressionFor a (strip (m.label.getD ""))) := by
  unfold wantedEntry expressionFor
  by_cases avg : m.aggregateName = "AVG"
  · exact ⟨.avg, by simp only [if_neg named, avg, if_true]⟩
  · exact ⟨.sum, by simp only [if_neg named, avg, if_false, reduceCtorEq]⟩

/-- What is registered under the label of a metric is made for this or for another of the label. -/
theorem published_of_named {d : Definition} (t : SqlaTable) {m : MetricEntry} (mem : m ∈ d.metrics)
    (named : Named m) :
    ∃ a, publishedExpression d t (strip (m.label.getD "")) = some (expressionFor a (strip (m.label.getD ""))) := by
  obtain ⟨a, own⟩ := wantedEntry_of_named named
  have present : strip (m.label.getD "") ∈ (d.metrics.filterMap wantedEntry).map Prod.fst :=
    List.mem_map.mpr ⟨_, List.mem_filterMap.mpr ⟨m, mem, own⟩, rfl⟩
  obtain ⟨expression, there, got⟩ := Dict.exists_get_setAll present (Dict.empty.set "count" "COUNT(*)")
  rw [← wantedMetrics_eq] at got
  obtain ⟨n, -, made⟩ := List.mem_filterMap.mp there
  have namedN : Named n := by
    intro blank
    simp [wantedEntry, blank] at made
  obtain ⟨b, entry⟩ := wantedEntry_of_named namedN
  rw [entry, Option.some.injEq, Prod.mk.injEq] at made
  refine ⟨b, ?_⟩
  rw [publishedExpression_of_wanted t got, ← made.2, made.1]

theorem outputLabel_of_named {m : MetricEntry} (named : Named m) : m.outputLabel = m.label.getD "" := by
  unfold Named at named
  unfold MetricEntry.outputLabel
  cases label : m.label with
  | none =>
    rw [label] at named
    exact absurd (by decide) named
  | some l =>
    have nonempty : l ≠ "" := by
      rintro rfl
      rw [label] at named
      exact named (by decide)
    rw [PythonText.orElse_some nonempty, Option.getD_some]

theorem length_strip_le (s : String) : (strip s).toList.length ≤ s.toList.length := by
  unfold strip PythonText.stripChars
  rw [String.toList_ofList, List.length_reverse]
  have back := (List.dropWhile_sublist PythonText.isSpace (l := (s.toList.dropWhile PythonText.isSpace).reverse)).length_le
  have front := (List.dropWhile_sublist PythonText.isSpace (l := s.toList)).length_le
  rw [List.length_reverse] at back
  omega

/-! ## Reading a registered expression -/

/-- The expression that the dataset has under the label of the metric is one aggregate, in the
dialect, of the column that the report puts out for the metric. -/
def DenotesColumn (D : Dialect) (d : Definition) (t : SqlaTable) (m : MetricEntry) : Prop :=
  ∃ expression call, publishedExpression d t (strip (m.label.getD "")) = some expression ∧
    readCall D expression.toList = some call ∧ String.ofList call.argument = m.outputLabel

theorem readCall_expressionFor {D : Dialect} (a : Sql.Aggregate) {label : String} {name : List Char}
    (long : label.toList.length ≤ name.length) :
    (∃ call, readCall D (expressionFor a label).toList = some call ∧ call.argument = name) ↔
      Encloses D tick label.toList ∧ name = label.toList := by
  have written : ∀ {word : List Char} {opening : String}, opening.toList = word ++ '(' :: [tick] →
      (opening ++ label ++ "`)").toList = word ++ '(' :: tick :: (label.toList ++ [tick, ')']) := by
    intro word opening opens
    rw [String.toList_append, String.toList_append, tick_closed, opens]
    simp only [List.append_assoc, List.cons_append, List.nil_append]
  have shape : ∃ word : List Char, (∀ c ∈ word, c.isAlpha = true) ∧
      word.map Char.toUpper ∈ SqlIdentifiers.aggregates ∧
      (expressionFor a label).toList = word ++ '(' :: tick :: (label.toList ++ [tick, ')']) := by
    unfold expressionFor
    by_cases avg : a = .avg
    · refine ⟨['A', 'V', 'G'], Lists.forall_mem_of_all (by decide), by decide, ?_⟩
      rw [if_pos avg]
      exact written (by decide)
    · refine ⟨['S', 'U', 'M'], Lists.forall_mem_of_all (by decide), by decide, ?_⟩
      rw [if_neg avg]
      exact written (by decide)
  obtain ⟨word, letters, known, text⟩ := shape
  rw [text]
  exact SqlIdentifiers.readCall_quoted letters known (by decide) (by decide) long

theorem denotesColumn_iff_encloses {D : Dialect} {d : Definition} {t : SqlaTable} {m : MetricEntry}
    (mem : m ∈ d.metrics) (named : Named m) :
    DenotesColumn D d t m ↔
      Encloses D tick (m.label.getD "").toList ∧ strip (m.label.getD "") = m.label.getD "" := by
  obtain ⟨a, published⟩ := published_of_named t mem named
  have read := readCall_expressionFor (D := D) a (length_strip_le (m.label.getD ""))
  have same : (m.label.getD "").toList = (strip (m.label.getD "")).toList ↔
      strip (m.label.getD "") = m.label.getD "" := by
    rw [String.toList_inj]
    exact eq_comm
  rw [same] at read
  have argument : ∀ cs : List Char, String.ofList cs = m.label.getD "" ↔ cs = (m.label.getD "").toList := by
    intro cs
    rw [← String.toList_inj, String.toList_ofList]
  unfold DenotesColumn
  simp only [published, Option.some.injEq, outputLabel_of_named named, argument, exists_and_left, exists_eq_left']
  rw [read]
  constructor
  · rintro ⟨encloses, stripped⟩
    exact ⟨stripped ▸ encloses, stripped⟩
  · rintro ⟨encloses, stripped⟩
    exact ⟨stripped.symm ▸ encloses, stripped⟩

/-- Every metric expression of the definition denotes its column. -/
def DenotesColumns (D : Dialect) (d : Definition) (t : SqlaTable) : Prop :=
  ∀ m ∈ d.metrics, Named m → DenotesColumn D d t m

/-- The expressions denote their columns exactly where the dialect quotes with backticks, no label has one or
a character that escapes, and no label has blanks around it. -/
theorem denotesColumns_iff (D : Dialect) (d : Definition) (t : SqlaTable) :
    DenotesColumns D d t ↔ ∀ m ∈ d.metrics, Named m →
      Encloses D tick (m.label.getD "").toList ∧ strip (m.label.getD "") = m.label.getD "" := by
  unfold DenotesColumns
  apply forall₂_congr
  intro m mem
  apply imp_congr_right
  intro named
  exact denotesColumn_iff_encloses mem named

/-- The sum of a column under a label. -/
def summed (label : String) : Definition where
  version := 1
  datasets := [⟨1, some "t"⟩]
  relationships := []
  columns := []
  metrics := [⟨1, "x", none, some label⟩]
  groupBy := []
  filters := []
  orderBy := []
  limit := 1000

theorem encloses_of_summed {D : Dialect} {label : String} {t : SqlaTable} (visible : strip label ≠ "")
    (all : DenotesColumns D (summed label) t) : Encloses D tick label.toList ∧ strip label = label := by
  have mem : (⟨1, "x", none, some label⟩ : MetricEntry) ∈ (summed label).metrics := List.mem_singleton.mpr rfl
  have here := all _ mem visible
  rw [denotesColumn_iff_encloses mem visible] at here
  exact here

theorem not_encloses_postgresql (label : List Char) : ¬Encloses postgresql tick label := by
  rintro ⟨q, opens, -⟩
  have none : postgresql tick = none := if_neg (by decide)
  rw [none] at opens
  cases opens

theorem not_encloses_of_mem {D : Dialect} {label : List Char} (inside : tick ∈ label) :
    ¬Encloses D tick label := by
  rintro ⟨q, -, closes, plain⟩
  exact (plain tick inside).1 closes.symm

theorem not_encloses_bigquery {label : List Char} (inside : '\\' ∈ label) : ¬Encloses bigquery tick label := by
  rintro ⟨q, opens, -, plain⟩
  have quoting : bigquery tick = some ⟨tick, false, some '\\', id, by decide⟩ := if_pos rfl
  rw [quoting, Option.some.injEq] at opens
  have unescaped := (plain '\\' inside).2
  rw [← opens] at unescaped
  exact unescaped rfl

/-- On PostgreSQL no label is denoted, elsewhere those with a backtick, with what escapes or with a
blank at an end are not. -/
theorem summed_not_denoted :
    let t : SqlaTable := ⟨1, none, none, "report", none, [], [], none⟩
    ¬DenotesColumns postgresql (summed "spent") t ∧ ¬DenotesColumns mysql (summed "a`b") t ∧
    ¬DenotesColumns bigquery (summed "a\\b") t ∧ ¬DenotesColumns mysql (summed " spent") t := by
  refine ⟨?_, ?_, ?_, ?_⟩
  · intro all
    exact not_encloses_postgresql _ (encloses_of_summed (by decide) all).1
  · intro all
    exact not_encloses_of_mem (by decide) (encloses_of_summed (by decide) all).1
  · intro all
    exact not_encloses_bigquery (by decide) (encloses_of_summed (by decide) all).1
  · intro all
    exact absurd (encloses_of_summed (by decide) all).2 (by decide)

end XpBuilder.Publish
