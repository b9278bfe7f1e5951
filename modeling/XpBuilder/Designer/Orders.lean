import XpBuilder.Designer.References

/-! What an ordering is read back as. The value of an option has its parts between colons, so a name
with a colon is read as several, and the check for what is there already looks at the dataset and
the column alone. -/

namespace XpBuilder.Designer
open PythonText (truthy)

/-! ## Names with a colon -/

theorem columnOption_toList (field : ColumnEntry) :
    (columnOption field).toList = (toString field.dataset).toList ++ ':' :: field.column.toList := by
  simp [columnOption]

theorem metricOption_toList (metric : MetricEntry) : (metricOption metric).toList =
    (toString metric.dataset).toList ++ ':' :: (metric.column.toList ++ ':' ::
      ((printed metric.aggregate).toList ++ ':' :: (printed metric.label).toList)) := by
  simp [metricOption]

/-- The column is read up to the first colon behind the dataset. -/
theorem orderEntry_column_of_split {value : String} {n : Nat} {front behind : List Char} (plain : ':' ∉ front)
    (shape : value.toList = (toString n).toList ++ ':' :: (front ++ ':' :: behind)) :
    (orderEntry value).column = some (String.ofList front) := by
  have parts : value.toList.splitOn ':' = Nat.toDigits 10 n :: front :: behind.splitOn ':' := by
    rw [shape, toString_splitOn, List.splitOn_append_cons_self_of_not_mem plain]
  simp [orderEntry, parts]

theorem ne_of_shorter {front behind : List Char} {name : String} (whole : name.toList = front ++ ':' :: behind) :
    String.ofList front ≠ name := by
  intro same
  have chars : (String.ofList front).toList.length = name.toList.length := by rw [same]
  rw [String.toList_ofList, whole, List.length_append, List.length_cons] at chars
  omega

theorem column_plain {field : ColumnEntry} (read : (orderEntry (columnOption field)).column = some field.column) :
    ':' ∉ field.column.toList := by
  intro mem
  obtain ⟨front, behind, whole, plain⟩ := List.eq_append_cons_of_mem mem
  have shape := columnOption_toList field
  rw [whole] at shape
  rw [orderEntry_column_of_split plain shape] at read
  exact ne_of_shorter whole (Option.some.inj read)

theorem metric_column_plain {metric : MetricEntry}
    (read : (orderEntry (metricOption metric)).column = some metric.column) : ':' ∉ metric.column.toList := by
  intro mem
  obtain ⟨front, behind, whole, plain⟩ := List.eq_append_cons_of_mem mem
  have shape := metricOption_toList metric
  rw [whole, List.append_assoc, List.cons_append] at shape
  rw [orderEntry_column_of_split plain shape] at read
  exact ne_of_shorter whole (Option.some.inj read)

/-- An aggregate with a colon leaves its rest in front of the label. -/
theorem metric_label_of_split {metric : MetricEntry} (column : ':' ∉ metric.column.toList) {front behind : List Char}
    (plain : ':' ∉ front) (whole : (printed metric.aggregate).toList = front ++ ':' :: behind) :
    (orderEntry (metricOption metric)).label =
      some (String.ofList (behind ++ ':' :: (printed metric.label).toList)) := by
  have shape := metricOption_toList metric
  rw [whole, List.append_assoc, List.cons_append] at shape
  have parts : (metricOption metric).toList.splitOn ':' = Nat.toDigits 10 metric.dataset :: metric.column.toList ::
      front :: (behind ++ ':' :: (printed metric.label).toList).splitOn ':' := by
    rw [shape, toString_splitOn, List.splitOn_append_cons_self_of_not_mem column,
      List.splitOn_append_cons_self_of_not_mem plain]
  have label : [':'].intercalate ((behind ++ ':' :: (printed metric.label).toList).splitOn ':') =
      behind ++ ':' :: (printed metric.label).toList := List.intercalate_splitOn ':'
  have some_part := List.splitOn_ne_nil ':' (behind ++ ':' :: (printed metric.label).toList)
  simp [orderEntry, parts, label, some_part, truthy]

theorem truthy_some_eq {text : String} {label : Option String} (same : truthy (some text) = label)
    (from_label : text = printed label) : ∃ s, label = some s ∧ s ≠ "" := by
  cases label with
  | none =>
    have word : text = "undefined" := from_label
    rw [word] at same
    exact absurd same (by decide)
  | some s =>
    have kept := PythonText.truthy_eq_some same
    exact ⟨s, rfl, kept.2⟩

/-- A metric is read back where neither its column nor its aggregate has a colon and it has a label. -/
theorem orderEntry_metric_iff (metric : MetricEntry) :
    orderEntry (metricOption metric) = ⟨metric.dataset, some metric.column, metric.label, false⟩ ↔
      ':' ∉ metric.column.toList ∧ ':' ∉ (printed metric.aggregate).toList ∧ ∃ s, metric.label = some s ∧ s ≠ "" := by
  constructor
  · intro read
    have column := metric_column_plain (congrArg OrderEntry.column read)
    have label := congrArg OrderEntry.label read
    have aggregate : ':' ∉ (printed metric.aggregate).toList := by
      intro mem
      obtain ⟨front, behind, whole, plain⟩ := List.eq_append_cons_of_mem mem
      rw [metric_label_of_split column plain whole] at label
      cases named : metric.label with
      | none =>
        rw [named] at label
        cases label
      | some s =>
        rw [named] at label
        have chars := congrArg (fun t => t.toList.length) (Option.some.inj label)
        dsimp only [printed, Option.getD_some] at chars
        rw [String.toList_ofList, List.length_append, List.length_cons] at chars
        omega
    rw [orderEntry_metric column aggregate] at label
    exact ⟨column, aggregate, truthy_some_eq label rfl⟩
  · rintro ⟨column, aggregate, s, named, nonempty⟩
    have kept : truthy (some s) = some s := by simp [truthy, nonempty]
    rw [orderEntry_metric column aggregate, named]
    dsimp only [printed, Option.getD_some]
    rw [kept]

/-! ## Fields and metrics -/

/-- What can be ordered. -/
inductive Output where
  | field (f : ColumnEntry)
  | metric (m : MetricEntry)
  deriving DecidableEq, Repr

def outputs (d : Definition) : List Output := d.columns.map .field ++ d.metrics.map .metric

namespace Output

/-- The value that `orderByOptions` builds. -/
def option : Output → String
  | field f => columnOption f
  | metric m => metricOption m

def column : Output → String
  | field f => f.column
  | metric m => m.column

/-- The dataset and the column. -/
def place : Output → Nat × String
  | field f => (f.dataset, f.column)
  | metric m => (m.dataset, m.column)

/-- The ordering that the option stands for. -/
def order : Output → OrderEntry
  | field f => ⟨f.dataset, some f.column, none, false⟩
  | metric m => ⟨m.dataset, some m.column, m.label, false⟩

/-- A metric can be told by its parts. -/
def Labelled : Output → Prop
  | field _ => True
  | metric m => ':' ∉ (printed m.aggregate).toList ∧ ∃ s, m.label = some s ∧ s ≠ ""

theorem place_eq_iff (o o' : Output) :
    o.place = o'.place ↔ o.order.dataset = o'.order.dataset ∧ o.order.column = o'.order.column := by
  cases o <;> cases o' <;> simp [place, order]

theorem orderEntry_iff (o : Output) : orderEntry o.option = o.order ↔ ':' ∉ o.column.toList ∧ o.Labelled := by
  cases o with
  | field f =>
    constructor
    · intro read
      have column := column_plain (congrArg OrderEntry.column read)
      exact ⟨column, trivial⟩
    · intro plain
      exact orderEntry_column plain.1
  | metric m => exact orderEntry_metric_iff m

end Output

theorem options_eq (d : Definition) : orderByOptions d = (outputs d).map Output.option := by
  unfold orderByOptions outputs
  rw [List.map_append, List.map_map, List.map_map]
  rfl

/-! ## Orderings that are picked -/

/-- The definition without orderings. -/
def unordered (d : Definition) : Definition := { d with orderBy := [] }

/-- An option that is picked adds the ordering that it stands for, options are distinct, and any two
can be picked. -/
structure OrdersAsPicked (d : Definition) : Prop where
  decodes : ∀ o ∈ outputs d, (handleAddOrder o.option (unordered d)).orderBy = [o.order]
  distinct : ∀ o ∈ outputs d, ∀ o' ∈ outputs d, o ≠ o' → o.option ≠ o'.option
  both : ∀ o ∈ outputs d, ∀ o' ∈ outputs d, o ≠ o' →
    (handleAddOrder o'.option (handleAddOrder o.option (unordered d))).orderBy = [o.order, o'.order]

/-- No column has a colon, every metric has a label and an aggregate without one, and no two fields
or metrics are on one column of a dataset. -/
structure TellApart (d : Definition) : Prop where
  columns : ∀ o ∈ outputs d, ':' ∉ o.column.toList
  labelled : ∀ o ∈ outputs d, o.Labelled
  apart : ∀ o ∈ outputs d, ∀ o' ∈ outputs d, o ≠ o' → o.place ≠ o'.place

theorem handleAddOrder_first (value : String) (d : Definition) :
    (handleAddOrder value (unordered d)).orderBy = [orderEntry value] := rfl

theorem handleAddOrder_second (first second : String) (d : Definition) :
    (handleAddOrder second (handleAddOrder first (unordered d))).orderBy =
      if (orderEntry first).dataset = (orderEntry second).dataset ∧ (orderEntry first).column = (orderEntry second).column then
        [orderEntry first] else [orderEntry first, orderEntry second] := by
  have before := handleAddOrder_first first d
  generalize handleAddOrder first (unordered d) = seen at before ⊢
  have listed : ([orderEntry first].any (fun item => item.dataset = (orderEntry second).dataset &&
      item.column = (orderEntry second).column)) = true ↔ (orderEntry first).dataset = (orderEntry second).dataset ∧
        (orderEntry first).column = (orderEntry second).column := by simp
  unfold handleAddOrder
  dsimp only
  rw [before]
  by_cases same : (orderEntry first).dataset = (orderEntry second).dataset ∧
      (orderEntry first).column = (orderEntry second).column
  · rw [if_pos (listed.mpr same), if_pos same, before]
  · rw [if_neg (listed.not.mpr same), if_neg same]
    rfl

/-- What is picked is what is ordered by exactly where the parts can be told apart. -/
theorem ordersAsPicked_iff (d : Definition) : OrdersAsPicked d ↔ TellApart d := by
  constructor
  · intro picked
    have read : ∀ o ∈ outputs d, orderEntry o.option = o.order := by
      intro o mem
      have decoded := picked.decodes o mem
      rw [handleAddOrder_first] at decoded
      exact List.singleton_inj.mp decoded
    refine ⟨fun o mem => (o.orderEntry_iff.mp (read o mem)).1, fun o mem => (o.orderEntry_iff.mp (read o mem)).2, ?_⟩
    intro o mem o' mem' other same
    have both := picked.both o mem o' mem' other
    rw [handleAddOrder_second, read o mem, read o' mem', if_pos ((o.place_eq_iff o').mp same)] at both
    cases both
  · intro plain
    have read : ∀ o ∈ outputs d, orderEntry o.option = o.order := by
      intro o mem
      exact o.orderEntry_iff.mpr ⟨plain.columns o mem, plain.labelled o mem⟩
    constructor
    · intro o mem
      rw [handleAddOrder_first, read o mem]
    · intro o mem o' mem' other same
      have orders : o.order = o'.order := by rw [← read o mem, ← read o' mem', same]
      apply plain.apart o mem o' mem' other
      rw [o.place_eq_iff, orders]
      exact ⟨rfl, rfl⟩
    · intro o mem o' mem' other
      have places := plain.apart o mem o' mem' other
      rw [ne_eq, o.place_eq_iff] at places
      rw [handleAddOrder_second, read o mem, read o' mem', if_neg places]

/-- A sum and an average of one column. -/
def sumAndAverage : Definition :=
  { emptyDefinition with
    metrics := [⟨1, "x", some "SUM", some "SUM(x)"⟩, ⟨1, "x", some "AVG", some "AVG(x)"⟩] }

/-- The average cannot be ordered besides the sum, and a column with a colon is cut at it. -/
theorem sumAndAverage_not_picked : ¬OrdersAsPicked sumAndAverage ∧
    ¬OrdersAsPicked { emptyDefinition with columns := [⟨1, "a:b", some "a:b"⟩] } ∧
    (handleAddOrder (columnOption ⟨1, "a:b", some "a:b"⟩) emptyDefinition).orderBy = [⟨1, some "a", none, false⟩] := by
  refine ⟨fun picked => ?_, fun picked => ?_, by decide +kernel⟩
  · have both := picked.both _ List.mem_cons_self _ (List.mem_cons_of_mem _ List.mem_cons_self) (by decide)
    exact absurd both (by decide +kernel)
  · have decoded := picked.decodes _ List.mem_cons_self
    exact absurd decoded (by decide +kernel)

end XpBuilder.Designer
