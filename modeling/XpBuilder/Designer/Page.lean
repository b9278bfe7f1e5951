import XpBuilder.Report.SqlBuilder

/-! The page on which a report is designed. Its state is the definition, the two forms
in which a filter and a relationship are put together, and the uploads that are still
on their way: when one arrives it adds its dataset to the list of datasets that the
page had when it was started. -/

namespace XpBuilder.Designer
open PythonText (truthy)

/-- What is dragged from the panel of the datasets. -/
structure DragPayload where
  dataset : Nat
  column : String
  label : String
  deriving DecidableEq, Repr

/-- `EMPTY_DEFINITION` -/
def emptyDefinition : Definition where
  version := 1
  datasets := []
  relationships := []
  columns := []
  metrics := []
  groupBy := []
  filters := []
  orderBy := []
  limit := 1000

/-- `{ ...EMPTY_DEFINITION, ...reportData.definition }` -/
def opened (raw : RawDefinition) : Definition where
  version := raw.version.getD emptyDefinition.version
  datasets := raw.datasets.getD emptyDefinition.datasets
  relationships := raw.relationships.getD emptyDefinition.relationships
  columns := raw.columns.getD emptyDefinition.columns
  metrics := raw.metrics.getD emptyDefinition.metrics
  groupBy := raw.groupBy.getD emptyDefinition.groupBy
  filters := raw.filters.getD emptyDefinition.filters
  orderBy := raw.orderBy.getD emptyDefinition.orderBy
  limit := raw.limit.getD emptyDefinition.limit

/-! ## The lists of the definition -/

/-- `handleSelectDataset`, with the datasets of the render that it belongs to. -/
def handleSelectDataset (current : List DatasetEntry) (id : Nat) (d : Definition) : Definition :=
  if current.any (fun ds => ds.id = id) then d
  else { d with datasets := current ++ [⟨id, some s!"d{current.length + 1}"⟩] }

/-- The `onClose` of a dataset's tag. -/
def closeDataset (id : Nat) (d : Definition) : Definition :=
  { d with datasets := d.datasets.filter (fun item => item.id ≠ id) }

def handleAddColumn (field : ColumnEntry) (d : Definition) : Definition :=
  if d.columns.any (fun item => item.dataset = field.dataset && item.column = field.column) then d
  else { d with columns := d.columns ++ [field] }

def onRemoveColumn (index : Nat) (d : Definition) : Definition :=
  { d with columns := d.columns.eraseIdx index }

def onUpdateColumnLabel (index : Nat) (label : String) (d : Definition) : Definition :=
  { d with columns := d.columns.modify index (fun field => { field with label := some label }) }

def handleAddGroup (field : GroupEntry) (d : Definition) : Definition :=
  if d.groupBy.any (fun item => item.dataset = field.dataset && item.column = field.column) then d
  else { d with groupBy := d.groupBy ++ [field] }

def onRemoveGroup (index : Nat) (d : Definition) : Definition :=
  { d with groupBy := d.groupBy.eraseIdx index }

def handleAddMetric (metric : MetricEntry) (d : Definition) : Definition :=
  if d.metrics.any (fun item => item.dataset = metric.dataset && item.column = metric.column &&
      item.aggregate = metric.aggregate) then d
  else { d with metrics := d.metrics ++ [metric] }

def onRemoveMetric (index : Nat) (d : Definition) : Definition :=
  { d with metrics := d.metrics.eraseIdx index }

/-- `onUpdateMetric`, with what the caller makes of the metric. -/
def onUpdateMetric (index : Nat) (update : MetricEntry → MetricEntry) (d : Definition) : Definition :=
  { d with metrics := d.metrics.modify index update }

/-- `AGGREGATES` -/
def aggregateWord : Sql.Aggregate → String
  | .sum => "SUM"
  | .avg => "AVG"
  | .count => "COUNT"
  | .countDistinct => "COUNT_DISTINCT"
  | .min => "MIN"
  | .max => "MAX"

/-- The metric after another aggregate is chosen, which also names it anew. -/
def withAggregate (a : Sql.Aggregate) (metric : MetricEntry) : MetricEntry :=
  { metric with
    aggregate := some (aggregateWord a)
    label := some (aggregateWord a ++ "(" ++ metric.column ++ ")") }

def withLabel (label : String) (metric : MetricEntry) : MetricEntry :=
  { metric with label := some label }

/-! ## Orderings -/

/-- A template literal prints a missing key as a word. -/
def printed (value : Option String) : String := value.getD "undefined"

def columnOption (field : ColumnEntry) : String := toString field.dataset ++ ":" ++ field.column

def metricOption (metric : MetricEntry) : String :=
  toString metric.dataset ++ ":" ++ metric.column ++ ":" ++ printed metric.aggregate ++ ":" ++
    printed metric.label

/-- The values of `orderByOptions` -/
def orderByOptions (d : Definition) : List String :=
  d.columns.map columnOption ++ d.metrics.map metricOption

/-- The entry that `handleAddOrder` reads from the value: the parts between the colons
are the dataset, the column, one that is skipped, and the label. -/
def orderEntry (value : String) : OrderEntry :=
  let parts := value.toList.splitOn ':'
  let rest := parts.drop 3
  { dataset := Nat.ofDigitChars 10 (parts.getD 0 []) 0
    column := some (String.ofList (parts.getD 1 []))
    label := if rest = [] then none else truthy (some (String.ofList ([':'].intercalate rest)))
    desc := false }

def handleAddOrder (value : String) (d : Definition) : Definition :=
  let entry := orderEntry value
  if d.orderBy.any (fun item => item.dataset = entry.dataset && item.column = entry.column) then d
  else { d with orderBy := d.orderBy ++ [entry] }

/-- The `onClose` of an ordering's tag. -/
def closeOrder (index : Nat) (d : Definition) : Definition :=
  { d with orderBy := d.orderBy.eraseIdx index }

/-! ## The forms -/

def isSpace (c : Char) : Bool :=
  let n := c.toNat
  (9 ≤ n && n ≤ 13) || n == 32 || n == 0xa0 || n == 0x1680 || (0x2000 ≤ n && n ≤ 0x200a) ||
    n == 0x2028 || n == 0x2029 || n == 0x202f || n == 0x205f || n == 0x3000 || n == 0xfeff

/-- JavaScript's `text.trim()` -/
def trim (cs : List Char) : List Char := PythonText.stripChars isSpace cs

structure FilterForm where
  dataset : Option Nat
  column : Option String
  op : String
  value : String
  deriving DecidableEq, Repr

/-- What is picked, typed or dropped in the form for a filter. -/
inductive FilterPick where
  | dataset (id : Nat)
  | column (name : String)
  | op (op : String)
  | value (text : String)
  | drop (payload : DragPayload)
  deriving DecidableEq, Repr

namespace FilterForm

def start : FilterForm := ⟨none, none, "=", ""⟩

def pick (form : FilterForm) : FilterPick → FilterForm
  | .dataset id => { form with dataset := some id }
  | .column name => { form with column := some name }
  | .op op => { form with op := op }
  | .value text => { form with value := text }
  | .drop payload => { form with dataset := some payload.dataset, column := some payload.column, op := "=" }

def needsValue (form : FilterForm) : Bool := form.op ≠ "IS NULL" && form.op ≠ "IS NOT NULL"

/-- The parts of the value between commas. -/
def parts (form : FilterForm) : List String :=
  (form.value.toList.splitOn ',').map (fun part => String.ofList (trim part))

/-- A list with the text that Python prints for it. -/
def textList (repr : String → String) (items : List String) : FilterValue :=
  .many (items.map .text) ("[" ++ ", ".intercalate (items.map repr) ++ "]")

def filterValue (repr : String → String) (form : FilterForm) : FilterValue :=
  if form.op = "BETWEEN" then
    textList repr (if form.parts.length = 2 then form.parts else [form.value])
  else if form.op = "IN" ∨ form.op = "NOT IN" then
    textList repr (form.parts.filter (fun part => part ≠ ""))
  else .one (.text form.value)

/-- The checks of `handleAdd` -/
def complete (form : FilterForm) : Bool :=
  form.dataset.isSome && form.column.isSome && !(form.needsValue && trim form.value.toList = [])

/-- `handleAdd`: the filter that is added. -/
def handleAdd (repr : String → String) (form : FilterForm) : Option FilterEntry :=
  match form.dataset, form.column with
  | some dataset, some column =>
    if form.needsValue && trim form.value.toList = [] then none
    else some ⟨dataset, column, some form.op, form.filterValue repr⟩
  | _, _ => none

end FilterForm

structure RelationshipForm where
  leftDataset : Option Nat
  leftColumn : Option String
  rightDataset : Option Nat
  rightColumn : Option String
  joinType : String
  deriving DecidableEq, Repr

inductive RelationshipPick where
  | leftDataset (id : Nat)
  | leftColumn (name : String)
  | rightDataset (id : Nat)
  | rightColumn (name : String)
  | joinType (word : String)
  deriving DecidableEq, Repr

namespace RelationshipForm

def start : RelationshipForm := ⟨none, none, none, none, "INNER"⟩

def pick (form : RelationshipForm) : RelationshipPick → RelationshipForm
  | .leftDataset id => { form with leftDataset := some id }
  | .leftColumn name => { form with leftColumn := some name }
  | .rightDataset id => { form with rightDataset := some id }
  | .rightColumn name => { form with rightColumn := some name }
  | .joinType word => { form with joinType := word }

def canAdd (form : RelationshipForm) : Bool :=
  form.leftDataset.isSome && form.leftColumn.isSome && form.rightDataset.isSome &&
    form.rightColumn.isSome &&
    !(form.leftDataset = form.rightDataset && form.leftColumn = form.rightColumn)

/-- `handleAdd`; the button is off where `canAdd` fails. -/
def handleAdd (form : RelationshipForm) : Option Relationship :=
  if form.canAdd then
    match form.leftDataset, form.leftColumn, form.rightDataset, form.rightColumn with
    | some left, some leftColumn, some right, some rightColumn =>
      some ⟨left, leftColumn, right, rightColumn, some form.joinType⟩
    | _, _, _, _ => none
  else none

end RelationshipForm

/-! ## The page -/

structure Page where
  definition : Definition
  filterForm : FilterForm
  relationshipForm : RelationshipForm
  /-- For each upload on its way, the datasets when it was started. -/
  uploads : List (List DatasetEntry)
  deriving DecidableEq

def Page.start : Page := ⟨emptyDefinition, .start, .start, []⟩

/-- What happens on the page. -/
inductive Edit where
  | load (raw : RawDefinition)
  | selectDataset (id : Nat)
  | closeDataset (id : Nat)
  | startUpload
  | finishUpload (upload id : Nat)
  | dropColumn (payload : DragPayload)
  | removeColumn (index : Nat)
  | updateColumnLabel (index : Nat) (label : String)
  | dropGroup (payload : DragPayload)
  | removeGroup (index : Nat)
  | dropMetric (payload : DragPayload)
  | removeMetric (index : Nat)
  | updateAggregate (index : Nat) (a : Sql.Aggregate)
  | updateMetricLabel (index : Nat) (label : String)
  | addOrder (option : Nat)
  | closeOrder (index : Nat)
  | pickFilter (pick : FilterPick)
  | addFilter
  | removeFilter (index : Nat)
  | pickRelationship (pick : RelationshipPick)
  | addRelationship
  | removeRelationship (index : Nat)
  | updateLimit (limit : Int)
  deriving DecidableEq

/-- The drop on the band of the metrics. -/
def droppedMetric (payload : DragPayload) : MetricEntry :=
  ⟨payload.dataset, payload.column, some "SUM", some s!"SUM({payload.column})"⟩

def Page.define (p : Page) (f : Definition → Definition) : Page :=
  { p with definition := f p.definition }

def addFilter (repr : String → String) (p : Page) : Page :=
  match p.filterForm.handleAdd repr with
  | none => p
  | some filter =>
    { p.define (fun d => { d with filters := d.filters ++ [filter] }) with
      filterForm := { p.filterForm with value := "", column := none } }

def addRelationship (p : Page) : Page :=
  match p.relationshipForm.handleAdd with
  | none => p
  | some rel =>
    { p.define (fun d => { d with relationships := d.relationships ++ [rel] }) with
      relationshipForm := { p.relationshipForm with leftColumn := none, rightColumn := none } }

/-- One step of the page. An index that is not there stands for nothing. -/
def step (repr : String → String) (p : Page) : Edit → Page
  | .load raw => p.define (fun _ => opened raw)
  | .selectDataset id => p.define (handleSelectDataset p.definition.datasets id)
  | .closeDataset id => p.define (Designer.closeDataset id)
  | .startUpload => { p with uploads := p.uploads ++ [p.definition.datasets] }
  | .finishUpload upload id =>
    match p.uploads[upload]? with
    | none => p
    | some seen =>
      { p.define (handleSelectDataset seen id) with uploads := p.uploads.eraseIdx upload }
  | .dropColumn payload =>
    p.define (handleAddColumn ⟨payload.dataset, payload.column, some payload.label⟩)
  | .removeColumn index => p.define (onRemoveColumn index)
  | .updateColumnLabel index label => p.define (onUpdateColumnLabel index label)
  | .dropGroup payload => p.define (handleAddGroup ⟨payload.dataset, payload.column, some payload.label⟩)
  | .removeGroup index => p.define (onRemoveGroup index)
  | .dropMetric payload => p.define (handleAddMetric (droppedMetric payload))
  | .removeMetric index => p.define (onRemoveMetric index)
  | .updateAggregate index a => p.define (onUpdateMetric index (withAggregate a))
  | .updateMetricLabel index label => p.define (onUpdateMetric index (withLabel label))
  | .addOrder option =>
    match (orderByOptions p.definition)[option]? with
    | none => p
    | some value => p.define (handleAddOrder value)
  | .closeOrder index => p.define (Designer.closeOrder index)
  | .pickFilter pick => { p with filterForm := p.filterForm.pick pick }
  | .addFilter => Designer.addFilter repr p
  | .removeFilter index => p.define (fun d => { d with filters := d.filters.eraseIdx index })
  | .pickRelationship pick => { p with relationshipForm := p.relationshipForm.pick pick }
  | .addRelationship => Designer.addRelationship p
  | .removeRelationship index =>
    p.define (fun d => { d with relationships := d.relationships.eraseIdx index })
  | .updateLimit limit => p.define (fun d => { d with limit := limit })

/-! ## What an edit leaves alone -/

/-- The edits of the list of datasets. -/
def Edit.ofDatasets : Edit → Bool
  | .load _ | .selectDataset _ | .closeDataset _ | .finishUpload _ _ => true
  | _ => false

/-- The edits of the fields and metrics. -/
def Edit.ofOutputs : Edit → Bool
  | .load _ | .dropColumn _ | .removeColumn _ | .updateColumnLabel _ _ | .dropMetric _ | .removeMetric _
  | .updateAggregate _ _ | .updateMetricLabel _ _ => true
  | _ => false

section
variable (repr : String → String) (p : Page)

theorem addFilter_definition : ∃ filters, (addFilter repr p).definition = { p.definition with filters := filters } := by
  unfold addFilter
  split
  · exact ⟨p.definition.filters, rfl⟩
  · exact ⟨_, rfl⟩

theorem addRelationship_definition : ∃ relationships,
    (addRelationship p).definition = { p.definition with relationships := relationships } := by
  unfold addRelationship
  split
  · exact ⟨p.definition.relationships, rfl⟩
  · exact ⟨_, rfl⟩

theorem addOrder_definition (option : Nat) : ∃ orderBy,
    (step repr p (.addOrder option)).definition = { p.definition with orderBy := orderBy } := by
  simp only [step]
  split
  · exact ⟨p.definition.orderBy, rfl⟩
  · simp only [Page.define, handleAddOrder]
    split
    · exact ⟨p.definition.orderBy, rfl⟩
    · exact ⟨_, rfl⟩

theorem step_datasets {e : Edit} (other : e.ofDatasets = false) :
    (step repr p e).definition.datasets = p.definition.datasets := by
  cases e with
  | load _ | selectDataset _ | closeDataset _ | finishUpload _ _ => cases other
  | dropColumn payload =>
    simp only [step, Page.define, handleAddColumn]
    split
    · rfl
    · rfl
  | dropGroup payload =>
    simp only [step, Page.define, handleAddGroup]
    split
    · rfl
    · rfl
  | dropMetric payload =>
    simp only [step, Page.define, handleAddMetric]
    split
    · rfl
    · rfl
  | addOrder option =>
    obtain ⟨orderBy, same⟩ := addOrder_definition repr p option
    rw [same]
  | addFilter =>
    obtain ⟨filters, same⟩ := addFilter_definition repr p
    rw [step, same]
  | addRelationship =>
    obtain ⟨relationships, same⟩ := addRelationship_definition p
    rw [step, same]
  | _ => rfl

theorem handleSelectDataset_definition (seen : List DatasetEntry) (id : Nat) (d : Definition) :
    ∃ datasets, handleSelectDataset seen id d = { d with datasets := datasets } := by
  unfold handleSelectDataset
  split
  · exact ⟨d.datasets, rfl⟩
  · exact ⟨_, rfl⟩

theorem step_outputs {e : Edit} (other : e.ofOutputs = false) :
    (step repr p e).definition.columns = p.definition.columns ∧
      (step repr p e).definition.metrics = p.definition.metrics := by
  cases e with
  | load _ | dropColumn _ | removeColumn _ | updateColumnLabel _ _ | dropMetric _ | removeMetric _
  | updateAggregate _ _ | updateMetricLabel _ _ => cases other
  | selectDataset id =>
    obtain ⟨datasets, same⟩ := handleSelectDataset_definition p.definition.datasets id p.definition
    simp only [step, Page.define, same, and_self]
  | finishUpload upload id =>
    simp only [step]
    split
    · exact ⟨rfl, rfl⟩
    · rename_i seen _
      obtain ⟨datasets, same⟩ := handleSelectDataset_definition seen id p.definition
      simp only [Page.define, same, and_self]
  | dropGroup payload =>
    simp only [step, Page.define, handleAddGroup]
    split
    · exact ⟨rfl, rfl⟩
    · exact ⟨rfl, rfl⟩
  | addOrder option =>
    obtain ⟨orderBy, same⟩ := addOrder_definition repr p option
    rw [same]
    exact ⟨rfl, rfl⟩
  | addFilter =>
    obtain ⟨filters, same⟩ := addFilter_definition repr p
    rw [step, same]
    exact ⟨rfl, rfl⟩
  | addRelationship =>
    obtain ⟨relationships, same⟩ := addRelationship_definition p
    rw [step, same]
    exact ⟨rfl, rfl⟩
  | _ => exact ⟨rfl, rfl⟩

end

end XpBuilder.Designer
