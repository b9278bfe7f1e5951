import XpBuilder.Designer.Aliases
import XpBuilder.Library.Runs
import XpBuilder.Report.Buildable

/-! The life of a report on the page: it is designed with what the panels offer, saved and
opened again. Which of its states `build_select` accepts. -/

namespace XpBuilder.Designer
open PythonText (truthy orElse upper)
open SqlBuilder (Physical InTable Readable Testable Buildable)

/-! ## What the panels offer -/

/-- `datasets_payload`: the ids of the physical datasets and the names of their columns. -/
def datasetsPayload (datasets : List (Nat × SqlaTable)) : List (Nat × List String) :=
  (datasets.filter (fun e => !e.2.isVirtual)).map (fun e => (e.1, e.2.columns.map TableColumn.columnName))

/-- `FILTER_OPS` -/
def filterOps : List String :=
  ["=", "!=", ">", ">=", "<", "<=", "LIKE", "IN", "NOT IN", "IS NULL", "IS NOT NULL", "BETWEEN"]

/-- `JOIN_TYPES` -/
def joinTypes : List String := ["INNER", "LEFT", "FULL"]

/-- The limits of the toolbar. -/
def limits : List Int := [100, 500, 1000, 5000, 10000]

section
variable (panel : List (Nat × List String))

/-- The panel lists the column under the dataset. -/
def Offers (id : Nat) (column : String) : Prop := ∃ columns, (id, columns) ∈ panel ∧ column ∈ columns

def Lists (id : Nat) : Prop := ∃ columns, (id, columns) ∈ panel

/-- An edit that the page offers: the columns of a form are those of the dataset that it has then. -/
def Offered (p : Page) : Edit → Prop
  | .load _ => False
  | .selectDataset id => Lists panel id
  | .finishUpload _ id => Lists panel id
  | .dropColumn payload => Offers panel payload.dataset payload.column
  | .dropGroup payload => Offers panel payload.dataset payload.column
  | .dropMetric payload => Offers panel payload.dataset payload.column
  | .pickFilter (.dataset id) => Lists panel id
  | .pickFilter (.column name) => ∃ id, p.filterForm.dataset = some id ∧ Offers panel id name
  | .pickFilter (.op op) => op ∈ filterOps
  | .pickFilter (.drop payload) => Offers panel payload.dataset payload.column
  | .pickRelationship (.leftDataset id) => Lists panel id
  | .pickRelationship (.rightDataset id) => Lists panel id
  | .pickRelationship (.leftColumn name) => ∃ id, p.relationshipForm.leftDataset = some id ∧ Offers panel id name
  | .pickRelationship (.rightColumn name) => ∃ id, p.relationshipForm.rightDataset = some id ∧ Offers panel id name
  | .pickRelationship (.joinType word) => word ∈ joinTypes
  | .updateLimit limit => limit ∈ limits
  | _ => True

end

/-! ## Saving and opening -/

/-- The page and the definition that is stored. -/
structure Desk where
  page : Page
  stored : Option RawDefinition

/-- The page fetches its report when the first save has given it an id; opening a report starts with a new page. -/
inductive Move where
  | edit (e : Edit)
  | save
  | fetch
  | reopen

def Desk.start : Desk := ⟨.start, none⟩

def Desk.step (repr : String → String) (s : Desk) : Move → Desk
  | .edit e => { s with page := Designer.step repr s.page e }
  | .save => { s with stored := some (saved s.page.definition).toRaw }
  | .fetch =>
    match s.stored with
    | none => s
    | some raw => { s with page := { Page.start with definition := opened raw, uploads := s.page.uploads } }
  | .reopen =>
    match s.stored with
    | none => { s with page := .start }
    | some raw => { s with page := { Page.start with definition := opened raw } }

def Move.Offered (panel : List (Nat × List String)) (s : Desk) : Move → Prop
  | .edit e => Designer.Offered panel s.page e
  | _ => True

/-! ## What holds of a designed definition -/

/-- A filter as the form makes it. -/
structure FilterFormed (f : FilterEntry) : Prop where
  op : ∃ op ∈ filterOps, f.op = some op
  text : (∀ op ∈ ["IN", "NOT IN", "BETWEEN"], f.op ≠ some op) → ∃ text, f.value = .one (.text text)
  between : f.op = some "BETWEEN" → ∃ items printed, f.value = .many items printed

/-- Everything is one of the panels', if not each filter and each join. -/
structure Designed (panel : List (Nat × List String)) (d : Definition) : Prop where
  datasets : ∀ e ∈ d.datasets, Lists panel e.id
  columns : ∀ c ∈ d.columns, Offers panel c.dataset c.column
  metrics : ∀ m ∈ d.metrics, Offers panel m.dataset m.column ∧ ∃ a, m.aggregate = some (aggregateWord a)
  groups : ∀ g ∈ d.groupBy, Offers panel g.dataset g.column
  filters : ∀ f ∈ d.filters, FilterFormed f
  joins : ∀ r ∈ d.relationships, ∃ word ∈ joinTypes, r.joinType = some word

/-- The page, its forms and the uploads that are on their way. -/
structure PageDesigned (panel : List (Nat × List String)) (p : Page) : Prop where
  definition : Designed panel p.definition
  op : p.filterForm.op ∈ filterOps
  joinType : p.relationshipForm.joinType ∈ joinTypes
  uploads : ∀ seen ∈ p.uploads, ∀ e ∈ seen, Lists panel e.id

section
variable {panel : List (Nat × List String)}

theorem designed_empty : Designed panel emptyDefinition := by
  constructor <;> exact fun _ mem => nomatch mem

theorem pageDesigned_start : PageDesigned panel Page.start where
  definition := designed_empty
  op := by decide
  joinType := by decide
  uploads _ mem := nomatch mem

theorem Offers.lists {id : Nat} {column : String} (offers : Offers panel id column) : Lists panel id :=
  offers.imp (fun _ known => known.1)

theorem filterFormed_handleAdd {repr : String → String} {form : FilterForm} {f : FilterEntry} (known : form.op ∈ filterOps)
    (added : form.handleAdd repr = some f) : FilterFormed f := by
  unfold FilterForm.handleAdd at added
  split at added
  · rename_i dataset column picked named
    rw [Option.ite_none_left_eq_some, Option.some.injEq] at added
    rw [← added.2]
    refine ⟨⟨form.op, known, rfl⟩, fun others => ?_, fun between => ?_⟩
    · have single : form.op ≠ "IN" ∧ form.op ≠ "NOT IN" ∧ form.op ≠ "BETWEEN" := by simpa using others
      exact ⟨form.value, by rw [FilterForm.filterValue, if_neg single.2.2, if_neg (by simp [single])]⟩
    · rw [FilterForm.filterValue, if_pos (Option.some.inj between)]
      exact ⟨_, _, rfl⟩
  · cases added

theorem joinType_handleAdd {form : RelationshipForm} {r : Relationship} (added : form.handleAdd = some r) :
    r.joinType = some form.joinType := by
  unfold RelationshipForm.handleAdd at added
  split at added
  · split at added
    · cases added
      rfl
    · cases added
  · cases added

variable {d : Definition} (designed : Designed panel d)
include designed

theorem designed_handleSelectDataset {current : List DatasetEntry} (listed : ∀ e ∈ current, Lists panel e.id) {id : Nat}
    (known : Lists panel id) : Designed panel (handleSelectDataset current id d) := by
  unfold handleSelectDataset
  split_ifs
  · exact designed
  · exact { designed with
      datasets := List.forall_mem_append.mpr ⟨listed, List.forall_mem_singleton.mpr known⟩ }

theorem designed_handleAddColumn {field : ColumnEntry} (offers : Offers panel field.dataset field.column) :
    Designed panel (handleAddColumn field d) := by
  unfold handleAddColumn
  split_ifs
  · exact designed
  · exact { designed with
      columns := List.forall_mem_append.mpr ⟨designed.columns, List.forall_mem_singleton.mpr offers⟩ }

theorem designed_handleAddGroup {field : GroupEntry} (offers : Offers panel field.dataset field.column) :
    Designed panel (handleAddGroup field d) := by
  unfold handleAddGroup
  split_ifs
  · exact designed
  · exact { designed with
      groups := List.forall_mem_append.mpr ⟨designed.groups, List.forall_mem_singleton.mpr offers⟩ }

theorem designed_handleAddMetric (metric : MetricEntry) (offers : Offers panel metric.dataset metric.column)
    (known : ∃ a, metric.aggregate = some (aggregateWord a)) : Designed panel (handleAddMetric metric d) := by
  unfold handleAddMetric
  split_ifs
  · exact designed
  · exact { designed with
      metrics := List.forall_mem_append.mpr ⟨designed.metrics, List.forall_mem_singleton.mpr ⟨offers, known⟩⟩ }

/-- Another label or another aggregate for a metric. -/
theorem designed_onUpdateMetric (update : MetricEntry → MetricEntry)
    (column : ∀ m, (update m).dataset = m.dataset ∧ (update m).column = m.column)
    (aggregate : ∀ m, (∃ a, m.aggregate = some (aggregateWord a)) → ∃ a, (update m).aggregate = some (aggregateWord a))
    (index : Nat) : Designed panel (onUpdateMetric index update d) := by
  refine { designed with metrics := Lists.forall_mem_modify designed.metrics (fun m known => ⟨?_, aggregate m known.2⟩) index }
  rw [(column m).1, (column m).2]
  exact known.1

omit designed in
/-- What the page offers keeps everything one of the panels'. -/
theorem pageDesigned_step (repr : String → String) {p : Page} (inv : PageDesigned panel p) {e : Edit} (offered : Offered panel p e) :
    PageDesigned panel (step repr p e) := by
  have designed := inv.definition
  cases e with
  | load raw => exact offered.elim
  | selectDataset id => exact { inv with definition := designed_handleSelectDataset designed designed.datasets offered }
  | closeDataset id =>
    exact { inv with definition := { designed with
      datasets := fun e mem => designed.datasets e (List.mem_of_mem_filter mem) } }
  | startUpload =>
    exact { inv with uploads := List.forall_mem_append.mpr ⟨inv.uploads, List.forall_mem_singleton.mpr designed.datasets⟩ }
  | finishUpload upload id =>
    simp only [step]
    cases found : p.uploads[upload]? with
    | none => exact inv
    | some seen =>
      have listed := inv.uploads seen (List.mem_of_getElem? found)
      exact { inv with
        definition := designed_handleSelectDataset designed listed offered
        uploads := fun seen mem => inv.uploads seen (List.mem_of_mem_eraseIdx mem) }
  | dropColumn payload => exact { inv with definition := designed_handleAddColumn designed offered }
  | removeColumn index =>
    exact { inv with definition := { designed with
      columns := fun c mem => designed.columns c (List.mem_of_mem_eraseIdx mem) } }
  | updateColumnLabel index label =>
    have kept := Lists.forall_mem_modify (f := fun field => { field with label := some label }) designed.columns
      (fun _ known => known) index
    exact { inv with definition := { designed with columns := kept } }
  | dropGroup payload => exact { inv with definition := designed_handleAddGroup designed offered }
  | removeGroup index =>
    exact { inv with definition := { designed with
      groups := fun g mem => designed.groups g (List.mem_of_mem_eraseIdx mem) } }
  | dropMetric payload =>
    exact { inv with definition := designed_handleAddMetric designed (droppedMetric payload) offered ⟨.sum, rfl⟩ }
  | removeMetric index =>
    exact { inv with definition := { designed with
      metrics := fun m mem => designed.metrics m (List.mem_of_mem_eraseIdx mem) } }
  | updateAggregate index a =>
    exact { inv with
      definition := designed_onUpdateMetric designed (withAggregate a) (fun _ => ⟨rfl, rfl⟩)
        (fun _ _ => ⟨a, rfl⟩) index }
  | updateMetricLabel index label =>
    exact { inv with
      definition := designed_onUpdateMetric designed (withLabel label) (fun _ => ⟨rfl, rfl⟩)
        (fun _ known => known) index }
  | addOrder option =>
    obtain ⟨orderBy, same⟩ := addOrder_definition repr p option
    simp only [step] at same ⊢
    cases chosen : (orderByOptions p.definition)[option]? with
    | none => exact inv
    | some value =>
      rw [chosen] at same
      refine { inv with definition := ?_ }
      simp only at same
      rw [same]
      exact { designed with }
  | closeOrder index => exact { inv with definition := { designed with } }
  | pickFilter pick =>
    refine { inv with op := ?_ }
    cases pick with
    | op op => exact offered
    | drop payload => exact (by decide : "=" ∈ filterOps)
    | dataset id => exact inv.op
    | column name => exact inv.op
    | value text => exact inv.op
  | addFilter =>
    simp only [step, addFilter]
    cases added : p.filterForm.handleAdd repr with
    | none => exact inv
    | some f =>
      have formed := filterFormed_handleAdd inv.op added
      exact { inv with definition := { designed with
        filters := List.forall_mem_append.mpr ⟨designed.filters, List.forall_mem_singleton.mpr formed⟩ } }
  | removeFilter index =>
    exact { inv with definition := { designed with
      filters := fun f mem => designed.filters f (List.mem_of_mem_eraseIdx mem) } }
  | pickRelationship pick =>
    refine { inv with joinType := ?_ }
    cases pick with
    | joinType word => exact offered
    | leftDataset id => exact inv.joinType
    | leftColumn name => exact inv.joinType
    | rightDataset id => exact inv.joinType
    | rightColumn name => exact inv.joinType
  | addRelationship =>
    simp only [step, addRelationship]
    cases added : p.relationshipForm.handleAdd with
    | none => exact inv
    | some r =>
      have known : ∃ word ∈ joinTypes, r.joinType = some word := ⟨_, inv.joinType, joinType_handleAdd added⟩
      exact { inv with definition := { designed with
        joins := List.forall_mem_append.mpr ⟨designed.joins, List.forall_mem_singleton.mpr known⟩ } }
  | removeRelationship index =>
    exact { inv with definition := { designed with
      joins := fun r mem => designed.joins r (List.mem_of_mem_eraseIdx mem) } }
  | updateLimit limit => exact { inv with definition := { designed with } }

omit designed in
theorem designed_saved (designed : Designed panel d) : Designed panel (saved d) := by
  refine { designed with datasets := fun e mem => ?_ }
  obtain ⟨i, bound, rfl⟩ := List.mem_mapIdx.mp mem
  exact designed.datasets d.datasets[i] (List.getElem_mem bound)

omit designed in
/-- The page, and what is stored. -/
theorem desk_designed (repr : String → String) {run : List Move} {s : Desk} (page : PageDesigned panel s.page)
    (stored : ∀ raw, s.stored = some raw → Designed panel (opened raw))
    (offered : Runs.Each (Desk.step repr) (Move.Offered panel) s run) :
    PageDesigned panel (Runs.after (Desk.step repr) s run).page ∧
      ∀ raw, (Runs.after (Desk.step repr) s run).stored = some raw → Designed panel (opened raw) := by
  refine (offered.of_invariant (Q := fun _ _ => True)
    (I := fun s => PageDesigned panel s.page ∧ ∀ raw, s.stored = some raw → Designed panel (opened raw)) ?_ ⟨page, stored⟩).2
  rintro s (e | - | - | -) ⟨page, stored⟩ offered
  · exact ⟨trivial, pageDesigned_step repr page offered, stored⟩
  · refine ⟨trivial, page, ?_⟩
    rintro raw ⟨⟩
    exact designed_saved page.definition
  · refine ⟨trivial, ?_⟩
    dsimp only [Desk.step]
    split
    · exact ⟨page, stored⟩
    · rename_i raw there
      exact ⟨⟨stored raw there, (by decide : "=" ∈ filterOps), (by decide : "INNER" ∈ joinTypes), page.uploads⟩, stored⟩
  · refine ⟨trivial, ?_⟩
    dsimp only [Desk.step]
    split
    · exact ⟨pageDesigned_start, stored⟩
    · rename_i raw there
      exact ⟨{ (pageDesigned_start : PageDesigned panel Page.start) with definition := stored raw there }, stored⟩

end

/-! ## What `build_select` makes of it -/

/-- The columns that are listed for a physical dataset, other than the calculated, are in its table. -/
def InStep (env : BuildEnv) (datasets : List (Nat × SqlaTable)) : Prop :=
  ∀ e ∈ datasets, e.2.isVirtual = false → ∃ names, env.reflect e.2.tableRef = some names ∧
    ∀ c ∈ e.2.columns, SqlBuilder.columnExpression e.2 c.columnName = none → c.columnName ∈ names

/-- What a designed definition can lack. -/
structure Ready (env : BuildEnv) (d : Definition) : Prop where
  chosen : d.datasets ≠ []
  shown : d.columns ≠ [] ∨ d.metrics ≠ []
  fields : ∀ c ∈ d.columns, c.dataset ∈ d.datasets.map DatasetEntry.id
  metrics : ∀ m ∈ d.metrics, m.dataset ∈ d.datasets.map DatasetEntry.id
  groups : d.metrics ≠ [] → ∀ g ∈ d.groupBy, g.dataset ∈ d.datasets.map DatasetEntry.id
  joins : ∀ r ∈ d.relationships,
    (r.leftDataset ∈ d.datasets.map DatasetEntry.id ∧ InTable env r.leftDataset r.leftColumn) ∧
    (r.rightDataset ∈ d.datasets.map DatasetEntry.id ∧ InTable env r.rightDataset r.rightColumn)
  filters : ∀ f ∈ d.filters, (f.dataset ∈ d.datasets.map DatasetEntry.id ∧ Readable env f.dataset f.column) ∧
    (f.op = some "BETWEEN" → f.value.items.length = 2)
  orders : ∀ o ∈ d.orderBy, (∃ label, truthy o.label = some label ∧ label ∈ d.outputLabels) ∨
    o.dataset ∈ d.datasets.map DatasetEntry.id ∧ ∃ column, o.column = some column ∧ Readable env o.dataset column

section
variable {env : BuildEnv} {datasets : List (Nat × SqlaTable)}

theorem physical_of_lists (found : ∀ e ∈ datasets, env.find e.1 = some e.2) (inStep : InStep env datasets) {id : Nat}
    (lists : Lists (datasetsPayload datasets) id) : Physical env id := by
  obtain ⟨columns, mem⟩ := lists
  obtain ⟨e, kept, ⟨⟩⟩ := List.mem_map.mp mem
  obtain ⟨there, physical⟩ := List.mem_filter.mp kept
  have real : e.2.isVirtual = false := by simpa using physical
  obtain ⟨names, reflected, -⟩ := inStep e there real
  exact ⟨e.2, names, found e there, real, reflected⟩

theorem readable_of_offers (found : ∀ e ∈ datasets, env.find e.1 = some e.2) (inStep : InStep env datasets) {id : Nat}
    {column : String} (offers : Offers (datasetsPayload datasets) id column) : Readable env id column := by
  obtain ⟨columns, mem, named⟩ := offers
  obtain ⟨e, kept, ⟨⟩⟩ := List.mem_map.mp mem
  obtain ⟨there, physical⟩ := List.mem_filter.mp kept
  obtain ⟨names, reflected, known⟩ := inStep e there (by simpa using physical)
  obtain ⟨c, mem, rfl⟩ := List.mem_map.mp named
  by_cases calculated : SqlBuilder.columnExpression e.2 c.columnName = none
  · exact .inl ⟨e.2, names, found e there, reflected, known c mem calculated⟩
  · exact .inr ⟨e.2, found e there, calculated⟩

/-- The aggregates of the designer are those of the builder. -/
theorem aggregation_aggregateWord {m : MetricEntry} {a : Sql.Aggregate} (known : m.aggregate = some (aggregateWord a)) :
    SqlBuilder.aggregation m.aggregateName ≠ none := by
  unfold MetricEntry.aggregateName
  rw [known]
  cases a <;> decide

theorem joinKind_of_offered {word : String} (known : word ∈ joinTypes) :
    SqlBuilder.joinKind (upper (orElse (some word) "INNER")) ≠ none := by
  revert word
  decide

theorem upper_of_offered : ∀ op ∈ filterOps, upper (orElse (some op) "=") = op := by decide

theorem comparison_of_offered : ∀ op ∈ filterOps, op ∉ ["IS NULL", "IS NOT NULL", "IN", "NOT IN", "LIKE"] →
    op ≠ "BETWEEN" → SqlBuilder.comparison op ≠ none ∧ ∀ other ∈ ["IN", "NOT IN", "BETWEEN"], op ≠ other := by
  decide

/-- The form makes every test that the builder knows, but for one between fewer than two values. -/
theorem testable_iff {f : FilterEntry} (formed : FilterFormed f) :
    Testable (upper (orElse f.op "=")) f.value ↔ (f.op = some "BETWEEN" → f.value.items.length = 2) := by
  obtain ⟨op, known, same⟩ := formed.op
  have text := formed.text
  have between := formed.between
  rw [same] at text between ⊢
  rw [upper_of_offered op known]
  by_cases range : op = "BETWEEN"
  · subst range
    obtain ⟨items, printed, many⟩ := between rfl
    rw [many]
    have uncompared : SqlBuilder.comparison "BETWEEN" = none := rfl
    rw [imp_iff_right rfl, FilterValue.items, List.length_eq_two]
    simp [Testable, uncompared]
  · refine iff_of_true ?_ (fun between => absurd (Option.some.inj between) range)
    by_cases plain : op ∈ ["IS NULL", "IS NOT NULL", "IN", "NOT IN", "LIKE"]
    · exact .inl plain
    · obtain ⟨compared, single⟩ := comparison_of_offered op known plain range
      obtain ⟨c, comparison⟩ := Option.ne_none_iff_exists'.mp compared
      obtain ⟨value, one⟩ := text (fun other mem same => single other mem (Option.some.inj same))
      refine .inr (.inr ⟨c, comparison, .text value, one, .inr (.inr ⟨?_, fun b => ?_⟩)⟩)
      · rintro ⟨⟩
      · rintro ⟨⟩

theorem buildable_iff_ready (found : ∀ e ∈ datasets, env.find e.1 = some e.2) (inStep : InStep env datasets) {d : Definition}
    (designed : Designed (datasetsPayload datasets) d) : Buildable env d ↔ Ready env d := by
  have readable : ∀ {id column}, Offers (datasetsPayload datasets) id column → Readable env id column :=
    readable_of_offers found inStep
  constructor
  · intro b
    exact {
      chosen := b.chosen
      shown := b.shown
      fields := fun c mem => (b.fields c mem).1
      metrics := fun m mem => (b.metrics m mem).1.1
      groups := fun some_ g mem => (b.groups some_ g mem).1
      joins := fun r mem => ⟨(b.joins r mem).1, (b.joins r mem).2.1⟩
      filters := fun f mem => ⟨(b.filters f mem).1, (testable_iff (designed.filters f mem)).mp (b.filters f mem).2⟩
      orders := b.orders }
  · intro r
    exact {
      chosen := r.chosen
      physical := fun e mem => physical_of_lists found inStep (designed.datasets e mem)
      shown := r.shown
      fields := fun c mem => ⟨r.fields c mem, readable (designed.columns c mem)⟩
      metrics := fun m mem => by
        obtain ⟨offers, a, known⟩ := designed.metrics m mem
        exact ⟨⟨r.metrics m mem, readable offers⟩, aggregation_aggregateWord known⟩
      groups := fun some_ g mem => ⟨r.groups some_ g mem, readable (designed.groups g mem)⟩
      joins := fun j mem => by
        obtain ⟨word, known, same⟩ := designed.joins j mem
        exact ⟨(r.joins j mem).1, (r.joins j mem).2, same ▸ joinKind_of_offered known⟩
      filters := fun f mem => ⟨(r.filters f mem).1, (testable_iff (designed.filters f mem)).mpr (r.filters f mem).2⟩
      orders := r.orders }

end

/-- A table with one column. -/
def sales : SqlaTable := ⟨1, none, none, "sales", none, [⟨"id", none, none, false⟩], [], none⟩

theorem reflects_id (_ : TableRef) (columns : List String) (reflected : some ["id"] = some columns) : columns ≠ [] := by
  obtain rfl := Option.some.inj reflected
  exact List.cons_ne_nil _ _

def salesOnly : BuildEnv where
  find id := if id = 7 then some sales else none
  reflect _ := some ["id"]
  reflect_ne := reflects_id

/-- The column is shown and saved, and then its dataset is closed. -/
def closedAfterSave : List Move :=
  [.edit (.selectDataset 7), .edit (.dropColumn ⟨7, "id", "id"⟩), .save, .edit (.closeDataset 7)]

end XpBuilder.Designer
