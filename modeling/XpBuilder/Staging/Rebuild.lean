import XpBuilder.Library.Fallible
import XpBuilder.Library.Lists
import XpBuilder.Staging.Endpoints

/-! `prepare_table`: what has to hold before it sends a statement, when a failure
costs the table that was there, and when the same request finds its own table
again and leaves it alone. -/

namespace XpBuilder
open PythonText (truthy orElse lower)
open Fallible (bind_eq_ok pure_eq_ok)

namespace TableSchema

theorem typeSql_eq_ok_iff (raw : Option String) (type : String) :
    typeSql raw = .ok type ↔ ValidType raw ∧ type = typeText raw := by
  unfold typeSql ValidType
  simp only
  rw [Fallible.ite_throw_eq_ok, pure_eq_ok]
  simp

/-- The definition of a column whose type is valid. -/
def columnOf (c : ColumnSpec) : ColumnDef :=
  ⟨orElse c.name "", typeText c.type, contains (lower (orElse c.extra "")) "auto_increment",
    c.nullable, defaultSql c.default⟩

theorem columnDef_eq_ok_iff (c : ColumnSpec) (definition : ColumnDef) :
    columnDef c = .ok definition ↔ ValidType c.type ∧ definition = columnOf c := by
  simp only [columnDef, bind_eq_ok, pure_eq_ok, typeSql_eq_ok_iff, columnOf]
  constructor
  · rintro ⟨type, ⟨valid, rfl⟩, rfl⟩
    exact ⟨valid, rfl⟩
  · rintro ⟨valid, rfl⟩
    exact ⟨_, ⟨valid, rfl⟩, rfl⟩

/-- The secondary indexes of a new table, with their warnings. -/
def secondaryKeys (columns : List ColumnSpec) (indexlist : List IndexSpec) (createIndexes : Bool) :
    List (Option KeyDef × String) :=
  if createIndexes then
    (indexlist.filter (fun spec => !spec.primary)).map (fun spec => keyDef spec (specTypes columns))
  else []

end TableSchema

namespace Staging
open TableSchema

namespace PrepareRequest
variable (d : Database) (r : PrepareRequest)

/-- The request is one `prepare_table` can write down: a name, columns with valid
types and a dialect it speaks. -/
structure Ready : Prop where
  named : cleanName r.table ≠ ""
  columned : r.columns ≠ []
  dialect : isMysql (lower d.engine.dialect)
  typed : ∀ c ∈ r.columns, ValidType c.type

/-- The table that the request asks for, as it is written down. -/
def definition : TableDef :=
  ⟨r.columns.map columnOf, r.primaryKey.filter (fun n => n ∈ (specTypes r.columns).map Prod.fst),
    (secondaryKeys r.columns r.indexes r.createIndexes).filterMap Prod.fst,
    tableOptions r.collation⟩

def warnings : List String :=
  ((secondaryKeys r.columns r.indexes r.createIndexes).map Prod.snd).filter (· ≠ "")

/-- The shape of the table that the request asks for. -/
def wanted : Signature :=
  ⟨r.columns.map (fun c => (pyStr c.name, plainType (typeText c.type), c.nullable)), r.primaryKey,
    sortIndexes (r.indexes.map (fun i => (pyStr i.name, i.unique, i.columns)))⟩

/-- Where the inspector looks for the table, and where the statements go. -/
def inspected : Place := d.placeOf r.schema (cleanName r.table)

def place : Place := d.target (truthy r.schema) (cleanName r.table)

def existing (tables : Tables) : Option Signature :=
  (tables (r.inspected d)).map existingSignature

/-- What a request that changes something sends. -/
def plan (tables : Tables) : Rebuild :=
  ⟨(r.existing d tables).isSome, r.definition, r.warnings⟩

def created (tables : Tables) : Prepared :=
  ⟨cleanName r.table, true, (r.existing d tables).isSome, false, r.columns.length,
    (r.indexes.filter (fun i => !i.primary)).length, r.warnings⟩

theorem tableDef_eq_ok_iff (ddl : TableDef × List String) :
    tableDef r.columns r.primaryKey r.indexes r.createIndexes r.collation = .ok ddl ↔
      (∀ c ∈ r.columns, ValidType c.type) ∧ ddl = (r.definition, r.warnings) := by
  simp only [tableDef, bind_eq_ok, pure_eq_ok,
    Fallible.mapM_eq_ok_iff_map columnDef_eq_ok_iff]
  constructor
  · rintro ⟨definitions, ⟨typed, rfl⟩, rfl⟩
    exact ⟨typed, rfl⟩
  · rintro ⟨typed, rfl⟩
    exact ⟨_, ⟨typed, rfl⟩, rfl⟩

theorem wantedSignature_eq_ok_iff (signature : Signature) :
    wantedSignature r.columns r.primaryKey r.indexes = .ok signature ↔
      (∀ c ∈ r.columns, ValidType c.type) ∧ signature = r.wanted := by
  have column : ∀ (c : ColumnSpec) (s : String × String × Bool),
      (do
        let type ← typeSql c.type
        pure (pyStr c.name, plainType type, c.nullable) : Except String _) = .ok s ↔
        ValidType c.type ∧ s = (pyStr c.name, plainType (typeText c.type), c.nullable) := by
    intro c s
    simp only [bind_eq_ok, pure_eq_ok, typeSql_eq_ok_iff]
    constructor
    · rintro ⟨type, ⟨valid, rfl⟩, rfl⟩
      exact ⟨valid, rfl⟩
    · rintro ⟨valid, rfl⟩
      exact ⟨_, ⟨valid, rfl⟩, rfl⟩
  simp only [wantedSignature, bind_eq_ok, pure_eq_ok, Fallible.mapM_eq_ok_iff_map column]
  constructor
  · rintro ⟨columns, ⟨typed, rfl⟩, rfl⟩
    exact ⟨typed, rfl⟩
  · rintro ⟨typed, rfl⟩
    exact ⟨_, ⟨typed, rfl⟩, rfl⟩

/-- What `prepare_table` looks at before it sends a statement. -/
structure Sends (tables : Tables) : Prop extends r.Ready d where
  differs : r.existing d tables = some r.wanted → r.replace = true

end PrepareRequest

section
variable {d : Database} {r : PrepareRequest} {tables : Tables}

/-- The three outcomes of the part before the first statement. -/
theorem planRebuild_eq_ok_iff (plan : Option Rebuild) :
    planRebuild d r tables = .ok plan ↔ r.Ready d ∧
      plan = if r.replace = false ∧ r.existing d tables = some r.wanted then none
        else some (r.plan d tables) := by
  by_cases unnamed : cleanName r.table = ""
  · have unready : ¬r.Ready d := fun ready => ready.named unnamed
    simp [planRebuild, unnamed, unready]
  by_cases uncolumned : r.columns = []
  · have unready : ¬r.Ready d := fun ready => ready.columned uncolumned
    simp [planRebuild, unnamed, uncolumned, unready]
  by_cases dialect : isMysql (lower d.engine.dialect) = true
  · have ready : r.Ready d ↔ ∀ c ∈ r.columns, ValidType c.type :=
      ⟨fun ready => ready.typed, fun typed => ⟨unnamed, uncolumned, dialect, typed⟩⟩
    simp only [planRebuild, unnamed, uncolumned, dialect, if_false, Bool.true_eq_false,
      bind_eq_ok, r.wantedSignature_eq_ok_iff, ready]
    have written : ∀ plan, (do
        let ddl ← tableDef r.columns r.primaryKey r.indexes r.createIndexes r.collation
        pure (some ⟨(r.existing d tables).isSome, ddl.1, ddl.2⟩) :
          Except String (Option Rebuild)) = .ok plan ↔
        (∀ c ∈ r.columns, ValidType c.type) ∧
          plan = some (r.plan d tables) := by
      intro plan
      simp only [bind_eq_ok, pure_eq_ok, r.tableDef_eq_ok_iff]
      constructor
      · rintro ⟨ddl, ⟨typed, rfl⟩, rfl⟩
        exact ⟨typed, rfl⟩
      · rintro ⟨typed, rfl⟩
        exact ⟨_, ⟨typed, rfl⟩, rfl⟩
    have existing : (tables (d.placeOf r.schema (cleanName r.table))).map existingSignature =
      r.existing d tables := rfl
    simp only [existing]
    constructor
    · rintro ⟨signature, ⟨typed, rfl⟩, planned⟩
      refine ⟨typed, ?_⟩
      split_ifs at planned ⊢ with kept
      · exact pure_eq_ok.mp planned
      · exact ((written plan).mp planned).2
    · rintro ⟨typed, rfl⟩
      refine ⟨r.wanted, ⟨typed, rfl⟩, ?_⟩
      split_ifs with kept
      · rfl
      · exact (written _).mpr ⟨typed, rfl⟩
  · have unready : ¬r.Ready d := fun ready => dialect ready.dialect
    simp [planRebuild, unnamed, uncolumned, dialect, unready]

theorem planRebuild_of_sends (h : r.Sends d tables) : planRebuild d r tables =
    .ok (some (r.plan d tables)) := by
  rw [planRebuild_eq_ok_iff]
  refine ⟨h.toReady, ?_⟩
  rw [if_neg]
  rintro ⟨keep, same⟩
  exact absurd (h.differs same) (by simp [keep])

theorem sends_of_planRebuild {plan : Rebuild} (h : planRebuild d r tables = .ok (some plan)) :
    r.Sends d tables := by
  obtain ⟨ready, planned⟩ := (planRebuild_eq_ok_iff _).mp h
  refine ⟨ready, fun same => ?_⟩
  by_contra keep
  rw [if_pos ⟨by simpa using keep, same⟩] at planned
  exact absurd planned (by simp)

theorem prepareTable_of_not_sends (h : ¬r.Sends d tables) : (prepareTable d r tables).2 = tables := by
  unfold prepareTable
  cases planned : planRebuild d r tables with
  | error e => rfl
  | ok plan =>
    cases plan with
    | none => rfl
    | some plan => exact absurd (sends_of_planRebuild planned) h

theorem prepareTable_of_sends (h : r.Sends d tables) : prepareTable d r tables =
    ((rebuild d (r.place d) (r.plan d tables) tables).1.map (fun _ => r.created d tables),
      (rebuild d (r.place d) (r.plan d tables) tables).2) := by
  simp only [prepareTable, planRebuild_of_sends h]
  rfl

/-- A matching table is reported as such and kept. -/
theorem prepareTable_of_same (ready : r.Ready d) (keep : r.replace = false)
    (same : r.existing d tables = some r.wanted) : prepareTable d r tables =
      (.ok ⟨cleanName r.table, false, false, true, r.columns.length, 0, []⟩, tables) := by
  have planned : planRebuild d r tables = .ok none := by
    rw [planRebuild_eq_ok_iff, if_pos ⟨keep, same⟩]
    exact ⟨ready, rfl⟩
  simp only [prepareTable, planned]

/-! ## A failure and the table that was there -/

theorem rebuild_of_refused {e : String} (target : Place) (plan : Rebuild) (tables : Tables)
    (refused : d.engine.create plan.definition = .error e) :
    (∃ e', (rebuild d target plan tables).1 = .error e') ∧
      (rebuild d target plan tables).2 = if plan.drops then put tables target none else tables := by
  unfold rebuild
  dsimp only
  split
  · exact ⟨⟨_, rfl⟩, rfl⟩
  · rw [refused]
    exact ⟨⟨_, rfl⟩, rfl⟩

/-- A server that takes the statement fails it only where no table was dropped. -/
theorem rebuild_of_accepted {t : StagedTable} (target : Place) (plan : Rebuild) (tables : Tables)
    (accepted : d.engine.create plan.definition = .ok t) :
    rebuild d target plan tables =
      if plan.drops = false ∧ (tables target).isSome then (.error "table already exists", tables)
      else (.ok (), put tables target (some t)) := by
  unfold rebuild
  dsimp only
  cases plan.drops with
  | true => simp [put, accepted]
  | false => cases found : tables target <;> simp [found, accepted]

/-- If the request fails, every table is as it was. -/
def KeepsOnFailure (d : Database) (r : PrepareRequest) (tables : Tables) : Prop :=
  ∀ e, (prepareTable d r tables).1 = .error e →
    ∀ p t, tables p = some t → (prepareTable d r tables).2 p = some t

/-- A table that the statements drop is one the server can create anew. -/
def Recreatable (d : Database) (r : PrepareRequest) (tables : Tables) : Prop :=
  r.Sends d tables → (tables (r.inspected d)).isSome → (tables (r.place d)).isSome →
    ∃ t, d.engine.create r.definition = .ok t

theorem keepsOnFailure_iff_recreatable (d : Database) (r : PrepareRequest) (tables : Tables) :
    KeepsOnFailure d r tables ↔ Recreatable d r tables := by
  have drops : (r.existing d tables).isSome = (tables (r.inspected d)).isSome :=
    Option.isSome_map
  constructor
  · intro keeps sends inspected occupied
    by_contra none'
    obtain ⟨e, refused⟩ : ∃ e, d.engine.create r.definition = .error e := by
      cases created : d.engine.create r.definition with
      | error e => exact ⟨e, rfl⟩
      | ok t => exact absurd ⟨t, created⟩ none'
    obtain ⟨⟨e', failed⟩, left⟩ := rebuild_of_refused (r.place d) (r.plan d tables) tables refused
    obtain ⟨t, there⟩ := Option.isSome_iff_exists.mp occupied
    have dropped : (r.plan d tables).drops = true := drops.trans inspected
    have lost := keeps e' (by rw [prepareTable_of_sends sends, failed]; rfl) (r.place d) t there
    rw [prepareTable_of_sends sends, left, if_pos dropped] at lost
    simp [put] at lost
  · intro recreatable e failed p t there
    by_cases sends : r.Sends d tables
    · rw [prepareTable_of_sends sends] at failed ⊢
      cases created : d.engine.create r.definition with
      | error refusal =>
        have left := (rebuild_of_refused (r.place d) (r.plan d tables) tables created).2
        rw [left]
        split_ifs with dropped
        · by_cases at_place : p = r.place d
          · have inspected : (tables (r.inspected d)).isSome := drops.symm.trans dropped
            have accepted := recreatable sends inspected (by rw [← at_place, there]; rfl)
            rw [created] at accepted
            simp at accepted
          · simp [put, at_place, there]
        · exact there
      | ok fresh =>
        rw [rebuild_of_accepted (r.place d) (r.plan d tables) tables created] at failed ⊢
        split_ifs at failed ⊢
        · exact there
        · simp [Except.map] at failed
    · rw [prepareTable_of_not_sends sends]
      exact there

end

/-- A server that creates what it is asked to create. -/
def willing : Engine where
  dialect := "mysql"
  schemaOf _ := some "main"
  create definition := .ok definition.declared
  alter t _ := .ok t
  toSql _ frame _ _ := ⟨some ⟨frame.names.map (fun n => (n, "TEXT", true)), [], [], []⟩, none⟩

/-- A server that knows two column types. -/
def choosy : Engine := { willing with
  create := fun definition =>
    if definition.columns.all (fun c => c.type ∈ ["int", "longtext"]) then
      .ok definition.declared
    else .error "Unknown data type" }

/-- A table of one row. -/
def gradesTables : Tables := fun p =>
  if p = ⟨1, some "main", "grades"⟩ then some ⟨[("id", "int", false)], [], [], [[.number 1]]⟩
  else none

def gradesRequest (type : String) : PrepareRequest :=
  ⟨"grades", none, [⟨some "id", some type, false, none, none⟩], [], [], true, true, none⟩

/-- A misspelt type passes the check of column types and costs the table. -/
theorem misspeltType_not_keepsOnFailure :
    ¬KeepsOnFailure ⟨1, true, choosy⟩ (gradesRequest "intt") gradesTables := by
  intro keeps
  obtain ⟨e, failed⟩ : ∃ e, (prepareTable ⟨1, true, choosy⟩ (gradesRequest "intt")
      gradesTables).1 = .error e := ⟨_, rfl⟩
  have kept := keeps e failed ⟨1, some "main", "grades"⟩ _ rfl
  have lost : (prepareTable ⟨1, true, choosy⟩ (gradesRequest "intt") gradesTables).2
      ⟨1, some "main", "grades"⟩ = none := rfl
  rw [lost] at kept
  simp at kept

/-! ## The same request again -/

/-- The same tables with other rows. -/
def SameShapes (tables tables' : Tables) : Prop :=
  ∀ p, (tables' p).map StagedTable.shape = (tables p).map StagedTable.shape

/-- After a first success the request without replacement leaves all alone. -/
def Repeatable (d : Database) (r : PrepareRequest) : Prop :=
  ∀ tables first, (prepareTable d r tables).1 = .ok first →
    ∀ tables', SameShapes (prepareTable d r tables).2 tables' →
      (prepareTable d { r with replace := false } tables').2 = tables' ∧
      ∃ again, (prepareTable d { r with replace := false } tables').1 = .ok again ∧ again.unchanged

/-- An index is created the way it is asked for. -/
structure AsAsked (coltypes : List (String × String)) (spec : IndexSpec) : Prop where
  secondary : spec.primary = false
  known : ∀ n ∈ spec.columns, n ∈ coltypes.map Prod.fst ∧ quotedName n = n
  created : ∃ key, (keyDef spec coltypes).1 = some key ∧ quotedName key.label = pyStr spec.name ∧
    key.unique = spec.unique

/-- The indexes as the request names them. -/
def asked (spec : IndexSpec) : String × Bool × List String :=
  (pyStr spec.name, spec.unique, spec.columns)

/-- An index as the inspector reports the key made for it. -/
def reported (key : KeyDef) : String × Bool × List String :=
  (quotedName key.label, key.unique, key.parts.map (fun part => quotedName part.column))

/-- The inspector reads back from the new table what the request says. -/
structure PrepareRequest.SelfDescribing (d : Database) (r : PrepareRequest) : Prop where
  place : r.inspected d = r.place d
  columns : ∀ c ∈ r.columns, (∃ n, c.name = some n ∧ quotedName n = n) ∧
    (c.nullable → (columnOf c).autoIncrement = false)
  primary : ∀ n ∈ r.primaryKey, n ∈ (specTypes r.columns).map Prod.fst ∧ quotedName n = n
  kept : r.createIndexes = false → r.indexes = []
  indexes : ∀ spec ∈ r.indexes, AsAsked (specTypes r.columns) spec

section
variable {coltypes : List (String × String)} {spec : IndexSpec} {key : KeyDef}

@[simp] theorem quotedName_quotedName (n : String) : quotedName (quotedName n) = quotedName n := by
  simp [quotedName, List.filter_filter]

theorem shrinkParts_columns (overflow : Int) (plan : List PlanPart) :
    (shrinkParts overflow plan).1.map PlanPart.column = plan.map PlanPart.column := by
  induction plan generalizing overflow with
  | nil => rfl
  | cons part rest ih =>
    unfold shrinkParts
    by_cases fits : overflow ≤ 0
    · simp [fits]
    · simp only [fits, if_false]
      cases part.prefixChars with
      | none => simp [ih]
      | some p =>
        dsimp only
        split_ifs <;> simp [ih]

theorem planPart_column (prefixes : List (String × Int)) (n : String) :
    (planPart coltypes prefixes n).column = n := by
  unfold planPart
  dsimp only
  cases (lastValue n coltypes).bind keyChars with
  | none => rfl
  | some chars => dsimp only; split <;> rfl

/-- The key made for an index is on its known columns, under its name or else
that of the first one, and unique only if the index is. -/
theorem keyDef_some (h : (keyDef spec coltypes).1 = some key) :
    (∃ first rest, knownColumns spec coltypes = first :: rest ∧ key.label = orElse spec.name first) ∧
      key.parts.map KeyPart.column = knownColumns spec coltypes ∧
      (key.unique = true → spec.unique = true) := by
  unfold keyDef at h
  split at h
  · simp at h
  · rename_i first rest known
    dsimp only at h
    split at h
    · simp at h
    · obtain rfl := Option.some.inj h
      refine ⟨⟨first, rest, known, rfl⟩, ?_, fun unique => (Bool.and_eq_true_iff.mp unique).1⟩
      have columns : ∀ parts : List PlanPart,
          (parts.map PlanPart.part).map KeyPart.column = parts.map PlanPart.column := by
        intro parts
        rw [List.map_map]
        rfl
      rw [columns, fitKeyPrefixes, shrinkParts_columns, List.map_map, known]
      conv_rhs => rw [← List.map_id (first :: rest)]
      exact List.map_congr_left (fun n _ => planPart_column spec.prefixes n)

/-- The key that a request makes for an index, if any. -/
def made (coltypes : List (String × String)) (spec : IndexSpec) :
    Option (String × Bool × List String) :=
  if spec.primary then none else (keyDef spec coltypes).1.map reported

theorem made_eq_some {i : String × Bool × List String} (h : made coltypes spec = some i) :
    spec.primary = false ∧ ∃ key, (keyDef spec coltypes).1 = some key ∧ i = reported key ∧
      i.2.2 = (knownColumns spec coltypes).map quotedName := by
  unfold made at h
  split at h
  · simp at h
  · rename_i secondary
    obtain ⟨key, found, rfl⟩ := Option.map_eq_some_iff.mp h
    refine ⟨by simpa using secondary, key, found, rfl, ?_⟩
    rw [← (keyDef_some found).2.1, List.map_map]
    rfl

theorem made_eq_asked_iff : made coltypes spec = some (asked spec) ↔ AsAsked coltypes spec := by
  constructor
  · intro h
    obtain ⟨secondary, key, found, same, columns⟩ := made_eq_some h
    refine ⟨secondary, ?_, key, found, (congrArg Prod.fst same).symm,
      (congrArg (fun i => i.2.1) same).symm⟩
    have whole := Lists.map_filter_eq_self_iff.mp columns.symm
    intro n mem
    have each := whole n mem
    exact ⟨of_decide_eq_true each.1, each.2⟩
  · rintro ⟨secondary, known, key, found, name, unique⟩
    have columns : (knownColumns spec coltypes).map quotedName = spec.columns :=
      Lists.map_filter_eq_self_iff.mpr (fun n mem => ⟨decide_eq_true (known n mem).1, (known n mem).2⟩)
    have parts : key.parts.map (fun part => quotedName part.column) = spec.columns := by
      rw [← columns, ← (keyDef_some found).2.1, List.map_map]
      rfl
    simp [made, secondary, found, reported, asked, name, unique, parts]

end

section
variable {coltypes : List (String × String)} {specs : List IndexSpec}

/-- What is reported of the key made for an index, and the index itself when none is. -/
def remade (coltypes : List (String × String)) (spec : IndexSpec) : String × Bool × List String :=
  (made coltypes spec).getD (asked spec)

def isNamed (spec : IndexSpec) : Bool := (truthy spec.name).isSome

/-- Every index has a key made for it, and together they are the indexes asked for. -/
structure Remade (coltypes : List (String × String)) (specs : List IndexSpec) : Prop where
  each : ∀ spec ∈ specs, made coltypes spec = some (remade coltypes spec)
  perm : (specs.map (remade coltypes)).Perm (specs.map asked)

theorem remade_of_perm (perm : (specs.filterMap (made coltypes)).Perm (specs.map asked)) :
    Remade coltypes specs := by
  have some_made : ∀ spec ∈ specs, (made coltypes spec).isSome :=
    Lists.isSome_of_length_filterMap (by rw [perm.length_eq, List.length_map])
  have each : ∀ spec ∈ specs, made coltypes spec = some (remade coltypes spec) := by
    intro spec mem
    obtain ⟨i, hi⟩ := Option.isSome_iff_exists.mp (some_made spec mem)
    simp [remade, hi]
  have all : specs.filterMap (made coltypes) = specs.map (remade coltypes) := by
    rw [← List.filterMap_eq_map]
    exact List.filterMap_congr each
  exact ⟨each, all ▸ perm⟩

namespace Remade
variable (h : Remade coltypes specs) {spec : IndexSpec} (mem : spec ∈ specs)
include h mem

/-- An index asked for is what some key is reported as. -/
theorem source : ∃ other ∈ specs, remade coltypes other = asked spec :=
  List.mem_map.mp (h.perm.mem_iff.mpr (List.mem_map_of_mem mem))

/-- The columns of an index occur among the reported ones. -/
theorem reported_column {n : String} (listed : n ∈ spec.columns) :
    ∃ other ∈ specs, n ∈ (knownColumns other coltypes).map quotedName := by
  obtain ⟨other, mem', same⟩ := h.source mem
  obtain ⟨-, key, -, -, columns⟩ := made_eq_some (h.each other mem')
  rw [same] at columns
  have inside : n ∈ (asked spec).2.2 := listed
  exact ⟨other, mem', columns ▸ inside⟩

theorem clean {n : String} (listed : n ∈ spec.columns) : quotedName n = n := by
  obtain ⟨other, -, there⟩ := h.reported_column mem listed
  obtain ⟨m, -, rfl⟩ := List.mem_map.mp there
  simp

theorem known {n : String} (listed : n ∈ spec.columns) : n ∈ coltypes.map Prod.fst := by
  obtain ⟨other, mem', there⟩ := h.reported_column mem listed
  obtain ⟨m, known, rfl⟩ := List.mem_map.mp there
  have inside := List.mem_filter.mp known
  rw [h.clean mem' inside.1]
  exact of_decide_eq_true inside.2

theorem columns : (remade coltypes spec).2.2 = spec.columns := by
  obtain ⟨-, key, -, -, columns⟩ := made_eq_some (h.each spec mem)
  rw [columns]
  apply Lists.map_filter_eq_self_iff.mpr
  intro n listed
  exact ⟨decide_eq_true (h.known mem listed), h.clean mem listed⟩

theorem label : ∃ first rest, spec.columns = first :: rest ∧
    (remade coltypes spec).1 = quotedName (orElse spec.name first) := by
  obtain ⟨-, key, found, same, -⟩ := made_eq_some (h.each spec mem)
  obtain ⟨⟨first, rest, all, label⟩, -, -⟩ := keyDef_some found
  have whole : knownColumns spec coltypes = spec.columns := by
    apply List.filter_eq_self.mpr
    intro n listed
    exact decide_eq_true (h.known mem listed)
  refine ⟨first, rest, whole.symm.trans all, ?_⟩
  rw [same, ← label]
  rfl

/-- An index demoted to non-unique would leave a unique one too few. -/
theorem unique : (remade coltypes spec).2.1 = spec.unique := by
  have weaker : ∀ spec ∈ specs, (remade coltypes spec).2.1 = true → spec.unique = true := by
    intro spec mem
    obtain ⟨-, key, found, same, -⟩ := made_eq_some (h.each spec mem)
    rw [same]
    exact (keyDef_some found).2.2
  have count : specs.countP (fun spec => (remade coltypes spec).2.1) =
      specs.countP (fun spec => spec.unique) := by
    have counts := h.perm.countP_eq (fun i => i.2.1)
    rw [List.countP_map, List.countP_map] at counts
    exact counts
  have stronger := Lists.imp_of_countP_eq weaker count
  exact Bool.eq_iff_iff.mpr ⟨weaker spec mem, stronger spec mem⟩

theorem clean_name : quotedName (pyStr spec.name) = pyStr spec.name := by
  obtain ⟨other, mem', same⟩ := h.source mem
  obtain ⟨first, rest, -, label⟩ := h.label mem'
  have name : pyStr spec.name = quotedName (orElse other.name first) := by
    rw [← label, same]
    rfl
  rw [name, quotedName_quotedName]

theorem eq_asked_of_label (name : (remade coltypes spec).1 = pyStr spec.name) :
    remade coltypes spec = asked spec :=
  Prod.ext name (Prod.ext (h.unique mem) (h.columns mem))

theorem eq_asked_of_named (named : isNamed spec) : remade coltypes spec = asked spec := by
  obtain ⟨n, there⟩ := Option.isSome_iff_exists.mp named
  obtain ⟨name, nonempty⟩ := PythonText.truthy_eq_some there
  obtain ⟨first, rest, -, label⟩ := h.label mem
  have fixed := h.clean_name mem
  apply h.eq_asked_of_label mem
  rw [label, name]
  simpa [orElse, nonempty, name, pyStr] using fixed

/-- Without a name an index has that of its first column. -/
theorem label_of_unnamed (unnamed : isNamed spec = false) {first : String} {rest : List String}
    (columns : spec.columns = first :: rest) : (remade coltypes spec).1 = quotedName first := by
  obtain ⟨first', rest', columns', label⟩ := h.label mem
  obtain rfl : first' = first := (List.cons.inj (columns'.symm.trans columns)).1
  have fallback : orElse spec.name first' = first' := by
    cases name : spec.name with
    | none => rfl
    | some n =>
      by_cases empty : n = ""
      · simp [orElse, empty]
      · simp [isNamed, name, truthy, empty] at unnamed
  rw [label, fallback]

/-- Unnamed indexes on the same columns get the same name. -/
theorem eq_asked_of_unnamed (unnamed : isNamed spec = false) : remade coltypes spec = asked spec := by
  have rest_perm := Lists.perm_map_filter_not h.perm (fun spec mem => h.eq_asked_of_named mem)
  have member : asked spec ∈ (specs.filter (fun spec => !isNamed spec)).map asked :=
    List.mem_map_of_mem (List.mem_filter.mpr ⟨mem, by simp [unnamed]⟩)
  obtain ⟨other, kept, same⟩ := List.mem_map.mp (rest_perm.mem_iff.mpr member)
  obtain ⟨mem', unnamed'⟩ := List.mem_filter.mp kept
  obtain ⟨first, rest, columns, -⟩ := h.label mem
  have shared : other.columns = first :: rest := by
    rw [← h.columns mem', same]
    exact columns
  apply h.eq_asked_of_label mem
  rw [h.label_of_unnamed mem unnamed columns,
    ← h.label_of_unnamed mem' (by simpa using unnamed') shared, same]
  rfl

end Remade

/-- If the keys made are the indexes asked for in some order, each index is made into
itself. -/
theorem asAsked_of_perm (perm : (specs.filterMap (made coltypes)).Perm (specs.map asked)) :
    ∀ spec ∈ specs, AsAsked coltypes spec := by
  intro spec mem
  have h := remade_of_perm perm
  apply made_eq_asked_iff.mp
  rw [h.each spec mem]
  cases named : isNamed spec with
  | true => rw [h.eq_asked_of_named mem named]
  | false => rw [h.eq_asked_of_unnamed mem named]

end

theorem indexKey_injective : Function.Injective indexKey := fun _ _ h => h

namespace PrepareRequest
variable (d : Database) (r : PrepareRequest)

/-- The keys of the definition, read back. -/
theorem definition_keys_reported : r.definition.keys.map reported =
    if r.createIndexes then r.indexes.filterMap (made (specTypes r.columns)) else [] := by
  have keys : r.definition.keys =
      (secondaryKeys r.columns r.indexes r.createIndexes).filterMap Prod.fst := rfl
  rw [keys, secondaryKeys]
  cases r.createIndexes with
  | false => rfl
  | true =>
    simp only [if_true, List.filterMap_map, List.map_filterMap, List.filterMap_filter]
    apply List.filterMap_congr
    intro spec _
    cases primary : spec.primary <;> simp [made, primary]

theorem indexes_agree_iff : sortIndexes r.definition.declared.indexes = r.wanted.indexes ↔
    (r.createIndexes = false → r.indexes = []) ∧
      ∀ spec ∈ r.indexes, AsAsked (specTypes r.columns) spec := by
  have declared : r.definition.declared.indexes = r.definition.keys.map reported := rfl
  have wanted : r.wanted.indexes = sortIndexes (r.indexes.map asked) := rfl
  rw [declared, wanted, definition_keys_reported, sortIndexes, sortIndexes,
    Lists.insertionSort_eq_iff_perm indexKey_injective]
  cases r.createIndexes with
  | false =>
    simp only [Bool.false_eq_true, if_false, List.nil_perm, List.map_eq_nil_iff, forall_const]
    constructor
    · intro none
      exact ⟨none, by simp [none]⟩
    · exact fun h => h.1
  | true =>
    simp only [if_true, Bool.true_eq_false, false_implies, true_and]
    constructor
    · exact asAsked_of_perm
    · intro each
      rw [← List.filterMap_eq_map, List.filterMap_congr (fun spec mem =>
        made_eq_asked_iff.mpr (each spec mem))]
      rfl

theorem quotedName_eq_pyStr_iff (name : Option String) :
    quotedName (orElse name "") = pyStr name ↔ ∃ n, name = some n ∧ quotedName n = n := by
  cases name with
  | none =>
    have differ : quotedName (orElse none "") ≠ pyStr none := by decide
    simp [differ]
  | some n =>
    have same : orElse (some n) "" = n := by
      by_cases empty : n = "" <;> simp [orElse, empty]
    simp [same, pyStr]

/-- The inspector reads the wanted shape off the new table. -/
theorem existingSignature_declared_iff : existingSignature r.definition.declared = r.wanted ↔
    (∀ c ∈ r.columns, (∃ n, c.name = some n ∧ quotedName n = n) ∧
      (c.nullable → (columnOf c).autoIncrement = false)) ∧
    (∀ n ∈ r.primaryKey, n ∈ (specTypes r.columns).map Prod.fst ∧ quotedName n = n) ∧
    (r.createIndexes = false → r.indexes = []) ∧
      ∀ spec ∈ r.indexes, AsAsked (specTypes r.columns) spec := by
  have columns : (existingSignature r.definition.declared).columns = r.wanted.columns ↔
      ∀ c ∈ r.columns, (∃ n, c.name = some n ∧ quotedName n = n) ∧
        (c.nullable → (columnOf c).autoIncrement = false) := by
    simp only [existingSignature, TableDef.declared, definition, wanted, List.map_map,
      List.map_inj_left]
    apply forall₂_congr
    intro c _
    rw [← quotedName_eq_pyStr_iff]
    simp only [Function.comp, columnOf, Prod.mk.injEq, true_and]
    cases c.nullable <;> simp
  have primary : (existingSignature r.definition.declared).primary = r.wanted.primary ↔
      ∀ n ∈ r.primaryKey, n ∈ (specTypes r.columns).map Prod.fst ∧ quotedName n = n := by
    have each := Lists.map_filter_eq_self_iff (f := quotedName) (l := r.primaryKey)
      (p := fun n => decide (n ∈ (specTypes r.columns).map Prod.fst))
    simp only [decide_eq_true_eq] at each
    exact each
  rw [← columns, ← primary, ← r.indexes_agree_iff]
  constructor
  · intro same
    exact ⟨congrArg Signature.columns same, congrArg Signature.primary same,
      congrArg Signature.indexes same⟩
  · rintro ⟨columns, primary, indexes⟩
    exact Signature.ext columns primary indexes

end PrepareRequest

/-- The server takes the statement that the request is written down as. -/
def Creatable (d : Database) (r : PrepareRequest) : Prop :=
  r.Ready d ∧ ∃ t, d.engine.create r.definition = .ok t

theorem SameShapes.existing {d : Database} {tables tables' : Tables} (h : SameShapes tables tables')
    (r : PrepareRequest) : r.existing d tables' = r.existing d tables := by
  have shape : ∀ t : Option StagedTable,
      t.map existingSignature = (t.map StagedTable.shape).map existingSignature := by
    intro t
    cases t <;> rfl
  unfold PrepareRequest.existing
  rw [shape, h, ← shape]

section
variable {d : Database} {r : PrepareRequest}

/-- After a first success the table is there in the shape the definition declares,
or it was found in the wanted shape already. -/
theorem existing_of_success
    (reports : ∀ definition t, d.engine.create definition = .ok t → t = definition.declared)
    {tables : Tables} {first : Prepared} (ok : (prepareTable d r tables).1 = .ok first) :
    (r.Ready d ∧ r.existing d (prepareTable d r tables).2 = some r.wanted) ∨
      (Creatable d r ∧ (prepareTable d r tables).2 (r.place d) = some r.definition.declared) := by
  by_cases sends : r.Sends d tables
  · rw [prepareTable_of_sends sends] at ok ⊢
    cases created : d.engine.create r.definition with
    | error e =>
      obtain ⟨⟨e', failed⟩, -⟩ := rebuild_of_refused (r.place d) (r.plan d tables) tables created
      rw [failed] at ok
      simp [Except.map] at ok
    | ok t =>
      rw [rebuild_of_accepted (r.place d) (r.plan d tables) tables created] at ok ⊢
      split_ifs at ok ⊢
      · simp [Except.map] at ok
      · right
        refine ⟨⟨sends.toReady, t, created⟩, ?_⟩
        rw [← reports _ _ created]
        simp [put]
  · cases planned : planRebuild d r tables with
    | error e => simp [prepareTable, planned] at ok
    | ok plan =>
      cases plan with
      | some plan => exact absurd (sends_of_planRebuild planned) sends
      | none =>
        obtain ⟨ready, kept⟩ := (planRebuild_eq_ok_iff _).mp planned
        split_ifs at kept with same
        · left
          rw [prepareTable_of_not_sends sends]
          exact ⟨ready, same.2⟩

/-- On a server whose inspector reports what was declared, the request can be
repeated exactly if the table it creates describes itself in its words. -/
theorem repeatable_iff_selfDescribing
    (reports : ∀ definition t, d.engine.create definition = .ok t → t = definition.declared) :
    Repeatable d r ↔ (Creatable d r → r.SelfDescribing d) := by
  have describes : r.SelfDescribing d ↔ r.inspected d = r.place d ∧
      existingSignature r.definition.declared = r.wanted := by
    rw [r.existingSignature_declared_iff]
    exact ⟨fun h => ⟨h.place, h.columns, h.primary, h.kept, h.indexes⟩,
      fun h => ⟨h.1, h.2.1, h.2.2.1, h.2.2.2.1, h.2.2.2.2⟩⟩
  have again_ready : r.Ready d → ({ r with replace := false } : PrepareRequest).Ready d :=
    fun ready => ⟨ready.named, ready.columned, ready.dialect, ready.typed⟩
  constructor
  · rintro repeatable ⟨ready, t, created⟩
    let empty : Tables := fun _ => none
    have sends : r.Sends d empty :=
      ⟨ready, fun same => by simp [PrepareRequest.existing, empty] at same⟩
    have first : prepareTable d r empty = (.ok (r.created d empty), put empty (r.place d) (some t)) := by
      rw [prepareTable_of_sends sends, rebuild_of_accepted _ (r.plan d empty) empty created]
      simp [empty, Except.map]
    obtain ⟨-, again, ok, unchanged⟩ := repeatable empty (r.created d empty) (by rw [first])
      (prepareTable d r empty).2 (fun _ => rfl)
    rw [first] at ok
    have found : r.existing d (put empty (r.place d) (some t)) = some r.wanted := by
      by_contra other
      have resends : ({ r with replace := false } : PrepareRequest).Sends d
          (put empty (r.place d) (some t)) :=
        ⟨again_ready ready, fun same => absurd same other⟩
      rw [prepareTable_of_sends resends] at ok
      generalize (rebuild d _ _ _).1 = outcome at ok
      cases outcome with
      | error e => simp [Except.map] at ok
      | ok done =>
        rw [← Except.ok.inj ok] at unchanged
        simp [PrepareRequest.created] at unchanged
    rw [describes]
    by_cases same : r.inspected d = r.place d
    · refine ⟨same, ?_⟩
      rw [PrepareRequest.existing, same] at found
      rw [← reports _ _ created]
      simpa [put] using found
    · simp [PrepareRequest.existing, put, same, empty] at found
  · intro describing tables first ok tables' shapes
    have kept : r.Ready d ∧ r.existing d tables' = some r.wanted := by
      rw [shapes.existing r]
      rcases existing_of_success reports ok with found | ⟨creatable, stored⟩
      · exact found
      · obtain ⟨place, declared⟩ := describes.mp (describing creatable)
        rw [PrepareRequest.existing, place, stored, Option.map_some, declared]
        exact ⟨creatable.1, rfl⟩
    rw [prepareTable_of_same (again_ready kept.1) rfl kept.2]
    exact ⟨rfl, _, rfl, rfl⟩

end

theorem willing_reports (definition : TableDef) (t : StagedTable)
    (h : willing.create definition = .ok t) : t = definition.declared := (Except.ok.inj h).symm

/-- One NOT NULL column. -/
theorem gradesRequest_repeatable : Repeatable ⟨1, true, willing⟩ (gradesRequest "int") := by
  rw [repeatable_iff_selfDescribing willing_reports]
  intro _
  refine ⟨rfl, fun c mem => ?_, by simp [gradesRequest], fun h => by simp [gradesRequest] at h,
    by simp [gradesRequest]⟩
  obtain rfl := List.mem_singleton.mp mem
  exact ⟨⟨"id", rfl, by decide⟩, by simp⟩

/-- The request of a source table with its primary key listed among the indexes. -/
def keyedRequest : PrepareRequest :=
  { gradesRequest "int" with
    primaryKey := ["id"]
    indexes := [⟨some "PRIMARY", true, true, ["id"], []⟩]
    replace := false }

/-- The primary key is no index to the inspector, so the repeated request drops the
table with the rows loaded in between. -/
theorem keyedRequest_not_repeatable : ¬Repeatable ⟨1, true, willing⟩ keyedRequest := by
  intro repeatable
  let created := (prepareTable ⟨1, true, willing⟩ keyedRequest (fun _ => none)).2
  let loaded : Tables := fun p => (created p).map (fun t => { t with rows := [[.number 1]] })
  have shapes : SameShapes created loaded := by
    intro p
    simp only [loaded, Option.map_map]
    rfl
  obtain ⟨first, ok⟩ : ∃ first, (prepareTable ⟨1, true, willing⟩ keyedRequest
      (fun _ => none)).1 = .ok first := ⟨_, rfl⟩
  obtain ⟨-, again, answer, unchanged⟩ := repeatable _ first ok loaded shapes
  have dropped : (prepareTable ⟨1, true, willing⟩ { keyedRequest with replace := false } loaded).1 =
      .ok ⟨"grades", true, true, false, 1, 0, []⟩ := rfl
  rw [← Except.ok.inj (dropped.symm.trans answer)] at unchanged
  simp at unchanged

end Staging
end XpBuilder
