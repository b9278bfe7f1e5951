import XpBuilder.Staging.Constraints

/-! A second call of `ensure_indexes`, after a first one or after `prepare_table` with the same
indexes, and what a call reports on each of them. The inspector is asked for the names of the list,
and the indexes are made under cleaned names, or under the name of a column. -/

namespace XpBuilder
open TableSchema (KeyDef keyDef knownColumns quotedName cleanName pyStr)
open PythonText (orElse lower truthy)
open Staging

/-- The name under which an index of the list is looked for and reported. -/
def IndexSpec.title (spec : IndexSpec) : String := orElse spec.name "index"

/-- The name an index is made under, as the inspector reports it. -/
def TableSchema.KeyDef.made (key : KeyDef) : String := lower (quotedName key.label)

namespace StagedTable
variable (t : StagedTable) (spec : IndexSpec)

/-- The list names a primary key that the table can have. -/
def WantsPrimary : Prop := spec.primary = true ∧ knownColumns spec t.coltypes ≠ []

/-- The secondary index that the table does not have yet and can have. -/
def keyFor : Option KeyDef :=
  if spec.primary = true ∨ lower spec.title ∈ t.indexNames then none else (keyDef spec t.coltypes).1

end StagedTable

theorem planIndex_eq_add_iff {coltypes : List (String × String)} {existing : List String} {hasPrimary : Bool}
    {spec : IndexSpec} {change : KeyChange} {name note : String} :
    planIndex coltypes existing hasPrimary spec = .add change name note ↔
      (spec.primary = true ∧ knownColumns spec coltypes ≠ [] ∧ hasPrimary = false ∧
        change = .primary (knownColumns spec coltypes) ∧ name = "PRIMARY" ∧ note = "") ∨
      (spec.primary = false ∧ lower spec.title ∉ existing ∧ name = spec.title ∧
        ∃ key, keyDef spec coltypes = (some key, note) ∧ change = .secondary key) := by
  unfold planIndex
  dsimp only
  by_cases absent : knownColumns spec coltypes = []
  · have none : keyDef spec coltypes = (none, "") := by rw [keyDef, absent]
    simp [absent, none]
  · rw [if_neg absent]
    cases primary : spec.primary with
    | true =>
      cases hasPrimary with
      | true => simp
      | false => simp [absent, eq_comm]
    | false =>
      simp only [Bool.false_eq_true, if_false, false_and, false_or, true_and]
      by_cases present : lower spec.title ∈ existing
      · have same : lower (orElse spec.name "index") ∈ existing := present
        simp [same, present]
      · have other : lower (orElse spec.name "index") ∉ existing := present
        rw [if_neg other]
        cases made : keyDef spec coltypes with
        | mk key warning =>
          cases key with
          | none => simp
          | some key =>
            simp only [IndexPlan.add.injEq, other, not_false_eq_true, IndexSpec.title, true_and, Prod.mk.injEq,
              Option.some.injEq]
            constructor
            · rintro ⟨rfl, rfl, rfl⟩
              exact ⟨rfl, key, ⟨rfl, rfl⟩, rfl⟩
            · rintro ⟨rfl, _, ⟨rfl, rfl⟩, rfl⟩
              exact ⟨rfl, rfl, rfl⟩

/-! ## The statements sent -/

section
variable (d : Database) (target : Place) (t : StagedTable)

/-- The ALTER TABLE statements of the loop. -/
def changes : IndexState → List IndexSpec → List KeyChange
  | _, [] => []
  | s, spec :: rest =>
    match planIndex t.coltypes t.indexNames s.hasPrimary spec with
    | .skip _ _ => changes (indexTurn d target t s spec) rest
    | .add change _ _ => change :: changes (indexTurn d target t s spec) rest

/-- Nothing is left to add. -/
def StagedTable.Settled (specs : List IndexSpec) : Prop :=
  ∀ spec ∈ specs, (t.WantsPrimary spec → t.hasPrimary = true) ∧ t.keyFor spec = none

end

/-- The ALTER TABLE statements of a call. -/
def alters (d : Database) (table : String) (schema : Option String) (indexes : List IndexSpec) (tables : Tables) :
    List KeyChange :=
  let clean := cleanName table
  if clean = "" then []
  else
    match tables (d.placeOf schema clean) with
    | none => []
    | some t => changes d (d.target (truthy schema) clean) t ⟨tables, t.hasPrimary, [], [], []⟩ indexes

/-- The call executes no ALTER TABLE and reports no failure. -/
def Quiet (d : Database) (table : String) (schema : Option String) (indexes : List IndexSpec) (tables : Tables) : Prop :=
  alters d table schema indexes tables = [] ∧
    ∃ result, (ensureIndexes d table schema indexes tables).1 = .ok result ∧ result.failed = []

section
variable {d : Database} {target : Place} {t : StagedTable}

theorem indexTurn_of_skip {s : IndexState} {spec : IndexSpec} {name why : String}
    (skip : planIndex t.coltypes t.indexNames s.hasPrimary spec = .skip name why) :
    indexTurn d target t s spec = s.skip name why := by
  unfold indexTurn ensureIndex
  rw [skip]

/-- Without anything to add a turn skips. -/
theorem exists_skip_iff {hasPrimary : Bool} {spec : IndexSpec} :
    (∃ name why, planIndex t.coltypes t.indexNames hasPrimary spec = .skip name why) ↔
      (t.WantsPrimary spec → hasPrimary = true) ∧ t.keyFor spec = none := by
  have skips : (∃ name why, planIndex t.coltypes t.indexNames hasPrimary spec = .skip name why) ↔
      ¬∃ change name note, planIndex t.coltypes t.indexNames hasPrimary spec = .add change name note := by
    cases planIndex t.coltypes t.indexNames hasPrimary spec <;> simp
  rw [skips]
  simp only [planIndex_eq_add_iff]
  unfold StagedTable.WantsPrimary StagedTable.keyFor
  cases primary : spec.primary with
  | true => cases hasPrimary <;> simp
  | false =>
    by_cases present : lower spec.title ∈ t.indexNames
    · simp [present]
    · cases made : keyDef spec t.coltypes with
      | mk key warning => cases key <;> simp [present]

/-- No statement is sent exactly where all indexes are settled, and then nothing fails. -/
theorem changes_eq_nil_iff {specs : List IndexSpec} {s : IndexState} (own : s.hasPrimary = t.hasPrimary) :
    changes d target t s specs = [] ↔ t.Settled specs := by
  induction specs generalizing s with
  | nil => simp [changes, StagedTable.Settled]
  | cons spec rest ih =>
    have settled : t.Settled (spec :: rest) ↔
        ((t.WantsPrimary spec → t.hasPrimary = true) ∧ t.keyFor spec = none) ∧ t.Settled rest := List.forall_mem_cons
    rw [settled, ← exists_skip_iff, ← own, changes]
    cases plan : planIndex t.coltypes t.indexNames s.hasPrimary spec with
    | skip name why =>
      have same : (indexTurn d target t s spec).hasPrimary = t.hasPrimary := by
        rw [indexTurn_of_skip plan]
        exact own
      simp [ih same]
    | add change name note => simp

theorem run_of_settled {specs : List IndexSpec} {s : IndexState} (own : s.hasPrimary = t.hasPrimary)
    (settled : t.Settled specs) : (specs.foldl (indexTurn d target t) s).failed = s.failed := by
  induction specs generalizing s with
  | nil => rfl
  | cons spec rest ih =>
    have here := settled spec List.mem_cons_self
    rw [← own] at here
    obtain ⟨name, why, skip⟩ := exists_skip_iff.mpr here
    have later : t.Settled rest := fun other mem => settled other (List.mem_cons_of_mem spec mem)
    rw [List.foldl_cons, indexTurn_of_skip skip]
    exact ih own later

end

/-- A call is quiet exactly where the table it inspects is settled. -/
theorem quiet_iff {d : Database} {table : String} {schema : Option String} {indexes : List IndexSpec} {tables : Tables}
    (named : cleanName table ≠ "") : Quiet d table schema indexes tables ↔
      ∃ t, tables (d.placeOf schema (cleanName table)) = some t ∧ t.Settled indexes := by
  unfold Quiet alters ensureIndexes
  dsimp only
  rw [if_neg named, if_neg named]
  cases tables (d.placeOf schema (cleanName table)) with
  | none => simp
  | some t =>
    dsimp only
    rw [changes_eq_nil_iff rfl]
    constructor
    · rintro ⟨settled, -⟩
      exact ⟨t, rfl, settled⟩
    · rintro ⟨t', same, settled⟩
      obtain rfl := Option.some.inj same
      exact ⟨settled, _, rfl, run_of_settled rfl settled⟩

/-! ## After a first call -/

/-- What the documentation of a server promises of keys: an added one is there with its name, and
nothing else changes that the inspector is asked for. -/
structure Engine.KeepsKeys (E : Engine) : Prop where
  primary : ∀ t columns t', E.alter t (.primary columns) = .ok t' →
    t'.coltypes = t.coltypes ∧ t'.indexNames = t.indexNames ∧ t'.primary = columns.map quotedName
  secondary : ∀ t key t', E.alter t (.secondary key) = .ok t' →
    t'.coltypes = t.coltypes ∧ t'.primary = t.primary ∧ ∀ n, n ∈ t'.indexNames ↔ n ∈ t.indexNames ∨ n = key.made
  create : ∀ definition t, E.create definition = .ok t →
    t.primary = definition.primary.map quotedName ∧ ∀ n, n ∈ t.indexNames ↔ n ∈ definition.keys.map KeyDef.made

/-- One turn: the index is skipped, it fails, or the table is altered. -/
inductive Turn (d : Database) (target : Place) (t : StagedTable) (s : IndexState) (spec : IndexSpec) : IndexState → Prop
  | skipped {name why : String} : planIndex t.coltypes t.indexNames s.hasPrimary spec = .skip name why →
      Turn d target t s spec (s.skip name why)
  | failed {change : KeyChange} {name note error : String} :
      planIndex t.coltypes t.indexNames s.hasPrimary spec = .add change name note →
      alterTable d target change s.tables = .error error →
      Turn d target t s spec { s with failed := s.failed ++ [(spec.title, PythonText.clip 200 error)] }
  | applied {change : KeyChange} {name note : String} {tables : Tables} :
      planIndex t.coltypes t.indexNames s.hasPrimary spec = .add change name note →
      alterTable d target change s.tables = .ok tables →
      Turn d target t s spec ⟨tables, s.hasPrimary || spec.primary, s.applied ++ [name],
        s.skipped ++ (if note = "" then [] else [(name, note)]), s.failed⟩

section
variable {d : Database} {target : Place} {t : StagedTable}

theorem turn_indexTurn (d : Database) (target : Place) (t : StagedTable) (s : IndexState) (spec : IndexSpec) :
    Turn d target t s spec (indexTurn d target t s spec) := by
  unfold indexTurn ensureIndex
  cases plan : planIndex t.coltypes t.indexNames s.hasPrimary spec with
  | skip name why => exact .skipped plan
  | add change name note =>
    cases altered : alterTable d target change s.tables with
    | error e =>
      dsimp only
      rw [altered]
      exact .failed plan altered
    | ok tables =>
      have turn := Turn.applied plan altered
      dsimp only
      rw [altered]
      by_cases silent : note = ""
      · simpa [silent] using turn
      · simpa [silent, IndexState.skip] using turn

theorem alterTable_eq_ok_iff {change : KeyChange} {tables tables' : Tables} :
    alterTable d target change tables = .ok tables' ↔
      ∃ u u', tables target = some u ∧ d.engine.alter u change = .ok u' ∧ tables' = put tables target (some u') := by
  unfold alterTable
  cases tables target with
  | none => simp
  | some u => cases altered : d.engine.alter u change <;> simp [Except.map, altered, eq_comm]

/-- Failures stay. -/
theorem failed_of_run {specs : List IndexSpec} {s : IndexState}
    (done : (specs.foldl (indexTurn d target t) s).failed = []) : s.failed = [] := by
  induction specs generalizing s with
  | nil => exact done
  | cons spec rest ih =>
    have next := ih done
    have turn := turn_indexTurn d target t s spec
    generalize indexTurn d target t s spec = s' at next turn
    cases turn with
    | skipped _ => exact next
    | failed _ _ => exact absurd next (by simp)
    | applied _ _ => exact next

variable (t) in
/-- The table `u` with the keys of the list, as far as the table `t` could have them and did not. -/
structure Grown (u : StagedTable) (specs : List IndexSpec) (u' : StagedTable) : Prop where
  coltypes : u'.coltypes = u.coltypes
  primary : u'.hasPrimary = true ↔ u.hasPrimary = true ∨ ∃ spec ∈ specs, t.WantsPrimary spec
  indexNames : ∀ n, n ∈ u'.indexNames ↔ n ∈ u.indexNames ∨ ∃ spec ∈ specs, ∃ key, t.keyFor spec = some key ∧ n = key.made

theorem Grown.cons {u v w : StagedTable} {spec : IndexSpec} {rest : List IndexSpec} (one : Grown t u [spec] v)
    (more : Grown t v rest w) : Grown t u (spec :: rest) w where
  coltypes := more.coltypes.trans one.coltypes
  primary := by
    rw [more.primary, one.primary]
    simp [or_assoc]
  indexNames n := by
    rw [more.indexNames, one.indexNames]
    simp [or_assoc]

theorem hasPrimary_iff (u : StagedTable) : u.hasPrimary = true ↔ u.primary ≠ [] := by
  unfold StagedTable.hasPrimary
  cases u.primary <;> simp

/-- A turn without a failure adds what the list asks for. -/
theorem grown_of_turn (keeps : d.engine.KeepsKeys) {s s' : IndexState} {spec : IndexSpec} {u : StagedTable}
    (turn : Turn d target t s spec s') (fine : s'.failed = []) (here : s.tables target = some u)
    (own : s.hasPrimary = u.hasPrimary) :
    ∃ u', s'.tables target = some u' ∧ s'.hasPrimary = u'.hasPrimary ∧ Grown t u [spec] u' := by
  cases turn with
  | skipped plan =>
    obtain ⟨wants, known⟩ := exists_skip_iff.mp ⟨_, _, plan⟩
    rw [own] at wants
    refine ⟨u, here, own, rfl, ?_, fun n => ?_⟩
    · simpa using wants
    · simp [known]
  | failed _ _ => exact absurd fine (by simp)
  | applied plan altered =>
    obtain ⟨v, u', there, added, rfl⟩ := alterTable_eq_ok_iff.mp altered
    obtain rfl : u = v := Option.some.inj (here.symm.trans there)
    have stored : (put s.tables target (some u')) target = some u' := by simp [put]
    rcases planIndex_eq_add_iff.mp plan with ⟨primary, some_column, -, rfl, -, -⟩ | ⟨secondary, absent, -, key, made, rfl⟩
    · obtain ⟨types, names, columns⟩ := keeps.primary _ _ _ added
      have keyed : u'.hasPrimary = true := by
        rw [hasPrimary_iff, columns, ne_eq, List.map_eq_nil_iff]
        exact some_column
      refine ⟨u', stored, by simp [keyed, primary], types, ?_, fun n => ?_⟩
      · simp [keyed, StagedTable.WantsPrimary, primary, some_column]
      · simp [names, StagedTable.keyFor, primary]
    · obtain ⟨types, same, names⟩ := keeps.secondary _ _ _ added
      have one : u'.hasPrimary = u.hasPrimary := by rw [StagedTable.hasPrimary, same, StagedTable.hasPrimary]
      refine ⟨u', stored, by simp [one, own, secondary], types, ?_, fun n => ?_⟩
      · simp [one, StagedTable.WantsPrimary, secondary]
      · rw [names]
        simp [StagedTable.keyFor, secondary, absent, made]

/-- A run without a failure leaves the table with all that the list asks for. -/
theorem grown_of_run (keeps : d.engine.KeepsKeys) {specs : List IndexSpec} {s : IndexState} {u : StagedTable}
    (fine : (specs.foldl (indexTurn d target t) s).failed = []) (here : s.tables target = some u)
    (own : s.hasPrimary = u.hasPrimary) :
    ∃ u', (specs.foldl (indexTurn d target t) s).tables target = some u' ∧ Grown t u specs u' := by
  induction specs generalizing s u with
  | nil => exact ⟨u, here, rfl, by simp, fun n => by simp⟩
  | cons spec rest ih =>
    have next : (indexTurn d target t s spec).failed = [] := failed_of_run fine
    obtain ⟨v, there, own', one⟩ := grown_of_turn keeps (turn_indexTurn d target t s spec) next here own
    obtain ⟨w, last, more⟩ := ih fine there own'
    exact ⟨w, last, one.cons more⟩

/-- Other tables are as they were. -/
theorem run_elsewhere {specs : List IndexSpec} {s : IndexState} {p : Place} (other : p ≠ target) :
    (specs.foldl (indexTurn d target t) s).tables p = s.tables p := by
  induction specs generalizing s with
  | nil => rfl
  | cons spec rest ih =>
    have turn := turn_indexTurn d target t s spec
    rw [List.foldl_cons, ih]
    generalize indexTurn d target t s spec = s' at turn
    cases turn with
    | skipped _ => rfl
    | failed _ _ => rfl
    | applied _ altered =>
      obtain ⟨_, _, -, -, rfl⟩ := alterTable_eq_ok_iff.mp altered
      simp [put, other]

end

/-- What the list adds is added to the table that is inspected, and each added index has the name
under which it is looked for, or another added index has it. -/
structure StagedTable.Found (t : StagedTable) (inspected target : Place) (specs : List IndexSpec) : Prop where
  place : (∃ spec ∈ specs, (t.WantsPrimary spec ∧ t.hasPrimary = false) ∨ t.keyFor spec ≠ none) → inspected = target
  named : ∀ spec ∈ specs, t.keyFor spec ≠ none →
    ∃ other ∈ specs, ∃ key, t.keyFor other = some key ∧ lower spec.title = key.made

/-- A table with all that a list asked for is settled where the names fit. -/
theorem Grown.settled_iff {t t' : StagedTable} {specs : List IndexSpec} (grown : Grown t t specs t') :
    t'.Settled specs ↔ ∀ spec ∈ specs, t.keyFor spec ≠ none →
      ∃ other ∈ specs, ∃ key, t.keyFor other = some key ∧ lower spec.title = key.made := by
  have wants : ∀ spec ∈ specs, t'.WantsPrimary spec → t'.hasPrimary = true := by
    intro spec mem asked
    unfold StagedTable.WantsPrimary at asked
    rw [grown.coltypes] at asked
    exact grown.primary.mpr (.inr ⟨spec, mem, asked⟩)
  have keys : ∀ spec, t'.keyFor spec = none ↔ (t.keyFor spec ≠ none → lower spec.title ∈ t'.indexNames) := by
    intro spec
    have kept : lower spec.title ∈ t.indexNames → lower spec.title ∈ t'.indexNames :=
      fun present => (grown.indexNames _).mpr (.inl present)
    unfold StagedTable.keyFor
    rw [grown.coltypes]
    cases spec.primary with
    | true => simp
    | false =>
      by_cases present : lower spec.title ∈ t.indexNames
      · simp [present, kept present]
      · by_cases later : lower spec.title ∈ t'.indexNames <;> simp [present, later]
  constructor
  · intro settled spec mem added
    have there := (keys spec).mp (settled spec mem).2 added
    rcases (grown.indexNames _).mp there with present | fitting
    · exact absurd (if_pos (Or.inr present)) added
    · exact fitting
  · intro named spec mem
    refine ⟨wants spec mem, (keys spec).mpr (fun added => ?_)⟩
    exact (grown.indexNames _).mpr (.inr (named spec mem added))

section
variable {d : Database} {table : String} {schema : Option String} {indexes : List IndexSpec} {tables : Tables}

/-- A call that answers has found its table. -/
theorem ensureIndexes_eq_ok {result : Indexed} {tables' : Tables}
    (done : ensureIndexes d table schema indexes tables = (.ok result, tables')) :
    cleanName table ≠ "" ∧ ∃ t, tables (d.placeOf schema (cleanName table)) = some t ∧
      let run := indexes.foldl (indexTurn d (d.target (truthy schema) (cleanName table)) t)
        ⟨tables, t.hasPrimary, [], [], []⟩
      result = ⟨cleanName table, run.applied, run.skipped, run.failed⟩ ∧ tables' = run.tables := by
  unfold ensureIndexes at done
  dsimp only at done
  split_ifs at done with unnamed
  · simp at done
  · refine ⟨unnamed, ?_⟩
    cases found : tables (d.placeOf schema (cleanName table)) with
    | none => simp [found] at done
    | some t =>
      rw [found] at done
      obtain ⟨same, rest⟩ := Prod.mk.inj done
      exact ⟨t, rfl, (Except.ok.inj same).symm, rest.symm⟩

/-- The call again after one without failures. -/
theorem quiet_again_iff (keeps : d.engine.KeepsKeys) {first : Indexed} {tables' : Tables}
    (done : ensureIndexes d table schema indexes tables = (.ok first, tables')) (fine : first.failed = []) :
    Quiet d table schema indexes tables' ↔ ∀ t, tables (d.placeOf schema (cleanName table)) = some t →
      t.Found (d.placeOf schema (cleanName table)) (d.target (truthy schema) (cleanName table)) indexes := by
  obtain ⟨named, t, here, rfl, rfl⟩ := ensureIndexes_eq_ok done
  have only : ∀ {P : StagedTable → Prop}, (∀ u, tables (d.placeOf schema (cleanName table)) = some u → P u) ↔ P t := by
    intro P
    simp [here]
  rw [quiet_iff named, only]
  by_cases place : d.placeOf schema (cleanName table) = d.target (truthy schema) (cleanName table)
  · rw [place] at here ⊢
    obtain ⟨t', there, grown⟩ := grown_of_run keeps fine here rfl
    simp only [there, Option.some.injEq, exists_eq_left', grown.settled_iff]
    exact ⟨fun named => ⟨fun _ => rfl, named⟩, fun found => found.named⟩
  · rw [run_elsewhere place]
    simp only [here, Option.some.injEq, exists_eq_left']
    constructor
    · intro settled
      refine ⟨?_, fun spec mem added => absurd (settled spec mem).2 added⟩
      rintro ⟨spec, mem, ⟨wants, without⟩ | added⟩
      · have keyed := (settled spec mem).1 wants
        rw [without] at keyed
        cases keyed
      · exact absurd (settled spec mem).2 added
    · intro found spec mem
      constructor
      · intro wants
        by_contra without
        exact place (found.place ⟨spec, mem, .inl ⟨wants, by simpa using without⟩⟩)
      · by_contra added
        exact place (found.place ⟨spec, mem, .inr added⟩)

end

/-! ## After `prepare_table` -/

namespace Staging.PrepareRequest
variable (r : PrepareRequest)

/-- The primary key of the prepared table, which may have been there in the wanted shape. -/
def preparedPrimary (unchanged : Bool) : List String :=
  if unchanged then r.primaryKey else r.definition.primary

/-- The names of its indexes. -/
def preparedNames (unchanged : Bool) : List String :=
  if unchanged then r.indexes.map (fun i => lower (pyStr i.name)) else r.definition.keys.map KeyDef.made

/-- What the list asks for is there under the name that is looked for. -/
structure Keyed (unchanged : Bool) (t : StagedTable) : Prop where
  primary : ∀ spec ∈ r.indexes, t.WantsPrimary spec → r.preparedPrimary unchanged ≠ []
  named : ∀ spec ∈ r.indexes, spec.primary = false → (keyDef spec t.coltypes).1 ≠ none →
    lower spec.title ∈ r.preparedNames unchanged

end Staging.PrepareRequest

section
variable {d : Database} {r : PrepareRequest} {tables tables' : Tables} {prepared : Prepared}

/-- The table after a success: as it was, in the wanted shape, or made by the server. -/
theorem prepareTable_eq_ok (done : prepareTable d r tables = (.ok prepared, tables')) : cleanName r.table ≠ "" ∧
    ((prepared.unchanged = true ∧ tables' = tables ∧
        ∃ t, tables (r.inspected d) = some t ∧ existingSignature t = r.wanted) ∨
      (prepared.unchanged = false ∧ ∃ t, d.engine.create r.definition = .ok t ∧ tables' (r.place d) = some t)) := by
  by_cases sends : r.Sends d tables
  · refine ⟨sends.named, .inr ?_⟩
    rw [prepareTable_of_sends sends] at done
    obtain ⟨answer, rest⟩ := Prod.mk.inj done
    cases made : d.engine.create r.definition with
    | error e =>
      obtain ⟨⟨e', failed⟩, -⟩ := rebuild_of_refused (r.place d) (r.plan d tables) tables made
      rw [failed] at answer
      cases answer
    | ok t =>
      rw [rebuild_of_accepted (r.place d) (r.plan d tables) tables made] at answer rest
      split_ifs at answer rest
      · cases answer
      · refine ⟨?_, t, rfl, ?_⟩
        · rw [← Except.ok.inj answer]
          rfl
        · rw [← rest]
          simp [put]
  · unfold prepareTable at done
    cases planned : planRebuild d r tables with
    | error e => simp [planned] at done
    | ok plan =>
      cases plan with
      | some plan => exact absurd (sends_of_planRebuild planned) sends
      | none =>
        obtain ⟨ready, kept⟩ := (planRebuild_eq_ok_iff _).mp planned
        rw [planned] at done
        obtain ⟨answer, rest⟩ := Prod.mk.inj done
        split_ifs at kept with same
        obtain ⟨t, here, shape⟩ := Option.map_eq_some_iff.mp same.2
        refine ⟨ready.named, .inl ⟨?_, rest.symm, t, here, shape⟩⟩
        rw [← Except.ok.inj answer]

/-- The names and the primary key of the table after a success. -/
theorem preparedNames_iff (keeps : d.engine.KeepsKeys) (done : prepareTable d r tables = (.ok prepared, tables'))
    (place : prepared.unchanged = false → r.inspected d = r.place d) :
    ∃ t, tables' (r.inspected d) = some t ∧ (t.hasPrimary = true ↔ r.preparedPrimary prepared.unchanged ≠ []) ∧
      ∀ n, n ∈ t.indexNames ↔ n ∈ r.preparedNames prepared.unchanged := by
  obtain ⟨-, ⟨same, rfl, t, here, shape⟩ | ⟨other, t, made, here⟩⟩ := prepareTable_eq_ok done
  · refine ⟨t, here, ?_, fun n => ?_⟩
    · have primary : t.primary = r.primaryKey := congrArg Signature.primary shape
      rw [hasPrimary_iff, primary, PrepareRequest.preparedPrimary, if_pos same]
    · have sorted : TableSchema.sortIndexes t.indexes =
          TableSchema.sortIndexes (r.indexes.map (fun i => (pyStr i.name, i.unique, i.columns))) :=
        congrArg Signature.indexes shape
      have perm : t.indexes.Perm (r.indexes.map (fun i => (pyStr i.name, i.unique, i.columns))) := by
        have left : (TableSchema.sortIndexes t.indexes).Perm t.indexes := List.perm_insertionSort _ _
        rw [sorted] at left
        exact left.symm.trans (List.perm_insertionSort _ _)
      rw [PrepareRequest.preparedNames, if_pos same, StagedTable.indexNames, (perm.map _).mem_iff, List.map_map]
      rfl
  · obtain ⟨primary, names⟩ := keeps.create _ _ made
    rw [place other]
    refine ⟨t, here, ?_, fun n => ?_⟩
    · rw [hasPrimary_iff, primary, PrepareRequest.preparedPrimary, other, ne_eq, List.map_eq_nil_iff]
      simp
    · rw [names, PrepareRequest.preparedNames, other]
      simp

/-- The call after a preparation of the table that it inspects. -/
theorem quiet_prepared_iff (keeps : d.engine.KeepsKeys) (done : prepareTable d r tables = (.ok prepared, tables'))
    (place : prepared.unchanged = false → r.inspected d = r.place d) :
    Quiet d r.table r.schema r.indexes tables' ↔
      ∀ t, tables' (r.inspected d) = some t → r.Keyed prepared.unchanged t := by
  obtain ⟨t, here, primary, names⟩ := preparedNames_iff keeps done place
  have here' : tables' (d.placeOf r.schema (cleanName r.table)) = some t := here
  rw [quiet_iff (prepareTable_eq_ok done).1]
  simp only [here, here', Option.some.injEq, exists_eq_left', forall_eq']
  unfold StagedTable.Settled StagedTable.keyFor
  constructor
  · intro settled
    refine ⟨fun spec mem wants => primary.mp ((settled spec mem).1 wants), fun spec mem secondary made => ?_⟩
    by_contra absent
    rw [← names] at absent
    have none := (settled spec mem).2
    rw [if_neg (by simp [secondary, absent])] at none
    exact made none
  · intro keyed spec mem
    refine ⟨fun wants => primary.mpr (keyed.primary spec mem wants), ?_⟩
    by_contra added
    split_ifs at added with skipped
    · exact added rfl
    · rw [not_or] at skipped
      have present := keyed.named spec mem (by simpa using skipped.1) added
      rw [← names] at present
      exact skipped.2 present

end

/-! ## What is reported -/

/-- What becomes of one index. -/
inductive Report where
  | applied (name note : String)
  | skipped (name why : String)
  | failed (name error : String)
  deriving DecidableEq, Repr

namespace Report

def name : Report → String
  | .applied name _ => name
  | .skipped name _ => name
  | .failed name _ => name

def appliedName : Report → Option String
  | .applied name _ => some name
  | _ => none

/-- An entry of `skipped`; the note on an index that was changed to be applied is one. -/
def skip : Report → Option (String × String)
  | .applied name note => if note = "" then none else some (name, note)
  | .skipped name why => some (name, why)
  | .failed _ _ => none

def failure : Report → Option (String × String)
  | .failed name error => some (name, error)
  | _ => none

end Report

/-- The report is about the index, and its note is the warning of the definition. -/
structure StagedTable.Accounts (t : StagedTable) (spec : IndexSpec) (report : Report) : Prop where
  name : report.name = spec.title ∨ (spec.primary = true ∧ report.name = "PRIMARY")
  note : ∀ name note, report = .applied name note →
    note = if spec.primary then "" else (keyDef spec t.coltypes).2

theorem planIndex_skip_name {coltypes : List (String × String)} {existing : List String} {hasPrimary : Bool}
    {spec : IndexSpec} {name why : String} (skip : planIndex coltypes existing hasPrimary spec = .skip name why) :
    name = spec.title ∨ (spec.primary = true ∧ name = "PRIMARY") := by
  unfold planIndex at skip
  dsimp only at skip
  split_ifs at skip with absent primary
  · exact .inl (IndexPlan.skip.inj skip).1.symm
  · exact .inr ⟨primary, (IndexPlan.skip.inj skip).1.symm⟩
  · exact .inl (IndexPlan.skip.inj skip).1.symm
  · split at skip
    · exact .inl (IndexPlan.skip.inj skip).1.symm
    · cases skip

section
variable {d : Database} {target : Place} {t : StagedTable}

/-- Each turn reports on its index, once. -/
theorem exists_report {s s' : IndexState} {spec : IndexSpec} (turn : Turn d target t s spec s') :
    ∃ report, t.Accounts spec report ∧ s'.applied = s.applied ++ report.appliedName.toList ∧
      s'.skipped = s.skipped ++ report.skip.toList ∧ s'.failed = s.failed ++ report.failure.toList := by
  cases turn with
  | @skipped name why plan =>
    exact ⟨.skipped name why, ⟨planIndex_skip_name plan, fun _ _ other => by cases other⟩,
      by simp [IndexState.skip, Report.appliedName], rfl, by simp [IndexState.skip, Report.failure]⟩
  | @failed change name note error plan _ =>
    exact ⟨.failed spec.title (PythonText.clip 200 error), ⟨.inl rfl, fun _ _ other => by cases other⟩,
      by simp [Report.appliedName], by simp [Report.skip], rfl⟩
  | @applied change name note tables plan _ =>
    refine ⟨.applied name note, ⟨?_, ?_⟩, rfl, ?_, by simp [Report.failure]⟩
    · rcases planIndex_eq_add_iff.mp plan with ⟨primary, -, -, -, own, -⟩ | ⟨-, -, own, -⟩
      · exact .inr ⟨primary, own⟩
      · exact .inl own
    · rintro _ _ ⟨⟩
      rcases planIndex_eq_add_iff.mp plan with ⟨primary, -, -, -, -, silent⟩ | ⟨secondary, -, -, key, made, -⟩
      · simp [primary, silent]
      · simp [secondary, made]
    · by_cases silent : note = "" <;> simp [Report.skip, silent]

/-- A run reports on the indexes one after another. -/
theorem exists_reports (specs : List IndexSpec) (s : IndexState) :
    ∃ reports, List.Forall₂ t.Accounts specs reports ∧
      (specs.foldl (indexTurn d target t) s).applied = s.applied ++ reports.filterMap Report.appliedName ∧
      (specs.foldl (indexTurn d target t) s).skipped = s.skipped ++ reports.filterMap Report.skip ∧
      (specs.foldl (indexTurn d target t) s).failed = s.failed ++ reports.filterMap Report.failure := by
  induction specs generalizing s with
  | nil => exact ⟨[], .nil, by simp⟩
  | cons spec rest ih =>
    obtain ⟨report, accounts, applied, skipped, failed⟩ := exists_report (turn_indexTurn d target t s spec)
    obtain ⟨reports, each, applied', skipped', failed'⟩ := ih (indexTurn d target t s spec)
    have cons : ∀ {α : Type} (f : Report → Option α), (report :: reports).filterMap f =
        (f report).toList ++ reports.filterMap f := by
      intro α f
      rw [List.filterMap_cons]
      cases f report <;> rfl
    refine ⟨report :: reports, .cons accounts each, ?_⟩
    simp only [List.foldl_cons, cons, ← List.append_assoc]
    rw [applied', skipped', failed', applied, skipped, failed]
    exact ⟨rfl, rfl, rfl⟩

end

/-- Where the names fit, a call after one without failures, or after a preparation with the same
indexes, is quiet. Every call reports on each index once, in their order, and lists the note on an
index that was changed to be applied among the skipped ones. -/
theorem ensureIndexes_again (d : Database) (keeps : d.engine.KeepsKeys) :
    (∀ table schema indexes tables tables' first,
      ensureIndexes d table schema indexes tables = (.ok first, tables') → first.failed = [] →
      (∀ t, tables (d.placeOf schema (cleanName table)) = some t →
        t.Found (d.placeOf schema (cleanName table)) (d.target (truthy schema) (cleanName table)) indexes) →
      Quiet d table schema indexes tables') ∧
    (∀ r tables tables' prepared, prepareTable d r tables = (.ok prepared, tables') →
      (prepared.unchanged = false → r.inspected d = r.place d) →
      (∀ t, tables' (r.inspected d) = some t → r.Keyed prepared.unchanged t) →
      Quiet d r.table r.schema r.indexes tables') ∧
    ∀ table schema indexes tables tables' result,
      ensureIndexes d table schema indexes tables = (.ok result, tables') →
      ∃ t reports, tables (d.placeOf schema (cleanName table)) = some t ∧ List.Forall₂ t.Accounts indexes reports ∧
        result.applied = reports.filterMap Report.appliedName ∧ result.skipped = reports.filterMap Report.skip ∧
        result.failed = reports.filterMap Report.failure := by
  refine ⟨fun table schema indexes tables tables' first done fine found => (quiet_again_iff keeps done fine).mpr found,
    fun r tables tables' prepared done place keyed => (quiet_prepared_iff keeps done place).mpr keyed, ?_⟩
  intro table schema indexes tables tables' result done
  obtain ⟨-, t, here, rfl, -⟩ := ensureIndexes_eq_ok done
  obtain ⟨reports, each, applied, skipped, failed⟩ := exists_reports (d := d) (t := t) indexes
    ⟨tables, t.hasPrimary, [], [], []⟩
  exact ⟨t, reports, here, each, applied, skipped, failed⟩

/-- A server that refuses a second index of one name. -/
def adding : Engine := { willing with
  alter := fun t change =>
    match change with
    | .primary columns => .ok { t with primary := columns.map quotedName }
    | .secondary key =>
      if key.made ∈ t.indexNames then .error "Duplicate key name"
      else .ok { t with indexes := t.indexes ++ [reported key] } }

theorem adding_keepsKeys : adding.KeepsKeys where
  primary t columns t' added := by
    obtain rfl := Except.ok.inj added
    exact ⟨rfl, rfl, rfl⟩
  secondary t key t' added := by
    unfold adding at added
    dsimp only at added
    split_ifs at added
    obtain rfl := Except.ok.inj added
    refine ⟨rfl, rfl, fun n => ?_⟩
    simp [StagedTable.indexNames, reported, KeyDef.made]
  create definition t made := by
    obtain rfl := Except.ok.inj made
    refine ⟨rfl, fun n => ?_⟩
    rw [StagedTable.indexNames, TableSchema.TableDef.declared, List.map_map]
    rfl

/-- The primary key of the grades and an index with a name of its own. -/
def gradesIndexes : List IndexSpec :=
  [⟨some "PRIMARY", true, true, ["id"], []⟩, ⟨some "mdl_grad_id_ix", false, false, ["id"], []⟩]

/-- A request for a table with these keys. -/
def gradesKeyed : PrepareRequest := { gradesRequest "int" with primaryKey := ["id"], indexes := gradesIndexes }

theorem ensureIndexes_again_grades :
    Quiet ⟨1, true, adding⟩ "grades" none gradesIndexes
      (ensureIndexes ⟨1, true, adding⟩ "grades" none gradesIndexes gradesTables).2 ∧
    Quiet ⟨1, true, adding⟩ "grades" none gradesIndexes (prepareTable ⟨1, true, adding⟩ gradesKeyed (fun _ => none)).2 := by
  have again := ensureIndexes_again ⟨1, true, adding⟩ adding_keepsKeys
  constructor
  · have done : ensureIndexes ⟨1, true, adding⟩ "grades" none gradesIndexes gradesTables =
        (.ok ⟨"grades", ["PRIMARY", "mdl_grad_id_ix"], [], []⟩,
          (ensureIndexes ⟨1, true, adding⟩ "grades" none gradesIndexes gradesTables).2) := Prod.ext rfl rfl
    refine again.1 "grades" none gradesIndexes gradesTables _ _ done rfl ?_
    rintro t ⟨⟩
    refine ⟨fun _ => rfl, fun spec mem added => ?_⟩
    rcases List.mem_pair.mp mem with rfl | rfl
    · exact absurd rfl added
    · exact ⟨_, mem, ⟨"mdl_grad_id_ix", false, [⟨"id", none⟩]⟩, rfl, rfl⟩
  · have done : prepareTable ⟨1, true, adding⟩ gradesKeyed (fun _ => none) =
        (.ok ⟨"grades", true, false, false, 1, 1, []⟩, (prepareTable ⟨1, true, adding⟩ gradesKeyed (fun _ => none)).2) :=
      Prod.ext rfl rfl
    refine again.2.1 gradesKeyed (fun _ => none) _ _ done (fun _ => rfl) ?_
    rintro t ⟨⟩
    refine ⟨fun _ _ _ => by decide, fun spec mem secondary _ => ?_⟩
    rcases List.mem_pair.mp mem with rfl | rfl
    · cases secondary
    · decide

/-- A table with a text of any length. -/
def notesTables : Tables := fun p =>
  if p = ⟨1, some "main", "notes"⟩ then some ⟨[("id", "int", false), ("note", "longtext", true)], ["id"], [], []⟩
  else none

/-- An index without a name is made under the name of its column and looked for under another, so
that it fails the second time; one that cannot be unique is reported as applied and as skipped. -/
theorem notes_not_quiet :
    (∃ tables', ensureIndexes ⟨1, true, adding⟩ "notes" none [⟨none, false, false, ["note"], []⟩] notesTables =
        (.ok ⟨"notes", ["index"], [], []⟩, tables') ∧
      alters ⟨1, true, adding⟩ "notes" none [⟨none, false, false, ["note"], []⟩] tables' ≠ [] ∧
      (ensureIndexes ⟨1, true, adding⟩ "notes" none [⟨none, false, false, ["note"], []⟩] tables').1 =
        .ok ⟨"notes", [], [], [("index", "Duplicate key name")]⟩) ∧
    (ensureIndexes ⟨1, true, adding⟩ "notes" none [⟨some "mdl_note_uix", false, true, ["note"], []⟩] notesTables).1 =
      .ok ⟨"notes", ["mdl_note_uix"], [("mdl_note_uix",
        "index mdl_note_uix: created non-unique (a key prefix cannot enforce uniqueness)")], []⟩ := by
  constructor
  · refine ⟨(ensureIndexes ⟨1, true, adding⟩ "notes" none [⟨none, false, false, ["note"], []⟩] notesTables).2,
      Prod.ext rfl rfl, ?_, by decide +kernel⟩
    decide +kernel
  · decide +kernel

end XpBuilder
