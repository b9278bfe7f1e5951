import XpBuilder.Library.Keys
import XpBuilder.Library.Runs
import XpBuilder.Staging.Rebuild

/-! The keys of a staged copy against the keys of its source. Whatever contents the
source accepts has to load, so each key that the copy enforces must follow from the
source's own keys: it does exactly when some key of the source is left whole in it. -/

namespace XpBuilder
open PythonText (truthy)
open Sql (Row Cell)

namespace TableSchema

/-- What a part of a key sees of a row: a text up to the prefix. -/
def KeyPart.value (part : KeyPart) (row : Row) : Cell :=
  match part.prefixChars, row part.column with
  | some p, .text s => .text (PythonText.clip p s)
  | _, c => c

/-- A unique key holds of the rows; any other key says nothing. -/
def KeyDef.Satisfied (key : KeyDef) (rows : List Row) : Prop :=
  key.unique = true → rows.Pairwise (fun r s =>
    ¬∀ part ∈ key.parts, part.value r ≠ .null ∧ part.value r = part.value s)

/-- The constraints of a CREATE TABLE. -/
structure TableDef.Satisfied (t : TableDef) (rows : List Row) : Prop where
  primary : t.primary ≠ [] → Keys.Primary Cell.null t.primary rows
  keys : ∀ key ∈ t.keys, key.Satisfied rows
  columns : Keys.NotNull Cell.null
    (fun n => ∃ c ∈ t.columns, c.name = n ∧ (c.autoIncrement = true ∨ c.nullable = false)) rows

section
variable {coltypes : List (String × String)} {spec : IndexSpec} {key : KeyDef}

/-- A key that stays unique keys its columns whole. -/
theorem keyDef_unique_whole (h : (keyDef spec coltypes).1 = some key) (unique : key.unique = true) :
    ∀ part ∈ key.parts, part.prefixChars = none := by
  unfold keyDef at h
  split at h
  · simp at h
  · dsimp only at h
    split at h
    · simp at h
    · obtain rfl := Option.some.inj h
      have unprefixed := (Bool.and_eq_true_iff.mp unique).2
      intro part mem
      obtain ⟨p, planned, rfl⟩ := List.mem_map.mp mem
      simp only [Bool.not_eq_true', List.any_eq_false] at unprefixed
      simpa [PlanPart.prefixed] using unprefixed p planned

theorem keyDef_satisfied_iff (h : (keyDef spec coltypes).1 = some key) (rows : List Row) :
    key.Satisfied rows ↔
      (key.unique = true → Keys.Unique Cell.null (knownColumns spec coltypes) rows) := by
  unfold KeyDef.Satisfied Keys.Unique Keys.Clash
  apply forall_congr'
  intro unique
  have whole := keyDef_unique_whole h unique
  have value : ∀ part ∈ key.parts, ∀ row : Row, part.value row = row part.column := by
    intro part mem row
    simp [KeyPart.value, whole part mem]
  rw [← (Staging.keyDef_some h).2.1]
  have same : ∀ r s : Row, (∀ part ∈ key.parts, part.value r ≠ .null ∧ part.value r = part.value s) ↔
      ∀ n ∈ key.parts.map KeyPart.column, r n ≠ .null ∧ r n = s n := by
    intro r s
    rw [List.forall_mem_map]
    refine forall₂_congr (fun part mem => ?_)
    rw [value part mem, value part mem]
  simp only [same]

end
end TableSchema

def KeyChange.Satisfied (change : KeyChange) (rows : List Row) : Prop :=
  match change with
  | .primary columns => Keys.Primary Cell.null columns rows
  | .secondary key => key.Satisfied rows

namespace Staging
open TableSchema

namespace PrepareRequest
variable (r : PrepareRequest)

/-- The constraints of the source that the request describes: its primary key, its
UNIQUE indexes in full, and the columns that hold no NULL. -/
def source : Keys.Schema String where
  keys := (r.primaryKey :: (r.indexes.filter (fun spec => spec.primary || spec.unique)).map
    IndexSpec.columns).filter (· ≠ [])
  required n := n ∈ r.primaryKey ∨ (∃ spec ∈ r.indexes, spec.primary = true ∧ n ∈ spec.columns) ∨
    ∃ c ∈ r.columns, (columnOf c).name = n ∧ ((columnOf c).autoIncrement = true ∨ c.nullable = false)

/-- Some key of the source is on these columns alone. -/
def Covers (columns : List String) : Prop := ∃ key ∈ r.source.keys, key ⊆ columns

/-- The columns of the primary key that the new table has. -/
def keptPrimary : List String :=
  r.primaryKey.filter (fun n => n ∈ (specTypes r.columns).map Prod.fst)

/-- Each key that the new table enforces covers a key of the source. -/
structure Covered : Prop where
  primary : r.keptPrimary ≠ [] → r.Covers r.keptPrimary
  indexes : r.createIndexes = true → ∀ spec ∈ r.indexes, spec.primary = false → ∀ key,
    (keyDef spec (specTypes r.columns)).1 = some key → key.unique = true →
      r.Covers (knownColumns spec (specTypes r.columns))

section
variable (columns : List String)

theorem entails_unique_iff : r.source.Entails Cell.null (Keys.Unique Cell.null columns) ↔
    r.Covers columns :=
  Keys.entails_unique_iff (v := Cell.number 0) (w := Cell.number 1) (by simp) (by simp) (by simp) _

theorem entails_primary_iff (required : ∀ n ∈ columns, r.source.required n) :
    r.source.Entails Cell.null (Keys.Primary Cell.null columns) ↔ r.Covers columns := by
  rw [Keys.entails_primary_iff (v := Cell.number 0) (w := Cell.number 1) (by simp) (by simp)
    (by simp)]
  exact and_iff_left required

end

theorem mem_definition_keys {key : KeyDef} : key ∈ r.definition.keys ↔
    r.createIndexes = true ∧ ∃ spec ∈ r.indexes, spec.primary = false ∧
      (keyDef spec (specTypes r.columns)).1 = some key := by
  have keys : r.definition.keys =
      (secondaryKeys r.columns r.indexes r.createIndexes).filterMap Prod.fst := rfl
  rw [keys, secondaryKeys]
  cases r.createIndexes with
  | false => simp
  | true => simp [List.mem_filterMap, and_assoc]

/-- The constraints of the new table follow from those of the source exactly if its
keys cover keys of the source. -/
theorem entails_definition_iff :
    r.source.Entails Cell.null r.definition.Satisfied ↔ r.Covered := by
  have own : ∀ n ∈ r.keptPrimary, r.source.required n :=
    fun n mem => .inl (List.mem_of_mem_filter mem)
  constructor
  · intro entails
    constructor
    · intro kept
      rw [← r.entails_primary_iff _ own]
      exact fun rows unique notNull => (entails rows unique notNull).primary kept
    · intro created spec mem secondary key made unique
      rw [← r.entails_unique_iff]
      intro rows keys notNull
      have listed : key ∈ r.definition.keys :=
        r.mem_definition_keys.mpr ⟨created, spec, mem, secondary, made⟩
      exact (keyDef_satisfied_iff made rows).mp ((entails rows keys notNull).keys key listed) unique
  · intro covered rows keys notNull
    constructor
    · intro kept
      exact (r.entails_primary_iff _ own).mpr (covered.primary kept) rows keys notNull
    · intro key listed
      obtain ⟨created, spec, mem, secondary, made⟩ := r.mem_definition_keys.mp listed
      rw [keyDef_satisfied_iff made]
      intro unique
      exact (r.entails_unique_iff _).mpr (covered.indexes created spec mem secondary key made unique)
        rows keys notNull
    · rintro row mem n ⟨c, listed, name, required⟩
      obtain ⟨c, inside, rfl⟩ := List.mem_map.mp listed
      exact notNull row mem n (.inr (.inr ⟨c, inside, name, required⟩))

end PrepareRequest

section
variable (d : Database) (r : PrepareRequest)

/-- Every CREATE TABLE sent follows from the constraints of the source. -/
def PrepareSound (tables : Tables) : Prop :=
  ∀ plan, planRebuild d r tables = .ok (some plan) →
    r.source.Entails Cell.null plan.definition.Satisfied

variable (target : Place) (t : StagedTable)

/-- The loop of `ensure_indexes` on the table that is there. -/
abbrev indexTurn : IndexState → IndexSpec → IndexState :=
  ensureIndex d target t.coltypes t.indexNames

/-- Every ADD sent for the indexes follows from the constraints of the source. -/
def EnsureSound (s : IndexState) : Prop :=
  Runs.Each (indexTurn d target t) (fun s spec => ∀ change name note,
    planIndex t.coltypes t.indexNames s.hasPrimary spec = .add change name note →
      r.source.Entails Cell.null change.Satisfied) s r.indexes

/-- At each turn that adds a primary or a unique key, the columns the copy has cover
a key of the source. -/
def TurnsCovered (s : IndexState) : Prop :=
  Runs.Each (indexTurn d target t) (fun s spec => ∀ change name note,
    planIndex t.coltypes t.indexNames s.hasPrimary spec = .add change name note →
      (∀ key, change = .secondary key → key.unique = true) →
        r.Covers (knownColumns spec t.coltypes)) s r.indexes

theorem planIndex_eq_add {coltypes : List (String × String)} {existing : List String}
    {hasPrimary : Bool} {spec : IndexSpec} {change : KeyChange} {name note : String}
    (h : planIndex coltypes existing hasPrimary spec = .add change name note) :
    (spec.primary = true ∧ change = .primary (knownColumns spec coltypes)) ∨
      ∃ key, (keyDef spec coltypes).1 = some key ∧ change = .secondary key := by
  unfold planIndex at h
  dsimp only at h
  by_cases absent : knownColumns spec coltypes = []
  · simp [absent] at h
  rw [if_neg absent] at h
  split_ifs at h with primary present
  · have added := (IndexPlan.add.inj h).1
    exact .inl ⟨primary, added.symm⟩
  · cases made : keyDef spec coltypes with
    | mk key warning =>
      rw [made] at h
      cases key with
      | none => simp at h
      | some key =>
        have added := (IndexPlan.add.inj h).1
        exact .inr ⟨key, rfl, added.symm⟩

/-- One statement of the loop: a primary key, or a key that may be unique. -/
theorem entails_change_iff {coltypes : List (String × String)} {existing : List String}
    {hasPrimary : Bool} {spec : IndexSpec} (mem : spec ∈ r.indexes) {change : KeyChange}
    {name note : String} (h : planIndex coltypes existing hasPrimary spec = .add change name note) :
    r.source.Entails Cell.null change.Satisfied ↔
      ((∀ key, change = .secondary key → key.unique = true) →
        r.Covers (knownColumns spec coltypes)) := by
  rcases planIndex_eq_add h with ⟨primary, rfl⟩ | ⟨key, made, rfl⟩
  · have required : ∀ n ∈ knownColumns spec coltypes, r.source.required n :=
      fun n known => .inr (.inl ⟨spec, mem, primary, List.mem_of_mem_filter known⟩)
    have entails := r.entails_primary_iff _ required
    exact entails.trans ⟨fun covers _ => covers, fun h => h (by simp)⟩
  · rw [← r.entails_unique_iff]
    simp only [KeyChange.secondary.injEq, forall_eq']
    constructor
    · intro entails unique rows keys notNull
      exact (keyDef_satisfied_iff made rows).mp (entails rows keys notNull) unique
    · intro entails rows keys notNull
      exact (keyDef_satisfied_iff made rows).mpr (fun unique => entails unique rows keys notNull)

/-- The constraints sent follow from those of the source, whatever the contents,
exactly if every key sent covers a key of the source. -/
theorem keysSound_iff_covered (tables : Tables) (s : IndexState) :
    (PrepareSound d r tables ↔ (r.Sends d tables → r.Covered)) ∧
      (EnsureSound d r target t s ↔ TurnsCovered d r target t s) := by
  constructor
  · constructor
    · intro sound sends
      exact r.entails_definition_iff.mp (sound _ (planRebuild_of_sends sends))
    · intro covered plan planned
      have sends := sends_of_planRebuild planned
      rw [planRebuild_of_sends sends] at planned
      rw [← Option.some.inj (Except.ok.inj planned)]
      exact r.entails_definition_iff.mpr (covered sends)
  · constructor
    · intro sound
      refine (sound.and_forall (fun spec mem => mem)).mono ?_
      intro s spec turn change name note added
      exact (entails_change_iff r turn.2 added).mp (turn.1 change name note added)
    · intro covered
      refine (covered.and_forall (fun spec mem => mem)).mono ?_
      intro s spec turn change name note added
      exact (entails_change_iff r turn.2 added).mpr (turn.1 change name note added)

end

/-- The grades of users in courses, one of the two columns of the primary key left out. -/
def partialKey : PrepareRequest :=
  { gradesRequest "int" with primaryKey := ["id", "course"] }

theorem partialKey_not_sound : ¬PrepareSound ⟨1, true, willing⟩ partialKey (fun _ => none) := by
  intro sound
  have ready : partialKey.Ready ⟨1, true, willing⟩ := by
    refine ⟨by decide, by simp [partialKey, gradesRequest], by decide, fun c mem => ?_⟩
    obtain rfl := List.mem_singleton.mp mem
    exact ⟨by decide, by decide⟩
  have sends : partialKey.Sends ⟨1, true, willing⟩ (fun _ => none) :=
    ⟨ready, fun same => by simp [PrepareRequest.existing] at same⟩
  let row : Cell → Row := fun course n => if n = "course" then course else .number 1
  have constraints := sound _ (planRebuild_of_sends sends) [row (.number 1), row (.number 2)]
    (by
      intro key mem
      have keys : partialKey.source.keys = [["id", "course"]] := rfl
      rw [keys] at mem
      obtain rfl := List.mem_singleton.mp mem
      simp [Keys.Unique, Keys.Clash, row])
    (by
      intro r mem n _
      simp only [List.mem_cons, List.not_mem_nil, or_false] at mem
      obtain rfl | rfl := mem <;> simp only [row] <;> split <;> simp)
  have clash := (constraints.primary (by decide)).1
  simp only [Keys.Unique, List.pairwise_cons, List.mem_singleton, forall_eq] at clash
  apply clash.1
  intro n mem
  obtain rfl : n = "id" := List.mem_singleton.mp mem
  simp [row]

end Staging
end XpBuilder
