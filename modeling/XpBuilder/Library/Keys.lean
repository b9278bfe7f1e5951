import Mathlib.Data.List.Basic

/-! Key constraints on the contents of a table under the reading of SQL, where a
NULL never equals anything, and which of them follow from others. Two rows that
agree on a given set of columns and differ everywhere else decide the question. -/

namespace XpBuilder.Keys
variable {α β : Type} (null : β)

/-- The rows agree on all columns of the key, none of them NULL. -/
def Clash (key : List α) (r s : α → β) : Prop := ∀ a ∈ key, r a ≠ null ∧ r a = s a

def Unique (key : List α) (rows : List (α → β)) : Prop :=
  rows.Pairwise (fun r s => ¬Clash null key r s)

def NotNull (required : α → Prop) (rows : List (α → β)) : Prop :=
  ∀ r ∈ rows, ∀ a, required a → r a ≠ null

/-- A primary key is unique and not NULL. -/
def Primary (key : List α) (rows : List (α → β)) : Prop :=
  Unique null key rows ∧ NotNull null (· ∈ key) rows

/-- The constraints of a table: its unique keys and its NOT NULL columns. -/
structure Schema (α : Type) where
  keys : List (List α)
  required : α → Prop

/-- The constraint follows from the schema, on any contents. -/
def Schema.Entails (schema : Schema α) (constraint : List (α → β) → Prop) : Prop :=
  ∀ rows, (∀ key ∈ schema.keys, Unique null key rows) → NotNull null schema.required rows →
    constraint rows

variable {null} {schema : Schema α}

theorem Unique.mono {key wider : List α} {rows : List (α → β)} (subset : key ⊆ wider)
    (unique : Unique null key rows) : Unique null wider rows :=
  unique.imp (fun apart clash => apart (fun a mem => clash a (subset mem)))

section
variable {v w : β}

/-- A key with a column outside `key` tells the two rows apart. -/
theorem unique_pair [DecidableEq α] (differ : v ≠ w) {key other : List α} (outside : ¬other ⊆ key) :
    Unique null other [fun _ => v, fun a => if a ∈ key then v else w] := by
  obtain ⟨a, mem, out⟩ : ∃ a ∈ other, a ∉ key := by
    simpa [List.subset_def] using outside
  simp only [Unique, List.pairwise_cons, List.mem_singleton, forall_eq, List.not_mem_nil,
    false_implies, implies_true, List.Pairwise.nil, and_true]
  intro clash
  have agree : v = if a ∈ key then v else w := (clash a mem).2
  rw [if_neg out] at agree
  exact differ agree

theorem entails_unique_iff [DecidableEq α] (differ : v ≠ w) (hv : v ≠ null) (hw : w ≠ null)
    (key : List α) :
    schema.Entails null (Unique null key) ↔ ∃ own ∈ schema.keys, own ⊆ key := by
  constructor
  · intro entails
    by_contra none'
    have pair := entails [fun _ => v, fun a => if a ∈ key then v else w]
      (fun own mem => unique_pair differ (fun subset => none' ⟨own, mem, subset⟩)) (by
        intro r mem a _
        simp only [List.mem_cons, List.not_mem_nil, or_false] at mem
        obtain rfl | rfl := mem
        · exact hv
        · simp only
          split <;> assumption)
    simp only [Unique, List.pairwise_cons, List.mem_singleton, forall_eq] at pair
    apply pair.1
    intro a mem
    have agree : v = if a ∈ key then v else w := by rw [if_pos mem]
    exact ⟨hv, agree⟩
  · rintro ⟨own, mem, subset⟩ rows unique -
    exact (unique own mem).mono subset

/-- A single row with one NULL violates no unique key. -/
theorem entails_notNull_iff [DecidableEq α] (hv : v ≠ null) (required : α → Prop) :
    schema.Entails null (NotNull null required) ↔ ∀ a, required a → schema.required a := by
  constructor
  · intro entails a needed
    by_contra free
    have single := entails [fun b => if b = a then null else v]
      (fun _ _ => List.pairwise_singleton _ _) (by
        intro r mem b own
        obtain rfl := List.mem_singleton.mp mem
        have other : b ≠ a := fun same => free (same ▸ own)
        simpa [other] using hv)
    exact single _ List.mem_cons_self a needed (by simp)
  · intro implied rows _ notNull r mem a needed
    exact notNull r mem a (implied a needed)

theorem entails_and_iff {c c' : List (α → β) → Prop} :
    schema.Entails null (fun rows => c rows ∧ c' rows) ↔
      schema.Entails null c ∧ schema.Entails null c' := by
  constructor
  · intro both
    exact ⟨fun rows u n => (both rows u n).1, fun rows u n => (both rows u n).2⟩
  · intro each rows u n
    exact ⟨each.1 rows u n, each.2 rows u n⟩

theorem entails_primary_iff [DecidableEq α] (differ : v ≠ w) (hv : v ≠ null) (hw : w ≠ null)
    (key : List α) : schema.Entails null (Primary null key) ↔
      (∃ own ∈ schema.keys, own ⊆ key) ∧ ∀ a ∈ key, schema.required a := by
  rw [← entails_unique_iff differ hv hw, ← entails_notNull_iff hv]
  exact entails_and_iff

end
end XpBuilder.Keys
