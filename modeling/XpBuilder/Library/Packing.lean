import Mathlib.Algebra.BigOperators.Group.List.Basic
import Mathlib.Algebra.GroupWithZero.Nat
import Mathlib.Data.List.Chain

/-! A list packed into rows in its order. The loop fills one row at a time: an item goes into
the row that is being filled where it fits, and opens the next row where it does not. -/

namespace XpBuilder.Packing
variable {α : Type} (weight : α → Nat) (capacity : Nat)

def load (row : List α) : Nat := (row.map weight).sum

/-- The items in rows, none of them empty, none over the capacity, and none with room for
the item behind it. -/
structure Packed (items : List α) (rows : List (List α)) : Prop where
  whole : rows.flatten = items
  nonempty : ∀ row ∈ rows, row ≠ []
  within : ∀ row ∈ rows, load weight row ≤ capacity
  full : rows.IsChain (fun row next => ∀ item ∈ next.head?, capacity < load weight row + weight item)

/-- The rows that are done, the row that is being filled and what is used of it. -/
structure Filling (α : Type) where
  rows : List (List α)
  current : List α
  used : Nat

def Filling.close (s : Filling α) : Filling α := ⟨s.rows ++ [s.current], [], 0⟩

def put (s : Filling α) (item : α) : Filling α :=
  let opened := if s.current ≠ [] ∧ capacity < s.used + weight item then s.close else s
  ⟨opened.rows, opened.current ++ [item], opened.used + weight item⟩

def Filling.finished (s : Filling α) : List (List α) :=
  if s.current = [] then s.rows else s.close.rows

def pack (items : List α) : List (List α) := (items.foldl (put weight capacity) ⟨[], [], 0⟩).finished

variable {weight capacity}

theorem load_append (row other : List α) : load weight (row ++ other) = load weight row + load weight other := by
  simp [load]

theorem load_singleton (item : α) : load weight [item] = weight item := by
  simp [load]

/-! ## One more item -/

section Item
variable {items : List α} {rows : List (List α)} {row : List α} {item : α}

theorem packed_nil : Packed weight capacity ([] : List α) [] where
  whole := rfl
  nonempty := by simp
  within := by simp
  full := .nil

/-- An item that does not fit into the last row. -/
theorem Packed.open_row (packed : Packed weight capacity items rows) (fits : weight item ≤ capacity)
    (last : ∀ row ∈ rows.getLast?, capacity < load weight row + weight item) :
    Packed weight capacity (items ++ [item]) (rows ++ [[item]]) where
  whole := by simp [packed.whole]
  nonempty := by
    intro row mem
    rcases List.mem_append.mp mem with before | new
    · exact packed.nonempty row before
    · rw [List.mem_singleton.mp new]
      exact List.cons_ne_nil _ _
  within := by
    intro row mem
    rcases List.mem_append.mp mem with before | new
    · exact packed.within row before
    · rw [List.mem_singleton.mp new, load_singleton]
      exact fits
  full := by
    refine List.isChain_append.mpr ⟨packed.full, List.isChain_singleton _, ?_⟩
    intro row before next new item' first
    rw [List.head?_cons, Option.mem_def, Option.some.injEq] at new
    rw [← new, List.head?_cons, Option.mem_def, Option.some.injEq] at first
    rw [← first]
    exact last row before

/-- An item that fits into the last row. The rows before it see its first item only. -/
theorem Packed.fill_row (packed : Packed weight capacity items (rows ++ [row]))
    (fits : load weight row + weight item ≤ capacity) :
    Packed weight capacity (items ++ [item]) (rows ++ [row ++ [item]]) where
  whole := by simp [← packed.whole]
  nonempty := by
    intro other mem
    rcases List.mem_append.mp mem with before | last
    · exact packed.nonempty other (List.mem_append_left _ before)
    · rw [List.mem_singleton.mp last]
      simp
  within := by
    intro other mem
    rcases List.mem_append.mp mem with before | last
    · exact packed.within other (List.mem_append_left _ before)
    · rw [List.mem_singleton.mp last, load_append, load_singleton]
      exact fits
  full := by
    obtain ⟨before, -, join⟩ := List.isChain_append.mp packed.full
    refine List.isChain_append.mpr ⟨before, List.isChain_singleton _, ?_⟩
    intro other there next last item' first
    obtain ⟨head, tail, rfl⟩ := List.exists_cons_of_ne_nil (packed.nonempty row (by simp))
    rw [List.head?_cons, Option.mem_def, Option.some.injEq] at last
    rw [← last] at first
    exact join other there (head :: tail) rfl item' first

end Item

/-! ## The loop -/

/-- The rows so far are packed, and a row is being filled once there is one. -/
structure Filling.Holds (weight : α → Nat) (capacity : Nat) (s : Filling α) (items : List α) : Prop where
  used : s.used = load weight s.current
  started : s.current = [] → s.rows = []
  packed : Packed weight capacity items s.finished

theorem put_holds {s : Filling α} {items : List α} {item : α} (holds : s.Holds weight capacity items)
    (fits : weight item ≤ capacity) : (put weight capacity s item).Holds weight capacity (items ++ [item]) := by
  have packed := holds.packed
  unfold Filling.finished at packed
  by_cases start : s.current = []
  · have nothing := holds.started start
    have after : put weight capacity s item = ⟨[], [item], weight item⟩ := by
      simp [put, start, nothing, holds.used, load]
    rw [if_pos start, nothing] at packed
    rw [after]
    refine ⟨(load_singleton item).symm, fun empty => absurd empty (List.cons_ne_nil _ _), ?_⟩
    exact packed.open_row fits (by simp)
  · rw [if_neg start] at packed
    by_cases full : capacity < s.used + weight item
    · have after : put weight capacity s item = ⟨s.rows ++ [s.current], [item], weight item⟩ := by
        simp [put, start, full, Filling.close]
      rw [after]
      refine ⟨(load_singleton item).symm, fun empty => absurd empty (List.cons_ne_nil _ _), ?_⟩
      refine packed.open_row fits ?_
      intro row last
      rw [Filling.close, List.getLast?_concat, Option.mem_def, Option.some.injEq] at last
      rw [← last, ← holds.used]
      exact full
    · have after : put weight capacity s item = ⟨s.rows, s.current ++ [item], s.used + weight item⟩ := by
        simp [put, full]
      rw [after]
      refine ⟨?_, fun empty => absurd empty (by simp), ?_⟩
      · rw [holds.used, load_append, load_singleton]
      · have room : load weight s.current + weight item ≤ capacity := by
          rw [← holds.used]
          omega
        simpa [Filling.finished, Filling.close] using packed.fill_row room

theorem foldl_put_holds {s : Filling α} {before items : List α} (holds : s.Holds weight capacity before)
    (fit : ∀ item ∈ items, weight item ≤ capacity) :
    (items.foldl (put weight capacity) s).Holds weight capacity (before ++ items) := by
  induction items generalizing s before with
  | nil => simpa using holds
  | cons item rest ih =>
    rw [List.forall_mem_cons] at fit
    have later := ih (put_holds holds fit.1) fit.2
    simpa using later

/-- The loop packs every list of items that fit a row each. -/
theorem pack_packed {items : List α} (fit : ∀ item ∈ items, weight item ≤ capacity) :
    Packed weight capacity items (pack weight capacity items) := by
  have start : (⟨[], [], 0⟩ : Filling α).Holds weight capacity [] :=
    ⟨by simp [load], fun _ => rfl, packed_nil⟩
  exact (foldl_put_holds start fit).packed

end XpBuilder.Packing
