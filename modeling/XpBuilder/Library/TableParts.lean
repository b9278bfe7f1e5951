import Mathlib.Tactic.SplitIfs
import XpBuilder.Library.Table

/-! The rows of a table that meet a condition, oldest first, and what becomes of them. -/

namespace XpBuilder.Table
variable {α : Type}

/-- The rows that satisfy `p` with their keys. -/
def part (t : Table α) (p : α → Bool) : List (Nat × α) := t.rows.entries.filter (fun e => p e.2)

variable {t : Table α} {p q : α → Bool} {e : Nat × α}

theorem mem_part : e ∈ t.part p ↔ t.get e.1 = some e.2 ∧ p e.2 := by
  rw [part, List.mem_filter, get, Dict.get_eq_some_iff]

theorem nodup_part : ((t.part p).map Prod.fst).Nodup := t.rows.distinct.sublist (List.filter_sublist.map Prod.fst)

theorem lt_next_of_mem_part (mem : e ∈ t.part p) : e.1 < t.next := lt_next (mem_part.mp mem).1

/-- A row outside a part has its key outside. -/
theorem key_notMem_part (mem : e ∈ t.part p) (outside : q e.2 = false) : e.1 ∉ (t.part q).map Prod.fst := by
  intro there
  obtain ⟨e', mem', same⟩ := List.mem_map.mp there
  have row := (mem_part.mp mem).1
  rw [← same, (mem_part.mp mem').1] at row
  have inside := (mem_part.mp mem').2
  rw [Option.some.inj row, outside] at inside
  cases inside

theorem part_insert (t : Table α) (a : α) (p : α → Bool) : (t.insert a).part p = t.part p ++ if p a then [(t.next, a)] else [] := by
  unfold part
  rw [insert, Dict.entries_set_of_absent _ _ (t.allotted t.next (Nat.le_refl _)), List.filter_append]
  by_cases kept : p a <;> simp [kept]

theorem discard_eq_filter (k : Nat) (es : List (Nat × α)) : Dict.discard k es = es.filter (fun e => e.1 ≠ k) := by
  induction es with
  | nil => rfl
  | cons e rest ih =>
    by_cases same : e.1 = k <;> simp [Dict.discard, same, ih]

theorem part_delete (t : Table α) (k : Nat) (p : α → Bool) : (t.delete k).part p = (t.part p).filter (fun e => e.1 ≠ k) := by
  have rows : (t.delete k).rows.entries = t.rows.entries.filter (fun e => e.1 ≠ k) := discard_eq_filter k t.rows.entries
  rw [part, rows, part, List.filter_filter, List.filter_filter]
  congr 1
  funext e
  rw [Bool.and_comm]

/-- A row that is changed without a change of the condition. -/
theorem part_update (t : Table α) (k : Nat) {f : α → α} {p : α → Bool} (same : ∀ a, t.get k = some a → p (f a) = p a) :
    (t.update k f).part p = (t.part p).map (fun e => if e.1 = k then (e.1, f e.2) else e) := by
  have rows : (t.update k f).rows.entries = t.rows.entries.map (fun e => if e.1 = k then (e.1, f e.2) else e) := rfl
  rw [part, rows, part, List.filter_map]
  congr 1
  apply List.filter_congr
  intro e mem
  dsimp only [Function.comp_apply]
  split_ifs with here
  · exact same e.2 (here ▸ (Dict.get_eq_some_iff t.rows e.1 e.2).mpr mem)
  · rfl

/-- A part of a part. -/
theorem part_of_le (weaker : ∀ a, p a → q a) : t.part p = (t.part q).filter (fun e => p e.2) := by
  rw [part, part, List.filter_filter]
  apply List.filter_congr
  intro e _
  cases here : p e.2 with
  | false => simp
  | true => simp [weaker _ here]

end XpBuilder.Table
