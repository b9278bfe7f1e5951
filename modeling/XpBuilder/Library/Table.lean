import XpBuilder.Library.Dict

/-! Tables with an auto-incremented primary key. Keys start at 1, and a key once
handed out is never handed out again, also after its row is deleted. -/

namespace XpBuilder

structure Table (α : Type) where
  rows : Dict Nat α
  next : Nat
  allotted : ∀ k, next ≤ k → rows.get k = none
  started : 0 < next
  zero : rows.get 0 = none

namespace Table
variable {α : Type}

instance [DecidableEq α] : DecidableEq (Table α) := fun t u =>
  decidable_of_iff (t.rows = u.rows ∧ t.next = u.next)
    ⟨fun h => by
      cases t
      cases u
      simpa using h, fun h => by rw [h]; exact ⟨rfl, rfl⟩⟩

def empty : Table α := ⟨Dict.empty, 1, fun _ _ => rfl, Nat.one_pos, rfl⟩

def get (t : Table α) (k : Nat) : Option α := t.rows.get k

def insert (t : Table α) (a : α) : Table α where
  rows := t.rows.set t.next a
  next := t.next + 1
  allotted k h := by
    rw [Dict.get_set_ne _ _ (by omega : k ≠ t.next)]
    exact t.allotted k (by omega)
  started := Nat.succ_pos _
  zero := by
    rw [Dict.get_set_ne _ _ (Nat.ne_of_lt t.started)]
    exact t.zero

def update (t : Table α) (k : Nat) (f : α → α) : Table α where
  rows := t.rows.modify k f
  next := t.next
  allotted j h := by
    rw [Dict.get_modify, t.allotted j h]
    simp
  started := t.started
  zero := by
    rw [Dict.get_modify, t.zero]
    simp

def updateAll (t : Table α) (f : Nat → α → α) : Table α where
  rows := t.rows.mapValues f
  next := t.next
  allotted j h := by simp [t.allotted j h]
  started := t.started
  zero := by simp [t.zero]

def delete (t : Table α) (k : Nat) : Table α where
  rows := t.rows.erase k
  next := t.next
  allotted j h := by
    rw [Dict.get_erase, t.allotted j h]
    simp
  started := t.started
  zero := by
    rw [Dict.get_erase, t.zero]
    simp

def first (t : Table α) (p : α → Bool) : Option (Nat × α) := t.rows.first p

/-- The keys of the rows that satisfy `p`, oldest first. -/
def keysWhere (t : Table α) (p : α → Bool) : List Nat := t.rows.keysWhere p

@[simp] theorem get_empty (k : Nat) : (empty : Table α).get k = none := rfl

theorem get_next (t : Table α) : t.get t.next = none := t.allotted t.next (Nat.le_refl _)

theorem lt_next {t : Table α} {k : Nat} {a : α} (h : t.get k = some a) : k < t.next := by
  by_contra hk
  have absent := t.allotted k (by omega)
  rw [get] at h
  simp [h] at absent

theorem ne_zero {t : Table α} {k : Nat} {a : α} (h : t.get k = some a) : k ≠ 0 := by
  rintro rfl
  rw [get, t.zero] at h
  exact absurd h (by simp)

theorem get_insert (t : Table α) (a : α) (k : Nat) :
    (t.insert a).get k = if k = t.next then some a else t.get k :=
  Dict.get_set t.rows t.next k a

@[simp] theorem get_insert_next (t : Table α) (a : α) : (t.insert a).get t.next = some a := by
  simp [get_insert]

theorem get_insert_of_some {t : Table α} {k : Nat} {b : α} (a : α) (h : t.get k = some b) :
    (t.insert a).get k = some b := by
  rw [get_insert, if_neg (Nat.ne_of_lt (lt_next h)), h]

@[simp] theorem insert_next (t : Table α) (a : α) : (t.insert a).next = t.next + 1 := rfl

theorem get_update (t : Table α) (k j : Nat) (f : α → α) :
    (t.update k f).get j = if j = k then (t.get j).map f else t.get j :=
  Dict.get_modify t.rows k j f

@[simp] theorem get_update_self (t : Table α) (k : Nat) (f : α → α) :
    (t.update k f).get k = (t.get k).map f := by simp [get_update]

@[simp] theorem get_update_ne (t : Table α) {k j : Nat} (f : α → α) (h : j ≠ k) :
    (t.update k f).get j = t.get j := by simp [get_update, h]

@[simp] theorem update_next (t : Table α) (k : Nat) (f : α → α) : (t.update k f).next = t.next :=
  rfl

@[simp] theorem get_updateAll (t : Table α) (f : Nat → α → α) (k : Nat) :
    (t.updateAll f).get k = (t.get k).map (f k) := Dict.get_mapValues t.rows f k

@[simp] theorem updateAll_next (t : Table α) (f : Nat → α → α) : (t.updateAll f).next = t.next := rfl

theorem get_delete (t : Table α) (k j : Nat) :
    (t.delete k).get j = if j = k then none else t.get j := Dict.get_erase t.rows k j

@[simp] theorem get_delete_self (t : Table α) (k : Nat) : (t.delete k).get k = none := by
  simp [get_delete]

@[simp] theorem get_delete_ne (t : Table α) {k j : Nat} (h : j ≠ k) :
    (t.delete k).get j = t.get j := by simp [get_delete, h]

@[simp] theorem delete_next (t : Table α) (k : Nat) : (t.delete k).next = t.next := rfl

theorem update_eq_self (t : Table α) {k : Nat} {f : α → α}
    (h : ∀ a, t.get k = some a → f a = a) : t.update k f = t := by
  have rows := Dict.modify_eq_self t.rows h
  cases t
  simp only [update, mk.injEq, and_true]
  exact rows

theorem update_congr (t : Table α) {k : Nat} {f g : α → α}
    (same : ∀ a, t.get k = some a → f a = g a) : t.update k f = t.update k g := by
  have rows := Dict.modify_congr t.rows same
  unfold update
  simp only [mk.injEq, and_true]
  exact rows

theorem mem_keysWhere {t : Table α} {p : α → Bool} {k : Nat} :
    k ∈ t.keysWhere p ↔ ∃ a, t.get k = some a ∧ p a := Dict.mem_keysWhere

theorem keysWhere_insert (t : Table α) (a : α) (p : α → Bool) :
    (t.insert a).keysWhere p = t.keysWhere p ++ (if p a then [t.next] else []) :=
  Dict.keysWhere_set_of_absent t.rows a t.get_next p

theorem keysWhere_update (t : Table α) (k : Nat) {f : α → α} {p : α → Bool}
    (same : ∀ a, p (f a) = p a) : (t.update k f).keysWhere p = t.keysWhere p :=
  Dict.keysWhere_modify t.rows k same

theorem first_eq_some {t : Table α} {p : α → Bool} {k : Nat} {a : α}
    (h : t.first p = some (k, a)) : t.get k = some a ∧ p a = true := Dict.first_eq_some h

theorem first_eq_none {t : Table α} {p : α → Bool} (h : t.first p = none) {k : Nat} {a : α}
    (ha : t.get k = some a) : p a = false := Dict.first_eq_none h ha

end Table
end XpBuilder
