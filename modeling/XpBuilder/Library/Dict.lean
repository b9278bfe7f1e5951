import Mathlib.Data.List.Nodup
import Mathlib.Data.List.Perm.Basic

/-! Insertion-ordered dictionaries: a key occurs at most once, assignment to a
present key keeps its position and a new key goes to the end. The lemmas
describe every update by what `get` returns afterwards. -/

namespace XpBuilder

structure Dict (κ α : Type) where
  entries : List (κ × α)
  distinct : (entries.map Prod.fst).Nodup

namespace Dict

theorem ext_entries {κ α : Type} {d e : Dict κ α} (h : d.entries = e.entries) : d = e := by
  cases d
  cases e
  simpa using h

variable {κ α : Type} [DecidableEq κ]

instance [DecidableEq α] : DecidableEq (Dict κ α) := fun d e =>
  decidable_of_iff (d.entries = e.entries) ⟨ext_entries, fun h => by rw [h]⟩

def empty : Dict κ α := ⟨[], by simp⟩

def find (key : κ) : List (κ × α) → Option α
  | [] => none
  | (k, a) :: rest => if k = key then some a else find key rest

def assign (key : κ) (value : α) : List (κ × α) → List (κ × α)
  | [] => [(key, value)]
  | (k, a) :: rest => if k = key then (k, value) :: rest else (k, a) :: assign key value rest

theorem mem_keys_assign (key k : κ) (value : α) (es : List (κ × α)) :
    k ∈ (assign key value es).map Prod.fst ↔ k = key ∨ k ∈ es.map Prod.fst := by
  induction es with
  | nil => simp [assign]
  | cons e rest ih =>
    by_cases h : e.1 = key
    · simp only [assign, h, if_true, List.map_cons, List.mem_cons]
      tauto
    · simp only [assign, h, if_false, List.map_cons, List.mem_cons, ih]
      tauto

theorem distinct_assign (key : κ) (value : α) {es : List (κ × α)}
    (h : (es.map Prod.fst).Nodup) : ((assign key value es).map Prod.fst).Nodup := by
  induction es with
  | nil => simp [assign]
  | cons e rest ih =>
    simp only [List.map_cons, List.nodup_cons] at h
    by_cases he : e.1 = key
    · simpa only [assign, he, if_true, List.map_cons, List.nodup_cons] using he ▸ h
    · simp only [assign, he, if_false, List.map_cons, List.nodup_cons]
      refine ⟨fun hm => ?_, ih h.2⟩
      rcases (mem_keys_assign key e.1 value rest).mp hm with hk | hk
      · exact he hk
      · exact h.1 hk

def discard (key : κ) : List (κ × α) → List (κ × α)
  | [] => []
  | (k, a) :: rest => if k = key then discard key rest else (k, a) :: discard key rest

theorem discard_sublist (key : κ) (es : List (κ × α)) : (discard key es).Sublist es := by
  induction es with
  | nil => exact List.Sublist.refl []
  | cons e rest ih =>
    by_cases h : e.1 = key
    · simpa only [discard, h, if_true] using ih.cons e
    · simpa only [discard, h, if_false] using ih.cons_cons e

def get (d : Dict κ α) (key : κ) : Option α := find key d.entries

def set (d : Dict κ α) (key : κ) (value : α) : Dict κ α :=
  ⟨assign key value d.entries, distinct_assign key value d.distinct⟩

def erase (d : Dict κ α) (key : κ) : Dict κ α :=
  ⟨discard key d.entries, d.distinct.sublist ((discard_sublist key d.entries).map _)⟩

/-- Apply `f` to the value under `key`; an absent key changes nothing. -/
def modify (d : Dict κ α) (key : κ) (f : α → α) : Dict κ α :=
  ⟨d.entries.map (fun e => if e.1 = key then (e.1, f e.2) else e), by
    have keys : (d.entries.map (fun e => if e.1 = key then (e.1, f e.2) else e)).map Prod.fst =
        d.entries.map Prod.fst := by
      rw [List.map_map]
      apply List.map_congr_left
      intro e _
      dsimp
      split <;> rfl
    rw [keys]
    exact d.distinct⟩

/-- Apply `f` to every value, with its key. -/
def mapValues (d : Dict κ α) (f : κ → α → α) : Dict κ α :=
  ⟨d.entries.map (fun e => (e.1, f e.1 e.2)), by
    have keys : (d.entries.map (fun e => (e.1, f e.1 e.2))).map Prod.fst =
        d.entries.map Prod.fst := by
      rw [List.map_map]
      rfl
    rw [keys]
    exact d.distinct⟩

def values (d : Dict κ α) : List α := d.entries.map Prod.snd

@[simp] theorem get_empty (key : κ) : (empty : Dict κ α).get key = none := rfl

theorem find_assign (key k : κ) (value : α) (es : List (κ × α)) :
    find k (assign key value es) = if k = key then some value else find k es := by
  induction es with
  | nil =>
    simp only [assign, find, eq_comm (a := key)]
  | cons e rest ih =>
    by_cases h : e.1 = key
    · by_cases hk : k = key
      · simp [assign, find, h, hk]
      · simp [assign, find, h, hk, Ne.symm hk]
    · by_cases hk : k = key
      · subst hk
        simpa [assign, find, h] using ih
      · simp [assign, find, h, ih, hk]

theorem find_discard (key k : κ) (es : List (κ × α)) :
    find k (discard key es) = if k = key then none else find k es := by
  induction es with
  | nil => simp [discard, find]
  | cons e rest ih =>
    by_cases h : e.1 = key
    · by_cases hk : k = key
      · subst hk
        simpa [discard, h] using ih
      · simp [discard, find, h, ih, hk, Ne.symm hk]
    · by_cases hk : k = key
      · subst hk
        simpa [discard, find, h] using ih
      · simp [discard, find, h, ih, hk]

theorem find_map (f : κ → α → α) (k : κ) (es : List (κ × α)) :
    find k (es.map (fun e => (e.1, f e.1 e.2))) = (find k es).map (f k) := by
  induction es with
  | nil => rfl
  | cons e rest ih =>
    by_cases h : e.1 = k
    · simp [find, h]
    · simp [find, h, ih]

theorem get_set (d : Dict κ α) (key k : κ) (value : α) :
    (d.set key value).get k = if k = key then some value else d.get k :=
  find_assign key k value d.entries

@[simp] theorem get_set_self (d : Dict κ α) (key : κ) (value : α) :
    (d.set key value).get key = some value := by simp [get_set]

@[simp] theorem get_set_ne (d : Dict κ α) {key k : κ} (value : α) (h : k ≠ key) :
    (d.set key value).get k = d.get k := by simp [get_set, h]

theorem get_erase (d : Dict κ α) (key k : κ) :
    (d.erase key).get k = if k = key then none else d.get k :=
  find_discard key k d.entries

@[simp] theorem get_erase_self (d : Dict κ α) (key : κ) : (d.erase key).get key = none := by
  simp [get_erase]

@[simp] theorem get_erase_ne (d : Dict κ α) {key k : κ} (h : k ≠ key) :
    (d.erase key).get k = d.get k := by simp [get_erase, h]

theorem get_modify (d : Dict κ α) (key k : κ) (f : α → α) :
    (d.modify key f).get k = if k = key then (d.get k).map f else d.get k := by
  have shape : (d.modify key f).entries =
      d.entries.map (fun e => (e.1, (if e.1 = key then f else id) e.2)) := by
    apply List.map_congr_left
    intro e _
    by_cases h : e.1 = key <;> simp [h]
  rw [get, shape, find_map (fun k => if k = key then f else id)]
  by_cases h : k = key <;> simp [h, get]

@[simp] theorem get_modify_self (d : Dict κ α) (key : κ) (f : α → α) :
    (d.modify key f).get key = (d.get key).map f := by simp [get_modify]

@[simp] theorem get_modify_ne (d : Dict κ α) {key k : κ} (f : α → α) (h : k ≠ key) :
    (d.modify key f).get k = d.get k := by simp [get_modify, h]

@[simp] theorem get_mapValues (d : Dict κ α) (f : κ → α → α) (k : κ) :
    (d.mapValues f).get k = (d.get k).map (f k) := find_map f k d.entries

theorem find_eq_some_iff {es : List (κ × α)} (h : (es.map Prod.fst).Nodup) (k : κ) (a : α) :
    find k es = some a ↔ (k, a) ∈ es := by
  induction es with
  | nil => simp [find]
  | cons e rest ih =>
    simp only [List.map_cons, List.nodup_cons] at h
    by_cases hk : e.1 = k
    · have absent : (k, a) ∉ rest := fun hm => h.1 (hk ▸ List.mem_map_of_mem (f := Prod.fst) hm)
      simp only [find, hk, if_true, List.mem_cons, absent, or_false, Option.some.injEq]
      constructor
      · intro ha
        rw [← hk, ← ha]
      · intro ha
        rw [← ha]
    · have other : (k, a) ≠ e := fun he => hk (by rw [← he])
      simp only [find, hk, if_false, List.mem_cons, other, false_or]
      exact ih h.2

theorem get_eq_some_iff (d : Dict κ α) (k : κ) (a : α) :
    d.get k = some a ↔ (k, a) ∈ d.entries := find_eq_some_iff d.distinct k a

theorem get_eq_none_iff (d : Dict κ α) (k : κ) :
    d.get k = none ↔ k ∉ d.entries.map Prod.fst := by
  rw [Option.eq_none_iff_forall_ne_some]
  constructor
  · intro h hm
    obtain ⟨e, he, rfl⟩ := List.mem_map.mp hm
    exact h e.2 ((d.get_eq_some_iff e.1 e.2).mpr he)
  · intro h a ha
    exact h (List.mem_map_of_mem (f := Prod.fst) ((d.get_eq_some_iff k a).mp ha))

theorem assign_absent {key : κ} {es : List (κ × α)} (value : α) (h : key ∉ es.map Prod.fst) :
    assign key value es = es ++ [(key, value)] := by
  induction es with
  | nil => rfl
  | cons e rest ih =>
    simp only [List.map_cons, List.mem_cons, not_or] at h
    have other : ¬ e.1 = key := fun same => h.1 same.symm
    simp [assign, other, ih h.2]

/-- A new key goes to the end. -/
theorem entries_set_of_absent (d : Dict κ α) {key : κ} (value : α) (h : d.get key = none) :
    (d.set key value).entries = d.entries ++ [(key, value)] :=
  assign_absent value ((d.get_eq_none_iff key).mp h)

/-- The keys of the entries whose value satisfies `p`. -/
def keysWhere (d : Dict κ α) (p : α → Bool) : List κ :=
  (d.entries.filter (fun e => p e.2)).map Prod.fst

theorem mem_keysWhere {d : Dict κ α} {p : α → Bool} {k : κ} :
    k ∈ d.keysWhere p ↔ ∃ a, d.get k = some a ∧ p a := by
  simp only [keysWhere, List.mem_map, List.mem_filter]
  constructor
  · rintro ⟨e, ⟨mem, holds⟩, rfl⟩
    exact ⟨e.2, (d.get_eq_some_iff e.1 e.2).mpr mem, holds⟩
  · rintro ⟨a, found, holds⟩
    exact ⟨(k, a), ⟨(d.get_eq_some_iff k a).mp found, holds⟩, rfl⟩

theorem keysWhere_set_of_absent (d : Dict κ α) {key : κ} (value : α) (h : d.get key = none)
    (p : α → Bool) :
    (d.set key value).keysWhere p = d.keysWhere p ++ (if p value then [key] else []) := by
  unfold keysWhere
  rw [entries_set_of_absent d value h, List.filter_append, List.map_append]
  split
  · rename_i holds
    simp [holds]
  · rename_i fails
    simp [fails]

/-- A change of a value that `p` does not see. -/
theorem keysWhere_modify (d : Dict κ α) (key : κ) {f : α → α} {p : α → Bool}
    (same : ∀ a, p (f a) = p a) : (d.modify key f).keysWhere p = d.keysWhere p := by
  unfold keysWhere modify
  simp only [List.filter_map, List.map_map]
  have selects : ((fun e : κ × α => p e.2) ∘ fun e => if e.1 = key then (e.1, f e.2) else e) =
      fun e => p e.2 := by
    funext e
    simp only [Function.comp_apply]
    split
    · exact same e.2
    · rfl
  rw [selects]
  apply List.map_congr_left
  intro e _
  simp only [Function.comp_apply]
  split
  · rfl
  · rfl

theorem modify_eq_self (d : Dict κ α) {key : κ} {f : α → α}
    (h : ∀ a, d.get key = some a → f a = a) : d.modify key f = d := by
  apply ext_entries
  have same : ∀ e ∈ d.entries, (if e.1 = key then (e.1, f e.2) else e) = e := by
    intro e he
    by_cases hk : e.1 = key
    · rw [if_pos hk, h e.2 ((d.get_eq_some_iff key e.2).mpr (hk ▸ he))]
    · rw [if_neg hk]
  calc (d.modify key f).entries = d.entries.map id := List.map_congr_left same
    _ = d.entries := List.map_id _

theorem modify_congr (d : Dict κ α) {key : κ} {f g : α → α}
    (same : ∀ a, d.get key = some a → f a = g a) : d.modify key f = d.modify key g := by
  apply ext_entries
  apply List.map_congr_left
  intro e mem
  by_cases here : e.1 = key
  · rw [if_pos here, if_pos here, same e.2 ((d.get_eq_some_iff key e.2).mpr (here ▸ mem))]
  · rw [if_neg here, if_neg here]

/-! ## The keys in their order -/

theorem keys_set_of_absent (d : Dict κ α) {key : κ} (value : α) (h : d.get key = none) :
    (d.set key value).entries.map Prod.fst = d.entries.map Prod.fst ++ [key] := by
  rw [entries_set_of_absent d value h, List.map_append]
  rfl

theorem keys_modify (d : Dict κ α) (key : κ) (f : α → α) :
    (d.modify key f).entries.map Prod.fst = d.entries.map Prod.fst := by
  unfold modify
  rw [List.map_map]
  apply List.map_congr_left
  intro e _
  dsimp
  split <;> rfl

omit [DecidableEq κ] in
theorem keys_mapValues (d : Dict κ α) (f : κ → α → α) :
    (d.mapValues f).entries.map Prod.fst = d.entries.map Prod.fst := by
  unfold mapValues
  rw [List.map_map]
  rfl

theorem keys_discard (key : κ) (es : List (κ × α)) :
    (discard key es).map Prod.fst = (es.map Prod.fst).filter (fun k => k ≠ key) := by
  induction es with
  | nil => rfl
  | cons e rest ih =>
    by_cases h : e.1 = key
    · simp [discard, h, ih]
    · simp [discard, h, ih]

theorem keys_erase (d : Dict κ α) (key : κ) :
    (d.erase key).entries.map Prod.fst = (d.entries.map Prod.fst).filter (fun k => k ≠ key) :=
  keys_discard key d.entries

theorem find_eq_none {es : List (κ × α)} {k : κ} (absent : k ∉ es.map Prod.fst) : find k es = none := by
  induction es with
  | nil => rfl
  | cons e rest ih =>
    rw [List.map_cons, List.mem_cons, not_or] at absent
    rw [find, if_neg (Ne.symm absent.1), ih absent.2]

theorem find_congr {es fs : List (κ × α)} (keys : es.map Prod.fst = fs.map Prod.fst)
    (distinct : (es.map Prod.fst).Nodup) (same : ∀ k, find k es = find k fs) : es = fs := by
  induction es generalizing fs with
  | nil => exact (List.map_eq_nil_iff.mp keys.symm).symm
  | cons e rest ih =>
    cases fs with
    | nil => cases keys
    | cons f others =>
      simp only [List.map_cons, List.cons.injEq] at keys
      rw [List.map_cons, List.nodup_cons] at distinct
      have first := same e.1
      simp only [find, keys.1, if_true, Option.some.injEq] at first
      have later : ∀ k, find k rest = find k others := by
        intro k
        by_cases here : k = e.1
        · rw [here, find_eq_none distinct.1, find_eq_none (keys.2 ▸ distinct.1)]
        · have rest_eq := same k
          simp only [find, if_neg (Ne.symm here), if_neg (keys.1 ▸ Ne.symm here)] at rest_eq
          exact rest_eq
      rw [Prod.ext keys.1 first, ih keys.2 distinct.2 later]

/-- Dictionaries with the same keys in the same order and the same values. -/
theorem ext_keys {d e : Dict κ α} (keys : d.entries.map Prod.fst = e.entries.map Prod.fst)
    (same : ∀ k, d.get k = e.get k) : d = e := ext_entries (find_congr keys d.distinct same)

/-- Assign one entry after the other. -/
def setAll (d : Dict κ α) (es : List (κ × α)) : Dict κ α := es.foldl (fun d e => d.set e.1 e.2) d

theorem get_setAll_of_not_mem {es : List (κ × α)} {key : κ} (absent : key ∉ es.map Prod.fst)
    (d : Dict κ α) : (d.setAll es).get key = d.get key := by
  induction es generalizing d with
  | nil => rfl
  | cons e rest ih =>
    simp only [List.map_cons, List.mem_cons, not_or] at absent
    have kept := ih absent.2 (d.set e.1 e.2)
    rw [get_set_ne d e.2 absent.1] at kept
    exact kept

theorem get_setAll_of_mem {es : List (κ × α)} (distinct : (es.map Prod.fst).Nodup) {key : κ} {a : α}
    (mem : (key, a) ∈ es) (d : Dict κ α) : (d.setAll es).get key = some a := by
  induction es generalizing d with
  | nil => cases mem
  | cons e rest ih =>
    rw [List.map_cons, List.nodup_cons] at distinct
    cases mem with
    | head =>
      have kept := get_setAll_of_not_mem distinct.1 (d.set key a)
      rw [get_set_self] at kept
      exact kept
    | tail _ mem => exact ih distinct.2 mem (d.set e.1 e.2)

/-- Of the entries of a key one is kept. -/
theorem exists_get_setAll {es : List (κ × α)} {key : κ} (present : key ∈ es.map Prod.fst) (d : Dict κ α) :
    ∃ a, (key, a) ∈ es ∧ (d.setAll es).get key = some a := by
  induction es generalizing d with
  | nil => cases present
  | cons e rest ih =>
    by_cases later : key ∈ rest.map Prod.fst
    · have kept := ih later (d.set e.1 e.2)
      obtain ⟨a, there, got⟩ := kept
      exact ⟨a, List.mem_cons_of_mem e there, got⟩
    · have here : key = e.1 := by simpa [later] using present
      refine ⟨e.2, by simp [here], ?_⟩
      have kept := get_setAll_of_not_mem later (d.set e.1 e.2)
      rw [get_set, if_pos here] at kept
      exact kept

theorem isSome_get_setAll {es : List (κ × α)} {key : κ} {d : Dict κ α}
    (there : (d.get key).isSome ∨ key ∈ es.map Prod.fst) : ((d.setAll es).get key).isSome := by
  by_cases present : key ∈ es.map Prod.fst
  · obtain ⟨a, -, kept⟩ := exists_get_setAll present d
    rw [kept]
    rfl
  · rw [get_setAll_of_not_mem present]
    exact there.resolve_right present

theorem mem_of_get_setAll {es : List (κ × α)} {key : κ} {a : α}
    (got : ((empty : Dict κ α).setAll es).get key = some a) : (key, a) ∈ es := by
  by_cases present : key ∈ es.map Prod.fst
  · obtain ⟨b, there, kept⟩ := exists_get_setAll present empty
    rw [kept, Option.some.injEq] at got
    exact got ▸ there
  · rw [get_setAll_of_not_mem present, get_empty] at got
    cases got

theorem get_setAll_eq_none_iff {es : List (κ × α)} {key : κ} :
    ((empty : Dict κ α).setAll es).get key = none ↔ key ∉ es.map Prod.fst := by
  constructor
  · intro missing present
    obtain ⟨b, -, kept⟩ := exists_get_setAll present empty
    rw [missing] at kept
    cases kept
  · intro absent
    rw [get_setAll_of_not_mem absent, get_empty]

/-- New keys go to the end in their order. -/
theorem entries_setAll {es : List (κ × α)} (distinct : (es.map Prod.fst).Nodup) {d : Dict κ α}
    (absent : ∀ e ∈ es, d.get e.1 = none) : (d.setAll es).entries = d.entries ++ es := by
  induction es generalizing d with
  | nil => exact (List.append_nil _).symm
  | cons e rest ih =>
    rw [List.map_cons, List.nodup_cons] at distinct
    have later : ∀ f ∈ rest, (d.set e.1 e.2).get f.1 = none := by
      intro f mem
      have other : f.1 ≠ e.1 := fun same => distinct.1 (same ▸ List.mem_map_of_mem mem)
      rw [get_set_ne d e.2 other]
      exact absent f (List.mem_cons_of_mem _ mem)
    have tail := ih distinct.2 later
    rw [entries_set_of_absent d e.2 (absent e List.mem_cons_self), List.append_assoc] at tail
    exact tail

section Renamed
variable {κ' α' : Type} [DecidableEq κ'] {g : κ → κ'} {f : α → α'}

theorem assign_renamed (inj : Function.Injective g) (key : κ) (value : α) (es : List (κ × α)) :
    assign (g key) (f value) (es.map (Prod.map g f)) = (assign key value es).map (Prod.map g f) := by
  induction es with
  | nil => rfl
  | cons e rest ih =>
    rw [List.map_cons, Prod.map]
    by_cases here : e.1 = key
    · simp only [assign, here, if_true, List.map_cons, Prod.map]
    · have other : g e.1 ≠ g key := fun same => here (inj same)
      simp only [assign, here, other, if_false, List.map_cons, ih, Prod.map]

/-- Assignments under other keys, with other values. -/
theorem entries_setAll_renamed (inj : Function.Injective g) (es : List (κ × α)) {d : Dict κ α} {d' : Dict κ' α'}
    (same : d'.entries = d.entries.map (Prod.map g f)) :
    (d'.setAll (es.map (Prod.map g f))).entries = (d.setAll es).entries.map (Prod.map g f) := by
  induction es generalizing d d' with
  | nil => exact same
  | cons e rest ih =>
    have first : (d'.set (g e.1) (f e.2)).entries = (d.set e.1 e.2).entries.map (Prod.map g f) := by
      change assign (g e.1) (f e.2) d'.entries = _
      rw [same, assign_renamed inj]
      rfl
    exact ih first

theorem find_renamed (inj : Function.Injective g) (key : κ) (es : List (κ × α)) :
    find (g key) (es.map (Prod.map g f)) = (find key es).map f := by
  induction es with
  | nil => rfl
  | cons e rest ih =>
    rw [List.map_cons, Prod.map]
    by_cases here : e.1 = key
    · simp only [find, here, if_true, Option.map_some]
    · have other : g e.1 ≠ g key := fun same => here (inj same)
      simp only [find, here, other, if_false, ih]

end Renamed

/-- Give the key of each element a value made from the one it has. -/
def updateAll {β : Type} (keyOf : β → κ) (f : β → Option α → α) (d : Dict κ α) (bs : List β) : Dict κ α :=
  bs.foldl (fun d b => d.set (keyOf b) (f b (d.get (keyOf b)))) d

section
variable {β : Type} {keyOf : β → κ} {f : β → Option α → α}

theorem get_updateAll_of_not_mem {bs : List β} {key : κ} (absent : key ∉ bs.map keyOf) (d : Dict κ α) :
    (updateAll keyOf f d bs).get key = d.get key := by
  induction bs generalizing d with
  | nil => rfl
  | cons b rest ih =>
    simp only [List.map_cons, List.mem_cons, not_or] at absent
    have kept := ih absent.2 (d.set (keyOf b) (f b (d.get (keyOf b))))
    rw [get_set_ne _ _ absent.1] at kept
    exact kept

theorem get_updateAll_of_mem {bs : List β} (distinct : (bs.map keyOf).Nodup) {b : β} (mem : b ∈ bs)
    (d : Dict κ α) : (updateAll keyOf f d bs).get (keyOf b) = some (f b (d.get (keyOf b))) := by
  induction bs generalizing d with
  | nil => cases mem
  | cons first rest ih =>
    rw [List.map_cons, List.nodup_cons] at distinct
    have next : updateAll keyOf f d (first :: rest) =
        updateAll keyOf f (d.set (keyOf first) (f first (d.get (keyOf first)))) rest := rfl
    cases mem with
    | head => rw [next, get_updateAll_of_not_mem distinct.1, get_set_self]
    | tail _ later =>
      have apart : keyOf b ≠ keyOf first := by
        intro same
        exact distinct.1 (same ▸ List.mem_map_of_mem later)
      rw [next, ih distinct.2 later, get_set_ne _ _ apart]

end

/-- The first entry whose value satisfies `p`, in insertion order. -/
def first (d : Dict κ α) (p : α → Bool) : Option (κ × α) := d.entries.find? (fun e => p e.2)

theorem first_eq_some {d : Dict κ α} {p : α → Bool} {k : κ} {a : α}
    (h : d.first p = some (k, a)) : d.get k = some a ∧ p a = true :=
  ⟨(d.get_eq_some_iff k a).mpr (List.mem_of_find?_eq_some h),
    List.find?_some (p := fun e : κ × α => p e.2) h⟩

theorem first_eq_none {d : Dict κ α} {p : α → Bool} (h : d.first p = none)
    {k : κ} {a : α} (ha : d.get k = some a) : p a = false := by
  have := List.find?_eq_none.mp h (k, a) ((d.get_eq_some_iff k a).mp ha)
  simpa using this

end Dict
end XpBuilder
