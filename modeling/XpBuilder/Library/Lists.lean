import Mathlib.Data.List.Sort

/-! Lists that agree: two ways of sorting, filtering or counting the same list that
come out the same do the same to each of its members. And lists whose members have
distinct keys, searched by key. -/

namespace XpBuilder.Lists
variable {α β : Type}

/-- A property that is decided member by member. -/
theorem forall_mem_of_all {p : α → Prop} [DecidablePred p] {l : List α} (each : l.all (fun a => p a) = true) :
    ∀ a ∈ l, p a := by
  intro a mem
  exact of_decide_eq_true (List.all_eq_true.mp each a mem)

/-- Sorting by an injective key forgets the order and nothing else. -/
theorem insertionSort_eq_iff_perm [LinearOrder β] {key : α → β} (injective : Function.Injective key)
    (l m : List α) : l.insertionSort (fun a b => key a ≤ key b) =
      m.insertionSort (fun a b => key a ≤ key b) ↔ l.Perm m := by
  constructor
  · intro same
    have left := List.perm_insertionSort (fun a b => key a ≤ key b) l
    have right := List.perm_insertionSort (fun a b => key a ≤ key b) m
    rw [same] at left
    exact left.symm.trans right
  · intro perm
    have sorted : (l.insertionSort (fun a b => key a ≤ key b)).Perm
        (m.insertionSort (fun a b => key a ≤ key b)) :=
      (List.perm_insertionSort _ l).trans (perm.trans (List.perm_insertionSort _ m).symm)
    have total : Std.Total (fun a b => key a ≤ key b) := ⟨fun a b => le_total _ _⟩
    have trans : IsTrans _ (fun a b => key a ≤ key b) := ⟨fun a b c => le_trans⟩
    have antisymm : Std.Antisymm (fun a b => key a ≤ key b) :=
      ⟨fun a b ab ba => injective (le_antisymm ab ba)⟩
    exact sorted.eq_of_pairwise' (List.pairwise_insertionSort _ l) (List.pairwise_insertionSort _ m)

theorem map_filter_eq_self_iff {p : α → Bool} {f : α → α} {l : List α} :
    (l.filter p).map f = l ↔ ∀ a ∈ l, p a ∧ f a = a := by
  constructor
  · intro same
    have whole : l.filter p = l := by
      apply List.filter_sublist.eq_of_length
      rw [← List.length_map f, same]
    rw [whole] at same
    have fixed : ∀ a ∈ l, f a = a := by
      apply List.map_inj_left.mp
      rw [same, List.map_id']
    intro a mem
    exact ⟨List.filter_eq_self.mp whole a mem, fixed a mem⟩
  · intro each
    rw [List.filter_eq_self.mpr (fun a mem => (each a mem).1)]
    rw [List.map_inj_left.mpr (fun a mem => (each a mem).2), List.map_id']

theorem filter_eq_filter_iff {p q : α → Bool} {l : List α} :
    l.filter p = l.filter q ↔ ∀ a ∈ l, p a = q a := by
  constructor
  · intro same a mem
    have kept : a ∈ l.filter p ↔ a ∈ l.filter q := by rw [same]
    rw [List.mem_filter, List.mem_filter, and_iff_right mem, and_iff_right mem] at kept
    exact Bool.eq_iff_iff.mpr kept
  · intro same
    exact List.filter_congr same

/-- A property that holds no less often than one it follows from is equivalent to it. -/
theorem imp_of_countP_eq {p q : α → Bool} {l : List α} (weaker : ∀ a ∈ l, p a → q a)
    (same : l.countP p = l.countP q) : ∀ a ∈ l, q a → p a := by
  induction l with
  | nil => simp
  | cons b rest ih =>
    have tail : rest.countP p ≤ rest.countP q :=
      List.countP_mono_left (fun a mem => weaker a (List.mem_cons_of_mem b mem))
    have head := weaker b List.mem_cons_self
    simp only [List.countP_cons] at same
    intro a mem holds
    obtain rfl | mem := List.mem_cons.mp mem
    · by_contra fails
      rw [if_pos holds, if_neg fails] at same
      omega
    · refine ih (fun c mem => weaker c (List.mem_cons_of_mem b mem)) ?_ a mem holds
      split_ifs at same with hp hq <;> first | omega | exact absurd (head hp) hq

/-- Members that two maps send to the same value can be left out of a comparison. -/
theorem perm_map_filter_not {f g : α → β} {p : α → Bool} {l : List α}
    (perm : (l.map f).Perm (l.map g)) (same : ∀ a ∈ l, p a → f a = g a) :
    ((l.filter (fun a => !p a)).map f).Perm ((l.filter (fun a => !p a)).map g) := by
  have split : ∀ h : α → β, ((l.filter p).map h ++ (l.filter (fun a => !p a)).map h).Perm (l.map h) :=
    fun h => by simpa using (List.filter_append_perm p l).map h
  have agree : (l.filter p).map f = (l.filter p).map g := by
    apply List.map_inj_left.mpr
    intro a mem
    exact same a (List.mem_of_mem_filter mem) (List.mem_filter.mp mem).2
  have joined := (split f).trans (perm.trans (split g).symm)
  rw [agree] at joined
  exact (List.perm_append_left_iff _).mp joined

/-- A partial map with as many values as the list has members is defined on all. -/
theorem isSome_of_length_filterMap {h : α → Option β} {l : List α}
    (length : (l.filterMap h).length = l.length) : ∀ a ∈ l, (h a).isSome := by
  have kept : (l.filter (fun a => (h a).isSome)).length = l.length := by
    rw [← length, ← List.countP_eq_length_filter, List.length_filterMap_eq_countP]
  have whole := List.filter_sublist.eq_of_length kept
  exact List.filter_eq_self.mp whole

/-- Pieces of the same lengths join to the same list when each is the same. -/
theorem flatMap_eq_iff {f g : α → List β} {l : List α}
    (lengths : ∀ a ∈ l, (f a).length = (g a).length) :
    l.flatMap f = l.flatMap g ↔ ∀ a ∈ l, f a = g a := by
  induction l with
  | nil => simp
  | cons a rest ih =>
    rw [List.forall_mem_cons] at lengths
    rw [List.flatMap_cons, List.flatMap_cons, List.forall_mem_cons, ← ih lengths.2]
    constructor
    · intro same
      exact List.append_inj same lengths.1
    · rintro ⟨head, tail⟩
      rw [head, tail]

/-- The lexicographic order of lists of one length does not look behind them. -/
theorem append_lt_append [LinearOrder α] {a b : List α} (lengths : a.length = b.length) (less : a < b)
    (t : List α) : a ++ t < b ++ t := by
  induction a generalizing b with
  | nil =>
    have empty : b = [] := List.length_eq_zero_iff.mp lengths.symm
    rw [empty] at less
    exact absurd less (List.not_lt_nil [])
  | cons x xs ih =>
    cases b with
    | nil => simp at lengths
    | cons y ys =>
      rw [List.cons_append, List.cons_append, List.cons_lt_cons_iff]
      obtain first | ⟨same, rest⟩ := List.cons_lt_cons_iff.mp less
      · exact .inl first
      · exact .inr ⟨same, ih (by simpa using lengths) rest⟩

/-- The first of a sorted list is its least member. -/
theorem head?_insertionSort [LinearOrder β] (l : List β) (a : β) :
    (l.insertionSort (· ≤ ·)).head? = some a ↔ a ∈ l ∧ ∀ b ∈ l, a ≤ b := by
  have perm := List.perm_insertionSort (· ≤ ·) l
  have sorted := List.pairwise_insertionSort (· ≤ ·) l
  cases whole : l.insertionSort (· ≤ ·) with
  | nil =>
    rw [whole] at perm
    simp [List.Perm.eq_nil perm.symm]
  | cons c rest =>
    rw [whole] at perm sorted
    have least : ∀ b ∈ l, c ≤ b := by
      intro b mem
      obtain rfl | later := List.mem_cons.mp (perm.mem_iff.mpr mem)
      · exact le_rfl
      · exact (List.pairwise_cons.mp sorted).1 b later
    rw [List.head?_cons, Option.some.injEq]
    constructor
    · intro same
      subst same
      exact ⟨perm.mem_iff.mp List.mem_cons_self, least⟩
    · intro ⟨mem, below⟩
      exact le_antisymm (least a mem) (below c (perm.mem_iff.mp List.mem_cons_self))

/-! ## One place of a list -/

theorem getElem?_or_mem_eraseIdx {l : List α} {a : α} (mem : a ∈ l) (i : Nat) :
    l[i]? = some a ∨ a ∈ l.eraseIdx i := by
  obtain ⟨j, at_j⟩ := List.mem_iff_getElem?.mp mem
  by_cases same : j = i
  · exact .inl (same ▸ at_j)
  · exact .inr (List.mem_eraseIdx_iff_getElem?.mpr ⟨j, same, at_j⟩)

theorem mem_modify_of_mem_eraseIdx {f : α → α} {l : List α} {i : Nat} {a : α}
    (mem : a ∈ l.eraseIdx i) : a ∈ l.modify i f := by
  obtain ⟨j, other, at_j⟩ := List.mem_eraseIdx_iff_getElem?.mp mem
  apply List.mem_of_getElem? (i := j)
  rw [List.getElem?_modify_ne _ _ other.symm, at_j]

theorem mem_modify_self {f : α → α} {l : List α} {i : Nat} {a : α} (at_i : l[i]? = some a) :
    f a ∈ l.modify i f := by
  apply List.mem_of_getElem? (i := i)
  rw [List.getElem?_modify_eq, at_i]
  rfl

theorem of_mem_modify {f : α → α} {l : List α} {i : Nat} {a : α} (mem : a ∈ l.modify i f) :
    (∃ b, l[i]? = some b ∧ f b = a) ∨ a ∈ l.eraseIdx i := by
  obtain ⟨j, at_j⟩ := List.mem_iff_getElem?.mp mem
  by_cases same : i = j
  · rw [same, List.getElem?_modify_eq, Option.map_eq_map, Option.map_eq_some_iff] at at_j
    exact .inl (same ▸ at_j)
  · rw [List.getElem?_modify_ne _ _ same] at at_j
    exact .inr (List.mem_eraseIdx_iff_getElem?.mpr ⟨j, Ne.symm same, at_j⟩)

theorem forall_mem_modify {p : α → Prop} {f : α → α} {l : List α} (all : ∀ a ∈ l, p a) (kept : ∀ a, p a → p (f a))
    (i : Nat) : ∀ a ∈ l.modify i f, p a := by
  intro a mem
  rcases of_mem_modify mem with ⟨b, at_i, rfl⟩ | other
  · exact kept b (all b (List.mem_of_getElem? at_i))
  · exact all a (List.mem_of_mem_eraseIdx other)

/-- A key that the change leaves alone. -/
theorem map_modify {key : α → β} {f : α → α} (kept : ∀ a, key (f a) = key a) (l : List α) (i : Nat) :
    (l.modify i f).map key = l.map key := by
  induction l generalizing i with
  | nil => simp
  | cons a rest ih =>
    cases i with
    | zero => simp [kept]
    | succ i => simp [ih]

/-! ## Distinct keys -/

theorem find?_key [DecidableEq β] (key : α → β) {l : List α} (distinct : (l.map key).Nodup) {a : α}
    (mem : a ∈ l) : l.find? (fun b => key b = key a) = some a := by
  induction l with
  | nil => cases mem
  | cons b rest ih =>
    rw [List.map_cons, List.nodup_cons] at distinct
    cases mem with
    | head => simp
    | tail _ mem =>
      have apart : key b ≠ key a := fun same => distinct.1 (same ▸ List.mem_map_of_mem mem)
      rw [List.find?_cons_of_neg (by simpa using apart)]
      exact ih distinct.2 mem

theorem eq_of_key {key : α → β} {l : List α} (distinct : (l.map key).Nodup) {a b : α}
    (ha : a ∈ l) (hb : b ∈ l) (same : key a = key b) : a = b :=
  List.inj_on_of_nodup_map distinct ha hb same

/-- One value for all members of a part of the list. -/
theorem lookup_map_filter [BEq β] [LawfulBEq β] {γ : Type} (key : α → β) {l : List α}
    (distinct : (l.map key).Nodup) (p : α → Bool) (v : γ) {a : α} (mem : a ∈ l) :
    ((l.filter p).map (fun b => (key b, v))).lookup (key a) = if p a then some v else none := by
  split
  · rename_i holds
    have there : (key a, v) ∈ (l.filter p).map (fun b => (key b, v)) :=
      List.mem_map.mpr ⟨a, List.mem_filter.mpr ⟨mem, holds⟩, rfl⟩
    obtain ⟨w, found⟩ : ∃ w, ((l.filter p).map (fun b => (key b, v))).lookup (key a) = some w := by
      rw [← Option.isSome_iff_exists, Option.isSome_iff_ne_none]
      intro none
      have away := List.lookup_eq_none_iff.mp none (key a, v) there
      simp at away
    obtain ⟨before, after, shape, -⟩ := List.lookup_eq_some_iff.mp found
    have inside : (key a, w) ∈ (l.filter p).map (fun b => (key b, v)) := by simp [shape]
    obtain ⟨b, -, same⟩ := List.mem_map.mp inside
    rw [found, ← (Prod.mk.inj same).2]
  · rename_i fails
    rw [List.lookup_eq_none_iff]
    intro e inside
    obtain ⟨b, there, rfl⟩ := List.mem_map.mp inside
    have kept := List.mem_filter.mp there
    rw [bne_iff_ne]
    intro same
    rw [eq_of_key distinct mem kept.1 same] at fails
    exact fails kept.2

/-- What is at a position is read off what it is related to. -/
theorem exists_getElem?_iff {p : α → Prop} {q : β → Prop} {l : List α} {m : List β}
    (related : List.Forall₂ (fun a b => q b ↔ p a) l m) (i : Nat) :
    (∃ b, m[i]? = some b ∧ q b) ↔ ∃ a, l[i]? = some a ∧ p a := by
  induction related generalizing i with
  | nil => simp
  | cons same _ ih =>
    cases i with
    | zero => simpa using same
    | succ i => simpa using ih i

/-- Two keys that tell the same members apart. -/
theorem nodup_map_congr {γ : Type} {f : α → β} {g : α → γ} {l : List α}
    (same : ∀ a ∈ l, ∀ b ∈ l, f a = f b ↔ g a = g b) : (l.map f).Nodup ↔ (l.map g).Nodup := by
  unfold List.Nodup
  rw [List.pairwise_map, List.pairwise_map]
  exact List.Pairwise.iff_of_mem (fun ha hb => not_congr (same _ ha _ hb))

/-- A list with distinct keys keeps them when one member is changed, if its new key is
none of the others. -/
theorem nodup_modify_iff {key : α → β} {f : α → α} {l : List α} {rest : List β} {i : Nat} {a : α}
    (distinct : (l.map key ++ rest).Nodup) (at_i : l[i]? = some a) :
    ((l.modify i f).map key ++ rest).Nodup ↔ key (f a) ∉ (l.eraseIdx i).map key ++ rest := by
  have parted : ∀ b, ((l.take i ++ b :: l.drop (i + 1)).map key ++ rest).Perm
      (key b :: ((l.eraseIdx i).map key ++ rest)) := by
    intro b
    rw [List.eraseIdx_eq_take_drop_succ, ← List.cons_append, ← List.map_cons]
    exact (List.perm_middle.map key).append_right rest
  obtain ⟨inside, rfl⟩ := List.getElem?_eq_some_iff.mp at_i
  have changed : l.modify i f = l.take i ++ f l[i] :: l.drop (i + 1) := by
    rw [List.modify_eq_take_drop, List.drop_eq_getElem_cons inside]
    rfl
  have whole : l = l.take i ++ l[i] :: l.drop (i + 1) := by
    rw [← List.drop_eq_getElem_cons inside, List.take_append_drop]
  have others : ((l.eraseIdx i).map key ++ rest).Nodup := by
    have first := (parted l[i]).nodup_iff.mp (whole ▸ distinct)
    exact (List.nodup_cons.mp first).2
  rw [changed, (parted _).nodup_iff, List.nodup_cons]
  exact and_iff_left others

end XpBuilder.Lists
