import XpBuilder.Library.Lists
import XpBuilder.Library.SqlRegroup
import Mathlib.Algebra.Order.BigOperators.Group.List

/-! Queries over rows of any type: joins, groups and windows on lists of rows. A joined
row is a pair, with an `Option` for a side that may be missing. The order of a list is the
order in which a server happens to produce the rows, and where a query leaves an order open
the server's choice is a parameter. -/

namespace XpBuilder.Relational
variable {α β γ κ : Type}

/-- `left JOIN right ON on` -/
def join (on : α → β → Bool) (left : List α) (right : List β) : List (α × β) :=
  left.flatMap (fun a => (right.filter (on a)).map (Prod.mk a))

/-- The partners of a row in an outer join: one missing partner where there is none. -/
def padded : List β → List (Option β)
  | [] => [none]
  | b :: rest => some b :: rest.map some

/-- `left LEFT JOIN right ON on` -/
def leftJoin (on : α → β → Bool) (left : List α) (right : List β) : List (α × Option β) :=
  left.flatMap (fun a => (padded (right.filter (on a))).map (Prod.mk a))

/-- `GROUP BY key`: each key that occurs, with its rows. -/
def groupBy [DecidableEq κ] (key : α → κ) (rows : List α) : List (κ × List α) :=
  (rows.map key).dedup.map (fun k => (k, rows.filter (fun r => key r = k)))

/-- A SELECT with `GROUP BY key`: a row for each group, from its rows and any one of them. -/
def selectGroups [DecidableEq κ] (key : α → κ) (select : α → List α → β) (rows : List α) : List β :=
  (groupBy key rows).filterMap (fun g => g.2.head?.map (fun first => select first g.2))

/-- `COUNT(DISTINCT value)`, which skips NULL. -/
def countDistinct [DecidableEq κ] (values : List (Option κ)) : Nat :=
  values.reduceOption.dedup.length

/-- How a server arranges the rows of a window, ties included. -/
structure Arrangement (before : α → α → Prop) where
  arrange : List α → List α
  perm : ∀ rows, (arrange rows).Perm rows
  sorted : ∀ rows, (arrange rows).Pairwise before

/-- The server that sorts the rows of a window as they come. -/
def Arrangement.sorting (before : α → α → Prop) [DecidableRel before] [Std.Total before]
    [IsTrans α before] : Arrangement before where
  arrange := List.insertionSort before
  perm := List.perm_insertionSort before
  sorted := List.pairwise_insertionSort before

/-- `ROW_NUMBER() OVER (PARTITION BY key ORDER BY before)` -/
def rowNumber [DecidableEq κ] {before : α → α → Prop} (w : Arrangement before) (key : α → κ)
    (rows : List α) : List (α × Nat) :=
  (groupBy key rows).flatMap (fun g => (w.arrange g.2).zipIdx 1)

/-- `agg OVER (PARTITION BY key)` -/
def overPartition [DecidableEq κ] (key : α → κ) (agg : List α → β) (rows : List α) : List (α × β) :=
  rows.map (fun r => (r, agg (rows.filter (fun s => key s = key r))))

/-! ## Counts and sums -/

theorem length_dedup_congr [DecidableEq α] {l m : List α} (same : ∀ a, a ∈ l ↔ a ∈ m) :
    l.dedup.length = m.dedup.length := by
  have perm : l.dedup.Perm m.dedup := by
    apply (List.perm_ext_iff_of_nodup (List.nodup_dedup l) (List.nodup_dedup m)).mpr
    intro a
    rw [List.mem_dedup, List.mem_dedup, same]
  exact perm.length_eq

theorem length_dedup_le [DecidableEq α] {l m : List α} (subset : l ⊆ m) :
    l.dedup.length ≤ m.dedup.length := by
  have inside : l.dedup ⊆ m.dedup := by
    intro a mem
    rw [List.mem_dedup] at mem ⊢
    exact subset mem
  exact ((List.nodup_dedup l).subperm inside).length_le

/-- `MAX(CASE WHEN p THEN 1 ELSE 0 END)` -/
theorem max_flag (p : α → Bool) (l : List α) :
    (l.map (fun a => if p a then 1 else 0)).max?.getD 0 = if l.any p then 1 else 0 := by
  induction l with
  | nil => rfl
  | cons a rest ih =>
    rw [List.map_cons, List.max?_cons, List.any_cons]
    cases found : (rest.map (fun a => if p a then 1 else 0)).max? with
    | none =>
      rw [found, Option.getD_none] at ih
      by_cases holds : p a <;> by_cases later : rest.any p <;> simp [holds, later] at ih ⊢
    | some k =>
      rw [found, Option.getD_some] at ih
      by_cases holds : p a <;> by_cases later : rest.any p <;> simp [holds, later, ih]

theorem reduceOption_eq (l : List (Option α)) : l.reduceOption = l.filterMap id := rfl

theorem countDistinct_some [DecidableEq κ] (f : α → κ) (l : List α) :
    countDistinct (l.map (fun a => some (f a))) = (l.map f).dedup.length := by
  rw [countDistinct, reduceOption_eq, List.filterMap_map, ← List.filterMap_eq_map]
  rfl

/-- `COUNT(DISTINCT CASE WHEN p THEN f END)` -/
theorem countDistinct_if [DecidableEq κ] (p : α → Bool) (f : α → κ) (l : List α) :
    countDistinct (l.map (fun a => if p a then some (f a) else none)) = ((l.filter p).map f).dedup.length := by
  have kept : (l.map (fun a => if p a then some (f a) else none)).reduceOption = (l.filter p).map f := by
    rw [reduceOption_eq, List.filterMap_map, ← List.filterMap_eq_map, ← List.filterMap_eq_filter,
      List.filterMap_filterMap]
    congr 1
    funext a
    by_cases holds : p a <;> simp [holds, Option.guard]
  rw [countDistinct, kept]

/-- A partial map, read on a part of its values. -/
theorem map_filter_filterMap {f : α → Option β} {p : β → Bool} {g : β → γ} {q : α → Bool} {h : α → γ}
    {l : List α} (same : ∀ a ∈ l, ((f a).filter p).map g = if q a then some (h a) else none) :
    ((l.filterMap f).filter p).map g = (l.filter q).map h := by
  rw [List.filter_filterMap, List.map_filterMap, ← List.filterMap_eq_map, ← List.filterMap_eq_filter,
    List.filterMap_filterMap]
  apply List.filterMap_congr
  intro a mem
  rw [same a mem]
  by_cases holds : q a <;> simp [holds, Option.guard]

theorem sum_map_filter (p : α → Bool) (f : α → Nat) (l : List α) :
    ((l.filter p).map f).sum = (l.map (fun a => if p a then f a else 0)).sum := by
  induction l with
  | nil => rfl
  | cons a rest ih =>
    by_cases holds : p a
    · simp [holds, ih]
    · simp [holds, ih]

theorem sum_map_filterMap (f : α → Option β) (g : β → Nat) (l : List α) :
    ((l.filterMap f).map g).sum = (l.map (fun a => ((f a).map g).getD 0)).sum := by
  induction l with
  | nil => rfl
  | cons a rest ih =>
    cases found : f a with
    | none => simp [found, ih]
    | some b => simp [found, ih]

/-- NULL adds nothing. -/
theorem sum_map_reduceOption (f : α → Nat) (l : List (Option α)) :
    (l.reduceOption.map f).sum = (l.map (fun k => k.elim 0 f)).sum := by
  rw [reduceOption_eq, sum_map_filterMap]
  congr 2
  funext k
  cases k <;> rfl

/-- Sums of which one bounds the other term by term are equal where all terms are. -/
theorem sum_map_eq_iff {f g : α → Nat} {l : List α} (below : ∀ a ∈ l, f a ≤ g a) :
    (l.map f).sum = (l.map g).sum ↔ ∀ a ∈ l, f a = g a := by
  induction l with
  | nil => simp
  | cons a rest ih =>
    rw [List.forall_mem_cons] at below
    have tail := ih below.2
    have sums := List.sum_le_sum below.2
    rw [List.map_cons, List.map_cons, List.sum_cons, List.sum_cons, List.forall_mem_cons, ← tail]
    omega

/-! ## Joins -/

@[simp] theorem mem_join {on : α → β → Bool} {left : List α} {right : List β} {p : α × β} :
    p ∈ join on left right ↔ p.1 ∈ left ∧ p.2 ∈ right ∧ on p.1 p.2 := by
  obtain ⟨a, b⟩ := p
  simp only [join, List.mem_flatMap, List.mem_map, List.mem_filter, Prod.mk.injEq]
  constructor
  · rintro ⟨a', mem, b', ⟨there, holds⟩, rfl, rfl⟩
    exact ⟨mem, there, holds⟩
  · rintro ⟨mem, there, holds⟩
    exact ⟨a, mem, b, ⟨there, holds⟩, rfl, rfl⟩

/-- The joined rows of one left row, where no other is like it. -/
theorem filter_join_of_mem [DecidableEq α] {on : α → β → Bool} {left : List α} {right : List β} {x : α}
    (distinct : left.Nodup) (mem : x ∈ left) (q : β → Bool) :
    (join on left right).filter (fun p => p.1 = x && q p.2) =
      (right.filter (fun b => on x b && q b)).map (Prod.mk x) := by
  have others : ∀ rest : List α, x ∉ rest → (join on rest right).filter (fun p => p.1 = x && q p.2) = [] := by
    intro rest away
    rw [List.filter_eq_nil_iff]
    intro p inside holds
    simp only [Bool.and_eq_true, decide_eq_true_eq] at holds
    rw [mem_join, holds.1] at inside
    exact away inside.1
  have own : ((right.filter (on x)).map (Prod.mk x)).filter (fun p => p.1 = x && q p.2) =
      (right.filter (fun b => on x b && q b)).map (Prod.mk x) := by
    rw [List.filter_map, List.filter_filter]
    simp [Bool.and_comm]
  induction left with
  | nil => cases mem
  | cons a rest ih =>
    obtain ⟨away, distinct⟩ := List.nodup_cons.mp distinct
    have split : join on (a :: rest) right = (right.filter (on a)).map (Prod.mk a) ++ join on rest right := rfl
    rw [split, List.filter_append]
    obtain rfl | later := List.mem_cons.mp mem
    · rw [others rest away, own, List.append_nil]
    · have different : a ≠ x := fun same => away (same ▸ later)
      rw [ih distinct later]
      simp [List.filter_map, Function.comp_def, different]

/-- The joined rows of one right row, where no other is like it. -/
theorem filter_join_right_of_mem [DecidableEq β] {on : α → β → Bool} {left : List α} {right : List β} {y : β}
    (distinct : right.Nodup) (mem : y ∈ right) (q : α → Bool) :
    (join on left right).filter (fun p => p.2 = y && q p.1) =
      (left.filter (fun a => on a y && q a)).map (fun a => (a, y)) := by
  have single : right.filter (fun b => b = y) = [y] := by
    rw [List.filter_eq, List.count_eq_one_of_mem distinct mem]
    rfl
  have own : ∀ a, ((right.filter (on a)).map (Prod.mk a)).filter (fun p => p.2 = y && q p.1) =
      if on a y && q a then [(a, y)] else [] := by
    intro a
    have fixed : ((right.filter (on a)).map (Prod.mk a)).filter (fun p => p.2 = y && q p.1) =
        ((right.filter (fun b => b = y)).filter (fun b => on a b && q a)).map (Prod.mk a) := by
      rw [List.filter_map, List.filter_filter, List.filter_filter]
      congr 2
      funext b
      simp [Bool.and_comm, Bool.and_assoc]
    rw [fixed, single]
    by_cases holds : on a y && q a <;> simp [holds]
  induction left with
  | nil => rfl
  | cons a rest ih =>
    have split : join on (a :: rest) right = (right.filter (on a)).map (Prod.mk a) ++ join on rest right := rfl
    rw [split, List.filter_append, own, ih]
    by_cases holds : on a y && q a <;> simp [holds]

/-- What each row gives carries its key: the results with a key are those of its row. -/
theorem filter_flatMap_of_key [DecidableEq κ] {key : α → κ} {mark : β → κ} {f : α → List β} {l : List α}
    (own : ∀ a ∈ l, ∀ b ∈ f a, mark b = key a) (distinct : (l.map key).Nodup) {a : α} (mem : a ∈ l) :
    (l.flatMap f).filter (fun b => mark b = key a) = f a := by
  induction l with
  | nil => cases mem
  | cons c rest ih =>
    rw [List.map_cons, List.nodup_cons] at distinct
    rw [List.forall_mem_cons] at own
    rw [List.flatMap_cons, List.filter_append]
    rcases List.mem_cons.mp mem with rfl | mem
    · have others : (rest.flatMap f).filter (fun b => mark b = key a) = [] := by
        refine List.filter_eq_nil_iff.mpr (fun b there same => distinct.1 ?_)
        obtain ⟨d, other, found⟩ := List.mem_flatMap.mp there
        exact List.mem_map.mpr ⟨d, other, (own.2 d other b found).symm.trans (of_decide_eq_true same)⟩
      rw [others, List.append_nil, List.filter_eq_self]
      exact fun b there => decide_eq_true (own.1 b there)
    · have none_here : (f c).filter (fun b => mark b = key a) = [] := by
        refine List.filter_eq_nil_iff.mpr (fun b there same => distinct.1 ?_)
        exact List.mem_map.mpr ⟨a, mem, (of_decide_eq_true same).symm.trans (own.1 b there)⟩
      rw [none_here, List.nil_append, ih own.2 distinct.2 mem]

/-- A condition that fixes a key holds of at most one row. -/
theorem length_filter_le_one {key : β → κ} {right : List β} (distinct : (right.map key).Nodup)
    {p : β → Bool} (fixes : ∀ a ∈ right, ∀ b ∈ right, p a → p b → key a = key b) :
    (right.filter p).length ≤ 1 := by
  have inside : ((right.filter p).map key).Sublist (right.map key) := List.filter_sublist.map key
  have nodup := inside.nodup distinct
  cases found : right.filter p with
  | nil => simp
  | cons a rest =>
    rw [found] at nodup
    have kept : ∀ b ∈ a :: rest, b ∈ right ∧ p b := by
      intro b mem
      rw [← found] at mem
      exact List.mem_filter.mp mem
    cases rest with
    | nil => simp
    | cons b rest =>
      have ha := kept a (by simp)
      have hb := kept b (by simp)
      have same := fixes a ha.1 b hb.1 ha.2 hb.2
      simp [same] at nodup

/-- A column against a key column: at most one partner. -/
theorem length_filter_key_le_one [DecidableEq κ] {key : β → κ} {right : List β}
    (distinct : (right.map key).Nodup) (k : Option κ) :
    (right.filter (fun b => k = some (key b))).length ≤ 1 := by
  apply length_filter_le_one distinct
  intro a _ b _ ha hb
  have same : some (key a) = some (key b) := (of_decide_eq_true ha).symm.trans (of_decide_eq_true hb)
  exact Option.some.inj same

theorem length_filter_eq_le_one [DecidableEq κ] {key : β → κ} {right : List β}
    (distinct : (right.map key).Nodup) (k : κ) : (right.filter (fun b => key b = k)).length ≤ 1 := by
  apply length_filter_le_one distinct
  intro a _ b _ ha hb
  exact (of_decide_eq_true ha).trans (of_decide_eq_true hb).symm

theorem filter_eq_toList_find? {p : β → Bool} {right : List β} (single : (right.filter p).length ≤ 1) :
    right.filter p = (right.find? p).toList := by
  rw [← List.head?_filter]
  cases found : right.filter p with
  | nil => rfl
  | cons b rest =>
    rw [found, List.length_cons] at single
    have empty : rest = [] := List.length_eq_zero_iff.mp (by omega)
    rw [empty]
    rfl

@[simp] theorem padded_toList (found : Option β) : padded found.toList = [found] := by
  cases found <;> rfl

theorem padded_of_ne_nil {found : List β} (some_row : found ≠ []) : padded found = found.map some := by
  cases found with
  | nil => contradiction
  | cons b rest => rfl

theorem length_padded (found : List β) : (padded found).length = max 1 found.length := by
  cases found <;> simp [padded]

theorem one_le_length_padded (found : List β) : 1 ≤ (padded found).length := by
  rw [length_padded]
  omega

section
variable {on : α → β → Bool} {left : List α} {right : List β}

/-- A join on a key of the right side keeps the rows that have a partner. -/
theorem join_eq_filterMap (single : ∀ a ∈ left, (right.filter (on a)).length ≤ 1) :
    join on left right = left.filterMap (fun a => (right.find? (on a)).map (Prod.mk a)) := by
  induction left with
  | nil => rfl
  | cons a rest ih =>
    rw [List.forall_mem_cons] at single
    have tail := ih single.2
    unfold join at tail ⊢
    rw [List.flatMap_cons, tail, filter_eq_toList_find? single.1, List.filterMap_cons]
    cases right.find? (on a) <;> rfl

/-- A left join on a key of the right side neither drops nor repeats a row. -/
theorem leftJoin_eq_map (single : ∀ a ∈ left, (right.filter (on a)).length ≤ 1) :
    leftJoin on left right = left.map (fun a => (a, right.find? (on a))) := by
  induction left with
  | nil => rfl
  | cons a rest ih =>
    rw [List.forall_mem_cons] at single
    have tail := ih single.2
    unfold leftJoin at tail ⊢
    rw [List.flatMap_cons, tail, filter_eq_toList_find? single.1, padded_toList]
    rfl

/-- A condition on the left rows can be applied before the join. -/
theorem filter_leftJoin (q : α → Bool) :
    (leftJoin on left right).filter (fun p => q p.1) = leftJoin on (left.filter q) right := by
  induction left with
  | nil => rfl
  | cons a rest ih =>
    unfold leftJoin at ih ⊢
    rw [List.flatMap_cons, List.filter_append, ih]
    by_cases holds : q a
    · simp [holds, List.filter_map, Function.comp_def]
    · simp [holds, List.filter_map, Function.comp_def]

theorem filter_join (q : α → Bool) :
    (join on left right).filter (fun p => q p.1) = join on (left.filter q) right := by
  induction left with
  | nil => rfl
  | cons a rest ih =>
    unfold join at ih ⊢
    rw [List.flatMap_cons, List.filter_append, ih]
    by_cases holds : q a
    · simp [holds, List.filter_map, Function.comp_def]
    · simp [holds, List.filter_map, Function.comp_def]

theorem mem_leftJoin_some {a : α} {b : β} :
    (a, some b) ∈ leftJoin on left right ↔ a ∈ left ∧ b ∈ right ∧ on a b := by
  have partners : ∀ found : List β, some b ∈ padded found ↔ b ∈ found := by
    intro found
    cases found <;> simp [padded]
  simp only [leftJoin, List.mem_flatMap, List.mem_map, Prod.mk.injEq, ← List.mem_filter]
  constructor
  · rintro ⟨a', mem, o, inside, rfl, rfl⟩
    exact ⟨mem, (partners _).mp inside⟩
  · rintro ⟨mem, inside⟩
    exact ⟨a, mem, some b, (partners _).mpr inside, rfl, rfl⟩

/-- Every left row is kept. -/
theorem exists_mem_leftJoin {a : α} (mem : a ∈ left) : ∃ o, (a, o) ∈ leftJoin on left right := by
  have some_partner : ∃ o, o ∈ padded (right.filter (on a)) := by
    cases right.filter (on a) with
    | nil => exact ⟨none, List.mem_cons_self⟩
    | cons b rest => exact ⟨some b, List.mem_cons_self⟩
  obtain ⟨o, inside⟩ := some_partner
  exact ⟨o, List.mem_flatMap.mpr ⟨a, mem, List.mem_map.mpr ⟨o, inside, rfl⟩⟩⟩

theorem mem_leftJoin_fst {p : α × Option β} (mem : p ∈ leftJoin on left right) : p.1 ∈ left := by
  obtain ⟨a, there, inside⟩ := List.mem_flatMap.mp mem
  obtain ⟨b, -, rfl⟩ := List.mem_map.mp inside
  exact there

theorem leftJoin_map_left {f : γ → α} {left : List γ} :
    leftJoin on (left.map f) right = (leftJoin (fun c => on (f c)) left right).map (fun p => (f p.1, p.2)) := by
  unfold leftJoin
  rw [List.flatMap_map, List.map_flatMap]
  congr 1
  funext c
  rw [List.map_map]
  rfl

/-- What tells the left rows apart, and the partners of each of them, tells the joined rows apart. -/
theorem nodup_map_leftJoin {key : α → κ} {f : α × Option β → γ} (keyed : (left.map key).Nodup)
    (fixes : ∀ p q, f p = f q → key p.1 = key q.1)
    (partners : ∀ a ∈ left, ((padded (right.filter (on a))).map (fun o => f (a, o))).Nodup) :
    ((leftJoin on left right).map f).Nodup := by
  unfold leftJoin
  rw [List.map_flatMap, List.nodup_flatMap]
  constructor
  · intro a mem
    rw [List.map_map]
    exact partners a mem
  · have apart := List.pairwise_map.mp keyed
    apply apart.imp
    intro a b different c from_a from_b
    simp only [List.map_map, List.mem_map, Function.comp_apply] at from_a from_b
    obtain ⟨o, -, rfl⟩ := from_a
    obtain ⟨o', -, same⟩ := from_b
    exact different (fixes _ _ same).symm

theorem length_leftJoin : (leftJoin on left right).length =
    (left.map (fun a => (padded (right.filter (on a))).length)).sum := by
  simp [leftJoin, List.length_flatMap]

/-- A left join keeps the number of rows exactly where no row has two partners. -/
theorem length_leftJoin_eq_iff : (leftJoin on left right).length = left.length ↔
    ∀ a ∈ left, (right.filter (on a)).length ≤ 1 := by
  have ones : left.length = (left.map (fun _ => 1)).sum := by simp
  rw [length_leftJoin, ones, eq_comm, sum_map_eq_iff (fun a _ => one_le_length_padded _)]
  apply forall₂_congr
  intro a _
  rw [length_padded]
  omega

end

/-! ## Groups -/

section
variable [DecidableEq κ] {key : α → κ} {rows : List α}

theorem mem_groupBy {g : κ × List α} : g ∈ groupBy key rows ↔
    g.1 ∈ rows.map key ∧ g.2 = rows.filter (fun r => key r = g.1) := by
  obtain ⟨k, group⟩ := g
  simp only [groupBy, List.mem_map (b := (k, group)), List.mem_dedup, Prod.mk.injEq]
  constructor
  · rintro ⟨k', there, rfl, rfl⟩
    exact ⟨there, rfl⟩
  · rintro ⟨there, same⟩
    exact ⟨k, there, rfl, same.symm⟩

theorem map_fst_groupBy : (groupBy key rows).map Prod.fst = (rows.map key).dedup := by
  simp [groupBy, Function.comp_def]

/-- Grouping makes the key a key. -/
theorem nodup_groupBy : ((groupBy key rows).map Prod.fst).Nodup := by
  rw [map_fst_groupBy]
  exact List.nodup_dedup _

theorem find?_groupBy (k : κ) : (groupBy key rows).find? (fun g => g.1 = k) =
    if k ∈ rows.map key then some (k, rows.filter (fun r => key r = k)) else none := by
  split
  · rename_i there
    have mem : (k, rows.filter (fun r => key r = k)) ∈ groupBy key rows := mem_groupBy.mpr ⟨there, rfl⟩
    exact Lists.find?_key Prod.fst nodup_groupBy mem
  · rename_i away
    rw [List.find?_eq_none]
    intro g mem same
    have there := (mem_groupBy.mp mem).1
    rw [of_decide_eq_true same] at there
    exact away there

theorem mem_selectGroups {select : α → List α → β} {b : β} (mem : b ∈ selectGroups key select rows) :
    ∃ first ∈ rows, b = select first (rows.filter (fun r => key r = key first)) := by
  obtain ⟨g, inside, found⟩ := List.mem_filterMap.mp mem
  obtain ⟨first, head, rfl⟩ := Option.map_eq_some_iff.mp found
  have group := (mem_groupBy.mp inside).2
  have there := List.mem_of_mem_head? head
  rw [group] at there
  obtain ⟨row, same⟩ := List.mem_filter.mp there
  exact ⟨first, row, by rw [group, of_decide_eq_true same]⟩

/-- Every row is in a group. -/
theorem exists_mem_selectGroups {select : α → List α → β} {r : α} (mem : r ∈ rows) :
    ∃ first ∈ rows, key first = key r ∧ select first (rows.filter (fun s => key s = key r)) ∈ selectGroups key select rows := by
  have inside : (key r, rows.filter (fun s => key s = key r)) ∈ groupBy key rows :=
    mem_groupBy.mpr ⟨List.mem_map_of_mem mem, rfl⟩
  have there : r ∈ rows.filter (fun s => key s = key r) := List.mem_filter.mpr ⟨mem, decide_eq_true rfl⟩
  obtain ⟨first, rest, group⟩ := List.exists_cons_of_ne_nil (List.ne_nil_of_mem there)
  obtain ⟨row, same⟩ := List.mem_filter.mp (group ▸ List.mem_cons_self : first ∈ rows.filter (fun s => key s = key r))
  refine ⟨first, row, of_decide_eq_true same, List.mem_filterMap.mpr ⟨_, inside, ?_⟩⟩
  simp only [group]
  rfl

/-- The groups are told apart by their key. -/
theorem map_selectGroups {select : α → List α → β} {key' : β → κ}
    (keyed : ∀ first group, key' (select first group) = key first) :
    (selectGroups key select rows).map key' = (rows.map key).dedup := by
  rw [← map_fst_groupBy, selectGroups, List.map_filterMap, ← List.filterMap_eq_map]
  apply List.filterMap_congr
  intro g mem
  obtain ⟨some_row, group⟩ := mem_groupBy.mp mem
  obtain ⟨r, inside, same⟩ := List.mem_map.mp some_row
  have there : r ∈ g.2 := by
    rw [group]
    exact List.mem_filter.mpr ⟨inside, decide_eq_true same⟩
  cases head : g.2.head? with
  | none =>
    rw [List.head?_eq_none_iff.mp head] at there
    cases there
  | some first =>
    have first_mem := List.mem_of_mem_head? head
    rw [group] at first_mem
    have own := of_decide_eq_true (List.mem_filter.mp first_mem).2
    simp [keyed, own]

theorem groupBy_flatMap_perm : ((groupBy key rows).flatMap Prod.snd).Perm rows := by
  have groups : (groupBy key rows).flatMap Prod.snd = (Sql.groupsBy key rows).flatten := by
    simp [groupBy, Sql.groupsBy, List.flatMap_def, Function.comp_def]
  rw [groups]
  exact Sql.groupsBy_flatten_perm key rows

end

/-! ## Windows -/

section
variable [DecidableEq κ] {before : α → α → Prop} (w : Arrangement before) {key : α → κ} {rows : List α}

theorem rowNumber_perm : ((rowNumber w key rows).map Prod.fst).Perm rows := by
  have numbers : (rowNumber w key rows).map Prod.fst =
      (groupBy key rows).flatMap (fun g => w.arrange g.2) := by
    simp [rowNumber, List.map_flatMap, List.zipIdx_map_fst]
  rw [numbers]
  have each : ((groupBy key rows).flatMap (fun g => w.arrange g.2)).Perm
      ((groupBy key rows).flatMap Prod.snd) :=
    List.Perm.flatMap_left _ (fun g _ => w.perm g.2)
  exact each.trans groupBy_flatMap_perm

theorem arrange_ne_nil {group : List α} (some_row : group ≠ []) : w.arrange group ≠ [] := by
  intro empty
  have perm := w.perm group
  rw [empty] at perm
  exact some_row perm.symm.eq_nil

/-- The first row of a window: no other comes before it. -/
theorem head_arrange [total : Std.Total before] {group : List α} {a : α} (first : (w.arrange group).head? = some a) :
    a ∈ group ∧ ∀ b ∈ group, before a b := by
  have perm := w.perm group
  have sorted := w.sorted group
  cases arranged : w.arrange group with
  | nil => simp [arranged] at first
  | cons b rest =>
    rw [arranged, List.head?_cons, Option.some.injEq] at first
    subst first
    rw [arranged] at perm sorted
    refine ⟨perm.mem_iff.mp List.mem_cons_self, ?_⟩
    intro c mem
    obtain rfl | later := List.mem_cons.mp (perm.mem_iff.mpr mem)
    · exact (total.total c c).elim id id
    · exact (List.pairwise_cons.mp sorted).1 c later

theorem zipIdx_filter_first (l : List α) (k : Nat) :
    (l.zipIdx (k + 1)).filter (fun p => p.2 = k + 1) = (l.head?.map (fun a => (a, k + 1))).toList := by
  cases l with
  | nil => rfl
  | cons a rest =>
    have later : (rest.zipIdx (k + 2)).filter (fun p => p.2 = k + 1) = [] := by
      rw [List.filter_eq_nil_iff]
      intro p mem
      have bound := List.le_snd_of_mem_zipIdx mem
      simp only [decide_eq_true_eq]
      omega
    rw [List.zipIdx_cons, List.filter_cons_of_pos (by simp), later]
    rfl

/-- The rows numbered 1 are the first rows of the groups. -/
theorem rowNumber_filter_first : (rowNumber w key rows).filter (fun p => p.2 = 1) =
    (groupBy key rows).filterMap (fun g => (w.arrange g.2).head?.map (fun a => (a, 1))) := by
  unfold rowNumber
  induction groupBy key rows with
  | nil => rfl
  | cons g rest ih =>
    rw [List.flatMap_cons, List.filter_append, ih, zipIdx_filter_first, List.filterMap_cons]
    cases (w.arrange g.2).head? <;> rfl

/-- The rows numbered 1, one for each key. -/
def firstRows (key : α → κ) (rows : List α) : List α :=
  ((rowNumber w key rows).filter (fun p => p.2 = 1)).map Prod.fst

theorem mem_firstRows {a : α} : a ∈ firstRows w key rows ↔
    ∃ k ∈ rows.map key, (w.arrange (rows.filter (fun r => key r = k))).head? = some a := by
  rw [firstRows, rowNumber_filter_first, List.map_filterMap, List.mem_filterMap]
  simp only [Option.map_map, Option.map_eq_some_iff, Function.comp_apply, exists_eq_right]
  constructor
  · rintro ⟨g, mem, head⟩
    obtain ⟨there, group⟩ := mem_groupBy.mp mem
    rw [group] at head
    exact ⟨g.1, there, head⟩
  · rintro ⟨k, there, head⟩
    exact ⟨(k, rows.filter (fun r => key r = k)), mem_groupBy.mpr ⟨there, rfl⟩, head⟩

/-- The row numbered 1 is a row of the query, and no other row with its key comes before it. -/
theorem firstRows_first [Std.Total before] {a : α} (mem : a ∈ firstRows w key rows) :
    a ∈ rows ∧ ∀ b ∈ rows, key b = key a → before a b := by
  obtain ⟨k, -, head⟩ := (mem_firstRows w).mp mem
  have first := head_arrange w head
  have own := List.mem_filter.mp first.1
  have same : key a = k := of_decide_eq_true own.2
  refine ⟨own.1, ?_⟩
  intro b there equal
  exact first.2 b (List.mem_filter.mpr ⟨there, decide_eq_true (equal.trans same)⟩)

theorem firstRows_unique {a b : α} (mem_a : a ∈ firstRows w key rows) (mem_b : b ∈ firstRows w key rows)
    (same : key a = key b) : a = b := by
  have own : ∀ {k c}, (w.arrange (rows.filter (fun r => key r = k))).head? = some c → key c = k := by
    intro k c head
    have inside := (w.perm _).mem_iff.mp (List.mem_of_mem_head? head)
    exact of_decide_eq_true (List.mem_filter.mp inside).2
  obtain ⟨k, -, head_a⟩ := (mem_firstRows w).mp mem_a
  obtain ⟨l, -, head_b⟩ := (mem_firstRows w).mp mem_b
  have keys : k = l := (own head_a).symm.trans (same.trans (own head_b))
  rw [keys, head_b] at head_a
  exact (Option.some.inj head_a).symm

theorem exists_mem_firstRows {r : α} (mem : r ∈ rows) : ∃ a ∈ firstRows w key rows, key a = key r := by
  have some_row : rows.filter (fun s => key s = key r) ≠ [] :=
    List.ne_nil_of_mem (List.mem_filter.mpr ⟨mem, decide_eq_true rfl⟩)
  cases head : (w.arrange (rows.filter (fun s => key s = key r))).head? with
  | none => exact absurd (List.head?_eq_none_iff.mp head) (arrange_ne_nil w some_row)
  | some a =>
    have inside := (w.perm _).mem_iff.mp (List.mem_of_mem_head? head)
    have same := of_decide_eq_true (List.mem_filter.mp inside).2
    exact ⟨a, (mem_firstRows w).mpr ⟨key r, List.mem_map_of_mem mem, head⟩, same⟩

end

end XpBuilder.Relational
