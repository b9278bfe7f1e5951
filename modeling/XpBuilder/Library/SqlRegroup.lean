import Mathlib.Algebra.BigOperators.Group.List.Basic
import Mathlib.Algebra.BigOperators.Ring.Finset
import Mathlib.Algebra.BigOperators.Ring.List
import Mathlib.Algebra.Order.Field.Rat
import Mathlib.Data.Finset.Card
import Mathlib.Tactic.FieldSimp
import Mathlib.Tactic.Ring
import XpBuilder.Library.SqlAggregate

/-! Aggregating twice. Cells come in groups, each group is aggregated, and the results
are aggregated again. Sums of sums are the sum of all; for the other aggregates it is
said exactly when the second pass gives the aggregate of all the cells. -/

namespace XpBuilder.Sql
variable (E : Engine)

theorem nonNull_eq_nil_iff {cells : List Cell} : nonNull cells = [] ↔ ∀ c ∈ cells, c = .null := by
  simp [nonNull, List.filter_eq_nil_iff]

theorem nonNull_flatten (gs : List (List Cell)) : nonNull gs.flatten = (gs.map nonNull).flatten := by
  unfold nonNull
  rw [List.filter_flatten]

@[simp] theorem nonNull_null (cells : List Cell) : nonNull (.null :: cells) = nonNull cells := by
  simp [nonNull]

@[simp] theorem nonNull_number (q : ℚ) (cells : List Cell) :
    nonNull (.number q :: cells) = .number q :: nonNull cells := by
  simp [nonNull]

@[simp] theorem nonNull_text (s : String) (cells : List Cell) :
    nonNull (.text s :: cells) = .text s :: nonNull cells := by
  simp [nonNull]

/-- NULL adds nothing. -/
theorem sum_nonNull (cells : List Cell) :
    ((nonNull cells).map (Cell.toNumber E)).sum = (cells.map (Cell.toNumber E)).sum := by
  induction cells with
  | nil => rfl
  | cons c rest ih =>
    cases c with
    | null => simp [Cell.toNumber, ih]
    | number q => simp [ih]
    | text s => simp [ih]

/-- The sum of what the groups give. -/
theorem sum_eval_map (v : List Cell → Cell) (gs : List (List Cell)) :
    Aggregate.sum.eval E (gs.map v) = if ∀ g ∈ gs, v g = .null then .null
      else .number (gs.map (fun g => (v g).toNumber E)).sum := by
  have empty : nonNull (gs.map v) = [] ↔ ∀ g ∈ gs, v g = .null := by
    rw [nonNull_eq_nil_iff, List.forall_mem_map]
  have total : ((nonNull (gs.map v)).map (Cell.toNumber E)).sum =
      (gs.map (fun g => (v g).toNumber E)).sum := by
    rw [sum_nonNull, List.map_map]
    rfl
  simp only [Aggregate.eval, empty, total]

/-! ## SUM -/

theorem sum_eval_eq_null_iff {cells : List Cell} :
    Aggregate.sum.eval E cells = .null ↔ nonNull cells = [] := by
  simp only [Aggregate.eval]
  split <;> simp_all

theorem toNumber_sum_eval (cells : List Cell) :
    (Aggregate.sum.eval E cells).toNumber E = (cells.map (Cell.toNumber E)).sum := by
  simp only [Aggregate.eval]
  split
  · rename_i empty
    rw [← sum_nonNull, empty]
    rfl
  · exact sum_nonNull E cells

theorem sum_regroup (gs : List (List Cell)) :
    Aggregate.sum.eval E (gs.map (Aggregate.sum.eval E)) = Aggregate.sum.eval E gs.flatten := by
  have empty : (∀ g ∈ gs, Aggregate.sum.eval E g = .null) ↔ nonNull gs.flatten = [] := by
    rw [nonNull_flatten, List.flatten_eq_nil_iff, List.forall_mem_map]
    simp only [sum_eval_eq_null_iff]
  have total : (gs.map (fun g => (Aggregate.sum.eval E g).toNumber E)).sum =
      ((nonNull gs.flatten).map (Cell.toNumber E)).sum := by
    rw [sum_nonNull, List.map_flatten, List.sum_flatten, List.map_map]
    congr 1
    exact List.map_congr_left (fun g _ => toNumber_sum_eval E g)
  rw [sum_eval_map, total]
  simp only [empty]
  rfl

/-! ## COUNT -/

/-- Numbers that are never NULL add up unless there is no group at all. -/
theorem sum_eval_numbers (n : List Cell → Nat) (gs : List (List Cell)) :
    Aggregate.sum.eval E (gs.map (fun g => .number (n g))) =
      if gs = [] then .null else .number ((gs.map n).sum : Nat) := by
  have empty : (∀ g ∈ gs, Cell.number (n g) = .null) ↔ gs = [] := by
    cases gs with
    | nil => simp
    | cons g rest => simp only [List.forall_mem_cons, reduceCtorEq, false_and]
  have total : (gs.map (fun g => (Cell.number (n g)).toNumber E)).sum = ((gs.map n).sum : Nat) := by
    rw [Nat.cast_list_sum, List.map_map]
    rfl
  rw [sum_eval_map, total]
  simp only [empty]

theorem count_regroup_iff (gs : List (List Cell)) :
    Aggregate.sum.eval E (gs.map (Aggregate.count.eval E)) = Aggregate.count.eval E gs.flatten ↔
      gs ≠ [] := by
  have inner : gs.map (Aggregate.count.eval E) =
      gs.map (fun g => .number ((nonNull g).length : Nat)) := rfl
  have total : (nonNull gs.flatten).length = (gs.map (fun g => (nonNull g).length)).sum := by
    rw [nonNull_flatten, List.length_flatten, List.map_map]
    rfl
  rw [inner, sum_eval_numbers, Aggregate.eval, total]
  split
  · rename_i none
    simp [none]
  · rename_i some
    simp [some]

/-! ## COUNT(DISTINCT) -/

/-- As many different members as the groups have each, and no more groups share one. -/
theorem length_dedup_flatten (hs : List (List Cell)) :
    hs.flatten.dedup.length ≤ (hs.map (fun h => h.dedup.length)).sum ∧
      (hs.flatten.dedup.length = (hs.map (fun h => h.dedup.length)).sum ↔
        hs.Pairwise List.Disjoint) := by
  induction hs with
  | nil => simp
  | cons h rest ih =>
    have union : (h ++ rest.flatten).dedup.length =
        (h.toFinset ∪ rest.flatten.toFinset).card := by
      rw [← List.card_toFinset, List.toFinset_append]
    have both := Finset.card_union_add_card_inter h.toFinset rest.flatten.toFinset
    rw [List.card_toFinset, List.card_toFinset] at both
    have apart : (h.toFinset ∩ rest.flatten.toFinset).card = 0 ↔ ∀ m ∈ rest, List.Disjoint h m := by
      rw [Finset.card_eq_zero, ← Finset.disjoint_iff_inter_eq_empty, List.disjoint_toFinset_iff_disjoint]
      constructor
      · intro disjoint m mem a inside there
        exact disjoint inside (List.mem_flatten.mpr ⟨m, mem, there⟩)
      · intro all a inside there
        obtain ⟨m, mem, found⟩ := List.mem_flatten.mp there
        exact all m mem inside found
    rw [List.flatten_cons, List.map_cons, List.sum_cons, List.pairwise_cons, union, ← apart, ← ih.2]
    constructor
    · omega
    · have bound := ih.1
      omega

theorem countDistinct_regroup_iff (gs : List (List Cell)) :
    Aggregate.sum.eval E (gs.map (Aggregate.countDistinct.eval E)) =
        Aggregate.countDistinct.eval E gs.flatten ↔
      gs ≠ [] ∧ (gs.map nonNull).Pairwise List.Disjoint := by
  have inner : gs.map (Aggregate.countDistinct.eval E) =
      gs.map (fun g => .number ((nonNull g).dedup.length : Nat)) := rfl
  have total := (length_dedup_flatten (gs.map nonNull)).2
  rw [List.map_map] at total
  rw [inner, sum_eval_numbers, Aggregate.eval, nonNull_flatten, ← total]
  split
  · rename_i none
    simp [none]
  · rename_i some
    simp only [Cell.number.injEq, Nat.cast_inj, ne_eq, some, not_false_eq_true, true_and]
    exact eq_comm

/-! ## MIN and MAX -/

/-- One of the values stands out by its order and is a number, and the others add up to
zero, as when there are no others. -/
def RestCancels (extreme : List Cell → Option Cell) (values : List Cell) : Prop :=
  values = [] ∨ ∃ q, extreme values = some (.number q) ∧
    ((values.erase (.number q)).map (Cell.toNumber E)).sum = 0

section Extreme
variable {before : Cell → Cell → Prop} {extreme : List Cell → Option Cell}

/-- The value of a group. -/
def extremeOf (extreme : List Cell → Option Cell) (cells : List Cell) : Cell :=
  (extreme (nonNull cells)).getD .null

theorem mem_values_iff
    (spec : ∀ l a, extreme l = some a ↔ a ∈ l ∧ ∀ b ∈ l, before a b) {gs : List (List Cell)} {c : Cell} :
    c ∈ nonNull (gs.map (extremeOf extreme)) ↔ ∃ g ∈ gs, extreme (nonNull g) = some c := by
  unfold nonNull
  rw [List.mem_filter, List.mem_map, decide_eq_true_eq]
  constructor
  · intro ⟨⟨g, there, same⟩, present⟩
    refine ⟨g, there, ?_⟩
    unfold extremeOf nonNull at same
    cases found : extreme (g.filter (fun c => c ≠ .null)) with
    | none =>
      rw [found] at same
      exact absurd same.symm present
    | some d =>
      rw [found] at same
      exact congrArg some same
  · intro ⟨g, there, found⟩
    have inside := ((spec _ _).mp found).1
    refine ⟨⟨g, there, ?_⟩, ?_⟩
    · unfold extremeOf nonNull
      rw [found, Option.getD_some]
    · simpa using (List.mem_filter.mp inside).2

/-- The least of the least is the least of all, and so for any such order. -/
theorem extreme_flatten (trans : ∀ a b c, before a b → before b c → before a c)
    (spec : ∀ l a, extreme l = some a ↔ a ∈ l ∧ ∀ b ∈ l, before a b)
    (exists_of : ∀ l, l ≠ [] → ∃ a, extreme l = some a) (gs : List (List Cell)) :
    extreme (nonNull gs.flatten) = extreme (nonNull (gs.map (extremeOf extreme))) := by
  apply Option.ext
  intro a
  rw [spec, spec, mem_values_iff spec, nonNull_flatten]
  constructor
  · intro ⟨inside, first⟩
    obtain ⟨h, there, mem⟩ := List.mem_flatten.mp inside
    obtain ⟨g, source, rfl⟩ := List.mem_map.mp there
    refine ⟨⟨g, source, (spec _ _).mpr ⟨mem, fun b hb => ?_⟩⟩, fun b hb => ?_⟩
    · exact first b (List.mem_flatten.mpr ⟨_, there, hb⟩)
    · obtain ⟨g', source', found⟩ := (mem_values_iff spec).mp hb
      exact first b (List.mem_flatten.mpr ⟨_, List.mem_map_of_mem source', ((spec _ _).mp found).1⟩)
  · intro ⟨⟨g, source, found⟩, first⟩
    refine ⟨List.mem_flatten.mpr ⟨_, List.mem_map_of_mem source, ((spec _ _).mp found).1⟩, fun b hb => ?_⟩
    obtain ⟨h, there, mem⟩ := List.mem_flatten.mp hb
    obtain ⟨g', source', rfl⟩ := List.mem_map.mp there
    obtain ⟨c, found'⟩ := exists_of _ (List.ne_nil_of_mem mem)
    have below := first c ((mem_values_iff spec).mpr ⟨g', source', found'⟩)
    exact trans a c b below (((spec _ _).mp found').2 b mem)

theorem extreme_regroup_iff (trans : ∀ a b c, before a b → before b c → before a c)
    (spec : ∀ l a, extreme l = some a ↔ a ∈ l ∧ ∀ b ∈ l, before a b)
    (exists_of : ∀ l, l ≠ [] → ∃ a, extreme l = some a) (gs : List (List Cell)) :
    Aggregate.sum.eval E (gs.map (extremeOf extreme)) = extremeOf extreme gs.flatten ↔
      RestCancels E extreme (nonNull (gs.map (extremeOf extreme))) := by
  have whole := extreme_flatten trans spec exists_of gs
  rw [extremeOf, whole]
  generalize hv : nonNull (gs.map (extremeOf extreme)) = values
  simp only [Aggregate.eval, hv]
  by_cases empty : values = []
  · have absent : extreme [] = none := by
      cases found : extreme [] with
      | none => rfl
      | some a => exact absurd ((spec _ _).mp found).1 (List.not_mem_nil)
    simp [empty, absent, RestCancels]
  · obtain ⟨a, found⟩ := exists_of values empty
    have inside := ((spec _ _).mp found).1
    have total := List.sum_map_erase (Cell.toNumber E) inside
    rw [if_neg empty, found, Option.getD_some, ← total]
    unfold RestCancels
    constructor
    · intro same
      cases a with
      | null => cases same
      | text s => cases same
      | number q =>
        have sum : q + ((values.erase (.number q)).map (Cell.toNumber E)).sum = q := Cell.number.inj same
        exact .inr ⟨q, found, add_eq_left.mp sum⟩
    · intro cancels
      obtain ⟨q, number, zero⟩ := cancels.resolve_left empty
      rw [found, Option.some.injEq] at number
      subst number
      rw [zero, add_zero]
      rfl

end Extreme

theorem min_regroup_iff (gs : List (List Cell)) :
    Aggregate.sum.eval E (gs.map (Aggregate.min.eval E)) = Aggregate.min.eval E gs.flatten ↔
      RestCancels E List.min? (nonNull (gs.map (Aggregate.min.eval E))) := by
  have order : ∀ a b c : Cell, a ≤ b → b ≤ c → a ≤ c := fun _ _ _ => le_trans
  apply extreme_regroup_iff E order (fun _ _ => List.min?_eq_some_iff)
  intro l nonempty
  exact Option.ne_none_iff_exists'.mp (fun none => nonempty (List.min?_eq_none_iff.mp none))

theorem max_regroup_iff (gs : List (List Cell)) :
    Aggregate.sum.eval E (gs.map (Aggregate.max.eval E)) = Aggregate.max.eval E gs.flatten ↔
      RestCancels E List.max? (nonNull (gs.map (Aggregate.max.eval E))) := by
  have order : ∀ a b c : Cell, a ≥ b → b ≥ c → a ≥ c := fun _ _ _ => ge_trans
  apply extreme_regroup_iff E order (fun _ _ => List.max?_eq_some_iff)
  intro l nonempty
  exact Option.ne_none_iff_exists'.mp (fun none => nonempty (List.max?_eq_none_iff.mp none))

/-! ## AVG -/

/-- The groups that have a value. -/
def present (gs : List (List Cell)) : List (List Cell) := gs.filter (fun g => nonNull g ≠ [])

def mean (g : List Cell) : ℚ := ((nonNull g).map (Cell.toNumber E)).sum / (nonNull g).length

/-- The means of the groups are as large where many values stand behind them as where few
do, as when the same number of values stands behind each. -/
def Uncorrelated (gs : List (List Cell)) : Prop :=
  ((present gs).map (fun g => ((present gs).length * (nonNull g).length - (nonNull gs.flatten).length) *
    mean E g)).sum = 0

theorem present_cons (g : List Cell) (rest : List (List Cell)) :
    present (g :: rest) = if nonNull g = [] then present rest else g :: present rest := by
  unfold present
  by_cases empty : nonNull g = []
  · rw [if_pos empty, List.filter_cons_of_neg]
    simpa using empty
  · rw [if_neg empty, List.filter_cons_of_pos]
    simpa using empty

theorem nonNull_map_avg (gs : List (List Cell)) :
    nonNull (gs.map (Aggregate.avg.eval E)) = (present gs).map (fun g => .number (mean E g)) := by
  induction gs with
  | nil => rfl
  | cons g rest ih =>
    rw [List.map_cons, present_cons]
    by_cases empty : nonNull g = []
    · have head : Aggregate.avg.eval E g = .null := by simp [Aggregate.eval, empty]
      rw [head, nonNull_null, if_pos empty, ih]
    · have head : Aggregate.avg.eval E g = .number (mean E g) := by simp [Aggregate.eval, empty, mean]
      rw [head, nonNull_number, if_neg empty, List.map_cons, ih]

theorem nonNull_flatten_present (gs : List (List Cell)) :
    nonNull gs.flatten = ((present gs).map nonNull).flatten := by
  rw [nonNull_flatten]
  induction gs with
  | nil => rfl
  | cons g rest ih =>
    rw [List.map_cons, List.flatten_cons, present_cons, ih]
    by_cases empty : nonNull g = []
    · rw [if_pos empty, empty, List.nil_append]
    · rw [if_neg empty, List.map_cons, List.flatten_cons]

theorem size_mul_mean {g : List Cell} (some_value : nonNull g ≠ []) :
    ((nonNull g).map (Cell.toNumber E)).sum = (nonNull g).length * mean E g := by
  have nonzero : ((nonNull g).length : ℚ) ≠ 0 := by
    rw [Nat.cast_ne_zero, ne_eq, List.length_eq_zero_iff]
    exact some_value
  unfold mean
  field_simp

theorem avg_regroup_iff (gs : List (List Cell)) :
    Aggregate.avg.eval E (gs.map (Aggregate.avg.eval E)) = Aggregate.avg.eval E gs.flatten ↔
      Uncorrelated E gs := by
  have total : ((nonNull gs.flatten).map (Cell.toNumber E)).sum =
      ((present gs).map (fun g => (nonNull g).length * mean E g)).sum := by
    rw [nonNull_flatten_present, List.map_flatten, List.sum_flatten, List.map_map, List.map_map]
    congr 1
    apply List.map_congr_left
    intro g there
    exact size_mul_mean E (by simpa using (List.mem_filter.mp there).2)
  have means : ((nonNull (gs.map (Aggregate.avg.eval E))).map (Cell.toNumber E)).sum =
      ((present gs).map (mean E)).sum := by
    rw [nonNull_map_avg, List.map_map]
    rfl
  have spread : ((present gs).map (fun g =>
      ((present gs).length * (nonNull g).length - (nonNull gs.flatten).length) * mean E g)).sum =
      (present gs).length * ((present gs).map (fun g => (nonNull g).length * mean E g)).sum -
        (nonNull gs.flatten).length * ((present gs).map (mean E)).sum := by
    generalize ((present gs).length : ℚ) = k
    generalize ((nonNull gs.flatten).length : ℚ) = n
    induction present gs with
    | nil => simp
    | cons g rest ih =>
      simp only [List.map_cons, List.sum_cons, ih]
      ring
  unfold Uncorrelated
  rw [spread, ← total]
  by_cases empty : present gs = []
  · have nothing : nonNull gs.flatten = [] := by rw [nonNull_flatten_present, empty]; rfl
    have outer : nonNull (gs.map (Aggregate.avg.eval E)) = [] := by rw [nonNull_map_avg, empty]; rfl
    simp [Aggregate.eval, nothing, empty, outer]
  · have outer : nonNull (gs.map (Aggregate.avg.eval E)) ≠ [] := by
      rw [nonNull_map_avg]
      simpa using empty
    have inner : nonNull gs.flatten ≠ [] := by
      obtain ⟨g, there⟩ := List.exists_mem_of_ne_nil _ empty
      rw [nonNull_flatten_present]
      intro nothing
      have none := List.flatten_eq_nil_iff.mp nothing _ (List.mem_map_of_mem there)
      exact absurd none (by simpa using (List.mem_filter.mp there).2)
    have groups : ((present gs).length : ℚ) ≠ 0 := by
      rw [Nat.cast_ne_zero, ne_eq, List.length_eq_zero_iff]
      exact empty
    have size : ((nonNull gs.flatten).length : ℚ) ≠ 0 := by
      rw [Nat.cast_ne_zero, ne_eq, List.length_eq_zero_iff]
      exact inner
    have count : ((nonNull (gs.map (Aggregate.avg.eval E))).length : ℚ) = (present gs).length := by
      rw [nonNull_map_avg, List.length_map]
    rw [Aggregate.eval, Aggregate.eval]
    simp only [if_neg outer, if_neg inner, Cell.number.injEq]
    rw [means, count, div_eq_div_iff groups size, sub_eq_zero]
    constructor
    · intro same
      rw [mul_comm, ← same, mul_comm]
    · intro same
      rw [mul_comm, ← same, mul_comm]

/-! ## The rows behind the groups -/

theorem classes_perm {ρ κ : Type} [DecidableEq κ] (key : ρ → κ) {keys : List κ} (distinct : keys.Nodup)
    {rows : List ρ} (all : ∀ r ∈ rows, key r ∈ keys) :
    (keys.map (fun k => rows.filter (fun r => key r = k))).flatten.Perm rows := by
  induction keys generalizing rows with
  | nil =>
    have none : rows = [] := List.eq_nil_iff_forall_not_mem.mpr (fun r mem => List.not_mem_nil (all r mem))
    simp [none]
  | cons k keys ih =>
    rw [List.nodup_cons] at distinct
    have others : ∀ r ∈ rows.filter (fun r => !decide (key r = k)), key r ∈ keys := by
      intro r mem
      obtain ⟨there, apart⟩ := List.mem_filter.mp mem
      have apart' : key r ≠ k := by simpa using apart
      exact (List.mem_cons.mp (all r there)).resolve_left apart'
    have same : keys.map (fun k' => rows.filter (fun r => key r = k')) =
        keys.map (fun k' => (rows.filter (fun r => !decide (key r = k))).filter (fun r => key r = k')) := by
      apply List.map_congr_left
      intro k' mem
      rw [List.filter_filter]
      apply List.filter_congr
      intro r _
      have apart : k' ≠ k := fun eq => distinct.1 (eq ▸ mem)
      by_cases here : key r = k' <;> simp [here, apart]
    rw [List.map_cons, List.flatten_cons, same]
    exact ((ih distinct.2 others).append_left _).trans (List.filter_append_perm _ rows)

theorem groupsBy_flatten_perm {ρ κ : Type} [DecidableEq κ] (key : ρ → κ) (rows : List ρ) :
    (groupsBy key rows).flatten.Perm rows :=
  classes_perm key (List.nodup_dedup _) (fun _ mem => List.mem_dedup.mpr (List.mem_map_of_mem mem))

/-- Each row is in one unit. -/
theorem Select.units_flatten_perm (s : Select) (rows : List Env) : (s.units E rows).flatten.Perm rows := by
  unfold units
  split
  · have single : (rows.map (fun env => [env])).flatten = rows := by
      induction rows with
      | nil => rfl
      | cons env rest ih => rw [List.map_cons, List.flatten_cons, ih, List.singleton_append]
    rw [single]
  · simp
  · exact groupsBy_flatten_perm _ rows

end XpBuilder.Sql
