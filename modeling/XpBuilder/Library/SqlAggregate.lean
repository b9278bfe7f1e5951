import XpBuilder.Library.Sql
import Mathlib.Algebra.BigOperators.Group.List.Basic
import Mathlib.Data.List.Lemmas

/-! Grouping and aggregation do not see the order of the rows: aggregates of
permuted groups agree, and permuted rows give the same result rows up to order. -/

namespace XpBuilder.Sql

theorem nonNull_perm {cells cells' : List Cell} (h : cells.Perm cells') :
    (nonNull cells).Perm (nonNull cells') := h.filter _

theorem min?_perm {cells cells' : List Cell} (h : cells.Perm cells') : cells.min? = cells'.min? := by
  ext a
  rw [List.min?_eq_some_iff, List.min?_eq_some_iff]
  simp only [h.mem_iff]

theorem max?_perm {cells cells' : List Cell} (h : cells.Perm cells') : cells.max? = cells'.max? := by
  ext a
  rw [List.max?_eq_some_iff, List.max?_eq_some_iff]
  simp only [h.mem_iff]

theorem Aggregate.eval_perm (E : Engine) (a : Aggregate) {cells cells' : List Cell}
    (h : cells.Perm cells') : a.eval E cells = a.eval E cells' := by
  have present := nonNull_perm h
  have empty : (nonNull cells = []) = (nonNull cells' = []) := by
    rw [← List.length_eq_zero_iff, ← List.length_eq_zero_iff, present.length_eq]
  have total : ((nonNull cells).map (Cell.toNumber E)).sum =
      ((nonNull cells').map (Cell.toNumber E)).sum := (present.map _).sum_eq
  cases a with
  | count => simp only [eval, present.length_eq]
  | countDistinct => simp only [eval, present.dedup.length_eq]
  | sum => simp only [eval, empty, total]
  | avg => simp only [eval, empty, total, present.length_eq]
  | min => simp only [eval, min?_perm present]
  | max => simp only [eval, max?_perm present]

/-- The row an ungrouped column takes does not depend on the order of the group. -/
def Engine.OrderBlind (E : Engine) : Prop :=
  ∀ group group' : List Env, group.Perm group' → E.pick group = E.pick group'

theorem Output.eval_perm {E : Engine} (blind : E.OrderBlind) (o : Output) {group group' : List Env}
    (h : group.Perm group') : o.eval E group = o.eval E group' := by
  cases o with
  | plain e => rw [eval, eval, blind group group' h]
  | aggregate a e => exact a.eval_perm E (h.map _)

theorem groupsBy_map_perm {ρ κ β : Type} [DecidableEq κ] (key : ρ → κ) {rows rows' : List ρ}
    (h : rows.Perm rows') {f : List ρ → β} (hf : ∀ g g', g.Perm g' → f g = f g') :
    ((groupsBy key rows).map f).Perm ((groupsBy key rows').map f) := by
  unfold groupsBy
  rw [List.map_map, List.map_map]
  have same : ∀ k ∈ (rows.map key).dedup, (f ∘ fun k => rows.filter (fun r => key r = k)) k =
      (f ∘ fun k => rows'.filter (fun r => key r = k)) k := fun k _ => hf _ _ (h.filter _)
  rw [List.map_congr_left same]
  exact ((h.map key).dedup).map _

namespace Select

theorem units_map_perm (E : Engine) (s : Select) {rows rows' : List Env} (h : rows.Perm rows')
    {β : Type} {f : List Env → β} (hf : ∀ g g', g.Perm g' → f g = f g') :
    ((s.units E rows).map f).Perm ((s.units E rows').map f) := by
  unfold units
  split
  · rw [List.map_map, List.map_map]
    exact h.map _
  · rw [List.map_singleton, List.map_singleton, hf _ _ h]
  · exact groupsBy_map_perm _ h hf

/-- ORDER BY and an uncut LIMIT only reorder the selected rows. -/
theorem run_uncut {E : Engine} {tables : Contents} {s : Select} (accepted : s.fromAccepted = true)
    (uncut : ((s.selected E tables).length : Int) ≤ s.limit) :
    ∃ out, s.run E tables = some out ∧ out.Perm (s.selected E tables) := by
  have nonneg : 0 ≤ s.limit := by omega
  have short : (s.units E (s.sourceRows E tables)).length ≤ s.limit.toNat := by
    have : (s.selected E tables).length = (s.units E (s.sourceRows E tables)).length :=
      List.length_map _
    omega
  unfold run
  rw [if_pos (by simp [accepted, nonneg])]
  refine ⟨_, rfl, ?_⟩
  rw [List.take_of_length_le (by simpa using short)]
  refine ((List.mergeSort_perm _ _).map _).trans ?_
  rw [List.map_map]
  exact List.Perm.refl _

/-- Without ORDER BY the rows come as they are selected. -/
theorem run_unordered {E : Engine} (tables : Contents) {s : Select} (accepted : s.fromAccepted = true)
    (limit : 0 ≤ s.limit) (unordered : s.orderBy = []) :
    s.run E tables = some ((s.selected E tables).take s.limit.toNat) := by
  unfold run
  rw [if_pos (by simp [accepted, limit]), unordered]
  have always : ∀ a b : List Cell × List Cell, precedes [] a.1 b.1 = true := fun _ _ => rfl
  simp only [List.map_nil, List.mergeSort_of_pairwise (List.pairwise_of_forall always), List.map_map]
  rfl

/-- A statement that runs returns as many rows as there are and its limit lets through. -/
theorem length_of_run {E : Engine} {tables : Contents} {s : Select} {rows : List (List Cell)}
    (run : s.run E tables = some rows) :
    0 ≤ s.limit ∧ rows.length = min s.limit.toNat (s.selected E tables).length := by
  unfold Select.run at run
  rw [Option.ite_none_right_eq_some, Option.some.injEq, Bool.and_eq_true, decide_eq_true_eq] at run
  refine ⟨run.1.2, ?_⟩
  rw [← run.2, List.length_take, List.length_map, List.length_mergeSort, List.length_map, selected, List.length_map]

/-- Every row of a result is that of a group. -/
theorem mem_of_run {E : Engine} {tables : Contents} {s : Select} {rows : List (List Cell)}
    (run : s.run E tables = some rows) {cells : List Cell} (mem : cells ∈ rows) :
    ∃ group ∈ s.units E (s.sourceRows E tables), cells = s.outputRow E group := by
  unfold Select.run at run
  rw [Option.ite_none_right_eq_some, Option.some.injEq] at run
  rw [← run.2] at mem
  obtain ⟨keyed, there, rfl⟩ := List.mem_map.mp (List.mem_of_mem_take mem)
  obtain ⟨group, unit, rfl⟩ := List.mem_map.mp ((List.mergeSort_perm _ _).mem_iff.mp there)
  exact ⟨group, unit, rfl⟩

/-- A statement without aggregates returns one row for each source row, up to LIMIT. -/
theorem run_length {E : Engine} {tables : Contents} {s : Select} (accepted : s.fromAccepted = true)
    (plain : s.groupBy = none) (limit : 0 ≤ s.limit) :
    ∃ out, s.run E tables = some out ∧
      out.length = min s.limit.toNat (s.sourceRows E tables).length := by
  unfold run
  rw [if_pos (by simp [accepted, limit])]
  refine ⟨_, rfl, ?_⟩
  simp [units, plain]

/-- A statement reads only the tables of its FROM clause. -/
theorem run_congr {E : Engine} {tables tables' : Contents} {s : Select}
    (same : ∀ t ∈ s.fromItems, tables t = tables' t) : s.run E tables = s.run E tables' := by
  have joined : ∀ (joins : List Join) (acc : List Env),
      (∀ j ∈ joins, tables j.right = tables' j.right) →
      joins.foldl (fun acc j => joinStep E j (tables j.right) acc) acc =
        joins.foldl (fun acc j => joinStep E j (tables' j.right) acc) acc := by
    intro joins
    induction joins with
    | nil => exact fun _ _ => rfl
    | cons j rest ih =>
      intro acc h
      rw [List.foldl_cons, List.foldl_cons, h j List.mem_cons_self]
      exact ih _ (fun k hk => h k (List.mem_cons_of_mem _ hk))
  have crossed : ∀ (ts : List TableClause) (acc : List Env), (∀ t ∈ ts, tables t = tables' t) →
      ts.foldl (fun acc t => crossStep t (tables t) acc) acc =
        ts.foldl (fun acc t => crossStep t (tables' t) acc) acc := by
    intro ts
    induction ts with
    | nil => exact fun _ _ => rfl
    | cons t rest ih =>
      intro acc h
      rw [List.foldl_cons, List.foldl_cons, h t List.mem_cons_self]
      exact ih _ (fun u hu => h u (List.mem_cons_of_mem _ hu))
  have rows : s.joinedRows E tables = s.joinedRows E tables' := by
    have root : tables s.root = tables' s.root := same _ (by simp [fromItems, chain])
    have rights : ∀ j ∈ s.joins, tables j.right = tables' j.right := fun j hj =>
      same _ (by simp [fromItems, chain, List.mem_map_of_mem hj])
    have extra : ∀ t ∈ s.implicitFrom, tables t = tables' t := fun t ht =>
      same t (List.mem_append_right _ ht)
    simp only [joinedRows]
    rw [root, joined _ _ rights, crossed _ _ extra]
  simp only [run, sourceRows, rows]

/-- Statements with the same select list and groups over the same rows. -/
theorem selected_perm {E : Engine} (blind : E.OrderBlind) {tables : Contents} {s t : Select}
    (columns : t.columns = s.columns) (groups : t.groupBy = s.groupBy)
    (rows : (s.sourceRows E tables).Perm (t.sourceRows E tables)) :
    (s.selected E tables).Perm (t.selected E tables) := by
  have outputs : t.outputRow E = s.outputRow E := by
    funext group
    rw [outputRow, outputRow, columns]
  have units : t.units E = s.units E := by
    funext group
    rw [Select.units, Select.units, groups]
  rw [selected, selected, outputs, units]
  refine s.units_map_perm E rows (fun g g' hg => ?_)
  exact List.map_congr_left (fun c _ => c.body.eval_perm blind hg)

end Select
end XpBuilder.Sql
