import XpBuilder.Library.SqlAggregate
import Mathlib.Data.Multiset.Bind

/-! A chain of inner joins is its ON conditions applied to the product of the
joined tables, as long as no alias is joined twice and every ON clause names
only aliases at its left. The product does not depend on the order of its
factors, so neither does the chain. -/

namespace XpBuilder.Sql

@[simp] theorem Env.bind_same (env : Env) (a : String) (r : Row) : env.bind a r a = r := by
  simp [Env.bind]

theorem Env.bind_ne (env : Env) {a b : String} (h : b ≠ a) (r : Row) : env.bind a r b = env b := by
  simp [Env.bind, h]

theorem Env.bind_comm (env : Env) {a b : String} (h : a ≠ b) (r q : Row) :
    (env.bind a r).bind b q = (env.bind b q).bind a r := by
  funext c
  by_cases hb : c = b
  · subst hb
    rw [bind_same, bind_ne _ h.symm, bind_same]
  · rw [bind_ne _ hb]
    by_cases ha : c = a
    · rw [ha, bind_same, bind_same]
    · rw [bind_ne _ ha, bind_ne _ ha, bind_ne _ hb]

/-! ## Products -/

def crossAll (tables : Contents) (ts : List TableClause) (acc : List Env) : List Env :=
  ts.foldl (fun acc t => crossStep t (tables t) acc) acc

theorem crossStep_perm (t : TableClause) (rows : List Row) {acc acc' : List Env}
    (h : acc.Perm acc') : (crossStep t rows acc).Perm (crossStep t rows acc') :=
  h.flatMap_right _

theorem crossStep_comm {t u : TableClause} (h : t.aliasName ≠ u.aliasName) (ts us : List Row)
    (acc : List Env) :
    (crossStep u us (crossStep t ts acc)).Perm (crossStep t ts (crossStep u us acc)) := by
  unfold crossStep
  simp only [List.flatMap_assoc]
  refine List.Perm.flatMap_left acc (fun env _ => ?_)
  rw [List.flatMap_map, List.flatMap_map]
  have swap : ∀ r, (env.bind t.aliasName r).bind u.aliasName =
      fun q => (env.bind u.aliasName q).bind t.aliasName r := by
    intro r
    funext q
    exact env.bind_comm h r q
  simp only [swap]
  rw [← Multiset.coe_eq_coe, ← Multiset.coe_bind, ← Multiset.coe_bind]
  simp only [← Multiset.map_coe]
  exact Multiset.bind_map_comm _ _

/-- The product of tables under distinct aliases does not depend on their order. -/
theorem crossAll_perm (tables : Contents) {ts us : List TableClause} (h : ts.Perm us)
    (distinct : (ts.map TableClause.aliasName).Nodup) {acc acc' : List Env} (hacc : acc.Perm acc') :
    (crossAll tables ts acc).Perm (crossAll tables us acc') := by
  induction h generalizing acc acc' with
  | nil => exact hacc
  | cons t _ ih =>
    simp only [List.map_cons, List.nodup_cons] at distinct
    exact ih distinct.2 (crossStep_perm t _ hacc)
  | swap t u rest =>
    have ne : u.aliasName ≠ t.aliasName := by
      simp only [List.map_cons, List.nodup_cons, List.mem_cons, not_or] at distinct
      exact distinct.1.1
    have step := (crossStep_comm ne (tables u) (tables t) acc).trans
      (crossStep_perm u _ (crossStep_perm t _ hacc))
    clear distinct
    unfold crossAll
    simp only [List.foldl_cons]
    generalize crossStep t (tables t) (crossStep u (tables u) acc) = left at step
    generalize crossStep u (tables u) (crossStep t (tables t) acc') = right at step
    induction rest generalizing left right with
    | nil => exact step
    | cons v rest ih => exact ih _ _ (crossStep_perm v _ step)
  | trans hab _ ih₁ ih₂ =>
    exact (ih₁ distinct hacc).trans
      (ih₂ ((hab.map _).nodup_iff.mp distinct) (List.Perm.refl _))

/-! ## Inner joins -/

theorem eq_eval_comm (E : Engine) (a b : Cell) :
    Comparison.eq.eval E a b = Comparison.eq.eval E b a := by
  have eq_iff : ∀ {α : Type} [LT α] [DecidableLT α] [DecidableEq α] (_ : ∀ x : α, ¬x < x) (x y : α),
      compareOfLessAndEq x y = .eq ↔ x = y := by
    intro α _ _ _ irrefl x y
    unfold compareOfLessAndEq
    split_ifs with hlt heq
    · simp only [false_iff]
      exact fun h => irrefl x (h ▸ hlt)
    · simp [heq]
    · simp [heq]
  have numbers := fun p q : ℚ => eq_iff (fun x => lt_irrefl x) p q
  have texts := fun s t : List Char => eq_iff (fun x => List.lt_irrefl x) s t
  cases a <;> cases b <;>
    simp only [Comparison.eval, compareCells, Option.map_none, Option.map_some, Comparison.holds,
      numbers, texts, eq_comm]

theorem joinStep_inner (E : Engine) {j : Join} (h : j.kind = .inner) (rows : List Row)
    (acc : List Env) :
    joinStep E j rows acc = (crossStep j.right rows acc).filter (j.holds E) := by
  unfold joinStep crossStep joinMatches
  rw [h, List.filter_flatMap]

theorem crossStep_filter (t : TableClause) (rows : List Row) {P : Env → Bool}
    (free : ∀ env r, P (Env.bind env t.aliasName r) = P env) (acc : List Env) :
    crossStep t rows (acc.filter P) = (crossStep t rows acc).filter P := by
  unfold crossStep
  induction acc with
  | nil => rfl
  | cons env rest ih =>
    have all : (rows.map (env.bind t.aliasName)).filter P =
        if P env then rows.map (env.bind t.aliasName) else [] := by
      rw [List.filter_map]
      have same : (P ∘ env.bind t.aliasName) = fun _ => P env := by
        funext r
        exact free env r
      rw [same]
      by_cases h : P env = true <;> simp [h]
    rw [List.flatMap_cons, List.filter_append, all, ← ih]
    by_cases h : P env = true <;> simp [h]

/-- No later join rebinds an alias that an earlier ON clause names. -/
def Settled (joins : List Join) : Prop :=
  joins.Pairwise (fun j k =>
    j.left.aliasName ≠ k.right.aliasName ∧ j.right.aliasName ≠ k.right.aliasName)

theorem foldl_joinStep_inner (E : Engine) (tables : Contents) {joins : List Join}
    (inner : ∀ j ∈ joins, j.kind = .inner) (settled : Settled joins) {P : Env → Bool}
    (free : ∀ j ∈ joins, ∀ env r, P (Env.bind env j.right.aliasName r) = P env)
    (acc : List Env) :
    joins.foldl (fun acc j => joinStep E j (tables j.right) acc) (acc.filter P) =
      (crossAll tables (joins.map Join.right) acc).filter
        (fun env => P env && joins.all (fun j => j.holds E env)) := by
  induction joins generalizing acc P with
  | nil => simp [crossAll]
  | cons j rest ih =>
    have later := List.pairwise_cons.mp settled
    have holds_free : ∀ k ∈ rest, ∀ env r,
        j.holds E (Env.bind env k.right.aliasName r) = j.holds E env := by
      intro k hk env r
      obtain ⟨hl, hr⟩ := later.1 k hk
      simp only [Join.holds, Env.bind_ne env hl, Env.bind_ne env hr]
    rw [List.foldl_cons, joinStep_inner E (inner j List.mem_cons_self),
      crossStep_filter _ _ (free j List.mem_cons_self), List.filter_filter,
      ih (fun k hk => inner k (List.mem_cons_of_mem _ hk)) later.2]
    · unfold crossAll
      rw [List.map_cons, List.foldl_cons]
      congr 1
      funext env
      rw [List.all_cons]
      cases j.holds E env <;> cases P env <;> rfl
    · intro k hk env r
      rw [holds_free k hk, free k (List.mem_cons_of_mem _ hk)]

namespace Select

theorem crossAll_root (tables : Contents) (t : TableClause) (rest : List TableClause) :
    crossAll tables rest ((tables t).map (Env.nulls.bind t.aliasName)) =
      crossAll tables (t :: rest) [Env.nulls] := by
  simp [crossAll, crossStep]

/-- The joined rows of an inner chain: the product of its tables cut down to
the rows where every ON clause holds. -/
theorem joinedRows_inner (E : Engine) (tables : Contents) {s : Select}
    (inner : ∀ j ∈ s.joins, j.kind = .inner) (settled : Settled s.joins)
    (noCross : s.implicitFrom = []) :
    s.joinedRows E tables =
      (crossAll tables s.chain [Env.nulls]).filter
        (fun env => s.joins.all (fun j => j.holds E env)) := by
  have folded := foldl_joinStep_inner E tables inner settled (P := fun _ => true)
    (fun _ _ _ _ => rfl) ((tables s.root).map (Env.nulls.bind s.root.aliasName))
  rw [List.filter_eq_self.mpr (fun _ _ => rfl)] at folded
  unfold joinedRows
  simp only [noCross, List.foldl_nil, folded, Bool.true_and]
  rw [crossAll_root]
  rfl

/-- Two inner chains over the same tables with equivalent ON clauses and the
same WHERE clause read the same rows. -/
theorem sourceRows_perm (E : Engine) (tables : Contents) {s t : Select}
    (chains : s.chain.Perm t.chain) (distinct : (s.chain.map TableClause.aliasName).Nodup)
    (innerS : ∀ j ∈ s.joins, j.kind = .inner) (innerT : ∀ j ∈ t.joins, j.kind = .inner)
    (settledS : Settled s.joins) (settledT : Settled t.joins)
    (noCrossS : s.implicitFrom = []) (noCrossT : t.implicitFrom = [])
    (on : ∀ env, (∀ j ∈ s.joins, j.holds E env = true) ↔ ∀ j ∈ t.joins, j.holds E env = true)
    (filters : t.filters = s.filters) :
    (s.sourceRows E tables).Perm (t.sourceRows E tables) := by
  have conditions : (fun env => s.joins.all (fun j => j.holds E env)) =
      fun env => t.joins.all (fun j => j.holds E env) := by
    funext env
    rw [Bool.eq_iff_iff, List.all_eq_true, List.all_eq_true]
    exact on env
  unfold sourceRows
  rw [joinedRows_inner E tables innerS settledS noCrossS,
    joinedRows_inner E tables innerT settledT noCrossT, conditions, filters]
  exact ((crossAll_perm tables chains distinct (List.Perm.refl _)).filter _).filter _

end Select
end XpBuilder.Sql
