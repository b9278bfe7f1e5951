import Mathlib.Data.List.Nodup

/-! Components that list their children by key. The components on the way from a root make the
path of a component; in a tree there is one at most. A new leaf keeps the tree: it gets the path
of its holder, and all other paths stay as they are. -/

namespace XpBuilder.ChildTree

/-- The child lists; a key without a component has none. -/
abbrev Children (κ : Type) := κ → Option (List κ)

/-- The keys passed on the way from the root to a component. -/
inductive Path {κ : Type} (children : Children κ) (root : κ) : List κ → κ → Prop
  | start (there : (children root).isSome) : Path children root [] root
  | child {p : List κ} {k c : κ} {cs : List κ} (holder : Path children root p k) (lists : children k = some cs)
      (within : c ∈ cs) (there : (children c).isSome) : Path children root (p ++ [k]) c

/-- Every child is there, and what the root reaches it reaches along one path. -/
structure IsTree {κ : Type} (children : Children κ) (root : κ) : Prop where
  there : (children root).isSome
  resolves : ∀ k cs, children k = some cs → ∀ c ∈ cs, (children c).isSome
  once : ∀ p k cs, Path children root p k → children k = some cs → cs.Nodup
  path : ∀ p q k, Path children root p k → Path children root q k → p = q

theorem Path.there {κ : Type} {children : Children κ} {root : κ} {p : List κ} {k : κ}
    (path : Path children root p k) : (children k).isSome := by
  cases path with
  | start there => exact there
  | child _ _ _ there => exact there

/-- Only the root has nothing above it. -/
theorem Path.eq_root {κ : Type} {children : Children κ} {root : κ} {p : List κ} {k : κ}
    (path : Path children root p k) (empty : p = []) : k = root := by
  cases path with
  | start _ => rfl
  | child _ _ _ _ => simp at empty

/-- Where every component knows the way to its children, the way is the path. -/
theorem Path.eq_told {κ : Type} {children : Children κ} {root : κ} {told : κ → List κ} (start : told root = [])
    (below : ∀ k cs, children k = some cs → ∀ c ∈ cs, told c = told k ++ [k]) {p : List κ} {k : κ}
    (path : Path children root p k) : p = told k := by
  induction path with
  | start => exact start.symm
  | child _ lists within _ ih => rw [below _ _ lists _ within, ih]

section
variable {κ : Type} [DecidableEq κ]

/-- A root alone. -/
def single (root : κ) : Children κ := fun k => if k = root then some [] else none

/-- A new component without children, the last child of `holder`. -/
def graft (children : Children κ) (holder leaf : κ) : Children κ := fun k =>
  if k = leaf then some [] else if k = holder then (children k).map (fun cs => cs ++ [leaf]) else children k

variable {children : Children κ} {root holder leaf : κ}

theorem path_single_iff {p : List κ} {k : κ} : Path (single root) root p k ↔ p = [] ∧ k = root := by
  constructor
  · intro path
    cases path with
    | start there => exact ⟨rfl, rfl⟩
    | child holder lists within there =>
      unfold single at lists
      split_ifs at lists with same
      rw [← Option.some.inj lists] at within
      exact absurd within List.not_mem_nil
  · rintro ⟨rfl, rfl⟩
    exact .start (by simp [single])

theorem isTree_single (root : κ) : IsTree (single root) root where
  there := by simp [single]
  resolves := by
    intro k cs lists c within
    unfold single at lists
    split_ifs at lists
    rw [← Option.some.inj lists] at within
    exact absurd within List.not_mem_nil
  once := by
    intro p k cs path lists
    unfold single at lists
    split_ifs at lists
    rw [← Option.some.inj lists]
    exact List.nodup_nil
  path := by
    intro p q k path path'
    have here := (path_single_iff.mp path).1
    have here' := (path_single_iff.mp path').1
    rw [here, here']

/-! ## A new leaf -/

theorem graft_leaf : graft children holder leaf leaf = some [] := if_pos rfl

/-- What was there is still there and has its children, with the leaf perhaps behind them. -/
theorem graft_kept (free : children leaf = none) {k : κ} {cs : List κ} (lists : children k = some cs) :
    graft children holder leaf k = some (if k = holder then cs ++ [leaf] else cs) := by
  have other : k ≠ leaf := by
    rintro rfl
    rw [free] at lists
    cases lists
  rw [graft, if_neg other, lists]
  split_ifs <;> rfl

theorem isSome_graft (free : children leaf = none) {k : κ} (there : (children k).isSome) :
    (graft children holder leaf k).isSome := by
  obtain ⟨cs, lists⟩ := Option.isSome_iff_exists.mp there
  rw [graft_kept free lists]
  rfl

theorem graft_eq_none {k : κ} (other : k ≠ leaf) (absent : children k = none) : graft children holder leaf k = none := by
  rw [graft, if_neg other, absent]
  split_ifs <;> rfl

/-- What is there now, but for the leaf, was there before. -/
theorem of_graft {k : κ} {ds : List κ} (lists : graft children holder leaf k = some ds) (other : k ≠ leaf) :
    ∃ cs, children k = some cs ∧ ds = if k = holder then cs ++ [leaf] else cs := by
  rw [graft, if_neg other] at lists
  split_ifs at lists with same
  · obtain ⟨cs, before, rfl⟩ := Option.map_eq_some_iff.mp lists
    exact ⟨cs, before, by rw [if_pos same]⟩
  · exact ⟨ds, lists, by rw [if_neg same]⟩

/-- The paths of before are paths still. -/
theorem path_graft_of_path (free : children leaf = none) {p : List κ} {k : κ} (path : Path children root p k) :
    Path (graft children holder leaf) root p k := by
  induction path with
  | start there => exact .start (isSome_graft free there)
  | @child p k c cs _ lists within there ih =>
    refine .child ih (graft_kept free lists) ?_ (isSome_graft free there)
    split_ifs
    · exact List.mem_append_left _ within
    · exact within

namespace IsTree

/-- The only new path is that of the leaf, below its holder. -/
theorem path_graft_iff (tree : IsTree children root) (free : children leaf = none)
    (there : (children holder).isSome) {p : List κ} {k : κ} :
    Path (graft children holder leaf) root p k ↔
      Path children root p k ∨ (k = leaf ∧ ∃ q, Path children root q holder ∧ p = q ++ [holder]) := by
  have unlisted : ∀ k cs, children k = some cs → leaf ∉ cs := by
    intro k cs lists within
    have resolved := tree.resolves k cs lists leaf within
    rw [free] at resolved
    cases resolved
  constructor
  · intro path
    induction path with
    | start => exact .inl (.start tree.there)
    | @child p k c ds _ lists within found ih =>
      rcases ih with before | ⟨rfl, -⟩
      · have other : k ≠ leaf := by
          rintro rfl
          have known := before.there
          rw [free] at known
          cases known
        obtain ⟨cs, listed, rfl⟩ := of_graft lists other
        by_cases new : c = leaf
        · have here : k = holder := by
            by_contra elsewhere
            rw [if_neg elsewhere, new] at within
            exact unlisted k cs listed within
          exact .inr ⟨new, p, here ▸ before, by rw [here]⟩
        · have old : c ∈ cs := by
            split_ifs at within
            · simpa [new] using within
            · exact within
          exact .inl (.child before listed old (tree.resolves k cs listed c old))
      · rw [graft_leaf] at lists
        rw [← Option.some.inj lists] at within
        exact absurd within List.not_mem_nil
  · rintro (before | ⟨rfl, q, below, rfl⟩)
    · exact path_graft_of_path free before
    · obtain ⟨cs, lists⟩ := Option.isSome_iff_exists.mp there
      refine .child (path_graft_of_path free below) (graft_kept free lists) ?_ (by rw [graft_leaf]; rfl)
      rw [if_pos rfl]
      exact List.mem_append_right _ List.mem_cons_self

theorem path_graft_old (tree : IsTree children root) (free : children leaf = none) (there : (children holder).isSome)
    {p : List κ} {k : κ} (other : k ≠ leaf) : Path (graft children holder leaf) root p k ↔ Path children root p k := by
  rw [tree.path_graft_iff free there]
  exact or_iff_left (fun new => other new.1)

/-- The paths of the leaf. -/
theorem path_leaf_iff (tree : IsTree children root) (free : children leaf = none) {q : List κ}
    (below : Path children root q holder) {p : List κ} :
    Path (graft children holder leaf) root p leaf ↔ p = q ++ [holder] := by
  rw [tree.path_graft_iff free below.there]
  constructor
  · rintro (before | ⟨-, q', below', rfl⟩)
    · have known := before.there
      rw [free] at known
      cases known
    · rw [tree.path q' q holder below' below]
  · rintro rfl
    exact .inr ⟨rfl, q, below, rfl⟩

/-- A new leaf keeps the tree. -/
theorem graft (tree : IsTree children root) (free : children leaf = none) (there : (children holder).isSome) :
    IsTree (graft children holder leaf) root where
  there := isSome_graft free tree.there
  resolves := by
    intro k ds lists c within
    by_cases new : c = leaf
    · rw [new, graft_leaf]
      rfl
    · have other : k ≠ leaf := by
        rintro rfl
        rw [graft_leaf] at lists
        rw [← Option.some.inj lists] at within
        exact absurd within List.not_mem_nil
      obtain ⟨cs, listed, rfl⟩ := of_graft lists other
      have old : c ∈ cs := by
        split_ifs at within
        · simpa [new] using within
        · exact within
      exact isSome_graft free (tree.resolves k cs listed c old)
  once := by
    intro p k ds path lists
    by_cases new : k = leaf
    · rw [new, graft_leaf] at lists
      rw [← Option.some.inj lists]
      exact List.nodup_nil
    · obtain ⟨cs, listed, rfl⟩ := of_graft lists new
      have before : Path children root p k := by
        rcases (tree.path_graft_iff free there).mp path with before | ⟨same, -⟩
        · exact before
        · exact absurd same new
      have nodup := tree.once p k cs before listed
      have unlisted : leaf ∉ cs := by
        intro within
        have resolved := tree.resolves k cs listed leaf within
        rw [free] at resolved
        cases resolved
      split_ifs
      · exact List.Nodup.append nodup (List.nodup_singleton leaf) (by simpa using unlisted)
      · exact nodup
  path := by
    intro p q k path path'
    rw [tree.path_graft_iff free there] at path path'
    rcases path with before | ⟨rfl, a, below, rfl⟩ <;> rcases path' with before' | ⟨same, b, below', rfl⟩
    · exact tree.path p q k before before'
    · have known := before.there
      rw [same, free] at known
      cases known
    · have known := before'.there
      rw [free] at known
      cases known
    · rw [tree.path a b holder below below']

end IsTree
end
end XpBuilder.ChildTree
