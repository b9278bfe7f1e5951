import Mathlib.Data.List.SplitBy
import Mathlib.Data.List.Dedup

/-! The stretches of a list under a key: the longest pieces of neighbours with one key.
They are the classes of the key exactly when no key comes back after another one. -/

namespace XpBuilder.Stretches
variable {ρ κ : Type} (key : ρ → κ)

def stretches [DecidableEq κ] (rows : List ρ) : List (List ρ) := rows.splitBy (fun a b => key a = key b)

/-- Pieces of one key each, the first with another key than `before`, and every later one
with another key than the piece before it. -/
def Alternate : Option κ → List (List ρ) → Prop
  | _, [] => True
  | before, g :: rest => ∃ r t, g = r :: t ∧ before ≠ some (key r) ∧ (∀ x ∈ t, key x = key r) ∧
      Alternate (some (key r)) rest

/-- No key comes back after another one. -/
def Contiguous (keys : List κ) : Prop := ∀ x y, [x, y, x].Sublist keys → y = x

/-- The key of each piece. -/
def pieceKeys (gs : List (List ρ)) : List κ := gs.filterMap (fun g => g.head?.map key)

@[simp] theorem flatten_stretches [DecidableEq κ] (rows : List ρ) : (stretches key rows).flatten = rows :=
  List.flatten_splitBy _ rows

theorem ne_nil_of_mem_stretches [DecidableEq κ] {rows g : List ρ} (mem : g ∈ stretches key rows) : g ≠ [] :=
  List.ne_nil_of_mem_splitBy mem

variable {key}

theorem oneKey_cons {r : ρ} {t : List ρ} (one : ∀ x ∈ t, key x = key r) : ∀ x ∈ r :: t, key x = key r :=
  List.forall_mem_cons.mpr ⟨rfl, one⟩

theorem one_key_of_chain [DecidableEq κ] {r : ρ} {t : List ρ}
    (chain : (r :: t).IsChain (fun a b => decide (key a = key b) = true)) : ∀ x ∈ t, key x = key r := by
  induction t generalizing r with
  | nil => exact fun _ mem => nomatch mem
  | cons b t ih =>
    rw [List.isChain_cons_cons, decide_eq_true_iff] at chain
    intro x mem
    cases List.mem_cons.mp mem with
    | inl here => rw [here, chain.1]
    | inr later => rw [ih chain.2 x later, chain.1]

theorem alternate_of_chain [DecidableEq κ] {gs : List (List ρ)} {before : Option κ} (nonempty : [] ∉ gs)
    (uniform : ∀ g ∈ gs, g.IsChain (fun a b => decide (key a = key b) = true))
    (apart : gs.IsChain (fun a b => ∃ ha hb, decide (key (a.getLast ha) = key (b.head hb)) = false))
    (first : ∀ r t rest, gs = (r :: t) :: rest → before ≠ some (key r)) : Alternate key before gs := by
  induction gs generalizing before with
  | nil => trivial
  | cons g rest ih =>
    cases g with
    | nil => exact absurd List.mem_cons_self nonempty
    | cons r t =>
      have one := one_key_of_chain (uniform _ List.mem_cons_self)
      refine ⟨r, t, rfl, first r t rest rfl, one, ih ?_ ?_ ?_ ?_⟩
      · exact fun mem => nonempty (List.mem_cons_of_mem _ mem)
      · exact fun g mem => uniform g (List.mem_cons_of_mem _ mem)
      · exact apart.tail
      · intro r' t' rest' shape same
        rw [shape, List.isChain_cons_cons] at apart
        obtain ⟨_, _, other⟩ := apart.1
        have last := oneKey_cons one _ (List.getLast_mem (List.cons_ne_nil r t))
        rw [last, decide_eq_false_iff_not] at other
        exact other (Option.some.inj same)

theorem alternate_stretches [DecidableEq κ] (rows : List ρ) : Alternate key none (stretches key rows) := by
  apply alternate_of_chain
  · exact List.nil_notMem_splitBy _ rows
  · exact fun g mem => List.isChain_of_mem_splitBy mem
  · exact List.isChain_getLast_head_splitBy (fun a b => decide (key a = key b)) rows
  · exact fun _ _ _ _ none => nomatch none

/-! ## Pieces and classes -/

section Pieces
variable {before : Option κ} {gs : List (List ρ)}

theorem length_pieceKeys (pieces : Alternate key before gs) : (pieceKeys key gs).length = gs.length := by
  induction gs generalizing before with
  | nil => rfl
  | cons g rest ih =>
    obtain ⟨r, t, rfl, -, -, later⟩ := pieces
    have tail := ih later
    simp only [pieceKeys, List.filterMap_cons, List.head?_cons, Option.map_some, List.length_cons] at tail ⊢
    rw [tail]

theorem mem_pieceKeys (pieces : Alternate key before gs) {k : κ} :
    k ∈ pieceKeys key gs ↔ k ∈ gs.flatten.map key := by
  induction gs generalizing before with
  | nil => rfl
  | cons g rest ih =>
    obtain ⟨r, t, rfl, -, one, later⟩ := pieces
    have tail := ih later
    have own : k ∈ (r :: t).map key ↔ k = key r := by
      constructor
      · intro mem
        obtain ⟨x, there, rfl⟩ := List.mem_map.mp mem
        exact oneKey_cons one x there
      · intro same
        rw [same]
        exact List.mem_map_of_mem List.mem_cons_self
    rw [List.flatten_cons, List.map_append, List.mem_append, own, ← tail]
    exact List.mem_cons

/-- Where the pieces have different keys each is the class of its key. -/
theorem pieces_eq_classes [DecidableEq κ] (pieces : Alternate key before gs) (distinct : (pieceKeys key gs).Nodup) :
    gs = (pieceKeys key gs).map (fun k => gs.flatten.filter (fun r => key r = k)) := by
  induction gs generalizing before with
  | nil => rfl
  | cons g rest ih =>
    obtain ⟨r, t, rfl, -, one, later⟩ := pieces
    have keys : pieceKeys key ((r :: t) :: rest) = key r :: pieceKeys key rest := rfl
    rw [keys, List.nodup_cons] at distinct
    have elsewhere : ∀ x ∈ rest.flatten, key x ≠ key r := by
      intro x mem same
      exact distinct.1 ((mem_pieceKeys later).mpr (same ▸ List.mem_map_of_mem mem))
    have own : (r :: t).filter (fun x => key x = key r) = r :: t := by
      rw [List.filter_eq_self]
      intro x mem
      simp [oneKey_cons one x mem]
    have none_else : rest.flatten.filter (fun x => key x = key r) = [] := by
      rw [List.filter_eq_nil_iff]
      intro x mem
      simp [elsewhere x mem]
    rw [keys, List.map_cons, List.flatten_cons, List.filter_append, own, none_else, List.append_nil]
    congr 1
    refine (ih later distinct.2).trans (List.map_congr_left ?_)
    intro k mem
    have other : k ≠ key r := fun same => distinct.1 (same ▸ mem)
    have none_here : (r :: t).filter (fun x => key x = k) = [] := by
      rw [List.filter_eq_nil_iff]
      intro x inside
      have same := oneKey_cons one x inside
      simp [same, Ne.symm other]
    rw [List.filter_append, none_here, List.nil_append]

theorem nodup_pieceKeys_iff (pieces : Alternate key before gs) :
    (pieceKeys key gs).Nodup ↔ Contiguous (gs.flatten.map key) := by
  induction gs generalizing before with
  | nil => exact iff_of_true List.nodup_nil (fun x y none => by cases none)
  | cons g rest ih =>
    obtain ⟨r, t, rfl, -, one, later⟩ := pieces
    have keys : pieceKeys key ((r :: t) :: rest) = key r :: pieceKeys key rest := rfl
    have own : ∀ k ∈ (r :: t).map key, k = key r := by
      intro k mem
      obtain ⟨x, there, rfl⟩ := List.mem_map.mp mem
      exact oneKey_cons one x there
    rw [keys, List.nodup_cons, ih later, mem_pieceKeys later, List.flatten_cons, List.map_append]
    constructor
    · intro ⟨new, rest_contiguous⟩ x y sublist
      obtain ⟨front, back, split, inFront, inBack⟩ := List.sublist_append_iff.mp sublist
      match front, back, split with
      | [], _, rfl => exact rest_contiguous x y inBack
      | [_], _, rfl =>
        have first := own x (inFront.subset List.mem_cons_self)
        exact absurd (first ▸ inBack.subset (by simp)) new
      | [_, _], _, rfl =>
        have first := own x (inFront.subset List.mem_cons_self)
        exact absurd (first ▸ inBack.subset (by simp)) new
      | [_, _, _], _, rfl =>
        rw [own x (inFront.subset List.mem_cons_self), own y (inFront.subset (by simp))]
    · intro contiguous
      refine ⟨fun again => ?_, fun x y sublist => contiguous x y (sublist.trans (List.sublist_append_right _ _))⟩
      cases rest with
      | nil => cases again
      | cons g' rest' =>
        obtain ⟨r', t', rfl, other, -, -⟩ := later
        have there : key r ∈ key r' :: (t' ++ rest'.flatten).map key := again
        have inside := (List.mem_cons.mp there).resolve_left (fun same => other (congrArg some same))
        have tail : [key r', key r].Sublist (key r' :: (t' ++ rest'.flatten).map key) :=
          (List.singleton_sublist.mpr inside).cons_cons _
        have front : [key r].Sublist ((r :: t).map key) := List.singleton_sublist.mpr List.mem_cons_self
        exact other (congrArg some (contiguous _ _ (front.append tail)).symm)

end Pieces

/-! ## The stretches of a list -/

section Classes
variable [DecidableEq κ] {rows : List ρ}

theorem contiguous_iff_nodup : Contiguous (rows.map key) ↔ (pieceKeys key (stretches key rows)).Nodup := by
  rw [nodup_pieceKeys_iff (alternate_stretches rows), flatten_stretches]

theorem mem_pieceKeys_stretches {k : κ} : k ∈ pieceKeys key (stretches key rows) ↔ k ∈ rows.map key := by
  rw [mem_pieceKeys (alternate_stretches rows), flatten_stretches]

/-- Of contiguous keys each stretch is the class of its key. -/
theorem stretches_eq_classes (contiguous : Contiguous (rows.map key)) :
    ∃ keys : List κ, keys.Nodup ∧ (∀ k, k ∈ keys ↔ k ∈ rows.map key) ∧
      stretches key rows = keys.map (fun k => rows.filter (fun r => key r = k)) := by
  have distinct := contiguous_iff_nodup.mp contiguous
  have classes := pieces_eq_classes (alternate_stretches rows) distinct
  rw [flatten_stretches] at classes
  exact ⟨_, distinct, fun k => mem_pieceKeys_stretches, classes⟩

/-- As many stretches as keys: then no key comes back. -/
theorem contiguous_of_length {keys : List κ} (distinct : keys.Nodup) (all : ∀ k, k ∈ keys ↔ k ∈ rows.map key)
    (length : (stretches key rows).length = keys.length) : Contiguous (rows.map key) := by
  have pieces : Alternate key none (stretches key rows) := alternate_stretches rows
  have same : ∀ k, k ∈ (pieceKeys key (stretches key rows)).dedup ↔ k ∈ keys := by
    intro k
    rw [List.mem_dedup, mem_pieceKeys_stretches, all]
  have perm := (List.perm_ext_iff_of_nodup (List.nodup_dedup _) distinct).mpr same
  have count : (pieceKeys key (stretches key rows)).dedup.length =
      (pieceKeys key (stretches key rows)).length := by
    rw [perm.length_eq, ← length, length_pieceKeys pieces]
  have whole := (List.dedup_sublist _).eq_of_length count
  exact contiguous_iff_nodup.mpr (whole ▸ List.nodup_dedup _)

end Classes
/-! ## Maximal runs -/

/-- The rows cut into runs of one key that cannot be longer. -/
structure MaximalRuns (key : ρ → κ) (rows : List ρ) (runs : List (List ρ)) : Prop where
  whole : runs.flatten = rows
  nonempty : ∀ run ∈ runs, run ≠ []
  oneKey : ∀ run ∈ runs, ∀ a ∈ run, ∀ b ∈ run, key a = key b
  apart : runs.IsChain (fun g h => ∀ a ∈ g, ∀ b ∈ h, key a ≠ key b)

theorem oneKey_of_alternate {before : Option κ} {gs : List (List ρ)} (pieces : Alternate key before gs) :
    ∀ g ∈ gs, ∀ a ∈ g, ∀ b ∈ g, key a = key b := by
  induction gs generalizing before with
  | nil => exact fun _ none => nomatch none
  | cons g rest ih =>
    obtain ⟨r, t, rfl, -, one, later⟩ := pieces
    have own := oneKey_cons one
    rw [List.forall_mem_cons]
    exact ⟨fun a inA b inB => (own a inA).trans (own b inB).symm, ih later⟩

theorem apart_of_alternate {before : Option κ} {gs : List (List ρ)} (pieces : Alternate key before gs) :
    gs.IsChain (fun g h => ∀ a ∈ g, ∀ b ∈ h, key a ≠ key b) := by
  induction gs generalizing before with
  | nil => exact .nil
  | cons g rest ih =>
    obtain ⟨r, t, rfl, -, one, later⟩ := pieces
    cases rest with
    | nil => exact .singleton _
    | cons next rest =>
      refine .cons_cons ?_ (ih later)
      obtain ⟨r', t', rfl, other, one', -⟩ := later
      intro a inA b inB same
      have first := oneKey_cons one a inA
      have second := oneKey_cons one' b inB
      exact other (congrArg some (first.symm.trans (same.trans second)))

theorem maximalRuns_stretches [DecidableEq κ] (rows : List ρ) : MaximalRuns key rows (stretches key rows) where
  whole := flatten_stretches key rows
  nonempty _ mem := ne_nil_of_mem_stretches key mem
  oneKey := oneKey_of_alternate (alternate_stretches rows)
  apart := apart_of_alternate (alternate_stretches rows)

theorem MaximalRuns.tail {rows g : List ρ} {rest : List (List ρ)} (runs : MaximalRuns key rows (g :: rest)) :
    MaximalRuns key rest.flatten rest where
  whole := rfl
  nonempty run mem := runs.nonempty run (List.mem_cons_of_mem _ mem)
  oneKey run mem := runs.oneKey run (List.mem_cons_of_mem _ mem)
  apart := runs.apart.tail

/-- The first run is what the rows have of its key before another key. -/
theorem MaximalRuns.head [DecidableEq κ] {r : ρ} {t : List ρ} {rest : List (List ρ)} {rows : List ρ}
    (runs : MaximalRuns key rows ((r :: t) :: rest)) :
    r :: t = rows.takeWhile (fun x => key x = key r) ∧ rest.flatten = rows.dropWhile (fun x => key x = key r) := by
  have own : ∀ x ∈ r :: t, decide (key x = key r) = true := fun x mem =>
    decide_eq_true (runs.oneKey _ List.mem_cons_self x mem r List.mem_cons_self)
  rw [← runs.whole, List.flatten_cons, List.takeWhile_append_of_pos own, List.dropWhile_append_of_pos own]
  cases rest with
  | nil => simp
  | cons g rest =>
    obtain ⟨r', t', rfl⟩ := List.exists_cons_of_ne_nil (runs.nonempty g (by simp))
    have other : key r' ≠ key r := by
      have neighbours := (List.isChain_cons_cons.mp runs.apart).1
      exact (neighbours r List.mem_cons_self r' List.mem_cons_self).symm
    simp [other]

theorem MaximalRuns.eq [DecidableEq κ] {rows : List ρ} {runs others : List (List ρ)} (first : MaximalRuns key rows runs)
    (second : MaximalRuns key rows others) : runs = others := by
  induction runs generalizing rows others with
  | nil =>
    have none : rows = [] := first.whole.symm
    cases others with
    | nil => rfl
    | cons g rest =>
      have empty : g ++ rest.flatten = [] := second.whole.trans none
      exact absurd (List.append_eq_nil_iff.mp empty).1 (second.nonempty g List.mem_cons_self)
  | cons g rest ih =>
    obtain ⟨r, t, rfl⟩ := List.exists_cons_of_ne_nil (first.nonempty g List.mem_cons_self)
    cases others with
    | nil => exact absurd (first.whole.trans second.whole.symm) (by simp)
    | cons g' rest' =>
      obtain ⟨r', t', rfl⟩ := List.exists_cons_of_ne_nil (second.nonempty g' List.mem_cons_self)
      have same : r = r' := by
        have heads := first.whole.trans second.whole.symm
        exact (List.cons.inj heads).1
      subst same
      rw [first.head.1, second.head.1]
      congr 1
      have tails : rest.flatten = rest'.flatten := first.head.2.trans second.head.2.symm
      exact ih first.tail (tails ▸ second.tail)

end XpBuilder.Stretches
