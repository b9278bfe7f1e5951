import Mathlib.Algebra.Order.Floor.Semiring
import Mathlib.Algebra.Order.Field.Basic

/-! Numbers in bins of one width. A bin has its lower edge and not its upper one, but the last has both,
so that the bins from the least number to the greatest leave none out. -/

namespace XpBuilder.Bins

/-! ## A tally -/

section Tally
variable {α : Type} (index : α → ℕ)

/-- How many members have each index below `n`, one by one. -/
def tally (n : ℕ) (members : List α) : List ℕ :=
  members.foldl (fun counts a => counts.modify (index a) (· + 1)) (List.replicate n 0)

theorem getElem?_foldl_modify (members : List α) (counts : List ℕ) (i : ℕ) :
    (members.foldl (fun counts a => counts.modify (index a) (· + 1)) counts)[i]? =
      counts[i]?.map (· + members.countP (fun a => index a = i)) := by
  induction members generalizing counts with
  | nil => simp
  | cons a members ih =>
    rw [List.foldl_cons, ih, List.getElem?_modify, Option.map_eq_map, Option.map_map, List.countP_cons]
    refine congrArg (fun f => Option.map f counts[i]?) (funext fun count => ?_)
    by_cases same : index a = i
    · simp only [Function.comp_apply, same, if_pos, decide_true]
      omega
    · simp only [Function.comp_apply, if_neg same, decide_eq_true_eq, Nat.add_zero]

theorem sum_modify (counts : List ℕ) {i : ℕ} (inside : i < counts.length) :
    (counts.modify i (· + 1)).sum = counts.sum + 1 := by
  induction counts generalizing i with
  | nil => exact absurd inside (Nat.not_lt_zero i)
  | cons count counts ih =>
    cases i with
    | zero =>
      rw [List.modify_zero_cons, List.sum_cons, List.sum_cons]
      omega
    | succ i =>
      rw [List.modify_succ_cons, List.sum_cons, List.sum_cons, ih (Nat.lt_of_succ_lt_succ inside)]
      omega

theorem sum_foldl_modify {members : List α} {counts : List ℕ} (inside : ∀ a ∈ members, index a < counts.length) :
    (members.foldl (fun counts a => counts.modify (index a) (· + 1)) counts).sum = counts.sum + members.length := by
  induction members generalizing counts with
  | nil => rfl
  | cons a members ih =>
    rw [List.forall_mem_cons] at inside
    have later : ∀ b ∈ members, index b < (counts.modify (index a) (· + 1)).length := by
      intro b mem
      rw [List.length_modify]
      exact inside.2 b mem
    rw [List.foldl_cons, ih later, sum_modify counts inside.1, List.length_cons]
    omega

theorem getElem?_tally {n i : ℕ} (inside : i < n) (members : List α) :
    (tally index n members)[i]? = some (members.countP (fun a => index a = i)) := by
  rw [tally, getElem?_foldl_modify, List.getElem?_replicate_of_lt inside, Option.map_some, Nat.zero_add]

theorem sum_tally {n : ℕ} {members : List α} (inside : ∀ a ∈ members, index a < n) :
    (tally index n members).sum = members.length := by
  have bound : ∀ a ∈ members, index a < (List.replicate n 0).length := by
    intro a mem
    rw [List.length_replicate]
    exact inside a mem
  rw [tally, sum_foldl_modify index bound, List.sum_replicate_nat, Nat.mul_zero, Nat.zero_add]

end Tally

/-! ## Bins -/

/-- Bins from a lowest edge on. -/
structure Scale (K : Type) [Field K] [LinearOrder K] where
  low : K
  size : K
  positive : 0 < size

namespace Scale
variable {K : Type} [Field K] [LinearOrder K] (s : Scale K)

def edge (i : ℕ) : K := s.low + s.size * i

/-- The bin holds the number; the last bin is closed. -/
def Holds (last i : ℕ) (v : K) : Prop := s.edge i ≤ v ∧ if i = last then v ≤ s.edge (last + 1) else v < s.edge (i + 1)

variable [FloorSemiring K]

/-- The bin of a number, the last for what lies at its upper edge. -/
def index (last : ℕ) (v : K) : ℕ := min last ⌊(v - s.low) / s.size⌋₊

theorem index_le (last : ℕ) (v : K) : s.index last v ≤ last := Nat.min_le_left _ _

variable [IsStrictOrderedRing K]

theorem edge_le_iff {v : K} (above : s.low ≤ v) (i : ℕ) : s.edge i ≤ v ↔ i ≤ ⌊(v - s.low) / s.size⌋₊ := by
  have nonneg : 0 ≤ (v - s.low) / s.size := div_nonneg (sub_nonneg.mpr above) s.positive.le
  rw [Nat.le_floor_iff nonneg, le_div_iff₀ s.positive, edge, le_sub_iff_add_le', mul_comm]

theorem holds_iff {last i : ℕ} {v : K} (above : s.low ≤ v) (below : v ≤ s.edge (last + 1)) (inside : i ≤ last) :
    s.Holds last i v ↔ s.index last v = i := by
  unfold Holds index
  rw [s.edge_le_iff above]
  split_ifs with same
  · rw [same]
    constructor
    · rintro ⟨reached, -⟩
      exact Nat.min_eq_left reached
    · intro found
      exact ⟨min_eq_left_iff.mp found, below⟩
  · rw [← not_le, s.edge_le_iff above]
    omega

/-- A number between the edges is held by one bin, that of its index. -/
theorem existsUnique_holds {last : ℕ} {v : K} (above : s.low ≤ v) (below : v ≤ s.edge (last + 1)) :
    ∃! i, i ≤ last ∧ s.Holds last i v := by
  refine ⟨s.index last v, ⟨s.index_le last v, ?_⟩, ?_⟩
  · exact (s.holds_iff above below (s.index_le last v)).mpr rfl
  · rintro i ⟨inside, held⟩
    exact ((s.holds_iff above below inside).mp held).symm

end Scale
end XpBuilder.Bins
