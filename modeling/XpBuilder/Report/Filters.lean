import Mathlib.Algebra.CharZero.Infinite
import Mathlib.Data.Rat.Cast.CharZero
import XpBuilder.Library.SqlLike
import XpBuilder.Report.RowSecurity

/-! What the filters of a report accept. Of two opposite filters exactly one should accept a
cell that is not NULL, and LIKE should look for the value: both hinge on the value only. -/

namespace XpBuilder

/-- A value that the order comparisons take. -/
def FilterValue.isOrdered : FilterValue → Bool
  | .one .null => false
  | .one (.flag _) => false
  | .one _ => true
  | .many _ _ => false

def FilterValue.isList : FilterValue → Bool
  | .one _ => false
  | .many _ _ => true

namespace SqlBuilder
open Sql (Cell Comparison Engine Env Expr compareCells)

/-- A filter accepts a row; one that cannot be built accepts none. -/
def Accepts (E : Engine) (env : Env) (tables : Tables) (f : FilterEntry) : Prop :=
  ∃ p, filterExpr tables f = .ok p ∧ p.eval E env = some true

/-- Exactly one of two filters on one column accepts a row whose cell is not NULL. -/
def Opposite (E : Engine) (op other : String) (value : FilterValue) : Prop :=
  ∀ (tables : Tables) (dataset : Nat) (column : String) (e : Expr) (env : Env),
    exprOf tables dataset column = .ok e → e.eval E env ≠ .null →
    (Accepts E env tables ⟨dataset, column, some op, value⟩ ↔
      ¬Accepts E env tables ⟨dataset, column, some other, value⟩)

/-- LIKE accepts a text that contains the value. -/
def LooksFor (E : Engine) (value : FilterValue) : Prop :=
  ∀ (tables : Tables) (dataset : Nat) (column : String) (e : Expr) (env : Env) (s : String),
    exprOf tables dataset column = .ok e → e.eval E env = .text s →
    (Accepts E env tables ⟨dataset, column, some "LIKE", value⟩ ↔ value.str.toList <:+: s.toList)

section
variable {E : Engine} {env : Env} {tables : Tables} {e : Expr} {value : FilterValue}

/-- The test that an operator asks for; its letters may be small. -/
def testOf (op : Option String) (e : Expr) (value : FilterValue) : Except BuildError Sql.Predicate :=
  filterTest (PythonText.upper (PythonText.orElse op "=")) e value

theorem filterExpr_eq {dataset : Nat} {column : String} {op : Option String}
    (found : exprOf tables dataset column = .ok e) :
    filterExpr tables ⟨dataset, column, op, value⟩ = testOf op e value := by
  simp only [filterExpr, found]
  rfl

theorem accepts_of_test {dataset : Nat} {column : String} {op : Option String} {p : Sql.Predicate}
    (found : exprOf tables dataset column = .ok e) (test : testOf op e value = .ok p) :
    Accepts E env tables ⟨dataset, column, op, value⟩ ↔ p.eval E env = some true := by
  unfold Accepts
  rw [filterExpr_eq found, test]
  simp

theorem not_accepts_of_error {dataset : Nat} {column : String} {op : Option String} {error : BuildError}
    (found : exprOf tables dataset column = .ok e) (test : testOf op e value = .error error) :
    ¬Accepts E env tables ⟨dataset, column, op, value⟩ := by
  rintro ⟨p, built, -⟩
  rw [filterExpr_eq found, test] at built
  cases built

end

/-- A table with one column, loaded as dataset 1. -/
def oneColumn : Tables := Dict.empty.set 1 ⟨⟨1, none, none, "t", none, [], [], none⟩, ⟨1, none, "t", "d1"⟩, ["c"]⟩

def oneExpr : Expr := .column ⟨1, none, "t", "d1"⟩ "c"

theorem exprOf_oneColumn : exprOf oneColumn 1 "c" = .ok oneExpr := rfl

theorem eval_oneExpr (E : Engine) (cell : Cell) : oneExpr.eval E (fun _ _ => cell) = cell := rfl

section
variable {E : Engine} {value : FilterValue}

/-- Two filters that cannot be built are not opposite. -/
theorem not_opposite_of_errors {op other : String}
    (error : ∃ x, testOf (some op) oneExpr value = .error x)
    (error' : ∃ x, testOf (some other) oneExpr value = .error x) : ¬Opposite E op other value := by
  intro opposite
  obtain ⟨_, fails⟩ := error
  obtain ⟨_, fails'⟩ := error'
  have one := opposite oneColumn 1 "c" oneExpr (fun _ _ => .number 0) exprOf_oneColumn (by simp [eval_oneExpr])
  have neither : ¬Accepts E (fun _ _ => .number 0) oneColumn ⟨1, "c", some other, value⟩ :=
    not_accepts_of_error exprOf_oneColumn fails'
  exact not_accepts_of_error exprOf_oneColumn fails (one.mpr neither)

/-! ## Comparisons -/

theorem compareCells_some {a b : Cell} (left : a ≠ .null) (right : b ≠ .null) : ∃ o, compareCells E a b = some o := by
  cases a with
  | null => exact absurd rfl left
  | number p => cases b <;> first | exact absurd rfl right | exact ⟨_, rfl⟩
  | text s => cases b <;> first | exact absurd rfl right | exact ⟨_, rfl⟩

/-- Comparisons of which one denies the other. -/
def Denies (c d : Comparison) : Prop := ∀ o, c.holds o = !d.holds o

theorem denies_eq_ne : Denies .eq .ne := by
  intro o
  cases o <;> rfl

theorem denies_gt_le : Denies .gt .le := by
  intro o
  cases o <;> rfl

theorem denies_lt_ge : Denies .lt .ge := by
  intro o
  cases o <;> rfl

/-- Comparisons with one and the same cell. -/
theorem opposite_of_compare {op other : String} {c d : Comparison} {cell : Cell} (denies : Denies c d)
    (there : cell ≠ .null) (test : ∀ e, testOf (some op) e value = .ok (.compare c e cell))
    (test' : ∀ e, testOf (some other) e value = .ok (.compare d e cell)) : Opposite E op other value := by
  intro tables dataset column e env found some_cell
  rw [accepts_of_test found (test e), accepts_of_test found (test' e)]
  obtain ⟨o, compared⟩ := compareCells_some (E := E) some_cell there
  simp [Sql.Predicate.eval, Comparison.eval, compared, denies o]

theorem opposite_null_tests {op other : String} (test : ∀ e, testOf (some op) e value = .ok (.isNull e))
    (test' : ∀ e, testOf (some other) e value = .ok (.isNotNull e)) : Opposite E op other value := by
  intro tables dataset column e env found some_cell
  rw [accepts_of_test found (test e), accepts_of_test found (test' e)]
  simp [Sql.Predicate.eval, some_cell]

/-! ## Lists -/

section
variable {f : Cell → Option Bool}

/-- OR over a list, as IN takes it. -/
def anyOf (f : Cell → Option Bool) (items : List Cell) : Option Bool :=
  items.foldr (fun v acc => Sql.or3 (f v) acc) (some false)

/-- OR of truth values that are known is known. -/
theorem anyOf_known {items : List Cell} (known : ∀ v ∈ items, ∃ b, f v = some b) : ∃ b, anyOf f items = some b := by
  induction items with
  | nil => exact ⟨false, rfl⟩
  | cons v rest ih =>
    rw [List.forall_mem_cons] at known
    obtain ⟨b, first⟩ := known.1
    obtain ⟨c, others⟩ := ih known.2
    refine ⟨b || c, ?_⟩
    unfold anyOf at others ⊢
    rw [List.foldr_cons, others, first]
    cases b <;> cases c <;> rfl

theorem anyOf_ne_true {items : List Cell} (never : ∀ v ∈ items, f v ≠ some true) : anyOf f items ≠ some true := by
  induction items with
  | nil => simp [anyOf]
  | cons v rest ih =>
    rw [List.forall_mem_cons] at never
    have others := ih never.2
    unfold anyOf at others ⊢
    rw [List.foldr_cons]
    rcases first : f v with _ | _ | _
    · rcases after : List.foldr (fun v acc => Sql.or3 (f v) acc) (some false) rest with _ | _ | _ <;>
        simp_all [Sql.or3]
    · rcases after : List.foldr (fun v acc => Sql.or3 (f v) acc) (some false) rest with _ | _ | _ <;>
        simp_all [Sql.or3]
    · exact absurd first never.1

/-- One unknown among values that are not TRUE leaves OR unknown. -/
theorem anyOf_unknown {items : List Cell} (never : ∀ v ∈ items, f v ≠ some true) {v : Cell} (within : v ∈ items)
    (unknown : f v = none) : anyOf f items = none := by
  induction items with
  | nil => exact absurd within List.not_mem_nil
  | cons w rest ih =>
    rw [List.forall_mem_cons] at never
    have others := anyOf_ne_true never.2
    rcases List.mem_cons.mp within with rfl | later
    · unfold anyOf at others ⊢
      rw [List.foldr_cons, unknown]
      rcases after : List.foldr (fun v acc => Sql.or3 (f v) acc) (some false) rest with _ | _ | _ <;>
        simp_all [Sql.or3]
    · have unknown_rest := ih never.2 later
      unfold anyOf at unknown_rest ⊢
      rw [List.foldr_cons, unknown_rest]
      rcases first : f w with _ | _ | _ <;> simp_all [Sql.or3]

end

theorem literalCell_eq_null {v : Literal} : literalCell v = .null ↔ v = .null := by
  cases v with
  | flag b => cases b <;> simp [literalCell]
  | _ => simp [literalCell]

theorem eval_isIn (E : Engine) (env : Env) (e : Expr) (items : List Cell) :
    (Sql.Predicate.isIn e items).eval E env = anyOf (Comparison.eq.eval E (e.eval E env)) items := rfl

theorem eval_notIn (E : Engine) (env : Env) (e : Expr) (items : List Cell) :
    (Sql.Predicate.notIn e items).eval E env = (anyOf (Comparison.eq.eval E (e.eval E env)) items).map (!·) := rfl

theorem compare_ne_eq {p q : ℚ} (differs : q ≠ p) : compareOfLessAndEq q p ≠ .eq := by
  rw [compareOfLessAndEq, if_neg differs]
  split_ifs <;> simp

/-- Some number is none of the items. -/
theorem exists_other_number (E : Engine) (items : List Cell) :
    ∃ q, ∀ v ∈ items, Comparison.eq.eval E (.number q) v ≠ some true := by
  obtain ⟨q, other⟩ := Infinite.exists_notMem_finset (items.map (Cell.toNumber E)).toFinset
  refine ⟨q, fun v within => ?_⟩
  have differs : q ≠ v.toNumber E := by
    rintro rfl
    exact other (List.mem_toFinset.mpr (List.mem_map_of_mem within))
  cases v with
  | null => simp [Comparison.eval, compareCells]
  | number p =>
    have other_order : compareOfLessAndEq q p ≠ .eq := compare_ne_eq differs
    simp [Comparison.eval, compareCells, Comparison.holds, other_order]
  | text s =>
    have other_order : compareOfLessAndEq q (E.numberOf s) ≠ .eq := compare_ne_eq differs
    simp [Comparison.eval, compareCells, Comparison.holds, other_order]

section
variable {tables : Tables} {dataset : Nat} {column : String} {e : Expr} {env : Env}

theorem testOf_in (e : Expr) (value : FilterValue) : testOf (some "IN") e value =
    .ok (if value.items = [] then .never else .isIn e (value.items.map literalCell)) := rfl

theorem testOf_notIn (e : Expr) (value : FilterValue) : testOf (some "NOT IN") e value =
    .ok (if value.items = [] then .always else .notIn e (value.items.map literalCell)) := rfl

/-- The guard against an empty list only puts into words what OR over it is. -/
theorem accepts_in (found : exprOf tables dataset column = .ok e) :
    Accepts E env tables ⟨dataset, column, some "IN", value⟩ ↔
      anyOf (Comparison.eq.eval E (e.eval E env)) (value.items.map literalCell) = some true := by
  rw [accepts_of_test found (testOf_in e value)]
  split_ifs with empty
  · rw [empty]
    simp [Sql.Predicate.eval, anyOf]
  · rw [eval_isIn]

theorem accepts_notIn (found : exprOf tables dataset column = .ok e) :
    Accepts E env tables ⟨dataset, column, some "NOT IN", value⟩ ↔
      anyOf (Comparison.eq.eval E (e.eval E env)) (value.items.map literalCell) = some false := by
  rw [accepts_of_test found (testOf_notIn e value)]
  split_ifs with empty
  · rw [empty]
    simp [Sql.Predicate.eval, anyOf]
  · rw [eval_notIn]
    simp

end

theorem opposite_in_iff : Opposite E "IN" "NOT IN" value ↔ Literal.null ∉ value.items := by
  constructor
  · intro opposite null_within
    obtain ⟨q, other⟩ := exists_other_number E (value.items.map literalCell)
    have one := opposite oneColumn 1 "c" oneExpr (fun _ _ => .number q) exprOf_oneColumn (by simp [eval_oneExpr])
    rw [accepts_in exprOf_oneColumn, accepts_notIn exprOf_oneColumn, eval_oneExpr] at one
    have unknown := anyOf_unknown other (List.mem_map_of_mem null_within) (by rfl)
    rw [unknown] at one
    simp at one
  · intro complete tables dataset column e env found some_cell
    have known : ∀ v ∈ value.items.map literalCell, ∃ b, Comparison.eq.eval E (e.eval E env) v = some b := by
      intro v within
      obtain ⟨item, there, rfl⟩ := List.mem_map.mp within
      have not_null : literalCell item ≠ .null := fun null => complete (literalCell_eq_null.mp null ▸ there)
      obtain ⟨o, compared⟩ := compareCells_some (E := E) some_cell not_null
      exact ⟨Comparison.eq.holds o, by rw [Comparison.eval, compared]; rfl⟩
    obtain ⟨b, whole⟩ := anyOf_known known
    rw [accepts_in found, accepts_notIn found, whole]
    cases b <;> simp

/-! ## Single values -/

theorem opposite_eq_iff : Opposite E "=" "!=" value ↔ value.isList = false := by
  cases value with
  | many items printed =>
    refine iff_of_false (not_opposite_of_errors ⟨_, rfl⟩ ⟨_, rfl⟩) (by simp [FilterValue.isList])
  | one v =>
    refine iff_of_true ?_ rfl
    cases v with
    | null => exact opposite_null_tests (fun _ => rfl) (fun _ => rfl)
    | flag b => exact opposite_of_compare denies_eq_ne (by simp [literalCell_eq_null]) (fun _ => rfl) (fun _ => rfl)
    | int i => exact opposite_of_compare denies_eq_ne (by simp [literalCell_eq_null]) (fun _ => rfl) (fun _ => rfl)
    | float q printed =>
      exact opposite_of_compare denies_eq_ne (by simp [literalCell_eq_null]) (fun _ => rfl) (fun _ => rfl)
    | text s => exact opposite_of_compare denies_eq_ne (by simp [literalCell_eq_null]) (fun _ => rfl) (fun _ => rfl)

/-- Two order comparisons of which one denies the other. -/
theorem opposite_order_iff {op other : String} {c d : Comparison} (denies : Denies c d)
    (test : ∀ e, testOf (some op) e value = compareFilter c e value) (order : c ≠ .eq ∧ c ≠ .ne)
    (test' : ∀ e, testOf (some other) e value = compareFilter d e value) (order' : d ≠ .eq ∧ d ≠ .ne) :
    Opposite E op other value ↔ value.isOrdered := by
  have fails : ∀ {c : Comparison}, c ≠ .eq ∧ c ≠ .ne → value.isOrdered = false →
      ∀ e, ∃ error, compareFilter c e value = .error error := by
    intro c order unordered e
    rcases value with (_ | b | i | ⟨q, printed⟩ | s) | ⟨items, printed⟩
    · cases c <;> first | exact absurd rfl order.1 | exact absurd rfl order.2 | exact ⟨_, rfl⟩
    · cases c <;> first | exact absurd rfl order.1 | exact absurd rfl order.2 | exact ⟨_, rfl⟩
    · cases unordered
    · cases unordered
    · cases unordered
    · exact ⟨_, rfl⟩
  by_cases ordered : value.isOrdered = true
  · refine iff_of_true ?_ ordered
    rcases value with (_ | b | i | ⟨q, printed⟩ | s) | ⟨items, printed⟩
    · cases ordered
    · cases ordered
    · exact opposite_of_compare denies (by simp [literalCell_eq_null]) test test'
    · exact opposite_of_compare denies (by simp [literalCell_eq_null]) test test'
    · exact opposite_of_compare denies (by simp [literalCell_eq_null]) test test'
    · cases ordered
  · have unordered : value.isOrdered = false := Bool.not_eq_true _ ▸ ordered
    refine iff_of_false (not_opposite_of_errors ?_ ?_) ordered
    · rw [test oneExpr]
      exact fails order unordered oneExpr
    · rw [test' oneExpr]
      exact fails order' unordered oneExpr

/-! ## LIKE -/

theorem accepts_like {tables : Tables} {dataset : Nat} {column : String} {e : Expr} {env : Env} {s : String}
    (found : exprOf tables dataset column = .ok e) (cell : e.eval E env = .text s) :
    Accepts E env tables ⟨dataset, column, some "LIKE", value⟩ ↔
      Sql.likeMatch E.likeEscapes ('%' :: (value.str.toList ++ ['%'])) s.toList := by
  have test : testOf (some "LIKE") e value = .ok (.like e ("%" ++ value.str ++ "%")) := rfl
  rw [accepts_of_test found test]
  simp [Sql.Predicate.eval, cell]

theorem looksFor_iff : LooksFor E value ↔ ∀ c ∈ value.str.toList, Sql.isPlain E.likeEscapes c := by
  rw [← Sql.likeMatch_contains_iff]
  constructor
  · intro looks cs
    have found := looks oneColumn 1 "c" oneExpr (fun _ _ => .text (String.ofList cs)) _ exprOf_oneColumn rfl
    rw [accepts_like exprOf_oneColumn rfl, String.toList_ofList] at found
    exact found
  · intro contains tables dataset column e env s found cell
    rw [accepts_like found cell]
    exact contains s.toList

end
end SqlBuilder
end XpBuilder
