import Mathlib.Algebra.Ring.Rat
import Mathlib.Data.Rat.Defs
import Mathlib.Algebra.Order.Ring.Unbundled.Rat
import Mathlib.Data.List.Dedup
import Mathlib.Data.List.Infix
import Mathlib.Data.String.Basic

/-! A fragment of SQL: one SELECT over a left-deep chain of joins, with a WHERE
conjunction under three-valued logic, GROUP BY, ORDER BY and LIMIT. Numbers are
exact rationals and texts compare by code points. What a particular database
decides for itself (how it reads a text as a number, what a raw expression
means, which row of a group an ungrouped column takes, whether a backslash
escapes in a pattern) is an `Engine`. -/

namespace XpBuilder.Sql

inductive Cell where
  | null
  | number (q : ℚ)
  | text (s : String)
  deriving DecidableEq

abbrev Row := String → Cell

/-- The rows bound to the aliases of a FROM clause; an alias that an outer join
left without a match reads as a row of NULLs. -/
abbrev Env := String → Row

def Env.nulls : Env := fun _ _ => .null

def Env.bind (env : Env) (aliasName : String) (row : Row) : Env :=
  fun a => if a = aliasName then row else env a

structure Engine where
  numberOf : String → ℚ
  evalRaw : String → Env → Cell
  pick : List Env → Env
  pick_mem : ∀ group, group ≠ [] → pick group ∈ group
  likeEscapes : Bool := true

/-- One aliased table object of a statement; `ident` tells objects apart. -/
structure TableClause where
  ident : Nat
  schema : Option String
  name : String
  aliasName : String
  deriving DecidableEq, Repr

inductive Expr where
  | column (table : TableClause) (name : String)
  | raw (sql : String)
  deriving DecidableEq, Repr

inductive Aggregate where
  | sum | avg | count | countDistinct | min | max
  deriving DecidableEq, Repr

inductive Output where
  | plain (e : Expr)
  | aggregate (a : Aggregate) (e : Expr)
  deriving DecidableEq, Repr

structure SelectColumn where
  label : String
  body : Output
  deriving DecidableEq, Repr

inductive Comparison where
  | eq | ne | gt | ge | lt | le
  deriving DecidableEq, Repr

inductive Predicate where
  | isNull (e : Expr)
  | isNotNull (e : Expr)
  | isIn (e : Expr) (items : List Cell)
  | notIn (e : Expr) (items : List Cell)
  | always
  | never
  | between (e : Expr) (low high : Cell)
  | like (e : Expr) (pattern : String)
  | compare (op : Comparison) (e : Expr) (value : Cell)
  deriving DecidableEq

inductive JoinKind where
  | inner | left | full
  deriving DecidableEq, Repr

/-- `JOIN right ON left.leftColumn = right.rightColumn` -/
structure Join where
  left : TableClause
  leftColumn : String
  right : TableClause
  rightColumn : String
  kind : JoinKind
  deriving DecidableEq, Repr

/-- `groupBy` is `none` for a statement without aggregates. -/
structure Select where
  columns : List SelectColumn
  root : TableClause
  joins : List Join
  filters : List Predicate
  groupBy : Option (List Expr)
  orderBy : List (Output × Bool)
  limit : Int
  deriving DecidableEq

/-! ## The FROM clause -/

def Expr.tables : Expr → List TableClause
  | .column t _ => [t]
  | .raw _ => []

def Output.expr : Output → Expr
  | .plain e => e
  | .aggregate _ e => e

def Predicate.tables : Predicate → List TableClause
  | .isNull e => e.tables
  | .isNotNull e => e.tables
  | .isIn e _ => e.tables
  | .notIn e _ => e.tables
  | .always => []
  | .never => []
  | .between e _ _ => e.tables
  | .like e _ => e.tables
  | .compare _ e _ => e.tables

namespace Select

/-- The left-deep chain: the root, then the right side of every join in turn. -/
def chain (s : Select) : List TableClause := s.root :: s.joins.map Join.right

/-- Tables the select list or the WHERE clause names without joining them: they
enter the FROM clause as cross products. -/
def implicitFrom (s : Select) : List TableClause :=
  ((s.columns.flatMap (fun c => c.body.expr.tables) ++ s.filters.flatMap Predicate.tables).filter
    (fun t => t ∉ s.chain)).dedup

def fromItems (s : Select) : List TableClause := s.chain ++ s.implicitFrom

/-- Every ON clause names its own right side and otherwise only aliases
introduced before it. -/
def onClausesResolve (introduced : List String) : List Join → Bool
  | [] => true
  | j :: rest =>
    (j.left.aliasName ∈ introduced || j.left.aliasName = j.right.aliasName) &&
      onClausesResolve (introduced ++ [j.right.aliasName]) rest

/-- The database accepts the FROM clause: no alias occurs twice and every ON
clause resolves. -/
def fromAccepted (s : Select) : Bool :=
  (s.fromItems.map TableClause.aliasName).Nodup && onClausesResolve [s.root.aliasName] s.joins

end Select

/-! ## Values -/

/-- A text compares with a number through the number the engine reads in it. -/
def compareCells (E : Engine) : Cell → Cell → Option Ordering
  | .null, _ => none
  | _, .null => none
  | .number p, .number q => some (compareOfLessAndEq p q)
  | .text s, .text t => some (compareOfLessAndEq s.toList t.toList)
  | .number p, .text t => some (compareOfLessAndEq p (E.numberOf t))
  | .text s, .number q => some (compareOfLessAndEq (E.numberOf s) q)

def Comparison.holds : Comparison → Ordering → Bool
  | .eq, o => o = .eq
  | .ne, o => o ≠ .eq
  | .gt, o => o = .gt
  | .ge, o => o ≠ .lt
  | .lt, o => o = .lt
  | .le, o => o ≠ .gt

/-- Three-valued: `none` is UNKNOWN. -/
def Comparison.eval (E : Engine) (op : Comparison) (a b : Cell) : Option Bool :=
  (compareCells E a b).map op.holds

def Expr.eval (E : Engine) (env : Env) : Expr → Cell
  | .column t name => env t.aliasName name
  | .raw sql => E.evalRaw sql env

def and3 : Option Bool → Option Bool → Option Bool
  | some false, _ => some false
  | _, some false => some false
  | some true, some true => some true
  | _, _ => none

def or3 : Option Bool → Option Bool → Option Bool
  | some true, _ => some true
  | _, some true => some true
  | some false, some false => some false
  | _, _ => none

/-- A piece of a LIKE pattern. -/
inductive Wild where
  | any
  | one
  | exactly (c : Char)
  deriving DecidableEq, Repr

def wild (c : Char) : Wild := if c = '%' then .any else if c = '_' then .one else .exactly c

/-- The pieces of a pattern; where a backslash escapes, the character after it is taken as it is. -/
def wilds (escapes : Bool) : List Char → List Wild
  | [] => []
  | [c] => [wild c]
  | c :: d :: rest =>
    if escapes && c = '\\' then .exactly d :: wilds escapes rest else wild c :: wilds escapes (d :: rest)

def wildMatch : List Wild → List Char → Bool
  | [], text => text.isEmpty
  | .any :: ps, text => text.tails.any (wildMatch ps)
  | .one :: ps, text => !text.isEmpty && wildMatch ps text.tail
  | .exactly c :: ps, text => text.head? = some c && wildMatch ps text.tail

/-- `%` matches any text and `_` one character. -/
def likeMatch (escapes : Bool) (pattern text : List Char) : Bool := wildMatch (wilds escapes pattern) text

def Predicate.eval (E : Engine) (env : Env) : Predicate → Option Bool
  | .isNull e => some (e.eval E env = .null)
  | .isNotNull e => some (e.eval E env ≠ .null)
  | .isIn e items =>
    items.foldr (fun v acc => or3 (Comparison.eq.eval E (e.eval E env) v) acc) (some false)
  | .notIn e items =>
    (items.foldr (fun v acc => or3 (Comparison.eq.eval E (e.eval E env) v) acc) (some false)).map
      (!·)
  | .always => some true
  | .never => some false
  | .between e low high =>
    and3 (Comparison.ge.eval E (e.eval E env) low) (Comparison.le.eval E (e.eval E env) high)
  | .like e pattern =>
    match e.eval E env with
    | .text s => some (likeMatch E.likeEscapes pattern.toList s.toList)
    | .number _ => some false
    | .null => none
  | .compare op e value => op.eval E (e.eval E env) value

def Join.holds (E : Engine) (j : Join) (env : Env) : Bool :=
  Comparison.eq.eval E (env j.left.aliasName j.leftColumn) (env j.right.aliasName j.rightColumn)
    = some true

theorem Join.holds_iff {E : Engine} {j : Join} {env : Env} :
    j.holds E env = true ↔ Comparison.eq.eval E (env j.left.aliasName j.leftColumn)
      (env j.right.aliasName j.rightColumn) = some true := decide_eq_true_iff

/-! ## Joined rows -/

/-- The extensions of `env` by one right row that satisfy the ON clause. -/
def joinMatches (E : Engine) (j : Join) (rows : List Row) (env : Env) : List Env :=
  (rows.map (env.bind j.right.aliasName)).filter (j.holds E)

def joinStep (E : Engine) (j : Join) (rows : List Row) (acc : List Env) : List Env :=
  let padded := acc.flatMap (fun env =>
    match joinMatches E j rows env with
    | [] => [env.bind j.right.aliasName (fun _ => .null)]
    | found => found)
  match j.kind with
  | .inner => acc.flatMap (joinMatches E j rows)
  | .left => padded
  | .full => padded ++ (rows.filter (fun r =>
      !acc.any (fun env => j.holds E (env.bind j.right.aliasName r)))).map
        (Env.nulls.bind j.right.aliasName)

def crossStep (t : TableClause) (rows : List Row) (acc : List Env) : List Env :=
  acc.flatMap (fun env => rows.map (env.bind t.aliasName))

abbrev Contents := TableClause → List Row

namespace Select

def joinedRows (E : Engine) (tables : Contents) (s : Select) : List Env :=
  let rootRows := (tables s.root).map (Env.nulls.bind s.root.aliasName)
  let joined := s.joins.foldl (fun acc j => joinStep E j (tables j.right) acc) rootRows
  s.implicitFrom.foldl (fun acc t => crossStep t (tables t) acc) joined

/-- The joined rows for which every WHERE predicate is TRUE. -/
def sourceRows (E : Engine) (tables : Contents) (s : Select) : List Env :=
  (s.joinedRows E tables).filter (fun env => s.filters.all (fun p => p.eval E env = some true))

end Select

/-! ## Grouping and aggregation -/

/-- Partition by key, one group for each key that occurs. -/
def groupsBy {ρ κ : Type} [DecidableEq κ] (key : ρ → κ) (rows : List ρ) : List (List ρ) :=
  (rows.map key).dedup.map (fun k => rows.filter (fun r => key r = k))

def nonNull (cells : List Cell) : List Cell := cells.filter (fun c => c ≠ .null)

/-- NULL counts for nothing where a number is needed. -/
def Cell.toNumber (E : Engine) : Cell → ℚ
  | .null => 0
  | .number q => q
  | .text s => E.numberOf s

def Cell.le : Cell → Cell → Bool
  | .null, _ => true
  | _, .null => false
  | .number p, .number q => p ≤ q
  | .number _, .text _ => true
  | .text _, .number _ => false
  | .text s, .text t => s.toList ≤ t.toList

theorem Cell.le_total (a b : Cell) : a.le b = true ∨ b.le a = true := by
  cases a <;> cases b <;> simp [Cell.le, LinearOrder.le_total]

theorem Cell.le_antisymm {a b : Cell} (hab : a.le b = true) (hba : b.le a = true) : a = b := by
  cases a <;> cases b <;> simp [Cell.le] at hab hba ⊢
  · exact PartialOrder.le_antisymm _ _ hab hba
  · exact String.toList_inj.mp (PartialOrder.le_antisymm _ _ hab hba)

theorem Cell.le_trans {a b c : Cell} (hab : a.le b = true) (hbc : b.le c = true) :
    a.le c = true := by
  cases a <;> cases b <;> cases c <;> simp [Cell.le] at hab hbc ⊢
  · exact Preorder.le_trans _ _ _ hab hbc
  · exact Preorder.le_trans _ _ _ hab hbc

/-- NULL first, then numbers, then texts. -/
instance : LinearOrder Cell where
  le a b := a.le b = true
  le_refl a := (a.le_total a).elim id id
  le_trans _ _ _ := Cell.le_trans
  le_antisymm _ _ := Cell.le_antisymm
  le_total := Cell.le_total
  toDecidableLE _ _ := inferInstanceAs (Decidable (_ = true))

/-- All aggregates skip NULL; over no value COUNT is 0 and the others NULL. -/
def Aggregate.eval (E : Engine) (a : Aggregate) (cells : List Cell) : Cell :=
  let present := nonNull cells
  match a with
  | .count => .number present.length
  | .countDistinct => .number present.dedup.length
  | .sum => if present = [] then .null else .number (present.map (Cell.toNumber E)).sum
  | .avg =>
    if present = [] then .null
    else .number ((present.map (Cell.toNumber E)).sum / present.length)
  | .min => present.min?.getD .null
  | .max => present.max?.getD .null

/-- An output over one group of joined rows. -/
def Output.eval (E : Engine) (group : List Env) : Output → Cell
  | .plain e => e.eval E (E.pick group)
  | .aggregate a e => a.eval E (group.map (fun env => e.eval E env))

namespace Select

/-- The groups that become result rows: single rows without GROUP BY, one group
of everything for an empty GROUP BY list. -/
def units (E : Engine) (s : Select) (rows : List Env) : List (List Env) :=
  match s.groupBy with
  | none => rows.map (fun env => [env])
  | some [] => [rows]
  | some keys => groupsBy (fun env => keys.map (fun e => e.eval E env)) rows

/-- Lexicographic comparison under the ORDER BY list; `true` in a key is DESC. -/
def precedes (keys : List Bool) (a b : List Cell) : Bool :=
  match keys, a, b with
  | desc :: keys, x :: a, y :: b =>
    if x = y then precedes keys a b else if desc then Cell.le y x else Cell.le x y
  | _, _, _ => true

def outputRow (E : Engine) (s : Select) (group : List Env) : List Cell :=
  s.columns.map (fun c => c.body.eval E group)

/-- The result rows before ORDER BY and LIMIT. -/
def selected (E : Engine) (tables : Contents) (s : Select) : List (List Cell) :=
  (s.units E (s.sourceRows E tables)).map (s.outputRow E)

/-- The whole statement; `none` when the database refuses it. -/
def run (E : Engine) (tables : Contents) (s : Select) : Option (List (List Cell)) :=
  if s.fromAccepted && 0 ≤ s.limit then
    let keyed := (s.units E (s.sourceRows E tables)).map (fun group =>
      (s.orderBy.map (fun o => o.1.eval E group), s.outputRow E group))
    let sorted := keyed.mergeSort (fun a b => precedes (s.orderBy.map Prod.snd) a.1 b.1)
    some ((sorted.map Prod.snd).take s.limit.toNat)
  else none

end Select
end XpBuilder.Sql
