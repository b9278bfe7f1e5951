import Mathlib.Data.List.Infix
import Mathlib.Logic.Function.Basic
import XpBuilder.Library.SqlTokens

/-! Accounts of a MariaDB server with their passwords and privileges, and the statements
that change them. A grant on databases names them by a pattern. Administrative privileges,
which reach into no database, are left out. -/

namespace XpBuilder.Accounts
open SqlTokens

structure Account where
  user : List Char
  host : List Char
  deriving DecidableEq, Repr

/-- Where privileges hold. -/
inductive Scope where
  | everywhere
  | databases (pattern : List Char)
  | table (database name : List Char)
  deriving DecidableEq, Repr

/-- A percent sign stands for any characters, an underscore for one, and a backslash takes
the next character as it is. -/
def matchesPattern : List Char → List Char → Bool
  | [], text => text = []
  | '\\' :: p :: ps, text => text.head? = some p && matchesPattern ps text.tail
  | '%' :: ps, text => text.tails.any (matchesPattern ps)
  | '_' :: ps, text => text.head?.isSome && matchesPattern ps text.tail
  | p :: ps, text => text.head? = some p && matchesPattern ps text.tail

def Scope.reaches : Scope → List Char → Bool
  | .everywhere, _ => true
  | .databases pattern, database => matchesPattern pattern database
  | .table within _, database => within = database

structure Grant where
  privileges : List (List Char)
  scope : Scope
  deriving DecidableEq, Repr

structure Login where
  password : List Char
  grants : List Grant
  deriving DecidableEq, Repr

abbrev State := Account → Option Login

def Login.reaches (login : Login) (database : List Char) : Bool :=
  login.grants.any (fun g => g.privileges ≠ [] && g.scope.reaches database)

/-- Some right on something in a database. -/
def hasRight (s : State) (account : Account) (database : List Char) : Bool :=
  (s account).any (fun login => login.reaches database)

/-! ## Statements -/

inductive Statement where
  | createUser (ifNotExists : Bool) (account : Account) (password : List Char)
  | alterUser (account : Account) (password : List Char)
  | grant (privileges : List (List Char)) (databases : List Char) (account : Account)
  | flushPrivileges
  deriving DecidableEq, Repr

def words (ws : List String) : List Token := ws.map (fun w => .word w.toList)

def Account.tokens (a : Account) : List Token := [.text a.user, .mark '@', .text a.host]

/-- A statement as the tokens it is written with. -/
def Statement.tokens : Statement → List Token
  | .createUser ifNotExists account password =>
    words ["CREATE", "USER"] ++ (if ifNotExists then words ["IF", "NOT", "EXISTS"] else []) ++ account.tokens ++
      words ["IDENTIFIED", "BY"] ++ [.text password]
  | .alterUser account password =>
    words ["ALTER", "USER"] ++ account.tokens ++ words ["IDENTIFIED", "BY"] ++ [.text password]
  | .grant privileges databases account =>
    words ["GRANT"] ++ (privileges.map Token.word).intersperse (.mark ',') ++
      words ["ON"] ++ [.name databases, .mark '.', .mark '*'] ++ words ["TO"] ++ account.tokens
  | .flushPrivileges => words ["FLUSH", "PRIVILEGES"]

/-- A script says these statements and nothing else. -/
def Says (script : List Char) (statements : List Statement) : Prop :=
  SqlTokens.tokens script = some (statements.flatMap (fun s => s.tokens ++ [.mark ';']))

def exec (s : State) : Statement → Except String State
  | .createUser ifNotExists account password =>
    match s account with
    | some _ => if ifNotExists then .ok s else .error "Operation CREATE USER failed"
    | none => .ok (Function.update s account (some ⟨password, []⟩))
  | .alterUser account password =>
    match s account with
    | some login => .ok (Function.update s account (some { login with password }))
    | none => .error "Operation ALTER USER failed"
  | .grant privileges databases account =>
    match s account with
    | some login =>
      .ok (Function.update s account (some { login with grants := login.grants ++ [⟨privileges, .databases databases⟩] }))
    | none => .error "Can't find any matching row in the user table"
  | .flushPrivileges => .ok s

def execAll (s : State) (statements : List Statement) : Except String State := statements.foldlM exec s

/-! ## What statements leave -/

theorem execAll_cons {s after : State} {statement : Statement} (ran : exec s statement = .ok after)
    (rest : List Statement) : execAll s (statement :: rest) = execAll after rest := by
  unfold execAll
  rw [List.foldlM_cons, ran]
  rfl

/-- An account is there after its creation, with the password it had or the new one. -/
theorem exec_createUser (s : State) (account : Account) (password : List Char) :
    exec s (.createUser true account password) =
      .ok (Function.update s account (some ((s account).getD ⟨password, []⟩))) := by
  cases there : s account with
  | none => simp [exec, there]
  | some login =>
    have same : Function.update s account (some login) = s := by
      rw [← there]
      exact Function.update_eq_self account s
    simp [exec, there, same]

theorem exec_alterUser {s : State} {account : Account} {login : Login} (there : s account = some login)
    (password : List Char) :
    exec s (.alterUser account password) = .ok (Function.update s account (some { login with password })) := by
  simp [exec, there]

theorem exec_grant {s : State} {account : Account} {login : Login} (there : s account = some login)
    (privileges : List (List Char)) (databases : List Char) : exec s (.grant privileges databases account) =
      .ok (Function.update s account
        (some { login with grants := login.grants ++ [⟨privileges, .databases databases⟩] })) := by
  simp [exec, there]

theorem hasRight_update_ne {s : State} {account other : Account} (apart : other ≠ account) (login : Option Login)
    (database : List Char) : hasRight (Function.update s account login) other database = hasRight s other database := by
  simp [hasRight, apart]

/-- A new account has no rights, as one that is not there. -/
theorem reaches_getD (s : State) (account : Account) (password database : List Char) :
    ((s account).getD ⟨password, []⟩).reaches database = hasRight s account database := by
  cases there : s account with
  | none => simp [hasRight, there, Login.reaches]
  | some login => simp [hasRight, there]

/-- Only the grants of an account count. -/
theorem reaches_append (password : List Char) (grants more : List Grant) (database : List Char) :
    (Login.mk password (grants ++ more)).reaches database =
      ((Login.mk password grants).reaches database || (Login.mk password more).reaches database) := by
  simp [Login.reaches]

/-- A pattern without special characters matches itself only. -/
theorem matchesPattern_plain {pattern : List Char} (plain : ∀ c ∈ pattern, c ≠ '\\' ∧ c ≠ '%' ∧ c ≠ '_')
    (text : List Char) : matchesPattern pattern text = decide (text = pattern) := by
  induction pattern generalizing text with
  | nil => rfl
  | cons c cs ih =>
    rw [List.forall_mem_cons] at plain
    obtain ⟨⟨slash, percent, underscore⟩, rest⟩ := plain
    rw [matchesPattern]
    · cases text with
      | nil => simp
      | cons d ds => simp [ih rest]
    all_goals simp [slash, percent, underscore]

/-- A pattern without a backslash matches itself. -/
theorem matchesPattern_self {pattern : List Char} (plain : '\\' ∉ pattern) : matchesPattern pattern pattern := by
  induction pattern with
  | nil => rfl
  | cons c cs ih =>
    rw [List.mem_cons, not_or] at plain
    have rest := ih plain.2
    by_cases percent : c = '%'
    · rw [percent, matchesPattern, List.any_eq_true]
      have tail : cs ∈ List.tails ('%' :: cs) := (List.mem_tails _ _).mpr (List.suffix_cons '%' cs)
      exact ⟨cs, tail, rest⟩
    · by_cases underscore : c = '_'
      · simp [underscore, matchesPattern, rest]
      · have slash : c ≠ '\\' := Ne.symm plain.1
        rw [matchesPattern]
        · simp [rest]
        all_goals simp [percent, underscore, slash]

end XpBuilder.Accounts
