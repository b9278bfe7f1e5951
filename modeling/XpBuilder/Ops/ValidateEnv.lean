import Mathlib.Algebra.GroupWithZero.Nat
import XpBuilder.Ops.EffectiveEnv

/-! The checks that a deployment's `.env` has to pass before anything is done with it. -/

namespace XpBuilder.Ops.ValidateEnv

/-- The file by its path, its permissions in octal digits and its text. -/
structure EnvFile where
  path : String
  mode : Nat
  text : List Char

/-- `sed -n "s/^${key}=//p" | tail -1`, without the NUL bytes that the shell leaves out -/
def valueOf (f : EnvFile) (key : String) : List Char :=
  let found := (lines f.text).filterMap (fun line =>
    if key.toList ++ ['='] <+: line then some (line.drop (key.toList.length + 1)) else none)
  (found.getLast?.getD []).filter (· ≠ Char.ofNat 0)

def requiredKeys : List String :=
  ["XPBUILDER_INSTANCE", "XPBUILDER_HOST_PORT", "XPBUILDER_INTERNAL_NETWORK", "XPBUILDER_METADATA_VOLUME",
    "XPBUILDER_REDIS_VOLUME", "XPBUILDER_VOLUMES_EXTERNAL", "XPBUILDER_ALLOWED_ORIGINS", "POSTGRES_USER",
    "POSTGRES_PASSWORD", "POSTGRES_DB", "SUPERSET_REDIS_PASSWORD", "SUPERSET_SECRET_KEY", "GUEST_TOKEN_JWT_SECRET",
    "GUEST_TOKEN_JWT_AUDIENCE", "SUPERSET_ADMIN_USERNAME", "SUPERSET_ADMIN_PASSWORD", "SUPERSET_ADMIN_FIRSTNAME",
    "SUPERSET_ADMIN_LASTNAME", "SUPERSET_ADMIN_EMAIL", "XPBUILDER_MARIADB_VOLUME", "XPBUILDER_PHPMYADMIN_HOST_PORT",
    "MARIADB_DATABASE", "MARIADB_USER", "MARIADB_PASSWORD", "MARIADB_ROOT_PASSWORD", "PHPMYADMIN_CONTROL_DATABASE",
    "PHPMYADMIN_CONTROL_USER", "PHPMYADMIN_CONTROL_PASSWORD"]

def secretKeys : List String := ["POSTGRES_PASSWORD", "SUPERSET_REDIS_PASSWORD", "SUPERSET_SECRET_KEY",
  "GUEST_TOKEN_JWT_SECRET", "PHPMYADMIN_CONTROL_PASSWORD"]

def humanSecretKeys : List String := ["SUPERSET_ADMIN_PASSWORD", "MARIADB_PASSWORD", "MARIADB_ROOT_PASSWORD"]

/-- `^[a-z][a-z0-9_-]*$` -/
def isInstance (text : List Char) : Bool :=
  text.head?.any Char.isLower && text.all (fun c => c.isLower || c.isDigit || c = '_' || c = '-')

/-- `^[0-9]+$` -/
def isNumeric (text : List Char) : Bool := text ≠ [] && text.all Char.isDigit

/-- `^[A-Za-z0-9_]+$` -/
def isDatabaseName (text : List Char) : Bool := text ≠ [] && text.all isWord

/-- `^[A-Za-z0-9_.-]+$` -/
def isUserName (text : List Char) : Bool := text ≠ [] && text.all (fun c => isWord c || c = '.' || c = '-')

/-- `[[:space:]]` -/
def isSpace (c : Char) : Bool := c ∈ [' ', '\t', '\n', '\r', Char.ofNat 11, Char.ofNat 12]

/-- `^https?://[^[:space:]]*/$` -/
def isUrl (text : List Char) : Bool :=
  ["http://".toList, "https://".toList].any (fun scheme => scheme <+: text &&
    (text.drop scheme.length).getLast? = some '/' && (text.drop scheme.length).all (fun c => !isSpace c))

def decimal (digits : List Char) : Nat := digits.foldl (fun n c => 10 * n + (c.toNat - 48)) 0

/-- `[ "$port" -lt 1 ] || [ "$port" -gt 65535 ]`, which fails for what is no machine integer -/
def isOutside (port : List Char) : Bool :=
  decimal port < 2 ^ 63 && (decimal port < 1 || 65535 < decimal port)

/-- A check, and the error of the run that it ends. -/
structure Check where
  passed : Bool
  error : String

section
variable (f : EnvFile)

def otherBits : Nat := f.mode % 10

def groupBits : Nat := f.mode / 10 % 10

def basename : List Char := ((f.path.toList.reverse.takeWhile (· ≠ '/'))).reverse

def missingKeys : List String := requiredKeys.filter (fun key => valueOf f key = [])

def keys : List (List Char) := (lines f.text).filterMap assignedKey

/-- The least lengths of secrets; those of adopted volumes may be of any length. -/
def infraMinLen : Nat := if valueOf f "XPBUILDER_VOLUMES_EXTERNAL" = "true".toList then 1 else 16

def humanMinLen : Nat := if valueOf f "XPBUILDER_VOLUMES_EXTERNAL" = "true".toList then 1 else 8

def minLength (floor : Nat) (key : String) : Check :=
  ⟨floor ≤ (valueOf f key).length, "ERROR: " ++ key ++ " must contain at least " ++ toString floor ++ " characters"⟩

def fileChecks (allowGroupEnv : Bool) : List Check :=
  [⟨basename f = ".env".toList, "ERROR: configuration file must be named exactly .env"⟩,
    ⟨otherBits f = 0, "ERROR: " ++ f.path ++ " must not be readable or writable by other users (use chmod 600)"⟩,
    ⟨groupBits f = 0 || allowGroupEnv, "ERROR: " ++ f.path ++ " (mode " ++ toString f.mode ++
      ") is accessible to its group; secrets must stay private"⟩,
    ⟨(keys f).Nodup, "ERROR: duplicate keys in " ++ f.path⟩,
    ⟨missingKeys f = [], "ERROR: missing required .env keys: " ++ " ".intercalate (missingKeys f)⟩]

def siteChecks : List Check :=
  [⟨isInstance (valueOf f "XPBUILDER_INSTANCE"), "ERROR: XPBUILDER_INSTANCE must match ^[a-z][a-z0-9_-]*$"⟩,
    ⟨isNumeric (valueOf f "XPBUILDER_HOST_PORT"), "ERROR: XPBUILDER_HOST_PORT must be numeric"⟩,
    ⟨!isOutside (valueOf f "XPBUILDER_HOST_PORT"), "ERROR: configured port is outside 1-65535"⟩,
    ⟨valueOf f "XPBUILDER_VOLUMES_EXTERNAL" = "true".toList || valueOf f "XPBUILDER_VOLUMES_EXTERNAL" = "false".toList,
      "ERROR: XPBUILDER_VOLUMES_EXTERNAL must be true or false"⟩,
    ⟨'*' ∉ valueOf f "XPBUILDER_ALLOWED_ORIGINS",
      "ERROR: XPBUILDER_ALLOWED_ORIGINS must list explicit origins; wildcard is forbidden"⟩]

def mariadbChecks : List Check :=
  [⟨isDatabaseName (valueOf f "MARIADB_DATABASE"),
      "ERROR: MARIADB_DATABASE must contain only letters, digits, and underscores"⟩,
    ⟨isUserName (valueOf f "MARIADB_USER"),
      "ERROR: MARIADB_USER must contain only letters, digits, dot, dash, and underscore"⟩,
    ⟨isDatabaseName (valueOf f "PHPMYADMIN_CONTROL_DATABASE"),
      "ERROR: PHPMYADMIN_CONTROL_DATABASE must contain only letters, digits, and underscores"⟩,
    ⟨isUserName (valueOf f "PHPMYADMIN_CONTROL_USER"),
      "ERROR: PHPMYADMIN_CONTROL_USER must contain only letters, digits, dot, dash, and underscore"⟩,
    ⟨valueOf f "PHPMYADMIN_CONTROL_DATABASE" ≠ valueOf f "MARIADB_DATABASE",
      "ERROR: PHPMYADMIN_CONTROL_DATABASE must differ from MARIADB_DATABASE"⟩,
    ⟨isNumeric (valueOf f "XPBUILDER_PHPMYADMIN_HOST_PORT"), "ERROR: XPBUILDER_PHPMYADMIN_HOST_PORT must be numeric"⟩,
    ⟨!isOutside (valueOf f "XPBUILDER_PHPMYADMIN_HOST_PORT"),
      "ERROR: XPBUILDER_PHPMYADMIN_HOST_PORT is outside 1-65535"⟩,
    ⟨valueOf f "XPBUILDER_PHPMYADMIN_HOST_PORT" ≠ valueOf f "XPBUILDER_HOST_PORT",
      "ERROR: XPBUILDER_PHPMYADMIN_HOST_PORT must differ from XPBUILDER_HOST_PORT"⟩,
    ⟨valueOf f "XPBUILDER_PHPMYADMIN_URL" = [] || isUrl (valueOf f "XPBUILDER_PHPMYADMIN_URL"),
      "ERROR: XPBUILDER_PHPMYADMIN_URL must be an http(s) URL ending in /"⟩]

def secretChecks : List Check :=
  secretKeys.map (minLength f (infraMinLen f)) ++ humanSecretKeys.map (minLength f (humanMinLen f)) ++
  [⟨valueOf f "PHPMYADMIN_CONTROL_PASSWORD" ≠ valueOf f "MARIADB_ROOT_PASSWORD" &&
      valueOf f "PHPMYADMIN_CONTROL_PASSWORD" ≠ valueOf f "MARIADB_PASSWORD",
      "ERROR: PHPMYADMIN_CONTROL_PASSWORD must differ from the MariaDB passwords"⟩,
    ⟨valueOf f "SUPERSET_SECRET_KEY" ≠ valueOf f "GUEST_TOKEN_JWT_SECRET",
      "ERROR: SUPERSET_SECRET_KEY and GUEST_TOKEN_JWT_SECRET must be different"⟩]

def checks (allowGroupEnv : Bool) : List Check :=
  fileChecks f allowGroupEnv ++ siteChecks f ++ mariadbChecks f ++ secretChecks f

/-- `validate-env.sh`: the first check that fails ends the run. -/
def validateEnv (allowGroupEnv : Bool) : Except String Unit :=
  match (checks f allowGroupEnv).find? (fun check => !check.passed) with
  | some check => .error check.error
  | none => .ok ()

end

theorem validateEnv_eq_ok {f : EnvFile} {allowGroupEnv : Bool} :
    validateEnv f allowGroupEnv = .ok () ↔ ∀ check ∈ checks f allowGroupEnv, check.passed := by
  unfold validateEnv
  cases found : (checks f allowGroupEnv).find? (fun check => !check.passed) with
  | none => simpa using found
  | some check =>
    have fails := List.find?_some found
    simp only [reduceCtorEq, false_iff, not_forall]
    exact ⟨check, List.mem_of_find?_eq_some found, by simpa using fails⟩

/-- The names that an accepted file gives to databases and accounts. -/
structure Names (f : EnvFile) : Prop where
  mariadbDatabase : isDatabaseName (valueOf f "MARIADB_DATABASE")
  mariadbUser : isUserName (valueOf f "MARIADB_USER")
  controlDatabase : isDatabaseName (valueOf f "PHPMYADMIN_CONTROL_DATABASE")
  controlUser : isUserName (valueOf f "PHPMYADMIN_CONTROL_USER")
  apart : valueOf f "PHPMYADMIN_CONTROL_DATABASE" ≠ valueOf f "MARIADB_DATABASE"

theorem names_of_accepted {f : EnvFile} {allowGroupEnv : Bool} (accepted : validateEnv f allowGroupEnv = .ok ()) :
    Names f := by
  have each := validateEnv_eq_ok.mp accepted
  have mariadb : ∀ check ∈ mariadbChecks f, check.passed := by
    intro check mem
    exact each check (List.mem_append_left _ (List.mem_append_right _ mem))
  simp only [mariadbChecks, List.forall_mem_cons, decide_eq_true_eq] at mariadb
  obtain ⟨database, user, control, controlUser, apart, -⟩ := mariadb
  exact ⟨database, user, control, controlUser, apart⟩

/-! ## Values are on one line -/

theorem not_mem_lines (text : List Char) : ∀ line ∈ lines text, '\n' ∉ line := by
  induction text with
  | nil => simp [lines]
  | cons c cs ih =>
    by_cases newline : c = '\n'
    · simpa [lines, newline] using ih
    · cases following : lines cs with
      | nil => simpa [lines, newline, following] using Ne.symm newline
      | cons line rest =>
        rw [following, List.forall_mem_cons] at ih
        simpa [lines, newline, following, Ne.symm newline] using ih

theorem newline_not_mem_valueOf (f : EnvFile) (key : String) : '\n' ∉ valueOf f key := by
  unfold valueOf
  intro mem
  have inside := List.mem_of_mem_filter mem
  cases last : ((lines f.text).filterMap (fun line =>
      if key.toList ++ ['='] <+: line then some (line.drop (key.toList.length + 1)) else none)).getLast? with
  | none => simp [last] at inside
  | some value =>
    have found := List.mem_of_getLast? last
    obtain ⟨line, there, shape⟩ := List.mem_filterMap.mp found
    split_ifs at shape
    rw [last, Option.getD_some, ← Option.some.inj shape] at inside
    exact not_mem_lines f.text line there (List.mem_of_mem_drop inside)

end XpBuilder.Ops.ValidateEnv
