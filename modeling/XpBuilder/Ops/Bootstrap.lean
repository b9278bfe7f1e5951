import XpBuilder.Library.Lists
import XpBuilder.Ops.EnvKeys

/-! The first `.env` of a deployment, as `bootstrap-env.sh` writes it from its arguments, and
whether it passes the validation. -/

namespace XpBuilder.Ops.Bootstrap
open ValidateEnv

/-! ## Arguments -/

/-- An argument of a process has no NUL in it. -/
abbrev Argument := {text : List Char // Char.ofNat 0 ∉ text}

structure Options where
  envFile : Argument
  inst : Argument
  hostPort : Argument
  phpmyadminPort : Argument
  allowedOrigins : Argument

/-- What the script finds on the machine. -/
structure Machine where
  root : Argument
  envExists : List Char → Bool
  hasOpenssl : Bool

def noText : Argument := ⟨[], by simp⟩

/-- The options before any argument is read. -/
def defaults (m : Machine) : Options where
  envFile := ⟨m.root.1 ++ "/.env".toList, by simpa using m.root.2⟩
  inst := noText
  hostPort := ⟨"8088".toList, by simp⟩
  phpmyadminPort := noText
  allowedOrigins := noText

def usage : String := "Usage: bootstrap-env.sh --instance NAME [options]\n" ++
  "Options: --env-file /path/.env --host-port PORT --allowed-origins CSV\n" ++
  "         --phpmyadmin-port PORT (default: host port + 1)"

def setOption (o : Options) (name value : Argument) : Option Options :=
  if name.1 = "--env-file".toList then some { o with envFile := value }
  else if name.1 = "--instance".toList then some { o with inst := value }
  else if name.1 = "--host-port".toList then some { o with hostPort := value }
  else if name.1 = "--allowed-origins".toList then some { o with allowedOrigins := value }
  else if name.1 = "--phpmyadmin-port".toList then some { o with phpmyadminPort := value }
  else none

/-- The loop over the arguments. An option without a value fails at its `shift 2`, silently. -/
def parseArgs (o : Options) : List Argument → Except String Options
  | [] => .ok o
  | [name] => .error (if (setOption o name noText).isSome then "" else usage)
  | name :: value :: rest =>
    match setOption o name value with
    | some o' => parseArgs o' rest
    | none => .error usage

/-! ## Ports -/

def octal (digits : List Char) : Nat := digits.foldl (fun n c => 8 * n + (c.toNat - 48)) 0

/-- A whole number in the arithmetic of the shell. -/
def wrapped (n : Nat) : Int := (n : Int).bmod (2 ^ 64)

/-- `$((host_port + 1))`, where a zero in front makes the digits octal -/
def nextPort (hostPort : List Char) : Option (List Char) :=
  if hostPort.head? = some '0' then
    if hostPort.all (fun c => c.toNat < 56) then some (toString (wrapped (octal hostPort + 1))).toList else none
  else some (toString (wrapped (decimal hostPort + 1))).toList

def phpmyadminPort (o : Options) : Option (List Char) :=
  if o.phpmyadminPort.1 = [] then nextPort o.hostPort.1 else some o.phpmyadminPort.1

/-- `[ "$a" -eq "$b" ]`, which fails for what is no machine integer -/
def samePort (a b : List Char) : Bool := decimal a < 2 ^ 63 && decimal b < 2 ^ 63 && decimal a = decimal b

/-! ## The file -/

/-- The output of `openssl rand -hex`. -/
structure IsSecret (size : Nat) (text : List Char) : Prop where
  length : text.length = 2 * size
  hex : text.all (fun c => c.isDigit || ('a' ≤ c && c ≤ 'f'))

structure Secrets where
  postgresPassword : List Char
  redisPassword : List Char
  supersetSecret : List Char
  guestSecret : List Char
  adminPassword : List Char
  mariadbPassword : List Char
  mariadbRootPassword : List Char
  controlPassword : List Char
  postgres : IsSecret 24 postgresPassword
  redis : IsSecret 24 redisPassword
  superset : IsSecret 32 supersetSecret
  guest : IsSecret 32 guestSecret
  admin : IsSecret 18 adminPassword
  mariadb : IsSecret 18 mariadbPassword
  mariadbRoot : IsSecret 24 mariadbRootPassword
  control : IsSecret 24 controlPassword
  distinct : [postgresPassword, redisPassword, supersetSecret, guestSecret, adminPassword, mariadbPassword,
    mariadbRootPassword, controlPassword].Nodup

/-- `cat "$root/VERSION"` -/
def version : List Char := "0.1.0".toList

def originsOf (o : Options) : List Char :=
  if o.allowedOrigins.1 = [] then
    "http://localhost:".toList ++ o.hostPort.1 ++ ",https://localhost:".toList ++ o.hostPort.1
  else o.allowedOrigins.1

section Entries
variable (o : Options) (port : List Char) (s : Secrets)

def entriesBefore : List (String × List Char) :=
  [("XPBUILDER_VERSION", version), ("XPBUILDER_IMAGE", "kot-xpbuilder:local".toList),
    ("XPBUILDER_INSTANCE", o.inst.1), ("XPBUILDER_HOST_PORT", o.hostPort.1),
    ("XPBUILDER_INTERNAL_NETWORK", o.inst.1 ++ "_xpbuilder_internal".toList),
    ("XPBUILDER_METADATA_VOLUME", o.inst.1 ++ "_xpbuilder_metadata".toList),
    ("XPBUILDER_REDIS_VOLUME", o.inst.1 ++ "_xpbuilder_redis".toList),
    ("XPBUILDER_MARIADB_VOLUME", o.inst.1 ++ "_xpbuilder_mariadb".toList),
    ("XPBUILDER_VOLUMES_EXTERNAL", "false".toList)]

def entriesAfter : List (String × List Char) :=
  [("XPBUILDER_APP_NAME", "XP Builder".toList), ("XPBUILDER_BRAND_URL", []),
    ("XPBUILDER_ALLOW_INITIALIZE", "yes".toList), ("XPBUILDER_ALLOW_SCHEMA_UPGRADE", "no".toList),
    ("XPBUILDER_ALLOW_RESTORE", "no".toList), ("XPBUILDER_ENABLE_FILE_UPLOADS", "yes".toList),
    ("XPBUILDER_UPLOAD_DB_NAME", "File uploads".toList), ("MARIADB_DATABASE", "xpbuilder".toList),
    ("MARIADB_USER", "xpbuilder".toList), ("MARIADB_PASSWORD", s.mariadbPassword),
    ("MARIADB_ROOT_PASSWORD", s.mariadbRootPassword), ("PHPMYADMIN_CONTROL_DATABASE", "phpmyadmin".toList),
    ("PHPMYADMIN_CONTROL_USER", "pma".toList), ("PHPMYADMIN_CONTROL_PASSWORD", s.controlPassword),
    ("XPBUILDER_PHPMYADMIN_HOST_PORT", port), ("XPBUILDER_PHPMYADMIN_URL", []), ("POSTGRES_USER", "xpbuilder".toList),
    ("POSTGRES_PASSWORD", s.postgresPassword), ("POSTGRES_DB", "xpbuilder".toList),
    ("SUPERSET_REDIS_PASSWORD", s.redisPassword), ("SUPERSET_SECRET_KEY", s.supersetSecret),
    ("GUEST_TOKEN_JWT_SECRET", s.guestSecret),
    ("GUEST_TOKEN_JWT_AUDIENCE", "http://localhost:".toList ++ o.hostPort.1),
    ("SUPERSET_ADMIN_USERNAME", "superset_admin".toList), ("SUPERSET_ADMIN_PASSWORD", s.adminPassword),
    ("SUPERSET_ADMIN_FIRSTNAME", "XPBuilder".toList), ("SUPERSET_ADMIN_LASTNAME", "Administrator".toList),
    ("SUPERSET_ADMIN_EMAIL", "xpbuilder-admin@mailinator.com".toList), ("SUPERSET_LOG_LEVEL", "INFO".toList)]

/-- What the block of `printf` writes. -/
def entries : List (String × List Char) :=
  entriesBefore o ++ ("XPBUILDER_ALLOWED_ORIGINS", originsOf o) :: entriesAfter o port s

end Entries

def pathName (path : List Char) : List Char := (path.reverse.takeWhile (· ≠ '/')).reverse

/-- `bootstrap-env.sh` with the secrets that it draws -/
def bootstrapEnv (m : Machine) (args : List Argument) (s : Secrets) : Except String EnvFile := do
  let o ← parseArgs (defaults m) args
  if pathName o.envFile.1 ≠ ".env".toList then throw "ERROR: the configuration file must be named exactly .env"
  else if o.inst.1 = [] then throw usage
  else if !isInstance o.inst.1 || !isNumeric o.hostPort.1 then throw "ERROR: invalid instance or port"
  else match phpmyadminPort o with
  | none => throw "value too great for base"
  | some port =>
    if !isNumeric port || isOutside port || samePort port o.hostPort.1 then throw "ERROR: invalid phpMyAdmin port"
    else if m.envExists o.envFile.1 then
      throw ("ERROR: refusing to overwrite existing " ++ String.ofList o.envFile.1)
    else if !m.hasOpenssl then throw "ERROR: openssl is required to generate deployment secrets"
    else pure ⟨String.ofList o.envFile.1, 600, envText (entries o port s)⟩

/-- The keys that the script writes. -/
def writtenKeys : List String :=
  ["XPBUILDER_VERSION", "XPBUILDER_IMAGE", "XPBUILDER_INSTANCE", "XPBUILDER_HOST_PORT", "XPBUILDER_INTERNAL_NETWORK",
    "XPBUILDER_METADATA_VOLUME", "XPBUILDER_REDIS_VOLUME", "XPBUILDER_MARIADB_VOLUME", "XPBUILDER_VOLUMES_EXTERNAL",
    "XPBUILDER_ALLOWED_ORIGINS", "XPBUILDER_APP_NAME", "XPBUILDER_BRAND_URL", "XPBUILDER_ALLOW_INITIALIZE",
    "XPBUILDER_ALLOW_SCHEMA_UPGRADE", "XPBUILDER_ALLOW_RESTORE", "XPBUILDER_ENABLE_FILE_UPLOADS",
    "XPBUILDER_UPLOAD_DB_NAME", "MARIADB_DATABASE", "MARIADB_USER", "MARIADB_PASSWORD", "MARIADB_ROOT_PASSWORD",
    "PHPMYADMIN_CONTROL_DATABASE", "PHPMYADMIN_CONTROL_USER", "PHPMYADMIN_CONTROL_PASSWORD",
    "XPBUILDER_PHPMYADMIN_HOST_PORT", "XPBUILDER_PHPMYADMIN_URL", "POSTGRES_USER", "POSTGRES_PASSWORD", "POSTGRES_DB",
    "SUPERSET_REDIS_PASSWORD", "SUPERSET_SECRET_KEY", "GUEST_TOKEN_JWT_SECRET", "GUEST_TOKEN_JWT_AUDIENCE",
    "SUPERSET_ADMIN_USERNAME", "SUPERSET_ADMIN_PASSWORD", "SUPERSET_ADMIN_FIRSTNAME", "SUPERSET_ADMIN_LASTNAME",
    "SUPERSET_ADMIN_EMAIL", "SUPERSET_LOG_LEVEL"]

/-- Arguments whose file passes: the host port is in range or no machine integer, the ports are
not given as one text, the origins begin with a line that lists them, and their further lines
assign keys that are not written, each once. -/
structure Bootable (o : Options) : Prop where
  hostPort : decimal o.hostPort.1 < 2 ^ 63 → 1 ≤ decimal o.hostPort.1 ∧ decimal o.hostPort.1 ≤ 65535
  ports : o.phpmyadminPort.1 ≠ o.hostPort.1
  listed : o.allowedOrigins.1 ≠ [] → firstLine o.allowedOrigins.1 ≠ []
  noWildcard : '*' ∉ firstLine o.allowedOrigins.1
  once : (furtherKeys o.allowedOrigins.1).Nodup
  unwritten : ∀ key ∈ furtherKeys o.allowedOrigins.1, key ∉ writtenKeys.map String.toList

/-! ## What a run leaves -/

/-- The file of a run that succeeds, and what its options passed. -/
structure Ran (o : Options) (port : List Char) (s : Secrets) (f : EnvFile) : Prop where
  chosen : phpmyadminPort o = some port
  name : pathName o.envFile.1 = ".env".toList
  inst : isInstance o.inst.1
  hostPort : isNumeric o.hostPort.1
  numeric : isNumeric port
  inside : isOutside port = false
  apart : samePort port o.hostPort.1 = false
  file : f = ⟨String.ofList o.envFile.1, 600, envText (entries o port s)⟩

theorem ran_of_ok {m : Machine} {args : List Argument} {s : Secrets} {o : Options} {f : EnvFile}
    (parsed : parseArgs (defaults m) args = .ok o) (ran : bootstrapEnv m args s = .ok f) : ∃ port, Ran o port s f := by
  unfold bootstrapEnv at ran
  rw [parsed] at ran
  dsimp only [bind, Except.bind] at ran
  by_cases name : pathName o.envFile.1 = ".env".toList
  swap
  · rw [if_pos name] at ran
    cases ran
  rw [if_neg (not_not.mpr name)] at ran
  by_cases noInstance : o.inst.1 = []
  · rw [if_pos noInstance] at ran
    cases ran
  rw [if_neg noInstance] at ran
  cases refused : !isInstance o.inst.1 || !isNumeric o.hostPort.1 with
  | true =>
    rw [refused] at ran
    cases ran
  | false =>
    rw [refused] at ran
    rw [Bool.or_eq_false_iff, Bool.not_eq_false', Bool.not_eq_false'] at refused
    cases chosen : phpmyadminPort o with
    | none =>
      rw [chosen] at ran
      cases ran
    | some port =>
      rw [chosen] at ran
      cases wrong : !isNumeric port || isOutside port || samePort port o.hostPort.1 with
      | true =>
        simp only [wrong] at ran
        cases ran
      | false =>
        simp only [wrong] at ran
        rw [Bool.or_eq_false_iff, Bool.or_eq_false_iff, Bool.not_eq_false'] at wrong
        cases there : m.envExists o.envFile.1 with
        | true =>
          simp only [there] at ran
          cases ran
        | false =>
          simp only [there] at ran
          cases openssl : m.hasOpenssl with
          | false =>
            simp only [openssl] at ran
            cases ran
          | true =>
            simp only [openssl] at ran
            exact ⟨port, chosen, name, refused.1, refused.2, wrong.1.1, wrong.1.2, wrong.2, (Except.ok.inj ran).symm⟩

/-! ## Keys and values -/

def isPlain (value : List Char) : Bool := value.all (fun c => c ≠ '\n' && c ≠ Char.ofNat 0)

theorem isPlain_append (a b : List Char) : isPlain (a ++ b) = (isPlain a && isPlain b) := List.all_append

theorem isPlain_of_all {value : List Char} {p : Char → Bool} (all : value.all p = true)
    (excluded : p '\n' = false ∧ p (Char.ofNat 0) = false) : isPlain value := by
  unfold isPlain
  rw [List.all_eq_true] at all ⊢
  intro c mem
  have allowed := all c mem
  rw [Bool.and_eq_true, decide_eq_true_eq, decide_eq_true_eq]
  constructor
  · rintro rfl
    rw [excluded.1] at allowed
    cases allowed
  · rintro rfl
    rw [excluded.2] at allowed
    cases allowed

theorem isPlain_instance {value : List Char} (valid : isInstance value) : isPlain value := by
  rw [isInstance, Bool.and_eq_true] at valid
  exact isPlain_of_all valid.2 (by decide)

theorem isPlain_numeric {value : List Char} (valid : isNumeric value) : isPlain value := by
  rw [isNumeric, Bool.and_eq_true] at valid
  exact isPlain_of_all valid.2 (by decide)

theorem isPlain_secret {size : Nat} {value : List Char} (secret : IsSecret size value) : isPlain value :=
  isPlain_of_all secret.hex (by decide)

theorem furtherKeys_of_isPlain {value : List Char} (plain : isPlain value) : furtherKeys value = [] := by
  have oneLine : '\n' ∉ value := by
    intro mem
    have allowed := List.all_eq_true.mp plain _ mem
    simp at allowed
  have first := lines_entry oneLine []
  rw [List.append_nil] at first
  have none_left : furtherLines value = [] := by
    rw [furtherLines, first]
    rfl
  rw [furtherKeys, none_left]
  rfl

theorem isOutside_eq_false_iff (text : List Char) :
    isOutside text = false ↔ (decimal text < 2 ^ 63 → 1 ≤ decimal text ∧ decimal text ≤ 65535) := by
  unfold isOutside
  simp only [Bool.and_eq_false_iff, Bool.or_eq_false_iff, decide_eq_false_iff_not]
  omega

theorem decimal_toString (n : Nat) : decimal (toString n).toList = n := by
  have digits : (toString n).toList = Nat.toDigits 10 n := Nat.toList_repr
  rw [digits]
  exact Nat.ofDigitChars_ten_toDigits

/-- What the arithmetic of the shell returns is a machine integer. -/
theorem nextPort_small {hostPort port : List Char} (next : nextPort hostPort = some port) (numeric : isNumeric port) :
    decimal port < 2 ^ 63 := by
  have printed : ∀ n : Nat, (toString (wrapped n)).toList = port → decimal port < 2 ^ 63 := by
    intro n text
    have below : wrapped n < 2 ^ 63 := by
      have bound := Int.bmod_lt (x := (n : Int)) (by decide : 0 < 2 ^ 64)
      unfold wrapped
      omega
    cases value : wrapped n with
    | ofNat k =>
      rw [value] at text below
      have digits : port = (toString k).toList := text.symm
      rw [digits, decimal_toString]
      exact Int.ofNat_lt.mp below
    | negSucc k =>
      rw [value] at text
      have minus : '-' ∈ port := by
        rw [← text]
        simp [toString, Int.repr]
      rw [isNumeric, Bool.and_eq_true] at numeric
      exact absurd (List.all_eq_true.mp numeric.2 _ minus) (by decide)
  unfold nextPort at next
  split_ifs at next
  · exact printed _ (Option.some.inj next)
  · exact printed _ (Option.some.inj next)

section Run
variable {o : Options} {port : List Char} {s : Secrets} {f : EnvFile}

theorem map_fst_entries : (entries o port s).map Prod.fst = writtenKeys := rfl

theorem isKey_written : ∀ key ∈ writtenKeys, isKey key.toList := by
  have each : writtenKeys.all (fun key => isKey key.toList) = true := by
    simp only [writtenKeys, List.all_cons, List.all_nil]
    repeat rw [String.toList_ofList]
    decide +kernel
  exact List.all_eq_true.mp each

theorem isKey_entries : ∀ e ∈ entries o port s, isKey e.1.toList := by
  intro e mem
  refine isKey_written e.1 ?_
  have listed := List.mem_map_of_mem (f := Prod.fst) mem
  rw [map_fst_entries] at listed
  exact listed

variable (ran : Ran o port s f)
include ran

theorem text_of_ran : f.text = envText (entries o port s) := by
  rw [ran.file]

theorem isPlain_before : ∀ e ∈ entriesBefore o, isPlain e.2 := by
  simp only [entriesBefore, List.forall_mem_cons, isPlain_append, isPlain_instance ran.inst, isPlain_numeric ran.hostPort,
    Bool.true_and, List.not_mem_nil, false_implies, implies_true, and_true, true_and]
  decide +kernel

theorem isPlain_after : ∀ e ∈ entriesAfter o port s, isPlain e.2 := by
  simp only [entriesAfter, List.forall_mem_cons, isPlain_append, isPlain_numeric ran.hostPort, isPlain_numeric ran.numeric,
    isPlain_secret s.postgres, isPlain_secret s.redis, isPlain_secret s.superset, isPlain_secret s.guest,
    isPlain_secret s.admin, isPlain_secret s.mariadb, isPlain_secret s.mariadbRoot, isPlain_secret s.control,
    Bool.and_true, List.not_mem_nil, false_implies, implies_true, and_true, true_and]
  decide +kernel

theorem keys_of_ran : keys f = (entriesBefore o).map (fun e => e.1.toList) ++
    ("XPBUILDER_ALLOWED_ORIGINS".toList :: furtherKeys (originsOf o)) ++
      (entriesAfter o port s).map (fun e => e.1.toList) := by
  have single : ∀ es : List (String × List Char), (∀ e ∈ es, isPlain e.2) →
      es.flatMap (fun e => e.1.toList :: furtherKeys e.2) = es.map (fun e => e.1.toList) := by
    intro es plain
    rw [List.map_eq_flatMap]
    refine List.flatMap_congr ?_
    intro e mem
    rw [furtherKeys_of_isPlain (plain e mem)]
  rw [keys_envText isKey_entries (text_of_ran ran), entries, List.flatMap_append, List.flatMap_cons,
    single _ (isPlain_before ran), single _ (isPlain_after ran), List.append_assoc]

/-- No key is assigned twice where the further lines of the origins assign new ones, each once. -/
theorem nodup_keys_iff : (keys f).Nodup ↔ (furtherKeys (originsOf o)).Nodup ∧
    ∀ key ∈ furtherKeys (originsOf o), key ∉ writtenKeys.map String.toList := by
  have names : writtenKeys.Nodup := by decide +kernel
  have written : (writtenKeys.map String.toList).Nodup := names.map (fun _ _ => String.toList_inj.mp)
  have shape : (entriesBefore o).map (fun e => e.1.toList) ++ "XPBUILDER_ALLOWED_ORIGINS".toList ::
      (entriesAfter o port s).map (fun e => e.1.toList) = writtenKeys.map String.toList := rfl
  have perm : (keys f).Perm (furtherKeys (originsOf o) ++ writtenKeys.map String.toList) := by
    rw [keys_of_ran ran, ← shape, List.perm_iff_count]
    intro key
    simp only [List.count_append, List.count_cons]
    omega
  rw [perm.nodup_iff, List.nodup_append]
  constructor
  · rintro ⟨once, -, apart⟩
    exact ⟨once, fun key mem twice => apart key mem key twice rfl⟩
  · rintro ⟨once, apart⟩
    refine ⟨once, written, ?_⟩
    rintro key mem _ twice rfl
    exact apart key mem twice

/-- The origins that are written agree with those that are asked for on their further lines. -/
theorem originsOf_lines : furtherKeys (originsOf o) = furtherKeys o.allowedOrigins.1 ∧
    (firstLine (originsOf o) ≠ [] ↔ (o.allowedOrigins.1 ≠ [] → firstLine o.allowedOrigins.1 ≠ [])) ∧
    ('*' ∈ firstLine (originsOf o) ↔ '*' ∈ firstLine o.allowedOrigins.1) ∧ Char.ofNat 0 ∉ originsOf o := by
  by_cases empty : o.allowedOrigins.1 = []
  · have default : originsOf o =
        "http://localhost:".toList ++ o.hostPort.1 ++ ",https://localhost:".toList ++ o.hostPort.1 := if_pos empty
    have plain : isPlain (originsOf o) := by
      rw [default]
      simp only [isPlain_append, isPlain_numeric ran.hostPort, Bool.and_true]
      decide +kernel
    have digits : '*' ∉ o.hostPort.1 := by
      have numeric := ran.hostPort
      rw [isNumeric, Bool.and_eq_true] at numeric
      intro mem
      exact absurd (List.all_eq_true.mp numeric.2 _ mem) (by decide)
    have line : ∀ c ∈ originsOf o, decide (c ≠ '\n') = true := by
      intro c mem
      have allowed := List.all_eq_true.mp plain c mem
      rw [Bool.and_eq_true] at allowed
      exact allowed.1
    have whole : firstLine (originsOf o) = originsOf o := List.takeWhile_eq_self_iff.mpr line
    refine ⟨?_, ?_, ?_, ?_⟩
    · rw [furtherKeys_of_isPlain plain, empty]
      rfl
    · rw [whole, default, empty]
      simp
    · rw [whole, default, empty]
      simp [digits, firstLine]
    · intro mem
      have allowed := List.all_eq_true.mp plain _ mem
      simp at allowed
  · have asked : originsOf o = o.allowedOrigins.1 := if_neg empty
    rw [asked]
    exact ⟨rfl, by simp [empty], Iff.rfl, o.allowedOrigins.2⟩

/-! ## The checks -/

section Values
variable (distinct : (keys f).Nodup)
include distinct

theorem valueOf_written {key : String} {value : List Char} (mem : (key, value) ∈ entries o port s)
    (plain : isPlain value) : valueOf f key = value := by
  refine valueOf_plain isKey_entries (text_of_ran ran) distinct mem ?_
  intro c inside
  have allowed := List.all_eq_true.mp plain c inside
  rw [Bool.and_eq_true, decide_eq_true_eq, decide_eq_true_eq] at allowed
  exact allowed

theorem valueOf_before {key : String} {value : List Char} (mem : (key, value) ∈ entriesBefore o) : valueOf f key = value :=
  valueOf_written ran distinct (List.mem_append_left _ mem) (isPlain_before ran _ mem)

theorem valueOf_after {key : String} {value : List Char} (mem : (key, value) ∈ entriesAfter o port s) :
    valueOf f key = value :=
  valueOf_written ran distinct (List.mem_append_right _ (List.mem_cons_of_mem _ mem)) (isPlain_after ran _ mem)

theorem valueOf_origins : valueOf f "XPBUILDER_ALLOWED_ORIGINS" = firstLine (originsOf o) := by
  have mem : ("XPBUILDER_ALLOWED_ORIGINS", originsOf o) ∈ entries o port s :=
    List.mem_append_right _ List.mem_cons_self
  rw [valueOf_entry isKey_entries (text_of_ran ran) distinct mem, List.filter_eq_self]
  intro c inside
  refine decide_eq_true ?_
  rintro rfl
  exact (originsOf_lines ran).2.2.2 ((List.takeWhile_prefix _).subset inside)

/-- Every required key but that of the origins is written with a value. -/
theorem valueOf_required {key : String} (required : key ∈ requiredKeys) (other : key ≠ "XPBUILDER_ALLOWED_ORIGINS") :
    valueOf f key ≠ [] := by
  have listed : ∀ key ∈ requiredKeys, key ∈ writtenKeys ∧ key ∉ ["XPBUILDER_BRAND_URL", "XPBUILDER_PHPMYADMIN_URL"] := by
    decide +kernel
  have inst : o.inst.1 ≠ [] := by
    intro empty
    have valid := ran.inst
    simp [isInstance, empty] at valid
  have numeric : ∀ text, isNumeric text → text ≠ [] := by
    rintro _ numeric rfl
    cases numeric
  have secret : ∀ {size text}, IsSecret size text → 0 < size → text ≠ [] := by
    rintro size _ secret positive rfl
    have length := secret.length
    simp at length
    omega
  have before : ∀ e ∈ entriesBefore o, e.2 ≠ [] := by
    simp only [entriesBefore, List.forall_mem_cons, List.append_ne_nil_of_left_ne_nil inst, inst, numeric _ ran.hostPort,
      ne_eq, not_false_eq_true, List.not_mem_nil, false_implies, implies_true, and_true, true_and]
    decide +kernel
  have after : ∀ e ∈ entriesAfter o port s, e.2 = [] → e.1 ∈ ["XPBUILDER_BRAND_URL", "XPBUILDER_PHPMYADMIN_URL"] := by
    simp [entriesAfter, numeric _ ran.numeric, secret s.postgres, secret s.redis, secret s.superset, secret s.guest,
      secret s.admin, secret s.mariadb, secret s.mariadbRoot, secret s.control]
  obtain ⟨written, filled⟩ := listed key required
  have keys : (entries o port s).map Prod.fst = writtenKeys := map_fst_entries
  rw [← keys, entries, List.map_append, List.map_cons, List.mem_append, List.mem_cons] at written
  rcases written with mem | same | mem
  · obtain ⟨e, there, rfl⟩ := List.mem_map.mp mem
    rw [valueOf_before ran distinct there]
    exact before e there
  · exact absurd same other
  · obtain ⟨e, there, rfl⟩ := List.mem_map.mp mem
    rw [valueOf_after ran distinct there]
    exact fun empty => filled (after e there empty)

theorem fileChecks_iff : (∀ check ∈ fileChecks f false, check.passed) ↔ firstLine (originsOf o) ≠ [] := by
  have name : basename f = ".env".toList := by
    rw [ran.file, basename, String.toList_ofList]
    exact ran.name
  have mode : f.mode = 600 := by
    rw [ran.file]
  have missing : missingKeys f = [] ↔ firstLine (originsOf o) ≠ [] := by
    rw [missingKeys, List.filter_eq_nil_iff, ← valueOf_origins ran distinct]
    constructor
    · intro each
      simpa using each "XPBUILDER_ALLOWED_ORIGINS" (by decide)
    · intro listed key required
      by_cases same : key = "XPBUILDER_ALLOWED_ORIGINS"
      · rw [same]
        simpa using listed
      · simpa using valueOf_required ran distinct required same
  simp [fileChecks, name, otherBits, groupBits, mode, distinct, missing]

theorem siteChecks_iff : (∀ check ∈ siteChecks f, check.passed) ↔
    isOutside o.hostPort.1 = false ∧ '*' ∉ firstLine (originsOf o) := by
  have inst : valueOf f "XPBUILDER_INSTANCE" = o.inst.1 := valueOf_before ran distinct (by simp [entriesBefore])
  have hostPort : valueOf f "XPBUILDER_HOST_PORT" = o.hostPort.1 :=
    valueOf_before ran distinct (by simp [entriesBefore])
  have external : valueOf f "XPBUILDER_VOLUMES_EXTERNAL" = "false".toList :=
    valueOf_before ran distinct (by simp [entriesBefore])
  simp [siteChecks, inst, hostPort, external, valueOf_origins ran distinct, ran.inst, ran.hostPort]

theorem mariadbChecks_iff : (∀ check ∈ mariadbChecks f, check.passed) ↔ port ≠ o.hostPort.1 := by
  have database : valueOf f "MARIADB_DATABASE" = "xpbuilder".toList := valueOf_after ran distinct (by simp [entriesAfter])
  have user : valueOf f "MARIADB_USER" = "xpbuilder".toList := valueOf_after ran distinct (by simp [entriesAfter])
  have control : valueOf f "PHPMYADMIN_CONTROL_DATABASE" = "phpmyadmin".toList :=
    valueOf_after ran distinct (by simp [entriesAfter])
  have controlUser : valueOf f "PHPMYADMIN_CONTROL_USER" = "pma".toList :=
    valueOf_after ran distinct (by simp [entriesAfter])
  have pmaPort : valueOf f "XPBUILDER_PHPMYADMIN_HOST_PORT" = port :=
    valueOf_after ran distinct (by simp [entriesAfter])
  have url : valueOf f "XPBUILDER_PHPMYADMIN_URL" = [] := valueOf_after ran distinct (by simp [entriesAfter])
  have hostPort : valueOf f "XPBUILDER_HOST_PORT" = o.hostPort.1 :=
    valueOf_before ran distinct (by simp [entriesBefore])
  have names : isDatabaseName (valueOf f "MARIADB_DATABASE") ∧ isUserName (valueOf f "MARIADB_USER") ∧
      isDatabaseName (valueOf f "PHPMYADMIN_CONTROL_DATABASE") ∧ isUserName (valueOf f "PHPMYADMIN_CONTROL_USER") ∧
      valueOf f "PHPMYADMIN_CONTROL_DATABASE" ≠ valueOf f "MARIADB_DATABASE" := by
    rw [database, user, control, controlUser]
    decide +kernel
  simp [mariadbChecks, names, pmaPort, url, hostPort, ran.numeric, ran.inside]

theorem secretChecks_passed : ∀ check ∈ secretChecks f, check.passed := by
  have external : valueOf f "XPBUILDER_VOLUMES_EXTERNAL" = "false".toList :=
    valueOf_before ran distinct (by simp [entriesBefore])
  have infra : infraMinLen f = 16 := by
    rw [infraMinLen, external]
    decide +kernel
  have human : humanMinLen f = 8 := by
    rw [humanMinLen, external]
    decide +kernel
  have postgres : valueOf f "POSTGRES_PASSWORD" = s.postgresPassword := valueOf_after ran distinct (by simp [entriesAfter])
  have redis : valueOf f "SUPERSET_REDIS_PASSWORD" = s.redisPassword := valueOf_after ran distinct (by simp [entriesAfter])
  have superset : valueOf f "SUPERSET_SECRET_KEY" = s.supersetSecret := valueOf_after ran distinct (by simp [entriesAfter])
  have guest : valueOf f "GUEST_TOKEN_JWT_SECRET" = s.guestSecret := valueOf_after ran distinct (by simp [entriesAfter])
  have control : valueOf f "PHPMYADMIN_CONTROL_PASSWORD" = s.controlPassword :=
    valueOf_after ran distinct (by simp [entriesAfter])
  have admin : valueOf f "SUPERSET_ADMIN_PASSWORD" = s.adminPassword := valueOf_after ran distinct (by simp [entriesAfter])
  have mariadb : valueOf f "MARIADB_PASSWORD" = s.mariadbPassword := valueOf_after ran distinct (by simp [entriesAfter])
  have root : valueOf f "MARIADB_ROOT_PASSWORD" = s.mariadbRootPassword :=
    valueOf_after ran distinct (by simp [entriesAfter])
  have apart : s.controlPassword ≠ s.mariadbRootPassword ∧ s.controlPassword ≠ s.mariadbPassword ∧
      s.supersetSecret ≠ s.guestSecret := by
    have each := s.distinct
    simp only [List.nodup_cons, List.mem_cons, not_or] at each
    exact ⟨Ne.symm each.2.2.2.2.2.2.1.1, Ne.symm each.2.2.2.2.2.1.2.1, each.2.2.1.1⟩
  simp [secretChecks, secretKeys, humanSecretKeys, minLength, infra, human, postgres, redis, superset, guest, control,
    admin, mariadb, root, apart, s.postgres.length, s.redis.length, s.superset.length, s.guest.length, s.control.length,
    s.admin.length, s.mariadb.length, s.mariadbRoot.length]

end Values

/-! ## When the file passes -/

/-- The port next to the host port is a machine integer, so it was compared as one. -/
theorem port_ne_iff : port ≠ o.hostPort.1 ↔ o.phpmyadminPort.1 ≠ o.hostPort.1 := by
  have chosen := ran.chosen
  unfold phpmyadminPort at chosen
  split_ifs at chosen with empty
  · have small := nextPort_small chosen ran.numeric
    have other : port ≠ o.hostPort.1 := by
      intro same
      have apart := ran.apart
      rw [← same] at apart
      simp only [samePort, decide_true, Bool.and_true, Bool.and_self, decide_eq_false_iff_not] at apart
      exact apart small
    have numeric : o.phpmyadminPort.1 ≠ o.hostPort.1 := by
      intro same
      have digits := ran.hostPort
      rw [← same, empty] at digits
      cases digits
    exact iff_of_true other numeric
  · rw [Option.some.inj chosen]

theorem validates_iff : validateEnv f false = .ok () ↔ Bootable o := by
  obtain ⟨further, listed, wildcard, -⟩ := originsOf_lines ran
  have split : (∀ check ∈ checks f false, check.passed) ↔ (∀ check ∈ fileChecks f false, check.passed) ∧
      (∀ check ∈ siteChecks f, check.passed) ∧ (∀ check ∈ mariadbChecks f, check.passed) ∧
      (∀ check ∈ secretChecks f, check.passed) := by
    simp only [checks, List.forall_mem_append, and_assoc]
  constructor
  · intro accepted
    have distinct := (file_of_accepted accepted).2.1
    have keys := (nodup_keys_iff ran).mp distinct
    rw [further] at keys
    obtain ⟨file, site, mariadb, -⟩ := split.mp (validateEnv_eq_ok.mp accepted)
    have first := (fileChecks_iff ran distinct).mp file
    obtain ⟨outside, star⟩ := (siteChecks_iff ran distinct).mp site
    have ports := (mariadbChecks_iff ran distinct).mp mariadb
    exact ⟨(isOutside_eq_false_iff _).mp outside, (port_ne_iff ran).mp ports, listed.mp first,
      fun mem => star (wildcard.mpr mem), keys.1, keys.2⟩
  · intro bootable
    have distinct : (keys f).Nodup := by
      rw [nodup_keys_iff ran, further]
      exact ⟨bootable.once, bootable.unwritten⟩
    refine validateEnv_eq_ok.mpr (split.mpr ⟨?_, ?_, ?_, secretChecks_passed ran distinct⟩)
    · exact (fileChecks_iff ran distinct).mpr (listed.mpr bootable.listed)
    · exact (siteChecks_iff ran distinct).mpr ⟨(isOutside_eq_false_iff _).mpr bootable.hostPort,
        fun mem => bootable.noWildcard (wildcard.mp mem)⟩
    · exact (mariadbChecks_iff ran distinct).mpr ((port_ne_iff ran).mpr bootable.ports)

end Run

/-- A run that succeeds leaves a file that passes the validation exactly where its arguments
are those of one. -/
theorem bootstrapEnv_validates_iff {m : Machine} {args : List Argument} {s : Secrets} {o : Options} {f : EnvFile}
    (parsed : parseArgs (defaults m) args = .ok o) (succeeded : bootstrapEnv m args s = .ok f) :
    validateEnv f false = .ok () ↔ Bootable o := by
  obtain ⟨port, ran⟩ := ran_of_ok parsed succeeded
  exact validates_iff ran

/-! ## A host port of zero -/

def host : Machine where
  root := ⟨"/srv/xpbuilder".toList, by simp⟩
  envExists := fun _ => false
  hasOpenssl := true

theorem isSecret_replicate {size : Nat} {c : Char} (hex : c.isDigit) : IsSecret size (List.replicate (2 * size) c) where
  length := List.length_replicate
  hex := by
    rw [List.all_eq_true]
    intro d mem
    rw [List.eq_of_mem_replicate mem, hex]
    rfl

def drawn : Secrets where
  postgresPassword := List.replicate 48 '0'
  redisPassword := List.replicate 48 '1'
  supersetSecret := List.replicate 64 '2'
  guestSecret := List.replicate 64 '3'
  adminPassword := List.replicate 36 '4'
  mariadbPassword := List.replicate 36 '5'
  mariadbRootPassword := List.replicate 48 '6'
  controlPassword := List.replicate 48 '7'
  postgres := isSecret_replicate (by decide)
  redis := isSecret_replicate (by decide)
  superset := isSecret_replicate (by decide)
  guest := isSecret_replicate (by decide)
  admin := isSecret_replicate (by decide)
  mariadb := isSecret_replicate (by decide)
  mariadbRoot := isSecret_replicate (by decide)
  control := isSecret_replicate (by decide)
  distinct := by decide +kernel

/-- The options of an instance on a port. -/
def onPort (port : Argument) : Options where
  envFile := ⟨"/srv/xpbuilder/.env".toList, by simp⟩
  inst := ⟨"kot".toList, by simp⟩
  hostPort := port
  phpmyadminPort := noText
  allowedOrigins := noText

def instanceOption : Argument := ⟨"--instance".toList, by simp⟩

def hostPortOption : Argument := ⟨"--host-port".toList, by simp⟩

def portArgs (port : Argument) : List Argument := [instanceOption, ⟨"kot".toList, by simp⟩, hostPortOption, port]

theorem setOption_instance (o : Options) (value : Argument) :
    setOption o instanceOption value = some { o with inst := value } := by
  have own : instanceOption.1 = "--instance".toList := rfl
  have file : instanceOption.1 ≠ "--env-file".toList := by simp [own]
  unfold setOption
  rw [if_neg file, if_pos own]

theorem setOption_hostPort (o : Options) (value : Argument) :
    setOption o hostPortOption value = some { o with hostPort := value } := by
  have own : hostPortOption.1 = "--host-port".toList := rfl
  have file : hostPortOption.1 ≠ "--env-file".toList := by simp [own]
  have inst : hostPortOption.1 ≠ "--instance".toList := by simp [own]
  unfold setOption
  rw [if_neg file, if_neg inst, if_pos own]

theorem parseArgs_portArgs (port : Argument) : parseArgs (defaults host) (portArgs port) = .ok (onPort port) := by
  have own : (defaults host).envFile.1 = "/srv/xpbuilder".toList ++ "/.env".toList := rfl
  have path : (defaults host).envFile = (onPort port).envFile := by
    refine Subtype.ext (own.trans ?_)
    change "/srv/xpbuilder".toList ++ "/.env".toList = "/srv/xpbuilder/.env".toList
    repeat rw [String.toList_ofList]
    rfl
  unfold portArgs
  simp only [parseArgs, setOption_instance, setOption_hostPort, path]
  rfl

/-- A numeric host port with a good port next to it is enough for the script. -/
theorem bootstrapEnv_portArgs {port : Argument} {next : List Char} (numeric : isNumeric port.1)
    (chosen : nextPort port.1 = some next) (good : isNumeric next) (inside : isOutside next = false)
    (apart : samePort next port.1 = false) : bootstrapEnv host (portArgs port) drawn =
      .ok ⟨String.ofList (onPort port).envFile.1, 600, envText (entries (onPort port) next drawn)⟩ := by
  have name : pathName (onPort port).envFile.1 = ".env".toList := by
    change pathName "/srv/xpbuilder/.env".toList = ".env".toList
    repeat rw [String.toList_ofList]
    decide +kernel
  have inst : isInstance (onPort port).inst.1 = true := by
    change isInstance "kot".toList = true
    repeat rw [String.toList_ofList]
    decide +kernel
  have named : (onPort port).inst.1 ≠ [] := by
    intro empty
    rw [empty] at inst
    cases inst
  have hostPort : isNumeric (onPort port).hostPort.1 = true := numeric
  have next_port : phpmyadminPort (onPort port) = some next := (if_pos rfl).trans chosen
  have other : samePort next (onPort port).hostPort.1 = false := apart
  have absent : host.envExists (onPort port).envFile.1 = false := rfl
  have openssl : host.hasOpenssl = true := rfl
  unfold bootstrapEnv
  rw [parseArgs_portArgs]
  dsimp only [bind, Except.bind]
  rw [if_neg (not_not.mpr name), if_neg named, inst, hostPort, next_port]
  simp only [good, inside, other, absent, openssl]
  rfl

def readmePort : Argument := ⟨['9', '0', '1', '0'], by decide⟩

theorem readmePort_validates_iff : validateEnv ⟨String.ofList (onPort readmePort).envFile.1, 600,
    envText (entries (onPort readmePort) ['9', '0', '1', '1'] drawn)⟩ false = .ok () ↔ Bootable (onPort readmePort) :=
  bootstrapEnv_validates_iff (parseArgs_portArgs readmePort)
    (bootstrapEnv_portArgs (by decide) (by decide +kernel) (by decide) (by decide) (by decide))

def zeroPort : Argument := ⟨['0'], by decide⟩

/-- Only the port of phpMyAdmin is compared with the range. -/
theorem zeroPort_refused : ∃ f, bootstrapEnv host (portArgs zeroPort) drawn = .ok f ∧ validateEnv f false ≠ .ok () := by
  have next : nextPort zeroPort.1 = some ['1'] := by decide +kernel
  have succeeded := bootstrapEnv_portArgs (by decide) next (by decide) (by decide) (by decide)
  refine ⟨_, succeeded, ?_⟩
  intro accepted
  obtain ⟨port, ran⟩ := ran_of_ok (parseArgs_portArgs zeroPort) succeeded
  have bootable := (validates_iff ran).mp accepted
  have positive := (bootable.hostPort (by decide)).1
  exact absurd positive (by decide)

end XpBuilder.Ops.Bootstrap
