import XpBuilder.Library.Accounts
import XpBuilder.Ops.ValidateEnv

/-! The control account of phpMyAdmin: the statements that `provision-pmadb.sh` sends to
MariaDB, and what becomes of the accounts. -/

namespace XpBuilder.Ops.ControlAccount
open SqlTokens Accounts ValidateEnv

section
variable (f : EnvFile)

def controlDatabase : List Char := valueOf f "PHPMYADMIN_CONTROL_DATABASE"

def controlUser : List Char := valueOf f "PHPMYADMIN_CONTROL_USER"

def controlPassword : List Char := valueOf f "PHPMYADMIN_CONTROL_PASSWORD"

def siteDatabase : List Char := valueOf f "MARIADB_DATABASE"

/-- The account of phpMyAdmin, from any host. -/
def controlAccount : Account := ⟨controlUser f, ['%']⟩

/-- The account of the site, which the image of MariaDB creates. -/
def siteAccount : Account := ⟨valueOf f "MARIADB_USER", ['%']⟩

def storagePrivileges : List (List Char) :=
  ["SELECT", "INSERT", "UPDATE", "DELETE", "CREATE", "ALTER", "DROP", "INDEX"].map String.toList

/-- `'${control_user}'@'%'` -/
def accountText : List Char := quoted (controlUser f) ++ "@".toList ++ quoted ['%']

/-- `IDENTIFIED BY '${control_password_sql}'` -/
def identifiedBy : List Char := " IDENTIFIED BY ".toList ++ quoted (doubled (controlPassword f))

def createText : List Char :=
  "CREATE USER IF NOT EXISTS ".toList ++ accountText f ++ identifiedBy f ++ ";\n".toList

def alterText : List Char := "ALTER USER ".toList ++ accountText f ++ identifiedBy f ++ ";\n".toList

def storageText : List Char :=
  "GRANT SELECT, INSERT, UPDATE, DELETE, CREATE, ALTER, DROP, INDEX\n    ON ".toList ++
    backticked (controlDatabase f) ++ ".* TO ".toList ++ accountText f ++ ";\n".toList

def mysqlText : List Char := "GRANT SELECT ON `mysql`.* TO ".toList ++ accountText f ++ ";\n".toList

/-- What the client reads from the here document. -/
def script : List Char :=
  createText f ++ alterText f ++ storageText f ++ mysqlText f ++ "FLUSH PRIVILEGES;\n".toList

/-- The statements that the script is meant to say. -/
def intended : List Statement :=
  [.createUser true (controlAccount f) (controlPassword f), .alterUser (controlAccount f) (controlPassword f),
    .grant storagePrivileges (controlDatabase f) (controlAccount f),
    .grant ["SELECT".toList] "mysql".toList (controlAccount f), .flushPrivileges]

/-- The two accounts are kept apart: the script says what it is meant to say, and then the
control account has its password and no right on the data of the site, the site has no right
on the storage, and all other accounts are as they were. -/
def Isolates (prior : State) : Prop :=
  Says (script f) (intended f) ∧ ∃ after, execAll prior (intended f) = .ok after ∧
    (after (controlAccount f)).map Login.password = some (controlPassword f) ∧
    (∀ account, account ≠ controlAccount f → after account = prior account) ∧
    hasRight after (controlAccount f) (siteDatabase f) = false ∧
    hasRight after (siteAccount f) (controlDatabase f) = false

end

/-! ## The text -/

variable {f : EnvFile}

theorem plain_of_all {text : List Char} {p : Char → Bool} (all : text.all p)
    (excluded : ∀ c, p c → c ≠ apostrophe ∧ c ≠ '\\') : ∀ c ∈ text, c ≠ apostrophe ∧ c ≠ '\\' := by
  intro c mem
  exact excluded c (List.all_eq_true.mp all c mem)

theorem isUserName_plain {name : List Char} (valid : isUserName name) : ∀ c ∈ name, c ≠ apostrophe ∧ c ≠ '\\' := by
  rw [isUserName, Bool.and_eq_true] at valid
  apply plain_of_all valid.2
  intro c allowed
  constructor
  · rintro rfl
    exact absurd allowed (by decide)
  · rintro rfl
    exact absurd allowed (by decide)

theorem isDatabaseName_slash {name : List Char} (valid : isDatabaseName name) : '\\' ∉ name := by
  rw [isDatabaseName, Bool.and_eq_true] at valid
  intro mem
  exact absurd (List.all_eq_true.mp valid.2 _ mem) (by decide)

theorem isDatabaseName_plain {name : List Char} (valid : isDatabaseName name) : backtick ∉ name := by
  rw [isDatabaseName, Bool.and_eq_true] at valid
  intro mem
  exact absurd (List.all_eq_true.mp valid.2 _ mem) (by decide)

theorem head?_piece {piece : List Char} {c : Char} (first : piece.head? = some c) (rest : List Char) :
    (piece ++ rest).head? = some c := by
  rw [List.head?_append, first]
  rfl

theorem tokensFrom_account (valid : isUserName (controlUser f)) {rest : List Char}
    (other : rest.head? ≠ some apostrophe) :
    tokensFrom .start (accountText f ++ rest) = (tokensFrom .start rest).map ((controlAccount f).tokens ++ ·) := by
  have at_sign : run .start "@".toList = (.start, [.mark '@']) := by decide +kernel
  have host : ∀ c ∈ ['%'], c ≠ apostrophe ∧ c ≠ '\\' := List.forall_mem_singleton.mpr (by decide)
  have next : ("@".toList ++ (quoted ['%'] ++ rest)).head? ≠ some apostrophe := by
    rw [head?_piece (by decide +kernel : "@".toList.head? = some '@')]
    decide
  unfold accountText
  rw [List.append_assoc, List.append_assoc, tokensFrom_quoted (isUserName_plain valid) next,
    tokensFrom_piece at_sign, tokensFrom_quoted host other, Option.map_map, Option.map_map]
  rfl

/-- The end of a statement. -/
theorem tokensFrom_end (rest : List Char) :
    tokensFrom .start (";\n".toList ++ rest) = (tokensFrom .start rest).map ([.mark ';'] ++ ·) :=
  tokensFrom_piece (by decide +kernel) rest

theorem end_head (rest : List Char) : (";\n".toList ++ rest).head? ≠ some apostrophe := by
  rw [head?_piece (by decide +kernel : ";\n".toList.head? = some ';')]
  decide

theorem identifiedBy_head (rest : List Char) : (identifiedBy f ++ rest).head? ≠ some apostrophe := by
  unfold identifiedBy
  rw [List.append_assoc, head?_piece (by decide +kernel : " IDENTIFIED BY ".toList.head? = some ' ')]
  decide

theorem tokensFrom_identifiedBy (rest : List Char) : tokensFrom .start (identifiedBy f ++ rest) =
    (tokensFrom .start (quoted (doubled (controlPassword f)) ++ rest)).map (words ["IDENTIFIED", "BY"] ++ ·) := by
  unfold identifiedBy
  rw [List.append_assoc]
  exact tokensFrom_piece (by decide +kernel) _

/-- The script up to the first password. -/
theorem tokensFrom_createText (valid : isUserName (controlUser f)) (rest : List Char) :
    tokensFrom .start (createText f ++ rest) =
      (tokensFrom .start (quoted (doubled (controlPassword f)) ++ (";\n".toList ++ rest))).map
        (words ["CREATE", "USER", "IF", "NOT", "EXISTS"] ++ (controlAccount f).tokens ++ words ["IDENTIFIED", "BY"] ++ ·) := by
  have opening : run .start "CREATE USER IF NOT EXISTS ".toList =
      (.start, words ["CREATE", "USER", "IF", "NOT", "EXISTS"]) := by decide +kernel
  unfold createText
  rw [List.append_assoc, List.append_assoc, List.append_assoc, tokensFrom_piece opening,
    tokensFrom_account valid (identifiedBy_head _), tokensFrom_identifiedBy, Option.map_map, Option.map_map]
  simp [Function.comp_def, List.append_assoc]

theorem tokensFrom_alterText (valid : isUserName (controlUser f)) (rest : List Char) :
    tokensFrom .start (alterText f ++ rest) =
      (tokensFrom .start (quoted (doubled (controlPassword f)) ++ (";\n".toList ++ rest))).map
        (words ["ALTER", "USER"] ++ (controlAccount f).tokens ++ words ["IDENTIFIED", "BY"] ++ ·) := by
  have opening : run .start "ALTER USER ".toList = (.start, words ["ALTER", "USER"]) := by decide +kernel
  unfold alterText
  rw [List.append_assoc, List.append_assoc, List.append_assoc, tokensFrom_piece opening,
    tokensFrom_account valid (identifiedBy_head _), tokensFrom_identifiedBy, Option.map_map, Option.map_map]
  simp [Function.comp_def, List.append_assoc]

theorem tokensFrom_storageText (valid : isUserName (controlUser f)) (database : isDatabaseName (controlDatabase f))
    (rest : List Char) : tokensFrom .start (storageText f ++ rest) = (tokensFrom .start rest).map
      ((Statement.grant storagePrivileges (controlDatabase f) (controlAccount f)).tokens ++ [.mark ';'] ++ ·) := by
  have opening : run .start "GRANT SELECT, INSERT, UPDATE, DELETE, CREATE, ALTER, DROP, INDEX\n    ON ".toList =
      (.start, words ["GRANT"] ++ (storagePrivileges.map Token.word).intersperse (.mark ',') ++ words ["ON"]) := by
    rw [String.toList_ofList]
    decide +kernel
  have all_tables : run .start ".* TO ".toList = (.start, [.mark '.', .mark '*'] ++ words ["TO"]) := by decide +kernel
  have next : ∀ rest, (".* TO ".toList ++ rest).head? ≠ some backtick := by
    intro rest
    rw [head?_piece (by decide +kernel : ".* TO ".toList.head? = some '.')]
    decide
  unfold storageText
  simp only [List.append_assoc]
  rw [tokensFrom_piece opening, tokensFrom_backticked (isDatabaseName_plain database) (next _),
    tokensFrom_piece all_tables, tokensFrom_account valid (end_head _), tokensFrom_end]
  simp [Function.comp_def, Statement.tokens, Option.map_map]

theorem tokensFrom_mysqlText (valid : isUserName (controlUser f)) (rest : List Char) :
    tokensFrom .start (mysqlText f ++ rest) = (tokensFrom .start rest).map
      ((Statement.grant ["SELECT".toList] "mysql".toList (controlAccount f)).tokens ++ [.mark ';'] ++ ·) := by
  have opening : run .start "GRANT SELECT ON `mysql`.* TO ".toList = (.start, words ["GRANT", "SELECT", "ON"] ++
      [.name "mysql".toList, .mark '.', .mark '*'] ++ words ["TO"]) := by decide +kernel
  unfold mysqlText
  rw [List.append_assoc, List.append_assoc, tokensFrom_piece opening,
    tokensFrom_account valid (end_head _), tokensFrom_end]
  simp [Function.comp_def, Statement.tokens, Option.map_map, words]

theorem tokensFrom_flush : tokensFrom .start "FLUSH PRIVILEGES;\n".toList =
    some (Statement.flushPrivileges.tokens ++ [.mark ';']) := by
  rw [String.toList_ofList]
  decide +kernel

/-- The script says what it is meant to say exactly where the password keeps its backslashes. -/
theorem says_intended_iff (names : Names f) : Says (script f) (intended f) ↔ keepsSlashes (controlPassword f) := by
  have split : script f = createText f ++ (alterText f ++ (storageText f ++ (mysqlText f ++ "FLUSH PRIVILEGES;\n".toList))) := by
    simp [script]
  have user : isUserName (controlUser f) := names.controlUser
  unfold Says SqlTokens.tokens
  rw [split, tokensFrom_createText user]
  constructor
  · intro reading
    obtain ⟨later, read, shape⟩ := Option.map_eq_some_iff.mp reading
    have whole : (intended f).flatMap (fun s => s.tokens ++ [.mark ';']) =
        (words ["CREATE", "USER", "IF", "NOT", "EXISTS"] ++ (controlAccount f).tokens ++ words ["IDENTIFIED", "BY"]) ++
          .text (controlPassword f) :: .mark ';' :: (intended f).tail.flatMap (fun s => s.tokens ++ [.mark ';']) := by
      simp [intended, Statement.tokens, words, -String.reduceToList]
    rw [whole] at shape
    rw [List.append_cancel_left shape, tokensFrom_open] at read
    exact (keepsSlashes_of_read (newline_not_mem_valueOf f _)).1 read
  · intro safe
    rw [tokensFrom_doubled safe (end_head _), tokensFrom_end, tokensFrom_alterText user, tokensFrom_doubled safe (end_head _),
      tokensFrom_end, tokensFrom_storageText user names.controlDatabase, tokensFrom_mysqlText user, tokensFrom_flush]
    simp [intended, Statement.tokens, words, -String.reduceToList]

/-! ## The accounts -/

variable (f) in
/-- What the control account is in the end. -/
def provisioned (prior : State) : Login where
  password := controlPassword f
  grants := ((prior (controlAccount f)).getD ⟨controlPassword f, []⟩).grants ++
    [⟨storagePrivileges, .databases (controlDatabase f)⟩, ⟨["SELECT".toList], .databases "mysql".toList⟩]

theorem execAll_intended (prior : State) : execAll prior (intended f) =
    .ok (Function.update prior (controlAccount f) (some (provisioned f prior))) := by
  have alter := exec_alterUser (Function.update_self (controlAccount f)
    (some ((prior (controlAccount f)).getD ⟨controlPassword f, []⟩)) prior) (controlPassword f)
  have grant := fun grants => exec_grant (Function.update_self (controlAccount f)
    (some (Login.mk (controlPassword f) grants)) prior)
  rw [Function.update_idem] at alter
  simp only [Function.update_idem] at grant
  unfold intended
  rw [execAll_cons (exec_createUser ..), execAll_cons alter, execAll_cons (grant _ _ _),
    execAll_cons (grant _ _ _), List.append_assoc]
  rfl

theorem provisioned_reaches (prior : State) (database : List Char) : (provisioned f prior).reaches database =
    (hasRight prior (controlAccount f) database || matchesPattern (controlDatabase f) database ||
      decide (database = "mysql".toList)) := by
  have plain : ∀ c ∈ "mysql".toList, c ≠ '\\' ∧ c ≠ '%' ∧ c ≠ '_' := by simp
  have earlier : (Login.mk (controlPassword f)
      ((prior (controlAccount f)).getD ⟨controlPassword f, []⟩).grants).reaches database =
      hasRight prior (controlAccount f) database := reaches_getD prior (controlAccount f) (controlPassword f) database
  have storage : storagePrivileges ≠ [] := by decide +kernel
  unfold provisioned
  rw [reaches_append, earlier, Bool.or_assoc, ← matchesPattern_plain plain]
  simp [Login.reaches, Scope.reaches, storage]

/-- The control account and that of the site have nothing in common: they are two accounts,
neither the name of the storage as a pattern nor that of the system tables reaches the data
of the site, and no earlier grant does. The password keeps its backslashes. -/
structure Apart (f : EnvFile) (prior : State) : Prop where
  password : keepsSlashes (controlPassword f)
  accounts : controlUser f ≠ valueOf f "MARIADB_USER"
  pattern : matchesPattern (controlDatabase f) (siteDatabase f) = false
  system : siteDatabase f ≠ "mysql".toList
  earlier : hasRight prior (controlAccount f) (siteDatabase f) = false

/-- The provisioning isolates the two accounts exactly where nothing joins them. -/
theorem isolates_iff (f : EnvFile) (allowGroupEnv : Bool) (prior : State)
    (accepted : validateEnv f allowGroupEnv = .ok ())
    (own : ∀ database, hasRight prior (siteAccount f) database → database = siteDatabase f) :
    Isolates f prior ↔ Apart f prior := by
  have names := names_of_accepted accepted
  have control : ∀ database, hasRight (Function.update prior (controlAccount f) (some (provisioned f prior)))
      (controlAccount f) database = (provisioned f prior).reaches database := by
    intro database
    simp [hasRight]
  constructor
  · rintro ⟨reading, after, ran, -, -, data, storage⟩
    rw [execAll_intended, Except.ok.injEq] at ran
    rw [← ran] at data storage
    rw [control, provisioned_reaches, Bool.or_eq_false_iff, Bool.or_eq_false_iff, decide_eq_false_iff_not] at data
    refine ⟨(says_intended_iff names).mp reading, ?_, data.1.2, data.2, data.1.1⟩
    intro same
    have joined : siteAccount f = controlAccount f := by
      simp [siteAccount, controlAccount, same]
    have itself : matchesPattern (controlDatabase f) (controlDatabase f) :=
      matchesPattern_self (isDatabaseName_slash names.controlDatabase)
    rw [joined, control, provisioned_reaches, itself, Bool.or_true, Bool.true_or] at storage
    exact Bool.noConfusion storage
  · intro apart
    have two : siteAccount f ≠ controlAccount f := by
      intro same
      exact apart.accounts (congrArg Account.user same).symm
    refine ⟨(says_intended_iff names).mpr apart.password, _, execAll_intended prior, ?_, ?_, ?_, ?_⟩
    · simp [provisioned]
    · intro account other
      exact Function.update_of_ne other _ _
    · rw [control, provisioned_reaches, apart.pattern, apart.earlier, decide_eq_false apart.system]
      rfl
    · rw [hasRight_update_ne two, Bool.eq_false_iff]
      intro right
      exact names.apart (own _ right)

/-! ## A site -/

/-- A site's file, up to the control account. -/
def siteEnv (controlUser controlPassword : String) : EnvFile where
  path := "/srv/xpbuilder/.env"
  mode := 600
  text := [("XPBUILDER_INSTANCE", "kot"), ("XPBUILDER_HOST_PORT", "8088"), ("XPBUILDER_INTERNAL_NETWORK", "internal"),
    ("XPBUILDER_METADATA_VOLUME", "metadata"), ("XPBUILDER_REDIS_VOLUME", "redis"),
    ("XPBUILDER_VOLUMES_EXTERNAL", "false"), ("XPBUILDER_ALLOWED_ORIGINS", "https://kot.example"),
    ("POSTGRES_USER", "superset"), ("POSTGRES_PASSWORD", "postgres-password"), ("POSTGRES_DB", "superset"),
    ("SUPERSET_REDIS_PASSWORD", "redis-password-01"), ("SUPERSET_SECRET_KEY", "superset-secret-key"),
    ("GUEST_TOKEN_JWT_SECRET", "guest-token-secret"), ("GUEST_TOKEN_JWT_AUDIENCE", "kot"),
    ("SUPERSET_ADMIN_USERNAME", "admin"), ("SUPERSET_ADMIN_PASSWORD", "admin-password"),
    ("SUPERSET_ADMIN_FIRSTNAME", "Site"), ("SUPERSET_ADMIN_LASTNAME", "Admin"), ("SUPERSET_ADMIN_EMAIL", "a@kot.example"),
    ("XPBUILDER_MARIADB_VOLUME", "mariadb"), ("XPBUILDER_PHPMYADMIN_HOST_PORT", "8089"), ("MARIADB_DATABASE", "moodle"),
    ("MARIADB_USER", "moodle"), ("MARIADB_PASSWORD", "moodle-password"), ("MARIADB_ROOT_PASSWORD", "root-password"),
    ("PHPMYADMIN_CONTROL_DATABASE", "phpmyadmin"), ("PHPMYADMIN_CONTROL_USER", controlUser),
    ("PHPMYADMIN_CONTROL_PASSWORD", controlPassword)].flatMap
      (fun (key, value) => key.toList ++ '=' :: value.toList ++ ['\n'])

theorem accepted_siteEnv : validateEnv (siteEnv "pma" "control's password") false = .ok () ∧
    validateEnv (siteEnv "pma" "control\\password") false = .ok () ∧
    validateEnv (siteEnv "moodle" "control-password") false = .ok () := by
  -- the characters of the literals first: `decide` is slow to find them
  simp only [siteEnv, List.flatMap_cons, List.flatMap_nil]
  repeat rw [String.toList_ofList]
  decide +kernel

theorem isolates_site : Isolates (siteEnv "pma" "control's password") (fun _ => none) := by
  have apart : keepsSlashes (controlPassword (siteEnv "pma" "control's password")) ∧
      controlUser (siteEnv "pma" "control's password") ≠ valueOf (siteEnv "pma" "control's password") "MARIADB_USER" ∧
      matchesPattern (controlDatabase (siteEnv "pma" "control's password"))
        (siteDatabase (siteEnv "pma" "control's password")) = false ∧
      siteDatabase (siteEnv "pma" "control's password") ≠ "mysql".toList := by
    simp only [siteEnv, List.flatMap_cons, List.flatMap_nil]
    repeat rw [String.toList_ofList]
    decide +kernel
  obtain ⟨password, accounts, pattern, system⟩ := apart
  exact (isolates_iff _ false _ accepted_siteEnv.1 (by simp [hasRight])).mpr ⟨password, accounts, pattern, system, rfl⟩

/-- A backslash in the password is read as an escape; two accounts of one name are one. -/
theorem not_isolates_site :
    let files := [siteEnv "pma" "control\\password", siteEnv "moodle" "control-password"]
    ∀ f ∈ files, validateEnv f false = .ok () ∧ ¬Isolates f (fun _ => none) := by
  intro files
  simp only [files, List.forall_mem_cons, List.not_mem_nil, false_implies, implies_true, and_true]
  constructor
  · have misread : ¬Says (script (siteEnv "pma" "control\\password")) (intended (siteEnv "pma" "control\\password")) := by
      unfold Says
      simp only [siteEnv, List.flatMap_cons, List.flatMap_nil]
      repeat rw [String.toList_ofList]
      decide +kernel
    exact ⟨accepted_siteEnv.2.1, fun isolates => misread isolates.1⟩
  · have joined : hasRight (Function.update (fun _ => none) (controlAccount (siteEnv "moodle" "control-password"))
          (some (provisioned (siteEnv "moodle" "control-password") (fun _ => none))))
        (siteAccount (siteEnv "moodle" "control-password")) (controlDatabase (siteEnv "moodle" "control-password")) := by
      simp only [siteEnv, List.flatMap_cons, List.flatMap_nil]
      repeat rw [String.toList_ofList]
      decide +kernel
    refine ⟨accepted_siteEnv.2.2, ?_⟩
    rintro ⟨-, after, ran, -, -, -, storage⟩
    rw [execAll_intended, Except.ok.injEq] at ran
    rw [← ran, joined] at storage
    exact Bool.noConfusion storage

end XpBuilder.Ops.ControlAccount
