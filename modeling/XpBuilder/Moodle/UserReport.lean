import Mathlib.Data.List.Sort
import XpBuilder.Moodle.Tables

/-! The dataset of the user report: one row for each user, with the highest of the user's
roles as a rank, a label and four flags. When the flags partition the users. -/

namespace XpBuilder.Moodle
open Relational

structure UserRow where
  userId : Nat
  username : String
  fullName : String
  email : String
  mobile : String
  employeeId : Option String
  designation : Option String
  genderCode : Option String
  authMethod : String
  accountStatus : String
  confirmationStatus : String
  activityStatus : String
  primaryRole : String
  allRoles : String
  enrolledCourses : Nat
  createdDate : Option Int
  createdMonth : Option Int
  lastAccessDate : Option Int
  lastLoginDate : Option Int
  daysSinceLastAccess : Option Int
  neverLoggedInFlag : Nat
  active30dFlag : Nat
  active90dFlag : Nat
  new30dFlag : Nat
  suspendedFlag : Nat
  learnerFlag : Nat
  managerFlag : Nat
  educatorFlag : Nat
  noRoleFlag : Nat
  enrolledFlag : Nat
  deriving DecidableEq

/-- The first day of the month of a day, both counted from 1970-01-01. -/
def monthStart (day : Int) : Int :=
  let z := day + 719468
  let doe := z % 146097
  let yoe := (doe - doe / 1460 + doe / 36524 - doe / 146096) / 365
  let doy := doe - (365 * yoe + yoe / 4 - yoe / 100)
  let mp := (5 * doy + 2) / 153
  day - (doy - (153 * mp + 2) / 5)

-- 2024-02-29
example : monthStart 19782 = 19754 := by decide

namespace UserReport
variable (S : Server) (db : Database)

/-- The short names of the CASE over `ro.shortname`, ranked from 1. -/
def rankedRoles : List String :=
  ["administrator", "manager", "projectmanager", "operationalmanager", "verticalmanager",
    "interventionmanager", "datamanager", "contentmanager", "projectcoordinator", "projectspoc",
    "editingteacher", "trainer", "teacher", "coursecreator", "employee"]

def roleRank (shortname : String) : Nat := ((rankedRoles.findIdx? (S.same shortname)).map (· + 1)).getD 99

/-- The labels of the CASE over `r.role_rank`, from 1. -/
def rankLabels : List String :=
  ["Administrator", "Manager", "Project Manager", "Operations Manager", "Vertical Manager",
    "Intervention Manager", "Data Manager", "Content Manager", "Project Coordinator", "Project SPOC",
    "Editing Teacher", "Trainer", "Teacher", "Course Creator", "Learner"]

def noRole : String := "No role"

def primaryRole (rank : Option Nat) : String :=
  (rank.bind (fun n => if n = 0 then none else rankLabels[n - 1]?)).getD noRole

/-- `GROUP_CONCAT(DISTINCT name ORDER BY name SEPARATOR ', ')` -/
def groupConcat (names : List String) : String :=
  let distinct := names.pwFilter (fun a b => S.sortKey a ≠ S.sortKey b)
  let sorted := distinct.insertionSort (fun a b => S.sortKey a ≤ S.sortKey b)
  String.ofList ([',', ' '].intercalate (sorted.map String.toList))

structure RoleSummary where
  userid : Nat
  roleShortNames : String
  roleRank : Option Nat

/-- The subquery `r` -/
def roleSummaries : List RoleSummary :=
  (groupBy (fun p => p.1.userid) (join (fun ra ro => ro.id = ra.roleid) db.roleAssignments db.role)).map
    (fun g =>
      { userid := g.1
        roleShortNames := groupConcat S (g.2.map (fun p => p.2.shortname))
        roleRank := (g.2.map (fun p => roleRank S p.2.shortname)).min? })

/-- The subquery `e` -/
def enrolledCourses : List (Nat × Nat) :=
  (groupBy (fun p => p.1.userid) (join (fun ue en => en.id = ue.enrolid) db.userEnrolments db.enrol)).map
    (fun g => (g.1, countDistinct (g.2.map (fun p => some p.2.courseid))))

/-- `FROM_UNIXTIME(t) >= NOW() - INTERVAL days DAY` -/
def since (t days : Int) : Bool := (S.fromUnixtime t).any (fun clock => S.now - days * 86400 ≤ clock)

def activityStatus (u : User) : String :=
  if u.lastaccess = 0 then "Never logged in"
  else if since S u.lastaccess 30 then "Active (0-30 days)"
  else if since S u.lastaccess 90 then "Active (31-90 days)"
  else if since S u.lastaccess 365 then "Active (91-365 days)"
  else "Dormant (over 1 year)"

def flag (p : Bool) : Nat := if p then 1 else 0

/-- `DATE(FROM_UNIXTIME(t))` of a time that is set. -/
def dateOf (t : Int) : Option Int := if 0 < t then S.date (some t) else none

def userRow (u : User) (r : Option RoleSummary) (e : Option (Nat × Nat)) : UserRow where
  userId := u.id
  username := u.username
  fullName := u.fullName
  email := u.email
  mobile := u.phone1
  employeeId := u.openEmployeeid
  designation := u.openDesignation
  genderCode := u.gender
  authMethod := u.auth
  accountStatus := if u.suspended = 1 then "Suspended" else "Active"
  confirmationStatus := if u.confirmed = 1 then "Confirmed" else "Unconfirmed"
  activityStatus := activityStatus S u
  primaryRole := primaryRole (r.bind RoleSummary.roleRank)
  allRoles := (r.map RoleSummary.roleShortNames).getD noRole
  enrolledCourses := (e.map Prod.snd).getD 0
  createdDate := dateOf S u.timecreated
  createdMonth := (dateOf S u.timecreated).map monthStart
  lastAccessDate := dateOf S u.lastaccess
  lastLoginDate := dateOf S u.lastlogin
  daysSinceLastAccess := (dateOf S u.lastaccess).map (fun day => S.now / 86400 - day)
  neverLoggedInFlag := flag (u.lastaccess = 0)
  active30dFlag := flag (0 < u.lastaccess && since S u.lastaccess 30)
  active90dFlag := flag (0 < u.lastaccess && since S u.lastaccess 90)
  new30dFlag := flag (0 < u.timecreated && since S u.timecreated 30)
  suspendedFlag := flag (u.suspended = 1)
  learnerFlag := flag ((r.bind RoleSummary.roleRank).any (· = 15))
  managerFlag := flag ((r.bind RoleSummary.roleRank).any (fun n => 1 ≤ n && n ≤ 10))
  educatorFlag := flag ((r.bind RoleSummary.roleRank).any (fun n => 11 ≤ n && n ≤ 14))
  noRoleFlag := flag (r.bind RoleSummary.roleRank).isNone
  enrolledFlag := flag (0 < (e.map Prod.snd).getD 0)

/-- `DATASET_SQL` -/
def dataset : List UserRow :=
  let withRoles := leftJoin (fun u r => r.userid = u.id) db.user (roleSummaries S db)
  let withCourses := leftJoin (fun p e => e.1 = p.1.id) withRoles (enrolledCourses db)
  (withCourses.filter (fun p => p.1.1.deleted = 0 && 1 < p.1.1.id)).map (fun p => userRow S p.1.1 p.1.2 p.2)

/-! ## One row for each user -/

def listedUser (u : User) : Bool := u.deleted = 0 && 1 < u.id

def rowOf (u : User) : UserRow :=
  userRow S u ((roleSummaries S db).find? (fun r => r.userid = u.id))
    ((enrolledCourses db).find? (fun e => e.1 = u.id))

theorem dataset_eq : dataset S db = (db.user.filter listedUser).map (rowOf S db) := by
  have byRoles : ∀ k : Nat, ((roleSummaries S db).filter (fun r => r.userid = k)).length ≤ 1 := by
    apply length_filter_eq_le_one
    unfold roleSummaries
    rw [List.map_map]
    exact nodup_groupBy
  have byCourses : ∀ k : Nat, ((enrolledCourses db).filter (fun e => e.1 = k)).length ≤ 1 := by
    apply length_filter_eq_le_one
    unfold enrolledCourses
    rw [List.map_map]
    exact nodup_groupBy
  simp only [dataset]
  rw [leftJoin_eq_map (fun _ _ => byRoles _), leftJoin_eq_map (fun _ _ => byCourses _), List.map_map,
    List.filter_map, List.map_map]
  rfl

/-- What the dashboard takes for granted of the dataset. -/
structure Partition (rows : List UserRow) : Prop where
  once : ∀ n, rows.countP (fun r => r.userId = n) = if db.user.any (fun u => u.id = n && listedUser u) then 1 else 0
  oneFlag : ∀ r ∈ rows, [r.learnerFlag, r.managerFlag, r.educatorFlag, r.noRoleFlag].countP (· = 1) = 1
  noRole : ∀ r ∈ rows, (r.noRoleFlag = 1 ↔ r.primaryRole = noRole) ∧ (r.primaryRole = noRole ↔ r.allRoles = noRole)
  total : (rows.map UserRow.learnerFlag).sum + (rows.map UserRow.managerFlag).sum +
    (rows.map UserRow.educatorFlag).sum + (rows.map UserRow.noRoleFlag).sum = rows.length

def HasRole (u : Nat) (name : String) : Prop :=
  ∃ ra ∈ db.roleAssignments, ∃ ro ∈ db.role, ra.userid = u ∧ ro.id = ra.roleid ∧ ro.shortname = name

/-- Each user with a role has one that the ranking knows. -/
def RolesRanked : Prop :=
  ∀ u ∈ db.user, listedUser u → (∃ name, HasRole db u.id name) →
    ∃ name, HasRole db u.id name ∧ rankedRoles.any (S.same name)

variable {S db}

theorem once_dataset (n : Nat) : (dataset S db).countP (fun r => r.userId = n) =
    if db.user.any (fun u => u.id = n && listedUser u) then 1 else 0 := by
  have ids : (db.user.filter listedUser).countP (fun u => u.id = n) =
      ((db.user.filter listedUser).map User.id).count n := by
    rw [List.count, List.countP_map]
    rfl
  have distinct : ((db.user.filter listedUser).map User.id).Nodup :=
    (List.filter_sublist.map User.id).nodup db.userIds
  rw [dataset_eq, List.countP_map]
  have counted : (db.user.filter listedUser).countP ((fun r => decide (r.userId = n)) ∘ rowOf S db) =
      (db.user.filter listedUser).countP (fun u => u.id = n) := rfl
  have there : n ∈ (db.user.filter listedUser).map User.id ↔ db.user.any (fun u => u.id = n && listedUser u) := by
    rw [List.mem_map, List.any_eq_true]
    constructor
    · rintro ⟨u, inside, same⟩
      obtain ⟨mem, holds⟩ := List.mem_filter.mp inside
      exact ⟨u, mem, by simp [same, holds]⟩
    · rintro ⟨u, mem, both⟩
      simp only [Bool.and_eq_true, decide_eq_true_eq] at both
      exact ⟨u, List.mem_filter.mpr ⟨mem, both.2⟩, both.1⟩
  rw [counted, ids, distinct.count]
  exact if_congr there rfl rfl

/-! ## The rank of a user -/

theorem roleRank_of_listed {name : String} (listed : rankedRoles.any (S.same name)) :
    1 ≤ roleRank S name ∧ roleRank S name ≤ 15 := by
  unfold roleRank
  cases found : rankedRoles.findIdx? (S.same name) with
  | none =>
    rw [List.findIdx?_eq_none_iff] at found
    obtain ⟨a, mem, holds⟩ := List.any_eq_true.mp listed
    simp [found a mem] at holds
  | some i =>
    have inside : i < rankedRoles.length := (List.findIdx?_eq_some_iff_findIdx_eq.mp found).1
    have length : rankedRoles.length = 15 := rfl
    simp only [Option.map_some, Option.getD_some]
    omega

theorem roleRank_of_unlisted {name : String} (unlisted : ¬rankedRoles.any (S.same name)) :
    roleRank S name = 99 := by
  have none_found : rankedRoles.findIdx? (S.same name) = none := by
    rw [List.findIdx?_eq_none_iff]
    intro a mem
    by_contra holds
    exact unlisted (List.any_eq_true.mpr ⟨a, mem, by simpa using holds⟩)
  rw [roleRank, none_found]
  rfl

/-- The short names of a user's roles, as the grouping meets them. -/
def namesOf (db : Database) (u : Nat) : List String :=
  ((join (fun ra ro => ro.id = ra.roleid) db.roleAssignments db.role).filter (fun p => p.1.userid = u)).map
    (fun p => p.2.shortname)

theorem mem_namesOf {u : Nat} {name : String} : name ∈ namesOf db u ↔ HasRole db u name := by
  simp only [namesOf, HasRole, List.mem_map, List.mem_filter, mem_join, decide_eq_true_eq]
  constructor
  · rintro ⟨p, ⟨⟨ra_mem, ro_mem, on⟩, own⟩, same⟩
    exact ⟨p.1, ra_mem, p.2, ro_mem, own, on, same⟩
  · rintro ⟨ra, ra_mem, ro, ro_mem, own, on, same⟩
    exact ⟨(ra, ro), ⟨⟨ra_mem, ro_mem, on⟩, own⟩, same⟩

theorem summary_eq (u : Nat) : (roleSummaries S db).find? (fun r => r.userid = u) =
    if namesOf db u = [] then none
    else some ⟨u, groupConcat S (namesOf db u), ((namesOf db u).map (roleRank S)).min?⟩ := by
  unfold roleSummaries
  rw [List.find?_map]
  have composed : ((fun r : RoleSummary => decide (r.userid = u)) ∘ fun g : Nat × List (RoleAssignment × Role) =>
      { userid := g.1
        roleShortNames := groupConcat S (g.2.map (fun p => p.2.shortname))
        roleRank := (g.2.map (fun p => roleRank S p.2.shortname)).min? }) = fun g => decide (g.1 = u) := rfl
  rw [composed, find?_groupBy]
  have names : namesOf db u = [] ↔ u ∉ (join (fun ra ro => decide (ro.id = ra.roleid)) db.roleAssignments
      db.role).map (fun p => p.1.userid) := by
    simp only [namesOf, List.map_eq_nil_iff, List.filter_eq_nil_iff, List.mem_map, decide_eq_true_eq, not_exists,
      not_and]
  by_cases there : namesOf db u = []
  · rw [if_pos there, if_neg (names.mp there)]
    rfl
  · rw [if_neg there, if_pos (by_contra (fun away => there (names.mpr away)))]
    simp only [Option.map_some, namesOf, List.map_map]
    rfl

/-- The names that a concatenation keeps are some of the names, one for each that the
collation tells apart. -/
theorem exists_kept {names : List String} {name : String} (mem : name ∈ names) :
    ∃ kept ∈ names.pwFilter (fun a b => S.sortKey a ≠ S.sortKey b), S.sortKey name = S.sortKey kept := by
  by_contra none_kept
  push Not at none_kept
  have all := (List.forall_mem_pwFilter (R := fun a b => S.sortKey a ≠ S.sortKey b)
    (fun {x y z} apart => by
      by_contra both
      push Not at both
      exact apart (both.1.trans both.2)) name names).mp none_kept name mem
  exact all rfl

/-- Only a single name is concatenated without a comma. -/
theorem eq_singleton_of_intercalate {l : List (List Char)} {text : List Char}
    (joined : [',', ' '].intercalate l = text) (some_text : text ≠ []) (plain : ',' ∉ text) : l = [text] := by
  cases l with
  | nil => exact absurd joined.symm (by simpa [List.intercalate] using some_text)
  | cons first rest =>
    cases rest with
    | nil =>
      rw [← joined]
      simp [List.intercalate]
    | cons second rest =>
      have comma : ',' ∈ text := by
        rw [← joined]
        simp [List.intercalate]
      exact absurd comma plain

theorem groupConcat_ne_noRole {names : List String} (apart : ∀ name ∈ rankedRoles, ¬S.same noRole name)
    (listed : ∃ name ∈ names, rankedRoles.any (S.same name)) : groupConcat S names ≠ noRole := by
  intro same
  obtain ⟨name, mem, known⟩ := listed
  let distinct := names.pwFilter (fun a b => S.sortKey a ≠ S.sortKey b)
  let sorted := distinct.insertionSort (fun a b => S.sortKey a ≤ S.sortKey b)
  have joined : [',', ' '].intercalate (sorted.map String.toList) = noRole.toList := by
    have texts := congrArg String.toList same
    simpa only [groupConcat, String.toList_ofList] using texts
  have single := eq_singleton_of_intercalate joined (by decide) (by decide)
  obtain ⟨kept, kept_mem, keys⟩ := exists_kept (S := S) mem
  have inside : kept ∈ sorted := (List.perm_insertionSort _ distinct).mem_iff.mpr kept_mem
  have text : kept.toList ∈ [noRole.toList] := by
    rw [← single]
    exact List.mem_map_of_mem inside
  have kept_eq : kept = noRole := String.toList_inj.mp (List.mem_singleton.mp text)
  obtain ⟨role, role_mem, holds⟩ := List.any_eq_true.mp known
  apply apart role role_mem
  rw [kept_eq] at keys
  simp only [Server.same, decide_eq_true_eq] at holds ⊢
  exact keys.symm.trans holds

/-! ## The flags of a rank -/

def flagsOf (rank : Option Nat) : List Nat :=
  [flag (rank.any (· = 15)), flag (rank.any (fun n => 1 ≤ n && n ≤ 10)),
    flag (rank.any (fun n => 11 ≤ n && n ≤ 14)), flag rank.isNone]

theorem flagsOf_ranked : ∀ n ≤ 15, 1 ≤ n → (flagsOf (some n)).countP (· = 1) = 1 := by decide

theorem primaryRole_ranked : ∀ n ≤ 15, 1 ≤ n → primaryRole (some n) ≠ noRole := by decide

/-- The rank of the row of a user. -/
def rankOf (S : Server) (db : Database) (u : Nat) : Option Nat := ((namesOf db u).map (roleRank S)).min?

theorem rowOf_flags (u : User) : [(rowOf S db u).learnerFlag, (rowOf S db u).managerFlag,
    (rowOf S db u).educatorFlag, (rowOf S db u).noRoleFlag] = flagsOf (rankOf S db u.id) := by
  simp only [rowOf, userRow, flagsOf, summary_eq, rankOf]
  by_cases none_there : namesOf db u.id = []
  · simp [none_there]
  · simp [none_there]

theorem rowOf_primaryRole (u : User) : (rowOf S db u).primaryRole = primaryRole (rankOf S db u.id) := by
  simp only [rowOf, userRow, summary_eq, rankOf]
  by_cases none_there : namesOf db u.id = []
  · simp [none_there]
  · simp [none_there]

theorem rowOf_allRoles (u : User) : (rowOf S db u).allRoles =
    if namesOf db u.id = [] then noRole else groupConcat S (namesOf db u.id) := by
  simp only [rowOf, userRow, summary_eq]
  by_cases none_there : namesOf db u.id = []
  · simp [none_there]
  · simp [none_there]

theorem rankOf_nil {u : Nat} (none_there : namesOf db u = []) : rankOf S db u = none := by
  simp [rankOf, none_there]

theorem rankOf_listed {u : Nat} (listed : ∃ name ∈ namesOf db u, rankedRoles.any (S.same name)) :
    ∃ n, rankOf S db u = some n ∧ 1 ≤ n ∧ n ≤ 15 := by
  obtain ⟨name, mem, known⟩ := listed
  have there : roleRank S name ∈ (namesOf db u).map (roleRank S) := List.mem_map_of_mem mem
  cases least : rankOf S db u with
  | none =>
    rw [rankOf, List.min?_eq_none_iff] at least
    rw [least] at there
    cases there
  | some n =>
    rw [rankOf, List.min?_eq_some_iff] at least
    obtain ⟨own, bound⟩ := least
    have upper := bound _ there
    have limit := (roleRank_of_listed known).2
    obtain ⟨other, -, rfl⟩ := List.mem_map.mp own
    by_cases ranked : rankedRoles.any (S.same other)
    · exact ⟨_, rfl, roleRank_of_listed ranked⟩
    · rw [roleRank_of_unlisted ranked] at upper
      omega

theorem rankOf_unlisted {u : Nat} (some_there : namesOf db u ≠ [])
    (unlisted : ∀ name ∈ namesOf db u, ¬rankedRoles.any (S.same name)) : rankOf S db u = some 99 := by
  rw [rankOf, List.min?_eq_some_iff]
  have all : ∀ n ∈ (namesOf db u).map (roleRank S), n = 99 := by
    intro n mem
    obtain ⟨name, there, rfl⟩ := List.mem_map.mp mem
    exact roleRank_of_unlisted (unlisted name there)
  constructor
  · obtain ⟨name, there⟩ := List.exists_mem_of_ne_nil _ some_there
    have mem := List.mem_map_of_mem (f := roleRank S) there
    rw [all _ mem] at mem
    exact mem
  · intro n mem
    rw [all n mem]

/-- The flags of the four kinds add up to the rows where each row has one. -/
theorem total_of_oneFlag {rows : List UserRow}
    (one : ∀ r ∈ rows, r.learnerFlag + r.managerFlag + r.educatorFlag + r.noRoleFlag = 1) :
    (rows.map UserRow.learnerFlag).sum + (rows.map UserRow.managerFlag).sum +
      (rows.map UserRow.educatorFlag).sum + (rows.map UserRow.noRoleFlag).sum = rows.length := by
  induction rows with
  | nil => rfl
  | cons r rest ih =>
    rw [List.forall_mem_cons] at one
    have tail := ih one.2
    have head := one.1
    simp only [List.map_cons, List.sum_cons, List.length_cons]
    omega

theorem sum_flagsOf (rank : Option Nat) (one : (flagsOf rank).countP (· = 1) = 1) : (flagsOf rank).sum = 1 := by
  have bits : ∀ n ∈ flagsOf rank, n = if n = 1 then 1 else 0 := by
    simp only [flagsOf, List.forall_mem_cons, List.not_mem_nil, false_implies, implies_true, and_true, flag]
    refine ⟨?_, ?_, ?_, ?_⟩ <;> split_ifs <;> simp_all
  have same : flagsOf rank = (flagsOf rank).map (fun n => if decide (n = 1) then 1 else 0) := by
    conv_lhs => rw [← List.map_id (flagsOf rank)]
    apply List.map_congr_left
    intro n mem
    simpa using bits n mem
  rw [same, ← sum_map_filter (fun n => decide (n = 1)) (fun _ => 1)]
  simpa [List.countP_eq_length_filter] using one

/-- The flags partition the users exactly where each user with a role has a ranked one. -/
theorem partition_iff_rolesRanked (S : Server) (db : Database) (apart : ∀ name ∈ rankedRoles, ¬S.same noRole name) :
    Partition db (dataset S db) ↔ RolesRanked S db := by
  constructor
  · intro partition u mem listed some_role
    by_contra none_ranked
    have some_there : namesOf db u.id ≠ [] := by
      obtain ⟨name, has⟩ := some_role
      exact List.ne_nil_of_mem (mem_namesOf.mpr has)
    have unlisted : ∀ name ∈ namesOf db u.id, ¬rankedRoles.any (S.same name) :=
      fun name there ranked => none_ranked ⟨name, mem_namesOf.mp there, ranked⟩
    have row : rowOf S db u ∈ dataset S db := by
      rw [dataset_eq]
      exact List.mem_map_of_mem (List.mem_filter.mpr ⟨mem, listed⟩)
    have one := partition.oneFlag _ row
    rw [rowOf_flags, rankOf_unlisted some_there unlisted] at one
    revert one
    decide
  · intro ranked
    have cases_of : ∀ u ∈ db.user, listedUser u → namesOf db u.id = [] ∨
        ∃ name ∈ namesOf db u.id, rankedRoles.any (S.same name) := by
      intro u mem listed
      by_cases none_there : namesOf db u.id = []
      · exact .inl none_there
      · obtain ⟨name, there⟩ := List.exists_mem_of_ne_nil _ none_there
        obtain ⟨other, has, known⟩ := ranked u mem listed ⟨name, mem_namesOf.mp there⟩
        exact .inr ⟨other, mem_namesOf.mpr has, known⟩
    have one : ∀ r ∈ dataset S db,
        [r.learnerFlag, r.managerFlag, r.educatorFlag, r.noRoleFlag].countP (· = 1) = 1 ∧
        r.learnerFlag + r.managerFlag + r.educatorFlag + r.noRoleFlag = 1 := by
      intro r inside
      rw [dataset_eq] at inside
      obtain ⟨u, kept, rfl⟩ := List.mem_map.mp inside
      obtain ⟨mem, listed⟩ := List.mem_filter.mp kept
      have flags : (flagsOf (rankOf S db u.id)).countP (· = 1) = 1 := by
        obtain none_there | known := cases_of u mem listed
        · rw [rankOf_nil none_there]
          decide
        · obtain ⟨n, rank, low, high⟩ := rankOf_listed known
          rw [rank]
          exact flagsOf_ranked n high low
      have sum := sum_flagsOf _ flags
      rw [← rowOf_flags u] at flags sum
      refine ⟨flags, ?_⟩
      simp only [List.sum_cons, List.sum_nil] at sum
      omega
    refine ⟨once_dataset, fun r inside => (one r inside).1, ?_, total_of_oneFlag (fun r inside => (one r inside).2)⟩
    intro r inside
    rw [dataset_eq] at inside
    obtain ⟨u, kept, rfl⟩ := List.mem_map.mp inside
    obtain ⟨mem, listed⟩ := List.mem_filter.mp kept
    have flag_eq : (rowOf S db u).noRoleFlag = flag (rankOf S db u.id).isNone := by
      have flags := @rowOf_flags S db u
      simp only [flagsOf, List.cons.injEq] at flags
      exact flags.2.2.2.1
    rw [flag_eq, rowOf_primaryRole, rowOf_allRoles]
    obtain none_there | known := cases_of u mem listed
    · rw [rankOf_nil none_there, if_pos none_there]
      decide
    · obtain ⟨n, rank, low, high⟩ := rankOf_listed known
      obtain ⟨name, there, -⟩ := id known
      rw [rank, if_neg (List.ne_nil_of_mem there)]
      have label := primaryRole_ranked n high low
      have joined := groupConcat_ne_noRole apart known
      simp [flag, label, joined]

/-- A user whose only role is one of the site's own. -/
def ownRole : Database where
  user := [{ id := 2, username := "a", firstname := "A", lastname := "B" }]
  role := [{ id := 20, shortname := "coach" }]
  context := [{ id := 1, contextlevel := 10, instanceid := 0 }]
  roleAssignments := [{ roleid := 20, contextid := 1, userid := 2 }]
  userIds := List.nodup_singleton 2

theorem partition_iff_rolesRanked_plain : (∀ name ∈ rankedRoles, ¬Server.plain.same noRole name) ∧
    (Partition ownRole (dataset Server.plain ownRole) ↔ RolesRanked Server.plain ownRole) := by
  have apart : ∀ name ∈ rankedRoles, ¬Server.plain.same noRole name := by decide +kernel
  exact ⟨apart, partition_iff_rolesRanked Server.plain ownRole apart⟩

/-- The user is counted by no flag. -/
theorem ownRole_uncounted : ¬Partition ownRole (dataset Server.plain ownRole) := by
  intro partition
  have total := partition.total
  revert total
  decide +kernel

end UserReport
end XpBuilder.Moodle
