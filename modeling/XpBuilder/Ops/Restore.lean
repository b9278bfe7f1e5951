import Mathlib.Data.List.Induction
import XpBuilder.Library.Lists
import XpBuilder.Ops.Backup

/-! Which dumps a restore loads. Without a manifest it is the first in name order of all
that lie in the directory, so that of the oldest backup that has one. -/

namespace XpBuilder.Ops

/-! ## Names -/

theorem kot5Name_toList (word : String) (s : Stamp) : (kot5Name word s).toList =
    ("kot5-".toList ++ word.toList ++ ['-']) ++ (s.text.toList ++ ".dump".toList) := by
  simp [kot5Name]

/-- The names are in the order of the times. -/
theorem kot5Name_lt {word : String} {s u : Stamp} (less : s.text < u.text) :
    kot5Name word s < kot5Name word u := by
  rw [String.lt_iff_toList_lt] at less ⊢
  rw [kot5Name_toList, kot5Name_toList]
  apply List.append_left_lt
  exact Lists.append_lt_append (s.length_eq.trans u.length_eq.symm) less _

theorem kot5Name_le_iff {word : String} {s u : Stamp} :
    kot5Name word s ≤ kot5Name word u ↔ s.text ≤ u.text := by
  constructor
  · intro le
    by_contra not_le
    exact absurd (kot5Name_lt (lt_of_not_ge not_le)) (not_lt_of_ge le)
  · intro le
    obtain less | same := lt_or_eq_of_le le
    · exact (kot5Name_lt less).le
    · unfold kot5Name
      rw [same]

theorem kot5Name_inj {word : String} {s u : Stamp} :
    kot5Name word s = kot5Name word u ↔ s.text = u.text := by
  rw [le_antisymm_iff, kot5Name_le_iff, kot5Name_le_iff, ← le_antisymm_iff]

/-- A character that a word has, and a name has not. -/
theorem not_matchesGlob {word name : String} {c : Char} (inside : c ∈ word.toList)
    (absent : c ∉ name.toList) : matchesGlob word name = false := by
  have apart : ¬word.toList <:+: name.toList.take (name.toList.length - 5) :=
    fun infix' => absent (List.mem_of_mem_take (infix'.subset inside))
  simp [matchesGlob, apart]

theorem mem_kot5Name {word : String} {s : Stamp} {c : Char} (mem : c ∈ (kot5Name word s).toList)
    (letter : ¬c.isDigit ∧ c ≠ '-') : c ∈ ("kot5-" ++ word ++ "-.dump").toList := by
  rw [kot5Name_toList] at mem
  simp only [List.mem_append, List.mem_singleton, String.toList_append] at mem ⊢
  have other : c ∉ s.text.toList := by
    intro there
    obtain digit | dash := s.plain c there
    · exact letter.1 digit
    · exact letter.2 dash
  have dump : ".dump".toList ⊆ "-.dump".toList := by decide
  cases mem with
  | inl front =>
    cases front with
    | inl word => exact .inl word
    | inr dash => exact absurd dash letter.2
  | inr back =>
    cases back with
    | inl stamp => exact absurd stamp other
    | inr extension => exact .inr (dump extension)

/-- The letter that tells a part from the other dumps. -/
def Part.letter : Part → Char
  | .uploads => 'l'
  | .mariadb => 'i'

theorem matchesGlob_kot5Name (p : Part) (s : Stamp) : matchesGlob p.word (kot5Name p.word s) := by
  have first : (kot5Name p.word s).toList.head? ≠ some '.' := by
    rw [kot5Name_toList]
    simp
  have last : ".dump".toList.isSuffixOf (kot5Name p.word s).toList := by
    rw [List.isSuffixOf_iff_suffix, kot5Name_toList, ← List.append_assoc]
    exact List.suffix_append _ _
  have middle : p.word.toList <:+:
      (kot5Name p.word s).toList.take ((kot5Name p.word s).toList.length - 5) := by
    have cut : (kot5Name p.word s).toList.take ((kot5Name p.word s).toList.length - 5) =
        "kot5-".toList ++ p.word.toList ++ (['-'] ++ s.text.toList) := by
      have shape : (kot5Name p.word s).toList =
          ("kot5-".toList ++ p.word.toList ++ (['-'] ++ s.text.toList)) ++ ".dump".toList := by
        simp [kot5Name_toList]
      have five : ".dump".toList.length = 5 := rfl
      rw [shape, List.length_append, five, Nat.add_sub_cancel, List.take_left]
    rw [cut]
    exact ⟨_, _, rfl⟩
  simp only [matchesGlob, Bool.and_eq_true, decide_eq_true_eq]
  exact ⟨⟨first, last⟩, middle⟩

theorem not_matchesGlob_metadata (p : Part) (s : Stamp) :
    matchesGlob p.word (kot5Name "metadata" s) = false := by
  have inside : p.letter ∈ p.word.toList := by cases p <;> decide
  have letter : ¬p.letter.isDigit ∧ p.letter ≠ '-' := by cases p <;> decide
  have elsewhere : p.letter ∉ ("kot5-" ++ "metadata" ++ "-.dump").toList := by cases p <;> decide
  exact not_matchesGlob inside (fun mem => elsewhere (mem_kot5Name mem letter))

theorem not_matchesGlob_other {p q : Part} (other : q ≠ p) (s : Stamp) :
    matchesGlob p.word (kot5Name q.word s) = false := by
  have inside : p.letter ∈ p.word.toList := by cases p <;> decide
  have letter : ¬p.letter.isDigit ∧ p.letter ≠ '-' := by cases p <;> decide
  have elsewhere : p.letter ∉ ("kot5-" ++ q.word ++ "-.dump").toList := by
    cases p <;> cases q
    · exact absurd rfl other
    · decide
    · decide
    · exact absurd rfl other
  exact not_matchesGlob inside (fun mem => elsewhere (mem_kot5Name mem letter))

/-! ## The disk -/

theorem kot5Name_ne_metadata (p : Part) (s u : Stamp) : kot5Name p.word s ≠ kot5Name "metadata" u := by
  intro same
  have matched := matchesGlob_kot5Name p s
  rw [same, not_matchesGlob_metadata] at matched
  cases matched

theorem kot5Name_ne_other {p q : Part} (other : q ≠ p) (s u : Stamp) :
    kot5Name p.word s ≠ kot5Name q.word u := by
  intro same
  have matched := matchesGlob_kot5Name p s
  rw [same, not_matchesGlob_other other] at matched
  cases matched

theorem mem_parts {b : Backup} {p : Part} : p ∈ [Part.uploads, Part.mariadb].filter b.has ↔ b.has p := by
  cases p <;> simp [List.mem_filter]

/-- What a backup of the client's wrapper writes. -/
theorem mem_files_kot5 {b : Backup} (tool : b.tool = .kot5) {k : Nat} {n : String} {c : Content} :
    (n, c) ∈ b.files k ↔ (n = kot5Name "metadata" b.stamp ∧ c = .metadata k) ∨
      ∃ p, b.has p ∧ n = kot5Name p.word b.stamp ∧ c = .dump k p := by
  simp only [Backup.files, Backup.metadataName, Backup.partName, tool, List.append_nil,
    List.mem_cons, List.mem_map, Prod.mk.injEq, mem_parts]
  apply or_congr Iff.rfl
  apply exists_congr
  intro p
  constructor
  · rintro ⟨has, rfl, rfl⟩
    exact ⟨has, rfl, rfl⟩
  · rintro ⟨has, rfl, rfl⟩
    exact ⟨has, rfl, rfl⟩

theorem files_nodup (b : Backup) (k : Nat) : ((b.files k).map Prod.fst).Nodup := by
  have parts : Part.uploads.word = "uploads" ∧ Part.mariadb.word = "mariadb" := ⟨rfl, rfl⟩
  unfold Backup.files Backup.metadataName Backup.partName
  cases b.tool with
  | kot5 =>
    have first := kot5Name_ne_metadata .uploads b.stamp b.stamp
    have second := kot5Name_ne_metadata .mariadb b.stamp b.stamp
    have third := kot5Name_ne_other (p := .uploads) (q := .mariadb) (by simp) b.stamp b.stamp
    cases uploads : b.uploads <;> cases mariadb : b.mariadb <;>
      simp [Backup.has, uploads, mariadb, first.symm, second.symm, third]
  | backupSh root project =>
    cases uploads : b.uploads <;> cases mariadb : b.mariadb <;>
      simp [Backup.has, uploads, mariadb, Part.fileName, parts]

theorem getElem?_concat_iff {history : List Backup} {a b : Backup} {k : Nat} :
    (history ++ [a])[k]? = some b ↔ history[k]? = some b ∨ (k = history.length ∧ a = b) := by
  obtain less | same | more := Nat.lt_trichotomy k history.length
  · rw [List.getElem?_append_left less]
    constructor
    · exact .inl
    · rintro (found | ⟨same, -⟩)
      · exact found
      · omega
  · subst same
    simp
  · have past : history[k]? = none := List.getElem?_eq_none (by omega)
    have past' : (history ++ [a])[k]? = none := List.getElem?_eq_none (by simp; omega)
    simp only [past, past', reduceCtorEq, false_or, false_iff]
    omega

theorem afterBackups_concat (history : List Backup) (a : Backup) :
    afterBackups (history ++ [a]) = a.take history.length (afterBackups history) := by
  simp [afterBackups, List.zipIdx_append]

section Take
variable {a : Backup} {k : Nat} {disk : Disk} {dir n : String}

theorem get_take_of_mem {c : Content} (mem : (n, c) ∈ a.files k) :
    ((a.take k disk) a.directory).get n = some c := by
  unfold Backup.take
  rw [Function.update_self]
  exact Dict.get_setAll_of_mem (files_nodup a k) mem _

theorem get_take_of_not_mem (unwritten : ¬(a.directory = dir ∧ n ∈ (a.files k).map Prod.fst)) :
    ((a.take k disk) dir).get n = (disk dir).get n := by
  unfold Backup.take
  by_cases here : a.directory = dir
  · subst here
    rw [Function.update_self]
    exact Dict.get_setAll_of_not_mem (fun named => unwritten ⟨rfl, named⟩) _
  · rw [Function.update_of_ne (Ne.symm here)]

end Take

theorem getElem?_lt {history : List Backup} {k : Nat} {b : Backup} (found : history[k]? = some b) :
    k < history.length := (List.getElem?_eq_some_iff.mp found).1

/-- A file holds what the last backup wrote that has a file of this name. -/
theorem get_afterBackups (history : List Backup) (dir n : String) (c : Content) :
    (afterBackups history dir).get n = some c ↔
      ∃ (k : Nat) (b : Backup), history[k]? = some b ∧ b.directory = dir ∧ (n, c) ∈ b.files k ∧
        ∀ (j : Nat) (b' : Backup), history[j]? = some b' → b'.directory = dir →
          n ∈ (b'.files j).map Prod.fst → j ≤ k := by
  induction history using List.reverseRecOn with
  | nil => simp [afterBackups]
  | append_singleton history a ih =>
    rw [afterBackups_concat]
    by_cases written : a.directory = dir ∧ n ∈ (a.files history.length).map Prod.fst
    · obtain ⟨here, named⟩ := written
      subst here
      obtain ⟨e, mem, rfl⟩ := List.mem_map.mp named
      rw [get_take_of_mem mem, Option.some.injEq]
      constructor
      · rintro rfl
        refine ⟨history.length, a, getElem?_concat_iff.mpr (.inr ⟨rfl, rfl⟩), rfl, mem, ?_⟩
        intro j b' found _ _
        obtain earlier | ⟨last, -⟩ := getElem?_concat_iff.mp found
        · exact (getElem?_lt earlier).le
        · exact last.le
      · rintro ⟨k, b, found, -, there, latest⟩
        have last := latest history.length a (getElem?_concat_iff.mpr (.inr ⟨rfl, rfl⟩)) rfl named
        obtain earlier | ⟨rfl, rfl⟩ := getElem?_concat_iff.mp found
        · exact absurd (getElem?_lt earlier) (by omega)
        · have one := Lists.eq_of_key (files_nodup a history.length) mem there rfl
          rw [one]
    · rw [get_take_of_not_mem written, ih]
      constructor
      · rintro ⟨k, b, found, there, mem, latest⟩
        refine ⟨k, b, getElem?_concat_iff.mpr (.inl found), there, mem, ?_⟩
        intro j b' found' there' named
        obtain earlier | ⟨rfl, rfl⟩ := getElem?_concat_iff.mp found'
        · exact latest j b' earlier there' named
        · exact absurd ⟨there', named⟩ written
      · rintro ⟨k, b, found, there, mem, latest⟩
        obtain earlier | ⟨rfl, rfl⟩ := getElem?_concat_iff.mp found
        · refine ⟨k, b, earlier, there, mem, fun j b' found' => ?_⟩
          exact latest j b' (getElem?_concat_iff.mpr (.inl found'))
        · exact absurd ⟨there, List.mem_map_of_mem mem⟩ written

/-- The files that there are. -/
theorem get_afterBackups_ne_none (history : List Backup) (dir n : String) :
    (afterBackups history dir).get n ≠ none ↔
      ∃ (k : Nat) (b : Backup), history[k]? = some b ∧ b.directory = dir ∧
        n ∈ (b.files k).map Prod.fst := by
  induction history using List.reverseRecOn with
  | nil => simp [afterBackups]
  | append_singleton history a ih =>
    rw [afterBackups_concat]
    by_cases written : a.directory = dir ∧ n ∈ (a.files history.length).map Prod.fst
    · obtain ⟨here, named⟩ := written
      subst here
      obtain ⟨e, mem, rfl⟩ := List.mem_map.mp named
      rw [get_take_of_mem mem]
      exact iff_of_true (by simp)
        ⟨history.length, a, getElem?_concat_iff.mpr (.inr ⟨rfl, rfl⟩), rfl, named⟩
    · rw [get_take_of_not_mem written, ih]
      constructor
      · rintro ⟨k, b, found, rest⟩
        exact ⟨k, b, getElem?_concat_iff.mpr (.inl found), rest⟩
      · rintro ⟨k, b, found, rest⟩
        obtain earlier | ⟨rfl, rfl⟩ := getElem?_concat_iff.mp found
        · exact ⟨k, b, earlier, rest⟩
        · exact absurd rest written

theorem afterBackups_untouched {history : List Backup} {dir : String}
    (elsewhere : ∀ (j : Nat) (b : Backup), history[j]? = some b → b.directory ≠ dir) :
    afterBackups history dir = Dict.empty := by
  induction history using List.reverseRecOn with
  | nil => rfl
  | append_singleton history a ih =>
    have other := elsewhere history.length a (getElem?_concat_iff.mpr (.inr ⟨rfl, rfl⟩))
    rw [afterBackups_concat, Backup.take, Function.update_of_ne other.symm]
    exact ih (fun j b found => elsewhere j b (getElem?_concat_iff.mpr (.inl found)))

/-- A directory of one backup holds its files. -/
theorem afterBackups_own {history : List Backup} {k : Nat} {b : Backup}
    (at_k : history[k]? = some b)
    (own : ∀ (j : Nat) (b' : Backup), history[j]? = some b' → b'.directory = b.directory → j = k) :
    afterBackups history b.directory = Dict.empty.setAll (b.files k) := by
  induction history using List.reverseRecOn with
  | nil => simp at at_k
  | append_singleton history a ih =>
    rw [afterBackups_concat]
    obtain earlier | ⟨rfl, rfl⟩ := getElem?_concat_iff.mp at_k
    · have other : a.directory ≠ b.directory := by
        intro same
        have last := own history.length a (getElem?_concat_iff.mpr (.inr ⟨rfl, rfl⟩)) same
        have less := getElem?_lt earlier
        omega
      rw [Backup.take, Function.update_of_ne other.symm]
      exact ih earlier (fun j b' found => own j b' (getElem?_concat_iff.mpr (.inl found)))
    · rw [Backup.take, Function.update_self, afterBackups_untouched]
      intro j b' found same
      have last := own j b' (getElem?_concat_iff.mpr (.inl found)) same
      have less := getElem?_lt found
      omega

/-! ## One directory for all -/

theorem directory_kot5 {b : Backup} (tool : b.tool = .kot5) : b.directory = backupDir := by
  simp [Backup.directory, tool]

/-- A directory that `bin/backup.sh` makes ends in a digit. -/
theorem directory_eq_backupDir_iff {b : Backup} : b.directory = backupDir ↔ b.tool = .kot5 := by
  constructor
  · intro same
    cases tool : b.tool with
    | kot5 => rfl
    | backupSh root project =>
      have nonempty : b.stamp.text.toList ≠ [] := by
        have length := b.stamp.length_eq
        intro empty
        simp [empty] at length
      have ending : b.directory.toList.getLast? = some (b.stamp.text.toList.getLast nonempty) := by
        have shape : b.directory.toList =
            (root ++ "/" ++ project ++ "/").toList ++ b.stamp.text.toList := by
          simp [Backup.directory, tool]
        rw [shape, List.getLast?_append_of_ne_nil _ nonempty,
          List.getLast?_eq_some_getLast nonempty]
      have other : backupDir.toList.getLast? = some 's' := by decide
      rw [same, other, Option.some.injEq] at ending
      have plain := b.stamp.plain _ (List.getLast_mem nonempty)
      rw [← ending] at plain
      exact absurd plain (by decide)
  · exact directory_kot5

theorem mem_names_kot5 {b : Backup} (tool : b.tool = .kot5) {k : Nat} {n : String} :
    n ∈ (b.files k).map Prod.fst ↔ n = kot5Name "metadata" b.stamp ∨
      ∃ p, b.has p ∧ n = kot5Name p.word b.stamp := by
  constructor
  · intro named
    obtain ⟨⟨m, c⟩, mem, rfl⟩ := List.mem_map.mp named
    obtain ⟨name, -⟩ | ⟨p, has, name, -⟩ := (mem_files_kot5 tool).mp mem
    · exact .inl name
    · exact .inr ⟨p, has, name⟩
  · intro named
    obtain name | ⟨p, has, name⟩ := named
    · exact List.mem_map.mpr ⟨(n, .metadata k), (mem_files_kot5 tool).mpr (.inl ⟨name, rfl⟩), rfl⟩
    · exact List.mem_map.mpr ⟨(n, .dump k p), (mem_files_kot5 tool).mpr (.inr ⟨p, has, name, rfl⟩), rfl⟩

/-- The names of the client's wrapper that a pattern matches. -/
theorem mem_names_kot5_matching {b : Backup} (tool : b.tool = .kot5) {k : Nat} {n : String} {p : Part} :
    n ∈ (b.files k).map Prod.fst ∧ matchesGlob p.word n ↔
      b.has p ∧ n = kot5Name p.word b.stamp := by
  rw [mem_names_kot5 tool]
  constructor
  · intro ⟨named, matched⟩
    obtain rfl | ⟨q, has, rfl⟩ := named
    · rw [not_matchesGlob_metadata] at matched
      cases matched
    · by_cases same : q = p
      · subst same
        exact ⟨has, rfl⟩
      · rw [not_matchesGlob_other same] at matched
        cases matched
  · intro ⟨has, name⟩
    subst name
    exact ⟨.inr ⟨p, has, rfl⟩, matchesGlob_kot5Name p b.stamp⟩

theorem no_manifest (history : List Backup) :
    (afterBackups history backupDir).get "manifest.json" = none := by
  by_contra present
  obtain ⟨k, b, -, here, named⟩ := (get_afterBackups_ne_none history backupDir _).mp present
  have initial : ∀ (word : String) (s : Stamp), "manifest.json" ≠ kot5Name word s := by
    intro word s same
    have lists := congrArg (fun t : String => t.toList.head?) same
    simp [kot5Name_toList] at lists
  obtain name | ⟨p, -, name⟩ := (mem_names_kot5 (directory_eq_backupDir_iff.mp here)).mp named
  · exact initial _ _ name
  · exact initial _ _ name

theorem mem_glob {files : Dict String Content} {word n : String} :
    n ∈ (files.entries.map Prod.fst).filter (matchesGlob word) ↔
      files.get n ≠ none ∧ matchesGlob word n := by
  rw [List.mem_filter, ne_eq, Dict.get_eq_none_iff, not_not]

/-- Without a manifest it is the least of the names that match. -/
theorem companion_eq_head? {files : Dict String Content} {p : Part}
    (unlisted : files.get "manifest.json" = none) :
    companion files p = (glob files p.word).head? := by
  simp only [companion, manifestEntry, unlisted, Option.filter_none]
  cases whole : glob files p.word with
  | nil => rfl
  | cons c rest =>
    have mem : c ∈ glob files p.word := by
      rw [whole]
      exact List.mem_cons_self
    rw [glob, List.mem_insertionSort, mem_glob] at mem
    have present : (files.get c).isSome := Option.isSome_iff_ne_none.mpr mem.1
    simp [present]

theorem companion_eq_some {files : Dict String Content} {p : Part} {n : String}
    (unlisted : files.get "manifest.json" = none) : companion files p = some n ↔
      (files.get n ≠ none ∧ matchesGlob p.word n) ∧
        ∀ m, files.get m ≠ none → matchesGlob p.word m → n ≤ m := by
  rw [companion_eq_head? unlisted, glob, Lists.head?_insertionSort, mem_glob]
  simp only [mem_glob, and_imp]

theorem companion_ne_none {files : Dict String Content} {p : Part} {n : String}
    (unlisted : files.get "manifest.json" = none) (present : files.get n ≠ none)
    (matched : matchesGlob p.word n) : companion files p ≠ none := by
  have mem : n ∈ glob files p.word := by
    rw [glob, List.mem_insertionSort, mem_glob]
    exact ⟨present, matched⟩
  rw [companion_eq_head? unlisted, ne_eq, List.head?_eq_none_iff]
  intro empty
  rw [empty] at mem
  cases mem

/-- The dumps of a part in the directory of the client's wrapper. -/
theorem part_names (history : List Backup) (p : Part) (n : String) :
    ((afterBackups history backupDir).get n ≠ none ∧ matchesGlob p.word n) ↔
      ∃ (j : Nat) (b : Backup), history[j]? = some b ∧ b.tool = .kot5 ∧ b.has p ∧
        n = kot5Name p.word b.stamp := by
  rw [get_afterBackups_ne_none]
  constructor
  · intro ⟨⟨j, b, found, here, named⟩, matched⟩
    have tool := directory_eq_backupDir_iff.mp here
    exact ⟨j, b, found, tool, (mem_names_kot5_matching tool).mp ⟨named, matched⟩⟩
  · intro ⟨j, b, found, tool, part⟩
    have both := (mem_names_kot5_matching (k := j) tool).mpr part
    exact ⟨⟨j, b, found, directory_kot5 tool, both.1⟩, both.2⟩

/-- No backup of the client's wrapper that has the part comes before this one in the
order of names, and this one has it if any has. -/
def Foremost (history : List Backup) (p : Part) (k : Nat) (b : Backup) : Prop :=
  ∀ (j : Nat) (b' : Backup), history[j]? = some b' → b'.tool = .kot5 → b'.has p →
    b.has p ∧ (b.stamp.text < b'.stamp.text ∨ (b.stamp.text = b'.stamp.text ∧ j ≤ k))

/-- The dump of a part that the backup itself made. -/
def Backup.own (b : Backup) (k : Nat) (p : Part) : Option Content :=
  if b.has p then some (.dump k p) else none

theorem companion_backupDir (history : List Backup) (p : Part) (n : String) :
    companion (afterBackups history backupDir) p = some n ↔
      (∃ (j : Nat) (b : Backup), history[j]? = some b ∧ b.tool = .kot5 ∧ b.has p ∧
        n = kot5Name p.word b.stamp) ∧
      ∀ (j : Nat) (b : Backup), history[j]? = some b → b.tool = .kot5 → b.has p →
        n ≤ kot5Name p.word b.stamp := by
  rw [companion_eq_some (no_manifest history), part_names]
  apply and_congr_right
  intro _
  constructor
  · intro least j b found tool has
    have both := (part_names history p _).mpr ⟨j, b, found, tool, has, rfl⟩
    exact least _ both.1 both.2
  · intro least m present matched
    obtain ⟨j, b, found, tool, has, rfl⟩ := (part_names history p m).mp ⟨present, matched⟩
    exact least j b found tool has

theorem loaded_eq_none_iff (history : List Backup) (p : Part) :
    loaded (afterBackups history backupDir) p = none ↔
      ∀ (j : Nat) (b' : Backup), history[j]? = some b' → b'.tool = .kot5 → ¬b'.has p := by
  constructor
  · intro nothing j b' found tool has
    have both := (part_names history p _).mpr ⟨j, b', found, tool, has, rfl⟩
    cases chosen : companion (afterBackups history backupDir) p with
    | none => exact companion_ne_none (no_manifest history) both.1 both.2 chosen
    | some n =>
      have present := ((companion_eq_some (no_manifest history)).mp chosen).1.1
      unfold loaded at nothing
      rw [chosen] at nothing
      exact present nothing
  · intro without
    unfold loaded
    cases chosen : companion (afterBackups history backupDir) p with
    | none => rfl
    | some n =>
      obtain ⟨⟨j, b, found, tool, has, -⟩, -⟩ := (companion_backupDir history p n).mp chosen
      exact absurd has (without j b found tool)

/-- The dump that is loaded is of this backup. -/
theorem loaded_eq_some_iff {history : List Backup} {k : Nat} {b : Backup}
    (at_k : history[k]? = some b) (tool : b.tool = .kot5) (p : Part) :
    loaded (afterBackups history backupDir) p = some (.dump k p) ↔
      b.has p ∧ Foremost history p k b := by
  unfold loaded
  rw [Option.bind_eq_some_iff]
  constructor
  · intro ⟨n, chosen, held⟩
    have least := ((companion_backupDir history p n).mp chosen).2
    obtain ⟨k', b', found, here, mem, latest⟩ := (get_afterBackups history backupDir n _).mp held
    have tool' := directory_eq_backupDir_iff.mp here
    obtain ⟨-, other⟩ | ⟨q, has, rfl, same⟩ := (mem_files_kot5 tool').mp mem
    · cases other
    · cases same
      rw [at_k, Option.some.injEq] at found
      subst found
      refine ⟨has, fun j b' found' tool'' has' => ⟨has, ?_⟩⟩
      have le := kot5Name_le_iff.mp (least j b' found' tool'' has')
      obtain less | same := lt_or_eq_of_le le
      · exact .inl less
      · have named : kot5Name p.word b.stamp ∈ (b'.files j).map Prod.fst :=
          (mem_names_kot5 tool'').mpr (.inr ⟨p, has', kot5Name_inj.mpr same⟩)
        exact .inr ⟨same, latest j b' found' (directory_kot5 tool'') named⟩
  · intro ⟨has, foremost⟩
    refine ⟨kot5Name p.word b.stamp, (companion_backupDir history p _).mpr ⟨?_, ?_⟩, ?_⟩
    · exact ⟨k, b, at_k, tool, has, rfl⟩
    · intro j b' found tool' has'
      rw [kot5Name_le_iff]
      obtain ⟨-, less | ⟨same, -⟩⟩ := foremost j b' found tool' has'
      · exact less.le
      · exact same.le
    · rw [get_afterBackups]
      refine ⟨k, b, at_k, directory_kot5 tool, ?_, ?_⟩
      · exact (mem_files_kot5 tool).mpr (.inr ⟨p, has, rfl, rfl⟩)
      · intro j b' found here named
        have tool' := directory_eq_backupDir_iff.mp here
        obtain ⟨has', name⟩ :=
          (mem_names_kot5_matching tool').mp ⟨named, matchesGlob_kot5Name p b.stamp⟩
        obtain ⟨-, less | ⟨-, earlier⟩⟩ := foremost j b' found tool' has'
        · rw [kot5Name_inj.mp name] at less
          exact absurd less (lt_irrefl _)
        · exact earlier

theorem loaded_own_iff {history : List Backup} {k : Nat} {b : Backup}
    (at_k : history[k]? = some b) (tool : b.tool = .kot5) (p : Part) :
    loaded (afterBackups history backupDir) p = b.own k p ↔ Foremost history p k b := by
  unfold Backup.own
  split
  · rename_i has
    rw [loaded_eq_some_iff at_k tool]
    simp [has]
  · rename_i hasNot
    rw [loaded_eq_none_iff]
    unfold Foremost
    simp [hasNot]

/-! ## A directory of its own -/

theorem mem_files_backupSh {b : Backup} {root project : String}
    (tool : b.tool = .backupSh root project) {k : Nat} {n : String} {c : Content} :
    (n, c) ∈ b.files k ↔ (n = "superset-metadata.dump" ∧ c = .metadata k) ∨
      (∃ p, b.has p ∧ n = p.fileName ∧ c = .dump k p) ∨
      (n = "manifest.json" ∧ c = .manifest (b.listed .uploads) (b.listed .mariadb)) := by
  simp only [Backup.files, Backup.metadataName, Backup.partName, tool, List.mem_cons,
    List.mem_append, List.mem_map, Prod.mk.injEq, mem_parts, List.not_mem_nil, or_false]
  apply or_congr Iff.rfl
  apply or_congr _ Iff.rfl
  apply exists_congr
  intro p
  apply and_congr_right
  intro _
  exact and_congr eq_comm eq_comm

/-- The other names in such a directory. -/
theorem not_matchesGlob_backupSh (p : Part) :
    matchesGlob p.word "superset-metadata.dump" = false ∧ matchesGlob p.word "manifest.json" = false ∧
      ∀ q, matchesGlob p.word (Part.fileName q) → q = p := by
  have inside : p.letter ∈ p.word.toList := by cases p <;> decide
  have metadata : p.letter ∉ "superset-metadata.dump".toList := by cases p <;> decide
  have suffix' : ".dump".toList.isSuffixOf "manifest.json".toList = false := by decide
  refine ⟨not_matchesGlob inside metadata, ?_, ?_⟩
  · unfold matchesGlob
    rw [suffix', Bool.and_false, Bool.false_and]
  · intro q matched
    by_contra apart
    have elsewhere : p.letter ∉ (Part.fileName q).toList := by
      cases p <;> cases q
      · exact absurd rfl apart
      · decide
      · decide
      · exact absurd rfl apart
    rw [not_matchesGlob inside elsewhere] at matched
    cases matched

/-- With a manifest the parts are those that it lists. -/
theorem loaded_backupSh {b : Backup} {root project : String} (tool : b.tool = .backupSh root project)
    (k : Nat) (p : Part) : loaded (Dict.empty.setAll (b.files k)) p = b.own k p := by
  have held : ∀ {n c}, (n, c) ∈ b.files k → (Dict.empty.setAll (b.files k)).get n = some c :=
    fun mem => Dict.get_setAll_of_mem (files_nodup b k) mem _
  have manifest := held ((mem_files_backupSh tool).mpr (.inr (.inr ⟨rfl, rfl⟩)))
  have entry : manifestEntry (Dict.empty.setAll (b.files k)) p = b.listed p := by
    unfold manifestEntry Backup.listed
    rw [manifest]
    cases p
    all_goals
      simp only [Backup.listed]
      split <;> rfl
  unfold Backup.own loaded companion
  rw [entry, Backup.listed]
  by_cases has : b.has p
  · have dump := held ((mem_files_backupSh tool).mpr (.inr (.inl ⟨p, has, rfl, rfl⟩)))
    have present : ((Dict.empty.setAll (b.files k)).get p.fileName).isSome := by
      rw [dump, Option.isSome_some]
    rw [if_pos has, if_pos has, Option.filter_some, if_pos present]
    exact dump
  · have unmatched : glob (Dict.empty.setAll (b.files k)) p.word = [] := by
      rw [List.eq_nil_iff_forall_not_mem]
      intro n mem
      rw [glob, List.mem_insertionSort, mem_glob] at mem
      obtain ⟨present, matched⟩ := mem
      have named : n ∈ (b.files k).map Prod.fst := by
        by_contra absent
        exact present (Dict.get_setAll_of_not_mem absent _)
      obtain ⟨⟨m, c⟩, there, rfl⟩ := List.mem_map.mp named
      have others := not_matchesGlob_backupSh p
      obtain ⟨rfl, -⟩ | ⟨q, has', rfl, -⟩ | ⟨rfl, -⟩ := (mem_files_backupSh tool).mp there
      · rw [others.1] at matched
        cases matched
      · rw [others.2.2 q matched] at has'
        exact has has'
      · rw [others.2.1] at matched
        cases matched
    simp [has, unmatched]

/-! ## Any sequence of backups -/

/-- The restore loads the uploads and the MariaDB of the backup that it is given. -/
def LoadsOwn (history : List Backup) (k : Nat) (b : Backup) : Prop :=
  restore (afterBackups history b.directory) b.metadataName =
    some (b.own k .uploads, b.own k .mariadb)

/-- `bin/backup.sh` makes a directory for each backup. -/
def Separate (history : List Backup) : Prop :=
  ∀ (i j : Nat) (a b : Backup), history[i]? = some a → history[j]? = some b →
    a.tool ≠ .kot5 → b.tool ≠ .kot5 → a.directory = b.directory → i = j

theorem metadata_present {history : List Backup} {k : Nat} {b : Backup}
    (at_k : history[k]? = some b) :
    ∃ c, (afterBackups history b.directory).get b.metadataName = some c := by
  have named : b.metadataName ∈ (b.files k).map Prod.fst := by simp [Backup.files]
  apply Option.ne_none_iff_exists'.mp
  exact (get_afterBackups_ne_none _ _ _).mpr ⟨k, b, at_k, rfl, named⟩

theorem loadsOwn_iff_parts {history : List Backup} {k : Nat} {b : Backup}
    (at_k : history[k]? = some b) : LoadsOwn history k b ↔
      ∀ p, loaded (afterBackups history b.directory) p = b.own k p := by
  obtain ⟨c, present⟩ := metadata_present at_k
  simp only [LoadsOwn, restore, present, Option.map_some, Option.some.injEq, Prod.mk.injEq]
  constructor
  · intro ⟨uploads, mariadb⟩ p
    cases p
    · exact uploads
    · exact mariadb
  · intro all
    exact ⟨all .uploads, all .mariadb⟩

/-- A backup of `bin/backup.sh` is always restored as it was taken. One of the client's
wrapper is if, part by part, it is the first in the directory to have it. -/
theorem restore_loadsOwn_iff (history : List Backup) (separate : Separate history) (k : Nat)
    (b : Backup) (at_k : history[k]? = some b) :
    LoadsOwn history k b ↔ (b.tool = .kot5 → ∀ p, Foremost history p k b) := by
  rw [loadsOwn_iff_parts at_k]
  cases tool : b.tool with
  | kot5 =>
    rw [directory_kot5 tool]
    simp only [loaded_own_iff at_k tool, forall_const]
  | backupSh root project =>
    have other : b.tool ≠ .kot5 := by simp [tool]
    have own : ∀ (j : Nat) (b' : Backup), history[j]? = some b' → b'.directory = b.directory →
        j = k := by
      intro j b' found same
      have other' : b'.tool ≠ .kot5 := by
        rw [ne_eq, ← directory_eq_backupDir_iff, same, directory_eq_backupDir_iff]
        exact other
      exact separate j k b' b found at_k other' other same
    rw [afterBackups_own at_k own]
    apply iff_of_true
    · exact loaded_backupSh tool k
    · intro impossible
      cases impossible

def morning : Stamp := ⟨"20260725-080000", by decide, plain_of_all (by decide)⟩

def evening : Stamp := ⟨"20260725-200000", by decide, plain_of_all (by decide)⟩

/-- Two backups of the client's wrapper on one day; the uploads came in between. -/
def quietMorning : List Backup := [⟨.kot5, morning, false, true⟩, ⟨.kot5, evening, true, false⟩]

theorem separate_kot5 {history : List Backup} (all : ∀ b ∈ history, b.tool = .kot5) :
    Separate history := by
  intro i j a b found _ other
  exact absurd (all a (List.mem_of_getElem? found)) other

theorem evening_not_foremost_mariadb :
    ¬Foremost quietMorning .mariadb 1 ⟨.kot5, evening, true, false⟩ := by
  intro foremost
  have part := (foremost 0 ⟨.kot5, morning, false, true⟩ rfl rfl rfl).1
  cases part

/-- The evening's metadata is restored with the MariaDB of the morning. -/
theorem evening_loads_morning : ¬LoadsOwn quietMorning 1 ⟨.kot5, evening, true, false⟩ := by
  have found : quietMorning[1]? = some ⟨.kot5, evening, true, false⟩ := rfl
  rw [loadsOwn_iff_parts found]
  intro all
  have own := all .mariadb
  rw [directory_kot5 rfl, loaded_own_iff found rfl] at own
  exact evening_not_foremost_mariadb own

/-- The first backup with both parts, and a later one. -/
theorem morning_loadsOwn :
    LoadsOwn [⟨.kot5, morning, true, true⟩, ⟨.kot5, evening, true, false⟩] 0
      ⟨.kot5, morning, true, true⟩ := by
  have separate : Separate [⟨.kot5, morning, true, true⟩, ⟨.kot5, evening, true, false⟩] :=
    separate_kot5 (by simp)
  refine (restore_loadsOwn_iff _ separate 0 _ rfl).mpr (fun _ p j b' found _ _ => ⟨?_, ?_⟩)
  · cases p <;> rfl
  · cases j with
    | zero =>
      cases found
      exact .inr ⟨rfl, le_rfl⟩
    | succ j =>
      cases j with
      | zero =>
        cases found
        exact .inl (by decide)
      | succ j => cases found

end XpBuilder.Ops
