import Mathlib.Data.List.Nodup
import Mathlib.Data.List.TakeWhile
import XpBuilder.Ops.ValidateEnv

/-! The lines of `.env` that assign a key, and the values that the shell finds in them. -/

namespace XpBuilder.Ops.ValidateEnv

/-- `[A-Za-z_][A-Za-z0-9_]*` -/
def isKey (key : List Char) : Bool := key.head?.any (fun c => !c.isDigit) && key.all isWord

theorem isWord_bounds {c : Char} (word : isWord c) : (48 ≤ c.toNat ∧ c.toNat ≤ 57) ∨ (65 ≤ c.toNat ∧ c.toNat ≤ 90) ∨
    (97 ≤ c.toNat ∧ c.toNat ≤ 122) ∨ c.toNat = 95 := by
  have shape : isWord c = (((decide ('A'.val ≤ c.val ∧ c.val ≤ 'Z'.val) ||
      (decide ('a'.val ≤ c.val) && decide (c.val ≤ 'z'.val))) ||
      (decide ('0'.val ≤ c.val) && decide (c.val ≤ '9'.val))) || decide (c = '_')) := rfl
  simp only [shape, Bool.or_eq_true, Bool.and_eq_true, decide_eq_true_eq, UInt32.le_iff_toNat_le] at word
  rcases word with ((upper | lower) | digit) | line
  · exact .inr (.inl upper)
  · exact .inr (.inr (.inl lower))
  · exact .inl digit
  · exact .inr (.inr (.inr (by rw [line]; rfl)))

section Key
variable {key : List Char} (valid : isKey key)
include valid

theorem isWord_of_mem {c : Char} (mem : c ∈ key) : isWord c := by
  rw [isKey, Bool.and_eq_true] at valid
  exact List.all_eq_true.mp valid.2 c mem

theorem ne_of_mem_key {c d : Char} (mem : c ∈ key) (other : isWord d = false) : c ≠ d := by
  rintro rfl
  exact absurd (isWord_of_mem valid mem) (by simp [other])

theorem exists_first : ∃ c rest, key = c :: rest ∧ isWord c := by
  cases shape : key with
  | nil => simp [isKey, shape] at valid
  | cons c rest => exact ⟨c, rest, rfl, isWord_of_mem valid (shape ▸ List.mem_cons_self)⟩

theorem takeWhile_key {p : Char → Bool} (word : ∀ c, isWord c → p c) {mark : Char} (stops : p mark = false)
    (rest : List Char) : (key ++ mark :: rest).takeWhile p = key := by
  rw [List.takeWhile_append_of_pos (fun c mem => word c (isWord_of_mem valid mem)), List.takeWhile_cons_of_neg (by simp [stops]),
    List.append_nil]

end Key

theorem assignedKey_eq_some_iff {line key : List Char} :
    assignedKey line = some key ↔ isKey key ∧ ∃ value, line = key ++ '=' :: value := by
  constructor
  · intro assigned
    unfold assignedKey at assigned
    simp only [Option.ite_none_right_eq_some, Option.some.injEq, Bool.and_eq_true, decide_eq_true_eq] at assigned
    obtain ⟨⟨first, mark⟩, rfl⟩ := assigned
    obtain ⟨value, rest⟩ := List.head?_eq_some_iff.mp mark
    refine ⟨?_, value, ?_⟩
    · rw [isKey, first, Bool.true_and, List.all_eq_true]
      exact fun c mem => List.mem_takeWhile_imp mem
    · have prefixed := List.prefix_iff_eq_append.mp (List.takeWhile_prefix (l := line) isWord)
      rw [← rest]
      exact prefixed.symm
  · rintro ⟨valid, value, rfl⟩
    have word := takeWhile_key valid (fun c word => word) (by decide : isWord '=' = false) value
    have first : key.head?.any (fun c => !c.isDigit) = true := by
      rw [isKey, Bool.and_eq_true] at valid
      exact valid.1
    unfold assignedKey
    rw [word]
    simp [first]

section File
variable {f : EnvFile}

theorem mem_keys_iff {key : List Char} :
    key ∈ keys f ↔ isKey key ∧ ∃ value, key ++ '=' :: value ∈ lines f.text := by
  unfold keys
  rw [List.mem_filterMap]
  constructor
  · rintro ⟨line, mem, assigned⟩
    obtain ⟨valid, value, rfl⟩ := assignedKey_eq_some_iff.mp assigned
    exact ⟨valid, value, mem⟩
  · rintro ⟨valid, value, mem⟩
    exact ⟨_, mem, assignedKey_eq_some_iff.mpr ⟨valid, value, rfl⟩⟩

/-- Where no key is assigned twice the shell finds one value of a key. -/
theorem found_eq_singleton (distinct : (keys f).Nodup) {key value : List Char} (valid : isKey key)
    (mem : key ++ '=' :: value ∈ lines f.text) : (lines f.text).filterMap (fun line =>
      if key ++ ['='] <+: line then some (line.drop (key.length + 1)) else none) = [value] := by
  have own : value ∈ (lines f.text).filterMap (fun line =>
      if key ++ ['='] <+: line then some (line.drop (key.length + 1)) else none) := by
    refine List.mem_filterMap.mpr ⟨_, mem, ?_⟩
    rw [if_pos ⟨value, by simp⟩]
    simp
  have one : ((lines f.text).filterMap (fun line =>
      if key ++ ['='] <+: line then some (line.drop (key.length + 1)) else none)).length ≤ 1 := by
    have count := List.nodup_iff_count_le_one.mp distinct key
    unfold keys at count
    rw [List.count_filterMap] at count
    rw [List.length_filterMap_eq_countP]
    refine le_of_eq_of_le (List.countP_congr ?_) count
    intro line _
    rw [beq_iff_eq, assignedKey_eq_some_iff]
    constructor
    · intro found
      split_ifs at found with begins
      · obtain ⟨rest, rfl⟩ := begins
        exact ⟨valid, rest, by simp⟩
      · cases found
    · rintro ⟨-, rest, rfl⟩
      rw [if_pos ⟨rest, by simp⟩]
      rfl
  generalize (lines f.text).filterMap (fun line =>
      if key ++ ['='] <+: line then some (line.drop (key.length + 1)) else none) = found at own one ⊢
  match found, own, one with
  | [found], own, _ => rw [List.mem_singleton.mp own]
  | first :: second :: rest, _, one => simp at one

theorem valueOf_own (distinct : (keys f).Nodup) {key : String} {value : List Char} (valid : isKey key.toList)
    (mem : key.toList ++ '=' :: value ∈ lines f.text) : valueOf f key = value.filter (· ≠ Char.ofNat 0) := by
  unfold valueOf
  rw [found_eq_singleton distinct valid mem]
  rfl

theorem value_unique (distinct : (keys f).Nodup) {key value value' : List Char} (valid : isKey key)
    (mem : key ++ '=' :: value ∈ lines f.text) (mem' : key ++ '=' :: value' ∈ lines f.text) : value = value' := by
  have same := (found_eq_singleton distinct valid mem).symm.trans (found_eq_singleton distinct valid mem')
  exact (List.cons.inj same).1

/-- What acceptance says of the file as a whole. -/
theorem file_of_accepted {allowGroupEnv : Bool} (accepted : validateEnv f allowGroupEnv = .ok ()) :
    basename f = ".env".toList ∧ (keys f).Nodup ∧ ∀ key ∈ requiredKeys, valueOf f key ≠ [] := by
  have each := validateEnv_eq_ok.mp accepted
  have file : ∀ check ∈ fileChecks f allowGroupEnv, check.passed := by
    intro check mem
    refine each check ?_
    unfold checks
    rw [List.append_assoc, List.append_assoc]
    exact List.mem_append_left _ mem
  simp only [fileChecks, List.forall_mem_cons, decide_eq_true_eq] at file
  obtain ⟨name, -, -, distinct, missing, -⟩ := file
  refine ⟨name, distinct, ?_⟩
  intro key mem empty
  have listed : key ∈ missingKeys f := List.mem_filter.mpr ⟨mem, decide_eq_true empty⟩
  rw [missing] at listed
  cases listed

end File

/-! ## Written files -/

/-- One assignment after the other. -/
def envText (entries : List (String × List Char)) : List Char :=
  entries.flatMap (fun e => e.1.toList ++ '=' :: e.2 ++ ['\n'])

def firstLine (value : List Char) : List Char := value.takeWhile (· ≠ '\n')

/-- The lines that a value goes on with. -/
def furtherLines (value : List Char) : List (List Char) := (lines (value ++ ['\n'])).tail

def furtherKeys (value : List Char) : List (List Char) := (furtherLines value).filterMap assignedKey

theorem lines_first (value : List Char) : lines (value ++ ['\n']) = firstLine value :: furtherLines value := by
  unfold furtherLines firstLine
  induction value with
  | nil => rfl
  | cons c cs ih =>
    rw [List.cons_append]
    by_cases newline : c = '\n'
    · simp [lines, newline]
    · simp only [lines, if_neg newline]
      rw [ih, List.takeWhile_cons_of_pos (by simp [newline])]
      rfl

theorem lines_append_newline (first rest : List Char) :
    lines (first ++ '\n' :: rest) = lines (first ++ ['\n']) ++ lines rest := by
  induction first with
  | nil => rfl
  | cons c cs ih =>
    rw [List.cons_append, List.cons_append]
    by_cases newline : c = '\n'
    · simp only [lines, if_pos newline]
      rw [ih]
      rfl
    · simp only [lines, if_neg newline]
      rw [ih, lines_first cs]
      rfl

/-- A value may go on over line breaks, a key may not. -/
theorem lines_entry {key : List Char} (oneLine : '\n' ∉ key) (value : List Char) :
    lines (key ++ value ++ ['\n']) = (key ++ firstLine value) :: furtherLines value := by
  induction key with
  | nil => exact lines_first value
  | cons c cs ih =>
    rw [List.mem_cons, not_or] at oneLine
    have later := ih oneLine.2
    rw [List.cons_append, List.cons_append]
    simp only [lines, if_neg (Ne.symm oneLine.1)]
    rw [later]
    rfl

section Written
variable {entries : List (String × List Char)} (valid : ∀ e ∈ entries, isKey e.1.toList)
include valid

theorem lines_envText : lines (envText entries) =
    entries.flatMap (fun e => (e.1.toList ++ '=' :: firstLine e.2) :: furtherLines e.2) := by
  induction entries with
  | nil => rfl
  | cons e rest ih =>
    rw [List.forall_mem_cons] at valid
    have oneLine : '\n' ∉ e.1.toList ++ ['='] := by
      intro mem
      rcases List.mem_append.mp mem with inside | mark
      · exact ne_of_mem_key valid.1 inside (by decide : isWord '\n' = false) rfl
      · exact absurd (List.mem_singleton.mp mark) (by decide)
    have first : envText (e :: rest) = (e.1.toList ++ ['='] ++ e.2) ++ '\n' :: envText rest := by
      simp [envText]
    rw [first, lines_append_newline, lines_entry oneLine, ih valid.2, List.flatMap_cons]
    simp

variable {f : EnvFile} (text : f.text = envText entries)
include text

theorem keys_envText : keys f = entries.flatMap (fun e => e.1.toList :: furtherKeys e.2) := by
  unfold keys
  rw [text, lines_envText valid, List.filterMap_flatMap]
  refine List.flatMap_congr ?_
  intro e mem
  have own : assignedKey (e.1.toList ++ '=' :: firstLine e.2) = some e.1.toList :=
    assignedKey_eq_some_iff.mpr ⟨valid e mem, _, rfl⟩
  rw [List.filterMap_cons, own]
  rfl

/-- Where no key is assigned twice each has the first line of its value. -/
theorem valueOf_entry (distinct : (keys f).Nodup) {key : String} {value : List Char} (mem : (key, value) ∈ entries) :
    valueOf f key = (firstLine value).filter (· ≠ Char.ofNat 0) := by
  refine valueOf_own distinct (valid _ mem) ?_
  rw [text, lines_envText valid]
  exact List.mem_flatMap.mpr ⟨_, mem, List.mem_cons_self⟩

theorem valueOf_plain (distinct : (keys f).Nodup) {key : String} {value : List Char} (mem : (key, value) ∈ entries)
    (plain : ∀ c ∈ value, c ≠ '\n' ∧ c ≠ Char.ofNat 0) : valueOf f key = value := by
  have oneLine : firstLine value = value := by
    unfold firstLine
    rw [List.takeWhile_eq_self_iff]
    exact fun c mem => decide_eq_true (plain c mem).1
  rw [valueOf_entry valid text distinct mem, oneLine, List.filter_eq_self]
  exact fun c mem => decide_eq_true (plain c mem).2

end Written
end XpBuilder.Ops.ValidateEnv
