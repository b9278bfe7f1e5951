import Mathlib.Data.List.DropRight
import XpBuilder.Library.Dict
import XpBuilder.Ops.ControlAccount
import XpBuilder.Ops.EnvKeys
import XpBuilder.PythonText

/-! The two readers of a deployment's `.env`: the provisioners in Python, which cut it at every
line boundary of Unicode and strip the pieces, and the shell, which takes the lines that begin
with a key as they are. -/

namespace XpBuilder.Ops.EnvReaders
open PythonText (stripChars isSpace)
open ValidateEnv (EnvFile valueOf validateEnv basename keys isKey isWord_bounds isWord_of_mem ne_of_mem_key exists_first
  assignedKey_eq_some_iff mem_keys_iff valueOf_own value_unique file_of_accepted)

/-! ## The reader in Python -/

/-- What `str.splitlines` splits at. -/
def isBoundary (c : Char) : Bool :=
  let n := c.toNat
  (10 ≤ n && n ≤ 13) || (28 ≤ n && n ≤ 30) || n == 0x85 || n == 0x2028 || n == 0x2029

/-- A text file as `read_text` returns it; the flag is set behind a carriage return. -/
def universalNewlines : Bool → List Char → List Char
  | _, [] => []
  | after, c :: rest =>
    if c = '\r' then '\n' :: universalNewlines true rest
    else if after && c = '\n' then universalNewlines false rest
    else c :: universalNewlines false rest

/-- `splitlines` of a text without carriage returns, with what is read of the first line. -/
def splitLines (read : List Char) : List Char → List (List Char)
  | [] => if read = [] then [] else [read]
  | c :: rest => if isBoundary c then read :: splitLines [] rest else splitLines (read ++ [c]) rest

/-- The assignment in a line. -/
def assignment (line : List Char) : Option (List Char × List Char) :=
  let stripped := stripChars isSpace line
  if stripped ≠ [] ∧ stripped.head? ≠ some '#' ∧ '=' ∈ stripped then
    some (stripped.takeWhile (· ≠ '='), (stripped.dropWhile (· ≠ '=')).tail)
  else none

def assignments (text : List Char) : List (List Char × List Char) :=
  (splitLines [] (universalNewlines false text)).filterMap assignment

abbrev Values := Dict (List Char) (List Char)

/-- `load_env` of the report provisioners -/
def loadEnv (f : EnvFile) : Except String Values :=
  if basename f ≠ ".env".toList then .error "The environment file basename must be exactly .env"
  else .ok (Dict.empty.setAll (assignments f.text))

def demoKeys : List String := ["SUPERSET_ADMIN_USERNAME", "SUPERSET_ADMIN_PASSWORD", "XPBUILDER_HOST_PORT"]

/-- `load_env` of the demo -/
def demoLoadEnv (f : EnvFile) : Except String Values := do
  let values ← loadEnv f
  match demoKeys.find? (fun key => (values.get key.toList).getD [] = []) with
  | some key => .error (key ++ " is required in " ++ f.path)
  | none => .ok values

/-! ## Agreement -/

local instance lawfulKeys : LawfulBEq (List Char) := inferInstance

/-- Every key has the value that the shell prints for it, and no key without a line has one. -/
def Agree (f : EnvFile) (values : Values) : Prop :=
  ∀ key : String, isKey key.toList →
    values.get key.toList = if key.toList ∈ keys f then some (valueOf f key) else none

/-- An assignment that the provisioners read, and whether it stands at the start of its line. -/
structure Read where
  key : List Char
  value : List Char
  starts : Bool
  deriving DecidableEq

/-- The assignments in a line of the shell: that at its start, if it is one of a key, and those
behind blanks or behind another line boundary. -/
def readLine (line : List Char) : List Read :=
  match splitLines [] line with
  | [] => []
  | first :: rest =>
    ((assignment first).map (fun a => ⟨a.1, a.2, assignedKey line = some a.1⟩)).toList ++
      (rest.filterMap assignment).map (fun a => ⟨a.1, a.2, false⟩)

def reads (f : EnvFile) : List Read := (lines f.text).flatMap readLine

/-- A value that is read as it is written. -/
structure Plain (value : List Char) : Prop where
  oneLine : ∀ c ∈ value, isBoundary c = false
  noNul : Char.ofNat 0 ∉ value
  noBlank : ∀ c, value.getLast? = some c → isSpace c = false

/-- The last assignment of each key is at the start of its line, with a plain value, or it
repeats the value of the line that begins with the key. -/
def ReadAlike (f : EnvFile) : Prop :=
  ∀ key, isKey key → ∀ a, ((reads f).filter (fun a => a.key = key)).getLast? = some a →
    ∃ value, key ++ '=' :: value ∈ lines f.text ∧
      if a.starts then Plain value else a.value = value.filter (· ≠ Char.ofNat 0)

/-! ## Lines -/

theorem isSpace_of_isBoundary {c : Char} (boundary : isBoundary c) : isSpace c := by
  unfold isBoundary at boundary
  unfold isSpace
  simp only [Bool.or_eq_true, Bool.and_eq_true, decide_eq_true_eq, beq_iff_eq] at boundary ⊢
  omega

theorem assignment_nil : assignment [] = none := by
  simp [assignment, stripChars]

/-- Pieces between boundaries, but for empty ones. -/
def pieces (read text : List Char) : List (List Char) := (splitLines read text).filter (· ≠ [])

theorem filterMap_pieces (read text : List Char) :
    (pieces read text).filterMap assignment = (splitLines read text).filterMap assignment := by
  unfold pieces
  rw [List.filterMap_filter]
  refine List.filterMap_congr ?_
  intro piece _
  by_cases empty : piece = []
  · simp [empty, assignment_nil]
  · simp [empty]

theorem pieces_boundary {c : Char} (boundary : isBoundary c) (read rest : List Char) :
    pieces read (c :: rest) = pieces read [] ++ pieces [] rest := by
  have cut : splitLines read (c :: rest) = read :: splitLines [] rest := if_pos boundary
  unfold pieces
  rw [cut]
  by_cases empty : read = []
  · simp [empty, splitLines]
  · simp [empty, splitLines]

theorem pieces_other {c : Char} (other : isBoundary c = false) (read rest : List Char) :
    pieces read (c :: rest) = pieces (read ++ [c]) rest := by
  have kept : splitLines read (c :: rest) = splitLines (read ++ [c]) rest := if_neg (by simp [other])
  unfold pieces
  rw [kept]

/-- A carriage return is a boundary itself, so what becomes of it makes no difference. -/
theorem pieces_universalNewlines (after : Bool) (text read : List Char) (start : after = true → read = []) :
    pieces read (universalNewlines after text) = pieces read text := by
  have newline : isBoundary '\n' = true := by decide
  induction text generalizing after read with
  | nil => rfl
  | cons c rest ih =>
    unfold universalNewlines
    by_cases returns : c = '\r'
    · rw [if_pos returns, pieces_boundary newline, ih true [] (fun _ => rfl), returns,
        pieces_boundary (by decide : isBoundary '\r' = true)]
    · rw [if_neg returns]
      by_cases skipped : (after && c = '\n') = true
      · rw [if_pos skipped]
        rw [Bool.and_eq_true, decide_eq_true_eq] at skipped
        have fresh := start skipped.1
        rw [ih false read (fun none => nomatch none), skipped.2, fresh, pieces_boundary newline]
        rfl
      · rw [if_neg skipped]
        cases boundary : isBoundary c with
        | true => rw [pieces_boundary boundary, pieces_boundary boundary, ih false [] (fun none => nomatch none)]
        | false => rw [pieces_other boundary, pieces_other boundary, ih false _ (fun none => nomatch none)]

/-- The pieces of a text line by line. -/
theorem pieces_lines (read text : List Char) : pieces read text =
    match lines text with
    | [] => pieces read []
    | line :: rest => pieces read line ++ rest.flatMap (pieces []) := by
  induction text generalizing read with
  | nil => rfl
  | cons c cs ih =>
    by_cases newline : c = '\n'
    · rw [newline, pieces_boundary (by decide), ih []]
      simp only [lines, if_pos]
      cases lines cs <;> rfl
    · simp only [lines, if_neg newline]
      cases boundary : isBoundary c with
      | true =>
        rw [pieces_boundary boundary, ih []]
        cases lines cs with
        | nil => simp [pieces_boundary boundary]
        | cons line rest => simp [pieces_boundary boundary]
      | false =>
        rw [pieces_other boundary, ih]
        cases lines cs with
        | nil => simp [pieces_other boundary]
        | cons line rest => simp [pieces_other boundary]

theorem assignments_eq (text : List Char) :
    assignments text = (lines text).flatMap (fun line => (splitLines [] line).filterMap assignment) := by
  have whole : (pieces [] text).filterMap assignment =
      (lines text).flatMap (fun line => (pieces [] line).filterMap assignment) := by
    rw [pieces_lines]
    cases lines text with
    | nil => rfl
    | cons line rest => simp [List.filterMap_append, List.filterMap_flatMap]
  unfold assignments
  rw [← filterMap_pieces, pieces_universalNewlines false text [] (fun _ => rfl), whole]
  simp only [filterMap_pieces]

theorem reads_eq (f : EnvFile) : (reads f).map (fun a => (a.key, a.value)) = assignments f.text := by
  rw [assignments_eq, reads, List.map_flatMap]
  refine List.flatMap_congr ?_
  intro line _
  unfold readLine
  have same : ∀ found : List (List Char × List Char),
      (found.map (fun a => (⟨a.1, a.2, false⟩ : Read))).map (fun a => (a.key, a.value)) = found := by
    intro found
    rw [List.map_map]
    exact List.map_id found
  cases splitLines [] line with
  | nil => rfl
  | cons first rest =>
    dsimp only
    rw [List.map_append, same, List.filterMap_cons]
    cases assignment first <;> rfl

/-! ## Keys -/

theorem not_isSpace_of_isWord {c : Char} (word : isWord c) : isSpace c = false := by
  have bounds := isWord_bounds word
  rw [← Bool.not_eq_true]
  unfold isSpace
  simp only [Bool.or_eq_true, Bool.and_eq_true, decide_eq_true_eq, beq_iff_eq]
  omega

theorem not_isBoundary_of_isWord {c : Char} (word : isWord c) : isBoundary c = false := by
  cases boundary : isBoundary c with
  | false => rfl
  | true => exact absurd (isSpace_of_isBoundary boundary) (by simp [not_isSpace_of_isWord word])

/-- Nothing is stripped before a key, and after its value no more than blanks. -/
theorem stripChars_key {key : List Char} (valid : isKey key) (value : List Char) :
    stripChars isSpace (key ++ '=' :: value) = key ++ '=' :: value.rdropWhile isSpace := by
  obtain ⟨c, rest, rfl, word⟩ := exists_first valid
  have front : (c :: rest ++ '=' :: value).dropWhile isSpace = c :: rest ++ '=' :: value :=
    List.dropWhile_cons_of_neg (by simp [not_isSpace_of_isWord word])
  unfold stripChars
  rw [front]
  change (c :: rest ++ '=' :: value).rdropWhile isSpace = _
  induction value using List.reverseRecOn with
  | nil => exact List.rdropWhile_concat_neg isSpace _ '=' (by decide)
  | append_singleton value d ih =>
    have whole : c :: rest ++ '=' :: (value ++ [d]) = (c :: rest ++ '=' :: value) ++ [d] := by simp
    rw [whole]
    by_cases blank : isSpace d = true
    · rw [List.rdropWhile_concat_pos isSpace _ d blank, List.rdropWhile_concat_pos isSpace _ d blank]
      exact ih (List.dropWhile_cons_of_neg (by simp [not_isSpace_of_isWord word]))
    · rw [List.rdropWhile_concat_neg isSpace _ d blank, List.rdropWhile_concat_neg isSpace _ d blank]
      exact whole.symm

theorem assignment_key {key : List Char} (valid : isKey key) (value : List Char) :
    assignment (key ++ '=' :: value) = some (key, value.rdropWhile isSpace) := by
  have mark : ∀ c ∈ key, decide (c ≠ '=') = true := by
    intro c mem
    exact decide_eq_true (ne_of_mem_key valid mem (by decide))
  have comment : (key ++ '=' :: value.rdropWhile isSpace).head? ≠ some '#' := by
    obtain ⟨c, rest, rfl, word⟩ := exists_first valid
    rw [List.cons_append, List.head?_cons, ne_eq, Option.some.injEq]
    exact ne_of_mem_key valid List.mem_cons_self (by decide)
  unfold assignment
  rw [stripChars_key valid, if_pos ⟨by simp, comment, by simp⟩, List.takeWhile_append_of_pos mark,
    List.dropWhile_append_of_pos mark]
  simp

/-- The first piece of a line runs to its first boundary. -/
theorem splitLines_eq_cons {read text : List Char} (nonempty : read ++ text ≠ []) :
    ∃ rest, splitLines read text = (read ++ text.takeWhile (fun c => !isBoundary c)) :: rest := by
  induction text generalizing read with
  | nil =>
    rw [List.append_nil] at nonempty
    exact ⟨[], by simp [splitLines, nonempty]⟩
  | cons c cs ih =>
    cases boundary : isBoundary c with
    | true =>
      refine ⟨splitLines [] cs, ?_⟩
      rw [splitLines, if_pos boundary, List.takeWhile_cons_of_neg (by simp [boundary]), List.append_nil]
    | false =>
      have kept : splitLines read (c :: cs) = splitLines (read ++ [c]) cs := if_neg (by simp [boundary])
      obtain ⟨rest, cut⟩ := ih (by simp : read ++ [c] ++ cs ≠ [])
      refine ⟨rest, ?_⟩
      rw [kept, cut, List.takeWhile_cons_of_pos (by simp [boundary]), List.append_assoc]
      rfl

/-- The line of a key is read up to its first boundary, without the blanks at the end. -/
theorem readLine_key {key : List Char} (valid : isKey key) (value : List Char) :
    ∃ rest : List (List Char × List Char), readLine (key ++ '=' :: value) =
      ⟨key, (value.takeWhile (fun c => !isBoundary c)).rdropWhile isSpace, true⟩ ::
        rest.map (fun a => ⟨a.1, a.2, false⟩) := by
  obtain ⟨rest, cut⟩ := splitLines_eq_cons (by simp : [] ++ (key ++ '=' :: value) ≠ [])
  have word : ∀ c ∈ key, (!isBoundary c) = true := by
    intro c mem
    rw [not_isBoundary_of_isWord (isWord_of_mem valid mem)]
    rfl
  have first : (key ++ '=' :: value).takeWhile (fun c => !isBoundary c) =
      key ++ '=' :: value.takeWhile (fun c => !isBoundary c) := by
    rw [List.takeWhile_append_of_pos word, List.takeWhile_cons_of_pos (by decide)]
  have own : assignedKey (key ++ '=' :: value) = some key := assignedKey_eq_some_iff.mpr ⟨valid, value, rfl⟩
  refine ⟨rest.filterMap assignment, ?_⟩
  rw [List.nil_append, first] at cut
  rw [readLine, cut]
  simp [assignment_key valid, own]

/-- What starts a line is the line of its key. -/
theorem starts_of_mem_readLine {line : List Char} {a : Read} (mem : a ∈ readLine line) (starts : a.starts = true) :
    ∃ value, line = a.key ++ '=' :: value ∧ isKey a.key ∧
      a.value = (value.takeWhile (fun c => !isBoundary c)).rdropWhile isSpace := by
  have assigned : assignedKey line = some a.key := by
    unfold readLine at mem
    cases cut : splitLines [] line with
    | nil => simp [cut] at mem
    | cons first rest =>
      rw [cut] at mem
      rcases List.mem_append.mp mem with own | later
      · obtain ⟨found, -, rfl⟩ := Option.map_eq_some_iff.mp (Option.mem_toList.mp own)
        exact of_decide_eq_true starts
      · obtain ⟨found, -, rfl⟩ := List.mem_map.mp later
        cases starts
  obtain ⟨valid, value, rfl⟩ := assignedKey_eq_some_iff.mp assigned
  refine ⟨value, rfl, valid, ?_⟩
  obtain ⟨rest, read⟩ := readLine_key valid value
  rw [read, List.mem_cons] at mem
  rcases mem with own | later
  · have same := congrArg Read.value own
    exact same
  · obtain ⟨found, -, shape⟩ := List.mem_map.mp later
    rw [← shape] at starts
    cases starts

/-! ## Values -/

/-- The value of a line is read as the shell prints it exactly where it is plain. -/
theorem read_eq_filter_iff (value : List Char) :
    (value.takeWhile (fun c => !isBoundary c)).rdropWhile isSpace = value.filter (· ≠ Char.ofNat 0) ↔ Plain value := by
  constructor
  · intro same
    generalize read : (value.takeWhile (fun c => !isBoundary c)).rdropWhile isSpace = front at same
    generalize blank : (value.takeWhile (fun c => !isBoundary c)).rtakeWhile isSpace = blanks
    have noNul : Char.ofNat 0 ∉ front := by
      rw [same]
      simp
    have kept : front.filter (· ≠ Char.ofNat 0) = front := by
      rw [List.filter_eq_self]
      intro c mem
      refine decide_eq_true ?_
      rintro rfl
      exact noNul mem
    have line : front ++ blanks = value.takeWhile (fun c => !isBoundary c) := by
      rw [← read, ← blank]
      exact List.rdropWhile_append_rtakeWhile
    have parts : front ++ (blanks ++ value.dropWhile (fun c => !isBoundary c)) = value := by
      rw [← List.append_assoc, line, List.takeWhile_append_dropWhile]
    -- what is left of the value is NUL only, and would begin with a blank or a boundary
    have rest_nul : ∀ c ∈ blanks ++ value.dropWhile (fun c => !isBoundary c), c = Char.ofNat 0 := by
      rw [← parts, List.filter_append, kept, List.self_eq_append_right, List.filter_eq_nil_iff] at same
      intro c mem
      simpa using same c mem
    have noBlanks : blanks = [] := by
      cases shape : blanks with
      | nil => rfl
      | cons c tail =>
        have space : isSpace c = true := List.mem_rtakeWhile_imp (blank ▸ shape ▸ List.mem_cons_self)
        rw [rest_nul c (by simp [shape])] at space
        exact absurd space (by decide)
    have noRest : value.dropWhile (fun c => !isBoundary c) = [] := by
      cases shape : value.dropWhile (fun c => !isBoundary c) with
      | nil => rfl
      | cons c tail =>
        have stops := List.head?_dropWhile_not (fun c => !isBoundary c) value
        rw [shape, List.head?_cons, rest_nul c (by simp [shape])] at stops
        exact absurd stops (by decide)
    have whole : front = value := by simpa [noBlanks, noRest] using parts
    rw [noBlanks, List.append_nil, whole] at line
    refine ⟨?_, whole ▸ noNul, ?_⟩
    · intro c mem
      have inside := List.takeWhile_eq_self_iff.mp line.symm c mem
      simpa using inside
    · intro c last
      rw [← line, whole, List.rdropWhile_eq_self_iff] at read
      have nonempty : value ≠ [] := by
        rintro rfl
        cases last
      rw [List.getLast?_eq_some_getLast nonempty, Option.some.injEq] at last
      rw [← last]
      simpa using read nonempty
  · intro plain
    have whole : value.takeWhile (fun c => !isBoundary c) = value := by
      rw [List.takeWhile_eq_self_iff]
      intro c mem
      rw [plain.oneLine c mem]
      rfl
    have kept : value.filter (· ≠ Char.ofNat 0) = value := by
      rw [List.filter_eq_self]
      intro c mem
      refine decide_eq_true ?_
      rintro rfl
      exact plain.noNul mem
    rw [whole, kept, List.rdropWhile_eq_self_iff]
    intro nonempty
    rw [plain.noBlank _ (List.getLast?_eq_some_getLast nonempty)]
    exact Bool.false_ne_true

/-! ## Lines of keys -/

section File
variable {f : EnvFile}

/-- The line of a key is read. -/
theorem exists_read {key value : List Char} (valid : isKey key) (mem : key ++ '=' :: value ∈ lines f.text) :
    ∃ a ∈ reads f, a.key = key := by
  obtain ⟨rest, read⟩ := readLine_key valid value
  have first : ⟨key, (value.takeWhile (fun c => !isBoundary c)).rdropWhile isSpace, true⟩ ∈
      readLine (key ++ '=' :: value) := by
    rw [read]
    exact List.mem_cons_self
  exact ⟨_, List.mem_flatMap.mpr ⟨_, mem, first⟩, rfl⟩

theorem starts_of_mem_reads {a : Read} (mem : a ∈ reads f) (starts : a.starts = true) :
    ∃ value, a.key ++ '=' :: value ∈ lines f.text ∧
      a.value = (value.takeWhile (fun c => !isBoundary c)).rdropWhile isSpace := by
  obtain ⟨line, there, inLine⟩ := List.mem_flatMap.mp mem
  obtain ⟨value, rfl, -, read⟩ := starts_of_mem_readLine inLine starts
  exact ⟨value, there, read⟩

/-- The last assignment of a key gives its value. -/
theorem get_setAll_last {κ α : Type} [DecidableEq κ] (es : List (κ × α)) (d : Dict κ α) (key : κ) : (d.setAll es).get key =
    (((es.filter (fun e => e.1 = key)).getLast?).map Prod.snd).or (d.get key) := by
  induction es generalizing d with
  | nil => rfl
  | cons e rest ih =>
    have step : d.setAll (e :: rest) = (d.set e.1 e.2).setAll rest := rfl
    rw [step, ih, Dict.get_set]
    by_cases own : e.1 = key
    · rw [if_pos own.symm, List.filter_cons_of_pos (by simpa using own), List.getLast?_cons]
      cases (rest.filter (fun e => e.1 = key)).getLast? <;> simp
    · rw [if_neg (Ne.symm own), List.filter_cons_of_neg (by simpa using own)]

theorem get_loaded (f : EnvFile) (key : List Char) : ((Dict.empty : Values).setAll (assignments f.text)).get key =
    (((reads f).filter (fun a => a.key = key)).getLast?).map Read.value := by
  rw [get_setAll_last, Dict.get_empty, Option.or_none, ← reads_eq, List.filter_map, List.getLast?_map, Option.map_map]
  rfl

/-- Of an accepted file the two readers get the same values exactly where it can be read alike. -/
theorem agree_iff (distinct : (keys f).Nodup) :
    Agree f (Dict.empty.setAll (assignments f.text)) ↔ ReadAlike f := by
  have each : ∀ key : String, isKey key.toList →
      (((Dict.empty : Values).setAll (assignments f.text)).get key.toList =
          (if key.toList ∈ keys f then some (valueOf f key) else none) ↔
        ∀ a, ((reads f).filter (fun a => a.key = key.toList)).getLast? = some a →
          ∃ value, key.toList ++ '=' :: value ∈ lines f.text ∧
            if a.starts then Plain value else a.value = value.filter (· ≠ Char.ofNat 0)) := by
    intro key valid
    rw [get_loaded]
    cases last : ((reads f).filter (fun a => a.key = key.toList)).getLast? with
    | none =>
      have absent : key.toList ∉ keys f := by
        intro mem
        obtain ⟨-, value, line⟩ := mem_keys_iff.mp mem
        obtain ⟨a, read, own⟩ := exists_read valid line
        rw [List.getLast?_eq_none_iff, List.filter_eq_nil_iff] at last
        exact last a read (by simpa using own)
      simp [absent]
    | some a =>
      have found := List.mem_filter.mp (List.mem_of_getLast? last)
      have own : a.key = key.toList := of_decide_eq_true found.2
      have value_eq : ∀ value, key.toList ++ '=' :: value ∈ lines f.text →
          (some a.value = (if key.toList ∈ keys f then some (valueOf f key) else none) ↔
            a.value = value.filter (· ≠ Char.ofNat 0)) := by
        intro value line
        rw [if_pos (mem_keys_iff.mpr ⟨valid, value, line⟩), valueOf_own distinct valid line, Option.some.injEq]
      rw [Option.map_some]
      simp only [Option.some.injEq, forall_eq']
      cases starts : a.starts with
      | true =>
        obtain ⟨value, line, read⟩ := starts_of_mem_reads found.1 starts
        rw [own] at line
        rw [value_eq value line, read, read_eq_filter_iff]
        constructor
        · exact fun plain => ⟨value, line, plain⟩
        · rintro ⟨value', line', plain⟩
          rw [value_unique distinct valid line line']
          exact plain
      | false =>
        constructor
        · intro same
          by_cases seen : key.toList ∈ keys f
          · obtain ⟨-, value, line⟩ := mem_keys_iff.mp seen
            exact ⟨value, line, (value_eq value line).mp same⟩
          · rw [if_neg seen] at same
            cases same
        · rintro ⟨value, line, same⟩
          exact (value_eq value line).mpr same
  constructor
  · intro agree key valid
    have text := each (String.ofList key)
    rw [String.toList_ofList] at text
    have agrees := agree (String.ofList key)
    rw [String.toList_ofList] at agrees
    exact (text valid).mp (agrees valid)
  · intro alike key valid
    exact (each key valid).mpr (alike key.toList valid)

/-- Values that agree with the shell's are enough for the demo. -/
theorem demoLoadEnv_of_agree {values : Values} (loaded : loadEnv f = .ok values)
    (required : ∀ key ∈ ValidateEnv.requiredKeys, valueOf f key ≠ []) (agree : Agree f values) :
    demoLoadEnv f = .ok values := by
  have present : ∀ key ∈ demoKeys, (values.get key.toList).getD [] ≠ [] := by
    intro key mem empty
    have known : key ∈ ValidateEnv.requiredKeys ∧ isKey key.toList := by
      simp only [demoKeys, List.mem_cons, List.not_mem_nil, or_false] at mem
      obtain rfl | rfl | rfl := mem <;> exact ⟨by decide, by decide +kernel⟩
    rw [agree key known.2] at empty
    by_cases seen : key.toList ∈ keys f
    · rw [if_pos seen] at empty
      exact required key known.1 empty
    · have unseen : valueOf f key = [] := by
        unfold valueOf
        rw [List.filterMap_eq_nil_iff.mpr]
        · rfl
        intro line mem
        rw [if_neg]
        rintro ⟨value, rfl⟩
        exact seen (mem_keys_iff.mpr ⟨known.2, value, by simpa using mem⟩)
      exact required key known.1 unseen
  have passed : demoKeys.find? (fun key => (values.get key.toList).getD [] = []) = none := by
    rw [List.find?_eq_none]
    intro key mem
    simpa using present key mem
  unfold demoLoadEnv
  rw [loaded]
  exact congrArg (fun missing : Option String => match missing with
    | some key => Except.error (key ++ " is required in " ++ f.path)
    | none => Except.ok values) passed

/-- Of a file that passes the validation each provisioner reads what the shell reads exactly
where the file can be read alike. -/
theorem readers_agree_iff {allowGroupEnv : Bool} (accepted : validateEnv f allowGroupEnv = .ok ()) :
    ((∃ values, loadEnv f = .ok values ∧ Agree f values) ↔ ReadAlike f) ∧
      ((∃ values, demoLoadEnv f = .ok values ∧ Agree f values) ↔ ReadAlike f) := by
  obtain ⟨name, distinct, required⟩ := file_of_accepted accepted
  have loaded : loadEnv f = .ok (Dict.empty.setAll (assignments f.text)) := if_neg (not_not.mpr name)
  have reports : (∃ values, loadEnv f = .ok values ∧ Agree f values) ↔ ReadAlike f := by
    rw [← agree_iff distinct, loaded]
    simp
  refine ⟨reports, ?_⟩
  rw [← reports]
  constructor
  · rintro ⟨values, read, agree⟩
    refine ⟨values, ?_, agree⟩
    unfold demoLoadEnv at read
    rw [loaded] at read ⊢
    change (match demoKeys.find? _ with
      | some key => Except.error (key ++ " is required in " ++ f.path)
      | none => Except.ok (Dict.empty.setAll (assignments f.text))) = .ok values at read
    split at read
    · cases read
    · exact read
  · rintro ⟨values, read, agree⟩
    exact ⟨values, demoLoadEnv_of_agree read required agree, agree⟩

end File

/-! ## A password with a blank at its end -/

def blankEnd : EnvFile := ControlAccount.siteEnv "pma" "control password "

theorem blankEnd_read : validateEnv blankEnd false = .ok () ∧
    ((reads blankEnd).filter (fun a => a.key = "PHPMYADMIN_CONTROL_PASSWORD".toList)).getLast? =
      some ⟨"PHPMYADMIN_CONTROL_PASSWORD".toList, "control password".toList, true⟩ ∧
    "PHPMYADMIN_CONTROL_PASSWORD".toList ∈ keys blankEnd ∧
    valueOf blankEnd "PHPMYADMIN_CONTROL_PASSWORD" = "control password ".toList := by
  simp only [blankEnd, ControlAccount.siteEnv, List.flatMap_cons, List.flatMap_nil]
  repeat rw [String.toList_ofList]
  decide +kernel

/-- The shell keeps the blank, the provisioners do not. -/
theorem blankEnd_disagrees : validateEnv blankEnd false = .ok () ∧
    ¬(∃ values, loadEnv blankEnd = .ok values ∧ Agree blankEnd values) := by
  obtain ⟨accepted, last, seen, value⟩ := blankEnd_read
  refine ⟨accepted, ?_⟩
  rintro ⟨values, loaded, agree⟩
  have name := (file_of_accepted accepted).1
  rw [loadEnv, if_neg (not_not.mpr name), Except.ok.injEq] at loaded
  have same := agree "PHPMYADMIN_CONTROL_PASSWORD" (by decide +kernel)
  rw [← loaded, get_loaded, last, if_pos seen, value, Option.map_some, Option.some.injEq] at same
  have lengths := congrArg List.length same
  simp at lengths

theorem site_agrees_iff :
    ((∃ values, loadEnv (ControlAccount.siteEnv "pma" "control's password") = .ok values ∧
        Agree (ControlAccount.siteEnv "pma" "control's password") values) ↔
      ReadAlike (ControlAccount.siteEnv "pma" "control's password")) ∧
    ((∃ values, demoLoadEnv (ControlAccount.siteEnv "pma" "control's password") = .ok values ∧
        Agree (ControlAccount.siteEnv "pma" "control's password") values) ↔
      ReadAlike (ControlAccount.siteEnv "pma" "control's password")) :=
  readers_agree_iff ControlAccount.accepted_siteEnv.1

end XpBuilder.Ops.EnvReaders
