import XpBuilder.Library.EnvFile

/-! The environment that `kot5` hands to Docker Compose: the client's file without the lines
that begin with a pinned key, then the pinned file. The lines are those of the shell, the
values those of Compose, which may run over many lines. -/

namespace XpBuilder.Ops
open EnvFile

/-! ## The wrapper -/

/-- The lines of a text; the last one may lack its line break. -/
def lines : List Char → List (List Char)
  | [] => []
  | c :: cs =>
    if c = '\n' then [] :: lines cs
    else match lines cs with
      | [] => [[c]]
      | line :: rest => (c :: line) :: rest

def unlines (ls : List (List Char)) : List Char := ls.flatMap (fun line => line ++ ['\n'])

/-- `[A-Za-z0-9_]` -/
def isWord (c : Char) : Bool := c.isAlphanum || c = '_'

/-- `s/^\([A-Za-z_][A-Za-z0-9_]*\)=.*/\1/p` -/
def assignedKey (line : List Char) : Option (List Char) :=
  let key := line.takeWhile isWord
  if key.head?.any (fun c => !c.isDigit) && (line.drop key.length).head? = some '=' then some key else none

def pinnedKeys (pinned : List Char) : List (List Char) := (lines pinned).filterMap assignedKey

/-- The key stands on a line of its own in the text of the keys; with no key at all, the
text is one empty line. -/
def isPinned (pinned key : List Char) : Bool :=
  if pinnedKeys pinned = [] then key = [] else key ∈ pinnedKeys pinned

/-- `${line%%=*}` -/
def lineKey (line : List Char) : List Char := line.takeWhile (· ≠ '=')

/-- A line that goes into the effective environment. -/
def isCopied (pinned line : List Char) : Bool :=
  line = [] || line.head? = some '#' || !isPinned pinned (lineKey line)

/-- `read` leaves NUL bytes out. -/
def readLines (client : List Char) : List (List Char) := lines (client.filter (· ≠ Char.ofNat 0))

/-- `prepare_env` -/
def prepareEnv (client pinned : List Char) : List Char :=
  unlines ((readLines client).filter (isCopied pinned)) ++ pinned

/-- The pinned keys have their pinned values, all others those of the client. -/
def KeysPinned (client pinned : List Char) : Prop :=
  ∀ key, (∀ value, valueOf pinned key = some value → valueOf (prepareEnv client pinned) key = some value) ∧
    (valueOf pinned key = none → valueOf (prepareEnv client pinned) key = valueOf client key)

/-! ## Lines and values -/

theorem unlines_lines (text : List Char) : unlines (lines text) = text ∨ unlines (lines text) = text ++ ['\n'] := by
  induction text with
  | nil => exact .inl rfl
  | cons c cs ih =>
    by_cases newline : c = '\n'
    · have first : unlines (lines (c :: cs)) = c :: unlines (lines cs) := by simp [lines, newline, unlines]
      rw [first]
      exact ih.imp (congrArg (c :: ·)) (congrArg (c :: ·))
    · cases following : lines cs with
      | nil =>
        have last : cs = [] := by
          rw [following] at ih
          cases ih with
          | inl same => exact same.symm
          | inr more => exact absurd more.symm (by simp [unlines])
        exact .inr (by simp [lines, newline, last, unlines])
      | cons line rest =>
        have first : unlines (lines (c :: cs)) = c :: unlines (lines cs) := by
          simp [lines, newline, following, unlines]
        rw [first]
        exact ih.imp (congrArg (c :: ·)) (congrArg (c :: ·))

theorem readEnv_unlines (text : List Char) : readEnv (unlines (lines text)) = readEnv text := by
  obtain same | more := unlines_lines text
  · rw [same]
  · rw [more, readEnv_newline]

theorem run_unlines (m : Mode) (line : List Char) (rest : List (List Char)) : run m (unlines (line :: rest)) =
    ((run (run m (line ++ ['\n'])).1 (unlines rest)).1,
      (run m (line ++ ['\n'])).2 ++ (run (run m (line ++ ['\n'])).1 (unlines rest)).2) :=
  run_append m (line ++ ['\n']) (unlines rest)

/-- Each line that the wrapper drops is read as whole assignments of keys that the pinned
file assigns: no quote is open where it begins or where it ends, nor at the end of the text. -/
def wholeLines (pinned : List Char) : Mode → List (List Char) → Bool
  | m, [] => m = .start
  | m, line :: rest =>
    (isCopied pinned line || (m = .start && (run .start (line ++ ['\n'])).1 = .start &&
      (run .start (line ++ ['\n'])).2.all (fun a => (valueOf pinned a.1).isSome))) &&
    wholeLines pinned (run m (line ++ ['\n'])).1 rest

/-- Lines that are dropped whole take only pinned keys with them. -/
theorem run_copied {pinned : List Char} {ls : List (List Char)} {m : Mode} (whole : wholeLines pinned m ls) :
    (run m (unlines ls)).1 = .start ∧ (run m (unlines (ls.filter (isCopied pinned)))).1 = .start ∧
    ∀ key, valueOf pinned key = none →
      lastValue (run m (unlines (ls.filter (isCopied pinned)))).2 key = lastValue (run m (unlines ls)).2 key := by
  induction ls generalizing m with
  | nil =>
    have start : m = .start := of_decide_eq_true whole
    exact ⟨start, start, fun _ _ => rfl⟩
  | cons line rest ih =>
    rw [wholeLines, Bool.and_eq_true] at whole
    obtain ⟨full, kept, values⟩ := ih whole.2
    rw [run_unlines]
    by_cases copied : isCopied pinned line
    · rw [List.filter_cons_of_pos copied, run_unlines]
      refine ⟨full, kept, ?_⟩
      intro key other
      rw [lastValue_append, lastValue_append, values key other]
    · have dropped := whole.1
      simp only [copied, Bool.false_or, Bool.and_eq_true, decide_eq_true_eq, List.all_eq_true] at dropped
      obtain ⟨⟨start, closed⟩, pins⟩ := dropped
      rw [List.filter_cons_of_neg copied]
      rw [start, closed] at kept values full
      rw [start, closed]
      refine ⟨full, kept, ?_⟩
      intro key other
      have absent : lastValue (run .start (line ++ ['\n'])).2 key = none := by
        apply lastValue_eq_none_iff.mpr
        intro a mem same
        have pin := pins a mem
        rw [same, other] at pin
        cases pin
      rw [lastValue_append, values key other, absent, Option.or_none]

/-- A quote that the copied lines leave open swallows a pinned file without that character. -/
theorem not_keysPinned_of_open {client pinned key : List Char} {quote : Quote} {escaped : Bool} {value : List Char}
    (opened : (run .start (unlines ((readLines client).filter (isCopied pinned)))).1 = .quoted key quote escaped value)
    (absent : quote.char ∉ pinned) {pin : List Char} (assigned : (valueOf pinned pin).isSome) :
    ¬KeysPinned client pinned := by
  intro pins
  obtain ⟨secret, pin_value⟩ := Option.isSome_iff_exists.mp assigned
  obtain ⟨last, text, ran⟩ := run_quoted absent key escaped value
  have unread : readEnv (prepareEnv client pinned) = none := by
    rw [readEnv, prepareEnv, run_append, opened, ran]
    rfl
  have effective := (pins pin).1 secret pin_value
  rw [valueOf, unread] at effective
  cases effective

/-- `prepare_env` pins the keys of the pinned file, and no others, where the client's file
has no NUL byte and each line that is dropped is a whole assignment of pinned keys. -/
theorem keysPinned_of_wholeLines (client pinned : List Char) (bytes : Char.ofNat 0 ∉ client)
    (readable : (readEnv pinned).isSome) (whole : wholeLines pinned .start (lines client)) :
    KeysPinned client pinned := by
  obtain ⟨full, kept, values⟩ := run_copied whole
  obtain ⟨pins, pinned_eq⟩ := Option.isSome_iff_exists.mp readable
  have all_bytes : readLines client = lines client := by
    rw [readLines, List.filter_eq_self.mpr]
    intro c mem
    have other : c ≠ Char.ofNat 0 := fun same => bytes (same ▸ mem)
    exact decide_eq_true other
  have effective : ∀ key, valueOf (prepareEnv client pinned) key = (lastValue pins key).or
      (lastValue (run .start (unlines ((lines client).filter (isCopied pinned)))).2 key) := by
    intro key
    rw [valueOf, prepareEnv, all_bytes, readEnv_append kept, pinned_eq]
    exact lastValue_append _ _ key
  have given : ∀ key, valueOf client key = lastValue (run .start (unlines (lines client))).2 key := by
    intro key
    have shape := Prod.eta (run .start (unlines (lines client)))
    rw [valueOf, ← readEnv_unlines, readEnv, ← shape, full]
    rfl
  have pin_values : ∀ key, valueOf pinned key = lastValue pins key := by
    intro key
    rw [valueOf, pinned_eq]
    rfl
  intro key
  rw [effective, given, ← pin_values]
  constructor
  · intro value pin
    rw [pin]
    rfl
  · intro other
    rw [other, Option.none_or, values key other]

theorem keysPinned_of_wholeLines_plain :
    KeysPinned "SITE=kot\nWEB_PORT=1\nNOTE='two\nlines'".toList "WEB_PORT=9010\n".toList :=
  keysPinned_of_wholeLines _ _ (by decide +kernel) (by decide +kernel) (by decide +kernel)

/-- The client opens a quote that the apostrophe of a comment in the pinned file closes. -/
theorem pin_overridden :
    let client := " MARIADB_ROOT_PASSWORD=mine\nX='\n".toList
    let pinned := "MARIADB_ROOT_PASSWORD=secret\n# the provider's\n".toList
    let key := "MARIADB_ROOT_PASSWORD".toList
    valueOf pinned key = some "secret".toList ∧
      valueOf (prepareEnv client pinned) key = some "mine".toList ∧ ¬KeysPinned client pinned := by
  intro client pinned key
  have pin : valueOf pinned key = some "secret".toList := by decide +kernel
  have effective : valueOf (prepareEnv client pinned) key = some "mine".toList := by decide +kernel
  refine ⟨pin, effective, ?_⟩
  intro pins
  have expected := (pins key).1 _ pin
  rw [effective] at expected
  exact absurd expected (by decide +kernel)

end XpBuilder.Ops
