import Mathlib.Data.List.Basic

/-! Texts of environment variables as Docker Compose reads them: one assignment after the
other, where a value that opens with a quote runs to the closing quote, over line breaks
too. A value is the text as written, before any variable in it is replaced. -/

namespace XpBuilder.EnvFile

def isBlank (c : Char) : Bool := c ∈ [' ', '\t', '\r', Char.ofNat 11, Char.ofNat 12, Char.ofNat 0x85, Char.ofNat 0xa0]

inductive Quote where
  | single | double
  deriving DecidableEq, Repr

def Quote.char : Quote → Char
  | .single => Char.ofNat 39
  | .double => '"'

def quoteOf (c : Char) : Option Quote := [Quote.single, Quote.double].find? (fun q => q.char = c)

def trimRight (text : List Char) : List Char := (text.reverse.dropWhile isBlank).reverse

/-- The key without the blanks and the word `export` before it. -/
def keyName (text : List Char) : List Char :=
  let exported := "export".toList
  let named := text.drop exported.length
  if exported <+: text && named.head?.any isBlank then trimRight (named.dropWhile isBlank) else trimRight text

/-- An unquoted value without the comment after it. -/
def plainValue (text : List Char) : List Char := trimRight (value text)
where
  value : List Char → List Char
    | [] => []
    | c :: cs => if c = ' ' && cs.head? = some '#' then [] else c :: value cs

/-- What the reader is in the middle of. -/
inductive Mode where
  | start
  | comment
  | key (text : List Char)
  | before (key : List Char)
  | plain (key value : List Char)
  | quoted (key : List Char) (quote : Quote) (escaped : Bool) (value : List Char)
  deriving DecidableEq

abbrev Assignment := List Char × List Char

/-- One more character of a key. -/
def stepKey (text : List Char) (c : Char) : Mode :=
  if c = '=' || c = ':' then .before (keyName text)
  else if c = '\n' then .start
  else .key (text ++ [c])

/-- The next mode, and the assignment that ends here. -/
def step : Mode → Char → Mode × List Assignment
  | .start, c => (if isBlank c || c = '\n' then .start else if c = '#' then .comment else stepKey [] c, [])
  | .comment, c => (if c = '\n' then .start else .comment, [])
  | .key text, c => (stepKey text c, [])
  | .before key, c =>
    if c = '\n' then (.start, [(key, [])])
    else (if isBlank c then .before key
      else ((quoteOf c).map (fun quote => Mode.quoted key quote false [])).getD (.plain key [c]), [])
  | .plain key value, c => if c = '\n' then (.start, [(key, plainValue value)]) else (.plain key (value ++ [c]), [])
  | .quoted key quote true value, c =>
    (.quoted key quote false (value ++ (if c = quote.char then [c] else ['\\', c])), [])
  | .quoted key quote false value, c =>
    if c = '\\' then (.quoted key quote true value, [])
    else if c = quote.char then (.start, [(key, value)])
    else (.quoted key quote false (value ++ [c]), [])

def run : Mode → List Char → Mode × List Assignment
  | m, [] => (m, [])
  | m, c :: cs => ((run (step m c).1 cs).1, (step m c).2 ++ (run (step m c).1 cs).2)

/-- The assignments of a text that ends here: none where a quote is still open. -/
def finish : Mode × List Assignment → Option (List Assignment)
  | (.quoted .., _) => none
  | (.before key, done) => some (done ++ [(key, [])])
  | (.plain key value, done) => some (done ++ [(key, plainValue value)])
  | (_, done) => some done

def readEnv (text : List Char) : Option (List Assignment) := finish (run .start text)

/-- The last assignment of a key wins. -/
def lastValue (assigned : List Assignment) (key : List Char) : Option (List Char) :=
  (assigned.reverse.find? (fun a => a.1 = key)).map Prod.snd

def valueOf (text key : List Char) : Option (List Char) := (readEnv text).bind (fun assigned => lastValue assigned key)

/-! ## Runs -/

theorem run_append (m : Mode) (a b : List Char) :
    run m (a ++ b) = ((run (run m a).1 b).1, (run m a).2 ++ (run (run m a).1 b).2) := by
  induction a generalizing m with
  | nil => rfl
  | cons c cs ih => simp [run, ih]

/-- Earlier assignments stay in front. -/
theorem finish_append (m : Mode) (front back : List Assignment) :
    finish (m, front ++ back) = (finish (m, back)).map (front ++ ·) := by
  cases m <;> simp [finish]

/-- A line break at the end of a text changes nothing. -/
theorem readEnv_newline (text : List Char) : readEnv (text ++ ['\n']) = readEnv text := by
  unfold readEnv
  rw [run_append]
  cases ended : (run .start text).1 with
  | quoted key quote escaped value =>
    rw [← Prod.eta (run .start text), ended]
    cases escaped with
    | true => simp [run, step, finish]
    | false => cases quote <;> simp [run, step, finish, Quote.char]
  | _ =>
    rw [← Prod.eta (run .start text), ended]
    simp [run, step, stepKey, finish]

/-- What comes after a text with no quote left open is read by itself. -/
theorem readEnv_append {a : List Char} (closed : (run .start a).1 = .start) (b : List Char) :
    readEnv (a ++ b) = (readEnv b).map ((run .start a).2 ++ ·) := by
  unfold readEnv
  rw [run_append, closed, finish_append]

/-- A quote left open is not closed by a text without its character. -/
theorem run_quoted {quote : Quote} {text : List Char} (absent : quote.char ∉ text) (key : List Char)
    (escaped : Bool) (value : List Char) :
    ∃ escaped' value', run (.quoted key quote escaped value) text = (.quoted key quote escaped' value', []) := by
  induction text generalizing escaped value with
  | nil => exact ⟨escaped, value, rfl⟩
  | cons c cs ih =>
    rw [List.mem_cons, not_or] at absent
    have other : c ≠ quote.char := fun same => absent.1 same.symm
    have stays : ∃ escaped' value', step (.quoted key quote escaped value) c = (.quoted key quote escaped' value', []) := by
      cases escaped with
      | true => exact ⟨_, _, rfl⟩
      | false =>
        by_cases slash : c = '\\'
        · exact ⟨true, value, by simp [step, slash]⟩
        · exact ⟨false, value ++ [c], by simp [step, slash, other]⟩
    obtain ⟨escaped', value', stepped⟩ := stays
    rw [run, stepped]
    obtain ⟨last, text, ran⟩ := ih absent.2 escaped' value'
    exact ⟨last, text, by rw [ran]; rfl⟩

/-! ## The last assignment -/

theorem lastValue_append (a b : List Assignment) (key : List Char) :
    lastValue (a ++ b) key = (lastValue b key).or (lastValue a key) := by
  unfold lastValue
  rw [List.reverse_append, List.find?_append, Option.map_or]

theorem lastValue_eq_none_iff {assigned : List Assignment} {key : List Char} :
    lastValue assigned key = none ↔ ∀ a ∈ assigned, a.1 ≠ key := by
  simp [lastValue]

end XpBuilder.EnvFile
