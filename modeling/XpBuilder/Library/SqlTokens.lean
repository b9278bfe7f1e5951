import Mathlib.Data.List.Basic

/-! The tokens of SQL statements as MariaDB reads them: words, texts between quotes, names
between backticks and single marks. In a text a backslash escapes the character after it and
a doubled quote stands for one. Comments are not treated. -/

namespace XpBuilder.SqlTokens

inductive Token where
  | word (chars : List Char)
  | text (value : List Char)
  | name (value : List Char)
  | mark (c : Char)
  deriving DecidableEq, Repr

/-- What the reader is in the middle of; at the end of a text or name it waits for a second
quote. -/
inductive Mode where
  | start
  | word (chars : List Char)
  | text (quote : Char) (value : List Char)
  | escape (quote : Char) (value : List Char)
  | textEnd (quote : Char) (value : List Char)
  | name (value : List Char)
  | nameEnd (value : List Char)
  deriving DecidableEq, Repr

def apostrophe : Char := Char.ofNat 39

def backtick : Char := Char.ofNat 96

def isWord (c : Char) : Bool := c.isAlphanum || c = '_' || c = '$'

def isSpace (c : Char) : Bool := c ∈ [' ', '\t', '\n', '\r', Char.ofNat 11, Char.ofNat 12]

/-- What a backslash and a character stand for. -/
def unescape (c : Char) : List Char :=
  if c = 'n' then ['\n'] else if c = 't' then ['\t'] else if c = 'r' then ['\r']
  else if c = 'b' then [Char.ofNat 8] else if c = '0' then [Char.ofNat 0] else if c = 'Z' then [Char.ofNat 26]
  else if c = '%' || c = '_' then ['\\', c] else [c]

def begin (c : Char) : Mode × List Token :=
  if isSpace c then (.start, [])
  else if isWord c then (.word [c], [])
  else if c = apostrophe || c = '"' then (.text c [], [])
  else if c = backtick then (.name [], [])
  else (.start, [.mark c])

/-- The next mode, and the tokens that end here. -/
def step : Mode → Char → Mode × List Token
  | .start, c => begin c
  | .word chars, c => if isWord c then (.word (chars ++ [c]), []) else ((begin c).1, .word chars :: (begin c).2)
  | .text quote value, c =>
    (if c = '\\' then .escape quote value
      else if c = quote then .textEnd quote value
      else .text quote (value ++ [c]), [])
  | .escape quote value, c => (.text quote (value ++ unescape c), [])
  | .textEnd quote value, c =>
    if c = quote then (.text quote (value ++ [c]), []) else ((begin c).1, .text value :: (begin c).2)
  | .name value, c => (if c = backtick then .nameEnd value else .name (value ++ [c]), [])
  | .nameEnd value, c =>
    if c = backtick then (.name (value ++ [c]), []) else ((begin c).1, .name value :: (begin c).2)

/-- The tokens that end with the script; none where a quote is still open. -/
def finish : Mode → Option (List Token)
  | .start => some []
  | .word chars => some [.word chars]
  | .textEnd _ value => some [.text value]
  | .nameEnd value => some [.name value]
  | _ => none

/-- The tokens of a script, read on from a mode. -/
def tokensFrom : Mode → List Char → Option (List Token)
  | m, [] => finish m
  | m, c :: cs => (tokensFrom (step m c).1 cs).map ((step m c).2 ++ ·)

def tokens (script : List Char) : Option (List Token) := tokensFrom .start script

/-- A text as a quoted one. -/
def quoted (value : List Char) : List Char := apostrophe :: value ++ [apostrophe]

def backticked (value : List Char) : List Char := backtick :: value ++ [backtick]

/-- Each quote doubled. -/
def doubled (value : List Char) : List Char := value.flatMap (fun c => if c = apostrophe then [c, c] else [c])

/-! ## Runs -/

/-- The mode after a piece of a script, and the tokens that end in it. -/
def run : Mode → List Char → Mode × List Token
  | m, [] => (m, [])
  | m, c :: cs => ((run (step m c).1 cs).1, (step m c).2 ++ (run (step m c).1 cs).2)

theorem tokensFrom_append (m : Mode) (a b : List Char) :
    tokensFrom m (a ++ b) = (tokensFrom (run m a).1 b).map ((run m a).2 ++ ·) := by
  induction a generalizing m with
  | nil => simp [run]
  | cons c cs ih =>
    rw [List.cons_append, tokensFrom, run, ih, Option.map_map]
    simp [Function.comp_def, List.append_assoc]

/-- A piece that leads from one token's end to another's. -/
theorem tokensFrom_piece {a : List Char} {out : List Token} (closed : run .start a = (.start, out))
    (b : List Char) : tokensFrom .start (a ++ b) = (tokensFrom .start b).map (out ++ ·) := by
  rw [tokensFrom_append, closed]

/-- Characters that stand for themselves in a text. -/
theorem run_text_plain {quote : Char} {text : List Char} (plain : ∀ c ∈ text, c ≠ quote ∧ c ≠ '\\')
    (value : List Char) : run (.text quote value) text = (.text quote (value ++ text), []) := by
  induction text generalizing value with
  | nil => simp [run]
  | cons c cs ih =>
    rw [List.forall_mem_cons] at plain
    have stepped : step (.text quote value) c = (.text quote (value ++ [c]), []) := by
      simp [step, plain.1]
    rw [run, stepped, ih plain.2]
    simp

theorem run_name_plain {text : List Char} (plain : backtick ∉ text) (value : List Char) :
    run (.name value) text = (.name (value ++ text), []) := by
  induction text generalizing value with
  | nil => simp [run]
  | cons c cs ih =>
    rw [List.mem_cons, not_or] at plain
    have stepped : step (.name value) c = (.name (value ++ [c]), []) := by
      simp [step, Ne.symm plain.1]
    rw [run, stepped, ih plain.2]
    simp

/-- The quote that closes a text is not followed by another. -/
theorem tokensFrom_close {rest : List Char} (other : rest.head? ≠ some apostrophe) (value : List Char) :
    tokensFrom (.text apostrophe value) (apostrophe :: rest) = (tokensFrom .start rest).map (.text value :: ·) := by
  have slash : apostrophe ≠ '\\' := by decide
  cases rest with
  | nil => simp [tokensFrom, step, finish, slash]
  | cons c cs =>
    have apart : c ≠ apostrophe := fun same => other (congrArg some same)
    simp [tokensFrom, step, slash, apart, Option.map_map, Function.comp_def]

theorem tokensFrom_close_name {rest : List Char} (other : rest.head? ≠ some backtick) (value : List Char) :
    tokensFrom (.name value) (backtick :: rest) = (tokensFrom .start rest).map (.name value :: ·) := by
  cases rest with
  | nil => simp [tokensFrom, step, finish]
  | cons c cs =>
    have apart : c ≠ backtick := fun same => other (congrArg some same)
    simp [tokensFrom, step, apart, Option.map_map, Function.comp_def]

/-- A quoted piece, read from its first quote on. -/
theorem tokensFrom_open (text rest : List Char) :
    tokensFrom .start (quoted text ++ rest) = tokensFrom (.text apostrophe []) (text ++ apostrophe :: rest) := by
  have first : step .start apostrophe = (.text apostrophe [], []) := by decide
  simp [quoted, tokensFrom, first]

theorem tokensFrom_quoted {text rest : List Char} (plain : ∀ c ∈ text, c ≠ apostrophe ∧ c ≠ '\\')
    (other : rest.head? ≠ some apostrophe) :
    tokensFrom .start (quoted text ++ rest) = (tokensFrom .start rest).map (.text text :: ·) := by
  rw [tokensFrom_open, tokensFrom_append, run_text_plain plain]
  simp [tokensFrom_close other, Function.comp_def]

theorem tokensFrom_backticked {text rest : List Char} (plain : backtick ∉ text) (other : rest.head? ≠ some backtick) :
    tokensFrom .start (backticked text ++ rest) = (tokensFrom .start rest).map (.name text :: ·) := by
  have opened : tokensFrom .start (backticked text ++ rest) = tokensFrom (.name []) (text ++ backtick :: rest) := by
    have first : step .start backtick = (.name [], []) := by decide
    simp [backticked, tokensFrom, first]
  rw [opened, tokensFrom_append, run_name_plain plain]
  simp [tokensFrom_close_name other, Function.comp_def]

/-! ## Doubled quotes -/

/-- Only the backslashes that a text keeps: those before a wildcard. -/
def keepsSlashes : List Char → Bool
  | [] => true
  | c :: cs => (c ≠ '\\' || cs.head?.any (fun d => d = '%' || d = '_')) && keepsSlashes cs

theorem apostrophe_ne_slash : apostrophe ≠ '\\' := by decide

@[simp] theorem doubled_nil : doubled [] = [] := rfl

theorem doubled_apostrophe (cs : List Char) : doubled (apostrophe :: cs) = apostrophe :: apostrophe :: doubled cs := rfl

theorem doubled_cons {c : Char} (other : c ≠ apostrophe) (cs : List Char) : doubled (c :: cs) = c :: doubled cs := by
  simp [doubled, other]

theorem doubled_slash (cs : List Char) : doubled ('\\' :: cs) = '\\' :: doubled cs := doubled_cons (by decide) cs

/-- With doubled quotes a text is read back, but for its backslashes; the second part is
about the rest of a text after a backslash. -/
theorem run_doubled_both {text : List Char} (safe : keepsSlashes text) :
    (∀ value, run (.text apostrophe value) (doubled text) = (.text apostrophe (value ++ text), [])) ∧
    (text.head?.any (fun d => d = '%' || d = '_') →
      ∀ value, run (.escape apostrophe value) (doubled text) = (.text apostrophe (value ++ '\\' :: text), [])) := by
  induction text with
  | nil => simp [run]
  | cons c cs ih =>
    rw [keepsSlashes, Bool.and_eq_true] at safe
    obtain ⟨plain, escaped⟩ := ih safe.2
    constructor
    · intro value
      by_cases slash : c = '\\'
      · have wild : cs.head?.any (fun d => d = '%' || d = '_') := by simpa [slash] using safe.1
        rw [slash, doubled_slash, run]
        simp [step, escaped wild]
      · by_cases quote : c = apostrophe
        · rw [quote, doubled_apostrophe, run, run]
          simp [step, plain, apostrophe_ne_slash]
        · rw [doubled_cons quote, run]
          simp [step, plain, slash, quote]
    · intro wild value
      rw [List.head?_cons, Option.any_some, Bool.or_eq_true, decide_eq_true_eq, decide_eq_true_eq] at wild
      obtain rfl | rfl := wild
      · have percent : unescape '%' = ['\\', '%'] := by decide
        rw [doubled_cons (by decide), run]
        simp [step, plain, percent]
      · have underscore : unescape '_' = ['\\', '_'] := by decide
        rw [doubled_cons (by decide), run]
        simp [step, plain, underscore]

/-- A text that keeps its backslashes is read back from its doubled form. -/
theorem tokensFrom_doubled {text rest : List Char} (safe : keepsSlashes text) (other : rest.head? ≠ some apostrophe) :
    tokensFrom .start (quoted (doubled text) ++ rest) = (tokensFrom .start rest).map (.text text :: ·) := by
  rw [tokensFrom_open, tokensFrom_append, (run_doubled_both safe).1]
  simp [tokensFrom_close other, Function.comp_def]

/-- A text goes on with what has been read of it. -/
theorem first_text (script : List Char) : ∀ {quote value toks},
    tokensFrom (.text quote value) script = some toks ∨ tokensFrom (.escape quote value) script = some toks ∨
      tokensFrom (.textEnd quote value) script = some toks → ∃ v rest, toks = .text (value ++ v) :: rest := by
  induction script with
  | nil =>
    intro quote value toks read
    simp only [tokensFrom, finish, Option.some.injEq, reduceCtorEq, false_or] at read
    exact ⟨[], [], by simp [← read]⟩
  | cons c cs ih =>
    intro quote value toks read
    have longer : ∀ more, (∃ v rest, toks = .text ((value ++ more) ++ v) :: rest) →
        ∃ v rest, toks = .text (value ++ v) :: rest := by
      rintro more ⟨v, rest, shape⟩
      exact ⟨more ++ v, rest, by rw [shape, List.append_assoc]⟩
    simp only [tokensFrom, step, List.nil_append, Option.map_id'] at read
    obtain inside | escaped | ended := read
    · split_ifs at inside
      · exact ih (.inr (.inl inside))
      · exact ih (.inr (.inr inside))
      · exact longer [c] (ih (.inl inside))
    · exact longer _ (ih (.inl escaped))
    · split_ifs at ended
      · simp only [List.nil_append, Option.map_id'] at ended
        exact longer [c] (ih (.inl ended))
      · obtain ⟨later, -, rfl⟩ := Option.map_eq_some_iff.mp ended
        exact ⟨[], (begin c).2 ++ later, by simp⟩

section
variable (value cs : List Char)

theorem tokensFrom_text_slash :
    tokensFrom (.text apostrophe value) ('\\' :: cs) = tokensFrom (.escape apostrophe value) cs := by
  simp [tokensFrom, step]

theorem tokensFrom_text_quote :
    tokensFrom (.text apostrophe value) (apostrophe :: cs) = tokensFrom (.textEnd apostrophe value) cs := by
  simp [tokensFrom, step, apostrophe_ne_slash]

theorem tokensFrom_text_other {c : Char} (slash : c ≠ '\\') (quote : c ≠ apostrophe) :
    tokensFrom (.text apostrophe value) (c :: cs) = tokensFrom (.text apostrophe (value ++ [c])) cs := by
  simp [tokensFrom, step, slash, quote]

theorem tokensFrom_escape (c : Char) :
    tokensFrom (.escape apostrophe value) (c :: cs) = tokensFrom (.text apostrophe (value ++ unescape c)) cs := by
  simp [tokensFrom, step]

theorem tokensFrom_textEnd_quote : tokensFrom (.textEnd apostrophe value) (apostrophe :: cs) =
    tokensFrom (.text apostrophe (value ++ [apostrophe])) cs := by
  simp [tokensFrom, step]

theorem tokensFrom_textEnd_other {c : Char} (quote : c ≠ apostrophe) : tokensFrom (.textEnd apostrophe value) (c :: cs) =
    (tokensFrom .start (c :: cs)).map (.text value :: ·) := by
  simp [tokensFrom, step, quote, Option.map_map, Function.comp_def]

end

/-- What is read of a doubled text is no longer than the text, unless it runs past the line. -/
def Short (toks : List Token) (value : List Char) (bound : Nat) : Prop :=
  ∃ v rest, toks = .text (value ++ v) :: rest ∧ (v.length ≤ bound ∨ '\n' ∈ v)

theorem Short.more {toks : List Token} {value more : List Char} {bound bound' : Nat}
    (short : Short toks (value ++ more) bound) (room : more.length + bound ≤ bound') : Short toks value bound' := by
  obtain ⟨v, rest, shape, length | newline⟩ := short
  · refine ⟨more ++ v, rest, by rw [shape, List.append_assoc], .inl ?_⟩
    rw [List.length_append]
    omega
  · exact ⟨more ++ v, rest, by rw [shape, List.append_assoc], .inr (List.mem_append_right _ newline)⟩

theorem length_unescape_le (c : Char) : (unescape c).length ≤ 2 := by
  unfold unescape
  split_ifs <;> simp

theorem unescape_apostrophe : unescape apostrophe = [apostrophe] := by decide

/-- A text that ends here has nothing more. -/
theorem short_ended {toks : List Token} {value cs : List Char} {bound : Nat} {c : Char} (quote : c ≠ apostrophe)
    (read : tokensFrom (.textEnd apostrophe value) (c :: cs) = some toks) : Short toks value bound := by
  rw [tokensFrom_textEnd_other _ _ quote] at read
  obtain ⟨later, -, rfl⟩ := Option.map_eq_some_iff.mp read
  exact ⟨[], later, by simp, .inl (Nat.zero_le _)⟩

/-- Past the closing quote comes a line break. -/
theorem short_past {toks : List Token} {value more tail : List Char} {bound : Nat}
    (read : tokensFrom (.text apostrophe (value ++ more)) (';' :: '\n' :: tail) = some toks) :
    Short toks value bound := by
  rw [tokensFrom_text_other _ _ (by decide) (by decide), tokensFrom_text_other _ _ (by decide) (by decide)] at read
  obtain ⟨v, rest, shape⟩ := first_text tail (.inl read)
  exact ⟨more ++ [';', '\n'] ++ v, rest, by simp [shape], .inr (by simp)⟩

/-- The three parts are about a text, about what is left of one after a backslash, and about
what is left after a quote that a backslash has torn from its double. -/
theorem short_doubled (text : List Char) {tail : List Char} : ∀ {value toks},
    (tokensFrom (.text apostrophe value) (doubled text ++ apostrophe :: ';' :: '\n' :: tail) = some toks →
      Short toks value text.length) ∧
    (tokensFrom (.escape apostrophe value) (doubled text ++ apostrophe :: ';' :: '\n' :: tail) = some toks →
      Short toks value (text.length + 1)) ∧
    (tokensFrom (.textEnd apostrophe value) (doubled text ++ apostrophe :: ';' :: '\n' :: tail) = some toks →
      Short toks value text.length) := by
  induction text with
  | nil =>
    intro value toks
    simp only [doubled_nil, List.nil_append, List.length_nil]
    refine ⟨?_, ?_, ?_⟩
    · intro read
      rw [tokensFrom_text_quote] at read
      exact short_ended (by decide) read
    · intro read
      rw [tokensFrom_escape, unescape_apostrophe] at read
      exact short_past read
    · intro read
      rw [tokensFrom_textEnd_quote] at read
      exact short_past read
  | cons c cs ih =>
    intro value toks
    rw [List.length_cons]
    by_cases quote : c = apostrophe
    · simp only [quote, doubled_apostrophe, List.cons_append]
      refine ⟨?_, ?_, ?_⟩
      · intro read
        rw [tokensFrom_text_quote, tokensFrom_textEnd_quote] at read
        have later := ih.1 read
        exact later.more (by simp; omega)
      · intro read
        rw [tokensFrom_escape, unescape_apostrophe, tokensFrom_text_quote] at read
        have later := ih.2.2 read
        exact later.more (by simp; omega)
      · intro read
        rw [tokensFrom_textEnd_quote, tokensFrom_text_quote] at read
        have later := ih.2.2 read
        exact later.more (by simp; omega)
    · rw [doubled_cons quote]
      simp only [List.cons_append]
      refine ⟨?_, ?_, ?_⟩
      · intro read
        by_cases slash : c = '\\'
        · rw [slash, tokensFrom_text_slash] at read
          exact ih.2.1 read
        · rw [tokensFrom_text_other _ _ slash quote] at read
          have later := ih.1 read
          exact later.more (by simp; omega)
      · intro read
        rw [tokensFrom_escape] at read
        have later := ih.1 read
        have width := length_unescape_le c
        exact later.more (by omega)
      · intro read
        exact short_ended quote read

/-- What has been read of a text is the front of what it turns out to be. -/
theorem front_of_first {script value more whole : List Char} {rest : List Token}
    (read : tokensFrom (.text apostrophe (value ++ more)) script = some (.text (value ++ whole) :: rest) ∨
      tokensFrom (.textEnd apostrophe (value ++ more)) script = some (.text (value ++ whole) :: rest)) :
    ∃ v, whole = more ++ v := by
  obtain ⟨v, rest', shape⟩ := first_text script (read.elim .inl (fun ended => .inr (.inr ended)))
  have same : value ++ whole = value ++ (more ++ v) := by
    rw [List.cons.injEq, Token.text.injEq] at shape
    rw [shape.1, List.append_assoc]
  exact ⟨v, List.append_cancel_left same⟩

theorem unescape_cases (c : Char) : c = '\\' ∨ ((c = '%' ∨ c = '_') ∧ unescape c = ['\\', c]) ∨
    ∃ d, unescape c = [d] ∧ d ≠ '\\' := by
  unfold unescape
  split_ifs with n t r b zero z wild
  · exact .inr (.inr ⟨_, rfl, by decide⟩)
  · exact .inr (.inr ⟨_, rfl, by decide⟩)
  · exact .inr (.inr ⟨_, rfl, by decide⟩)
  · exact .inr (.inr ⟨_, rfl, by decide⟩)
  · exact .inr (.inr ⟨_, rfl, by decide⟩)
  · exact .inr (.inr ⟨_, rfl, by decide⟩)
  · rw [Bool.or_eq_true, decide_eq_true_eq, decide_eq_true_eq] at wild
    exact .inr (.inl ⟨wild, rfl⟩)
  · by_cases slash : c = '\\'
    · exact .inl slash
    · exact .inr (.inr ⟨c, rfl, slash⟩)

/-- Only a text that keeps its backslashes is read back from its doubled form, on one line;
the second part is about what is left of a text after a backslash. -/
theorem keepsSlashes_of_read {text : List Char} (line : '\n' ∉ text) {tail : List Char} : ∀ {value rest},
    (tokensFrom (.text apostrophe value) (doubled text ++ apostrophe :: ';' :: '\n' :: tail) =
      some (.text (value ++ text) :: rest) → keepsSlashes text) ∧
    (tokensFrom (.escape apostrophe value) (doubled text ++ apostrophe :: ';' :: '\n' :: tail) =
      some (.text (value ++ '\\' :: text) :: rest) →
      text.head?.any (fun d => d = '%' || d = '_') ∧ keepsSlashes text) := by
  induction text with
  | nil =>
    intro value rest
    refine ⟨fun _ => rfl, ?_⟩
    intro read
    rw [doubled_nil, List.nil_append, tokensFrom_escape, unescape_apostrophe] at read
    obtain ⟨v, shape⟩ := front_of_first (.inl read)
    exact absurd (List.cons.inj shape).1.symm apostrophe_ne_slash
  | cons c cs ih =>
    rw [List.mem_cons, not_or] at line
    intro value rest
    by_cases quote : c = apostrophe
    · rw [quote, doubled_apostrophe]
      simp only [List.cons_append]
      constructor
      · intro read
        rw [tokensFrom_text_quote, tokensFrom_textEnd_quote, List.append_cons value apostrophe cs] at read
        rw [keepsSlashes, (ih line.2).1 read, Bool.and_true, Bool.or_eq_true]
        exact .inl (decide_eq_true apostrophe_ne_slash)
      · intro read
        rw [tokensFrom_escape, unescape_apostrophe, tokensFrom_text_quote] at read
        obtain ⟨v, shape⟩ := front_of_first (.inr read)
        exact absurd (List.cons.inj shape).1.symm apostrophe_ne_slash
    · rw [doubled_cons quote]
      simp only [List.cons_append]
      constructor
      · intro read
        by_cases slash : c = '\\'
        · rw [slash, tokensFrom_text_slash] at read
          have later := (ih line.2).2 read
          rw [keepsSlashes, later.2, later.1, Bool.or_true, Bool.and_true]
        · rw [tokensFrom_text_other _ _ slash quote, List.append_cons value c cs] at read
          rw [keepsSlashes, (ih line.2).1 read, Bool.and_true, Bool.or_eq_true]
          exact .inl (decide_eq_true slash)
      · intro read
        rw [tokensFrom_escape] at read
        obtain slash | ⟨wild, coded⟩ | ⟨d, single, plain⟩ := unescape_cases c
        · -- two backslashes are one: what follows would be longer than its doubled form
          have one : unescape '\\' = ['\\'] := by decide
          rw [slash, one, List.append_cons value '\\' ('\\' :: cs)] at read
          obtain ⟨v, rest', shape, short⟩ := (short_doubled cs).1 read
          rw [List.cons.injEq, Token.text.injEq] at shape
          have tail_eq : '\\' :: cs = v := List.append_cancel_left shape.1
          rw [← tail_eq, List.length_cons, List.mem_cons] at short
          obtain length | newline | newline := short
          · omega
          · exact absurd newline (by decide)
          · exact absurd newline line.2
        · have front : value ++ '\\' :: c :: cs = (value ++ ['\\', c]) ++ cs := by simp
          rw [coded, front] at read
          have later := (ih line.2).1 read
          rcases wild with rfl | rfl <;> simp [keepsSlashes, later]
        · rw [single] at read
          obtain ⟨v, shape⟩ := front_of_first (.inl read)
          exact absurd (List.cons.inj shape).1.symm plain

end XpBuilder.SqlTokens
