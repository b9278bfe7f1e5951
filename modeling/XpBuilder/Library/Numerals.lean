import Mathlib.Algebra.Field.Rat
import Mathlib.Data.List.TakeWhile

/-! Decimal numerals with a sign, a fraction and an exponent, and a reader that takes the longest numeral
a text begins with. The value is exact. -/

namespace XpBuilder.Numerals

/-! ## Numerals -/

inductive Sign where
  | none
  | plus
  | minus
  deriving DecidableEq

def Sign.text : Sign → List Char
  | none => []
  | plus => ['+']
  | minus => ['-']

def Sign.signed {α : Type} [Neg α] : Sign → α → α
  | minus, x => -x
  | _, x => x

/-- The number that digits write. -/
def natural (digits : List Char) : ℕ := digits.foldl (fun n c => 10 * n + (c.toNat - 48)) 0

/-- A power of ten. -/
structure Exponent where
  mark : Char
  sign : Sign
  digits : List Char
  marked : mark = 'e' ∨ mark = 'E'
  filled : digits ≠ []
  numeric : ∀ c ∈ digits, c.isDigit = true

def Exponent.text (e : Exponent) : List Char := e.mark :: (e.sign.text ++ e.digits)

def Exponent.value (e : Exponent) : ℤ := e.sign.signed (natural e.digits : ℤ)

/-- Digits before or behind a point, one at least. -/
structure Numeral where
  sign : Sign
  whole : List Char
  fraction : Option (List Char)
  exponent : Option Exponent
  numeric : ∀ c ∈ whole, c.isDigit = true
  behind : ∀ digits ∈ fraction, ∀ c ∈ digits, c.isDigit = true
  filled : whole = [] → ∃ digits ∈ fraction, digits ≠ []

def fractionText : Option (List Char) → List Char
  | none => []
  | some digits => '.' :: digits

def exponentText : Option Exponent → List Char
  | none => []
  | some e => e.text

/-- What follows the sign. -/
def Numeral.body (n : Numeral) : List Char := n.whole ++ (fractionText n.fraction ++ exponentText n.exponent)

def Numeral.text (n : Numeral) : List Char := n.sign.text ++ n.body

/-- The number of its parts. -/
def combined (sign : Sign) (whole : List Char) (fraction : Option (List Char)) (exponent : ℤ) : ℚ :=
  let behind := fraction.getD []
  sign.signed ((natural whole + natural behind / 10 ^ behind.length) * 10 ^ exponent)

def exponentValue (exponent : Option Exponent) : ℤ := (exponent.map Exponent.value).getD 0

def Numeral.value (n : Numeral) : ℚ := combined n.sign n.whole n.fraction (exponentValue n.exponent)

/-! ## Reading -/

def readSign : List Char → Sign × List Char
  | '+' :: rest => (.plus, rest)
  | '-' :: rest => (.minus, rest)
  | rest => (.none, rest)

def readDigits (text : List Char) : List Char × List Char := (text.takeWhile Char.isDigit, text.dropWhile Char.isDigit)

/-- A point is read behind digits or before some. -/
def readFraction (whole : List Char) : List Char → Option (List Char) × List Char
  | '.' :: rest =>
    let (digits, more) := readDigits rest
    if whole = [] ∧ digits = [] then (none, '.' :: rest) else (some digits, more)
  | rest => (none, rest)

/-- An exponent without digits is not read. -/
def readExponent : List Char → ℤ × List Char
  | [] => (0, [])
  | mark :: rest =>
    if mark = 'e' ∨ mark = 'E' then
      let (sign, body) := readSign rest
      let (digits, more) := readDigits body
      if digits = [] then (0, mark :: rest) else (sign.signed (natural digits : ℤ), more)
    else (0, mark :: rest)

/-- The number of the longest numeral in front, and what follows it. -/
def readNumeral (text : List Char) : Option (ℚ × List Char) :=
  let (sign, body) := readSign text
  let (whole, rest) := readDigits body
  let (fraction, rest) := readFraction whole rest
  if whole = [] ∧ fraction = none then none
  else
    let (exponent, rest) := readExponent rest
    some (combined sign whole fraction exponent, rest)

/-! ## What is read is a numeral -/

theorem readSign_sound (text : List Char) : (readSign text).1.text ++ (readSign text).2 = text := by
  unfold readSign
  split <;> rfl

theorem readDigits_sound (text : List Char) : (readDigits text).1 ++ (readDigits text).2 = text :=
  List.takeWhile_append_dropWhile

theorem isDigit_readDigits (text : List Char) : ∀ c ∈ (readDigits text).1, c.isDigit = true :=
  fun _ mem => List.mem_takeWhile_imp mem

theorem readFraction_sound (whole text : List Char) :
    fractionText (readFraction whole text).1 ++ (readFraction whole text).2 = text ∧
      (∀ digits ∈ (readFraction whole text).1, ∀ c ∈ digits, c.isDigit = true) ∧
      (whole = [] → ∀ digits ∈ (readFraction whole text).1, digits ≠ []) := by
  unfold readFraction
  split
  · rename_i rest
    dsimp only
    split_ifs with nothing
    · exact ⟨rfl, nofun, fun _ => nofun⟩
    · refine ⟨congrArg (List.cons '.') (readDigits_sound rest), ?_, ?_⟩
      · intro digits found
        rw [← Option.mem_some_iff.mp found]
        exact isDigit_readDigits rest
      · intro empty digits found
        rw [← Option.mem_some_iff.mp found]
        exact fun gone => nothing ⟨empty, gone⟩
  · exact ⟨rfl, nofun, fun _ => nofun⟩

theorem readExponent_sound (text : List Char) : ∃ exponent : Option Exponent,
    exponentText exponent ++ (readExponent text).2 = text ∧ exponentValue exponent = (readExponent text).1 := by
  cases text with
  | nil => exact ⟨none, rfl, rfl⟩
  | cons mark rest =>
    unfold readExponent
    dsimp only
    split_ifs with marked empty
    · exact ⟨none, rfl, rfl⟩
    · refine ⟨some ⟨mark, (readSign rest).1, (readDigits (readSign rest).2).1, marked, empty, isDigit_readDigits _⟩,
        ?_, rfl⟩
      have digits := readDigits_sound (readSign rest).2
      have sign := readSign_sound rest
      rw [exponentText, Exponent.text, List.cons_append, List.append_assoc, digits, sign]
    · exact ⟨none, rfl, rfl⟩

theorem readNumeral_sound {text rest : List Char} {q : ℚ} (read : readNumeral text = some (q, rest)) :
    ∃ n : Numeral, text = n.text ++ rest ∧ n.value = q := by
  have sign := readSign_sound text
  have whole := readDigits_sound (readSign text).2
  obtain ⟨fraction, behind, pointed⟩ :=
    readFraction_sound (readDigits (readSign text).2).1 (readDigits (readSign text).2).2
  obtain ⟨exponent, last, power⟩ :=
    readExponent_sound (readFraction (readDigits (readSign text).2).1 (readDigits (readSign text).2).2).2
  unfold readNumeral at read
  dsimp only at read
  split_ifs at read with nothing
  obtain ⟨rfl, rfl⟩ := Prod.mk.inj (Option.some.inj read)
  refine ⟨⟨(readSign text).1, _, _, exponent, isDigit_readDigits (readSign text).2, behind, ?_⟩, ?_, ?_⟩
  · intro empty
    obtain ⟨digits, found⟩ := Option.ne_none_iff_exists'.mp (fun absent => nothing ⟨empty, absent⟩)
    exact ⟨digits, found, pointed empty digits found⟩
  · rw [Numeral.text, Numeral.body, List.append_assoc, List.append_assoc, List.append_assoc, last, fraction, whole, sign]
  · rw [Numeral.value, power]

/-! ## A numeral is read -/

/-- No numeral goes on with what follows. -/
def Ends (rest : List Char) : Prop := ∀ c ∈ rest.head?, c.isDigit = false ∧ c ≠ '.' ∧ c ≠ 'e' ∧ c ≠ 'E'

theorem readSign_append (sign : Sign) {rest : List Char} (stops : ∀ c ∈ rest.head?, c ≠ '+' ∧ c ≠ '-') :
    readSign (sign.text ++ rest) = (sign, rest) := by
  cases sign with
  | plus => rfl
  | minus => rfl
  | none =>
    change readSign rest = _
    unfold readSign
    split
    · exact absurd rfl (stops '+' rfl).1
    · exact absurd rfl (stops '-' rfl).2
    · rfl

theorem readDigits_append {digits rest : List Char} (numeric : ∀ c ∈ digits, c.isDigit = true)
    (stops : ∀ c ∈ rest.head?, c.isDigit = false) : readDigits (digits ++ rest) = (digits, rest) := by
  have front : rest.takeWhile Char.isDigit = [] ∧ rest.dropWhile Char.isDigit = rest := by
    cases rest with
    | nil => exact ⟨rfl, rfl⟩
    | cons c rest =>
      have stop : ¬c.isDigit = true := Bool.eq_false_iff.mp (stops c rfl)
      exact ⟨List.takeWhile_cons_of_neg stop, List.dropWhile_cons_of_neg stop⟩
  rw [readDigits, List.takeWhile_append_of_pos numeric, List.dropWhile_append_of_pos numeric, front.1, front.2,
    List.append_nil]

theorem not_sign_of_starts {c : Char} (starts : c.isDigit = true ∨ c = '.') : c ≠ '+' ∧ c ≠ '-' := by
  constructor <;> rintro rfl <;> exact absurd starts (by decide)

theorem mem_of_head_append {front rest : List Char} {c : Char} (filled : front ≠ []) (head : c ∈ (front ++ rest).head?) :
    c ∈ front := by
  cases front with
  | nil => exact absurd rfl filled
  | cons d front =>
    rw [← Option.mem_some_iff.mp head]
    exact List.mem_cons_self

theorem readExponent_append (exponent : Option Exponent) {rest : List Char} (ends : Ends rest) :
    readExponent (exponentText exponent ++ rest) = (exponentValue exponent, rest) := by
  cases exponent with
  | none =>
    cases rest with
    | nil => rfl
    | cons c rest =>
      obtain ⟨-, -, lower, upper⟩ := ends c rfl
      have unmarked : ¬(c = 'e' ∨ c = 'E') := not_or.mpr ⟨lower, upper⟩
      exact if_neg unmarked
  | some e =>
    have stops : ∀ c ∈ (e.digits ++ rest).head?, c ≠ '+' ∧ c ≠ '-' := by
      intro c head
      exact not_sign_of_starts (.inl (e.numeric c (mem_of_head_append e.filled head)))
    have digits := readDigits_append e.numeric (fun c head => (ends c head).1)
    change readExponent (e.mark :: ((e.sign.text ++ e.digits) ++ rest)) = _
    rw [readExponent, if_pos e.marked, List.append_assoc, readSign_append e.sign stops]
    dsimp only
    rw [digits]
    exact if_neg e.filled

theorem readFraction_append {whole : List Char} {fraction : Option (List Char)} {rest : List Char}
    (numeric : ∀ digits ∈ fraction, ∀ c ∈ digits, c.isDigit = true)
    (filled : whole = [] → ∃ digits ∈ fraction, digits ≠ [])
    (stops : ∀ c ∈ rest.head?, c.isDigit = false ∧ c ≠ '.') :
    readFraction whole (fractionText fraction ++ rest) = (fraction, rest) := by
  cases fraction with
  | none =>
    change readFraction whole rest = _
    unfold readFraction
    split
    · exact absurd rfl (stops '.' rfl).2
    · rfl
  | some digits =>
    have read := readDigits_append (numeric digits rfl) (fun c head => (stops c head).1)
    have some_digit : ¬(whole = [] ∧ digits = []) := by
      rintro ⟨empty, nothing⟩
      obtain ⟨_, same, found⟩ := filled empty
      rw [← Option.mem_some_iff.mp same] at found
      exact found nothing
    change readFraction whole ('.' :: (digits ++ rest)) = _
    rw [readFraction, read]
    exact if_neg some_digit

theorem head_exponentText {exponent : Option Exponent} {rest : List Char} (ends : Ends rest) :
    ∀ c ∈ (exponentText exponent ++ rest).head?, c.isDigit = false ∧ c ≠ '.' := by
  cases exponent with
  | none => exact fun c head => ⟨(ends c head).1, (ends c head).2.1⟩
  | some e =>
    intro c head
    rw [← Option.mem_some_iff.mp head]
    rcases e.marked with same | same <;> rw [same] <;> decide

theorem head_fractionText {fraction : Option (List Char)} {rest : List Char}
    (stops : ∀ c ∈ rest.head?, c.isDigit = false ∧ c ≠ '.') :
    ∀ c ∈ (fractionText fraction ++ rest).head?, c.isDigit = false := by
  cases fraction with
  | none => exact fun c head => (stops c head).1
  | some digits =>
    intro c head
    rw [← Option.mem_some_iff.mp head]
    decide

/-- Behind its sign a numeral begins with a digit or the point. -/
theorem Numeral.head_body (n : Numeral) (rest : List Char) :
    ∀ c ∈ (n.body ++ rest).head?, c.isDigit = true ∨ c = '.' := by
  intro c head
  rw [Numeral.body, List.append_assoc] at head
  by_cases empty : n.whole = []
  · obtain ⟨digits, found, -⟩ := n.filled empty
    rw [empty, Option.mem_def.mp found] at head
    exact .inr (Option.mem_some_iff.mp head).symm
  · exact .inl (n.numeric c (mem_of_head_append empty head))

theorem readSign_text (n : Numeral) (rest : List Char) : readSign (n.text ++ rest) = (n.sign, n.body ++ rest) := by
  rw [Numeral.text, List.append_assoc]
  exact readSign_append n.sign (fun c head => not_sign_of_starts (n.head_body rest c head))

/-- A numeral in front of what does not go on with it is read whole. -/
theorem readNumeral_text (n : Numeral) {rest : List Char} (ends : Ends rest) :
    readNumeral (n.text ++ rest) = some (n.value, rest) := by
  have behind : ∀ c ∈ (exponentText n.exponent ++ rest).head?, c.isDigit = false ∧ c ≠ '.' := head_exponentText ends
  have pointed : ∀ c ∈ (fractionText n.fraction ++ (exponentText n.exponent ++ rest)).head?, c.isDigit = false :=
    head_fractionText behind
  have some_part : ¬(n.whole = [] ∧ n.fraction = none) := by
    rintro ⟨empty, absent⟩
    obtain ⟨digits, found, -⟩ := n.filled empty
    rw [absent] at found
    cases found
  unfold readNumeral
  rw [readSign_text, Numeral.body, List.append_assoc, List.append_assoc]
  dsimp only
  rw [readDigits_append n.numeric pointed]
  dsimp only
  rw [readFraction_append n.behind n.filled behind, if_neg some_part, readExponent_append n.exponent ends]
  rfl

end XpBuilder.Numerals
