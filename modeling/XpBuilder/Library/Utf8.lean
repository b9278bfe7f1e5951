import Mathlib.Data.List.Basic
import XpBuilder.Library.Percent

/-! UTF-8 read with a replacement. Where no character begins, the longest beginning of one, or else
a single byte, is read as the replacement character. -/

namespace XpBuilder.Utf8
open Percent (utf8)

/-! ## Bytes of a character -/

/-- A byte inside a character. -/
def isTail (b : UInt8) : Bool := 0x80 ≤ b.toNat && b.toNat < 0xC0

theorem isTail_iff {b : UInt8} : isTail b = true ↔ 0x80 ≤ b.toNat ∧ b.toNat < 0xC0 := by
  rw [isTail, Bool.and_eq_true, decide_eq_true_eq, decide_eq_true_eq]

/-- A character is one ASCII byte, or a first byte that tells more and some that continue it. -/
theorem utf8EncodeChar_cases (c : Char) :
    (c.toNat < 0x80 ∧ String.utf8EncodeChar c = [UInt8.ofNat c.toNat]) ∨
    (0x80 ≤ c.toNat ∧ ∃ b tail, String.utf8EncodeChar c = b :: tail ∧ 0xC0 ≤ b.toNat ∧ ∀ x ∈ tail, isTail x = true) := by
  have small : ∀ n, n % 0x40 + 0x80 < 256 := fun n => by omega
  have tail : ∀ n, isTail (UInt8.ofNat (n % 0x40 + 0x80)) = true := by
    intro n
    simp only [isTail, UInt8.toNat_ofNat', Nat.mod_eq_of_lt (small n), Bool.and_eq_true, decide_eq_true_eq]
    omega
  have value : c.val.toNat = c.toNat := rfl
  unfold String.utf8EncodeChar
  simp only [value]
  split_ifs with one two three
  · exact .inl ⟨by omega, rfl⟩
  · refine .inr ⟨by omega, _, _, rfl, ?_, ?_⟩
    · rw [UInt8.toNat_ofNat', Nat.mod_eq_of_lt (by omega)]
      omega
    · rw [List.forall_mem_singleton]
      exact tail _
  · refine .inr ⟨by omega, _, _, rfl, ?_, ?_⟩
    · rw [UInt8.toNat_ofNat', Nat.mod_eq_of_lt (by omega)]
      omega
    · rw [List.forall_mem_cons, List.forall_mem_singleton]
      exact ⟨tail _, tail _⟩
  · refine .inr ⟨by omega, _, _, rfl, ?_, ?_⟩
    · rw [UInt8.toNat_ofNat', Nat.mod_eq_of_lt (by omega)]
      omega
    · rw [List.forall_mem_cons, List.forall_mem_cons, List.forall_mem_singleton]
      exact ⟨tail _, tail _, tail _⟩

/-- The character that some bytes begin with. -/
def firstChar (bytes : List UInt8) : Option Char := bytes.toByteArray.utf8DecodeChar? 0

theorem firstChar_append (c : Char) (rest : List UInt8) : firstChar (String.utf8EncodeChar c ++ rest) = some c := by
  rw [firstChar, List.toByteArray_append']
  exact ByteArray.utf8DecodeChar?_utf8EncodeChar_append

theorem exists_of_firstChar {bytes : List UInt8} {c : Char} (first : firstChar bytes = some c) :
    ∃ rest, bytes = String.utf8EncodeChar c ++ rest := by
  obtain ⟨more, shape⟩ := ByteArray.exists_of_utf8DecodeChar?_eq_some first
  refine ⟨more.data.toList, ?_⟩
  have lists := congrArg (fun b => b.data.toList) shape
  simpa using lists

/-! ## Reading -/

/-- The second byte that may follow a first one of three or four bytes. -/
def secondFits (first second : UInt8) : Bool :=
  if first = 0xE0 then isTail second && 0xA0 ≤ second.toNat
  else if first = 0xED then isTail second && second.toNat < 0xA0
  else if first = 0xF0 then isTail second && 0x90 ≤ second.toNat
  else if first = 0xF4 then isTail second && second.toNat < 0x90
  else isTail second

/-- How many bytes after a first one belong to the beginning of a character that is not completed. -/
def begun (first : UInt8) (rest : List UInt8) : Nat :=
  if first.toNat < 0xE0 || 0xF4 < first.toNat then 0
  else
    match rest with
    | [] => 0
    | second :: more =>
      if secondFits first second then
        match more with
        | [] => 1
        | third :: _ => if 0xF0 ≤ first.toNat && isTail third then 2 else 1
      else 0

/-- The text of some bytes after those that are skipped. -/
def decodeFrom : Nat → List UInt8 → List Char
  | _, [] => []
  | skip + 1, _ :: rest => decodeFrom skip rest
  | 0, b :: rest =>
    match firstChar (b :: rest) with
    | some c => c :: decodeFrom ((String.utf8EncodeChar c).length - 1) rest
    | none => '\uFFFD' :: decodeFrom (begun b rest) rest

/-- `bytes.decode("utf-8", "replace")` -/
def decode (bytes : List UInt8) : List Char := decodeFrom 0 bytes

/-- The bytes are those of a text. -/
def Valid (bytes : List UInt8) : Prop := utf8 (decode bytes) = bytes

@[simp] theorem decode_nil : decode [] = [] := rfl

theorem decodeFrom_eq (skip : Nat) (bytes : List UInt8) : decodeFrom skip bytes = decode (bytes.drop skip) := by
  induction skip generalizing bytes with
  | zero => rfl
  | succ skip ih =>
    cases bytes with
    | nil => rfl
    | cons b rest => exact ih rest

/-- What is read as the replacement character. -/
structure Broken (b : UInt8) (part rest : List UInt8) : Prop where
  none_first : firstChar (b :: (part ++ rest)) = none
  high : 0x80 ≤ b.toNat
  whole : part.length = begun b (part ++ rest)
  tails : ∀ x ∈ part, isTail x = true
  short : part.length ≤ 1 ∨ (part.length = 2 ∧ 0xF0 ≤ b.toNat)

theorem decode_char (c : Char) (rest : List UInt8) : decode (String.utf8EncodeChar c ++ rest) = c :: decode rest := by
  have found := firstChar_append c rest
  cases shape : String.utf8EncodeChar c with
  | nil =>
    rcases utf8EncodeChar_cases c with ⟨-, one⟩ | ⟨-, b, tail, more, -⟩
    · rw [one] at shape
      cases shape
    · rw [more] at shape
      cases shape
  | cons b tail =>
    rw [shape, List.cons_append] at found
    rw [List.cons_append, decode, decodeFrom, found]
    change c :: decodeFrom ((String.utf8EncodeChar c).length - 1) (tail ++ rest) = _
    rw [decodeFrom_eq, shape, List.length_cons, Nat.add_sub_cancel, List.drop_left]

theorem decode_broken {b : UInt8} {part rest : List UInt8} (broken : Broken b part rest) :
    decode (b :: (part ++ rest)) = '\uFFFD' :: decode rest := by
  rw [decode, decodeFrom, broken.none_first]
  change '\uFFFD' :: decodeFrom (begun b (part ++ rest)) (part ++ rest) = _
  rw [decodeFrom_eq, ← broken.whole, List.drop_left]

theorem isTail_of_secondFits {first second : UInt8} (fits : secondFits first second = true) : isTail second = true := by
  unfold secondFits at fits
  split_ifs at fits <;> simp_all

theorem begun_spec (first : UInt8) (rest : List UInt8) : begun first rest ≤ rest.length ∧
    (∀ x ∈ rest.take (begun first rest), isTail x = true) ∧
    (begun first rest ≤ 1 ∨ (begun first rest = 2 ∧ 0xF0 ≤ first.toNat)) := by
  unfold begun
  split_ifs with outside
  · simp
  · cases rest with
    | nil => simp
    | cons second more =>
      by_cases fits : secondFits first second = true
      · have tail := isTail_of_secondFits fits
        cases more with
        | nil => simp [fits, tail]
        | cons third more =>
          by_cases both : 0xF0 ≤ first.toNat ∧ isTail third = true
          · simp [fits, tail, both]
          · have other : (decide (0xF0 ≤ first.toNat) && isTail third) = false := by
              simpa using both
            simp [fits, tail, other]
      · simp [fits]

theorem firstChar_ascii {b : UInt8} (ascii : b.toNat < 0x80) (rest : List UInt8) :
    ∃ c, firstChar (b :: rest) = some c := by
  have valid : b.toNat.isValidChar := Or.inl (by omega)
  have value : (Char.ofNat b.toNat).toNat = b.toNat := by
    rw [Char.ofNat, dif_pos valid]
    rfl
  have encoded : String.utf8EncodeChar (Char.ofNat b.toNat) = [b] := by
    rcases utf8EncodeChar_cases (Char.ofNat b.toNat) with ⟨-, one⟩ | ⟨high, -⟩
    · rw [one, value, UInt8.ofNat_toNat]
    · omega
  have found := firstChar_append (Char.ofNat b.toNat) rest
  rw [encoded] at found
  exact ⟨_, found⟩

theorem broken_of_none {b : UInt8} {rest : List UInt8} (none_first : firstChar (b :: rest) = none) :
    Broken b (rest.take (begun b rest)) (rest.drop (begun b rest)) := by
  obtain ⟨bound, tails, short⟩ := begun_spec b rest
  have length : (rest.take (begun b rest)).length = begun b rest := List.length_take_of_le bound
  refine ⟨?_, ?_, ?_, tails, ?_⟩
  · rwa [List.take_append_drop]
  · by_contra ascii
    obtain ⟨c, found⟩ := firstChar_ascii (Nat.lt_of_not_le ascii) rest
    rw [none_first] at found
    cases found
  · rw [List.take_append_drop, length]
  · rwa [length]

theorem bytes_cases (bytes : List UInt8) : bytes = [] ∨ (∃ c rest, bytes = String.utf8EncodeChar c ++ rest) ∨
    ∃ b part rest, Broken b part rest ∧ bytes = b :: (part ++ rest) := by
  cases bytes with
  | nil => exact .inl rfl
  | cons b rest =>
    right
    cases first : firstChar (b :: rest) with
    | some c =>
      obtain ⟨more, shape⟩ := exists_of_firstChar first
      exact .inl ⟨c, more, shape⟩
    | none =>
      refine .inr ⟨b, _, _, broken_of_none first, ?_⟩
      rw [List.take_append_drop]

theorem length_utf8EncodeChar_pos (c : Char) : 0 < (String.utf8EncodeChar c).length := by
  rw [String.length_utf8EncodeChar]
  exact c.utf8Size_pos

/-- Bytes are read character by character, or in broken pieces. -/
theorem bytes_induction {motive : List UInt8 → Prop} (nil : motive [])
    (char : ∀ c rest, motive rest → motive (String.utf8EncodeChar c ++ rest))
    (broken : ∀ b part rest, Broken b part rest → motive rest → motive (b :: (part ++ rest)))
    (bytes : List UInt8) : motive bytes := by
  induction size : bytes.length using Nat.strongRecOn generalizing bytes with
  | _ n ih =>
    rcases bytes_cases bytes with rfl | ⟨c, rest, rfl⟩ | ⟨b, part, rest, piece, rfl⟩
    · exact nil
    · have positive := length_utf8EncodeChar_pos c
      rw [List.length_append] at size
      exact char c rest (ih _ (by omega) rest rfl)
    · rw [List.length_cons, List.length_append] at size
      exact broken b part rest piece (ih _ (by omega) rest rfl)

/-! ## Texts -/

theorem decode_text (text : List Char) (rest : List UInt8) : decode (utf8 text ++ rest) = text ++ decode rest := by
  induction text with
  | nil => rfl
  | cons c text ih => rw [Percent.utf8_cons, List.append_assoc, decode_char, ih, List.cons_append]

theorem valid_char_iff {c : Char} {rest : List UInt8} : Valid (String.utf8EncodeChar c ++ rest) ↔ Valid rest := by
  rw [Valid, decode_char, Percent.utf8_cons]
  exact List.append_right_inj _

theorem not_valid_of_broken {b : UInt8} {part rest : List UInt8} (broken : Broken b part rest) :
    ¬Valid (b :: (part ++ rest)) := by
  intro valid
  rw [Valid, decode_broken broken, Percent.utf8_cons] at valid
  have found := broken.none_first
  rw [← valid, firstChar_append] at found
  cases found

/-- An ASCII character that is read stands there. -/
theorem mem_of_mem_decode {bytes : List UInt8} {c : Char} (ascii : c.toNat < 0x80) (mem : c ∈ decode bytes) :
    UInt8.ofNat c.toNat ∈ bytes := by
  induction bytes using bytes_induction with
  | nil => cases mem
  | char d rest ih =>
    rw [decode_char, List.mem_cons] at mem
    rw [List.mem_append]
    rcases mem with rfl | later
    · left
      rcases utf8EncodeChar_cases c with ⟨-, one⟩ | ⟨high, -⟩
      · rw [one]
        exact List.mem_cons_self
      · omega
    · exact .inr (ih later)
  | broken b part rest broken ih =>
    rw [decode_broken broken, List.mem_cons] at mem
    rcases mem with rfl | later
    · exact absurd ascii (by decide)
    · exact List.mem_cons_of_mem _ (List.mem_append_right _ (ih later))

/-! ## How many characters are read -/

theorem decode_tail {b : UInt8} (tail : isTail b = true) (rest : List UInt8) :
    decode (b :: rest) = '\uFFFD' :: decode rest := by
  rw [isTail_iff] at tail
  have none_first : firstChar (b :: rest) = none := by
    cases first : firstChar (b :: rest) with
    | none => rfl
    | some c =>
      obtain ⟨more, shape⟩ := exists_of_firstChar first
      rcases utf8EncodeChar_cases c with ⟨ascii, one⟩ | ⟨-, lead, tails, shape', high, -⟩
      · rw [one, List.singleton_append, List.cons.injEq] at shape
        rw [shape.1, UInt8.toNat_ofNat', Nat.mod_eq_of_lt (by omega)] at tail
        omega
      · rw [shape', List.cons_append, List.cons.injEq] at shape
        rw [shape.1] at tail
        omega
  have nothing : begun b rest = 0 := by
    have low : (decide (b.toNat < 0xE0) || decide (0xF4 < b.toNat)) = true := by
      simp only [Bool.or_eq_true, decide_eq_true_eq]
      omega
    unfold begun
    rw [if_pos low]
  have piece := broken_of_none none_first
  rw [nothing, List.take_zero, List.drop_zero] at piece
  exact decode_broken piece

theorem length_decode_tails {part : List UInt8} (tails : ∀ x ∈ part, isTail x = true) (rest : List UInt8) :
    (decode (part ++ rest)).length = part.length + (decode rest).length := by
  induction part with
  | nil => simp
  | cons x part ih =>
    rw [List.forall_mem_cons] at tails
    rw [List.cons_append, decode_tail tails.1, List.length_cons, ih tails.2, List.length_cons]
    omega

/-- A byte in front adds at most one character. -/
theorem length_decode_cons_le (b : UInt8) (rest : List UInt8) :
    (decode (b :: rest)).length ≤ (decode rest).length + 1 := by
  cases first : firstChar (b :: rest) with
  | some c =>
    obtain ⟨more, shape⟩ := exists_of_firstChar first
    rw [shape, decode_char, List.length_cons]
    rcases utf8EncodeChar_cases c with ⟨-, one⟩ | ⟨-, lead, tails, encoded, -, all⟩
    · rw [one, List.singleton_append, List.cons.injEq] at shape
      rw [shape.2]
    · rw [encoded, List.cons_append, List.cons.injEq] at shape
      rw [shape.2, length_decode_tails all]
      omega
  | none =>
    have piece := broken_of_none first
    have read := decode_broken piece
    have before := length_decode_tails piece.tails (rest.drop (begun b rest))
    rw [List.take_append_drop] at read before
    rw [read, List.length_cons, before]
    omega

end XpBuilder.Utf8
