import Mathlib.Algebra.GroupWithZero.Nat
import XpBuilder.Library.Utf8

/-! What is lost when the bytes of a URL are read as a text that is put into a URL again. Escapes can
appear that were none, bytes that are no text are replaced, and marks can end a part early. A character
is at most one character when it is read again, so a part that comes back whole has lost nothing. -/

namespace XpBuilder.Lossy
open Percent

/-! ## Escapes that appear -/

/-- No percent sign stands before two hexadecimal digits. -/
def Unescaped (text : List Char) : Prop := ∀ c rest, c :: rest <:+ text → escaped c rest = none

theorem unescaped_cons_iff {c : Char} {rest : List Char} :
    Unescaped (c :: rest) ↔ escaped c rest = none ∧ Unescaped rest := by
  constructor
  · intro plain
    exact ⟨plain c rest (List.suffix_refl _), fun d more behind => plain d more (behind.trans (List.suffix_cons c rest))⟩
  · rintro ⟨here, later⟩ d more behind
    rcases List.suffix_cons_iff.mp behind with same | behind
    · obtain ⟨rfl, rfl⟩ := List.cons.inj same
      exact here
    · exact later d more behind

theorem decode_of_unescaped {text : List Char} (plain : Unescaped text) : decode text = utf8 text := by
  induction text with
  | nil => rfl
  | cons c rest ih =>
    rw [unescaped_cons_iff] at plain
    rw [decode_cons plain.1, ih plain.2, utf8_cons]

/-- Read again a text has no more characters, and as many only when nothing in it is an escape. -/
theorem length_read_again (text : List Char) : (Utf8.decode (decode text)).length ≤ text.length ∧
    ((Utf8.decode (decode text)).length = text.length → Unescaped text) := by
  induction size : text.length using Nat.strongRecOn generalizing text with
  | _ n ih =>
    cases text with
    | nil =>
      rw [← size]
      refine ⟨le_rfl, fun _ c rest behind => ?_⟩
      exact absurd (List.suffix_nil.mp behind) (List.cons_ne_nil c rest)
    | cons c rest =>
      rw [List.length_cons] at size
      cases here : escaped c rest with
      | some b =>
        obtain ⟨-, high, low, more, -, -, rfl, -⟩ := exists_of_escaped here
        have read : decode (c :: high :: low :: more) = b :: decode more := read_escaped here
        have one := Utf8.length_decode_cons_le b (decode more)
        have less := (ih more.length (by simp only [List.length_cons] at size; omega) more rfl).1
        simp only [List.length_cons] at size
        rw [read]
        refine ⟨by omega, fun same => absurd same (by omega)⟩
      | none =>
        obtain ⟨fewer, all⟩ := ih rest.length (by omega) rest rfl
        rw [decode_cons here, Utf8.decode_char, List.length_cons]
        refine ⟨by omega, fun same => unescaped_cons_iff.mpr ⟨here, all (by omega)⟩⟩

/-! ## A part that comes back -/

/-- Bytes that are read as a text, of which some characters are dropped and the rest ends at a mark,
come back exactly when they are a text, nothing is dropped, no mark is met and nothing is an escape. -/
theorem reads_back_iff (keep go : Char → Bool) (bytes : List UInt8) :
    decode (((Utf8.decode bytes).filter keep).takeWhile go) = bytes ↔
      Utf8.Valid bytes ∧ (∀ c ∈ Utf8.decode bytes, keep c = true ∧ go c = true) ∧ Unescaped (Utf8.decode bytes) := by
  constructor
  · intro back
    have again := length_read_again (((Utf8.decode bytes).filter keep).takeWhile go)
    rw [back] at again
    have kept := List.length_filter_le keep (Utf8.decode bytes)
    have front := List.takeWhile_prefix go (l := (Utf8.decode bytes).filter keep)
    have shorter := front.length_le
    have filtered : (Utf8.decode bytes).filter keep = Utf8.decode bytes :=
      (List.filter_sublist).eq_of_length (by omega)
    rw [filtered] at again front shorter back
    have whole : (Utf8.decode bytes).takeWhile go = Utf8.decode bytes := front.eq_of_length (by omega)
    rw [whole] at again back
    have plain := again.2 rfl
    refine ⟨(decode_of_unescaped plain).symm.trans back, fun c mem => ?_, plain⟩
    exact ⟨List.filter_eq_self.mp filtered c mem, List.takeWhile_eq_self_iff.mp whole c mem⟩
  · rintro ⟨valid, all, plain⟩
    have filtered : (Utf8.decode bytes).filter keep = Utf8.decode bytes :=
      List.filter_eq_self.mpr (fun c mem => (all c mem).1)
    have whole : (Utf8.decode bytes).takeWhile go = Utf8.decode bytes :=
      List.takeWhile_eq_self_iff.mpr (fun c mem => (all c mem).2)
    rw [filtered, whole, decode_of_unescaped plain]
    exact valid

/-! ## Raw bytes -/

/-- Bytes as characters of their numbers. -/
def latin1 (bytes : List UInt8) : List Char := bytes.map (fun b => Char.ofNat b.toNat)

def ownByte (c : Char) : List UInt8 := [UInt8.ofNat c.toNat]

theorem toNat_ofNat_byte (b : UInt8) : (Char.ofNat b.toNat).toNat = b.toNat := by
  have bound := UInt8.toNat_lt b
  have valid : b.toNat.isValidChar := Or.inl (by omega)
  rw [Char.ofNat, dif_pos valid]
  rfl

theorem ownByte_latin (b : UInt8) : ownByte (Char.ofNat b.toNat) = [b] := by
  rw [ownByte, toNat_ofNat_byte, UInt8.ofNat_toNat]

theorem latin_append (bytes more : List UInt8) : latin1 (bytes ++ more) = latin1 bytes ++ latin1 more := List.map_append

theorem ofNat_ascii {c : Char} (ascii : c.toNat < 0x80) : Char.ofNat (UInt8.ofNat c.toNat).toNat = c := by
  rw [UInt8.toNat_ofNat', Nat.mod_eq_of_lt (by omega), Char.ofNat_toNat]

/-! ## The data of a form -/

theorem escaped_congr {high low high' low' : Char} (first : hexValue high = hexValue high')
    (second : hexValue low = hexValue low') (c : Char) (more more' : List Char) :
    escaped c (high :: low :: more) = escaped c (high' :: low' :: more') := by
  simp only [escaped, first, second]

theorem escaped_of_no_digit {rest : List Char} (head : ∀ d ∈ rest.head?, hexValue d = none) (c : Char) :
    escaped c rest = none := by
  match rest with
  | [] | [_] => simp [escaped]
  | d :: _ :: _ => simp [escaped, head d rfl]

theorem escaped_of_no_second {rest : List Char} (head : ∀ d ∈ rest.head?, hexValue d = none) (c high : Char) :
    escaped c (high :: rest) = none := by
  match rest with
  | [] => simp [escaped]
  | d :: _ => simp [escaped, head d rfl]

theorem escaped_plusToSpace (c : Char) (rest : List Char) :
    escaped (plusToSpace c) (rest.map plusToSpace) = escaped c rest := by
  have digit : ∀ d, hexValue (plusToSpace d) = hexValue d := by
    intro d
    unfold plusToSpace
    split_ifs with plus
    · rw [plus]
      decide
    · rfl
  by_cases percent : c = '%'
  · have same : plusToSpace c = c := by
      rw [percent]
      decide
    rw [same]
    match rest with
    | [] => rfl
    | [_] => simp [escaped]
    | high :: low :: more => exact escaped_congr (digit high) (digit low) c _ more
  · have other : plusToSpace c ≠ '%' := by
      unfold plusToSpace
      split_ifs
      · decide
      · exact percent
    rw [escaped_of_ne percent, escaped_of_ne other]

theorem formDecode_cons {plain : Char → List UInt8} {c : Char} {rest : List Char} (none_here : escaped c rest = none) :
    formDecode plain (c :: rest) = plain (plusToSpace c) ++ formDecode plain rest := by
  rw [formDecode, List.map_cons, read_plain ((escaped_plusToSpace c rest).trans none_here)]
  rfl

theorem formDecode_escaped {plain : Char → List UInt8} {c high low : Char} {rest : List Char} {b : UInt8}
    (here : escaped c (high :: low :: rest) = some b) :
    formDecode plain (c :: high :: low :: rest) = b :: formDecode plain rest := by
  rw [formDecode, List.map_cons, read_escaped ((escaped_plusToSpace c _).trans here)]
  rfl

theorem decode_ascii {c : Char} (ascii : c.toNat < 0x80) (rest : List UInt8) :
    Utf8.decode (UInt8.ofNat c.toNat :: rest) = c :: Utf8.decode rest := by
  rcases Utf8.utf8EncodeChar_cases c with ⟨-, one⟩ | ⟨high, -⟩
  · have read := Utf8.decode_char c rest
    rwa [one] at read
  · omega

theorem latin_ascii {c : Char} (ascii : c.toNat < 0x80) (rest : List UInt8) :
    latin1 (UInt8.ofNat c.toNat :: rest) = c :: latin1 rest := by
  rw [latin1, List.map_cons, ofNat_ascii ascii]
  rfl

/-- Both readings begin with one ASCII character, or neither begins with any. -/
theorem front_cases (bytes : List UInt8) :
    (∃ (c : Char) (rest : List UInt8), c.toNat < 0x80 ∧ bytes = UInt8.ofNat c.toNat :: rest) ∨
      ((∀ d ∈ (latin1 bytes).head?, 0x80 ≤ d.toNat) ∧ ∀ d ∈ (Utf8.decode bytes).head?, 0x80 ≤ d.toNat) := by
  rcases Utf8.bytes_cases bytes with rfl | ⟨c, rest, rfl⟩ | ⟨b, part, rest, broken, rfl⟩
  · exact .inr ⟨nofun, nofun⟩
  · rcases Utf8.utf8EncodeChar_cases c with ⟨ascii, one⟩ | ⟨high, b, tail, shape, lead, -⟩
    · exact .inl ⟨c, rest, ascii, by rw [one, List.singleton_append]⟩
    · right
      rw [Utf8.decode_char, shape]
      simp only [latin1, List.cons_append, List.map_cons, List.head?_cons, Option.mem_some_iff, forall_eq',
        toNat_ofNat_byte]
      omega
  · right
    have high := broken.high
    rw [Utf8.decode_broken broken]
    simp only [latin1, List.map_cons, List.head?_cons, Option.mem_some_iff, forall_eq', toNat_ofNat_byte]
    exact ⟨high, by decide⟩

theorem hexValue_high {d : Char} (high : 0x80 ≤ d.toNat) : hexValue d = none := by
  have value : d.toNat = d.val.toNat := rfl
  have digit : d.isDigit = false := by
    simp only [Char.isDigit, Bool.and_eq_false_iff, decide_eq_false_iff_not, ge_iff_le, UInt32.le_iff_toNat_le]
    right
    change ¬d.val.toNat ≤ 57
    omega
  have upper : ¬('A' ≤ d ∧ d ≤ 'F') := by
    rintro ⟨-, bound⟩
    rw [Char.le_def, UInt32.le_iff_toNat_le] at bound
    change d.val.toNat ≤ 70 at bound
    omega
  have lower : ¬('a' ≤ d ∧ d ≤ 'f') := by
    rintro ⟨-, bound⟩
    rw [Char.le_def, UInt32.le_iff_toNat_le] at bound
    change d.val.toNat ≤ 102 at bound
    omega
  rw [hexValue, digit, if_neg (by decide), if_neg upper, if_neg lower]

/-- Both readings have one escape behind a character, or none. -/
theorem escape_cases (c : Char) (bytes : List UInt8) :
    (∃ (b : UInt8) (high low : Char) (rest : List UInt8), high.toNat < 0x80 ∧ low.toNat < 0x80 ∧
      bytes = UInt8.ofNat high.toNat :: UInt8.ofNat low.toNat :: rest ∧
      latin1 bytes = high :: low :: latin1 rest ∧ Utf8.decode bytes = high :: low :: Utf8.decode rest ∧
      escaped c (latin1 bytes) = some b ∧ escaped c (Utf8.decode bytes) = some b) ∨
    (escaped c (latin1 bytes) = none ∧ escaped c (Utf8.decode bytes) = none) := by
  rcases front_cases bytes with ⟨high, rest, ascii, rfl⟩ | ⟨raw, text⟩
  · rw [latin_ascii ascii, decode_ascii ascii]
    rcases front_cases rest with ⟨low, rest, also, rfl⟩ | ⟨raw, text⟩
    · rw [latin_ascii also, decode_ascii also]
      have same : escaped c (high :: low :: latin1 rest) = escaped c (high :: low :: Utf8.decode rest) :=
        escaped_congr rfl rfl c _ _
      cases found : escaped c (high :: low :: Utf8.decode rest) with
      | none => exact .inr ⟨same.trans found, rfl⟩
      | some b => exact .inl ⟨b, high, low, rest, ascii, also, rfl, rfl, rfl, same.trans found, rfl⟩
    · right
      exact ⟨escaped_of_no_second (fun d mem => hexValue_high (raw d mem)) c high,
        escaped_of_no_second (fun d mem => hexValue_high (text d mem)) c high⟩
  · right
    exact ⟨escaped_of_no_digit (fun d mem => hexValue_high (raw d mem)) c,
      escaped_of_no_digit (fun d mem => hexValue_high (text d mem)) c⟩

/-- A byte of the data as it is found in the raw query and in the text. -/
abbrev rawForm (bytes : List UInt8) : List UInt8 := formDecode ownByte (latin1 bytes)

abbrev textForm (bytes : List UInt8) : List UInt8 := formDecode String.utf8EncodeChar (Utf8.decode bytes)

/-- The first byte of the replacement character counts twice, the bytes of the separators not at all. -/
def weigh (b : UInt8) : Nat := if b = 0x26 ∨ b = 0x3D then 0 else if b = 0xEF then 2 else 1

def weight (bytes : List UInt8) : Nat := (bytes.map weigh).sum

theorem weight_cons (b : UInt8) (rest : List UInt8) : weight (b :: rest) = weigh b + weight rest := rfl

theorem weight_append (bytes more : List UInt8) : weight (bytes ++ more) = weight bytes + weight more := by
  rw [weight, List.map_append, List.sum_append]
  rfl

theorem weigh_le (b : UInt8) : weigh b ≤ 2 := by
  unfold weigh
  split_ifs <;> omega

theorem weigh_of_ne {b : UInt8} (other : b ≠ 0xEF) : weigh b ≤ 1 := by
  unfold weigh
  split_ifs <;> omega

theorem weight_tails {part : List UInt8} (tails : ∀ x ∈ part, Utf8.isTail x = true) : weight part ≤ part.length := by
  induction part with
  | nil => exact le_rfl
  | cons x part ih =>
    rw [List.forall_mem_cons] at tails
    have other : x ≠ 0xEF := by
      rintro rfl
      exact absurd tails.1 (by decide)
    have one := weigh_of_ne other
    have more := ih tails.2
    rw [weight_cons, List.length_cons]
    omega

/-- What is broken weighs less than what replaces it. -/
theorem weight_broken {b : UInt8} {part rest : List UInt8} (broken : Utf8.Broken b part rest) :
    weight (b :: part) < weight (String.utf8EncodeChar '\uFFFD') := by
  have replaced : weight (String.utf8EncodeChar '\uFFFD') = 4 := by decide
  have tails := weight_tails broken.tails
  have lead := weigh_le b
  rw [replaced, weight_cons]
  rcases broken.short with short | ⟨two, high⟩
  · omega
  · have other : b ≠ 0xEF := by
      rintro rfl
      exact absurd high (by decide)
    have one := weigh_of_ne other
    omega

theorem rawForm_high {bytes : List UInt8} (high : ∀ b ∈ bytes, 0x80 ≤ b.toNat) (rest : List UInt8) :
    rawForm (bytes ++ rest) = bytes ++ rawForm rest := by
  induction bytes with
  | nil => rfl
  | cons b bytes ih =>
    rw [List.forall_mem_cons] at high
    have value := toNat_ofNat_byte b
    have percent : Char.ofNat b.toNat ≠ '%' := by
      intro same
      rw [same] at value
      exact absurd high.1 (by rw [← value]; decide)
    have plus : Char.ofNat b.toNat ≠ '+' := by
      intro same
      rw [same] at value
      exact absurd high.1 (by rw [← value]; decide)
    have none_here := escaped_of_ne percent (latin1 (bytes ++ rest))
    change formDecode ownByte (Char.ofNat b.toNat :: latin1 (bytes ++ rest)) = _
    rw [formDecode_cons none_here, plusToSpace, if_neg plus, ownByte_latin]
    exact congrArg (List.cons b) (ih high.2)

theorem rawForm_broken {b : UInt8} {part rest : List UInt8} (broken : Utf8.Broken b part rest) :
    rawForm (b :: (part ++ rest)) = b :: part ++ rawForm rest := by
  have high : ∀ x ∈ b :: part, 0x80 ≤ x.toNat := by
    rw [List.forall_mem_cons]
    exact ⟨broken.high, fun x mem => (Utf8.isTail_iff.mp (broken.tails x mem)).1⟩
  exact rawForm_high high rest

theorem textForm_broken {b : UInt8} {part rest : List UInt8} (broken : Utf8.Broken b part rest) :
    textForm (b :: (part ++ rest)) = String.utf8EncodeChar '\uFFFD' ++ textForm rest := by
  rw [textForm, Utf8.decode_broken broken, formDecode_cons (escaped_of_ne (by decide) _)]
  rfl

theorem utf8EncodeChar_ascii {c : Char} (ascii : c.toNat < 0x80) : String.utf8EncodeChar c = ownByte c := by
  rcases Utf8.utf8EncodeChar_cases c with ⟨-, one⟩ | ⟨high, -⟩
  · exact one
  · omega

theorem plusToSpace_ascii {c : Char} (ascii : c.toNat < 0x80) : (plusToSpace c).toNat < 0x80 := by
  unfold plusToSpace
  split_ifs
  · decide
  · exact ascii

theorem forms_high {c : Char} (high : 0x80 ≤ c.toNat) (rest : List UInt8) :
    rawForm (String.utf8EncodeChar c ++ rest) = String.utf8EncodeChar c ++ rawForm rest ∧
    textForm (String.utf8EncodeChar c ++ rest) = String.utf8EncodeChar c ++ textForm rest := by
  have percent : c ≠ '%' := by
    rintro rfl
    exact absurd high (by decide)
  have plus : c ≠ '+' := by
    rintro rfl
    exact absurd high (by decide)
  constructor
  · refine rawForm_high ?_ rest
    rcases Utf8.utf8EncodeChar_cases c with ⟨ascii, -⟩ | ⟨-, b, tail, shape, lead, tails⟩
    · omega
    · rw [shape, List.forall_mem_cons]
      exact ⟨by omega, fun x mem => (Utf8.isTail_iff.mp (tails x mem)).1⟩
  · rw [textForm, Utf8.decode_char, formDecode_cons (escaped_of_ne percent _), plusToSpace, if_neg plus]

theorem valid_ascii_iff {c : Char} (ascii : c.toNat < 0x80) {rest : List UInt8} :
    Utf8.Valid (UInt8.ofNat c.toNat :: rest) ↔ Utf8.Valid rest := by
  have one := utf8EncodeChar_ascii ascii
  have same : Utf8.Valid (String.utf8EncodeChar c ++ rest) ↔ Utf8.Valid rest := Utf8.valid_char_iff
  rwa [one] at same

/-- An ASCII character is read alike, together with the escape it begins. -/
theorem forms_ascii {c : Char} (ascii : c.toNat < 0x80) (rest : List UInt8) : ∃ (b : UInt8) (more : List UInt8),
    more.length ≤ rest.length ∧ (Utf8.Valid (UInt8.ofNat c.toNat :: rest) ↔ Utf8.Valid more) ∧
      rawForm (UInt8.ofNat c.toNat :: rest) = b :: rawForm more ∧
      textForm (UInt8.ofNat c.toNat :: rest) = b :: textForm more := by
  rw [valid_ascii_iff ascii, rawForm, textForm, latin_ascii ascii, decode_ascii ascii]
  rcases escape_cases c rest with ⟨b, high, low, more, first, second, rfl, raw, text, here, also⟩ | ⟨here, also⟩
  · refine ⟨b, more, by simp only [List.length_cons]; omega, ?_, ?_, ?_⟩
    · rw [valid_ascii_iff first, valid_ascii_iff second]
    · rw [raw] at here ⊢
      exact formDecode_escaped here
    · rw [text] at also ⊢
      exact formDecode_escaped also
  · refine ⟨UInt8.ofNat (plusToSpace c).toNat, rest, le_rfl, Iff.rfl, ?_, ?_⟩
    · exact formDecode_cons here
    · rw [formDecode_cons also, utf8EncodeChar_ascii (plusToSpace_ascii ascii)]
      rfl

/-- The readings are one when the bytes are a text, and else the raw one weighs less. -/
theorem forms_alike (bytes : List UInt8) : (Utf8.Valid bytes ∧ rawForm bytes = textForm bytes) ∨
    (¬Utf8.Valid bytes ∧ weight (rawForm bytes) < weight (textForm bytes)) := by
  -- on the length, since an escape takes two more characters with it
  induction size : bytes.length using Nat.strongRecOn generalizing bytes with
  | _ n ih =>
    rcases Utf8.bytes_cases bytes with rfl | ⟨c, rest, rfl⟩ | ⟨b, part, rest, broken, rfl⟩
    · exact .inl ⟨rfl, rfl⟩
    · have positive := Utf8.length_utf8EncodeChar_pos c
      rw [List.length_append] at size
      rcases Nat.lt_or_ge c.toNat 0x80 with ascii | high
      · obtain ⟨b, more, shorter, valid, raw, text⟩ := forms_ascii ascii rest
        have one : String.utf8EncodeChar c ++ rest = UInt8.ofNat c.toNat :: rest := by
          rw [utf8EncodeChar_ascii ascii]
          rfl
        rw [one, valid, raw, text, weight_cons, weight_cons, List.cons.injEq]
        rcases ih more.length (by omega) more rfl with ⟨whole, same⟩ | ⟨lost, less⟩
        · exact .inl ⟨whole, rfl, same⟩
        · exact .inr ⟨lost, by omega⟩
      · obtain ⟨raw, text⟩ := forms_high high rest
        rw [raw, text, weight_append, weight_append, List.append_right_inj, Utf8.valid_char_iff]
        rcases ih rest.length (by omega) rest rfl with ⟨valid, same⟩ | ⟨lost, less⟩
        · exact .inl ⟨valid, same⟩
        · exact .inr ⟨lost, by omega⟩
    · right
      rw [List.length_cons, List.length_append] at size
      refine ⟨Utf8.not_valid_of_broken broken, ?_⟩
      rw [rawForm_broken broken, textForm_broken broken, weight_append, weight_append]
      have here := weight_broken broken
      rcases ih rest.length (by omega) rest rfl with ⟨-, same⟩ | ⟨-, less⟩
      · rw [same]
        omega
      · omega

/-! ## The pairs of a form -/

/-- A list is a piece without a mark, or such a piece, a mark and what follows. -/
theorem pieces_induction {α : Type} (mark : α) {motive : List α → Prop} (piece : ∀ p, mark ∉ p → motive p)
    (join : ∀ p rest, mark ∉ p → motive rest → motive (p ++ mark :: rest)) (text : List α) : motive text := by
  induction size : text.length using Nat.strongRecOn generalizing text with
  | _ n ih =>
    by_cases mem : mark ∈ text
    · obtain ⟨front, back, rfl, absent⟩ := List.eq_append_cons_of_mem mem
      rw [List.length_append, List.length_cons] at size
      exact join front back absent (ih back.length (by omega) back rfl)
    · exact piece text mem

section
variable {plain : Char → List UInt8}

theorem formDecode_append {sep : Char} (mark : isSeparator sep = true) (plus : sep ≠ '+') (front back : List Char) :
    formDecode plain (front ++ sep :: back) = formDecode plain front ++ (plain sep ++ formDecode plain back) := by
  have same : plusToSpace sep = sep := if_neg plus
  have digit : ∀ c, isSeparator c = true → hexValue c = none := by
    intro c separates
    simp only [isSeparator, List.contains_eq_mem, decide_eq_true_eq, List.mem_cons, List.not_mem_nil,
      or_false] at separates
    rcases separates with rfl | rfl | rfl | rfl | rfl <;> decide
  rw [formDecode, List.map_append, List.map_cons, same,
    read_append (digit sep mark) (separator_facts sep mark).2.2.1]
  rfl

theorem formPair_name {piece : List Char} (absent : '=' ∉ piece) :
    formPair plain piece = (formDecode plain piece, []) := by
  have all : ∀ c ∈ piece, (!isEquals c) = true := by
    intro c mem
    have other : c ≠ '=' := fun same => absent (same ▸ mem)
    simp [isEquals, other]
  rw [formPair, List.takeWhile_eq_self_iff.mpr all, List.dropWhile_eq_nil_iff.mpr all]
  rfl

def weighPairs (pairs : List (List UInt8 × List UInt8)) : Nat := (pairs.map (fun p => weight p.1 + weight p.2)).sum

/-- The pairs weigh what the whole query does. -/
theorem weighPairs_formPairs (ampersand : weight (plain '&') = 0) (equals : weight (plain '=') = 0)
    (query : List Char) : weighPairs (formPairs plain query) = weight (formDecode plain query) := by
  have one : ∀ piece, '&' ∉ piece → weighPairs (formPairs plain piece) = weight (formDecode plain piece) := by
    intro piece absent
    by_cases empty : piece = []
    · rw [empty]
      rfl
    · rw [formPairs_piece empty absent, weighPairs, List.map_singleton, List.sum_singleton]
      induction piece using pieces_induction '=' with
      | piece p alone => rw [formPair_name alone]; rfl
      | join name value alone _ =>
        rw [formPair_eq alone, formDecode_append (by decide) (by decide), weight_append, weight_append, equals,
          Nat.zero_add]
  induction query using pieces_induction '&' with
  | piece p absent => exact one p absent
  | join p rest absent ih =>
    rw [formPairs_append, weighPairs, List.map_append, List.sum_append, formDecode_append (by decide) (by decide),
      weight_append, weight_append, ampersand, Nat.zero_add]
    exact congrArg₂ (· + ·) (one p absent) ih

end

theorem latin_mark {mark : Char} (ascii : mark.toNat < 0x80) (front back : List Char) :
    latin1 (utf8 (front ++ mark :: back)) = latin1 (utf8 front) ++ mark :: latin1 (utf8 back) := by
  rw [utf8_append, utf8_cons, utf8EncodeChar_ascii ascii, latin_append]
  exact congrArg _ (latin_ascii ascii (utf8 back))

theorem not_mem_latin {mark : Char} (ascii : mark.toNat < 0x80) {text : List Char} (absent : mark ∉ text) :
    mark ∉ latin1 (utf8 text) := by
  intro mem
  obtain ⟨b, among, rfl⟩ := List.mem_map.mp mem
  obtain ⟨c, within, byte⟩ := List.mem_flatMap.mp among
  rw [toNat_ofNat_byte] at ascii
  rcases Utf8.utf8EncodeChar_cases c with ⟨low, one⟩ | ⟨-, lead, tail, shape, high, tails⟩
  · rw [one, List.mem_singleton] at byte
    rw [byte, ofNat_ascii low] at absent
    exact absent within
  · rw [shape, List.mem_cons] at byte
    rcases byte with rfl | later
    · omega
    · have inside := Utf8.isTail_iff.mp (tails b later)
      omega

theorem decode_utf8 (text : List Char) : Utf8.decode (utf8 text) = text := by
  have read := Utf8.decode_text text []
  rwa [List.append_nil, Utf8.decode_nil, List.append_nil] at read

theorem valid_utf8 (text : List Char) : Utf8.Valid (utf8 text) := congrArg utf8 (decode_utf8 text)

theorem formDecode_latin (text : List Char) :
    formDecode ownByte (latin1 (utf8 text)) = formDecode String.utf8EncodeChar text := by
  rcases forms_alike (utf8 text) with ⟨-, same⟩ | ⟨lost, -⟩
  · rwa [rawForm, textForm, decode_utf8] at same
  · exact absurd (valid_utf8 text) lost

/-- The raw bytes of a text make the same pairs. -/
theorem formPairs_latin (text : List Char) :
    formPairs ownByte (latin1 (utf8 text)) = formPairs String.utf8EncodeChar text := by
  have one : ∀ piece, '&' ∉ piece →
      formPairs ownByte (latin1 (utf8 piece)) = formPairs String.utf8EncodeChar piece := by
    intro piece absent
    by_cases empty : piece = []
    · rw [empty]
      rfl
    · have nonempty : latin1 (utf8 piece) ≠ [] := by
        intro gone
        rw [latin1, List.map_eq_nil_iff] at gone
        have again := decode_utf8 piece
        rw [gone] at again
        exact empty again.symm
      rw [formPairs_piece empty absent, formPairs_piece nonempty (not_mem_latin (by decide) absent)]
      induction piece using pieces_induction '=' with
      | piece p alone => rw [formPair_name alone, formPair_name (not_mem_latin (by decide) alone), formDecode_latin]
      | join name value alone _ =>
        rw [latin_mark (by decide), formPair_eq alone, formPair_eq (not_mem_latin (by decide) alone), formDecode_latin,
          formDecode_latin]
  induction text using pieces_induction '&' with
  | piece p absent => exact one p absent
  | join p rest absent ih => rw [latin_mark (by decide), formPairs_append, formPairs_append, one p absent, ih]

/-- A query read as a text has the pairs of its bytes exactly when they are a text. -/
theorem pairs_read_back_iff (bytes : List UInt8) :
    formPairs String.utf8EncodeChar (Utf8.decode bytes) = formPairs ownByte (latin1 bytes) ↔ Utf8.Valid bytes := by
  constructor
  · intro same
    rcases forms_alike bytes with ⟨valid, -⟩ | ⟨-, less⟩
    · exact valid
    · have raw : weighPairs (formPairs ownByte (latin1 bytes)) = weight (rawForm bytes) :=
        weighPairs_formPairs (by decide) (by decide) _
      have text : weighPairs (formPairs String.utf8EncodeChar (Utf8.decode bytes)) = weight (textForm bytes) :=
        weighPairs_formPairs (by decide) (by decide) _
      rw [same, raw] at text
      exact absurd text (Nat.ne_of_lt less)
  · intro valid
    rw [← formPairs_latin, valid]

/-! ## The segments of a path -/

section
variable {α : Type}

/-- Segments with a separator before each. -/
def rooted (sep : α) (segs : List (List α)) : List α := segs.flatMap (fun seg => sep :: seg)

theorem rooted_cons (sep : α) (seg : List α) (segs : List (List α)) :
    rooted sep (seg :: segs) = sep :: (seg ++ rooted sep segs) := rfl

theorem rooted_eq (sep : α) (seg : List α) (segs : List (List α)) :
    rooted sep (seg :: segs) = sep :: [sep].intercalate (seg :: segs) := by
  induction segs generalizing seg with
  | nil => simp [rooted, List.intercalate]
  | cons next segs ih =>
    rw [rooted_cons, ih next]
    simp [List.intercalate]

variable [DecidableEq α]

theorem splitOn_cons_self (sep : α) (text : List α) : (sep :: text).splitOn sep = [] :: text.splitOn sep :=
  List.splitOn_append_cons_self_of_not_mem List.not_mem_nil text

theorem splitOn_rooted {sep : α} {segs : List (List α)} (free : ∀ seg ∈ segs, sep ∉ seg) :
    ((rooted sep segs).splitOn sep).tail = segs := by
  cases segs with
  | nil => rfl
  | cons seg segs =>
    rw [rooted_eq, splitOn_cons_self, List.tail_cons]
    exact List.splitOn_intercalate sep free (List.cons_ne_nil seg segs)

theorem rooted_splitOn {sep : α} {text : List α} (front : ∀ c ∈ text.head?, c = sep) :
    rooted sep (text.splitOn sep).tail = text := by
  cases text with
  | nil => rfl
  | cons c text =>
    obtain rfl := front c rfl
    rw [splitOn_cons_self, List.tail_cons]
    cases pieces : text.splitOn c with
    | nil => exact absurd pieces (List.splitOn_ne_nil c text)
    | cons piece pieces =>
      have whole : [c].intercalate (text.splitOn c) = text := List.intercalate_splitOn c
      rw [pieces] at whole
      rw [rooted_eq, whole]

theorem not_mem_of_splitOn {sep : α} {text piece : List α} (mem : piece ∈ text.splitOn sep) : sep ∉ piece := by
  induction text using pieces_induction sep with
  | piece p absent =>
    rw [List.splitOn_eq_singleton absent, List.mem_singleton] at mem
    rwa [mem]
  | join p rest absent ih =>
    rw [List.splitOn_append_cons_self_of_not_mem absent, List.mem_cons] at mem
    rcases mem with rfl | later
    · exact absent
    · exact ih later

end

theorem read_rooted {plain : Char → List UInt8} (slash : plain '/' = [0x2F]) (segs : List (List Char)) :
    read plain (rooted '/' segs) = rooted 0x2F (segs.map (read plain)) := by
  cases segs with
  | nil => rfl
  | cons seg segs =>
    rw [rooted_eq, read_plain (escaped_of_ne (by decide) _), read_intercalate (by decide) (by decide), slash,
      List.map_cons, rooted_cons, rooted, List.flatMap_map]
    rfl

theorem Unescaped.front {sep : Char} (mark : hexValue sep = none) {front back : List Char}
    (plain : Unescaped (front ++ sep :: back)) : Unescaped front := by
  intro c rest behind
  have here := plain c (rest ++ sep :: back) (by
    obtain ⟨before, rfl⟩ := behind
    exact ⟨before, by simp⟩)
  rwa [escaped_append mark] at here

theorem Unescaped.back {front back : List Char} (plain : Unescaped (front ++ back)) : Unescaped back :=
  fun c rest behind => plain c rest (behind.trans (List.suffix_append front back))

theorem Unescaped.segments {segs : List (List Char)} (plain : Unescaped (rooted '/' segs)) :
    ∀ seg ∈ segs, Unescaped seg := by
  induction segs with
  | nil => exact List.forall_mem_nil _
  | cons seg segs ih =>
    rw [rooted_cons, unescaped_cons_iff] at plain
    rw [List.forall_mem_cons]
    refine ⟨?_, ih plain.2.back⟩
    cases segs with
    | nil =>
      have whole := plain.2
      rwa [rooted, List.flatMap_nil, List.append_nil] at whole
    | cons next segs =>
      have whole := plain.2
      rw [rooted_cons] at whole
      exact whole.front (by decide)

theorem mem_utf8_slash {text : List Char} (mem : 0x2F ∈ utf8 text) : '/' ∈ text := by
  by_contra absent
  exact not_mem_latin (by decide) absent (List.mem_map.mpr ⟨0x2F, mem, by decide⟩)

/-- Segments that are read as a text, of which some characters are dropped and the rest ends at a mark,
come back exactly when their bytes do and no segment has a slash of its own. -/
theorem segments_read_back_iff (keep go : Char → Bool) (kept : keep '/' = true) (passed : go '/' = true)
    (segs : List (List UInt8)) :
    (((((Utf8.decode (rooted 0x2F segs)).filter keep).takeWhile go).splitOn '/').tail.map decode = segs) ↔
      (Utf8.Valid (rooted 0x2F segs) ∧
        (∀ c ∈ Utf8.decode (rooted 0x2F segs), keep c = true ∧ go c = true) ∧
        Unescaped (Utf8.decode (rooted 0x2F segs))) ∧ ∀ seg ∈ segs, 0x2F ∉ seg := by
  have starts : ∀ c ∈ (((Utf8.decode (rooted 0x2F segs)).filter keep).takeWhile go).head?, c = '/' := by
    cases segs with
    | nil => exact nofun
    | cons seg segs =>
      have read := decode_ascii (c := '/') (by decide) (seg ++ rooted 0x2F segs)
      change Utf8.decode (rooted 0x2F (seg :: segs)) = _ at read
      rw [read, List.filter_cons_of_pos kept, List.takeWhile_cons_of_pos passed]
      intro c head
      exact (Option.mem_some_iff.mp head).symm
  have bytes := reads_back_iff keep go (rooted 0x2F segs)
  generalize front : ((Utf8.decode (rooted 0x2F segs)).filter keep).takeWhile go = text at starts bytes
  have whole := rooted_splitOn starts
  have read : decode (rooted '/' (text.splitOn '/').tail) = rooted 0x2F ((text.splitOn '/').tail.map decode) :=
    read_rooted (by decide) _
  rw [whole] at read
  have clean : decode text = rooted 0x2F segs → ∀ seg ∈ (text.splitOn '/').tail.map decode, 0x2F ∉ seg := by
    intro back
    obtain ⟨-, all, plain⟩ := bytes.mp back
    rw [List.filter_eq_self.mpr (fun c mem => (all c mem).1),
      List.takeWhile_eq_self_iff.mpr (fun c mem => (all c mem).2)] at front
    rw [front, ← whole] at plain
    intro seg mem slash
    obtain ⟨piece, among, rfl⟩ := List.mem_map.mp mem
    rw [decode_of_unescaped (plain.segments piece among)] at slash
    exact not_mem_of_splitOn (List.mem_of_mem_tail among) (mem_utf8_slash slash)
  rw [← bytes]
  constructor
  · intro same
    have back : decode text = rooted 0x2F segs := by rw [read, same]
    exact ⟨back, same ▸ clean back⟩
  · rintro ⟨back, free⟩
    rw [← splitOn_rooted (clean back), ← read, back, splitOn_rooted free]

end XpBuilder.Lossy
