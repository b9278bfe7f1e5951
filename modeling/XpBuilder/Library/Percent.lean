import Mathlib.Data.List.TakeWhile
import XpBuilder.Library.Lists

/-! Percent encoding. A text is written with some of its characters as they are and the bytes of the
others as a percent sign and two hexadecimal digits. Where a plus sign stands for a blank, pairs of
names and values make up the data of a form. -/

namespace XpBuilder.Percent

/-! ## Bytes -/

/-- The bytes of a text in UTF-8. -/
def utf8 (text : List Char) : List UInt8 := text.flatMap String.utf8EncodeChar

theorem utf8_cons (c : Char) (text : List Char) : utf8 (c :: text) = String.utf8EncodeChar c ++ utf8 text := rfl

theorem utf8_append (text more : List Char) : utf8 (text ++ more) = utf8 text ++ utf8 more := List.flatMap_append

def hexDigit (n : Nat) : Char := Char.ofNat (if n < 10 then 48 + n else 55 + n)

def hexValue (c : Char) : Option Nat :=
  if c.isDigit then some (c.toNat - 48)
  else if 'A' ≤ c ∧ c ≤ 'F' then some (c.toNat - 55)
  else if 'a' ≤ c ∧ c ≤ 'f' then some (c.toNat - 87)
  else none

def escape (b : UInt8) : List Char := ['%', hexDigit (b.toNat / 16), hexDigit (b.toNat % 16)]

/-- The byte that a percent sign and the two digits after it stand for. -/
def escaped (c : Char) (rest : List Char) : Option UInt8 :=
  if c = '%' then
    match rest with
    | high :: low :: _ => do
      let h ← hexValue high
      let l ← hexValue low
      some (UInt8.ofNat (16 * h + l))
    | _ => none
  else none

/-- The bytes that are written after some characters that are skipped, where `plain` gives those of
a character that is no escape. -/
def readFrom (plain : Char → List UInt8) : Nat → List Char → List UInt8
  | _, [] => []
  | skip + 1, _ :: rest => readFrom plain skip rest
  | 0, c :: rest =>
    match escaped c rest with
    | some b => b :: readFrom plain 2 rest
    | none => plain c ++ readFrom plain 0 rest

def read (plain : Char → List UInt8) (text : List Char) : List UInt8 := readFrom plain 0 text

def decode (text : List Char) : List UInt8 := read String.utf8EncodeChar text

section Read
variable {plain : Char → List UInt8}

theorem readFrom_eq (skip : Nat) (text : List Char) : readFrom plain skip text = read plain (text.drop skip) := by
  induction skip generalizing text with
  | zero => rfl
  | succ skip ih =>
    cases text with
    | nil => rfl
    | cons c rest => exact ih rest

theorem read_plain {c : Char} {rest : List Char} (none_here : escaped c rest = none) :
    read plain (c :: rest) = plain c ++ read plain rest := by
  rw [read, readFrom, none_here]
  rfl

theorem read_escaped {c : Char} {rest : List Char} {b : UInt8} (here : escaped c rest = some b) :
    read plain (c :: rest) = b :: read plain (rest.drop 2) := by
  rw [read, readFrom, here, ← readFrom_eq]

/-- An escape is a percent sign and two digits. -/
theorem exists_of_escaped {c : Char} {rest : List Char} {b : UInt8} (here : escaped c rest = some b) :
    c = '%' ∧ ∃ high low more h l, rest = high :: low :: more ∧ hexValue high = some h ∧ hexValue low = some l ∧
      b = UInt8.ofNat (16 * h + l) := by
  unfold escaped at here
  split_ifs at here with percent
  cases rest with
  | nil => cases here
  | cons high rest =>
    cases rest with
    | nil => cases here
    | cons low more =>
      obtain ⟨h, first, rest⟩ := Option.bind_eq_some_iff.mp here
      obtain ⟨l, second, value⟩ := Option.bind_eq_some_iff.mp rest
      exact ⟨percent, high, low, more, h, l, rfl, first, second, (Option.some.inj value).symm⟩

theorem escaped_of_ne {c : Char} (other : c ≠ '%') (rest : List Char) : escaped c rest = none := if_neg other

/-- What follows a character that is no digit is not part of an escape before it. -/
theorem escaped_append {sep : Char} (mark : hexValue sep = none) (c : Char) (front back : List Char) :
    escaped c (front ++ sep :: back) = escaped c front := by
  unfold escaped
  split_ifs
  · match front with
    | [] => cases back <;> simp [mark]
    | [d] => simp [mark]
    | _ :: _ :: _ => rfl
  · rfl

theorem read_append {sep : Char} (mark : hexValue sep = none) (other : sep ≠ '%') (front back : List Char) :
    read plain (front ++ sep :: back) = read plain front ++ (plain sep ++ read plain back) := by
  induction size : front.length using Nat.strongRecOn generalizing front with
  | _ n ih =>
    cases front with
    | nil => exact read_plain (escaped_of_ne other back)
    | cons c front =>
      have same := escaped_append mark c front back
      rw [List.length_cons] at size
      cases here : escaped c front with
      | none =>
        rw [here] at same
        rw [List.cons_append, read_plain same, read_plain here, ih front.length (by omega) front rfl, List.append_assoc]
      | some b =>
        rw [here] at same
        obtain ⟨-, high, low, more, -, -, rfl, -⟩ := exists_of_escaped here
        rw [List.cons_append, read_escaped same, read_escaped here]
        exact congrArg (List.cons b) (ih more.length (by simp only [List.length_cons] at size; omega) more rfl)

theorem read_intercalate {sep : Char} (mark : hexValue sep = none) (other : sep ≠ '%') (piece : List Char)
    (pieces : List (List Char)) : read plain ([sep].intercalate (piece :: pieces)) =
      read plain piece ++ pieces.flatMap (fun q => plain sep ++ read plain q) := by
  induction pieces generalizing piece with
  | nil => simp [List.intercalate]
  | cons q rest ih =>
    have cut : [sep].intercalate (piece :: q :: rest) = piece ++ sep :: [sep].intercalate (q :: rest) := by
      simp [List.intercalate]
    rw [cut, read_append mark other, ih, List.flatMap_cons, List.append_assoc]

end Read

@[simp] theorem decode_nil : decode [] = [] := rfl

theorem hexValue_hexDigit : ∀ n < 16, hexValue (hexDigit n) = some n := by decide

theorem decode_escape (b : UInt8) (rest : List Char) : decode (escape b ++ rest) = b :: decode rest := by
  have bound := UInt8.toNat_lt b
  have high := hexValue_hexDigit (b.toNat / 16) (by omega)
  have low := hexValue_hexDigit (b.toNat % 16) (by omega)
  have whole : UInt8.ofNat (16 * (b.toNat / 16) + b.toNat % 16) = b := by
    rw [Nat.div_add_mod, UInt8.ofNat_toNat]
  have found : escaped '%' (hexDigit (b.toNat / 16) :: hexDigit (b.toNat % 16) :: rest) = some b := by
    simp only [escaped, if_pos, high, low, Option.bind_eq_bind, Option.bind_some, whole]
  exact read_escaped found

theorem decode_escapes (bs : List UInt8) (rest : List Char) :
    decode (bs.flatMap escape ++ rest) = bs ++ decode rest := by
  induction bs with
  | nil => rfl
  | cons b bs ih => rw [List.flatMap_cons, List.append_assoc, decode_escape, ih, List.cons_append]

theorem decode_cons {c : Char} {rest : List Char} (plain : escaped c rest = none) :
    decode (c :: rest) = String.utf8EncodeChar c ++ decode rest := read_plain plain

/-! ## Writing and reading a text -/

/-- A way to write a character that is read back where a text goes on. -/
def Faithful (write : Char → List Char) : Prop :=
  ∀ c rest, decode (write c ++ rest) = String.utf8EncodeChar c ++ decode rest

theorem decode_written {write : Char → List Char} (faithful : Faithful write) (text rest : List Char) :
    decode (text.flatMap write ++ rest) = utf8 text ++ decode rest := by
  induction text with
  | nil => rfl
  | cons c text ih => rw [List.flatMap_cons, List.append_assoc, faithful, ih, utf8_cons, List.append_assoc]

/-- Some characters as they are, the others byte by byte. -/
def writeBut (keep : Char → Bool) (c : Char) : List Char :=
  if keep c then [c] else (String.utf8EncodeChar c).flatMap escape

theorem faithful_writeBut {keep : Char → Bool} (percent : keep '%' = false) : Faithful (writeBut keep) := by
  intro c rest
  unfold writeBut
  split_ifs with kept
  · have other : c ≠ '%' := by
      rintro rfl
      rw [percent] at kept
      cases kept
    exact decode_cons (escaped_of_ne other rest)
  · exact decode_escapes _ rest

/-! ## The data of a form -/

def plusToSpace (c : Char) : Char := if c = '+' then ' ' else c

def formDecode (plain : Char → List UInt8) (text : List Char) : List UInt8 := read plain (text.map plusToSpace)

theorem map_plusToSpace {text : List Char} (absent : '+' ∉ text) : text.map plusToSpace = text := by
  refine (List.map_congr_left fun c mem => ?_).trans (List.map_id text)
  have other : c ≠ '+' := fun same => absent (same ▸ mem)
  exact if_neg other

def isEquals (c : Char) : Bool := c = '='

/-- A name and a value around the first equals sign. -/
def formPair (plain : Char → List UInt8) (piece : List Char) : List UInt8 × List UInt8 :=
  (formDecode plain (piece.takeWhile (fun c => !isEquals c)),
    formDecode plain (piece.dropWhile (fun c => !isEquals c)).tail)

/-- The pairs in a query. -/
def formPairs (plain : Char → List UInt8) (query : List Char) : List (List UInt8 × List UInt8) :=
  ((query.splitOn '&').filter (fun piece => piece ≠ [])).map (formPair plain)

section Pairs
variable {plain : Char → List UInt8}

theorem formPairs_append (front back : List Char) :
    formPairs plain (front ++ '&' :: back) = formPairs plain front ++ formPairs plain back := by
  rw [formPairs, List.splitOn_append_cons_self, List.filter_append, List.map_append]
  rfl

theorem formPairs_piece {piece : List Char} (nonempty : piece ≠ []) (whole : '&' ∉ piece) :
    formPairs plain piece = [formPair plain piece] := by
  rw [formPairs, List.splitOn_eq_singleton whole, List.filter_singleton]
  simp [nonempty]

/-- What follows the last ampersand is one pair with what is appended to it. -/
theorem formPairs_tail (query : List Char) : ∃ pairs last, ∀ tail, tail ≠ [] → '&' ∉ tail →
    formPairs plain (query ++ tail) = pairs ++ [formPair plain (last ++ tail)] := by
  by_cases mark : '&' ∈ query
  · obtain ⟨behind, before, split, none_behind⟩ := List.eq_append_cons_of_mem (List.mem_reverse.mpr mark)
    have whole : query = before.reverse ++ '&' :: behind.reverse := by
      rw [← List.reverse_reverse query, split]
      simp
    refine ⟨formPairs plain before.reverse, behind.reverse, fun tail nonempty alone => ?_⟩
    have piece : behind.reverse ++ tail ≠ [] := List.append_ne_nil_of_right_ne_nil _ nonempty
    have single : '&' ∉ behind.reverse ++ tail := by simp [none_behind, alone]
    rw [whole, List.append_assoc, List.cons_append, formPairs_append, formPairs_piece piece single]
  · refine ⟨[], query, fun tail nonempty alone => formPairs_piece ?_ ?_⟩
    · simp [nonempty]
    · simp [mark, alone]

theorem formPair_eq {name : List Char} (alone : '=' ∉ name) (value : List Char) :
    formPair plain (name ++ '=' :: value) = (formDecode plain name, formDecode plain value) := by
  have before : ∀ c ∈ name, (!isEquals c) = true := by
    intro c mem
    have other : c ≠ '=' := fun same => alone (same ▸ mem)
    simp [isEquals, other]
  rw [formPair, List.takeWhile_append_of_pos before, List.dropWhile_append_of_pos before]
  simp [isEquals]

end Pairs

/-- The characters of what is written for one that is not kept. -/
theorem mem_writeBut {keep : Char → Bool} {c d : Char} (mem : d ∈ writeBut keep c) :
    keep d = true ∨ d = '%' ∨ d.isAlphanum = true := by
  unfold writeBut at mem
  split_ifs at mem with kept
  · rw [List.mem_singleton.mp mem]
    exact .inl kept
  · obtain ⟨b, -, digit⟩ := List.mem_flatMap.mp mem
    have bound := UInt8.toNat_lt b
    have word : ∀ n < 16, (hexDigit n).isAlphanum = true := by decide
    simp only [escape, List.mem_cons, List.not_mem_nil, or_false] at digit
    rcases digit with rfl | rfl | rfl
    · exact .inr (.inl rfl)
    · exact .inr (.inr (word _ (by omega)))
    · exact .inr (.inr (word _ (by omega)))

theorem not_mem_written {keep : Char → Bool} {d : Char} (dropped : keep d = false) (percent : d ≠ '%')
    (mark : d.isAlphanum = false) (text : List Char) : d ∉ text.flatMap (writeBut keep) := by
  intro mem
  obtain ⟨c, -, written⟩ := List.mem_flatMap.mp mem
  rcases mem_writeBut written with kept | same | word
  · rw [dropped] at kept
    cases kept
  · exact percent same
  · rw [mark] at word
    cases word

/-! ## The parts of a URL -/

/-- What comes before the query and the fragment. -/
def address (link : List Char) : List Char := link.takeWhile (fun c => c ≠ '?' ∧ c ≠ '#')

def query (link : List Char) : List Char := ((link.takeWhile (fun c => c ≠ '#')).dropWhile (fun c => c ≠ '?')).tail

theorem query_eq {front rest : List Char} (mark : '?' ∉ front) (hash : '#' ∉ front) (none_behind : '#' ∉ rest) :
    query (front ++ '?' :: rest) = rest := by
  have whole : (front ++ '?' :: rest).takeWhile (fun c => decide (c ≠ '#')) = front ++ '?' :: rest := by
    rw [List.takeWhile_eq_self_iff]
    intro c mem
    refine decide_eq_true (fun same => ?_)
    rw [same, List.mem_append, List.mem_cons] at mem
    rcases mem with here | mark | behind
    · exact hash here
    · exact absurd mark (by decide)
    · exact none_behind behind
  have before : ∀ c ∈ front, decide (c ≠ '?') = true := fun c mem => decide_eq_true (fun same => mark (same ▸ mem))
  rw [query, whole, List.dropWhile_append_of_pos before]
  simp

/-- Behind a fragment nothing is part of the query. -/
theorem query_of_fragment {base : List Char} (hash : '#' ∈ base) (more : List Char) :
    query (base ++ more) = query base := by
  obtain ⟨front, behind, split, absent⟩ := List.eq_append_cons_of_mem hash
  have before : ∀ c ∈ front, decide (c ≠ '#') = true := fun c mem => decide_eq_true (fun same => absent (same ▸ mem))
  have cut : ∀ rest : List Char, (front ++ '#' :: rest).takeWhile (fun c => decide (c ≠ '#')) = front := by
    intro rest
    rw [List.takeWhile_append_of_pos before]
    simp
  unfold query
  rw [split, List.append_assoc, List.cons_append, cut, cut]

/-! ## Two encoders -/

/-- The characters that `encodeURIComponent` leaves. -/
def keptComponent (c : Char) : Bool := c.isAlphanum || ['-', '_', '.', '!', '~', '*', '\'', '(', ')'].contains c

def encodeURIComponent (text : List Char) : List Char := text.flatMap (writeBut keptComponent)

/-- The characters that `URLSearchParams` leaves. -/
def keptForm (c : Char) : Bool := c.isAlphanum || ['*', '-', '.', '_'].contains c

def writeForm (c : Char) : List Char := if c = ' ' then ['+'] else writeBut keptForm c

def encodeForm (text : List Char) : List Char := text.flatMap writeForm

def isSeparator (c : Char) : Bool := ['&', '=', '?', '#', '+'].contains c

theorem separator_facts : ∀ c, isSeparator c = true →
    keptComponent c = false ∧ keptForm c = false ∧ c ≠ '%' ∧ c.isAlphanum = false := by
  intro c mark
  simp only [isSeparator, List.contains_eq_mem, decide_eq_true_eq, List.mem_cons, List.not_mem_nil, or_false] at mark
  rcases mark with rfl | rfl | rfl | rfl | rfl <;> decide

theorem not_mem_encodeURIComponent {c : Char} (mark : isSeparator c = true) (text : List Char) :
    c ∉ encodeURIComponent text :=
  not_mem_written (separator_facts c mark).1 (separator_facts c mark).2.2.1 (separator_facts c mark).2.2.2 text

theorem not_mem_encodeForm {c : Char} (mark : isSeparator c = true) (other : c ≠ '+') (text : List Char) :
    c ∉ encodeForm text := by
  intro mem
  obtain ⟨d, -, written⟩ := List.mem_flatMap.mp mem
  unfold writeForm at written
  split_ifs at written
  · exact other (List.mem_singleton.mp written)
  · obtain ⟨-, dropped, percent, plain⟩ := separator_facts c mark
    refine not_mem_written dropped percent plain [d] ?_
    rwa [List.flatMap_singleton]

theorem formDecode_encodeURIComponent (text : List Char) :
    formDecode String.utf8EncodeChar (encodeURIComponent text) = utf8 text := by
  have same := map_plusToSpace (not_mem_encodeURIComponent (c := '+') (by decide) text)
  have read := decode_written (faithful_writeBut (show keptComponent '%' = false by decide)) text []
  rw [List.append_nil, decode_nil, List.append_nil] at read
  rw [formDecode, same]
  exact read

theorem formDecode_encodeForm (text : List Char) : formDecode String.utf8EncodeChar (encodeForm text) = utf8 text := by
  have faithful : Faithful (fun c => (writeForm c).map plusToSpace) := by
    intro c rest
    change decode ((writeForm c).map plusToSpace ++ rest) = _
    unfold writeForm
    split_ifs with blank
    · rw [blank]
      exact decode_cons (escaped_of_ne (by decide) rest)
    · have absent := not_mem_written (show keptForm '+' = false by decide) (by decide) (by decide) [c]
      rw [List.flatMap_singleton] at absent
      rw [map_plusToSpace absent]
      exact faithful_writeBut (by decide) c rest
  have read := decode_written faithful text []
  rw [List.append_nil, decode_nil, List.append_nil] at read
  rw [formDecode, encodeForm, List.map_flatMap]
  exact read

/-! ## Pairs that are written and read -/

/-- The bytes of a name and a value. -/
def pairBytes (p : List Char × List Char) : List UInt8 × List UInt8 := (utf8 p.1, utf8 p.2)

/-- A way to write a text as a name or a value. -/
structure Encoder where
  encode : List Char → List Char
  decodes : ∀ text, formDecode String.utf8EncodeChar (encode text) = utf8 text
  plain : ∀ c, isSeparator c = true → c ≠ '+' → ∀ text, c ∉ encode text

def Encoder.component : Encoder :=
  ⟨encodeURIComponent, formDecode_encodeURIComponent, fun _ mark _ => not_mem_encodeURIComponent mark⟩

def Encoder.form : Encoder := ⟨encodeForm, formDecode_encodeForm, fun _ mark other => not_mem_encodeForm mark other⟩

namespace Encoder
variable (E : Encoder)

def writePair (p : List Char × List Char) : List Char := E.encode p.1 ++ '=' :: E.encode p.2

def writePairs (pairs : List (List Char × List Char)) : List Char := ['&'].intercalate (pairs.map E.writePair)

theorem writePairs_cons (p q : List Char × List Char) (rest : List (List Char × List Char)) :
    E.writePairs (p :: q :: rest) = E.writePair p ++ '&' :: E.writePairs (q :: rest) := by
  simp [writePairs, List.intercalate]

theorem writePairs_singleton (p : List Char × List Char) : E.writePairs [p] = E.writePair p := by
  simp [writePairs, List.intercalate]

theorem not_mem_writePair {c : Char} (mark : isSeparator c = true) (plus : c ≠ '+') (equals : c ≠ '=')
    (p : List Char × List Char) : c ∉ E.writePair p := by
  rw [writePair, List.mem_append, List.mem_cons]
  rintro (name | same | value)
  · exact E.plain c mark plus p.1 name
  · exact equals same
  · exact E.plain c mark plus p.2 value

theorem formPairs_writePair (p : List Char × List Char) :
    formPairs String.utf8EncodeChar (E.writePair p) = [pairBytes p] := by
  rw [formPairs_piece]
  · rw [writePair, formPair_eq (E.plain '=' (by decide) (by decide) p.1), E.decodes, E.decodes]
    rfl
  · exact List.append_ne_nil_of_right_ne_nil _ (List.cons_ne_nil _ _)
  · exact E.not_mem_writePair (by decide) (by decide) (by decide) p

theorem formPairs_writePairs (pairs : List (List Char × List Char)) :
    formPairs String.utf8EncodeChar (E.writePairs pairs) = pairs.map pairBytes := by
  induction pairs with
  | nil => rfl
  | cons p rest ih =>
    cases rest with
    | nil => rw [writePairs_singleton, formPairs_writePair, List.map_singleton]
    | cons q rest =>
      rw [writePairs_cons, formPairs_append, formPairs_writePair, ih]
      rfl

theorem not_mem_writePairs {c : Char} (mark : isSeparator c = true) (plus : c ≠ '+') (equals : c ≠ '=')
    (ampersand : c ≠ '&') (pairs : List (List Char × List Char)) : c ∉ E.writePairs pairs := by
  induction pairs with
  | nil => exact List.not_mem_nil
  | cons p rest ih =>
    have first := E.not_mem_writePair mark plus equals p
    cases rest with
    | nil => rwa [writePairs_singleton]
    | cons q rest =>
      rw [writePairs_cons, List.mem_append, List.mem_cons]
      rintro (here | same | later)
      · exact first here
      · exact ampersand same
      · exact ih later

end Encoder
end XpBuilder.Percent
