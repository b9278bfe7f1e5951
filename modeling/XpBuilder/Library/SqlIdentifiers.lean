import Mathlib.Data.List.Basic

/-! Quoted names. A dialect tells which characters open one, and how it goes on: what closes it,
whether the doubled closing mark stands for one, and which character escapes the next. The text of
an aggregate over a quoted name is read back in a dialect. -/

namespace XpBuilder.SqlIdentifiers

/-- How a quoted name goes on behind its opening mark. -/
structure Quoting where
  close : Char
  doubled : Bool
  escape : Option Char
  /-- What an escaped character stands for. -/
  meaning : Char → Char
  apart : escape ≠ some close

/-- The quoting that a character opens. -/
abbrev Dialect := Char → Option Quoting

namespace Quoting
variable (q : Quoting)

/-- The name in front, and what is behind its closing mark. -/
def read : List Char → Option (List Char × List Char)
  | [] => none
  | [c] => if c = q.close then some ([], []) else none
  | c :: d :: rest =>
    if q.escape = some c then (read rest).map (fun r => (q.meaning d :: r.1, r.2))
    else if c = q.close then
      if q.doubled = true ∧ d = q.close then (read rest).map (fun r => (q.close :: r.1, r.2))
      else some ([], d :: rest)
    else (read (d :: rest)).map (fun r => (c :: r.1, r.2))

/-- A name that is written as it is. -/
def Plain (name : List Char) : Prop := ∀ c ∈ name, c ≠ q.close ∧ q.escape ≠ some c

variable {q}

theorem read_plain {name rest : List Char} (plain : q.Plain name) (stops : rest.head? ≠ some q.close) :
    q.read (name ++ q.close :: rest) = some (name, rest) := by
  induction name with
  | nil =>
    cases rest with
    | nil => simp [read]
    | cons d rest =>
      have other : d ≠ q.close := by simpa using stops
      simp [read, q.apart, other]
  | cons c name ih =>
    have own := plain c (by simp)
    have tail := ih (fun d there => plain d (List.mem_cons_of_mem c there))
    cases name with
    | nil =>
      rw [List.nil_append] at tail
      simp only [List.cons_append, List.nil_append, read, own.1, own.2, if_false, tail, Option.map_some]
    | cons d name =>
      rw [List.cons_append] at tail
      simp only [List.cons_append, read, own.1, own.2, if_false, tail, Option.map_some]

theorem length_le_of_plain_or_shorter {cs name rest : List Char}
    (either : (cs = name ++ q.close :: rest ∧ q.Plain name) ∨ name.length + 1 + rest.length < cs.length) :
    name.length + 1 + rest.length ≤ cs.length := by
  cases either with
  | inl whole =>
    rw [whole.1, List.length_append, List.length_cons]
    omega
  | inr shorter => omega

/-- A name that is not as long as its text lost a mark that was doubled or escaped. -/
theorem plain_or_shorter {cs name rest : List Char} (found : q.read cs = some (name, rest)) :
    (cs = name ++ q.close :: rest ∧ q.Plain name) ∨ name.length + 1 + rest.length < cs.length := by
  induction cs using read.induct q generalizing name rest with
  | case1 => simp [read] at found
  | case2 =>
    simp only [read, if_true, Option.some.injEq, Prod.mk.injEq] at found
    left
    simp [← found.1, ← found.2, Plain]
  | case3 c other => simp [read, other] at found
  | case4 c d tail escaped ih =>
    simp only [read, escaped, if_true, Option.map_eq_some_iff] at found
    obtain ⟨⟨n, r⟩, inner, same⟩ := found
    have shorter := length_le_of_plain_or_shorter (ih inner)
    right
    simp only [Prod.mk.injEq] at same
    simp only [← same.1, ← same.2, List.length_cons]
    omega
  | case5 d tail unescaped double ih =>
    simp only [read, unescaped, if_false, if_true, double, Option.map_eq_some_iff, and_self] at found
    obtain ⟨⟨n, r⟩, inner, same⟩ := found
    have shorter := length_le_of_plain_or_shorter (ih inner)
    right
    simp only [Prod.mk.injEq] at same
    simp only [← same.1, ← same.2, List.length_cons]
    omega
  | case6 d tail unescaped single =>
    simp only [read, unescaped, if_false, if_true, single, Option.some.injEq, Prod.mk.injEq] at found
    left
    simp [← found.1, ← found.2, Plain]
  | case7 c d tail unescaped other ih =>
    simp only [read, unescaped, other, if_false, Option.map_eq_some_iff] at found
    obtain ⟨⟨n, r⟩, inner, same⟩ := found
    simp only [Prod.mk.injEq] at same
    rw [← same.1, ← same.2]
    cases ih inner with
    | inl whole =>
      left
      constructor
      · rw [whole.1, List.cons_append]
      · intro e there
        cases List.mem_cons.mp there with
        | inl here =>
          rw [here]
          exact ⟨other, unescaped⟩
        | inr behind => exact whole.2 e behind
    | inr shorter =>
      right
      simp only [List.length_cons] at shorter ⊢
      omega

end Quoting

/-! ## Calls -/

structure Call where
  function : List Char
  argument : List Char
  deriving DecidableEq, Repr

def aggregates : List (List Char) :=
  [['S', 'U', 'M'], ['A', 'V', 'G'], ['M', 'I', 'N'], ['M', 'A', 'X'], ['C', 'O', 'U', 'N', 'T']]

def isBlank (c : Char) : Bool := c = ' ' || c = '\t' || c = '\n' || c = '\r'

/-- The text as one aggregate of one quoted name. -/
def readCall (D : Dialect) (cs : List Char) : Option Call :=
  let word := cs.takeWhile Char.isAlpha
  match cs.dropWhile Char.isAlpha with
  | '(' :: inner =>
    match inner.dropWhile isBlank with
    | [] => none
    | mark :: text =>
      match (D mark).bind (fun q => q.read text) with
      | none => none
      | some (name, rest) =>
        if aggregates.contains (word.map Char.toUpper) ∧ rest.filter (fun c => !isBlank c) = [')'] then
          some ⟨word, name⟩
        else none
  | _ => none

/-- A dialect that reads names between a mark and the same mark. -/
def Encloses (D : Dialect) (mark : Char) (label : List Char) : Prop :=
  ∃ q, D mark = some q ∧ q.close = mark ∧ q.Plain label

/-- A label between two marks is read as an argument that is no shorter exactly where the dialect
quotes with the mark and the label is written as it is. -/
theorem readCall_quoted {D : Dialect} {mark : Char} {word label name : List Char}
    (letters : ∀ c ∈ word, c.isAlpha = true) (known : word.map Char.toUpper ∈ aggregates)
    (visible : isBlank mark = false) (other : mark ≠ ')') (long : label.length ≤ name.length) :
    (∃ call, readCall D (word ++ '(' :: mark :: (label ++ [mark, ')'])) = some call ∧ call.argument = name) ↔
      Encloses D mark label ∧ name = label := by
  have front : (word ++ '(' :: mark :: (label ++ [mark, ')'])).takeWhile Char.isAlpha = word := by
    rw [List.takeWhile_append_of_pos letters, List.takeWhile_cons_of_neg (by decide), List.append_nil]
  have back : (word ++ '(' :: mark :: (label ++ [mark, ')'])).dropWhile Char.isAlpha =
      '(' :: mark :: (label ++ [mark, ')']) := by
    rw [List.dropWhile_append_of_pos letters, List.dropWhile_cons_of_neg (by decide)]
  have begun : (mark :: (label ++ [mark, ')'])).dropWhile isBlank = mark :: (label ++ [mark, ')']) := by
    rw [List.dropWhile_cons_of_neg (by simp [visible])]
  simp only [readCall, front, back, begun]
  cases opens : D mark with
  | none => simp [Encloses, opens]
  | some q =>
    have enclosed : Encloses D mark label ↔ q.close = mark ∧ q.Plain label := by
      simp [Encloses, opens]
    rw [enclosed, Option.bind_some]
    constructor
    · rintro ⟨call, called, rfl⟩
      cases found : q.read (label ++ [mark, ')']) with
      | none => simp [found] at called
      | some r =>
        simp only [found, Option.ite_none_right_eq_some, Option.some.injEq] at called
        obtain ⟨⟨-, ends⟩, rfl⟩ := called
        have enough : label.length ≤ r.1.length := long
        have visibleRest : 0 < r.2.length := by
          apply List.length_pos_of_ne_nil
          intro none
          simp [none] at ends
        cases Quoting.plain_or_shorter found with
        | inl whole =>
          have lengths := congrArg List.length whole.1
          simp only [List.length_append, List.length_cons, List.length_nil] at lengths
          have parts := List.append_inj whole.1 (by omega : label.length = r.1.length)
          have marks := List.cons.inj parts.2
          rw [parts.1]
          exact ⟨⟨marks.1.symm, whole.2⟩, rfl⟩
        | inr shorter =>
          simp only [List.length_append, List.length_cons, List.length_nil] at shorter
          omega
    · rintro ⟨⟨rfl, plain⟩, rfl⟩
      have found : q.read (name ++ q.close :: [')']) = some (name, [')']) :=
        Quoting.read_plain plain (by simpa using other.symm)
      have ends : [')'].filter (fun c => !isBlank c) = [')'] := by decide
      exact ⟨⟨word, name⟩, by simp only [found, ends, List.contains_iff_mem, known, and_self, if_true], rfl⟩

end XpBuilder.SqlIdentifiers
