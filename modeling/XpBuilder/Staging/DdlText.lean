import Mathlib.Data.List.TakeWhile
import XpBuilder.Library.SqlLists
import XpBuilder.Staging.Rebuild

/-! The text of a CREATE TABLE as the server reads it: where the column list ends, what the items
are, which clauses they have, and what their defaults stand for. The types and defaults come from
the request and are inlined as they are. -/

namespace XpBuilder.TableSchema
open SqlLists
open SqlTokens (apostrophe backtick)
open PythonText (orElse strip isSlugChar)

/-! ## Types -/

/-- What is between the parentheses of a type. -/
def typeArgs (type : String) : List Char := ((type.toList.dropWhile (· ≠ '(')).drop 1).takeWhile (· ≠ ')')

/-- What is open at the end of it. -/
def argsMode (type : String) : Mode := (typeArgs type).foldl step .code

/-- The marks that open or end something. -/
def marks : List Char := [apostrophe, '"', backtick, '#', '-', '/', '(', ')', ',', '\\', '\n', '*']

theorem isLower_iff {c : Char} : isLower c = true ↔ 97 ≤ c.toNat ∧ c.toNat ≤ 122 := by
  simp only [isLower, Bool.and_eq_true, decide_eq_true_eq, Char.le_def, UInt32.le_iff_toNat_le]
  rfl

theorem toNat_toLower (c : Char) : c.toLower.toNat = if 65 ≤ c.toNat ∧ c.toNat ≤ 90 then c.toNat + 32 else c.toNat := by
  have upper : (c.val ≥ 'A'.val ∧ c.val ≤ 'Z'.val) ↔ 65 ≤ c.toNat ∧ c.toNat ≤ 90 := by
    simp only [ge_iff_le, UInt32.le_iff_toNat_le]
    rfl
  unfold Char.toLower
  by_cases inside : 65 ≤ c.toNat ∧ c.toNat ≤ 90
  · rw [dif_pos (upper.mpr inside), if_pos inside]
    have sum : (c.val + ('a'.val - 'A'.val)).toNat = c.val.toNat + 32 := by
      have value : c.toNat = c.val.toNat := rfl
      have step : ('a'.val - 'A'.val).toNat = 32 := rfl
      rw [UInt32.toNat_add]
      omega
    exact sum
  · rw [dif_neg (upper.not.mpr inside), if_neg inside]

/-- The characters that are read as letters. -/
theorem letter_cases {c : Char} (letter : isLower (foldCase c)) :
    (65 ≤ c.toNat ∧ c.toNat ≤ 90) ∨ (97 ≤ c.toNat ∧ c.toNat ≤ 122) ∨ 128 ≤ c.toNat := by
  unfold foldCase at letter
  split at letter
  · omega
  · omega
  · omega
  · omega
  · rw [isLower_iff, toNat_toLower] at letter
    split_ifs at letter with upper
    · exact .inl upper
    · exact .inr (.inl letter)

/-- Another character is only read as itself. -/
theorem foldCase_eq {c : Char} (other : isLower (foldCase c) = false) : foldCase c = c := by
  unfold foldCase at other ⊢
  split at other
  · cases other
  · cases other
  · cases other
  · cases other
  · rw [Bool.eq_false_iff, ne_eq, isLower_iff, toNat_toLower] at other
    have same : c.toLower.toNat = c.toNat := by
      rw [toNat_toLower]
      split_ifs at other ⊢ with upper
      · omega
      · rfl
    exact Char.toNat_inj.mp same

theorem letter_plain {c : Char} (letter : isLower (foldCase c)) : c ∉ marks ∧ isControl c = false := by
  have table : ∀ d ∈ marks, d.toNat < 65 ∨ d.toNat = 92 ∨ d.toNat = 96 := Lists.forall_mem_of_all (by decide)
  have range := letter_cases letter
  constructor
  · intro mem
    have small := table c mem
    omega
  · simp only [isControl, Bool.or_eq_false_iff, decide_eq_false_iff_not]
    omega

theorem digit_range {c : Char} (digit : isAsciiDigit c) : 48 ≤ c.toNat ∧ c.toNat ≤ 57 := by
  simp only [isAsciiDigit, Bool.and_eq_true, decide_eq_true_eq, Char.le_def, UInt32.le_iff_toNat_le] at digit
  exact digit

theorem digit_plain {c : Char} (digit : isAsciiDigit c) : c ∉ marks ∧ isControl c = false := by
  have range := digit_range digit
  have table : ∀ d ∈ marks, d.toNat < 48 ∨ 57 < d.toNat := Lists.forall_mem_of_all (by decide)
  constructor
  · intro mem
    have apart := table c mem
    omega
  · simp only [isControl, Bool.or_eq_false_iff, decide_eq_false_iff_not]
    omega

theorem isPlain_of_not_mem {c : Char} (other : c ∉ marks) : isPlain c := by
  simp only [marks, List.mem_cons, not_or] at other
  simp [isPlain, isQuote, other]

theorem not_isLower_of_digit {c : Char} (digit : isAsciiDigit c) : isLower c = false := by
  have range := digit_range digit
  rw [Bool.eq_false_iff, ne_eq, isLower_iff]
  omega

/-- A character of a type outside its parentheses. -/
theorem typeChar_plain {c : Char} (within : isTypeChar (foldCase c)) : c ∉ marks := by
  have low : '_' ∉ marks ∧ ' ' ∉ marks := by decide
  simp only [isTypeChar, Bool.or_eq_true, beq_iff_eq] at within
  rcases within with ((letter | digit) | mark) | mark
  · exact (letter_plain letter).1
  · rw [foldCase_eq (not_isLower_of_digit digit)] at digit
    exact (digit_plain digit).1
  · have same := foldCase_eq (c := c) (by rw [mark]; rfl)
    rw [← same, mark]
    exact low.1
  · have same := foldCase_eq (c := c) (by rw [mark]; rfl)
    rw [← same, mark]
    exact low.2

/-- The marks that can stand between the parentheses of a type. -/
theorem typeArgChar_cases {c : Char} (within : isTypeArgChar (foldCase c)) :
    c ∉ marks ∨ c = ',' ∨ c = apostrophe ∨ c = '"' ∨ c = '-' := by
  simp only [isTypeArgChar, Bool.or_eq_true] at within
  rcases within with (letter | digit) | mark
  · exact .inl (letter_plain letter).1
  · rw [foldCase_eq (not_isLower_of_digit digit)] at digit
    exact .inl (digit_plain digit).1
  · have table : ∀ d ∈ ['_', ',', '\'', '"', ' ', '-'], isLower d = false ∧
        (d ∉ marks ∨ d = ',' ∨ d = apostrophe ∨ d = '"' ∨ d = '-') :=
      Lists.forall_mem_of_all (by decide)
    have mem : foldCase c ∈ ['_', ',', '\'', '"', ' ', '-'] := List.contains_iff_mem.mp mark
    rw [foldCase_eq (table _ mem).1] at mem
    exact (table c mem).2

/-- A type is a text without marks, perhaps with one pair of parentheses. -/
theorem matchesType_shape {type : String} (matched : matchesType type) :
    ∃ base, (∀ c ∈ base, c ∉ marks) ∧ (type.toList = base ∨ ∃ args more,
      (∀ c ∈ args, c ∉ marks ∨ c = ',' ∨ c = apostrophe ∨ c = '"' ∨ c = '-') ∧ (∀ c ∈ more, c ∉ marks) ∧
      type.toList = base ++ '(' :: (args ++ ')' :: more)) := by
  unfold matchesType at matched
  rw [Bool.and_eq_true] at matched
  have rest := matched.2
  simp only [List.dropWhile_map] at rest
  have base : ∀ c ∈ type.toList.takeWhile (isTypeChar ∘ foldCase), c ∉ marks := by
    intro c mem
    have within : (isTypeChar ∘ foldCase) c = true := List.mem_takeWhile_imp mem
    exact typeChar_plain within
  have whole : type.toList.takeWhile (isTypeChar ∘ foldCase) ++ type.toList.dropWhile (isTypeChar ∘ foldCase) = type.toList :=
    List.takeWhile_append_dropWhile
  refine ⟨type.toList.takeWhile (isTypeChar ∘ foldCase), base, ?_⟩
  cases shape : type.toList.dropWhile (isTypeChar ∘ foldCase) with
  | nil =>
    rw [shape, List.append_nil] at whole
    exact .inl whole.symm
  | cons c inner =>
    right
    rw [shape] at rest whole
    rw [List.map_cons] at rest
    split at rest
    · next empty => cases empty
    · next inner' same =>
      obtain ⟨first, rfl⟩ := List.cons.inj same
      have paren : c = '(' := by
        rw [← foldCase_eq (c := c) (by rw [first]; rfl), first]
      simp only [Bool.and_eq_true, List.dropWhile_map] at rest
      have args : ∀ d ∈ inner.takeWhile (isTypeArgChar ∘ foldCase),
          d ∉ marks ∨ d = ',' ∨ d = apostrophe ∨ d = '"' ∨ d = '-' := by
        intro d mem
        have within : (isTypeArgChar ∘ foldCase) d = true := List.mem_takeWhile_imp mem
        exact typeArgChar_cases within
      have split : inner.takeWhile (isTypeArgChar ∘ foldCase) ++ inner.dropWhile (isTypeArgChar ∘ foldCase) = inner :=
        List.takeWhile_append_dropWhile
      have ends : ∀ s ∈ [")", ") unsigned", ") zerofill", ") unsigned zerofill"], s.toList.head? = some ')' ∧
          s.toList.tail.all isTypeChar := by decide
      obtain ⟨closes, plain⟩ := ends _ (List.contains_iff_mem.mp rest.2)
      rw [String.toList_ofList] at closes plain
      obtain ⟨tail, closing⟩ := List.head?_eq_some_iff.mp closes
      rw [closing, List.tail_cons, List.all_eq_true] at plain
      obtain ⟨d, more, behind, close, later⟩ := List.map_eq_cons_iff.mp closing
      have paren' : d = ')' := by
        rw [← foldCase_eq (c := d) (by rw [close]; rfl), close]
      refine ⟨inner.takeWhile (isTypeArgChar ∘ foldCase), more, args, fun e mem => ?_, ?_⟩
      · apply typeChar_plain
        apply plain
        rw [← later]
        exact List.mem_map_of_mem mem
      · have behind' : inner.takeWhile (isTypeArgChar ∘ foldCase) ++ ')' :: more = inner := by
          rw [← paren', ← behind]
          exact split
        rw [behind', ← paren]
        exact whole.symm
    · cases rest

/-- Where a type has no parentheses nothing is between them. -/
theorem typeArgs_eq {type : String} {base : List Char} (plain : ∀ c ∈ base, c ∉ marks) :
    (type.toList = base → typeArgs type = []) ∧ ∀ args more,
      (∀ c ∈ args, c ∉ marks ∨ c = ',' ∨ c = apostrophe ∨ c = '"' ∨ c = '-') →
      type.toList = base ++ '(' :: (args ++ ')' :: more) → typeArgs type = args := by
  have paren : ∀ c ∈ base, decide (c ≠ '(') = true := by
    intro c mem
    rw [decide_eq_true_eq]
    rintro rfl
    exact plain _ mem (by decide)
  constructor
  · intro same
    rw [typeArgs, same, List.dropWhile_eq_nil_iff.mpr paren]
    rfl
  · intro args more inner same
    have inside : ∀ c ∈ args, decide (c ≠ ')') = true := by
      intro c mem
      rw [decide_eq_true_eq]
      rintro rfl
      exact absurd (inner _ mem) (by decide)
    rw [typeArgs, same, List.dropWhile_append_of_pos paren, List.dropWhile_cons_of_neg (by simp), List.drop_succ_cons,
      List.drop_zero, List.takeWhile_append_of_pos inside, List.takeWhile_cons_of_neg (by simp), List.append_nil]

/-! ## Defaults -/

theorem slug_plain {c : Char} (slug : isSlugChar c) : c ∉ marks ∧ isControl c = false := by
  have range : (97 ≤ c.toNat ∧ c.toNat ≤ 122) ∨ (65 ≤ c.toNat ∧ c.toNat ≤ 90) ∨ (48 ≤ c.toNat ∧ c.toNat ≤ 57) ∨ c.toNat = 95 := by
    simp only [isSlugChar, Bool.or_eq_true, Bool.and_eq_true, decide_eq_true_eq, Char.le_def, UInt32.le_iff_toNat_le,
      beq_iff_eq] at slug
    rcases slug with ((small | capital) | digit) | rfl
    · exact .inl small
    · exact .inr (.inl capital)
    · exact .inr (.inr (.inl digit))
    · exact .inr (.inr (.inr rfl))
  have table : ∀ d ∈ marks, d.toNat < 48 ∨ d.toNat = 92 ∨ d.toNat = 96 :=
    Lists.forall_mem_of_all (by decide)
  constructor
  · intro mem
    have apart := table c mem
    omega
  · simp only [isControl, Bool.or_eq_false_iff, decide_eq_false_iff_not]
    omega

/-- What a default looks like: a word or a number, a call or a quoted text. -/
inductive DefaultShape (value : List Char) : Prop
  | bare : (∀ c ∈ value, (c ∉ marks ∧ isControl c = false) ∨ c = '-') → DefaultShape value
  | call (name args : List Char) : (∀ c ∈ name, c ∉ marks) → (∀ c ∈ args, c ∉ marks) →
      value = name ++ '(' :: (args ++ [')']) → DefaultShape value
  | quoted (inner : List Char) : (∀ c ∈ inner, c ≠ apostrophe ∧ c ≠ '\\') →
      value = apostrophe :: (inner ++ [apostrophe]) → DefaultShape value

set_option linter.auxLemma false in
/-- The current time is called with nothing, with parentheses or with a digit between them. -/
theorem expressionDefault_cases {value : String} (matched : matchesExpressionDefault value) :
    (value.toList.take "current_timestamp".toList.length).map foldCase = "current_timestamp".toList ∧
      (value.toList.drop "current_timestamp".toList.length = [] ∨
        value.toList.drop "current_timestamp".toList.length = ['(', ')'] ∨
        ∃ d, isDecimal d ∧ value.toList.drop "current_timestamp".toList.length = ['(', d, ')']) := by
  unfold matchesExpressionDefault at matched
  rw [Bool.and_eq_true, decide_eq_true_eq] at matched
  obtain ⟨front, behind⟩ := matched
  refine ⟨front, ?_⟩
  generalize value.toList.drop "current_timestamp".toList.length = tail at behind
  -- The match is taken apart by hand: `split` cannot tell its two patterns with parentheses apart.
  delta matchesExpressionDefault.match_1 at behind
  rcases tail with _ | ⟨first, rest⟩
  · exact .inl rfl
  right
  by_cases opening : first = '('
  · subst opening
    rcases rest with _ | ⟨second, rest⟩
    · cases behind
    by_cases closing : second = ')'
    · subst closing
      rcases rest with _ | ⟨third, rest⟩
      · exact .inl rfl
      by_cases more : third = ')'
      · subst more
        rcases rest with _ | ⟨_, _⟩ <;> cases behind
      · cases (dif_neg more).symm.trans behind
    · have digit := (dif_neg closing).symm.trans behind
      rcases rest with _ | ⟨third, rest⟩
      · cases digit
      by_cases last : third = ')'
      · subst last
        rcases rest with _ | ⟨_, _⟩
        · exact .inr ⟨second, digit, rfl⟩
        · cases digit
      · cases (dif_neg last).symm.trans digit
  · cases (dif_neg opening).symm.trans behind

theorem expressionDefault_shape {value : String} (matched : matchesExpressionDefault value) : DefaultShape value.toList := by
  obtain ⟨front, behind⟩ := expressionDefault_cases matched
  have name : ∀ c ∈ value.toList.take "current_timestamp".toList.length, c ∉ marks ∧ isControl c = false := by
    intro c mem
    have table : ∀ d ∈ "current_timestamp".toList, isLower d ∨ d = '_' := Lists.forall_mem_of_all (by decide)
    have within : foldCase c ∈ "current_timestamp".toList := by
      rw [← front]
      exact List.mem_map_of_mem mem
    rcases table _ within with letter | low
    · exact letter_plain letter
    · have same := foldCase_eq (c := c) (by rw [low]; rfl)
      rw [← same, low]
      decide
  have whole : value.toList.take "current_timestamp".toList.length ++ value.toList.drop "current_timestamp".toList.length =
      value.toList := List.take_append_drop _ _
  rcases behind with last | last | ⟨d, digit, last⟩
  · rw [last, List.append_nil] at whole
    rw [← whole]
    exact .bare (fun c mem => .inl (name c mem))
  · rw [last] at whole
    exact .call _ [] (fun c mem => (name c mem).1) (by simp) whole.symm
  · rw [last] at whole
    have table : ∀ d ∈ marks, isDecimal d = false := Lists.forall_mem_of_all (by decide)
    refine .call _ [d] (fun c mem => (name c mem).1) (fun c mem marked => ?_) whole.symm
    obtain rfl := List.mem_singleton.mp mem
    rw [table _ marked] at digit
    cases digit

theorem literalDefault_shape {value : String} (matched : matchesDefault value) : DefaultShape value.toList := by
  simp only [matchesDefault, Bool.or_eq_true, Bool.and_eq_true] at matched
  rcases matched with ⟨⟨bare, -⟩, -⟩ | quoted
  · refine .bare (fun c mem => ?_)
    have char := List.all_eq_true.mp bare c mem
    rw [Bool.or_eq_true] at char
    rcases char with slug | other
    · exact .inl (slug_plain slug)
    · have table : ∀ d ∈ ['.', ':', '+', '-'], (d ∉ marks ∧ isControl d = false) ∨ d = '-' :=
        Lists.forall_mem_of_all (by decide)
      exact table c (List.contains_iff_mem.mp other)
  · split at quoted
    · next inner whole =>
      simp only [Bool.and_eq_true, decide_eq_true_eq, List.all_eq_true] at quoted
      obtain ⟨⟨last, -⟩, plain⟩ := quoted
      refine .quoted inner.dropLast (fun c mem => plain c mem) ?_
      have ends : inner.dropLast ++ [apostrophe] = inner := List.dropLast_append_getLast? _ last
      rw [whole, ends]
      rfl
    · cases quoted

/-- A default is left out or written down as it is, stripped. -/
theorem defaultSql_cases (raw : Option String) : defaultSql raw = "" ∨
    (defaultSql raw = " DEFAULT " ++ strip (orElse raw "") ∧ DefaultShape (strip (orElse raw "")).toList) := by
  unfold defaultSql
  dsimp only
  split_ifs with written
  · right
    refine ⟨rfl, ?_⟩
    rcases written.2 with expression | literal
    · exact expressionDefault_shape expression
    · exact literalDefault_shape literal
  · exact .inl rfl

/-! ## Items -/

theorem walk_unmarked {a : List Char} (plain : ∀ c ∈ a, c ∉ marks) (d : Nat) : walk .code d a = some (.code, d) :=
  walk_plain (fun c mem => isPlain_of_not_mem (plain c mem)) d

/-- A pair of parentheses, with nothing open at its end. -/
theorem walk_parens {a : List Char} {m : Mode} {d : Nat} (inner : walk .code (d + 1) a = some (m, d + 1))
    (code : m.isCode) : walk .code d ('(' :: (a ++ [')'])) = some (.code, d) := by
  have opened : step .code '(' = .code := by decide
  have closed : walk m (d + 1) [')'] = some (.code, d) := by
    have same : step m ')' = .code := by
      cases m <;> first | rfl | cases code
    simp [walk, depth, code, same]
  have deeper : depth .code d '(' = d + 1 := by simp [depth, Mode.isCode]
  rw [walk, opened, deeper, if_neg (by simp), walk_append, inner, Option.bind_some, closed]

theorem walk_value {value : List Char} (shape : DefaultShape value) : ∃ m, walk .code 0 value = some (m, 0) ∧ m.isCode := by
  cases shape with
  | bare plain =>
    have marked : ∀ c ∈ value, (isPlain c ∧ isControl c = false) ∨ c = '-' := by
      intro c mem
      exact (plain c mem).imp_left (fun other => ⟨isPlain_of_not_mem other.1, other.2⟩)
    obtain ⟨m, walked, ends⟩ := walk_marks (.inl rfl) marked 0
    refine ⟨m, walked, ?_⟩
    rcases ends with rfl | rfl | rfl <;> rfl
  | call name args named plain whole =>
    refine ⟨.code, ?_, rfl⟩
    rw [whole, walk_append, walk_unmarked named, Option.bind_some, walk_parens (walk_unmarked plain 1) rfl]
  | quoted inner plain whole =>
    refine ⟨.code, ?_, rfl⟩
    rw [whole, walk_between (by decide) rfl plain]

theorem walk_default (raw : Option String) : ∃ m, walk .code 0 (defaultSql raw).toList = some (m, 0) ∧ m.isCode := by
  rcases defaultSql_cases raw with none | ⟨written, shape⟩
  · exact ⟨.code, by rw [none]; rfl, rfl⟩
  · obtain ⟨m, walked, code⟩ := walk_value shape
    refine ⟨m, ?_, code⟩
    have clause : ∀ c ∈ " DEFAULT ".toList, c ∉ marks := Lists.forall_mem_of_all (by decide)
    rw [written, String.toList_append, walk_append, walk_unmarked clause, Option.bind_some, walked]

/-- Whether the column can be NULL, as it is written. -/
def ColumnDef.nullity (c : ColumnDef) : String :=
  if c.autoIncrement then " NOT NULL AUTO_INCREMENT" else if c.nullable then " NULL" else " NOT NULL"

/-- What is written after the type. -/
def ColumnDef.trailer (c : ColumnDef) : String := c.nullity ++ if c.autoIncrement then "" else c.default

theorem nullity_unmarked (c : ColumnDef) : ∀ d ∈ c.nullity.toList, d ∉ marks := by
  have table : ∀ s ∈ [" NOT NULL AUTO_INCREMENT", " NULL", " NOT NULL"], s.toList.all (fun d => d ∉ marks) := by decide
  apply Lists.forall_mem_of_all
  apply table
  unfold ColumnDef.nullity
  split_ifs <;> decide

theorem ColumnDef.sql_toList {dialect : String} (mysql : isMysql dialect) (c : ColumnDef) : (c.sql dialect).toList =
    backtick :: ((quotedName c.name).toList ++ [backtick]) ++ ' ' :: (c.type.toList ++ c.trailer.toList) := by
  unfold ColumnDef.sql ColumnDef.trailer ColumnDef.nullity quote
  dsimp only
  rw [if_pos mysql]
  split_ifs <;> simp [backtick]

theorem ColumnDef.sql_split {dialect : String} (mysql : isMysql dialect) (c : ColumnDef) : (c.sql dialect).toList =
    backtick :: ((quotedName c.name).toList ++ [backtick]) ++ [' '] ++ (c.type.toList ++ c.trailer.toList) := by
  rw [c.sql_toList mysql]
  simp

theorem slug_quotedName (name : String) : ∀ c ∈ (quotedName name).toList, isSlugChar c := by
  intro c mem
  unfold quotedName at mem
  rw [String.toList_ofList] at mem
  exact (List.mem_filter.mp mem).2

/-- A quoted name. -/
theorem walk_name (name : String) (d : Nat) :
    walk .code d (backtick :: ((quotedName name).toList ++ [backtick])) = some (.code, d) := by
  apply walk_between (by decide) rfl
  intro c mem
  have unmarked := (slug_plain (slug_quotedName name c mem)).1
  constructor
  · rintro rfl
    exact unmarked (by decide)
  · rintro rfl
    exact unmarked (by decide)

theorem walk_head (name : String) :
    walk .code 0 (backtick :: ((quotedName name).toList ++ [backtick]) ++ [' ']) = some (.code, 0) := by
  have blank : walk .code 0 [' '] = some (.code, 0) := by decide
  rw [walk_append, walk_name, Option.bind_some, blank]

theorem walk_trailer (c : ColumnDef) {raw : Option String} (own : c.default = defaultSql raw) :
    ∃ m, walk .code 0 c.trailer.toList = some (m, 0) ∧ m.isCode := by
  have start := walk_unmarked (nullity_unmarked c) 0
  unfold ColumnDef.trailer
  rw [String.toList_append, walk_append, start, Option.bind_some]
  split_ifs
  · exact ⟨.code, rfl, rfl⟩
  · rw [own]
    exact walk_default raw

/-- What can be open inside the parentheses of a type. -/
def argModes : List Mode := [.code, .dash, .dashes, .quoted apostrophe, .quoted '"', .line]

theorem step_argModes {m : Mode} (mem : m ∈ argModes) {c : Char}
    (inner : c ∉ marks ∨ c = ',' ∨ c = apostrophe ∨ c = '"' ∨ c = '-') : step m c ∈ argModes := by
  have table : ∀ m ∈ argModes, [',', apostrophe, '"', '-'].all (fun c => step m c ∈ argModes) := by decide
  rcases inner with unmarked | mark
  · have plain := isPlain_of_not_mem unmarked
    have apart : c ≠ apostrophe ∧ c ≠ '"' ∧ c ≠ '\\' ∧ c ≠ '*' := by
      refine ⟨?_, ?_, ?_, ?_⟩ <;> rintro rfl <;> exact unmarked (by decide)
    have code : ∀ m, m ≠ .slash → begin m c ∈ argModes := by
      intro m slash
      by_cases comment : m = .dashes ∧ isControl c
      · unfold begin
        rw [if_pos (by simp [comment])]
        split_ifs <;> decide
      · rw [begin_plain plain slash (fun dashes => by simpa [dashes] using comment)]
        decide
    simp only [argModes, List.mem_cons, List.not_mem_nil, or_false] at mem
    rcases mem with rfl | rfl | rfl | rfl | rfl | rfl
    · exact code .code (by decide)
    · exact code .dash (by decide)
    · exact code .dashes (by decide)
    · simp [step, apart, argModes]
    · simp [step, apart, argModes]
    · simp only [step]
      split_ifs <;> decide
  · exact Lists.forall_mem_of_all (table m mem) c (by simpa using mark)

theorem foldl_argModes {m : Mode} (mem : m ∈ argModes) {args : List Char}
    (inner : ∀ c ∈ args, c ∉ marks ∨ c = ',' ∨ c = apostrophe ∨ c = '"' ∨ c = '-') : args.foldl step m ∈ argModes := by
  induction args generalizing m with
  | nil => exact mem
  | cons c cs ih =>
    rw [List.forall_mem_cons] at inner
    exact ih (step_argModes mem inner.1) inner.2

theorem unmarked_silent {a : List Char} (plain : ∀ c ∈ a, c ∉ marks ∨ c ∈ ['-', '(', ')']) :
    apostrophe ∉ a ∧ '"' ∉ a ∧ '\\' ∉ a ∧ '\n' ∉ a := by
  have table : ∀ d ∈ [apostrophe, '"', '\\', '\n'], ¬(d ∉ marks ∨ d ∈ ['-', '(', ')']) :=
    Lists.forall_mem_of_all (by decide)
  refine ⟨?_, ?_, ?_, ?_⟩ <;> exact fun mem => table _ (by decide) (plain _ mem)

/-- A text without quotes leaves open what is open. -/
theorem foldl_silent {m : Mode} (mem : m ∈ argModes) (still_open : m.isCode = false) {a : List Char}
    (plain : ∀ c ∈ a, c ∉ marks ∨ c ∈ ['-', '(', ')']) : a.foldl step m = m := by
  obtain ⟨single, double, slash, line⟩ := unmarked_silent plain
  have inner : ∀ q, q ∉ a → ∀ c ∈ a, c ≠ q ∧ c ≠ '\\' := by
    intro q absent c within
    constructor <;> rintro rfl
    · exact absent within
    · exact slash within
  simp only [argModes, List.mem_cons, List.not_mem_nil, or_false] at mem
  rcases mem with rfl | rfl | rfl | rfl | rfl | rfl
  · cases still_open
  · cases still_open
  · cases still_open
  · exact foldl_quoted (inner apostrophe single)
  · exact foldl_quoted (inner '"' double)
  · exact foldl_line line

/-- What is open after the parentheses of a type is not closed by the default. -/
theorem foldl_value {m : Mode} (mem : m ∈ argModes) (still_open : m.isCode = false) {value : List Char}
    (shape : DefaultShape value) : (value.foldl step m).isCode = false := by
  cases shape with
  | bare plain =>
    rw [foldl_silent mem still_open]
    · exact still_open
    · intro c within
      rcases plain c within with unmarked | rfl
      · exact .inl unmarked.1
      · exact .inr (by decide)
  | call name args named plain whole =>
    rw [foldl_silent mem still_open]
    · exact still_open
    · intro c within
      rw [whole, List.mem_append, List.mem_cons, List.mem_append, List.mem_singleton] at within
      rcases within with front | rfl | inner | rfl
      · exact .inl (named c front)
      · exact .inr (by decide)
      · exact .inl (plain c inner)
      · exact .inr (by decide)
  | quoted inner plain whole =>
    have table : ∀ m ∈ argModes, m.isCode = false →
        step m apostrophe ≠ .quoted apostrophe ∧ step m apostrophe ≠ .escaped apostrophe := by decide
    have none : apostrophe ∉ inner := fun within => (plain _ within).1 rfl
    rw [whole, List.foldl_cons, List.foldl_append, List.foldl_cons, List.foldl_nil]
    exact step_apostrophe (foldl_other (table m mem still_open) none).1

theorem foldl_open {m : Mode} (mem : m ∈ argModes) (still_open : m.isCode = false) {more : List Char}
    (plain : ∀ c ∈ more, c ∉ marks) (c : ColumnDef) {raw : Option String} (own : c.default = defaultSql raw) :
    ((')' :: more ++ c.trailer.toList).foldl step m).isCode = false := by
  have front : (')' :: more ++ c.nullity.toList).foldl step m = m := by
    apply foldl_silent mem still_open
    intro d within
    rw [List.cons_append, List.mem_cons, List.mem_append] at within
    rcases within with rfl | inner | nullity
    · exact .inr (by decide)
    · exact .inl (plain d inner)
    · exact .inl (nullity_unmarked c d nullity)
  unfold ColumnDef.trailer
  rw [String.toList_append, ← List.append_assoc, List.foldl_append, front]
  split_ifs
  · exact still_open
  · rw [own]
    rcases defaultSql_cases raw with none | ⟨written, shape⟩
    · rw [none]
      exact still_open
    · have clause : " DEFAULT ".toList.foldl step m = m := by
        apply foldl_silent mem still_open
        exact Lists.forall_mem_of_all (by decide)
      rw [written, String.toList_append, List.foldl_append, clause]
      exact foldl_value mem still_open shape

/-- A column is one item exactly where the parentheses of its type leave nothing open. -/
theorem whole_iff {dialect : String} (mysql : isMysql dialect) {c : ColumnDef} (matched : matchesType c.type)
    {raw : Option String} (own : c.default = defaultSql raw) :
    Whole (c.sql dialect).toList ↔ (argsMode c.type).isCode = true := by
  obtain ⟨m', last, ends⟩ := walk_trailer c own
  obtain ⟨base, plain, shape⟩ := matchesType_shape matched
  obtain ⟨noArgs, someArgs⟩ : (c.type.toList = base → typeArgs c.type = []) ∧ _ := typeArgs_eq plain
  unfold Whole argsMode
  rw [c.sql_split mysql, walk_append, walk_head, Option.bind_some]
  rcases shape with same | ⟨args, more, inner, later, same⟩
  · rw [noArgs same, same, walk_append, walk_unmarked plain, Option.bind_some]
    exact ⟨fun _ => rfl, fun _ => ⟨m', last, ends⟩⟩
  · have flat : '(' ∉ args ∧ ')' ∉ args := by
      constructor <;> exact fun mem => absurd (inner _ mem) (by decide)
    have start : Mode.code ∈ argModes := by decide
    have text : base ++ '(' :: (args ++ ')' :: more) ++ c.trailer.toList =
        base ++ ('(' :: (args ++ [')']) ++ (more ++ c.trailer.toList)) := by simp
    rw [someArgs args more inner same, same]
    constructor
    · rintro ⟨m, walked, code⟩
      by_contra still_open
      rw [Bool.not_eq_true] at still_open
      have mode := walk_mode walked
      have front : (base ++ ['(']).foldl step .code = .code := by
        have based := walk_mode (walk_unmarked plain 0)
        rw [List.foldl_append, based]
        rfl
      have parts : base ++ '(' :: (args ++ ')' :: more) ++ c.trailer.toList =
          base ++ ['('] ++ (args ++ (')' :: more ++ c.trailer.toList)) := by simp
      have closed := foldl_open (foldl_argModes start inner) still_open later c own
      have ended : (')' :: more ++ c.trailer.toList).foldl step (args.foldl step ((base ++ ['(']).foldl step .code)) = m := by
        rw [← List.foldl_append, ← List.foldl_append, ← parts]
        exact mode
      rw [front] at ended
      rw [ended, code] at closed
      cases closed
    · intro code
      refine ⟨m', ?_, ends⟩
      rw [text, walk_append, walk_unmarked plain, Option.bind_some, walk_append,
        walk_parens (walk_inside flat .code 0) code, Option.bind_some, walk_append, walk_unmarked later, Option.bind_some, last]

end XpBuilder.TableSchema
