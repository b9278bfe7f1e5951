import XpBuilder.Staging.DdlText

/-! Whether the CREATE TABLE that `_ddl` writes is what its columns ask for: one item for each
column with no clause but the written ones, defaults that stand for those of the source, and names
that can be told apart. The keys and the options cannot go wrong. -/

namespace XpBuilder.TableSchema
open SqlLists
open SqlTokens (apostrophe backtick)
open PythonText (orElse strip isSlugChar)

/-! ## Keys -/

/-- A text in a text stands for itself. -/
theorem toString_eq (s : String) : toString s = s := rfl

theorem walk_separated {parts : List (List Char)} {d : Nat}
    (each : ∀ part ∈ parts, walk .code (d + 1) part = some (.code, d + 1)) :
    walk .code (d + 1) ([',', ' '].intercalate parts) = some (.code, d + 1) := by
  induction parts with
  | nil => rfl
  | cons part rest ih =>
    rw [List.forall_mem_cons] at each
    cases rest with
    | nil =>
      rw [List.intercalate_singleton]
      exact each.1
    | cons next rest =>
      have comma : walk .code (d + 1) [',', ' '] = some (.code, d + 1) := by
        have stepped : step .code ',' = .code ∧ step .code ' ' = .code := by decide
        simp [walk, depth, Mode.isCode, stepped]
      rw [List.intercalate_cons_cons, List.append_assoc, walk_append, each.1, Option.bind_some, walk_append, comma,
        Option.bind_some]
      exact ih each.2

theorem quote_toList {dialect : String} (mysql : isMysql dialect) (name : String) :
    (quote name dialect).toList = backtick :: ((quotedName name).toList ++ [backtick]) := by
  unfold quote
  dsimp only
  rw [if_pos mysql]
  simp [backtick]

theorem walk_keyPart {dialect : String} (mysql : isMysql dialect) (part : KeyPart) (d : Nat) :
    walk .code (d + 1) (part.sql dialect).toList = some (.code, d + 1) := by
  unfold KeyPart.sql
  rw [String.toList_append, quote_toList mysql, walk_append, walk_name, Option.bind_some]
  cases part.prefixChars with
  | none => rfl
  | some p =>
    have digits : ∀ c ∈ (toString p).toList, c ∉ marks := by
      intro c mem
      have chars : (toString p).toList = Nat.toDigits 10 p := Nat.toList_repr
      rw [chars] at mem
      have digit := Nat.isDigit_of_mem_toDigits (by decide) (by decide) mem
      exact (digit_plain digit).1
    have text : (s!"({p})").toList = '(' :: ((toString p).toList ++ [')']) := by
      rw [String.toList_append, String.toList_append, toString_eq, toString_eq]
      rfl
    rw [text, walk_parens (walk_unmarked digits (d + 2)) rfl]

theorem whole_primary {dialect : String} (mysql : isMysql dialect) (columns : List String) :
    Whole (primarySql dialect columns).toList := by
  have text : (primarySql dialect columns).toList = "PRIMARY KEY ".toList ++
      '(' :: ([',', ' '].intercalate (columns.map (fun n => (quote n dialect).toList)) ++ [')']) := by
    unfold primarySql
    rw [String.toList_append, String.toList_append, toString_eq, toString_eq, toString_eq, String.toList_intercalate,
      List.map_map]
    rfl
  have parts : ∀ part ∈ columns.map (fun n => (quote n dialect).toList), walk .code 1 part = some (.code, 1) := by
    intro part mem
    obtain ⟨n, -, rfl⟩ := List.mem_map.mp mem
    rw [quote_toList mysql, walk_name]
  have front : ∀ c ∈ "PRIMARY KEY ".toList, c ∉ marks := Lists.forall_mem_of_all (by decide)
  refine ⟨.code, ?_, rfl⟩
  rw [text, walk_append, walk_unmarked front, Option.bind_some, walk_parens (walk_separated parts) rfl]

theorem whole_key {dialect : String} (mysql : isMysql dialect) (key : KeyDef) : Whole (key.sql dialect).toList := by
  have text : (key.sql dialect).toList = (if key.unique then "UNIQUE KEY " else "KEY ").toList ++
      (quote key.label dialect).toList ++
      ' ' :: '(' :: ([',', ' '].intercalate (key.parts.map (fun part => (part.sql dialect).toList)) ++ [')']) := by
    unfold KeyDef.sql
    cases key.unique <;> simp [toString_eq, Function.comp_def]
  have parts : ∀ part ∈ key.parts.map (fun part => (part.sql dialect).toList), walk .code 1 part = some (.code, 1) := by
    intro part mem
    obtain ⟨p, -, rfl⟩ := List.mem_map.mp mem
    exact walk_keyPart mysql p 0
  have front : ∀ c ∈ (if key.unique then "UNIQUE KEY " else "KEY ").toList, c ∉ marks := by
    cases key.unique <;> exact Lists.forall_mem_of_all (by decide)
  have blank : walk .code 0 [' '] = some (.code, 0) := by decide
  have behind : ∀ cs : List Char, walk .code 0 (' ' :: cs) = walk .code 0 cs := by
    intro cs
    rw [← List.singleton_append, walk_append, blank, Option.bind_some]
  refine ⟨.code, ?_, rfl⟩
  rw [text, List.append_assoc, walk_append, walk_unmarked front, Option.bind_some, walk_append, quote_toList mysql,
    walk_name, Option.bind_some, behind, walk_parens (walk_separated parts) rfl]

/-! ## The list -/

/-- The items of the list, each on a line of its own. -/
def onLines : List (List Char) → List (List Char)
  | [] => ["\n  \n".toList]
  | [item] => ["\n  ".toList ++ item ++ "\n".toList]
  | item :: next :: rest => ("\n  ".toList ++ item) :: onLines (next :: rest)

theorem joined_onLines (items : List (List Char)) :
    joined (onLines items) = "\n  ".toList ++ ",\n  ".toList.intercalate items ++ "\n".toList := by
  induction items with
  | nil => rfl
  | cons item rest ih =>
    cases rest with
    | nil => simp [onLines, joined, List.intercalate_singleton]
    | cons next rest =>
      have more : onLines (next :: rest) ≠ [] := by
        cases rest <;> simp [onLines]
      obtain ⟨first, others, same⟩ := List.exists_cons_of_ne_nil more
      rw [onLines, same, joined, ← same, ih, List.intercalate_cons_cons]
      simp

theorem whole_onLines {items : List (List Char)} (whole : ∀ item ∈ items, Whole item) : ∀ item ∈ onLines items, Whole item := by
  have indented : ∀ {item : List Char}, Whole item → Whole ("\n  ".toList ++ item) := by
    rintro item ⟨m, walked, code⟩
    have front : walk .code 0 "\n  ".toList = some (.code, 0) := by decide
    exact ⟨m, by rw [walk_append, front, Option.bind_some, walked], code⟩
  have ended : ∀ {item : List Char}, Whole item → Whole (item ++ "\n".toList) := by
    rintro item ⟨m, walked, code⟩
    refine ⟨.code, ?_, rfl⟩
    have back : walk m 0 "\n".toList = some (.code, 0) := by
      cases m <;> first | rfl | cases code
    rw [walk_append, walked, Option.bind_some, back]
  induction items with
  | nil =>
    rw [onLines, List.forall_mem_singleton]
    exact ⟨.code, by decide, rfl⟩
  | cons item rest ih =>
    rw [List.forall_mem_cons] at whole
    cases rest with
    | nil =>
      rw [onLines, List.forall_mem_singleton]
      exact ended (indented whole.1)
    | cons next rest =>
      rw [onLines, List.forall_mem_cons]
      exact ⟨indented whole.1, ih whole.2⟩

/-- The options after the list are fixed but for a collation of letters, digits and underscores. -/
theorem tableOptions_cases (collation : Option String) : tableOptions collation = " ENGINE=InnoDB DEFAULT CHARSET=utf8mb4" ∨
    ∃ name, (∀ c ∈ name.toList, isSlugChar c) ∧
      tableOptions collation = " ENGINE=InnoDB DEFAULT CHARSET=utf8mb4" ++ " COLLATE=" ++ name := by
  unfold tableOptions
  dsimp only
  split_ifs with safe
  · right
    simp only [Bool.and_eq_true, List.all_eq_true] at safe
    exact ⟨_, safe.2.1.1, rfl⟩
  · exact .inl rfl

/-! ## Clauses -/

/-- The words that begin an attribute of a column. -/
def clauseKeywords : List String :=
  ["not", "null", "default", "on", "auto_increment", "serial", "primary", "unique", "key", "comment", "collate",
    "column_format", "storage", "references", "check", "constraint", "generated", "as", "virtual", "stored", "persistent",
    "visible", "invisible", "compressed", "engine_attribute", "secondary_engine_attribute", "srid", "with", "without"]

def isClause (word : List Char) : Bool := String.ofList (word.map Char.toLower) ∈ clauseKeywords

/-- The attributes that an item has, by their first words. -/
def clauseWords (item : List Char) : List (List Char) := (words (shown .code 0 item)).filter isClause

theorem words_front (blanks : Nat) (a : List Char) : words (List.replicate blanks ' ' ++ a) = words a := by
  induction blanks with
  | zero => rfl
  | succ n ih =>
    have split : List.replicate (n + 1) ' ' ++ a = [] ++ ' ' :: (List.replicate n ' ' ++ a) := rfl
    have none : words [] = [] := by decide
    rw [split, words_blank, none, List.nil_append, ih]

theorem shown_quoted {q : Char} {a : List Char} (inner : ∀ c ∈ a, c ≠ q ∧ c ≠ '\\') (d : Nat) :
    shown (.quoted q) d a = List.replicate a.length ' ' := by
  induction a with
  | nil => rfl
  | cons c cs ih =>
    rw [List.forall_mem_cons] at inner
    rw [shown, step_quoted inner.1, depth_quoted, ih inner.2]
    rfl

/-- Of the name nothing is shown. -/
theorem shown_head (name : String) :
    ∃ n, shown .code 0 (backtick :: ((quotedName name).toList ++ [backtick]) ++ [' ']) = List.replicate n ' ' := by
  have inner : ∀ c ∈ (quotedName name).toList, c ≠ backtick ∧ c ≠ '\\' := by
    intro c mem
    have unmarked := (slug_plain (slug_quotedName name c mem)).1
    constructor <;> rintro rfl <;> exact unmarked (by decide)
  have opened : step .code backtick = .quoted backtick := by decide
  have same : depth .code 0 backtick = 0 := by decide
  have tick : (if Mode.code.isCode && decide (0 = 0) && isWordChar backtick then backtick else ' ') = ' ' := by decide
  have last : shown (.quoted backtick) 0 [backtick, ' '] = List.replicate 2 ' ' := by decide
  refine ⟨1 + ((quotedName name).toList.length + 2), ?_⟩
  rw [List.cons_append, List.append_assoc, shown, opened, same, tick, shown_append (walk_quoted inner 0),
    shown_quoted inner, List.singleton_append, last, List.replicate_append_replicate, Nat.add_comm 1]
  rfl

/-- The attributes of a column are those of its type and the written ones. -/
theorem clauseWords_sql {dialect : String} (mysql : isMysql dialect) {c : ColumnDef} (matched : matchesType c.type)
    (closed : (argsMode c.type).isCode = true) :
    clauseWords (c.sql dialect).toList = clauseWords c.type.toList ++ clauseWords c.trailer.toList := by
  have walked : walk .code 0 c.type.toList = some (.code, 0) := by
    obtain ⟨base, plain, same | ⟨args, more, inner, later, same⟩⟩ := matchesType_shape matched
    · rw [same, walk_unmarked plain]
    · have flat : '(' ∉ args ∧ ')' ∉ args := by
        constructor <;> exact fun mem => absurd (inner _ mem) (by decide)
      have text : base ++ '(' :: (args ++ ')' :: more) = base ++ ('(' :: (args ++ [')']) ++ more) := by simp
      rw [argsMode, (typeArgs_eq plain).2 args more inner same] at closed
      rw [same, text, walk_append, walk_unmarked plain, Option.bind_some, walk_append,
        walk_parens (walk_inside flat .code 0) closed, Option.bind_some, walk_unmarked later]
  obtain ⟨rest, trailing⟩ : ∃ rest, c.trailer.toList = ' ' :: rest := by
    have table : ∀ s ∈ [" NOT NULL AUTO_INCREMENT", " NULL", " NOT NULL"], s.toList.head? = some ' ' := by decide
    have front : c.nullity.toList.head? = some ' ' := by
      apply table
      unfold ColumnDef.nullity
      split_ifs <;> decide
    obtain ⟨rest, same⟩ := List.head?_eq_some_iff.mp front
    exact ⟨rest ++ (if c.autoIncrement then "" else c.default).toList, by simp [ColumnDef.trailer, same]⟩
  obtain ⟨n, blank⟩ := shown_head c.name
  have tail : shown .code 0 (' ' :: rest) = ' ' :: shown .code 0 rest := rfl
  have alone : words (' ' :: shown .code 0 rest) = words (shown .code 0 rest) := words_front 1 _
  unfold clauseWords
  rw [c.sql_split mysql, shown_append (walk_head c.name), blank, words_front, shown_append walked, trailing, tail,
    words_blank, alone, List.filter_append]

/-! ## Literals -/

inductive Literal where
  | text (value : List Char)
  | numeral | bytes | truth | null | now
  deriving DecidableEq, Repr

def unsigned : List Char → List Char
  | '+' :: rest => rest
  | '-' :: rest => rest
  | cs => cs

/-- Nothing, or an exponent. -/
def isExponent : List Char → Bool
  | [] => true
  | e :: rest => (e = 'e' || e = 'E') && unsigned rest ≠ [] && (unsigned rest).all isAsciiDigit

/-- Digits with a point before, among or behind them, perhaps with a sign and an exponent. -/
def isNumeral (cs : List Char) : Bool :=
  let whole := (unsigned cs).takeWhile isAsciiDigit
  match (unsigned cs).dropWhile isAsciiDigit with
  | '.' :: rest =>
    (whole ≠ [] || rest.takeWhile isAsciiDigit ≠ []) && isExponent (rest.dropWhile isAsciiDigit)
  | rest => whole ≠ [] && isExponent rest

def isHexDigit (c : Char) : Bool := isAsciiDigit c || ('a' ≤ c && c ≤ 'f') || ('A' ≤ c && c ≤ 'F')

/-- `0x` and digits, or `0b` and bits. -/
def isBytes : List Char → Bool
  | '0' :: 'x' :: digits => digits ≠ [] && digits.all isHexDigit
  | '0' :: 'b' :: bits => bits ≠ [] && bits.all (fun c => c = '0' || c = '1')
  | _ => false

def isKeyword (keyword : String) (cs : List Char) : Bool := cs.map Char.toLower = keyword.toList

/-- `CURRENT_TIMESTAMP`, perhaps with the number of digits after the second. -/
def isNow (cs : List Char) : Bool :=
  isKeyword "current_timestamp" cs || isKeyword "current_timestamp()" cs ||
    ["0", "1", "2", "3", "4", "5", "6"].any (fun d => isKeyword ("current_timestamp(" ++ d ++ ")") cs)

/-- The literals of the server that are without escapes. -/
inductive Reads : List Char → Literal → Prop
  | text {inner : List Char} : (∀ c ∈ inner, c ≠ apostrophe ∧ c ≠ '\\') →
      Reads (apostrophe :: (inner ++ [apostrophe])) (.text inner)
  | numeral {cs : List Char} : isNumeral cs → Reads cs .numeral
  | bytes {cs : List Char} : isBytes cs → Reads cs .bytes
  | truth {cs : List Char} : isKeyword "true" cs ∨ isKeyword "false" cs → Reads cs .truth
  | null {cs : List Char} : isKeyword "null" cs → Reads cs .null
  | now {cs : List Char} : isNow cs → Reads cs .now

/-- What a default of the source is. -/
inductive Kind where
  | character | binary | moment | other
  deriving DecidableEq, Repr

def kindOf (type : String) : Kind :=
  let base := baseType type
  if base ∈ ["char", "varchar", "tinytext", "text", "mediumtext", "longtext", "enum", "set", "character", "national",
    "nchar", "nvarchar"] then .character
  else if base ∈ ["binary", "varbinary", "tinyblob", "blob", "mediumblob", "longblob"] then .binary
  else if base ∈ ["datetime", "timestamp"] then .moment
  else .other

/-- The literal stands for the default that the source reports as `raw`. In a column of characters
or bytes that is the text itself, which a number is turned into as the server stores it; in another
one it is the number, NULL or the time that the text spells. -/
def Denotes (stored : String → String) (kind : Kind) (raw value : String) : Literal → Prop
  | .text inner => String.ofList inner = raw
  | .numeral => kind = .character ∨ kind = .binary → stored value = raw
  | .bytes => kind = .binary
  | .truth => False
  | .null => kind = .moment ∨ kind = .other
  | .now => kind = .moment

/-- What a written default has to be: a number that is stored as it is spelled, or bytes, NULL or
the current time in a column that has them. -/
def Expressible (stored : String → String) (kind : Kind) (raw : String) : Prop :=
  let value := strip raw
  (isNumeral value.toList ∧ (kind = .character ∨ kind = .binary → stored value = raw)) ∨
    (isBytes value.toList ∧ kind = .binary) ∨
    (isKeyword "null" value.toList ∧ (kind = .moment ∨ kind = .other)) ∨ (isNow value.toList ∧ kind = .moment)

theorem length_strip_le (s : String) : (strip s).toList.length ≤ s.toList.length := by
  unfold strip PythonText.stripChars
  rw [String.toList_ofList, List.length_reverse]
  have front := List.length_dropWhile_le PythonText.isSpace s.toList
  have back := List.length_dropWhile_le PythonText.isSpace (s.toList.dropWhile PythonText.isSpace).reverse
  rw [List.length_reverse] at back
  exact back.trans front

/-- A quoted default stands for less than the source reports. -/
theorem denotes_iff (stored : String → String) (kind : Kind) (raw : String) :
    (∃ literal, Reads (strip raw).toList literal ∧ Denotes stored kind raw (strip raw) literal) ↔
      Expressible stored kind raw := by
  unfold Expressible
  dsimp only
  constructor
  · rintro ⟨literal, reads, denotes⟩
    generalize same : (strip raw).toList = value at reads
    cases reads with
    | @text inner plain =>
      have short := length_strip_le raw
      rw [same, ← denotes, String.toList_ofList, List.length_cons, List.length_append, List.length_singleton] at short
      omega
    | numeral numeral => exact .inl ⟨numeral, denotes⟩
    | bytes bytes => exact .inr (.inl ⟨bytes, denotes⟩)
    | truth _ => exact absurd denotes id
    | null null => exact .inr (.inr (.inl ⟨null, denotes⟩))
    | now now => exact .inr (.inr (.inr ⟨now, denotes⟩))
  · rintro (⟨numeral, kept⟩ | ⟨bytes, kept⟩ | ⟨null, kept⟩ | ⟨now, kept⟩)
    · exact ⟨.numeral, .numeral numeral, kept⟩
    · exact ⟨.bytes, .bytes bytes, kept⟩
    · exact ⟨.null, .null null, kept⟩
    · exact ⟨.now, .now now, kept⟩

/-! ## The statement -/

/-- The columns as they are written. -/
def fragments (dialect : String) (columns : List ColumnSpec) : List String :=
  columns.map (fun c => (columnOf c).sql dialect)

/-- The name in front of a column. -/
def identifier (item : List Char) : List Char := (item.drop 1).takeWhile (· ≠ backtick)

/-- The item is one column with a name and the written clauses, and its default is that of the source. -/
structure ColumnFaithful (stored : String → String) (c : ColumnSpec) (item : List Char) : Prop where
  whole : Whole item
  clauses : clauseWords item = clauseWords (columnOf c).trailer.toList
  default : (columnOf c).autoIncrement = false → ∀ value, (columnOf c).default = " DEFAULT " ++ value →
    ∃ literal, Reads value.toList literal ∧
      Denotes stored (kindOf (columnOf c).type) (orElse c.default "") value literal
  name : identifier item ≠ []

/-- The statement has the columns as its first items and ends after the keys, and the columns are
what they should be. -/
structure DdlFaithful (stored : String → String) (qualified : String) (columns : List ColumnSpec) (dialect sql : String) :
    Prop where
  list : ∃ keys body options, sql = "CREATE TABLE " ++ qualified ++ " (" ++ body ∧
    readList .code 0 [] body.toList = some (onLines ((fragments dialect columns ++ keys).map String.toList), options.toList) ∧
    (options = " ENGINE=InnoDB DEFAULT CHARSET=utf8mb4" ∨ ∃ name, (∀ c ∈ name.toList, isSlugChar c) ∧
      options = " ENGINE=InnoDB DEFAULT CHARSET=utf8mb4" ++ " COLLATE=" ++ name)
  each : ∀ c ∈ columns, ColumnFaithful stored c ((columnOf c).sql dialect).toList
  names : ((fragments dialect columns).map (fun f => (identifier f.toList).map Char.toLower)).Nodup

/-- What the columns of the request have to be. -/
structure PlainColumns (stored : String → String) (columns : List ColumnSpec) : Prop where
  closed : ∀ c ∈ columns, (argsMode (typeText c.type)).isCode = true
  clauses : ∀ c ∈ columns, clauseWords (typeText c.type).toList = []
  defaults : ∀ c ∈ columns, (columnOf c).autoIncrement = false → defaultSql c.default ≠ "" →
    Expressible stored (kindOf (typeText c.type)) (orElse c.default "")
  named : ∀ c ∈ columns, quotedName (orElse c.name "") ≠ ""
  distinct : (columns.map (fun c => (quotedName (orElse c.name "")).toList.map Char.toLower)).Nodup

section
variable {dialect : String}

theorem identifier_sql (mysql : isMysql dialect) (c : ColumnDef) :
    identifier (c.sql dialect).toList = (quotedName c.name).toList := by
  have kept : ∀ d ∈ (quotedName c.name).toList, decide (d ≠ backtick) = true := by
    intro d mem
    rw [decide_eq_true_eq]
    rintro rfl
    exact (slug_plain (slug_quotedName c.name _ mem)).1 (by decide)
  have text : (c.sql dialect).toList.drop 1 =
      (quotedName c.name).toList ++ backtick :: ' ' :: (c.type.toList ++ c.trailer.toList) := by
    rw [c.sql_toList mysql]
    simp
  rw [identifier, text, List.takeWhile_append_of_pos kept, List.takeWhile_cons_of_neg (by simp), List.append_nil]

/-- One column, whatever else is in the table. -/
theorem columnFaithful_iff (stored : String → String) (mysql : isMysql dialect) {c : ColumnSpec} (valid : ValidType c.type) :
    ColumnFaithful stored c ((columnOf c).sql dialect).toList ↔
      (argsMode (typeText c.type)).isCode = true ∧ clauseWords (typeText c.type).toList = [] ∧
        ((columnOf c).autoIncrement = false → defaultSql c.default ≠ "" →
          Expressible stored (kindOf (typeText c.type)) (orElse c.default "")) ∧
        quotedName (orElse c.name "") ≠ "" := by
  have own : (columnOf c).default = defaultSql c.default := by rw [columnOf]
  have whole := whole_iff mysql (c := columnOf c) valid.2 own
  have named : identifier ((columnOf c).sql dialect).toList ≠ [] ↔ quotedName (orElse c.name "") ≠ "" := by
    rw [identifier_sql mysql, ne_eq, ne_eq, ← String.toList_eq_nil_iff]
    rfl
  have defaults : (∀ value, (columnOf c).default = " DEFAULT " ++ value → ∃ literal, Reads value.toList literal ∧
        Denotes stored (kindOf (columnOf c).type) (orElse c.default "") value literal) ↔
      (defaultSql c.default ≠ "" → Expressible stored (kindOf (typeText c.type)) (orElse c.default "")) := by
    rw [own]
    rcases defaultSql_cases c.default with none | ⟨written, -⟩
    · rw [none]
      simp
    · rw [written, ← denotes_iff]
      constructor
      · intro each _
        exact each _ rfl
      · intro expressible value same
        rw [← (String.append_right_inj _).mp same]
        exact expressible (by simp)
  have clauses : (argsMode (typeText c.type)).isCode = true →
      (clauseWords ((columnOf c).sql dialect).toList = clauseWords (columnOf c).trailer.toList ↔
        clauseWords (typeText c.type).toList = []) := by
    intro closed
    have split : clauseWords ((columnOf c).sql dialect).toList =
        clauseWords (typeText c.type).toList ++ clauseWords (columnOf c).trailer.toList :=
      clauseWords_sql (c := columnOf c) mysql valid.2 closed
    rw [split, List.append_left_eq_self]
  constructor
  · intro faithful
    have closed := whole.mp faithful.whole
    refine ⟨closed, (clauses closed).mp faithful.clauses, ?_, named.mp faithful.name⟩
    intro plain
    have each := faithful.default plain
    rw [← defaults]
    exact each
  · rintro ⟨closed, single, expressible, some_name⟩
    refine ⟨whole.mpr closed, (clauses closed).mpr single, ?_, named.mpr some_name⟩
    intro plain
    exact defaults.mpr (expressible plain)

/-- A statement whose columns are items of their own ends after its keys. -/
theorem list_of_whole (mysql : isMysql dialect) (qualified : String) (d : TableDef)
    (whole : ∀ c ∈ d.columns, Whole (c.sql dialect).toList) :
    ∃ keys body, d.sql dialect qualified = "CREATE TABLE " ++ qualified ++ " (" ++ body ∧
      readList .code 0 [] body.toList =
        some (onLines ((d.columns.map (ColumnDef.sql dialect) ++ keys).map String.toList), d.options.toList) := by
  let keys := (if d.primary = [] then [] else [primarySql dialect d.primary]) ++ d.keys.map (KeyDef.sql dialect)
  let items := (d.columns.map (ColumnDef.sql dialect) ++ keys).map String.toList
  have each : ∀ item ∈ items, Whole item := by
    intro item mem
    obtain ⟨s, listed, rfl⟩ := List.mem_map.mp mem
    rcases List.mem_append.mp listed with column | key
    · obtain ⟨c, inside, rfl⟩ := List.mem_map.mp column
      exact whole c inside
    · rcases List.mem_append.mp key with primary | key
      · split_ifs at primary
        · cases primary
        · obtain rfl := List.mem_singleton.mp primary
          exact whole_primary mysql d.primary
      · obtain ⟨k, -, rfl⟩ := List.mem_map.mp key
        exact whole_key mysql k
  have some_item : onLines items ≠ [] := by
    cases items with
    | nil => simp [onLines]
    | cons item rest => cases rest <;> simp [onLines]
  have behind : (",\n  ".intercalate (d.columns.map (ColumnDef.sql dialect) ++ keys)).toList = ",\n  ".toList.intercalate items :=
    String.toList_intercalate
  have listed : ("\n  " ++ ",\n  ".intercalate (d.columns.map (ColumnDef.sql dialect) ++ keys) ++ "\n)" ++ d.options).toList =
      joined (onLines items) ++ ')' :: d.options.toList := by
    have last : "\n)".toList = "\n".toList ++ [')'] := rfl
    rw [joined_onLines, String.toList_append, String.toList_append, String.toList_append, behind, last, List.append_assoc,
      List.append_assoc, List.append_assoc, List.append_assoc, List.append_assoc, List.singleton_append]
  refine ⟨keys, "\n  " ++ ",\n  ".intercalate (d.columns.map (ColumnDef.sql dialect) ++ keys) ++ "\n)" ++ d.options, ?_, ?_⟩
  · have opening : " (\n  " = " (" ++ "\n  " := rfl
    unfold TableDef.sql
    simp only [toString_eq, opening, keys, String.append_assoc, List.append_assoc]
  · rw [listed]
    exact (readList_joined_iff some_item _).mpr (whole_onLines each)

end

/-- A key and a number. -/
def gradeColumns : List ColumnSpec :=
  [⟨some "id", some "bigint(10)", false, some "auto_increment", none⟩,
    ⟨some "grade", some "decimal(10,2)", true, none, some "0"⟩]

def gradeTable : String :=
  "CREATE TABLE `grades` (\n  `id` bigint(10) NOT NULL AUTO_INCREMENT,\n  `grade` decimal(10,2) NULL DEFAULT 0,\n  PRIMARY KEY (`id`)\n) ENGINE=InnoDB DEFAULT CHARSET=utf8mb4"

theorem active_unread (literal : Literal) : ¬Reads "active".toList literal := by
  intro reads
  have none : isNumeral "active".toList = false ∧ isBytes "active".toList = false ∧ isKeyword "true" "active".toList = false ∧
      isKeyword "false" "active".toList = false ∧ isKeyword "null" "active".toList = false ∧
      isNow "active".toList = false := by decide +kernel
  have letter : "active".toList.head? ≠ some apostrophe := by decide
  generalize "active".toList = value at reads none letter
  cases reads with
  | text _ => exact letter rfl
  | numeral numeral => simp [numeral] at none
  | bytes bytes => simp [bytes] at none
  | truth truth => rcases truth with yes | no <;> simp_all
  | null null => simp [null] at none
  | now now => simp [now] at none

def statusColumn : ColumnSpec := ⟨some "status", some "varchar(20)", false, none, some "active"⟩

def statusTable : String :=
  "CREATE TABLE `t` (\n  `status` varchar(20) NOT NULL DEFAULT active\n) ENGINE=InnoDB DEFAULT CHARSET=utf8mb4"

end XpBuilder.TableSchema
