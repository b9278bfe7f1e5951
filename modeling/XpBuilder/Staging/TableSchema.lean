import Mathlib.Algebra.GroupWithZero.Nat
import Mathlib.Data.List.Sort
import Mathlib.Data.Prod.Lex
import Mathlib.Data.List.Lex
import Mathlib.Data.String.Basic
import XpBuilder.PythonText

/-! The definition of a staging table: column types and defaults checked against
what may be inlined, key prefixes fitted to the byte budget, and the body of the
CREATE TABLE statement with its index warnings. -/

namespace XpBuilder

/-- A column as the plugin sends it. `nullable` is the truth value of its entry,
`True` when there is none. -/
structure ColumnSpec where
  name : Option String
  type : Option String
  nullable : Bool
  extra : Option String
  default : Option String
  deriving DecidableEq, Repr

structure IndexSpec where
  name : Option String
  primary : Bool
  unique : Bool
  columns : List String
  prefixes : List (String × Int)
  deriving DecidableEq, Repr

/-- The shape of a table: columns with type text and nullability, the primary key
and the indexes with their uniqueness and columns, sorted. -/
@[ext] structure Signature where
  columns : List (String × String × Bool)
  primary : List String
  indexes : List (String × Bool × List String)
  deriving DecidableEq, Repr

namespace TableSchema
open PythonText (orElse truthy strip lower isSlugChar)

/-! ## Identifiers and literals -/

/-- `re.sub(r"[^a-z0-9_]", "_", value.lower())` -/
def cleanName (value : String) : String :=
  String.ofList ((lower value).toList.map (fun c =>
    if isSlugChar c && !('A' ≤ c && c ≤ 'Z') then c else '_'))

def isMysql (dialect : String) : Bool := dialect = "mysql" || dialect = "mariadb"

/-- The identifier that `_quote` puts between the quotes. -/
def quotedName (identifier : String) : String :=
  String.ofList (identifier.toList.filter isSlugChar)

/-- `_quote` -/
def quote (identifier dialect : String) : String :=
  let clean := quotedName identifier
  if isMysql dialect then "`" ++ clean ++ "`" else "\"" ++ clean ++ "\""

/-- The ASCII letter that a character equals under `re.IGNORECASE`. -/
def foldCase (c : Char) : Char :=
  match c.toNat with
  | 0x130 => 'i'
  | 0x131 => 'i'
  | 0x17f => 's'
  | 0x212a => 'k'
  | _ => c.toLower

def isLower (c : Char) : Bool := 'a' ≤ c && c ≤ 'z'

def isAsciiDigit (c : Char) : Bool := '0' ≤ c && c ≤ '9'

/-- The zeros of the decimal digits that `\d` matches. -/
def digitZeros : List Nat :=
  [0x30, 0x660, 0x6f0, 0x7c0, 0x966, 0x9e6, 0xa66, 0xae6, 0xb66, 0xbe6, 0xc66, 0xce6, 0xd66, 0xde6,
    0xe50, 0xed0, 0xf20, 0x1040, 0x1090, 0x17e0, 0x1810, 0x1946, 0x19d0, 0x1a80, 0x1a90, 0x1b50,
    0x1bb0, 0x1c40, 0x1c50, 0xa620, 0xa8d0, 0xa900, 0xa9d0, 0xa9f0, 0xaa50, 0xabf0, 0xff10, 0x104a0,
    0x10d30, 0x11066, 0x110f0, 0x11136, 0x111d0, 0x112f0, 0x11450, 0x114d0, 0x11650, 0x116c0,
    0x11730, 0x118e0, 0x11950, 0x11c50, 0x11d50, 0x11da0, 0x11f50, 0x16a60, 0x16ac0, 0x16b50,
    0x1d7ce, 0x1d7d8, 0x1d7e2, 0x1d7ec, 0x1d7f6, 0x1e140, 0x1e2f0, 0x1e4f0, 0x1e950, 0x1fbf0]

def isDecimal (c : Char) : Bool := digitZeros.any (fun z => z ≤ c.toNat && c.toNat < z + 10)

def isTypeChar (c : Char) : Bool := isLower c || isAsciiDigit c || c == '_' || c == ' '

/-- What may stand between the parentheses of a type. -/
def isTypeArgChar (c : Char) : Bool :=
  isLower c || isAsciiDigit c || ['_', ',', '\'', '"', ' ', '-'].contains c

/-- `TYPE_RE` on a stripped value: a base type, then perhaps one parenthesis of at
most 255 characters with `unsigned` and `zerofill` after it. -/
def matchesType (value : String) : Bool :=
  let cs := value.toList.map foldCase
  let rest := cs.dropWhile isTypeChar
  (match cs with
    | [] => false
    | c :: _ => isLower c) &&
  match rest with
  | [] => true
  | '(' :: inner =>
    let tail := inner.dropWhile isTypeArgChar
    (inner.takeWhile isTypeArgChar).length ≤ 255 &&
      [")", ") unsigned", ") zerofill", ") unsigned zerofill"].contains (String.ofList tail)
  | _ => false

/-- The type text that `_type_sql` looks at. -/
def typeText (raw : Option String) : String := strip (orElse raw "")

def ValidType (raw : Option String) : Prop := typeText raw ≠ "" ∧ matchesType (typeText raw)

/-- `_type_sql`; the message shows the value without the quotes of its `repr`. -/
def typeSql (raw : Option String) : Except String String :=
  let value := typeText raw
  if value = "" ∨ matchesType value = false then
    throw ("unsupported column type: " ++ PythonText.clip 60 value)
  else pure value

/-- `EXPRESSION_DEFAULT_RE` -/
def matchesExpressionDefault (value : String) : Bool :=
  let name := "current_timestamp".toList
  let cs := value.toList
  (cs.take name.length).map foldCase = name &&
  match cs.drop name.length with
  | [] => true
  | ['(', ')'] => true
  | ['(', d, ')'] => isDecimal d
  | _ => false

/-- `DEFAULT_RE` -/
def matchesDefault (value : String) : Bool :=
  let cs := value.toList
  let bare := cs.all (fun c => isSlugChar c || ['.', ':', '+', '-'].contains c)
  (bare && 1 ≤ cs.length && cs.length ≤ 80) ||
  match cs with
  | '\'' :: inner =>
    inner.getLast? = some '\'' && inner.length ≤ 101 &&
      inner.dropLast.all (fun c => c ≠ '\'' && c ≠ '\\')
  | _ => false

/-- `_default_sql` -/
def defaultSql (raw : Option String) : String :=
  let value := strip (orElse raw "")
  if value ≠ "" ∧ (matchesExpressionDefault value ∨ matchesDefault value) then " DEFAULT " ++ value
  else ""

def isSubtext (part : List Char) : List Char → Bool
  | [] => part.isEmpty
  | c :: rest => part.isPrefixOf (c :: rest) || isSubtext part rest

/-- `part in value` -/
def contains (value part : String) : Bool := isSubtext part.toList value.toList

/-- One column of a CREATE TABLE, with the name that is still to be quoted. -/
structure ColumnDef where
  name : String
  type : String
  autoIncrement : Bool
  nullable : Bool
  default : String
  deriving DecidableEq, Repr

def ColumnDef.sql (dialect : String) (c : ColumnDef) : String :=
  let sql := quote c.name dialect ++ " " ++ c.type
  if c.autoIncrement then sql ++ " NOT NULL AUTO_INCREMENT"
  else sql ++ (if c.nullable then " NULL" else " NOT NULL") ++ c.default

/-- What `_column_sql` writes down, before it is text. -/
def columnDef (column : ColumnSpec) : Except String ColumnDef := do
  let type ← typeSql column.type
  pure ⟨orElse column.name "", type, contains (lower (orElse column.extra "")) "auto_increment",
    column.nullable, defaultSql column.default⟩

/-- `_column_sql` -/
def columnSql (column : ColumnSpec) (dialect : String) : Except String String :=
  (columnDef column).map (ColumnDef.sql dialect)

/-- `_table_options` -/
def tableOptions (collation : Option String) : String :=
  let options := " ENGINE=InnoDB DEFAULT CHARSET=utf8mb4"
  let name := strip (orElse collation "")
  let safe := name.toList.all isSlugChar && 1 ≤ name.length && name.length ≤ 64
  if "utf8mb4_".toList.isPrefixOf name.toList && !contains name "_0900_" && safe then
    options ++ " COLLATE=" ++ name
  else options

/-! ## Keys -/

def maxKeyBytes : Nat := 3072
def charsetBytes : Nat := 4
def textPrefixChars : Nat := 191
def minPrefixChars : Nat := 32

def textualTypes : List String :=
  ["tinytext", "text", "mediumtext", "longtext", "blob", "tinyblob", "mediumblob", "longblob", "json"]

/-- `_base_type` -/
def baseType (type : String) : String :=
  String.ofList ((lower (strip type)).toList.takeWhile (fun c =>
    !(PythonText.isSpace c || c == '(')))

/-- The number in front of the closing parenthesis of a length, for `LENGTH_RE`. -/
def digitsValue (cs : List Char) : Nat := cs.foldl (fun n c => 10 * n + (c.toNat - '0'.toNat)) 0

/-- The second number of a length: a comma, blanks and digits. -/
def isScale (cs : List Char) : Bool :=
  match cs with
  | ',' :: rest =>
    let digits := rest.dropWhile PythonText.isSpace
    !digits.isEmpty && digits.all isAsciiDigit
  | _ => false

/-- The first number of `LENGTH_RE`, on ASCII digits. -/
def declaredLength (type : String) : Option Nat :=
  let cs := (strip type).toList
  match cs.dropWhile (fun c => isLower (foldCase c)) with
  | '(' :: inner =>
    let digits := inner.takeWhile isAsciiDigit
    let rest := inner.dropWhile isAsciiDigit
    let scale := rest.takeWhile (· ≠ ')')
    if (cs.takeWhile (fun c => isLower (foldCase c))).isEmpty || digits.isEmpty ||
        !rest.contains ')' || !(scale.isEmpty || isScale scale) then none
    else some (digitsValue digits)
  | _ => none

/-- `_key_chars`; `none` for a type that can only be keyed through a prefix. -/
def keyChars (type : String) : Option Nat :=
  let base := baseType type
  if base ∈ textualTypes then none
  else if base ∈ ["char", "varchar", "binary", "varbinary"] then
    some ((declaredLength type).getD 255)
  else if base ∈ ["enum", "set"] then some 64
  else some 8

structure PlanPart where
  column : String
  prefixChars : Option Nat
  bytes : Nat
  deriving DecidableEq, Repr

/-- The loop of `_fit_key_prefixes` with what is still over the budget. -/
def shrinkParts : Int → List PlanPart → List PlanPart × Bool
  | _, [] => ([], false)
  | overflow, part :: rest =>
    if overflow ≤ 0 then (part :: rest, false)
    else
      match part.prefixChars with
      | none =>
        let (parts, changed) := shrinkParts overflow rest
        (part :: parts, changed)
      | some p =>
        let room := p - minPrefixChars
        let need := min room ((overflow.toNat + charsetBytes - 1) / charsetBytes)
        if need = 0 then
          let (parts, changed) := shrinkParts overflow rest
          (part :: parts, changed)
        else
          let shrunk := (p - need) * charsetBytes
          let (parts, _) := shrinkParts (overflow - ((part.bytes : Int) - shrunk)) rest
          ({ part with prefixChars := some (p - need), bytes := shrunk } :: parts, true)

def planBytes (plan : List PlanPart) : Nat := (plan.map PlanPart.bytes).sum

/-- `_fit_key_prefixes` -/
def fitKeyPrefixes (plan : List PlanPart) : List PlanPart × Bool :=
  shrinkParts ((planBytes plan : Int) - maxKeyBytes) plan

/-- The last entry of a list of pairs under a key, as a dictionary holds it. -/
def lastValue {α : Type} (key : String) (entries : List (String × α)) : Option α :=
  (entries.reverse.find? (fun e => e.1 = key)).map Prod.snd

def planPart (coltypes : List (String × String)) (prefixes : List (String × Int)) (name : String) :
    PlanPart :=
  let asked := (lastValue name (prefixes.filter (fun e => 0 < e.2))).map Int.toNat
  match (lastValue name coltypes).bind keyChars with
  | none =>
    let p := asked.getD textPrefixChars
    ⟨name, some p, p * charsetBytes⟩
  | some chars =>
    match asked with
    | some p => ⟨name, some p, p * charsetBytes⟩
    | none => ⟨name, none, chars * charsetBytes⟩

/-- A column of a key, with the number of characters keyed when not all are. -/
structure KeyPart where
  column : String
  prefixChars : Option Nat
  deriving DecidableEq, Repr

structure KeyDef where
  label : String
  unique : Bool
  parts : List KeyPart
  deriving DecidableEq, Repr

def KeyPart.sql (dialect : String) (part : KeyPart) : String :=
  quote part.column dialect ++ (match part.prefixChars with
    | some p => s!"({p})"
    | none => "")

def KeyDef.sql (dialect : String) (key : KeyDef) : String :=
  let keyword := if key.unique then "UNIQUE KEY" else "KEY"
  let quoted := quote key.label dialect
  let columnlist := ", ".intercalate (key.parts.map (KeyPart.sql dialect))
  s!"{keyword} {quoted} ({columnlist})"

/-- The part that ends up in the key; a prefix of no characters is none. -/
def PlanPart.part (p : PlanPart) : KeyPart := ⟨p.column, p.prefixChars.filter (· ≠ 0)⟩

def PlanPart.prefixed (p : PlanPart) : Bool := p.part.prefixChars.isSome

/-- The columns of an index that the table has. -/
def knownColumns (spec : IndexSpec) (coltypes : List (String × String)) : List String :=
  spec.columns.filter (fun n => n ∈ coltypes.map Prod.fst)

/-- What `index_definition` writes down, before it is text, and the warning. -/
def keyDef (spec : IndexSpec) (coltypes : List (String × String)) : Option KeyDef × String :=
  match knownColumns spec coltypes with
  | [] => (none, "")
  | first :: rest =>
    let label := orElse spec.name first
    let (plan, shortened) := fitKeyPrefixes ((first :: rest).map (planPart coltypes spec.prefixes))
    let warning := if shortened then
      s!"index {label}: shortened to fit the {maxKeyBytes}-byte key limit" else ""
    if maxKeyBytes < planBytes plan then
      (none, s!"index {label}: skipped, its columns exceed the {maxKeyBytes}-byte key limit")
    else
      let prefixed := plan.any PlanPart.prefixed
      let note := s!"index {label}: created non-unique (a key prefix cannot enforce uniqueness)"
      (some ⟨label, spec.unique && !prefixed, plan.map PlanPart.part⟩,
        if spec.unique && prefixed then (if warning = "" then note else warning ++ "; " ++ note)
        else warning)

/-- `index_definition`: the fragment and the warning, each perhaps empty. -/
def indexDefinition (spec : IndexSpec) (coltypes : List (String × String)) (dialect : String) :
    String × String :=
  let (key, warning) := keyDef spec coltypes
  ((key.map (KeyDef.sql dialect)).getD "", warning)

/-! ## The statement -/

/-- `str(value)` of an entry that may be missing. -/
def pyStr (value : Option String) : String := value.getD "None"

/-- A CREATE TABLE after its name; `options` is the text after the last parenthesis. -/
structure TableDef where
  columns : List ColumnDef
  primary : List String
  keys : List KeyDef
  options : String
  deriving DecidableEq, Repr

def primarySql (dialect : String) (columns : List String) : String :=
  let columnlist := ", ".intercalate (columns.map (fun n => quote n dialect))
  s!"PRIMARY KEY ({columnlist})"

def TableDef.sql (dialect qualified : String) (d : TableDef) : String :=
  let keys := if d.primary = [] then [] else [primarySql dialect d.primary]
  let body := ",\n  ".intercalate
    (d.columns.map (ColumnDef.sql dialect) ++ keys ++ d.keys.map (KeyDef.sql dialect))
  s!"CREATE TABLE {qualified} (\n  {body}\n)" ++ d.options

/-- The column types under the names of the columns. -/
def specTypes (columns : List ColumnSpec) : List (String × String) :=
  columns.map (fun c => (pyStr c.name, pyStr c.type))

/-- What `_ddl` writes down, before it is text, and the warnings. -/
def tableDef (columns : List ColumnSpec) (primary : List String) (indexlist : List IndexSpec)
    (createIndexes : Bool) (collation : Option String) : Except String (TableDef × List String) := do
  let definitions ← columns.mapM columnDef
  let coltypes := specTypes columns
  let secondary := if createIndexes then
    (indexlist.filter (fun spec => !spec.primary)).map (fun spec => keyDef spec coltypes) else []
  pure (⟨definitions, primary.filter (fun n => n ∈ coltypes.map Prod.fst),
    secondary.filterMap Prod.fst, tableOptions collation⟩,
    (secondary.map Prod.snd).filter (· ≠ ""))

/-- `_ddl` -/
def ddl (qualified : String) (columns : List ColumnSpec) (primary : List String)
    (indexlist : List IndexSpec) (dialect : String) (createIndexes : Bool)
    (collation : Option String) : Except String (String × List String) :=
  (tableDef columns primary indexlist createIndexes collation).map
    (fun d => (d.1.sql dialect qualified, d.2))

/-- The order of `sorted` on tuples. -/
def indexKey (i : String × Bool × List String) : String ×ₗ Bool ×ₗ List String :=
  toLex (i.1, toLex (i.2.1, i.2.2))

/-- `sorted(indexes)` -/
def sortIndexes (indexes : List (String × Bool × List String)) :
    List (String × Bool × List String) :=
  indexes.insertionSort (fun a b => indexKey a ≤ indexKey b)

/-- `str(type).lower().replace(" ", "")` -/
def plainType (type : String) : String :=
  String.ofList ((lower type).toList.filter (· ≠ ' '))

/-- `_wanted_signature` -/
def wantedSignature (columns : List ColumnSpec) (primary : List String) (indexes : List IndexSpec) :
    Except String Signature := do
  let wanted ← columns.mapM (fun c => do
    let type ← typeSql c.type
    pure (pyStr c.name, plainType type, c.nullable))
  pure ⟨wanted, primary, sortIndexes (indexes.map (fun i => (pyStr i.name, i.unique, i.columns)))⟩

end TableSchema
end XpBuilder
