import Mathlib.Data.Rat.Defs
import XpBuilder.Library.Dict

/-! `_json_safe`, which every value of a result passes before it is shown. It asks for the type of a
value in a fixed order of overlapping types, and looks into lists, tuples and arrays. -/

namespace XpBuilder.JsonSafe

/-- A number as floats and decimals have it. -/
inductive Number where
  | finite (q : ℚ)
  | nan
  | infinite (negative : Bool)
  deriving DecidableEq, Repr

def Number.isFinite : Number → Bool
  | .finite _ => true
  | _ => false

/-- The values that a result can be built from; those of timestamps and dates are given by their ISO
texts, a dictionary by its keys and its values. A numpy float may be one of Python as well. -/
inductive PyValue where
  | none
  | flag (b : Bool)
  | int (i : Int)
  | float (x : Number)
  | decimal (x : Number)
  | text (s : String)
  | npInteger (i : Int)
  | npFloating (double : Bool) (x : Number)
  | npBool (b : Bool)
  | npStr (s : String)
  | npDatetime (iso : Option String)
  | timestamp (iso : String)
  | datetime (iso : String)
  | date (iso : String)
  | naT
  | nA
  | list (items : List PyValue)
  | tuple (items : List PyValue)
  | ndarray (items : List PyValue)
  | dict (keys : List String) (values : List PyValue)

namespace PyValue

/-! ## The tests -/

inductive PyType where
  | integer | floating | bool_ | ndarray | list | tuple | timestamp | datetime | date | float
  deriving DecidableEq, Repr

/-- Those of the tested types that a value is an instance of. -/
def types : PyValue → List PyType
  | none => []
  | flag _ => []
  | int _ => []
  | float _ => [.float]
  | decimal _ => []
  | text _ => []
  | npInteger _ => [.integer]
  | npFloating double _ => if double then [.floating, .float] else [.floating]
  | npBool _ => [.bool_]
  | npStr _ => []
  | npDatetime _ => []
  | timestamp _ => [.timestamp, .datetime, .date]
  | datetime _ => [.datetime, .date]
  | date _ => [.date]
  | naT => [.datetime, .date]
  | nA => []
  | list _ => [.list]
  | tuple _ => [.tuple]
  | ndarray _ => [.ndarray]
  | dict _ _ => []

/-- `isinstance(value, classes)` -/
def isInstance (v : PyValue) (classes : List PyType) : Bool := v.types.any (· ∈ classes)

/-- `math.isnan(value) or math.isinf(value)` -/
def isNanOrInf : PyValue → Bool
  | float x => !x.isFinite
  | npFloating _ x => !x.isFinite
  | _ => false

/-- `int(value)`, `float(value)` and `bool(value)` of a numpy scalar -/
def toPython : PyValue → PyValue
  | npInteger i => int i
  | npFloating _ x => float x
  | npBool b => flag b
  | v => v

/-- `value.isoformat()` -/
def isoformat : PyValue → String
  | timestamp iso => iso
  | datetime iso => iso
  | date iso => iso
  | naT => "NaT"
  | _ => ""

def isNone : PyValue → Bool
  | none => true
  | _ => false

def isNA : PyValue → Bool
  | nA => true
  | _ => false

/-- The tests of `_json_safe` in their order, with the items of the value when they are done. -/
def branch (v : PyValue) (items : List PyValue) : PyValue :=
  if v.isNone then none
  else if v.isInstance [.integer] then v.toPython
  else if v.isInstance [.floating] then (if v.isNanOrInf then none else v.toPython)
  else if v.isInstance [.bool_] then v.toPython
  else if v.isInstance [.ndarray, .list, .tuple] then list items
  else if v.isInstance [.timestamp, .datetime, .date] then text v.isoformat
  else if v.isNA || (v.isInstance [.float] && v.isNanOrInf) then none
  else v

mutual

/-- `_json_safe` -/
def jsonSafe : PyValue → PyValue
  | list items => branch (list items) (jsonSafeAll items)
  | tuple items => branch (tuple items) (jsonSafeAll items)
  | ndarray items => branch (ndarray items) (jsonSafeAll items)
  | v => branch v []

def jsonSafeAll : List PyValue → List PyValue
  | [] => []
  | v :: vs => jsonSafe v :: jsonSafeAll vs

end

/-! ## What it should do -/

mutual

/-- The value without the types that only numpy tells apart, and with lists for all sequences. -/
def plain : PyValue → PyValue
  | npInteger i => int i
  | npFloating _ x => float x
  | npBool b => flag b
  | npStr s => text s
  | list items => list (plainAll items)
  | tuple items => list (plainAll items)
  | ndarray items => list (plainAll items)
  | dict keys values => dict keys (plainAll values)
  | v => v

def plainAll : List PyValue → List PyValue
  | [] => []
  | v :: vs => plain v :: plainAll vs

end

mutual

/-- The value with `None` for what is missing or not finite and with ISO texts, at any depth. -/
def cleaned : PyValue → PyValue
  | none => none
  | flag b => flag b
  | int i => int i
  | float x => if x.isFinite then float x else none
  | decimal x => if x.isFinite then decimal x else none
  | text s => text s
  | npInteger i => int i
  | npFloating _ x => if x.isFinite then float x else none
  | npBool b => flag b
  | npStr s => text s
  | npDatetime iso => (iso.map text).getD none
  | timestamp iso => text iso
  | datetime iso => text iso
  | date iso => text iso
  | naT => none
  | nA => none
  | list items => list (cleanedAll items)
  | tuple items => list (cleanedAll items)
  | ndarray items => list (cleanedAll items)
  | dict keys values => dict keys (cleanedAll values)

def cleanedAll : List PyValue → List PyValue
  | [] => []
  | v :: vs => cleaned v :: cleanedAll vs

end

/-! ## Values that are treated right -/

mutual

/-- Nothing in the value is missing, not finite or a point in time, except `None`. -/
def Settled : PyValue → Prop
  | float x => x.isFinite = true
  | decimal x => x.isFinite = true
  | npFloating _ x => x.isFinite = true
  | npDatetime _ => False
  | timestamp _ => False
  | datetime _ => False
  | date _ => False
  | naT => False
  | nA => False
  | list items => AllSettled items
  | tuple items => AllSettled items
  | ndarray items => AllSettled items
  | dict _ values => AllSettled values
  | _ => True

def AllSettled : List PyValue → Prop
  | [] => True
  | v :: vs => Settled v ∧ AllSettled vs

end

mutual

/-- No `NaT`, no numpy time and no decimal that is not finite is in the value, and a dictionary has
nothing that would have to change. -/
def Handled : PyValue → Prop
  | decimal x => x.isFinite = true
  | npDatetime _ => False
  | naT => False
  | list items => AllHandled items
  | tuple items => AllHandled items
  | ndarray items => AllHandled items
  | dict _ values => AllSettled values
  | _ => True

def AllHandled : List PyValue → Prop
  | [] => True
  | v :: vs => Handled v ∧ AllHandled vs

end

mutual

theorem plain_eq_cleaned_iff : ∀ v : PyValue, v.plain = v.cleaned ↔ v.Settled
  | none | flag _ | int _ | text _ | npInteger _ | npBool _ | npStr _ => iff_of_true rfl trivial
  | float x | decimal x | npFloating _ x => by
    cases finite : x.isFinite with
    | true => simp [plain, cleaned, Settled, finite]
    | false => simp [plain, cleaned, Settled, finite]
  | npDatetime iso => by
    cases iso with
    | none => simp [plain, cleaned, Settled]
    | some iso => simp [plain, cleaned, Settled]
  | timestamp _ | datetime _ | date _ | naT | nA => by simp [plain, cleaned, Settled]
  | list items | tuple items | ndarray items => by
    rw [plain, cleaned, Settled, list.injEq, plainAll_eq_cleanedAll_iff items]
  | dict keys values => by
    rw [plain, cleaned, Settled, dict.injEq, plainAll_eq_cleanedAll_iff values]
    simp

theorem plainAll_eq_cleanedAll_iff : ∀ vs : List PyValue, plainAll vs = cleanedAll vs ↔ AllSettled vs
  | [] => iff_of_true rfl trivial
  | v :: vs => by
    rw [plainAll, cleanedAll, AllSettled, List.cons.injEq, plain_eq_cleaned_iff v, plainAll_eq_cleanedAll_iff vs]

end

/-! ## The branches -/

theorem branch_npFloating (double : Bool) (x : Number) :
    branch (npFloating double x) [] = if x.isFinite then float x else none := by
  cases double <;> cases finite : x.isFinite <;>
    simp [branch, isNone, isInstance, types, isNanOrInf, toPython, finite]

theorem branch_float (x : Number) : branch (float x) [] = if x.isFinite then float x else none := by
  cases finite : x.isFinite <;> simp [branch, isNone, isInstance, types, isNanOrInf, isNA, finite]

/-- A sequence of any kind becomes the list of its items. -/
theorem branch_sequence {v : PyValue} {items done : List PyValue}
    (sequence : v = list items ∨ v = tuple items ∨ v = ndarray items) : branch v done = list done := by
  rcases sequence with rfl | rfl | rfl <;> simp [branch, isNone, isInstance, types]

mutual

/-- `_json_safe` does what it should to the values that have nothing it overlooks. -/
theorem plain_jsonSafe_eq_iff : ∀ v : PyValue, v.jsonSafe.plain = v.cleaned ↔ v.Handled
  | none | flag _ | int _ | text _ | npInteger _ | npBool _ | npStr _ => iff_of_true rfl trivial
  | timestamp _ | datetime _ | date _ | nA => iff_of_true rfl trivial
  | float x => by
    have done : (float x).jsonSafe = if x.isFinite then float x else none := branch_float x
    refine iff_of_true ?_ trivial
    rw [done, cleaned]
    cases x.isFinite <;> rfl
  | npFloating double x => by
    have done : (npFloating double x).jsonSafe = if x.isFinite then float x else none := branch_npFloating double x
    refine iff_of_true ?_ trivial
    rw [done, cleaned]
    cases x.isFinite <;> rfl
  | decimal x => plain_eq_cleaned_iff (decimal x)
  | npDatetime iso => plain_eq_cleaned_iff (npDatetime iso)
  | naT => by simp [jsonSafe, branch, isNone, isInstance, types, isoformat, plain, cleaned, Handled]
  | list items => by
    rw [jsonSafe, branch_sequence (.inl rfl), plain, cleaned, Handled, list.injEq,
      plainAll_jsonSafeAll_eq_iff items]
  | tuple items => by
    rw [jsonSafe, branch_sequence (.inr (.inl rfl)), plain, cleaned, Handled, list.injEq,
      plainAll_jsonSafeAll_eq_iff items]
  | ndarray items => by
    rw [jsonSafe, branch_sequence (.inr (.inr rfl)), plain, cleaned, Handled, list.injEq,
      plainAll_jsonSafeAll_eq_iff items]
  | dict keys values => plain_eq_cleaned_iff (dict keys values)

theorem plainAll_jsonSafeAll_eq_iff : ∀ vs : List PyValue,
    plainAll (jsonSafeAll vs) = cleanedAll vs ↔ AllHandled vs
  | [] => iff_of_true rfl trivial
  | v :: vs => by
    rw [jsonSafeAll, plainAll, cleanedAll, AllHandled, List.cons.injEq, plain_jsonSafe_eq_iff v,
      plainAll_jsonSafeAll_eq_iff vs]

end

/-- What `_json_safe` makes of the value is the value with `None` for each missing marker and each number that is
not finite, and with the ISO text of each time. -/
def Cleans (v : PyValue) : Prop := v.jsonSafe.plain = v.cleaned

theorem cleans_iff (v : PyValue) : v.Cleans ↔ v.Handled := plain_jsonSafe_eq_iff v

/-- `NaT` is a datetime, dictionaries are not looked into, and a decimal is no float. -/
theorem overlooked_not_cleaned :
    ¬naT.Cleans ∧ ¬(dict ["a"] [float .nan]).Cleans ∧ ¬(decimal .nan).Cleans := by
  have naT_text : naT.jsonSafe.plain = text "NaT" := rfl
  have dict_kept : (dict ["a"] [float .nan]).jsonSafe.plain = dict ["a"] [float .nan] := rfl
  have decimal_kept : (decimal .nan).jsonSafe.plain = decimal .nan := rfl
  simp only [Cleans, naT_text, dict_kept, decimal_kept, cleaned, cleanedAll, Number.isFinite]
  simp

end PyValue

/-! ## Rows -/

/-- `_json_safe_row` -/
def jsonSafeRow (row : Dict String PyValue) : Dict String PyValue := row.mapValues (fun _ v => v.jsonSafe)

/-- A row keeps its names, and all of its values are cleaned exactly where each is treated right. -/
theorem cleansRow_iff (row : Dict String PyValue) :
    (∀ name v, row.get name = some v → ∃ w, (jsonSafeRow row).get name = some w ∧ w.plain = v.cleaned) ↔
      ∀ name v, row.get name = some v → v.Handled := by
  apply forall₃_congr
  intro name v found
  have done : (jsonSafeRow row).get name = some v.jsonSafe := by
    rw [jsonSafeRow, Dict.get_mapValues, found, Option.map_some]
  rw [← PyValue.plain_jsonSafe_eq_iff, done]
  simp

end XpBuilder.JsonSafe
