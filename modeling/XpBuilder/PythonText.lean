import Mathlib.Data.String.Basic

/-! The Python text operations the code relies on: truthiness of optional
strings, `strip`, case mapping and the `re.sub` of a run of unsafe characters.
Case mapping is exact on ASCII and on the few other characters whose image is
ASCII; every other character keeps out of the identifiers compared below. -/

namespace XpBuilder.PythonText

/-- `value or fallback` on an optional string: both `None` and `""` are false. -/
def orElse (value : Option String) (fallback : String) : String :=
  match value with
  | none => fallback
  | some s => if s = "" then fallback else s

/-- The truthy content of an optional string. -/
def truthy (value : Option String) : Option String := value.filter (fun s => s ≠ "")

/-- The truthy content of an optional integer key: `0` is false. -/
def truthyId (value : Option Nat) : Option Nat := value.filter (fun n => n ≠ 0)

def isSpace (c : Char) : Bool :=
  let n := c.toNat
  (9 ≤ n && n ≤ 13) || (28 ≤ n && n ≤ 32) || n == 0x85 || n == 0xa0 || n == 0x1680 ||
    (0x2000 ≤ n && n ≤ 0x200a) || n == 0x2028 || n == 0x2029 || n == 0x202f ||
    n == 0x205f || n == 0x3000

def stripChars (p : Char → Bool) (cs : List Char) : List Char :=
  ((cs.dropWhile p).reverse.dropWhile p).reverse

/-- `value.strip()` -/
def strip (s : String) : String := String.ofList (stripChars isSpace s.toList)

def upperChar (c : Char) : List Char :=
  match c.toNat with
  | 0x131 => ['I']
  | 0x17f => ['S']
  | 0xfb05 => ['S', 'T']
  | 0xfb06 => ['S', 'T']
  | _ => [c.toUpper]

/-- `value.upper()` -/
def upper (s : String) : String := String.ofList (s.toList.flatMap upperChar)

def lowerChar (c : Char) : List Char :=
  match c.toNat with
  | 0x130 => ['i', Char.ofNat 0x307]
  | 0x212a => ['k']
  | _ => [c.toLower]

def isSlugChar (c : Char) : Bool :=
  ('a' ≤ c && c ≤ 'z') || ('A' ≤ c && c ≤ 'Z') || ('0' ≤ c && c ≤ '9') || c == '_'

/-- `value.lower()` -/
def lower (s : String) : String := String.ofList (s.toList.flatMap lowerChar)

/-- `value.strip("_")` -/
def stripUnderscores (s : String) : String := String.ofList (stripChars (· = '_') s.toList)

/-- Each maximal run of unsafe characters becomes one `fill`. The flag says that
the character before was already replaced. -/
def subRuns (fill : List Char) : Bool → List Char → List Char
  | _, [] => []
  | inRun, c :: rest =>
    if isSlugChar c then c :: subRuns fill false rest
    else if inRun then subRuns fill true rest
    else fill ++ subRuns fill true rest

/-- `SAFE_SLUG_RE.sub(fill, value)` -/
def subUnsafe (fill value : String) : String := String.ofList (subRuns fill.toList false value.toList)

/-- Python's `value[:n]` -/
def clip (n : Nat) (s : String) : String := String.ofList (s.toList.take n)

theorem orElse_some {s : String} (h : s ≠ "") (fallback : String) :
    orElse (some s) fallback = s := if_neg h

theorem truthy_eq_some {value : Option String} {s : String} (h : truthy value = some s) :
    value = some s ∧ s ≠ "" := by
  simpa [truthy, Option.filter_eq_some_iff] using h

theorem truthyId_eq_some {value : Option Nat} {n : Nat} (h : truthyId value = some n) :
    value = some n ∧ n ≠ 0 := by
  simpa [truthyId, Option.filter_eq_some_iff] using h

theorem truthyId_some {n : Nat} (h : n ≠ 0) : truthyId (some n) = some n := by
  simp [truthyId, h]

theorem dropWhile_eq_self {p : Char → Bool} {cs : List Char} (first : ∀ c, cs.head? = some c → p c = false) :
    cs.dropWhile p = cs := by
  cases cs with
  | nil => rfl
  | cons c rest => exact List.dropWhile_cons_of_neg (by simp [first c rfl])

theorem head?_dropWhile {p : Char → Bool} {cs : List Char} {c : Char}
    (first : (cs.dropWhile p).head? = some c) : p c = false := by
  have kept := List.head?_dropWhile_not p cs
  rw [first] at kept
  exact kept

/-- What is stripped has nothing more to strip. -/
theorem stripChars_stripChars (p : Char → Bool) (cs : List Char) :
    stripChars p (stripChars p cs) = stripChars p cs := by
  have front : (stripChars p cs).dropWhile p = stripChars p cs := by
    apply dropWhile_eq_self
    intro c first
    have shorter : stripChars p cs <+: cs.dropWhile p := by
      rw [← List.reverse_suffix, stripChars, List.reverse_reverse]
      exact List.dropWhile_suffix p
    obtain ⟨rest, whole⟩ := shorter
    have head : (cs.dropWhile p).head? = some c := by
      rw [← whole, List.head?_append, first]
      rfl
    exact head?_dropWhile head
  have back : (stripChars p cs).reverse.dropWhile p = (stripChars p cs).reverse := by
    apply dropWhile_eq_self
    intro c first
    rw [stripChars, List.reverse_reverse] at first
    exact head?_dropWhile first
  rw [stripChars, front, back, List.reverse_reverse]

theorem strip_strip (s : String) : strip (strip s) = strip s := by
  simp [strip, stripChars_stripChars]

end XpBuilder.PythonText
