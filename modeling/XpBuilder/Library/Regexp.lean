import Mathlib.Data.List.Basic

/-! Regular expressions of a simple kind: a choice between sequences of single characters,
some of them optional. The first alternative that matches is taken, an optional character
where it can be, and a replacement works from the left. -/

namespace XpBuilder.Regexp

/-- One of some characters, perhaps missing. -/
structure Piece where
  chars : List Char
  optional : Bool := false
  deriving DecidableEq, Repr

abbrev Pattern := List (List Piece)

/-- The letters of a word. -/
def word (s : String) : List Piece := s.toList.map (fun c => ⟨[c], false⟩)

def one (s : String) : List Piece := [⟨s.toList, false⟩]

def perhaps (s : String) : List Piece := [⟨s.toList, true⟩]

/-- How many characters the pieces take from the beginning of a text. -/
def takePieces : List Piece → List Char → Option Nat
  | [], _ => some 0
  | p :: rest, text =>
    let taken := match text with
      | [] => none
      | c :: cs => if c ∈ p.chars then (takePieces rest cs).map (· + 1) else none
    if p.optional then taken.or (takePieces rest text) else taken

def takeFirst (p : Pattern) (text : List Char) : Option Nat := p.findSome? (fun pieces => takePieces pieces text)

/-- `text REGEXP p` -/
def occurs (p : Pattern) : List Char → Bool
  | [] => (takeFirst p []).isSome
  | c :: cs => (takeFirst p (c :: cs)).isSome || occurs p cs

/-- The number is that of the characters still to be left out. -/
def replaceFrom (p : Pattern) (fill : List Char) : Nat → List Char → List Char
  | _, [] => []
  | skip + 1, _ :: cs => replaceFrom p fill skip cs
  | 0, c :: cs =>
    match takeFirst p (c :: cs) with
    | some (n + 1) => fill ++ replaceFrom p fill n cs
    | _ => c :: replaceFrom p fill 0 cs

/-- `REGEXP_REPLACE(text, p, fill)`, for a pattern that matches no empty text -/
def replace (p : Pattern) (fill text : String) : String := String.ofList (replaceFrom p fill.toList 0 text.toList)

/-- Each run of characters in `p` becomes one blank. -/
def squeeze (p : Char → Bool) : Bool → List Char → List Char
  | _, [] => []
  | inRun, c :: cs =>
    if p c then (if inRun then squeeze p true cs else ' ' :: squeeze p true cs) else c :: squeeze p false cs

end XpBuilder.Regexp
