import XpBuilder.Library.Lists
import XpBuilder.Library.Replacement
import XpBuilder.Moodle.Tables

/-! The feedback column of `kpi3_classroom_observations`. The remarks are stored with entities for
five characters, and six replacements, one after another, take them back. -/

namespace XpBuilder.Moodle.Feedback
open Relational Replacement

/-! ## Entities -/

def apostrophe : Char := Char.ofNat 39

/-- The characters that are escaped, with the rest of their entities. -/
def entities : Codes Char :=
  [(apostrophe, "#039;".toList), ('&', "amp;".toList), ('"', "quot;".toList), ('<', "lt;".toList),
    ('>', "gt;".toList)]

/-- The text as it is stored. -/
def escape (text : List Char) : List Char := text.flatMap (entities.code '&')

/-- `REPLACE(text, entity, c)` -/
def put (c : Char) (entity : String) (text : List Char) : List Char := replaceAll entity.toList [c] text

/-- The chain of `REPLACE`. -/
def unescape (text : List Char) : List Char :=
  put '>' "&gt;" (put '<' "&lt;" (put ' ' "&nbsp;" (put '"' "&quot;" (put '&' "&amp;" (put apostrophe "&#039;" text)))))

/-! ## The view -/

structure ObservationItem where
  id : Nat
  typ : String
  position : Int
  deriving DecidableEq

structure ObservationValue where
  completed : Nat
  item : Nat
  value : Option String
  deriving DecidableEq

section View
variable (S : Server) (items : List ObservationItem) (values : List ObservationValue)

/-- The rows of the CTE `feedback` for an observation, in the order of `GROUP_CONCAT`. -/
def remarks (completed : Nat) : List ObservationValue :=
  (((join (fun v i => i.id = v.item && S.same i.typ "textarea") values items).filter (fun r =>
    r.1.completed = completed && r.1.value.any (fun value => !S.same (trim value) ""))).mergeSort
      (fun a b => decide (a.2.position ≤ b.2.position))).map Prod.fst

/-- `GROUP_CONCAT(TRIM(value) SEPARATOR ' | ')`, the empty text where there is no row -/
def concatenated (texts : List String) : List Char :=
  List.intercalate " | ".toList (texts.map (fun text => (trim text).toList))

def feedback (completed : Nat) : String :=
  String.ofList (unescape (concatenated ((remarks S items values completed).filterMap ObservationValue.value)))

end View

/-! ## The chain -/

/-- What is left of the chain for a text that was escaped: four replacements on the text itself. -/
def leftOver (text : List Char) : List Char :=
  put '>' "&gt;" (put '<' "&lt;" (put ' ' "&nbsp;" (put '"' "&quot;" text)))

theorem unescape_escape (text : List Char) : unescape (escape text) = leftOver text := by
  have apos : put apostrophe "&#039;" (escape text) = text.flatMap (Codes.code '&' (entities.drop 1)) :=
    Codes.replaceAll_code ';' (by decide) (by decide) (by decide) (by decide) text
  have amp : put '&' "&amp;" (text.flatMap (Codes.code '&' (entities.drop 1))) =
      text.flatMap (Codes.code '&' (entities.drop 2)) :=
    Codes.replaceAll_code ';' (by decide) (by decide) (by decide) (by decide) text
  -- from here on an ampersand of the text is no longer told from that of an entity
  have quot : put '"' "&quot;" (text.flatMap (Codes.code '&' (entities.drop 2))) =
      (put '"' "&quot;" text).flatMap (Codes.code '&' (entities.drop 3)) :=
    Codes.replaceAll_raw ';' (by decide) (by decide) (.inr rfl) (by decide)
      (Lists.forall_mem_of_all (by decide)) (by decide) (by decide) text
  have nbsp : ∀ t : List Char, put ' ' "&nbsp;" (t.flatMap (Codes.code '&' (entities.drop 3))) =
      (put ' ' "&nbsp;" t).flatMap (Codes.code '&' (entities.drop 3)) :=
    Codes.replaceAll_raw ';' (by decide) (by decide) (.inl rfl) (by decide)
      (Lists.forall_mem_of_all (by decide)) (by decide) (by decide)
  have lt : ∀ t : List Char, put '<' "&lt;" (t.flatMap (Codes.code '&' (entities.drop 3))) =
      (put '<' "&lt;" t).flatMap (Codes.code '&' (entities.drop 4)) :=
    Codes.replaceAll_raw ';' (by decide) (by decide) (.inr rfl) (by decide)
      (Lists.forall_mem_of_all (by decide)) (by decide) (by decide)
  have gt : ∀ t : List Char, put '>' "&gt;" (t.flatMap (Codes.code '&' (entities.drop 4))) =
      (put '>' "&gt;" t).flatMap (Codes.code '&' (entities.drop 5)) :=
    Codes.replaceAll_raw ';' (by decide) (by decide) (.inr rfl) (by decide)
      (Lists.forall_mem_of_all (by decide)) (by decide) (by decide)
  have plain : ∀ t : List Char, t.flatMap (Codes.code '&' (entities.drop 5)) = t := List.flatMap_singleton'
  rw [unescape, apos, amp, quot, nbsp, lt, gt, plain, leftOver]

/-- The entities that are decoded after the ampersand. -/
def decodedLater : List (Char × String) := [('"', "&quot;"), (' ', "&nbsp;"), ('<', "&lt;"), ('>', "&gt;")]

theorem leftOver_eq_self_iff (text : List Char) :
    leftOver text = text ↔ ∀ e ∈ decodedLater, ¬e.2.toList <:+: text := by
  have chain : leftOver text = replaceEach (decodedLater.map (fun e => (e.2.toList, [e.1]))) text := rfl
  have shorter : ∀ s ∈ decodedLater.map (fun e => (e.2.toList, [e.1])), s.2.length < s.1.length := by decide
  rw [chain, replaceEach_eq_self_iff shorter, List.forall_mem_map]

/-- The chain gives a text back exactly where the text does not itself mention an entity that is decoded after
the ampersand. -/
theorem unescape_escape_iff (text : List Char) :
    unescape (escape text) = text ↔ ∀ e ∈ decodedLater, ¬e.2.toList <:+: text := by
  rw [unescape_escape, leftOver_eq_self_iff]

/-- A remark about a tag becomes the tag. -/
theorem mention_not_returned : unescape (escape "write &lt;b&gt;".toList) = "write <b>".toList ∧
    unescape (escape "write &lt;b&gt;".toList) ≠ "write &lt;b&gt;".toList := by
  decide

/-! ## The column -/

theorem code_ne_blank {c : Char} (other : c ≠ ' ') : entities.code '&' c ≠ [] ∧
    (entities.code '&' c).head? ≠ some ' ' ∧ (entities.code '&' c).getLast? ≠ some ' ' := by
  by_cases coded : c ∈ entities.chars
  · obtain ⟨word, there, same⟩ := Codes.code_of_mem (m := '&') coded
    have last : ∀ w ∈ entities.words, ('&' :: w).getLast? ≠ some ' ' := by decide
    rw [same]
    exact ⟨List.cons_ne_nil _ _, by simp, last word there⟩
  · rw [Codes.code_of_not_mem coded]
    simp [other]

/-- Blanks in front stay in front. -/
theorem dropWhile_flatMap {f : Char → List Char} (blank : f ' ' = [' '])
    (other : ∀ c, c ≠ ' ' → f c ≠ [] ∧ (f c).head? ≠ some ' ') (text : List Char) :
    (text.flatMap f).dropWhile (· = ' ') = (text.dropWhile (· = ' ')).flatMap f := by
  induction text with
  | nil => rfl
  | cons c text ih =>
    by_cases here : c = ' '
    · rw [here, List.flatMap_cons, blank, List.singleton_append, List.dropWhile_cons_of_pos (by decide),
        List.dropWhile_cons_of_pos (by decide), ih]
    · have own := other c here
      rw [List.dropWhile_cons_of_neg (by simpa using here)]
      apply PythonText.dropWhile_eq_self
      intro d first
      rw [List.flatMap_cons, List.head?_append_of_ne_nil _ own.1] at first
      simp only [decide_eq_false_iff_not]
      rintro rfl
      exact own.2 first

theorem trim_escape (text : String) :
    (trim (String.ofList (escape text.toList))).toList = escape (trim text).toList := by
  have front := dropWhile_flatMap (f := entities.code '&') (by decide)
    (fun c other => ⟨(code_ne_blank other).1, (code_ne_blank other).2.1⟩)
  have behind := dropWhile_flatMap (f := List.reverse ∘ entities.code '&') (by decide) (fun c other => by
    have own := code_ne_blank other
    simpa using ⟨own.1, own.2.2⟩)
  have turned : ∀ t : List Char, (t.flatMap (entities.code '&')).reverse =
      t.reverse.flatMap (List.reverse ∘ entities.code '&') := fun t => List.reverse_flatMap
  have back : ∀ t : List Char, (t.flatMap (List.reverse ∘ entities.code '&')).reverse =
      t.reverse.flatMap (entities.code '&') := by
    intro t
    rw [← List.reverse_reverse (t.reverse.flatMap (entities.code '&')), turned, List.reverse_reverse]
  simp only [trim, PythonText.stripChars, String.toList_ofList, escape]
  rw [front, turned, behind, back]

/-- A text between the texts is between their codes. -/
theorem flatMap_intercalate {f : Char → List Char} {sep : List Char} (plain : sep.flatMap f = sep)
    (parts : List (List Char)) : (sep.intercalate parts).flatMap f = sep.intercalate (parts.map (List.flatMap f)) := by
  induction parts with
  | nil => rfl
  | cons part parts ih =>
    cases parts with
    | nil => simp
    | cons next parts =>
      rw [List.intercalate_cons_cons, List.flatMap_append, List.flatMap_append, plain, ih, List.map_cons, List.map_cons,
        List.map_cons, List.intercalate_cons_cons]

section Column
variable {S : Server} {items : List ObservationItem} {values : List ObservationValue} {completed : Nat}
variable {text : ObservationValue → String}

/-- The column joins the remarks of an observation, trimmed; it is their text exactly where that does not itself
mention such an entity. -/
theorem feedback_iff (stored : ∀ v ∈ remarks S items values completed,
      v.value = some (String.ofList (escape (text v).toList))) :
    feedback S items values completed = String.ofList (concatenated ((remarks S items values completed).map text)) ↔
      ∀ e ∈ decodedLater, ¬e.2.toList <:+: concatenated ((remarks S items values completed).map text) := by
  have found : concatenated ((remarks S items values completed).filterMap ObservationValue.value) =
      escape (concatenated ((remarks S items values completed).map text)) := by
    have between : " | ".toList.flatMap (entities.code '&') = " | ".toList := by decide
    have trimmed : ∀ vs : List ObservationValue,
        (vs.map (fun v => String.ofList (escape (text v).toList))).map (fun t => (trim t).toList) =
          ((vs.map text).map (fun t => (trim t).toList)).map (List.flatMap (entities.code '&')) := by
      intro vs
      rw [List.map_map, List.map_map, List.map_map]
      apply List.map_congr_left
      intro v _
      simp only [Function.comp_apply]
      rw [trim_escape, escape]
    rw [List.filterMap_congr stored, List.filterMap_eq_map', concatenated, concatenated, escape,
      flatMap_intercalate between, ← trimmed]
  rw [feedback, found, unescape_escape, ← leftOver_eq_self_iff, String.ofList_inj]

end Column

end XpBuilder.Moodle.Feedback
