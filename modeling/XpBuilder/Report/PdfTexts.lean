import Mathlib.Data.Rat.Floor
import XpBuilder.Library.Markup
import XpBuilder.Report.Truncation

/-! The texts of the PDF. Each of them is put into a paragraph as it is, some between `<b>` and `</b>`,
and the paragraph reads its text as markup. -/

namespace XpBuilder.Pdf
open PythonText (truthy)
open Markup (Plain)

/-! ## Numbers and times -/

/-- Python's rounding to a whole number. -/
def roundHalfEven (q : ℚ) : Int :=
  let below := ⌊q⌋
  if q - below < 1 / 2 then below
  else if 1 / 2 < q - below then below + 1
  else if below % 2 = 0 then below
  else below + 1

/-- The digits from the last to the first, with commas. -/
def commas : List Char → List Char
  | a :: b :: c :: d :: rest => a :: b :: c :: ',' :: commas (d :: rest)
  | digits => digits

def thousands (n : Nat) : List Char := (commas (toString n).toList.reverse).reverse

def padded (width n : Nat) : List Char := List.replicate (width - (toString n).toList.length) '0' ++ (toString n).toList

/-- `_fmt` -/
def fmt (value : ℚ) : List Char :=
  let sign := if value < 0 then ['-'] else []
  if value.den = 1 then sign ++ thousands value.num.natAbs
  else
    let cents := (roundHalfEven (value * 100)).natAbs
    sign ++ thousands (cents / 100) ++ '.' :: padded 2 (cents % 100)

/-- The time of the export. -/
structure Moment where
  year : Nat
  month : Nat
  day : Nat
  hour : Nat
  minute : Nat

/-- `strftime("%Y-%m-%d %H:%M")` -/
def Moment.text (m : Moment) : List Char :=
  padded 4 m.year ++ '-' :: padded 2 m.month ++ '-' :: padded 2 m.day ++ ' ' :: padded 2 m.hour ++ ':' :: padded 2 m.minute

/-! ## Paragraphs -/

/-- A paragraph, by what it should show. -/
inductive Paragraph where
  | plain (text : List Char)
  | bold (text : List Char)
  deriving DecidableEq, Repr

namespace Paragraph

def text : Paragraph → List Char
  | plain text => text
  | bold text => text

/-- The argument of `Paragraph`. -/
def markup : Paragraph → List Char
  | plain text => text
  | bold text => "<b>".toList ++ text ++ "</b>".toList

/-- The markup is well formed and denotes the text. -/
def Survives (M : Markup) (p : Paragraph) : Prop := M.read p.markup = some p.text

theorem survives_iff {M : Markup} (bold : M.known ['b'] = true) (p : Paragraph) : p.Survives M ↔ Plain p.text := by
  cases p with
  | plain text => exact Markup.read_eq_self_iff text
  | bold text =>
    have letters : ∀ c ∈ ['b'], Char.isAlphanum c = true := Lists.forall_mem_of_all (by decide)
    exact Markup.read_enclosed_iff letters bold text

end Paragraph

/-! ## The story -/

section Story
variable (name description : String) (raw : RawDefinition) (result : ReportResult) (rows : List (Dict String Value))
variable (moment : Moment) (generatedBy : Option String)

/-- The value of a filter, as the line of filters shows it. -/
def filterText (value : FilterValue) : List Char :=
  match value with
  | .one value => value.str.toList
  | .many items _ => List.intercalate ", ".toList (items.map (fun item => item.str.toList))

def filterPart (f : FilterEntry) : List Char :=
  f.column.toList ++ ' ' :: (f.op.getD "None").toList ++ ' ' :: filterText f.value

/-- `_add_report_header` -/
def addReportHeader : List Paragraph :=
  let author := match truthy generatedBy with
    | none => []
    | some who => "  |  By: ".toList ++ who.toList
  let filters := raw.filters.getD []
  .plain name.toList :: (if description = "" then [] else [.plain description.toList]) ++
    .plain ("Generated: ".toList ++ moment.text ++ author) ::
    (if filters = [] then []
      else [.plain ("Filters: ".toList ++ List.intercalate " | ".toList (filters.map filterPart))])

/-- The cells of a band of totals. -/
def totalParagraph : TotalCell → Paragraph
  | .caption => .plain "Grand Total".toList
  | .amount q => .plain (fmt q)
  | .blank => .plain []

/-- The paragraphs of a row of the table, empty ones of a band left out. -/
def lineParagraphs : Line → List Paragraph
  | .cells texts => texts.map (fun t => .plain t.toList)
  | .groupHeader shown => [.bold ("Group: ".toList ++ shown.flatMap String.toList)]
  | .subtotal shown => [.bold ("Subtotal: ".toList ++ shown.flatMap String.toList)]
  | .gap => []
  | .totalRows count => [.bold ("Total rows: ".toList ++ (toString count).toList)]
  | .grandTotal cells => cells.map totalParagraph

/-- What `_render` puts below the table. -/
def footer : List Paragraph :=
  if raw.metrics.getD [] = [] ∧ groupIdx raw result.columns ≠ [] then []
  else if raw.metrics.getD [] ≠ [] then [.bold ("Groups: ".toList ++ (toString rows.length).toList)]
  else [.bold ("Rows: ".toList ++ (toString rows.length).toList)]

def label (column : String) : List Char := (cellText (.text column)).toList

/-- The paragraphs of the document. -/
def story : List Paragraph :=
  addReportHeader name description raw moment generatedBy ++ result.columns.map (fun c => .plain (label c)) ++
    (render raw result.columns rows).flatMap lineParagraphs ++ footer raw result rows ++
    (truncationNote raw result).toList.map (fun note => .plain note.toList)

/-! ## Data texts -/

def lineTexts : Line → List (List Char)
  | .cells texts => texts.map String.toList
  | .groupHeader shown => shown.map String.toList
  | .subtotal shown => shown.map String.toList
  | .gap | .totalRows _ | .grandTotal _ => []

/-- The texts of the story that come from the report, its data and its user. -/
def dataTexts : List (List Char) :=
  [name.toList, description.toList, (generatedBy.getD "").toList] ++
    (raw.filters.getD []).flatMap (fun f => [f.column.toList, (f.op.getD "None").toList, filterText f.value]) ++
    result.columns.map label ++ (render raw result.columns rows).flatMap lineTexts

end Story

/-! ## Texts of numbers -/

def isNumeric (c : Char) : Bool := c.isDigit || c = ',' || c = '.' || c = '-' || c = ':' || c = ' '

theorem plain_of_numeric {text : List Char} (numeric : ∀ c ∈ text, isNumeric c = true) : Plain text := by
  constructor
  · intro there
    exact absurd (numeric '<' there) (by decide)
  · intro there
    exact absurd (numeric '&' there) (by decide)

theorem numeric_toString (n : Nat) : ∀ c ∈ (toString n).toList, isNumeric c = true := by
  intro c there
  have chars : (toString n).toList = Nat.toDigits 10 n := Nat.toList_repr
  rw [chars] at there
  have digit := Nat.isDigit_of_mem_toDigits (by decide) (by decide) there
  simp [isNumeric, digit]

theorem mem_commas {c : Char} {digits : List Char} (there : c ∈ commas digits) : c ∈ digits ∨ c = ',' := by
  induction digits using commas.induct with
  | case1 a b d e rest ih =>
    simp only [commas, List.mem_cons] at there ⊢
    rcases there with rfl | rfl | rfl | rfl | behind
    · simp
    · simp
    · simp
    · simp
    · have later := ih behind
      simp only [List.mem_cons] at later
      tauto
  | case2 digits other =>
    left
    rw [commas] at there
    · exact there
    · exact other

theorem numeric_thousands (n : Nat) : ∀ c ∈ thousands n, isNumeric c = true := by
  intro c there
  rw [thousands, List.mem_reverse] at there
  cases mem_commas there with
  | inl digit => exact numeric_toString n c (List.mem_reverse.mp digit)
  | inr comma =>
    rw [comma]
    decide

theorem numeric_padded (width n : Nat) : ∀ c ∈ padded width n, isNumeric c = true := by
  intro c there
  cases List.mem_append.mp there with
  | inl zero =>
    rw [(List.mem_replicate.mp zero).2]
    decide
  | inr digit => exact numeric_toString n c digit

theorem plain_fmt (value : ℚ) : Plain (fmt value) := by
  have sign : ∀ c ∈ (if value < 0 then ['-'] else []), isNumeric c = true := by
    split_ifs
    · exact Lists.forall_mem_of_all (by decide)
    · exact fun _ there => absurd there List.not_mem_nil
  apply plain_of_numeric
  unfold fmt
  dsimp only
  by_cases whole : value.den = 1
  · rw [if_pos whole, List.forall_mem_append]
    exact ⟨sign, numeric_thousands _⟩
  · rw [if_neg whole, List.forall_mem_append, List.forall_mem_append, List.forall_mem_cons]
    exact ⟨⟨sign, numeric_thousands _⟩, by decide, numeric_padded _ _⟩

theorem plain_moment (m : Moment) : Plain m.text := by
  apply plain_of_numeric
  unfold Moment.text
  have marks : isNumeric '-' = true ∧ isNumeric ' ' = true ∧ isNumeric ':' = true := by decide
  simp only [List.forall_mem_append, List.forall_mem_cons]
  exact ⟨⟨⟨⟨numeric_padded _ _, marks.1, numeric_padded _ _⟩, marks.1, numeric_padded _ _⟩, marks.2.1,
    numeric_padded _ _⟩, marks.2.2, numeric_padded _ _⟩

theorem plain_toString_int (i : Int) : Plain (toString i).toList := by
  cases i with
  | ofNat n => exact plain_of_numeric (numeric_toString n)
  | negSucc n =>
    have text : (toString (Int.negSucc n)).toList = '-' :: (toString (n + 1)).toList := by
      have whole : toString (Int.negSucc n) = "-" ++ toString (n + 1) := rfl
      have sign : "-".toList = ['-'] := by decide
      rw [whole, String.toList_append, sign, List.singleton_append]
    rw [text]
    apply plain_of_numeric
    rw [List.forall_mem_cons]
    exact ⟨by decide, numeric_toString _⟩

/-! ## Paragraphs and the texts in them -/

/-- The paragraphs show, besides what the code puts in, these texts. -/
def Shows (ps : List Paragraph) (ts : List (List Char)) : Prop := (∀ p ∈ ps, Plain p.text) ↔ ∀ t ∈ ts, Plain t

/-- Paragraphs without a text of the data. -/
theorem shows_nothing {ps : List Paragraph} (plain : ∀ p ∈ ps, Plain p.text) : Shows ps [] :=
  iff_of_true plain (fun _ there => absurd there List.not_mem_nil)

theorem shows_nil : Shows [] [] := shows_nothing (fun _ there => absurd there List.not_mem_nil)

theorem Shows.append {ps qs : List Paragraph} {ts us : List (List Char)} (front : Shows ps ts) (back : Shows qs us) :
    Shows (ps ++ qs) (ts ++ us) := by
  unfold Shows at *
  rw [List.forall_mem_append, List.forall_mem_append, front, back]

theorem Shows.flatMap {α : Type} {f : α → List Paragraph} {g : α → List (List Char)} (each : ∀ a, Shows (f a) (g a))
    (as : List α) : Shows (as.flatMap f) (as.flatMap g) := by
  induction as with
  | nil => exact shows_nil
  | cons a as ih =>
    rw [List.flatMap_cons, List.flatMap_cons]
    exact (each a).append ih

theorem shows_plain (ts : List (List Char)) : Shows (ts.map .plain) ts := by
  unfold Shows
  rw [List.forall_mem_map]
  rfl

/-- Behind a caption stand texts. -/
theorem shows_caption {caption : List Char} (plain : Plain caption) (shown : List String) :
    Shows [.bold (caption ++ shown.flatMap String.toList)] (shown.map String.toList) := by
  unfold Shows
  rw [List.forall_mem_singleton, Paragraph.text, Markup.plain_append, and_iff_right plain, List.flatMap_def,
    Markup.plain_flatten]

theorem shows_count {caption : List Char} (plain : Plain caption) (count : Nat) :
    Shows [.bold (caption ++ (toString count).toList)] [] := by
  apply shows_nothing
  rw [List.forall_mem_singleton, Paragraph.text, Markup.plain_append]
  exact ⟨plain, plain_of_numeric (numeric_toString count)⟩

theorem shows_line (line : Line) : Shows (lineParagraphs line) (lineTexts line) := by
  cases line with
  | cells texts =>
    have whole := shows_plain (texts.map String.toList)
    rw [List.map_map] at whole
    exact whole
  | groupHeader shown => exact shows_caption (by decide) shown
  | subtotal shown => exact shows_caption (by decide) shown
  | gap => exact shows_nil
  | totalRows count => exact shows_count (by decide) count
  | grandTotal cells =>
    apply shows_nothing
    intro p there
    obtain ⟨cell, -, rfl⟩ := List.mem_map.mp there
    cases cell with
    | caption => exact (by decide : Plain "Grand Total".toList)
    | amount q => exact plain_fmt q
    | blank => exact (by decide : Plain [])

section Whole
variable (name description : String) (raw : RawDefinition) (result : ReportResult) (rows : List (Dict String Value))
variable (moment : Moment) (generatedBy : Option String)

theorem plain_filterPart (f : FilterEntry) : Plain (filterPart f) ↔
    ∀ t ∈ [f.column.toList, (f.op.getD "None").toList, filterText f.value], Plain t := by
  have blank : Plain [' '] := by decide
  have split : filterPart f = (f.column.toList ++ ([' '] ++ (f.op.getD "None").toList)) ++ ([' '] ++ filterText f.value) := by
    simp [filterPart]
  rw [split]
  simp only [Markup.plain_append, and_iff_right blank, List.forall_mem_cons, List.not_mem_nil, IsEmpty.forall_iff,
    implies_true, and_true, and_assoc]

theorem shows_one (text : List Char) : Shows [.plain text] [text] := shows_plain [text]

theorem shows_description : Shows (if description = "" then [] else [.plain description.toList]) [description.toList] := by
  by_cases blank : description = ""
  · rw [if_pos blank, blank]
    refine iff_of_true (fun _ there => absurd there List.not_mem_nil) ?_
    rw [List.forall_mem_singleton]
    decide
  · rw [if_neg blank]
    exact shows_one _

/-- The line of the time and the user. -/
theorem shows_meta : Shows [.plain ("Generated: ".toList ++ moment.text ++ match truthy generatedBy with
      | none => []
      | some who => "  |  By: ".toList ++ who.toList)] [(generatedBy.getD "").toList] := by
  have before : Plain ("Generated: ".toList ++ moment.text) := Markup.plain_append.mpr ⟨by decide, plain_moment moment⟩
  have by_ : Plain "  |  By: ".toList := by decide
  unfold Shows
  rw [List.forall_mem_singleton, List.forall_mem_singleton, Paragraph.text, Markup.plain_append, and_iff_right before]
  cases generatedBy with
  | none => exact Iff.rfl
  | some who =>
    by_cases blank : who = ""
    · rw [blank]
      exact Iff.rfl
    · have told : truthy (some who) = some who := by simp [truthy, blank]
      rw [told, Option.getD_some, Markup.plain_append, and_iff_right by_]

theorem shows_filters (filters : List FilterEntry) : Shows (if filters = [] then []
      else [.plain ("Filters: ".toList ++ List.intercalate " | ".toList (filters.map filterPart))])
    (filters.flatMap (fun f => [f.column.toList, (f.op.getD "None").toList, filterText f.value])) := by
  by_cases none : filters = []
  · rw [if_pos none, none]
    exact shows_nil
  · have caption : Plain "Filters: ".toList := by decide
    unfold Shows
    rw [if_neg none, List.forall_mem_singleton, Paragraph.text, Markup.plain_append, and_iff_right caption,
      Markup.plain_intercalate (by decide), List.forall_mem_map, List.flatMap_def]
    simp only [plain_filterPart, List.mem_flatten, List.mem_map]
    constructor
    · rintro each t ⟨-, ⟨f, there, rfl⟩, inside⟩
      exact each f there t inside
    · intro each f there t inside
      exact each t ⟨_, ⟨f, there, rfl⟩, inside⟩

theorem shows_header : Shows (addReportHeader name description raw moment generatedBy)
    ([name.toList, description.toList, (generatedBy.getD "").toList] ++
      (raw.filters.getD []).flatMap (fun f => [f.column.toList, (f.op.getD "None").toList, filterText f.value])) :=
  ((shows_one name.toList).append (shows_description description)).append
    ((shows_meta moment generatedBy).append (shows_filters (raw.filters.getD [])))

theorem shows_footer : Shows (footer raw result rows) [] := by
  unfold footer
  split_ifs
  · exact shows_nil
  · exact shows_count (by decide) _
  · exact shows_count (by decide) _

theorem shows_note : Shows ((truncationNote raw result).toList.map (fun note => .plain note.toList)) [] := by
  unfold truncationNote
  split_ifs
  · apply shows_nothing
    rw [Option.toList_some, List.map_singleton, List.forall_mem_singleton, Paragraph.text, String.toList_append,
      String.toList_append, Markup.plain_append, Markup.plain_append]
    exact ⟨⟨by decide, plain_toString_int _⟩, by decide⟩
  · exact shows_nil

theorem shows_story : Shows (story name description raw result rows moment generatedBy)
    (dataTexts name description raw result rows generatedBy) := by
  have labels := shows_plain (result.columns.map label)
  rw [List.map_map] at labels
  have lines := Shows.flatMap shows_line (render raw result.columns rows)
  have upper := ((shows_header name description raw moment generatedBy).append labels).append lines
  have lower := (upper.append (shows_footer raw result rows)).append (shows_note raw result)
  rw [List.append_nil, List.append_nil] at lower
  exact lower

end Whole

/-- Every paragraph of the document denotes its text exactly where no text of the data that it shows has a `<` or
a `&`. -/
theorem survive_iff {M : Markup} (bold : M.known ['b'] = true) (name description : String) (raw : RawDefinition)
    (result : ReportResult) (rows : List (Dict String Value)) (moment : Moment) (generatedBy : Option String) :
    (∀ p ∈ story name description raw result rows moment generatedBy, p.Survives M) ↔
      ∀ t ∈ dataTexts name description raw result rows generatedBy, Plain t := by
  have each : (∀ p ∈ story name description raw result rows moment generatedBy, p.Survives M) ↔
      ∀ p ∈ story name description raw result rows moment generatedBy, Plain p.text := by
    apply forall₂_congr
    intro p _
    exact p.survives_iff bold
  exact each.trans (shows_story name description raw result rows moment generatedBy)

/-! ## A report of one column -/

/-- Some of the tags and of the references of a paragraph. -/
def paragraphMarkup : Markup where
  known name := name = ['b'] || name = ['i'] || name = ['u']
  entity name :=
    if name = "lt".toList then some ['<'] else if name = "gt".toList then some ['>']
    else if name = "amp".toList then some ['&'] else none
  shorter name text found := by
    split_ifs at found <;> cases found <;> simp

def plainRaw : RawDefinition := ⟨none, none, none, none, none, none, none, none, none⟩

def noteResult : ReportResult := ⟨"SELECT note FROM t", ["note"], [], 1, false⟩

def noteRow (note : String) : Dict String Value := Dict.empty.set "note" (.text note)

theorem greater_survives : paragraphMarkup.known ['b'] = true ∧
    ∀ p ∈ story "Notes" "" plainRaw noteResult [noteRow "a > b"] ⟨2026, 1, 2, 3, 4⟩ (some "7"), p.Survives paragraphMarkup :=
  ⟨by decide, (survive_iff (by decide) "Notes" "" plainRaw noteResult [noteRow "a > b"] ⟨2026, 1, 2, 3, 4⟩ (some "7")).mpr
    (by decide)⟩

/-- A name with an ampersand, and a cell that begins a tag. -/
theorem marks_not_survive :
    ¬(∀ p ∈ story "R&D" "" plainRaw noteResult [] ⟨2026, 1, 2, 3, 4⟩ none, p.Survives paragraphMarkup) ∧
    ¬(∀ p ∈ story "Notes" "" plainRaw noteResult [noteRow "a<b"] ⟨2026, 1, 2, 3, 4⟩ none, p.Survives paragraphMarkup) := by
  have lost : ∀ (ps : List Paragraph) (text : List Char), .plain text ∈ ps → ¬Plain text →
      ¬∀ p ∈ ps, p.Survives paragraphMarkup := by
    intro ps text there marked all
    exact marked ((Markup.read_eq_self_iff text).mp (all _ there))
  exact ⟨lost _ "R&D".toList (by decide) (by decide), lost _ "a<b".toList (by decide) (by decide)⟩

end XpBuilder.Pdf
