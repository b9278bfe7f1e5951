import Mathlib.Data.Rat.Floor
import XpBuilder.Library.Bins
import XpBuilder.Library.Numerals
import XpBuilder.Designer.PreviewRequests

/-! The histogram in the preview of a chart. What is no number is converted to zero before the filter
that is to drop it, so the ten bins hold all rows. -/

namespace XpBuilder.Designer
open Numerals

/-! ## The code -/

/-- A number of JavaScript, exact where it is finite. -/
inductive JsNumber where
  | finite (q : ℚ)
  | infinity (sign : Sign)
  | nan
  deriving DecidableEq

/-- `Number.isFinite`, with the number. -/
def JsNumber.isFinite : JsNumber → Option ℚ
  | finite q => some q
  | _ => none

/-- `Number.parseFloat` -/
def parseFloat (text : List Char) : JsNumber :=
  let start := text.dropWhile isSpace
  let (sign, body) := readSign start
  if "Infinity".toList.isPrefixOf body then .infinity sign
  else
    match readNumeral start with
    | some (q, _) => .finite q
    | none => .nan

/-- `.replace(/[,%$]/g, '')` -/
def withoutMarks (text : List Char) : List Char := text.filter (fun c => !(c = ',' || c = '%' || c = '$'))

/-- The text of a number is not read. What `String` makes of a list or an object is given. -/
def toNumber (nestedText : String → String) : Option JsonValue → JsNumber
  | some (.number q) => .finite q
  | none | some .null => parseFloat (withoutMarks [])
  | some (.flag b) => parseFloat (withoutMarks (if b then "true" else "false").toList)
  | some (.text s) => parseFloat (withoutMarks s.toList)
  | some (.nested json) => parseFloat (withoutMarks (nestedText json).toList)

/-- `toNum` -/
def toNum (nestedText : String → String) (value : Option JsonValue) : JsNumber :=
  let n := toNumber nestedText value
  if n.isFinite.isSome then n else .finite 0

def bins : ℕ := 10

/-- `(max - min || 1) / bins` -/
def bucketSize (min max : ℚ) : ℚ := (if max - min = 0 then 1 else max - min) / bins

/-- The index that is counted up for a value, none of which is below the least. -/
def bucket (min bucketSize v : ℚ) : ℕ := Nat.min (bins - 1) ⌊(v - min) / bucketSize⌋₊

/-- `HistogramViz`, as far as it counts. -/
structure Histogram where
  min : ℚ
  bucketSize : ℚ
  counts : List ℕ
  deriving DecidableEq

/-- The bins of some values, none without values. -/
def histogramOf : List ℚ → Option Histogram
  | [] => none
  | first :: rest =>
    let least := rest.foldl min first
    let greatest := rest.foldl max first
    let size := bucketSize least greatest
    some ⟨least, size, (first :: rest).foldl (fun counts v => counts.modify (bucket least size v) (· + 1))
      (List.replicate bins 0)⟩

/-- `rows.map(row => toNum(row[valueKey])).filter(n => Number.isFinite(n))` -/
def histogramValues (nestedText : String → String) (rows : List (Dict String JsonValue)) (valueKey : String) : List ℚ :=
  (rows.map (fun row => toNum nestedText (row.get valueKey))).filterMap JsNumber.isFinite

def histogramViz (nestedText : String → String) (rows : List (Dict String JsonValue)) (valueKey : String) :
    Option Histogram := histogramOf (histogramValues nestedText rows valueKey)

/-! ## What it is for -/

/-- The number of a text that is a numeral between blanks, when the marks are removed. -/
def numeral (text : List Char) : Option ℚ :=
  match readNumeral ((withoutMarks text).dropWhile isSpace) with
  | some (q, rest) => if rest.all isSpace then some q else none
  | none => none

/-- The number in a cell. -/
def cellNumber : Option JsonValue → Option ℚ
  | some (.number q) => some q
  | some (.text s) => numeral s.toList
  | _ => none

namespace Histogram
variable (h : Histogram)

/-- Where a bin begins, which is its label. -/
def edge (i : ℕ) : ℚ := h.min + h.bucketSize * i

/-- A bin is closed below and open above, the last closed. -/
def Holds (i : ℕ) (q : ℚ) : Prop := h.edge i ≤ q ∧ if i = bins - 1 then q ≤ h.edge bins else q < h.edge (i + 1)

/-- The bin a value is counted in. -/
def binOf (nestedText : String → String) (value : Option JsonValue) : Option ℕ :=
  (toNum nestedText value).isFinite.map (bucket h.min h.bucketSize)

/-- Every cell with a number is counted in one bin, the one that holds it, and no other cell is. -/
structure Partitions (nestedText : String → String) (number : Option JsonValue → Option ℚ)
    (cells : List (Option JsonValue)) : Prop where
  placed : ∀ cell ∈ cells, ∀ i, h.binOf nestedText cell = some i ↔ ∃ q, number cell = some q ∧ i < bins ∧ h.Holds i q
  alone : ∀ cell ∈ cells, ∀ q, number cell = some q → ∃! i, i < bins ∧ h.Holds i q
  counted : ∀ i < bins, h.counts[i]? = some (cells.countP (fun cell => h.binOf nestedText cell = some i))
  total : h.counts.sum = cells.countP (fun cell => (number cell).isSome)

end Histogram

/-- The cells of a column. -/
def cells (rows : List (Dict String JsonValue)) (valueKey : String) : List (Option JsonValue) :=
  rows.map (fun row => row.get valueKey)

/-- The preview partitions the numbers of its column. Without bins there is none. -/
def PartitionsNumbers (nestedText : String → String) (number : Option JsonValue → Option ℚ)
    (rows : List (Dict String JsonValue)) (valueKey : String) : Prop :=
  match histogramViz nestedText rows valueKey with
  | some h => h.Partitions nestedText number (cells rows valueKey)
  | none => ∀ cell ∈ cells rows valueKey, number cell = none

/-! ## Numerals -/

theorem JsNumber.eq_finite {n : JsNumber} {q : ℚ} (found : n.isFinite = some q) : n = .finite q := by
  cases n with
  | finite q' => exact congrArg JsNumber.finite (Option.some.inj found)
  | infinity sign => cases found
  | nan => cases found

theorem isSpace_facts {c : Char} (blank : isSpace c = true) :
    c.isDigit = false ∧ c ≠ '+' ∧ c ≠ '-' ∧ c ≠ '.' ∧ c ≠ 'e' ∧ c ≠ 'E' := by
  have others : c ≠ '+' ∧ c ≠ '-' ∧ c ≠ '.' ∧ c ≠ 'e' ∧ c ≠ 'E' := by
    refine ⟨?_, ?_, ?_, ?_, ?_⟩ <;> rintro rfl <;> exact absurd blank (by decide)
  refine ⟨?_, others⟩
  cases digit : c.isDigit with
  | false => rfl
  | true =>
    simp only [Char.isDigit, Bool.and_eq_true, decide_eq_true_eq, ge_iff_le, UInt32.le_iff_toNat_le] at digit
    have value : c.toNat = c.val.toNat := rfl
    simp only [isSpace, value, Bool.or_eq_true, Bool.and_eq_true, decide_eq_true_eq, beq_iff_eq] at blank
    change 48 ≤ c.val.toNat ∧ c.val.toNat ≤ 57 at digit
    omega

theorem ends_of_blank {rest : List Char} (blank : rest.all isSpace = true) : Ends rest := by
  intro c head
  obtain ⟨digit, -, -, point, lower, upper⟩ := isSpace_facts (List.all_eq_true.mp blank c (List.mem_of_mem_head? head))
  exact ⟨digit, point, lower, upper⟩

/-- No numeral begins with a blank. -/
theorem dropWhile_text (n : Numeral) (rest : List Char) : (n.text ++ rest).dropWhile isSpace = n.text ++ rest := by
  have first : ∀ c ∈ (n.text ++ rest).head?, ¬isSpace c = true := by
    intro c head blank
    obtain ⟨digit, plus, minus, point, -, -⟩ := isSpace_facts blank
    cases sign : n.sign with
    | none =>
      rw [Numeral.text, sign] at head
      rcases n.head_body rest c head with same | same
      · rw [digit] at same
        cases same
      · exact point same
    | plus =>
      rw [Numeral.text, sign] at head
      exact plus (Option.mem_some_iff.mp head).symm
    | minus =>
      rw [Numeral.text, sign] at head
      exact minus (Option.mem_some_iff.mp head).symm
  cases shape : n.text ++ rest with
  | nil => rfl
  | cons c more =>
    rw [shape] at first
    exact List.dropWhile_cons_of_neg (first c rfl)

theorem dropWhile_shape {text before after : List Char} {n : Numeral} (shape : text = before ++ (n.text ++ after))
    (front : before.all isSpace = true) : text.dropWhile isSpace = n.text ++ after := by
  rw [shape, List.dropWhile_append_of_pos (List.all_eq_true.mp front), dropWhile_text]

/-- A numeral stands between blanks. -/
theorem numeral_eq_some_iff {text : List Char} {q : ℚ} : numeral text = some q ↔
    ∃ before after, ∃ n : Numeral, withoutMarks text = before ++ (n.text ++ after) ∧
      before.all isSpace = true ∧ after.all isSpace = true ∧ n.value = q := by
  have parts := List.takeWhile_append_dropWhile (p := isSpace) (l := withoutMarks text)
  constructor
  · intro found
    unfold numeral at found
    split at found
    · rename_i value rest read
      split_ifs at found with blank
      obtain rfl := Option.some.inj found
      obtain ⟨n, whole, worth⟩ := readNumeral_sound read
      rw [whole] at parts
      exact ⟨_, rest, n, parts.symm, List.all_takeWhile, blank, worth⟩
    · cases found
  · rintro ⟨before, after, n, shape, front, blank, rfl⟩
    unfold numeral
    rw [dropWhile_shape shape front, readNumeral_text n (ends_of_blank blank)]
    exact if_pos blank

theorem parseFloat_of_numeral {text : List Char} {q : ℚ} (found : numeral text = some q) :
    parseFloat (withoutMarks text) = .finite q := by
  obtain ⟨before, after, n, shape, front, blank, rfl⟩ := numeral_eq_some_iff.mp found
  have start := dropWhile_shape shape front
  have word : ¬"Infinity".toList.isPrefixOf (n.body ++ after) = true := by
    intro infinite
    obtain ⟨more, same⟩ := List.isPrefixOf_iff_prefix.mp infinite
    have first := n.head_body after 'I' (by rw [← same]; rfl)
    exact absurd first (by decide)
  unfold parseFloat
  dsimp only
  rw [start, readSign_text]
  dsimp only
  rw [if_neg word, readNumeral_text n (ends_of_blank blank)]

/-- A number in a cell is what the cell is converted to. -/
theorem toNum_of_cellNumber (nestedText : String → String) {cell : Option JsonValue} {q : ℚ}
    (found : cellNumber cell = some q) : toNum nestedText cell = .finite q := by
  have converted : toNumber nestedText cell = .finite q := by
    unfold cellNumber at found
    split at found
    · exact congrArg JsNumber.finite (Option.some.inj found)
    · exact parseFloat_of_numeral found
    · cases found
  rw [toNum, converted]
  rfl

/-! ## The bins -/

/-- A fold by an operation below both its arguments is below all of them. -/
theorem foldl_below {r : ℚ → ℚ → Prop} (refl : ∀ a, r a a) (trans : ∀ {a b c}, r a b → r b c → r a c)
    {op : ℚ → ℚ → ℚ} (left : ∀ a b, r (op a b) a) (right : ∀ a b, r (op a b) b) (first : ℚ) (rest : List ℚ) :
    ∀ v ∈ first :: rest, r (rest.foldl op first) v := by
  induction rest generalizing first with
  | nil =>
    intro v mem
    rw [List.mem_singleton.mp mem]
    exact refl first
  | cons next rest ih =>
    have later := ih (op first next)
    rw [List.forall_mem_cons] at later
    rw [List.forall_mem_cons, List.forall_mem_cons, List.foldl_cons]
    exact ⟨trans later.1 (left first next), trans later.1 (right first next), later.2⟩

theorem bucketSize_pos {least greatest : ℚ} (ordered : least ≤ greatest) : 0 < bucketSize least greatest := by
  unfold bucketSize bins
  split_ifs with equal
  · norm_num
  · have wide : 0 < greatest - least := lt_of_le_of_ne (sub_nonneg.mpr ordered) (Ne.symm equal)
    positivity

/-- The last bin reaches the greatest value. -/
theorem greatest_le (least greatest : ℚ) : greatest ≤ least + bucketSize least greatest * (bins : ℕ) := by
  unfold bucketSize bins
  split_ifs with equal
  · linarith
  · linarith

/-- The bins are those of the values. -/
structure Histogram.Spans (h : Histogram) (values : List ℚ) : Prop where
  positive : 0 < h.bucketSize
  inside : ∀ v ∈ values, h.min ≤ v ∧ v ≤ h.edge bins
  tallied : h.counts = Bins.tally (bucket h.min h.bucketSize) bins values

theorem exists_histogramOf {values : List ℚ} (nonempty : values ≠ []) :
    ∃ h, histogramOf values = some h ∧ h.Spans values := by
  cases values with
  | nil => exact absurd rfl nonempty
  | cons first rest =>
    have below : ∀ v ∈ first :: rest, rest.foldl min first ≤ v :=
      foldl_below le_refl le_trans min_le_left min_le_right first rest
    have above : ∀ v ∈ first :: rest, v ≤ rest.foldl max first :=
      foldl_below (r := fun a b => b ≤ a) le_refl (fun one two => le_trans two one) le_max_left le_max_right first rest
    have ordered := (below first List.mem_cons_self).trans (above first List.mem_cons_self)
    refine ⟨_, rfl, bucketSize_pos ordered, fun v mem => ⟨below v mem, ?_⟩, rfl⟩
    exact (above v mem).trans (greatest_le _ _)

namespace Histogram.Spans
variable {h : Histogram} {values : List ℚ} (spans : h.Spans values)
include spans

def scale : Bins.Scale ℚ := ⟨h.min, h.bucketSize, spans.positive⟩

theorem holds_iff {v : ℚ} (mem : v ∈ values) {i : ℕ} (below : i < bins) :
    h.Holds i v ↔ bucket h.min h.bucketSize v = i :=
  (scale spans).holds_iff (spans.inside v mem).1 (spans.inside v mem).2 (Nat.le_of_lt_succ below)

theorem existsUnique {v : ℚ} (mem : v ∈ values) : ∃! i, i < bins ∧ h.Holds i v := by
  obtain ⟨i, ⟨below, held⟩, only⟩ := (scale spans).existsUnique_holds (spans.inside v mem).1 (spans.inside v mem).2
  exact ⟨i, ⟨Nat.lt_succ_of_le below, held⟩, fun j found => only j ⟨Nat.le_of_lt_succ found.1, found.2⟩⟩

theorem bucket_lt (v : ℚ) : bucket h.min h.bucketSize v < bins :=
  Nat.lt_succ_of_le ((scale spans).index_le (bins - 1) v)

end Histogram.Spans

/-! ## The rows -/

section Rows
variable (nestedText : String → String)

theorem isSome_toNum (cell : Option JsonValue) : (toNum nestedText cell).isFinite.isSome := by
  unfold toNum
  dsimp only
  split_ifs with finite
  · exact finite
  · rfl

variable {rows : List (Dict String JsonValue)} {valueKey : String}

theorem histogramValues_eq : histogramValues nestedText rows valueKey =
    (cells rows valueKey).filterMap (fun cell => (toNum nestedText cell).isFinite) := by
  rw [histogramValues, cells, List.filterMap_map, List.filterMap_map]
  rfl

/-- The filter keeps every row. -/
theorem length_histogramValues : (histogramValues nestedText rows valueKey).length = (cells rows valueKey).length := by
  rw [histogramValues_eq, List.filterMap_length_eq_length]
  exact fun cell _ => isSome_toNum nestedText cell

/-- The counts are those of the cells' bins. -/
theorem counted_cells {h : Histogram} (spans : h.Spans (histogramValues nestedText rows valueKey)) {i : ℕ}
    (below : i < bins) :
    h.counts[i]? = some ((cells rows valueKey).countP (fun cell => h.binOf nestedText cell = some i)) := by
  rw [spans.tallied, Bins.getElem?_tally _ below, histogramValues_eq, List.countP_filterMap]
  refine congrArg some (List.countP_congr fun cell _ => ?_)
  unfold Histogram.binOf
  cases (toNum nestedText cell).isFinite <;> simp

/-- All rows are counted. -/
theorem sum_counts {h : Histogram} (spans : h.Spans (histogramValues nestedText rows valueKey)) :
    h.counts.sum = (cells rows valueKey).length := by
  rw [spans.tallied, Bins.sum_tally _ (fun v _ => spans.bucket_lt v), length_histogramValues]

variable {number : Option JsonValue → Option ℚ}

/-- A row with a number is counted in the bin that holds it. -/
theorem binOf_eq_iff (agrees : ∀ cell q, number cell = some q → toNum nestedText cell = .finite q) {h : Histogram}
    (spans : h.Spans (histogramValues nestedText rows valueKey)) {cell : Option JsonValue}
    (mem : cell ∈ cells rows valueKey) {q : ℚ} (found : number cell = some q) :
    (∀ i, h.binOf nestedText cell = some i ↔ i < bins ∧ h.Holds i q) ∧ ∃! i, i < bins ∧ h.Holds i q := by
  have value : (toNum nestedText cell).isFinite = some q := by rw [agrees cell q found]; rfl
  have among : q ∈ histogramValues nestedText rows valueKey := by
    rw [histogramValues_eq, List.mem_filterMap]
    exact ⟨cell, mem, value⟩
  refine ⟨fun i => ?_, spans.existsUnique among⟩
  rw [Histogram.binOf, value, Option.map_some, Option.some.injEq]
  constructor
  · rintro rfl
    exact ⟨spans.bucket_lt q, (spans.holds_iff among (spans.bucket_lt q)).mpr rfl⟩
  · rintro ⟨below, held⟩
    exact (spans.holds_iff among below).mp held

/-- Under any notion of a cell's number that the conversion keeps, the numbers are partitioned exactly
when every row has one. -/
theorem partitions_of_agrees (agrees : ∀ cell q, number cell = some q → toNum nestedText cell = .finite q) :
    PartitionsNumbers nestedText number rows valueKey ↔ ∀ cell ∈ cells rows valueKey, (number cell).isSome := by
  have lengths : (histogramValues nestedText rows valueKey).length = (cells rows valueKey).length :=
    length_histogramValues nestedText
  by_cases nothing : histogramValues nestedText rows valueKey = []
  · rw [nothing] at lengths
    have empty : cells rows valueKey = [] := List.length_eq_zero_iff.mp lengths.symm
    rw [PartitionsNumbers, histogramViz, nothing, empty]
    exact ⟨fun _ => List.forall_mem_nil _, fun _ => List.forall_mem_nil _⟩
  · obtain ⟨h, found, spans⟩ := exists_histogramOf nothing
    rw [PartitionsNumbers, histogramViz, found]
    dsimp only
    have sum := sum_counts nestedText spans
    constructor
    · intro partitions
      exact List.countP_eq_length.mp (partitions.total.symm.trans sum)
    · intro all
      refine ⟨fun cell mem i => ?_, fun cell mem q known => (binOf_eq_iff nestedText agrees spans mem known).2,
        fun i below => counted_cells nestedText spans below, sum.trans (List.countP_eq_length.mpr all).symm⟩
      obtain ⟨q, known⟩ := Option.isSome_iff_exists.mp (all cell mem)
      rw [(binOf_eq_iff nestedText agrees spans mem known).1 i]
      constructor
      · exact fun placed => ⟨q, known, placed⟩
      · rintro ⟨q', known', placed⟩
        rw [known, Option.some.injEq] at known'
        rwa [known']

end Rows

/-- It is the same where every text that the conversion reads counts as a number. -/
theorem partitions_converted_iff (nestedText : String → String) (rows : List (Dict String JsonValue))
    (valueKey : String) :
    PartitionsNumbers nestedText (fun cell => (toNumber nestedText cell).isFinite) rows valueKey ↔
      ∀ cell ∈ cells rows valueKey, (toNumber nestedText cell).isFinite.isSome := by
  refine partitions_of_agrees nestedText fun cell q found => ?_
  rw [toNum, found]
  exact JsNumber.eq_finite found

/-- The preview partitions the numbers of a column exactly when every row has a number there. -/
theorem histogramViz_partitions_iff (nestedText : String → String) (rows : List (Dict String JsonValue))
    (valueKey : String) : PartitionsNumbers nestedText cellNumber rows valueKey ↔
      ∀ row ∈ rows, (cellNumber (row.get valueKey)).isSome := by
  rw [partitions_of_agrees nestedText (fun _ _ found => toNum_of_cellNumber nestedText found), cells,
    List.forall_mem_map]

/-! ## A row without a number -/

/-- A row with a five and a row with nothing in the column. -/
def missingCell : List (Dict String JsonValue) :=
  [Dict.empty.set "score" (.number 5), Dict.empty.set "score" .null]

/-- The empty cell is counted as a zero. -/
theorem missingCell_counted :
    histogramViz id missingCell "score" = some ⟨0, 1 / 2, [1, 0, 0, 0, 0, 0, 0, 0, 0, 1]⟩ ∧
    ¬PartitionsNumbers id cellNumber missingCell "score" := by
  refine ⟨by decide +kernel, fun partitions => ?_⟩
  have all := (partitions_of_agrees id (fun _ _ found => toNum_of_cellNumber id found)).mp partitions
  exact absurd (all (some .null) (by decide +kernel)) (by decide)

end XpBuilder.Designer
