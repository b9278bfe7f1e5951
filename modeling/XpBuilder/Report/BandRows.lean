import XpBuilder.Report.Bands
import XpBuilder.Report.PdfTexts

/-! The grouped table as the PDF gets it: rows of paragraphs, one for each column. A position
outside the columns and a header without a cell are refused, as Python refuses them. -/

namespace XpBuilder.Pdf
open Stretches

/-! ## The code -/

/-- The names in `_styles` that a table uses. -/
inductive CellStyle where
  | group
  | total
  | cell
  deriving DecidableEq, Repr

/-- `Paragraph(text, style)` -/
structure TableCell where
  paragraph : Paragraph
  style : CellStyle
  deriving DecidableEq, Repr

/-- `Paragraph("", styles["cell"])` -/
def blankCell : TableCell := ⟨.plain [], .cell⟩

/-- `_cell` -/
def cellOf (value : Value) : TableCell := ⟨.plain (cellText value).toList, .cell⟩

/-- `f"<b>{caption}: {value}</b>"` -/
def captioned (style : CellStyle) (caption value : List Char) : TableCell :=
  ⟨.bold (caption ++ ": ".toList ++ value), style⟩

/-- What `_grouped_rows` has while it reads the rows. -/
structure TableBands where
  tableRows : List (List TableCell)
  currentKey : Option (List Value)
  count : Nat

section Code
variable (columns : List String) (groupIdx : List Nat)

/-- A caption in the first cell, in front of empty ones. -/
def captionRow (first : TableCell) : List TableCell := first :: List.replicate (columns.length - 1) blankCell

def blankRow : List TableCell := columns.map (fun _ => blankCell)

def detailRow (row : Dict String Value) : List TableCell := columns.map (fun col => cellOf (valueAt row col))

/-- `_flush_group` -/
def flushRows (s : TableBands) : TableBands :=
  if s.tableRows = [] then s
  else
    let last := match s.currentKey with
      | some key => (key.getLast?.map Value.str).getD ""
      | none => ""
    { s with tableRows := s.tableRows ++
        [captionRow columns (captioned .total "Subtotal".toList last.toList), blankRow columns] }

/-- `tuple(row.get(columns[i], "") for i in group_idx)` -/
def keyAt (row : Dict String Value) : Option (List Value) :=
  groupIdx.mapM (fun i => columns[i]?.map (valueAt row))

/-- `group_header[0] = …` -/
def headerRow (first : List Char) : Option (List TableCell) :=
  match blankRow columns with
  | [] => none
  | _ :: rest => some (captioned .group "Group".toList first :: rest)

def openRows (key : List Value) (s : TableBands) : Option TableBands :=
  if s.currentKey.map (List.map Value.cell) = some (key.map Value.cell) then some s
  else do
    let flushed := flushRows columns s
    let header ← headerRow columns ((key.head?.map Value.str).getD "").toList
    return { flushed with currentKey := some key, tableRows := flushed.tableRows ++ [header] }

def readRow (s : TableBands) (row : Dict String Value) : Option TableBands := do
  let key ← keyAt columns groupIdx row
  let opened ← openRows columns key s
  return { opened with tableRows := opened.tableRows ++ [detailRow columns row], count := opened.count + 1 }

/-- `Total rows: …` -/
def totalRow (count : Nat) : List TableCell :=
  captionRow columns (captioned .total "Total rows".toList (toString count).toList)

/-- `_grouped_rows` -/
def groupedTable (rows : List (Dict String Value)) : Option (List (List TableCell)) := do
  let read ← rows.foldlM (readRow columns groupIdx) ⟨[], none, 0⟩
  let s := flushRows columns read
  return s.tableRows ++ [totalRow columns s.count]

/-! ## What it is for -/

/-- The rows of a run between its header and its subtotal. The header has the first part of the
key, the subtotal the last. -/
def bandRows : List (Dict String Value) → List (List TableCell)
  | [] => []
  | row :: rest =>
    let key := keyOf columns groupIdx row
    (captionRow columns (captioned .group "Group".toList ((key.head?.map Value.str).getD "").toList) ::
      (row :: rest).map (detailRow columns)) ++
    [captionRow columns (captioned .total "Subtotal".toList ((key.getLast?.map Value.str).getD "").toList),
      blankRow columns]

end Code

/-! ## The lines as rows of cells -/

section Lines
variable {columns : List String} {groupIdx : List Nat}

/-- The cells of a line. A band of sums has its own number of cells. -/
def laidOut (columns : List String) : Line → List TableCell
  | .cells texts => texts.map (fun t => ⟨.plain t.toList, .cell⟩)
  | .groupHeader shown => captionRow columns (captioned .group "Group".toList (shown.flatMap String.toList))
  | .subtotal shown => captionRow columns (captioned .total "Subtotal".toList (shown.flatMap String.toList))
  | .gap => blankRow columns
  | .totalRows count => totalRow columns count
  | .grandTotal cells => cells.map (fun c => ⟨totalParagraph c, if c = .blank then .cell else .total⟩)

def Bands.laidOut (columns : List String) (s : Bands) : TableBands :=
  ⟨s.tableRows.map (Pdf.laidOut columns), s.currentKey, s.count⟩

theorem laidOut_detail (row : Dict String Value) : laidOut columns (detail columns row) = detailRow columns row := by
  simp [laidOut, detail, detailRow, cellOf]

theorem headerRow_eq (nonempty : columns ≠ []) (first : List Char) :
    headerRow columns first = some (captionRow columns (captioned .group "Group".toList first)) := by
  obtain ⟨c, rest, rfl⟩ := List.exists_cons_of_ne_nil nonempty
  have tail : rest.map (fun _ => blankCell) = List.replicate rest.length blankCell := List.map_const'
  simp only [headerRow, blankRow, List.map_cons, captionRow, List.length_cons, Nat.add_sub_cancel, tail]

theorem keyAt_eq (inside : ∀ i ∈ groupIdx, i < columns.length) (row : Dict String Value) :
    keyAt columns groupIdx row = some (keyOf columns groupIdx row) := by
  unfold keyAt keyOf
  induction groupIdx with
  | nil => rfl
  | cons i rest ih =>
    rw [List.forall_mem_cons] at inside
    have there : columns[i]? = some (columns.getD i "") := by
      rw [List.getD_eq_getElem?_getD, List.getElem?_eq_getElem inside.1, Option.getD_some]
    rw [List.mapM_cons, ih inside.2, there]
    rfl

theorem laidOut_flushGroup (s : Bands) : (flushGroup s).laidOut columns = flushRows columns (s.laidOut columns) := by
  unfold flushGroup flushRows
  have same : (s.laidOut columns).tableRows = [] ↔ s.tableRows = [] := List.map_eq_nil_iff
  by_cases empty : s.tableRows = []
  · rw [if_pos empty, if_pos (same.mpr empty)]
  · rw [if_neg empty, if_neg (mt same.mp empty)]
    obtain ⟨tableRows, currentKey, count⟩ := s
    cases currentKey <;>
      simp only [Bands.laidOut, List.map_append, List.map_cons, List.map_nil, laidOut, List.flatMap_singleton]

/-- What a row does to the table it does to the lines. -/
theorem readRow_laidOut (nonempty : columns ≠ []) (inside : ∀ i ∈ groupIdx, i < columns.length) (s : Bands)
    (row : Dict String Value) :
    readRow columns groupIdx (s.laidOut columns) row = some ((groupRow columns groupIdx s row).laidOut columns) := by
  have opened : openRows columns (keyOf columns groupIdx row) (s.laidOut columns) =
      some ((openBand (keyOf columns groupIdx row) s).laidOut columns) := by
    unfold openRows openBand
    by_cases same : s.currentKey.map (List.map Value.cell) = some ((keyOf columns groupIdx row).map Value.cell)
    · rw [if_pos same]
      exact if_pos same
    · rw [if_neg same]
      refine (if_neg same).trans ?_
      rw [headerRow_eq nonempty, ← laidOut_flushGroup]
      simp [Bands.laidOut, laidOut]
  rw [readRow, keyAt_eq inside]
  simp only [Option.bind_eq_bind, Option.bind_some, opened]
  simp [groupRow, Bands.laidOut, laidOut_detail]

theorem foldlM_laidOut (nonempty : columns ≠ []) (inside : ∀ i ∈ groupIdx, i < columns.length) (s : Bands)
    (rows : List (Dict String Value)) : rows.foldlM (readRow columns groupIdx) (s.laidOut columns) =
      some ((rows.foldl (groupRow columns groupIdx) s).laidOut columns) := by
  induction rows generalizing s with
  | nil => rfl
  | cons row rest ih =>
    rw [List.foldlM_cons, readRow_laidOut nonempty inside, List.foldl_cons]
    exact ih _

/-- The table is the lines, laid out. -/
theorem groupedTable_eq (nonempty : columns ≠ []) (inside : ∀ i ∈ groupIdx, i < columns.length)
    (rows : List (Dict String Value)) :
    groupedTable columns groupIdx rows = some ((groupedRows columns rows groupIdx).map (laidOut columns)) := by
  have read := foldlM_laidOut nonempty inside ⟨[], none, 0⟩ rows
  have start : (⟨[], none, 0⟩ : Bands).laidOut columns = ⟨[], none, 0⟩ := rfl
  rw [start] at read
  rw [groupedTable, read]
  simp only [Option.bind_eq_bind, Option.bind_some, ← laidOut_flushGroup]
  simp [groupedRows, Bands.laidOut, laidOut]

theorem laidOut_shownBand (run : List (Dict String Value)) :
    (shownBand columns groupIdx run).map (laidOut columns) = bandRows columns groupIdx run := by
  cases run with
  | nil => rfl
  | cons row rest =>
    have details : (rest.map (detail columns)).map (laidOut columns) = rest.map (detailRow columns) := by
      rw [List.map_map]
      exact List.map_congr_left (fun other _ => laidOut_detail other)
    simp only [shownBand, bandRows, List.cons_append, List.map_cons, List.map_append, details, laidOut_detail]
    simp [laidOut]

/-! ## The width of a row -/

theorem length_captionRow (nonempty : columns ≠ []) (first : TableCell) :
    (captionRow columns first).length = columns.length := by
  have some_column := List.length_pos_iff.mpr nonempty
  rw [captionRow, List.length_cons, List.length_replicate]
  omega

theorem length_bandRows (nonempty : columns ≠ []) {run : List (Dict String Value)} :
    ∀ cells ∈ bandRows columns groupIdx run, cells.length = columns.length := by
  cases run with
  | nil => exact fun _ none => nomatch none
  | cons row rest =>
    have details : ∀ cells ∈ (row :: rest).map (detailRow columns), cells.length = columns.length := by
      intro cells mem
      obtain ⟨other, -, rfl⟩ := List.mem_map.mp mem
      exact List.length_map _
    simp only [bandRows, List.forall_mem_append, List.forall_mem_cons]
    refine ⟨⟨length_captionRow nonempty _, details⟩, length_captionRow nonempty _,
      List.length_map _, fun _ none => nomatch none⟩

end Lines

/-- There is one way to cut the rows into maximal runs of one key. The table has a band for each
run, and the number of rows in its last line. -/
theorem groupedTable_bands (columns : List String) (groupIdx : List Nat) (rows : List (Dict String Value))
    (nonempty : columns ≠ []) (inside : ∀ i ∈ groupIdx, i < columns.length) :
    ∃ runs, MaximalRuns (combination columns groupIdx) rows runs ∧
      (∀ others, MaximalRuns (combination columns groupIdx) rows others → others = runs) ∧
      ∃ table, groupedTable columns groupIdx rows = some table ∧
        table = runs.flatMap (bandRows columns groupIdx) ++ [totalRow columns rows.length] ∧
        ∀ cells ∈ table, cells.length = columns.length := by
  have cut : MaximalRuns (combination columns groupIdx) rows (stretches (combination columns groupIdx) rows) :=
    maximalRuns_stretches rows
  refine ⟨_, cut, fun others maximal => maximal.eq cut, _, groupedTable_eq nonempty inside rows, ?_⟩
  have table : (groupedRows columns rows groupIdx).map (laidOut columns) =
      (stretches (combination columns groupIdx) rows).flatMap (bandRows columns groupIdx) ++
        [totalRow columns rows.length] := by
    rw [groupedRows_eq, List.map_append, List.map_flatMap]
    simp only [laidOut_shownBand]
    rfl
  refine ⟨table, ?_⟩
  rw [table, List.forall_mem_append, List.forall_mem_flatMap, List.forall_mem_singleton]
  exact ⟨fun run _ => length_bandRows nonempty, length_captionRow nonempty _⟩

/-- Two rows without a key and one with the empty text as key. -/
def unkeyedRows : List (Dict String Value) :=
  [Dict.empty.set "k" .null, (Dict.empty.set "k" .null).set "v" (.int 2), Dict.empty.set "v" (.int 3)]

theorem unkeyedRows_bands :
    ∃ runs, MaximalRuns (combination ["k", "v"] [0]) unkeyedRows runs ∧
      (∀ others, MaximalRuns (combination ["k", "v"] [0]) unkeyedRows others → others = runs) ∧
      ∃ table, groupedTable ["k", "v"] [0] unkeyedRows = some table ∧
        table = runs.flatMap (bandRows ["k", "v"] [0]) ++ [totalRow ["k", "v"] 3] ∧
        ∀ cells ∈ table, cells.length = 2 :=
  groupedTable_bands ["k", "v"] [0] unkeyedRows (by decide) (by decide)

example : stretches (combination ["k", "v"] [0]) unkeyedRows = [unkeyedRows.take 2, unkeyedRows.drop 2] := by decide

example : groupedTable ["k"] [0] [] = some [totalRow ["k"] 0] := rfl

end XpBuilder.Pdf
