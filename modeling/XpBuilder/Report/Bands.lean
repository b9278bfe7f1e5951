import XpBuilder.Library.Stretches
import XpBuilder.Report.Roles

/-! The bands of a report without metrics. The rows are read in the order in which the
query returns them, and a band ends where the key changes, so a combination has as many
bands as the key has stretches. Its header shows the first part of the key and its
subtotal the last. -/

namespace XpBuilder.Pdf
open Stretches

/-! ## One band for each combination -/

/-- The values of a row in the grouping columns. -/
def combination (columns : List String) (groupIdx : List Nat) (row : Dict String Value) : List Sql.Cell :=
  (keyOf columns groupIdx row).map Value.cell

/-- A header and a subtotal with all parts of the key around the rows of a combination. -/
def bandOf (columns : List String) (groupIdx : List Nat) : List (Dict String Value) → List Line
  | [] => []
  | row :: rest =>
    let parts := (keyOf columns groupIdx row).map Value.str
    .groupHeader parts :: (row :: rest).map (detail columns) ++ [.subtotal parts, .gap]

def Line.isTotal : Line → Bool
  | .totalRows _ => true
  | _ => false

/-- The table up to its last row is the bands of the combinations, one for each, whatever
their order. -/
def OneBandEach (columns : List String) (groupIdx : List Nat) (rows : List (Dict String Value))
    (table : List Line) : Prop :=
  ∃ combinations : List (List Sql.Cell), combinations.Nodup ∧
    (∀ k, k ∈ combinations ↔ k ∈ rows.map (combination columns groupIdx)) ∧
    table.filter (fun line => !line.isTotal) = combinations.flatMap (fun k =>
      bandOf columns groupIdx (rows.filter (fun row => combination columns groupIdx row = k)))

/-- The band that the loop makes of a stretch. -/
def shownBand (columns : List String) (groupIdx : List Nat) : List (Dict String Value) → List Line
  | [] => []
  | row :: rest =>
    let key := keyOf columns groupIdx row
    .groupHeader [(key.head?.map Value.str).getD ""] :: (row :: rest).map (detail columns) ++
      [.subtotal [(key.getLast?.map Value.str).getD ""], .gap]

/-! ## The loop -/

section Loop
variable {columns : List String} {groupIdx : List Nat}

theorem count_flushGroup (s : Bands) : (flushGroup s).count = s.count := by
  unfold flushGroup
  split <;> rfl

theorem groupRow_same {s : Bands} {row : Dict String Value}
    (same : s.currentKey.map (List.map Value.cell) = some (combination columns groupIdx row)) :
    groupRow columns groupIdx s row =
      { s with tableRows := s.tableRows ++ [detail columns row], count := s.count + 1 } := by
  have opened : openBand (keyOf columns groupIdx row) s = s := if_pos same
  rw [groupRow, opened]

theorem groupRow_other {s : Bands} {row : Dict String Value}
    (other : s.currentKey.map (List.map Value.cell) ≠ some (combination columns groupIdx row)) :
    groupRow columns groupIdx s row =
      ⟨(flushGroup s).tableRows ++ [.groupHeader [((keyOf columns groupIdx row).head?.map Value.str).getD ""],
        detail columns row], some (keyOf columns groupIdx row), s.count + 1⟩ := by
  have opened : openBand (keyOf columns groupIdx row) s = _ := if_neg other
  rw [groupRow, opened]
  simp [count_flushGroup]

theorem foldl_same {s : Bands} {rows : List (Dict String Value)}
    (same : ∀ row ∈ rows, s.currentKey.map (List.map Value.cell) = some (combination columns groupIdx row)) :
    rows.foldl (groupRow columns groupIdx) s =
      { s with tableRows := s.tableRows ++ rows.map (detail columns), count := s.count + rows.length } := by
  induction rows generalizing s with
  | nil => simp
  | cons row rest ih =>
    have rest_same := ih (s := { s with tableRows := s.tableRows ++ [detail columns row], count := s.count + 1 })
      (fun x mem => same x (List.mem_cons_of_mem _ mem))
    rw [List.foldl_cons, groupRow_same (same row List.mem_cons_self), rest_same]
    simp [Nat.add_assoc, Nat.add_comm]

/-- Every piece becomes a band, after what was open is closed. -/
theorem foldl_pieces {s : Bands} {gs : List (List (Dict String Value))}
    (pieces : Alternate (combination columns groupIdx) (s.currentKey.map (List.map Value.cell)) gs) :
    (flushGroup (gs.flatten.foldl (groupRow columns groupIdx) s)).tableRows =
      (flushGroup s).tableRows ++ gs.flatMap (shownBand columns groupIdx) := by
  induction gs generalizing s with
  | nil => simp
  | cons g rest ih =>
    obtain ⟨row, t, rfl, other, one, later⟩ := pieces
    rw [List.flatten_cons, List.foldl_append, List.foldl_cons, groupRow_other other]
    have own : ∀ x ∈ t, (some (keyOf columns groupIdx row)).map (List.map Value.cell) =
        some (combination columns groupIdx x) := fun x mem => (congrArg some (one x mem)).symm
    have inside := foldl_same (s := ⟨(flushGroup s).tableRows ++
      [.groupHeader [((keyOf columns groupIdx row).head?.map Value.str).getD ""], detail columns row],
      some (keyOf columns groupIdx row), s.count + 1⟩) own
    rw [inside, ih (s := ⟨_, some (keyOf columns groupIdx row), _⟩) later]
    simp [flushGroup, shownBand]

theorem groupedRows_eq (rows : List (Dict String Value)) : groupedRows columns rows groupIdx =
    (stretches (combination columns groupIdx) rows).flatMap (shownBand columns groupIdx) ++
      [.totalRows rows.length] := by
  have pieces : Alternate (combination columns groupIdx) none (stretches (combination columns groupIdx) rows) :=
    alternate_stretches rows
  have bands := foldl_pieces (s := ⟨[], none, 0⟩) pieces
  have counted : ∀ s : Bands, (rows.foldl (groupRow columns groupIdx) s).count = s.count + rows.length := by
    clear pieces bands
    induction rows with
    | nil => exact fun _ => rfl
    | cons row rest ih =>
      intro s
      have one : (groupRow columns groupIdx s row).count = s.count + 1 := by
        by_cases same : s.currentKey.map (List.map Value.cell) = some (combination columns groupIdx row)
        · rw [groupRow_same same]
        · rw [groupRow_other same]
      rw [List.foldl_cons, ih, one, List.length_cons]
      omega
  rw [flatten_stretches] at bands
  simp only [groupedRows]
  rw [bands, count_flushGroup, counted]
  simp [flushGroup]

end Loop

/-! ## When there is one band each -/

section Table
variable {columns : List String} {groupIdx : List Nat}

theorem untotalled_details (rows : List (Dict String Value)) :
    (rows.map (detail columns)).filter (fun line => !line.isTotal) = rows.map (detail columns) := by
  rw [List.filter_eq_self]
  intro line mem
  obtain ⟨row, -, rfl⟩ := List.mem_map.mp mem
  rfl

theorem untotalled_shownBand (g : List (Dict String Value)) :
    (shownBand columns groupIdx g).filter (fun line => !line.isTotal) = shownBand columns groupIdx g := by
  cases g with
  | nil => rfl
  | cons row rest =>
    have details : ((row :: rest).map (detail columns)).filter (fun line => !line.isTotal) =
        (row :: rest).map (detail columns) := untotalled_details _
    rw [shownBand, List.cons_append, List.filter_cons_of_pos rfl, List.filter_append, details]
    rfl

theorem untotalled_groupedRows (rows : List (Dict String Value)) :
    (groupedRows columns rows groupIdx).filter (fun line => !line.isTotal) =
      (stretches (combination columns groupIdx) rows).flatMap (shownBand columns groupIdx) := by
  rw [groupedRows_eq, List.filter_append, List.filter_flatMap]
  simp only [untotalled_shownBand]
  exact List.append_nil _

def Line.isHeader : Line → Bool
  | .groupHeader _ => true
  | _ => false

theorem headers_details (rows : List (Dict String Value)) :
    (rows.map (detail columns)).countP Line.isHeader = 0 := by
  rw [List.countP_eq_zero]
  intro line mem
  obtain ⟨row, -, rfl⟩ := List.mem_map.mp mem
  simp [detail, Line.isHeader]

theorem headers_shownBand {g : List (Dict String Value)} (some_row : g ≠ []) :
    (shownBand columns groupIdx g).countP Line.isHeader = 1 := by
  obtain ⟨row, rest, rfl⟩ := List.exists_cons_of_ne_nil some_row
  rw [shownBand, List.cons_append, List.countP_cons, List.countP_append, headers_details]
  rfl

theorem headers_bandOf {g : List (Dict String Value)} (some_row : g ≠ []) :
    (bandOf columns groupIdx g).countP Line.isHeader = 1 := by
  obtain ⟨row, rest, rfl⟩ := List.exists_cons_of_ne_nil some_row
  rw [bandOf, List.cons_append, List.countP_cons, List.countP_append, headers_details]
  rfl

theorem headers_flatMap {α : Type} {band : α → List Line} {gs : List α}
    (one : ∀ g ∈ gs, (band g).countP Line.isHeader = 1) :
    (gs.flatMap band).countP Line.isHeader = gs.length := by
  rw [List.countP_flatMap]
  have all : gs.map (List.countP Line.isHeader ∘ band) = gs.map (fun _ => 1) := List.map_congr_left one
  rw [all]
  simp

theorem rows_of_combination {rows : List (Dict String Value)} {k : List Sql.Cell}
    (mem : k ∈ rows.map (combination columns groupIdx)) :
    rows.filter (fun row => combination columns groupIdx row = k) ≠ [] := by
  obtain ⟨row, there, shows⟩ := List.mem_map.mp mem
  exact List.ne_nil_of_mem (List.mem_filter.mpr ⟨there, by simpa using shows⟩)

/-- There are as many headers as combinations. -/
theorem headers_of_oneBandEach {rows : List (Dict String Value)} {table : List Line}
    (each : OneBandEach columns groupIdx rows table) :
    (table.filter (fun line => !line.isTotal)).countP Line.isHeader =
      (rows.map (combination columns groupIdx)).dedup.length := by
  obtain ⟨combinations, distinct, all, same⟩ := each
  have once : ∀ k ∈ combinations, (bandOf columns groupIdx
      (rows.filter (fun row => combination columns groupIdx row = k))).countP Line.isHeader = 1 := by
    intro k mem
    exact headers_bandOf (rows_of_combination ((all k).mp mem))
  have perm : combinations.Perm (rows.map (combination columns groupIdx)).dedup := by
    apply (List.perm_ext_iff_of_nodup distinct (List.nodup_dedup _)).mpr
    intro k
    rw [all, List.mem_dedup]
  rw [same, headers_flatMap once, perm.length_eq]

theorem head?_shownBands {rows : List (Dict String Value)} (some_row : rows ≠ []) :
    ∃ shown, ((stretches (combination columns groupIdx) rows).flatMap (shownBand columns groupIdx)).head? =
      some (.groupHeader [shown]) := by
  have whole := flatten_stretches (combination columns groupIdx) rows
  cases found : stretches (combination columns groupIdx) rows with
  | nil =>
    rw [found] at whole
    exact absurd whole.symm some_row
  | cons g rest =>
    have nonempty : g ≠ [] := ne_nil_of_mem_stretches _ (found ▸ List.mem_cons_self)
    obtain ⟨row, t, rfl⟩ := List.exists_cons_of_ne_nil nonempty
    exact ⟨_, rfl⟩

/-- A header with one part is the whole of a key with one part. -/
theorem shownBand_eq (one : groupIdx.length = 1) (g : List (Dict String Value)) :
    shownBand columns groupIdx g = bandOf columns groupIdx g := by
  obtain ⟨i, rfl⟩ := List.length_eq_one_iff.mp one
  cases g with
  | nil => rfl
  | cons row rest => rfl

/-- Without groups no row has a header. -/
theorem rows_nil_of_details {rows : List (Dict String Value)} {table : List Line}
    (each : OneBandEach columns groupIdx rows table)
    (body : table.filter (fun line => !line.isTotal) = rows.map (detail columns)) : rows = [] := by
  have headers := headers_of_oneBandEach each
  rw [body, headers_details] at headers
  by_contra empty
  obtain ⟨row, rest, rfl⟩ := List.exists_cons_of_ne_nil empty
  have first : combination columns groupIdx row ∈ ((row :: rest).map (combination columns groupIdx)).dedup :=
    List.mem_dedup.mpr List.mem_cons_self
  rw [List.length_eq_zero_iff.mp headers.symm] at first
  cases first

/-- A band for each combination has the whole combination in its header, the table one part. -/
theorem length_of_bands {rows : List (Dict String Value)} {table : List Line} (some_row : rows ≠ [])
    (each : OneBandEach columns groupIdx rows table) (body : table.filter (fun line => !line.isTotal) =
      (stretches (combination columns groupIdx) rows).flatMap (shownBand columns groupIdx)) :
    groupIdx.length = 1 := by
  obtain ⟨combinations, -, all, same⟩ := each
  obtain ⟨part, heads⟩ : ∃ shown, ((stretches (combination columns groupIdx) rows).flatMap
      (shownBand columns groupIdx)).head? = some (.groupHeader [shown]) := head?_shownBands some_row
  rw [← body, same] at heads
  cases combinations with
  | nil => cases heads
  | cons k ks =>
    have filled := rows_of_combination ((all k).mp List.mem_cons_self)
    obtain ⟨r, others, members⟩ := List.exists_cons_of_ne_nil filled
    rw [List.flatMap_cons, members] at heads
    have parts := Line.groupHeader.inj (Option.some.inj heads)
    have lengths := congrArg List.length parts
    simpa [keyOf] using lengths

/-- As many headers as combinations: then no combination comes back. -/
theorem contiguous_of_bands {rows : List (Dict String Value)} {table : List Line}
    (each : OneBandEach columns groupIdx rows table) (body : table.filter (fun line => !line.isTotal) =
      (stretches (combination columns groupIdx) rows).flatMap (shownBand columns groupIdx)) :
    Contiguous (rows.map (combination columns groupIdx)) := by
  have headers := headers_of_oneBandEach each
  have one : ∀ g ∈ stretches (combination columns groupIdx) rows,
      (shownBand columns groupIdx g).countP Line.isHeader = 1 := fun g mem =>
    headers_shownBand (ne_nil_of_mem_stretches _ mem)
  rw [body, headers_flatMap one] at headers
  exact contiguous_of_length (List.nodup_dedup _) (fun k => List.mem_dedup) headers

end Table

theorem untotalled_render (raw : RawDefinition) (columns : List String) (rows : List (Dict String Value))
    (plain : raw.metrics.getD [] = []) : (render raw columns rows).filter (fun line => !line.isTotal) =
      if groupIdx raw columns = [] then rows.map (detail columns)
      else (stretches (combination columns (groupIdx raw columns)) rows).flatMap
        (shownBand columns (groupIdx raw columns)) := by
  by_cases ungrouped : groupIdx raw columns = []
  · have body : render raw columns rows = rows.map (detail columns) := by
      simp [render, plain, ungrouped]
    rw [body, untotalled_details, if_pos ungrouped]
  · have body : render raw columns rows = groupedRows columns rows (groupIdx raw columns) := by
      simp [render, plain, ungrouped]
    rw [body, untotalled_groupedRows, if_neg ungrouped]

/-- The field `k` of dataset 1, also grouped by. -/
def listed : RawDefinition :=
  ⟨none, some [⟨1, none⟩], none, some [⟨1, "k", none⟩], none, some [⟨1, "k", some "k"⟩], none, none, none⟩

def numberRow (i : Int) : Dict String Value := Dict.empty.set "k" (.int i)

theorem numberRow_typed (i : Int) (name : String) : ((numberRow i).get name).map Value.cell =
    (SqlBuilder.recordOf ["k"] [.number i]).get name := by
  by_cases own : name = "k"
  · simp [numberRow, SqlBuilder.recordOf, own, Value.cell]
  · simp [numberRow, SqlBuilder.recordOf, own]

/-- The table of dataset 1, in which the 1 comes back after the 2. -/
def mixedRows : DatabaseState := fun _ =>
  [fun _ => .number 1, fun _ => .number 2, fun _ => .number 1]

end XpBuilder.Pdf
