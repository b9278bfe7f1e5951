import Mathlib.Data.List.GetD
import XpBuilder.Staging.Names
import XpBuilder.Staging.Parts

/-! Uploads in parts: a file is replaced by its first part, and later parts append to
it. The table is that of one upload of the whole exactly when every column is. -/

namespace XpBuilder
open Sql (Cell)
open PythonText (lower upper)

namespace Staging
variable (S : Storage) (P : Reader)

/-! ## The whole table -/

theorem normalizeColumns_length (earlier header : List String) :
    (normalizeColumns earlier header).length = header.length := by
  induction header generalizing earlier with
  | nil => rfl
  | cons n rest ih => simp [normalizeColumns, ih]

theorem normalizeColumns_ne_nil (earlier : List String) {header : List String} (some_column : header ≠ []) :
    normalizeColumns earlier header ≠ [] := by
  intro none
  have lengths := normalizeColumns_length earlier header
  rw [none] at lengths
  exact some_column (List.length_eq_zero_iff.mp lengths.symm)

theorem normalizeColumns_fresh (earlier header : List String) :
    (normalizeColumns earlier header).Nodup ∧ ∀ n ∈ normalizeColumns earlier header, n ∉ earlier := by
  induction header generalizing earlier with
  | nil => simp [normalizeColumns]
  | cons n rest ih =>
    obtain ⟨k, result, fresh, -⟩ := normalizeColumnName_eq n earlier
    have new : normalizeColumnName n earlier ∉ earlier := by rwa [result]
    obtain ⟨distinct, apart⟩ := ih (normalizeColumnName n earlier :: earlier)
    simp only [normalizeColumns, List.nodup_cons, List.forall_mem_cons]
    refine ⟨⟨fun again => apart _ again List.mem_cons_self, distinct⟩, new, fun m mem old => ?_⟩
    exact apart m mem (List.mem_cons_of_mem _ old)

theorem normalizeColumns_isName (earlier header : List String) :
    ∀ n ∈ normalizeColumns earlier header, PythonText.IsName n := by
  induction header generalizing earlier with
  | nil => simp [normalizeColumns]
  | cons n rest ih =>
    simp only [normalizeColumns, List.forall_mem_cons]
    exact ⟨normalizeColumnName_isName n earlier, ih _⟩

theorem readCsv_rename (header names : List String) (rows : List (List String))
    (lengths : names.length = header.length) :
    (P.readCsv header rows).rename names = P.readCsv names rows := by
  simp only [Frame.rename, Reader.readCsv, Frame.mk.injEq]
  apply List.ext_getElem
  · simp [lengths]
  · intro i left right
    simp

theorem readCsv_height {names : List String} (some_column : names ≠ []) (rows : List (List String)) :
    (P.readCsv names rows).height = rows.length := by
  cases names with
  | nil => exact absurd rfl some_column
  | cons n rest => simp [Frame.height, Reader.readCsv, Reader.series, Reader.columnTexts]

theorem rows_by_index {α β : Type} (names : List String) (rows : List (List String))
    (read : String × Nat → String → α) (missing : α) (store : String × Nat → α → β) :
    (List.range rows.length).map (fun i => names.zipIdx.map (fun n =>
      store n (((Reader.columnTexts rows n.2).map (read n)).getD i missing))) =
    rows.map (fun row => names.zipIdx.map (fun n => store n (read n (row.getD n.2 "")))) := by
  apply List.ext_getElem
  · simp
  · intro i left right
    have bound : i < rows.length := by simpa using right
    simp only [List.getElem_map, List.getElem_range]
    apply List.map_congr_left
    intro n _
    have inside : i < ((Reader.columnTexts rows n.2).map (read n)).length := by
      simpa [Reader.columnTexts] using bound
    rw [List.getD_eq_getElem _ _ inside]
    simp [Reader.columnTexts]

/-- The columns of a table that was made from these rows. -/
def columnsFrom (names : List String) (first : List (List String)) : List (String × String × Bool) :=
  names.zipIdx.map (fun n => (n.1, Kind.column (P.infer (Reader.columnTexts first n.2)), true))

def replacedRows (names : List String) (rows : List (List String)) : List (List Cell) :=
  rows.map (fun row => names.zipIdx.map (fun n =>
    replacedCell S P (P.infer (Reader.columnTexts rows n.2)) (row.getD n.2 "")))

def appendedRows (names : List String) (first part : List (List String)) : List (List Cell) :=
  part.map (fun row => names.zipIdx.map (fun n =>
    appendedCell S P (P.infer (Reader.columnTexts first n.2)) (Reader.columnTexts part n.2)
      (row.getD n.2 "")))

section Table
variable {S P} {names : List String}

theorem readCsv_keys (rows : List (List String)) (distinct : names.Nodup) :
    ((P.readCsv names rows).columns.map Prod.fst).Nodup := by
  simpa [Reader.readCsv, Function.comp_def] using distinct

theorem columnType_readCsv {dialect : String} (mysql : TableSchema.isMysql (lower dialect))
    (distinct : names.Nodup) (rows : List (List String)) {c : String × Series}
    (mem : c ∈ (P.readCsv names rows).columns) :
    columnType (stagingDtypes (P.readCsv names rows) dialect) c =
      if c.2.dtype = .object then "LONGTEXT" else DType.sqlType c.2.dtype := by
  have found := Lists.lookup_map_filter Prod.fst (readCsv_keys rows distinct)
    (fun c => c.2.dtype = .object) "LONGTEXT" mem
  simp only [columnType, stagingDtypes, mysql, if_true, found, decide_eq_true_eq]
  split
  · rfl
  · rfl

theorem column_eq (k : Kind) :
    (if k.dtype = .object then "LONGTEXT" else DType.sqlType k.dtype) = Kind.column k := by
  cases k <;> rfl

/-- The table of a replacing upload. -/
theorem newTable_readCsv {dialect : String} (mysql : TableSchema.isMysql (lower dialect))
    (distinct : names.Nodup) (some_column : names ≠ []) (rows : List (List String)) :
    newTable S P (stagingDtypes (P.readCsv names rows) dialect) (P.readCsv names rows) =
      ⟨columnsFrom P names rows, [], [], replacedRows S P names rows⟩ := by
  have type : ∀ n ∈ names.zipIdx, columnType (stagingDtypes (P.readCsv names rows) dialect)
      (n.1, P.series (P.infer (Reader.columnTexts rows n.2)) (Reader.columnTexts rows n.2)) =
        Kind.column (P.infer (Reader.columnTexts rows n.2)) := by
    intro n mem
    have inside := List.mem_map_of_mem (f := fun h : String × Nat =>
      (h.1, P.series (P.infer (Reader.columnTexts rows h.2)) (Reader.columnTexts rows h.2))) mem
    rw [columnType_readCsv mysql distinct rows inside]
    exact column_eq _
  have rows_eq : newRows S P (stagingDtypes (P.readCsv names rows) dialect) (P.readCsv names rows) =
      replacedRows S P names rows := by
    unfold newRows replacedRows
    rw [readCsv_height P some_column]
    have by_index := rows_by_index names rows
      (fun n => P.value (P.infer (Reader.columnTexts rows n.2))) .missing
      (fun n v => S.hold P (Kind.column (P.infer (Reader.columnTexts rows n.2))) v)
    refine Eq.trans ?_ by_index
    apply List.map_congr_left
    intro i _
    simp only [Reader.readCsv, List.map_map]
    apply List.map_congr_left
    intro n mem
    simp only [Function.comp_apply]
    have same := type n mem
    simp only [Reader.readCsv] at same
    rw [same]
    rfl
  unfold newTable columnsFrom
  rw [rows_eq]
  have columns_eq : (P.readCsv names rows).columns.map (fun c =>
      (c.1, columnType (stagingDtypes (P.readCsv names rows) dialect) c, true)) =
      names.zipIdx.map (fun n =>
        (n.1, Kind.column (P.infer (Reader.columnTexts rows n.2)), true)) := by
    conv_lhs => rw [Reader.readCsv, List.map_map]
    apply List.map_congr_left
    intro n mem
    exact congrArg (fun s => (n.1, s, true)) (type n mem)
  rw [columns_eq]

theorem alignSeries_values {t : StagedTable} (keyless : t.indexes = []) (name : String)
    (k₀ k : Kind) (texts : List String) :
    (alignSeries P t (name, Kind.column k₀, true) (P.series k texts)).values =
      texts.map (castCell P k₀ k texts) := by
  have plain : ∀ column, t.keepsNull column = false := by
    intro column
    simp [StagedTable.keepsNull, StagedTable.uniqueColumns, keyless]
  have number : ∀ type, startsWith (upper type) numericPrefixes →
      (alignSeries P t (name, type, true) (P.series k texts)).values =
        texts.map (P.numericCell k texts) := by
    intro type numeric
    simp only [alignSeries, numeric, if_true]
    exact P.toNumeric_values k texts
  have text : (alignSeries P t (name, "LONGTEXT", true) (P.series k texts)).values =
      texts.map (fun s => (P.value k s).blankText false) := by
    have other : startsWith (upper "LONGTEXT") numericPrefixes = false := by decide
    have undated : startsWith (upper "LONGTEXT") temporalPrefixes = false := by decide
    have textual : startsWith (upper "LONGTEXT") textPrefixes = true := by decide
    simp [alignSeries, other, undated, textual, plain, Series.blankText, Reader.series]
  cases k₀ with
  | int => exact number "BIGINT" (by decide)
  | float => exact number "DOUBLE" (by decide)
  | bool => exact number "TINYINT(1)" (by decide)
  | flags => exact text
  | object => exact text

theorem zipIdx_keys {β : Type} (distinct : names.Nodup) (g : String × Nat → β) :
    ((names.zipIdx.map (fun n => (n.1, g n))).map Prod.fst).Nodup := by
  simpa [Function.comp_def] using distinct

/-- The column of this name, among columns under distinct names. -/
theorem find?_zipIdx {β : Type} (distinct : names.Nodup) (g : String × Nat → β) {n : String × Nat}
    (mem : n ∈ names.zipIdx) :
    (names.zipIdx.map (fun n => (n.1, g n))).find? (fun c => c.1 = n.1) = some (n.1, g n) :=
  Lists.find?_key Prod.fst (zipIdx_keys distinct g)
    (List.mem_map_of_mem (f := fun n => (n.1, g n)) mem)

/-- The series of an appended part, cast to the columns of the first. -/
def castSeries (P : Reader) (t : StagedTable) (first part : List (List String)) (n : String × Nat) :
    Series :=
  alignSeries P t (n.1, Kind.column (P.infer (Reader.columnTexts first n.2)), true)
    (P.series (P.infer (Reader.columnTexts part n.2)) (Reader.columnTexts part n.2))

theorem alignToExisting_readCsv {t : StagedTable} {first : List (List String)}
    (columns : t.columns = columnsFrom P names first) (distinct : names.Nodup)
    (part : List (List String)) :
    alignToExisting P (some t) (P.readCsv names part) =
      ⟨names.zipIdx.map (fun n => (n.1, castSeries P t first part n))⟩ := by
  simp only [alignToExisting, Reader.readCsv, List.map_map, Frame.mk.injEq]
  apply List.map_congr_left
  intro n mem
  have found := find?_zipIdx distinct
    (fun n => (Kind.column (P.infer (Reader.columnTexts first n.2)), true)) mem
  simp only [Function.comp_apply, columns, columnsFrom, found]
  rfl

/-- The rows of an appending upload. -/
theorem addedRows_readCsv {t : StagedTable} {first : List (List String)}
    (columns : t.columns = columnsFrom P names first) (keyless : t.indexes = [])
    (distinct : names.Nodup) (plain : ∀ n ∈ names, PythonText.IsName n) (some_column : names ≠ [])
    (part : List (List String)) :
    addedRows S P t (alignToExisting P (some t) (P.readCsv names part)) =
      appendedRows S P names first part := by
  have values : ∀ n, (castSeries P t first part n).values = (Reader.columnTexts part n.2).map
      (castCell P (P.infer (Reader.columnTexts first n.2)) (P.infer (Reader.columnTexts part n.2))
        (Reader.columnTexts part n.2)) :=
    fun n => alignSeries_values keyless n.1 _ _ _
  have height : Frame.height ⟨names.zipIdx.map (fun n => (n.1, castSeries P t first part n))⟩ =
      part.length := by
    cases names with
    | nil => exact absurd rfl some_column
    | cons n rest => simp [Frame.height, values, Reader.columnTexts]
  have by_index := rows_by_index names part
    (fun n => castCell P (P.infer (Reader.columnTexts first n.2))
      (P.infer (Reader.columnTexts part n.2)) (Reader.columnTexts part n.2)) .missing
    (fun n v => S.hold P (Kind.column (P.infer (Reader.columnTexts first n.2))) v)
  rw [alignToExisting_readCsv columns distinct, addedRows, height, columns]
  refine Eq.trans ?_ by_index
  apply List.map_congr_left
  intro i _
  simp only [columnsFrom, List.map_map]
  apply List.map_congr_left
  intro n mem
  have name : n.1 ∈ names := by
    have inside := List.mem_map_of_mem (f := Prod.fst) mem
    rwa [List.zipIdx_map_fst] at inside
  have found := find?_zipIdx distinct (castSeries P t first part) mem
  simp only [Function.comp_apply, PythonText.lower_of_isName (plain n.1 name), found, values]

theorem forall_mem_columnTexts {rows : List (List String)} {j : Nat} {p : String → Prop} :
    (∀ t ∈ Reader.columnTexts rows j, p t) ↔ ∀ row ∈ rows, p (row.getD j "") :=
  List.forall_mem_map

/-- A row as the first upload of these rows writes it. -/
def replacedRow (S : Storage) (P : Reader) (names : List String) (rows : List (List String)) (row : List String) :
    List Cell :=
  names.zipIdx.map (fun n => replacedCell S P (P.infer (Reader.columnTexts rows n.2)) (row.getD n.2 ""))

/-- Rows written in parts, each like the whole: part for part and row for row. -/
theorem rows_eq_iff_parts (S : Storage) (P : Reader) (names : List String) (first : List (List String))
    (later : List (List (List String))) :
    replacedRows S P names first ++ later.flatMap (appendedRows S P names first) =
      replacedRows S P names (first ++ later.flatten) ↔
    replacedRows S P names first = first.map (replacedRow S P names (first ++ later.flatten)) ∧
      ∀ part ∈ later, appendedRows S P names first part =
        part.map (replacedRow S P names (first ++ later.flatten)) := by
  have whole : replacedRows S P names (first ++ later.flatten) =
      first.map (replacedRow S P names (first ++ later.flatten)) ++
        later.flatMap (fun part => part.map (replacedRow S P names (first ++ later.flatten))) := by
    have rowwise : replacedRows S P names (first ++ later.flatten) =
        (first ++ later.flatten).map (replacedRow S P names (first ++ later.flatten)) := rfl
    rw [rowwise, List.map_append, List.map_flatten, List.flatMap_def]
  have lengths : ∀ part ∈ later, (appendedRows S P names first part).length =
      (part.map (replacedRow S P names (first ++ later.flatten))).length := by
    intro part _
    simp [appendedRows]
  rw [whole, ← Lists.flatMap_eq_iff lengths]
  constructor
  · intro same
    exact List.append_inj same (by simp [replacedRows])
  · rintro ⟨head, tail⟩
    rw [head, tail]

/-- The rows agree when each column does. -/
theorem rows_eq_iff (S : Storage) (P : Reader) (names : List String) (first : List (List String)) (later : List (List (List String))) :
    replacedRows S P names first ++ later.flatMap (appendedRows S P names first) =
      replacedRows S P names (first ++ later.flatten) ↔
    ∀ n ∈ names.zipIdx, SameCells S P (Reader.columnTexts first n.2)
      (later.map (fun part => Reader.columnTexts part n.2)) := by
  have texts : ∀ j, Reader.columnTexts (first ++ later.flatten) j =
      Reader.columnTexts first j ++ (later.map (fun part => Reader.columnTexts part j)).flatten := by
    intro j
    simp [Reader.columnTexts, List.map_flatten]
  have cells : ∀ n : String × Nat, SameCells S P (Reader.columnTexts first n.2)
      (later.map (fun part => Reader.columnTexts part n.2)) ↔
      (∀ row ∈ first, replacedCell S P (P.infer (Reader.columnTexts first n.2)) (row.getD n.2 "") =
        replacedCell S P (P.infer (Reader.columnTexts (first ++ later.flatten) n.2))
          (row.getD n.2 "")) ∧
      ∀ part ∈ later, ∀ row ∈ part, appendedCell S P (P.infer (Reader.columnTexts first n.2))
          (Reader.columnTexts part n.2) (row.getD n.2 "") =
        replacedCell S P (P.infer (Reader.columnTexts (first ++ later.flatten) n.2))
          (row.getD n.2 "") := by
    intro n
    unfold SameCells
    rw [← texts]
    simp only [List.forall_mem_map, forall_mem_columnTexts]
  rw [rows_eq_iff_parts]
  simp only [cells]
  unfold replacedRows appendedRows replacedRow
  simp only [List.map_inj_left]
  constructor
  · rintro ⟨own, others⟩ n mem
    exact ⟨fun row there => own row there n mem,
      fun part there row inside => others part there row inside n mem⟩
  · intro each
    exact ⟨fun row there n mem => (each n mem).1 row there,
      fun part there row inside n mem => (each n mem).2 part there row inside⟩

end Table

/-! ## Uploads -/

/-- One part, sent as a file. -/
def uploadPart (env : StagingEnv) (databaseId : Nat) (d : Database) (r : UploadRequest)
    (file : List (List String) → String) (mode : String) (s : Staging) (rows : List (List String)) :
    Staging :=
  (ingestExcel env databaseId d { r with content := file rows, mode := mode } s).2

/-- The first part replaces the table, later parts append to it. -/
def uploadParts (env : StagingEnv) (databaseId : Nat) (d : Database) (r : UploadRequest)
    (file : List (List String) → String) (first : List (List String))
    (later : List (List (List String))) (s : Staging) : Staging :=
  later.foldl (uploadPart env databaseId d r file "append")
    (uploadPart env databaseId d r file "replace" s first)

section Upload
variable {S} {env : StagingEnv} {databaseId : Nat} {d : Database} {r : UploadRequest}
  {file : List (List String) → String} {header : List String} {rows : List (List String)}

theorem readDataframe_csv (csv : ".csv".toList.isSuffixOf (lower r.filename).toList)
    (read : env.pandas.csv (file rows) = some (header, rows)) :
    readDataframe env.pandas (file rows) r.filename = some (env.pandas.readCsv header rows) := by
  rw [readDataframe, if_pos csv, read]
  rfl

/-- A file without columns or without rows is refused. -/
theorem uploadPart_empty (csv : ".csv".toList.isSuffixOf (lower r.filename).toList)
    (read : env.pandas.csv (file rows) = some (header, rows))
    (empty : (env.pandas.readCsv header rows).isEmpty) (mode : String) (s : Staging) :
    uploadPart env databaseId d r file mode s rows = s := by
  simp only [uploadPart, ingestExcel, readDataframe_csv csv read, empty, if_true]

theorem uploadPart_columnless (csv : ".csv".toList.isSuffixOf (lower r.filename).toList)
    (read : env.pandas.csv (file rows) = some ([], rows)) (mode : String) (s : Staging) :
    uploadPart env databaseId d r file mode s rows = s :=
  uploadPart_empty csv read rfl mode s

/-- An upload writes where it inspects, on connections that keep to the schema asked for. -/
theorem placeOf_eq_place (connects : ∀ schema, d.engine.schemaOf (some schema) = some schema)
    (r : UploadRequest) (stamp : String) :
    d.placeOf r.schema (stagingName r.tableName stamp) = r.place d stamp := by
  unfold Database.placeOf UploadRequest.place
  cases schema : r.schema with
  | none => rfl
  | some name => rw [connects, Option.some_or]

/-- What an upload of a part leaves at its place. -/
theorem uploadPart_tables (csv : ".csv".toList.isSuffixOf (lower r.filename).toList)
    (read : env.pandas.csv (file rows) = some (header, rows)) (some_column : header ≠ [])
    (some_row : rows ≠ []) (mode : String) (s : Staging) :
    let names := normalizeColumns [] header
    let frame := if lower mode = "append" then
        alignToExisting env.pandas.toReader
          (s.tables (d.placeOf r.schema (stagingName r.tableName env.stamp)))
          (env.pandas.readCsv names rows)
      else env.pandas.readCsv names rows
    (uploadPart env databaseId d r file mode s rows).tables (r.place d env.stamp) =
      (d.engine.toSql (s.tables (r.place d env.stamp)) frame (lower mode = "append")
        (if lower mode = "append" then [] else stagingDtypes frame d.engine.dialect)).table := by
  have full : (env.pandas.readCsv header rows).isEmpty = false := by
    simp [Frame.isEmpty, readCsv_height _ some_column, some_row]
  have names : (env.pandas.readCsv header rows).names = header := by
    simp [Frame.names, Reader.readCsv, Function.comp_def]
  have renamed := readCsv_rename env.pandas.toReader header (normalizeColumns [] header) rows
    (normalizeColumns_length [] header)
  simp only [uploadPart, ingestExcel, readDataframe_csv csv read, full, names, renamed,
    decide_eq_true_eq, UploadRequest.place, Bool.false_eq_true, if_false]
  split
  · simp [put]
  · simp [put]

theorem uploadPart_replace (writes : Writes S env.pandas.toReader d.engine)
    (csv : ".csv".toList.isSuffixOf (lower r.filename).toList)
    (read : env.pandas.csv (file rows) = some (header, rows)) (some_column : header ≠ [])
    (some_row : rows ≠ []) (s : Staging) :
    (uploadPart env databaseId d r file "replace" s rows).tables (r.place d env.stamp) =
      some ⟨columnsFrom env.pandas.toReader (normalizeColumns [] header) rows, [], [],
        replacedRows S env.pandas.toReader (normalizeColumns [] header) rows⟩ := by
  have kind : ¬lower "replace" = "append" := by decide
  have named : normalizeColumns [] header ≠ [] := normalizeColumns_ne_nil [] some_column
  rw [uploadPart_tables csv read some_column some_row]
  simp only [kind, if_false, decide_false, writes.replace]
  rw [newTable_readCsv writes.mysql (normalizeColumns_fresh [] header).1 named]

theorem uploadPart_append (databaseId : Nat) (writes : Writes S env.pandas.toReader d.engine)
    (inspected : d.placeOf r.schema (stagingName r.tableName env.stamp) = r.place d env.stamp)
    (csv : ".csv".toList.isSuffixOf (lower r.filename).toList)
    (read : env.pandas.csv (file rows) = some (header, rows)) (some_column : header ≠ [])
    (some_row : rows ≠ []) {s : Staging} {first : List (List String)} {stored : List (List Cell)}
    (there : s.tables (r.place d env.stamp) =
      some ⟨columnsFrom env.pandas.toReader (normalizeColumns [] header) first, [], [], stored⟩) :
    (uploadPart env databaseId d r file "append" s rows).tables (r.place d env.stamp) =
      some ⟨columnsFrom env.pandas.toReader (normalizeColumns [] header) first, [], [], stored ++
        appendedRows S env.pandas.toReader (normalizeColumns [] header) first rows⟩ := by
  have kind : lower "append" = "append" := by decide
  have distinct := (normalizeColumns_fresh [] header).1
  have named : normalizeColumns [] header ≠ [] := normalizeColumns_ne_nil [] some_column
  have added := addedRows_readCsv (S := S) (P := env.pandas.toReader)
    (t := ⟨columnsFrom env.pandas.toReader (normalizeColumns [] header) first, [], [], stored⟩)
    rfl rfl distinct (normalizeColumns_isName [] header) named rows
  rw [uploadPart_tables csv read some_column some_row]
  simp only [kind, if_true, decide_true, inspected, there]
  rw [writes.append, added]
  apply writes.free
  · rfl
  · rfl
  · rw [alignToExisting_readCsv rfl distinct]
    intro n mem
    have inside : n ∈ normalizeColumns [] header := by
      simpa [Frame.names, Function.comp_def] using mem
    have lowered := PythonText.lower_of_isName (normalizeColumns_isName [] header n inside)
    obtain ⟨i, bound, at_i⟩ := List.getElem_of_mem inside
    simp only [columnsFrom, List.map_map, List.mem_map, Function.comp_apply]
    refine ⟨(n, i), ?_, lowered⟩
    rw [List.mem_zipIdx_iff_getElem?, ← at_i]
    exact List.getElem?_eq_getElem bound
  · simp [columnsFrom]

/-- The first part gives the columns, and every part its rows. -/
theorem uploadParts_tables (writes : Writes S env.pandas.toReader d.engine)
    (inspected : d.placeOf r.schema (stagingName r.tableName env.stamp) = r.place d env.stamp)
    (csv : ".csv".toList.isSuffixOf (lower r.filename).toList) (some_column : header ≠ [])
    {first : List (List String)} {later : List (List (List String))}
    (files : ∀ rows ∈ first :: later, env.pandas.csv (file rows) = some (header, rows))
    (parts : ∀ part ∈ first :: later, part ≠ []) (s : Staging) :
    (uploadParts env databaseId d r file first later s).tables (r.place d env.stamp) =
      some ⟨columnsFrom env.pandas.toReader (normalizeColumns [] header) first, [], [],
        replacedRows S env.pandas.toReader (normalizeColumns [] header) first ++
          later.flatMap (appendedRows S env.pandas.toReader (normalizeColumns [] header) first)⟩ := by
  rw [List.forall_mem_cons] at files parts
  have run : ∀ (later : List (List (List String))) (s : Staging) (stored : List (List Cell)),
      (∀ rows ∈ later, env.pandas.csv (file rows) = some (header, rows)) →
      (∀ part ∈ later, part ≠ []) → s.tables (r.place d env.stamp) =
        some ⟨columnsFrom env.pandas.toReader (normalizeColumns [] header) first, [], [], stored⟩ →
      (later.foldl (uploadPart env databaseId d r file "append") s).tables (r.place d env.stamp) =
        some ⟨columnsFrom env.pandas.toReader (normalizeColumns [] header) first, [], [], stored ++
          later.flatMap (appendedRows S env.pandas.toReader (normalizeColumns [] header) first)⟩ := by
    intro later
    induction later with
    | nil => simp
    | cons part rest ih =>
      intro s stored files parts there
      rw [List.forall_mem_cons] at files parts
      have step := uploadPart_append databaseId writes inspected csv files.1
        some_column parts.1 there
      rw [List.foldl_cons, ih _ _ files.2 parts.2 step, List.flatMap_cons, List.append_assoc]
  exact run later _ _ files.2 parts.2 (uploadPart_replace writes csv files.1 some_column parts.1 s)

/-- The texts of every column are parts that are stored as the whole is. -/
def PartsTransparent (S : Storage) (P : Reader) (header : List String) (first : List (List String))
    (later : List (List (List String))) : Prop :=
  ∀ j < header.length, Transparent S P (Reader.columnTexts first j)
    (later.map (fun part => Reader.columnTexts part j))

/-- The first part gives every column the type that the whole gives it. -/
def PartsTyped (P : Reader) (header : List String) (first : List (List String))
    (later : List (List (List String))) : Prop :=
  ∀ j < header.length, Kind.column (P.infer (Reader.columnTexts first j)) =
    Kind.column (P.infer (Reader.columnTexts (first ++ later.flatten) j))

theorem forall_zipIdx_iff (header : List String) {p : Nat → Prop} :
    (∀ n ∈ (normalizeColumns [] header).zipIdx, p n.2) ↔ ∀ j < header.length, p j := by
  constructor
  · intro each j bound
    have inside : j < (normalizeColumns [] header).length := by
      rwa [normalizeColumns_length]
    exact each ((normalizeColumns [] header)[j], j)
      (List.mem_zipIdx_iff_getElem?.mpr (List.getElem?_eq_getElem inside))
  · intro each n mem
    have bound := List.snd_lt_of_mem_zipIdx mem
    rw [normalizeColumns_length] at bound
    exact each n.2 (by omega)

theorem columnsFrom_eq_iff (P : Reader) (first rows : List (List String)) :
    columnsFrom P (normalizeColumns [] header) first =
      columnsFrom P (normalizeColumns [] header) rows ↔
    ∀ j < header.length, Kind.column (P.infer (Reader.columnTexts first j)) =
      Kind.column (P.infer (Reader.columnTexts rows j)) := by
  unfold columnsFrom
  rw [List.map_inj_left, ← forall_zipIdx_iff header]
  simp

def notesEnv : StagingEnv where
  user := some 1
  databases _ := none
  pandas := commaFiles Reader.verbatim
  stamp := "20250101_000000"
  external := some
  refused := none

def notesDatabase : Database := ⟨1, true, storing plain Reader.verbatim⟩

def notesUpload : UploadRequest := ⟨"", "notes.csv", some "notes", none, "replace"⟩

def notesFile (rows : List (List String)) : String :=
  "name,note" ++ String.join (rows.map (fun row => "\n" ++ String.intercalate "," row))

/-- A note in every row. -/
theorem notes_transparent : PartsTransparent plain Reader.verbatim ["name", "note"]
    [["ann", "x"]] [[["bob", "y"]]] := by
  intro j bound
  have either : j = 0 ∨ j = 1 := by
    simp at bound
    omega
  obtain rfl | rfl := either
  · exact transparent_of_object (by decide) (by decide) (by decide)
  · exact transparent_of_object (by decide) (by decide) (by decide)

end Upload

end Staging
end XpBuilder
