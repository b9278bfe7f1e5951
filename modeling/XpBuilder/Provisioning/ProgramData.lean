import XpBuilder.Library.Fallible
import XpBuilder.PythonText

/-! `normalise_program_data`. The export is read by `csv.DictReader`, which keeps what a row has beyond
the header as a list under the key `None`; every name and every value is stripped, and the rows that
name a teacher are written with the columns of the dataset. -/

namespace XpBuilder.Provisioning.ProgramData
open PythonText (strip)
open Fallible

/-! ## DictReader -/

/-- What a row has under a name; `missing` is the `None` of a short row. -/
inductive Value where
  | text (s : String)
  | missing
  | rest (cells : List String)
  deriving DecidableEq, Repr

/-- The dictionary of a row; the key `None` is for the cells without a name. -/
def dictRow (fieldnames row : List String) : Dict (Option String) Value :=
  let d := Dict.empty.setAll ((fieldnames.zip row).map (fun e => (some e.1, Value.text e.2)))
  if fieldnames.length < row.length then d.set none (.rest (row.drop fieldnames.length))
  else d.setAll ((fieldnames.drop row.length).map (fun name => (some name, Value.missing)))

/-- The first line names the columns, and the lines without cells are left out. -/
def dictReader : List (List String) → List (Dict (Option String) Value)
  | [] => []
  | fieldnames :: lines => (lines.filter (· ≠ [])).map (dictRow fieldnames)

/-! ## The export -/

/-- `PROGRAM_DATA_COLUMNS` -/
def programDataColumns : List (String × String) :=
  [("Education Officer Name", "education_officer_name"),
    ("Headmaster Name", "headmaster_name"),
    ("School Name", "school_name"),
    ("School Type", "school_type"),
    ("District", "district"),
    ("Taluka / Block", "taluka_block"),
    ("Teacher Name", "teacher_name"),
    ("Gender of Teacher", "teacher_gender"),
    ("Courses Assigned", "courses_assigned"),
    ("Courses Completed", "courses_completed"),
    ("Artefacts Submitted", "artefacts_submitted"),
    ("Average Artefact Grading Score", "average_artefact_grading_score"),
    ("Microassessment Score", "microassessment_score"),
    ("Classroom Observations Done", "classroom_observations_done"),
    ("Avg BL Score (Teacher, /10)", "avg_bl_score_teacher_10"),
    ("Avg ML Score (Teacher, /10)", "avg_ml_score_teacher_10"),
    ("Student Name", "student_name"),
    ("Student Gender", "student_gender"),
    ("BL Score (/20)", "bl_score_20"),
    ("ML Score (/20)", "ml_score_20"),
    ("Student Gain", "student_gain_points"),
    ("Month of Training", "month_of_training"),
    ("Academic Year", "academic_year"),
    ("Grade", "grade"),
    ("Microassessment Concept", "microassessment_concept")]

/-- `(value or "").strip()` -/
def stripped : Value → Except String String
  | .text s => .ok (strip s)
  | .missing => .ok (strip "")
  | .rest [] => .ok (strip "")
  | .rest (_ :: _) => .error "'list' object has no attribute 'strip'"

def cleanEntry (e : Option String × Value) : Except String (String × String) := do
  let value ← stripped e.2
  pure (strip (e.1.getD ""), value)

/-- The dictionary with stripped names and values. -/
def cleanRow (raw : Dict (Option String) Value) : Except String (Dict String String) := do
  let entries ← raw.entries.mapM cleanEntry
  pure (Dict.empty.setAll entries)

/-- The target file, line by line, and the number that is returned. -/
structure Rewritten where
  lines : List (List String)
  count : Nat
  deriving DecidableEq, Repr

def normaliseProgramData (lines : List (List String)) : Except String Rewritten := do
  let cleaned ← (dictReader lines).mapM cleanRow
  let rows := (cleaned.filter (fun row => (row.get "Teacher Name").getD "" ≠ "")).map (fun row =>
    programDataColumns.map (fun c => (row.get c.1).getD ""))
  pure ⟨programDataColumns.map Prod.snd :: rows, rows.length⟩

/-! ## What it should do -/

/-- The stripped text of a row in the column that is chosen for a header. -/
def cellUnder (column : String → Option Nat) (row : List String) (header : String) : String :=
  ((column header).map (fun i => strip (row.getD i ""))).getD ""

/-- Each header has the place of a name that is the header when stripped, unless there is none. -/
def Matches (names : List String) (column : String → Option Nat) : Prop :=
  ∀ header, match column header with
    | some i => ∃ name, names[i]? = some name ∧ strip name = header
    | none => ∀ name ∈ names, strip name ≠ header

/-- Nothing is raised, and the rows that name a teacher are written in their order. -/
def Normalises (lines : List (List String)) : Prop :=
  ∃ column, Matches (lines.headD []) column ∧
    let rows := lines.tail.filter (fun row => cellUnder column row "Teacher Name" ≠ "")
    normaliseProgramData lines = .ok ⟨programDataColumns.map Prod.snd ::
      rows.map (fun row => programDataColumns.map (fun c => cellUnder column row c.1)), rows.length⟩

/-! ## The columns of a header -/

/-- The names as they are, each with its last place. -/
def places (names : List String) : Dict String Nat := Dict.empty.setAll names.zipIdx

/-- The names when stripped, each with the place that the last of the names gave it. -/
def strippedPlaces (names : List String) : Dict String Nat :=
  Dict.empty.setAll ((places names).entries.map (Prod.map strip id))

def cellAt (row : List String) (i : Nat) : Value :=
  match row[i]? with
  | some s => .text s
  | none => .missing

theorem stripped_cellAt (row : List String) (i : Nat) : stripped (cellAt row i) = .ok (strip (row.getD i "")) := by
  unfold cellAt
  rw [List.getD_eq_getElem?_getD]
  cases row[i]? with
  | none => rfl
  | some s => rfl

/-- What is assigned for a row that is not longer than the header. -/
theorem assigned (names row : List String) :
    (names.zip row).map (fun e => ((some e.1 : Option String), Value.text e.2)) ++
      (names.drop row.length).map (fun name => (some name, Value.missing)) =
        names.zipIdx.map (Prod.map some (cellAt row)) := by
  induction names generalizing row with
  | nil => simp
  | cons name names ih =>
    have later : ∀ cs : List String, ∀ s, (names.zipIdx.map (Prod.map id (· + 1))).map (Prod.map some (cellAt (s :: cs))) =
        names.zipIdx.map (Prod.map some (cellAt cs)) := fun cs s => List.map_map
    rw [List.zipIdx_cons', List.map_cons]
    cases row with
    | nil =>
      have tail := ih []
      have missing : names.zipIdx.map (Prod.map some (cellAt [])) =
          (names.zipIdx.map (Prod.map id (· + 1))).map (Prod.map some (cellAt [])) := by
        rw [List.map_map]
        rfl
      rw [List.zip_nil_right, List.map_nil, List.nil_append, List.length_nil, List.drop_zero] at tail ⊢
      rw [List.map_cons, tail, missing]
      rfl
    | cons s row =>
      rw [later, ← ih row]
      rfl

theorem entries_dictRow {names row : List String} (short : row.length ≤ names.length) :
    (dictRow names row).entries = (places names).entries.map (Prod.map some (cellAt row)) := by
  have whole : dictRow names row = Dict.empty.setAll (names.zipIdx.map (Prod.map some (cellAt row))) := by
    rw [dictRow, if_neg (by omega), ← assigned, Dict.setAll, Dict.setAll, Dict.setAll, List.foldl_append]
  rw [whole]
  exact Dict.entries_setAll_renamed (fun _ _ => Option.some.inj) names.zipIdx rfl

/-- The values of a cleaned row under the stripped names. -/
def cleanedRow (names row : List String) : Dict String String :=
  Dict.empty.setAll (((places names).entries.map (Prod.map strip id)).map (Prod.map id (fun i => strip (row.getD i ""))))

theorem get_cleanedRow (names row : List String) (header : String) :
    ((cleanedRow names row).get header).getD "" = cellUnder (strippedPlaces names).get row header := by
  have entries : (cleanedRow names row).entries =
      (strippedPlaces names).entries.map (Prod.map id (fun i => strip (row.getD i ""))) :=
    Dict.entries_setAll_renamed Function.injective_id ((places names).entries.map (Prod.map strip id)) rfl
  have found := Dict.find_renamed (f := fun i => strip (row.getD i "")) Function.injective_id header
    (strippedPlaces names).entries
  rw [cellUnder, Dict.get, entries]
  exact congrArg (Option.getD · "") found

/-- A row that is not longer than the header is cleaned. -/
theorem cleanRow_dictRow {names row : List String} (short : row.length ≤ names.length) :
    cleanRow (dictRow names row) = .ok (cleanedRow names row) := by
  have cleaned : ((places names).entries.map (Prod.map some (cellAt row))).mapM cleanEntry =
        .ok (((places names).entries.map (Prod.map strip id)).map (Prod.map id (fun i => strip (row.getD i "")))) := by
    rw [mapM_eq_ok, List.forall₂_map_left_iff, List.forall₂_map_right_iff, List.forall₂_map_right_iff, List.forall₂_same]
    intro e _
    rw [cleanEntry, bind_eq_ok]
    exact ⟨_, stripped_cellAt row e.2, rfl⟩
  rw [cleanRow, entries_dictRow short, cleaned]
  rfl

/-- A longer row raises, whatever is in it. -/
theorem cleanRow_of_longer {names row : List String} (long : names.length < row.length) (d : Dict String String) :
    cleanRow (dictRow names row) ≠ .ok d := by
  intro cleaned
  obtain ⟨entries, each, -⟩ := bind_eq_ok.mp cleaned
  have kept : (dictRow names row).get none = some (.rest (row.drop names.length)) := by
    rw [dictRow, if_pos long, Dict.get_set_self]
  obtain ⟨entry, -, made⟩ := ok_of_mapM each ((Dict.get_eq_some_iff _ _ _).mp kept)
  obtain ⟨value, some_value, -⟩ := bind_eq_ok.mp made
  cases beyond : row.drop names.length with
  | nil =>
    rw [List.drop_eq_nil_iff] at beyond
    omega
  | cons s cells =>
    rw [beyond] at some_value
    cases some_value

theorem matches_strippedPlaces (names : List String) : Matches names (strippedPlaces names).get := by
  intro header
  cases found : (strippedPlaces names).get header with
  | some i =>
    obtain ⟨e, there, same⟩ := List.mem_map.mp (Dict.mem_of_get_setAll found)
    have place := Dict.mem_of_get_setAll ((Dict.get_eq_some_iff _ _ _).mpr there)
    rw [Prod.map, Prod.mk.injEq, id] at same
    rw [← same.1, ← same.2]
    exact ⟨e.1, List.mem_zipIdx_iff_getElem?.mp place, rfl⟩
  | none =>
    intro name there same
    rw [strippedPlaces, Dict.get_setAll_eq_none_iff] at found
    have listed : (places names).get name ≠ none := by
      rw [places, ne_eq, Dict.get_setAll_eq_none_iff, not_not, List.zipIdx_map_fst]
      exact there
    obtain ⟨i, place⟩ := Option.ne_none_iff_exists'.mp listed
    apply found
    rw [List.map_map]
    exact List.mem_map.mpr ⟨(name, i), (Dict.get_eq_some_iff _ _ _).mp place, same⟩

/-! ## The whole file -/

theorem cellUnder_nil (column : String → Option Nat) (header : String) : cellUnder column [] header = "" := by
  have blank : strip "" = "" := by decide
  unfold cellUnder
  cases column header with
  | none => rfl
  | some i => exact blank

theorem normaliseProgramData_of_short {names : List String} {rows : List (List String)}
    (short : ∀ row ∈ rows, row.length ≤ names.length) :
    let kept := rows.filter (fun row => cellUnder (strippedPlaces names).get row "Teacher Name" ≠ "")
    normaliseProgramData (names :: rows) = .ok ⟨programDataColumns.map Prod.snd :: kept.map (fun row =>
      programDataColumns.map (fun c => cellUnder (strippedPlaces names).get row c.1)), kept.length⟩ := by
  intro kept
  have cleaned : (dictReader (names :: rows)).mapM cleanRow =
      .ok ((rows.filter (· ≠ [])).map (cleanedRow names)) := by
    rw [dictReader, mapM_eq_ok, List.forall₂_map_left_iff, List.forall₂_map_right_iff, List.forall₂_same]
    intro row there
    exact cleanRow_dictRow (short row (List.mem_filter.mp there).1)
  have named : ((rows.filter (· ≠ [])).map (cleanedRow names)).filter (fun row => (row.get "Teacher Name").getD "" ≠ "") =
      kept.map (cleanedRow names) := by
    rw [List.filter_map, List.filter_filter]
    apply congrArg (List.map (cleanedRow names))
    apply List.filter_congr
    intro row _
    rw [Function.comp_apply, get_cleanedRow]
    cases row with
    | nil => simp [cellUnder_nil]
    | cons s row => simp
  have written : ∀ row : List String, programDataColumns.map (fun c => ((cleanedRow names row).get c.1).getD "") =
      programDataColumns.map (fun c => cellUnder (strippedPlaces names).get row c.1) := by
    intro row
    apply List.map_congr_left
    intro c _
    exact get_cleanedRow names row c.1
  rw [normaliseProgramData, bind_eq_ok]
  refine ⟨_, cleaned, ?_⟩
  rw [named, List.map_map, pure_eq_ok, List.length_map, Rewritten.mk.injEq, List.cons.injEq]
  refine ⟨⟨rfl, ?_⟩, rfl⟩
  apply List.map_congr_left
  intro row _
  exact (written row).symm

/-- The export is normalised exactly where no row has more cells than the header. -/
theorem normalises_iff (lines : List (List String)) :
    Normalises lines ↔ ∀ row ∈ lines.tail, row.length ≤ (lines.headD []).length := by
  cases lines with
  | nil =>
    refine iff_of_true ⟨(strippedPlaces []).get, matches_strippedPlaces [], rfl⟩ ?_
    simp
  | cons names rows =>
    constructor
    · rintro ⟨column, -, done⟩ row there
      by_contra long
      obtain ⟨cleaned, each, -⟩ := bind_eq_ok.mp done
      have read : dictRow names row ∈ dictReader (names :: rows) := by
        apply List.mem_map_of_mem
        rw [List.mem_filter]
        refine ⟨there, ?_⟩
        have nonempty : row ≠ [] := by
          rintro rfl
          exact long (Nat.zero_le _)
        simpa using nonempty
      obtain ⟨d, -, cleanedRow⟩ := ok_of_mapM each read
      exact cleanRow_of_longer (Nat.lt_of_not_le long) d cleanedRow
    · intro short
      exact ⟨_, matches_strippedPlaces names, normaliseProgramData_of_short short⟩

/-- A row with a cell too many, after which nothing is written. -/
theorem longRow_not_normalised : ¬Normalises [["Teacher Name"], ["Ann", "x"]] := by
  rintro ⟨column, -, done⟩
  have raised : normaliseProgramData [["Teacher Name"], ["Ann", "x"]] =
      .error "'list' object has no attribute 'strip'" := by decide
  rw [raised] at done
  cases done

/-- Names that differ in blanks only, a short row and a blank line. -/
example : (normaliseProgramData [[" Teacher Name", "Grade", "Grade "], ["Ann ", "5"], [], ["", "5", "6"]]).map Rewritten.count =
    .ok 1 := by decide

end XpBuilder.Provisioning.ProgramData
