import XpBuilder.Library.Runs
import XpBuilder.Designer.Aliases

/-! What comes back to the page while it is edited. The report is fetched when the page
opens, and again when the chart types have come, as the effect that fetches it depends on
them; each time it comes back it replaces the definition. An upload selects its dataset
with the callback of the render in which it was started. -/

namespace XpBuilder.Designer

/-! ## The editor -/

/-- The page with its `loadingReport`, the fetches of the report that are on their way,
and whether the chart types still are. -/
structure Editor where
  reportId : Option Nat
  page : Page
  loadingReport : Bool
  fetches : Nat
  vizPending : Bool
  deriving DecidableEq

/-- The page after its first effects have run. -/
def Editor.opened (reportId : Option Nat) : Editor where
  reportId := reportId
  page := Page.start
  loadingReport := reportId.isSome
  fetches := if reportId.isSome then 1 else 0
  vizPending := true

/-- What can happen next. The fetches of datasets and dashboards leave the definition alone. -/
inductive Event where
  | reportFetched
  | reportFailed
  | vizTypesFetched
  | vizTypesFailed
  | datasetsFetched
  | edit (e : Edit)
  | uploadFinished (upload id : Nat)
  deriving DecidableEq

/-- The edits that the user makes; the others are what comes back. -/
def userEdit : Edit → Bool
  | .load _ => false
  | .finishUpload _ _ => false
  | _ => true

/-- The effect that fetches the report. The panels with the forms go while it loads. -/
def fetchReport (s : Editor) : Editor :=
  match s.reportId with
  | none => { s with loadingReport := false }
  | some _ =>
    { s with
      loadingReport := true
      fetches := s.fetches + 1
      page := { s.page with filterForm := .start, relationshipForm := .start } }

/-- `stored` is what the server returns for the report. -/
def Editor.step (repr : String → String) (stored : RawDefinition) (s : Editor) : Event → Editor
  | .reportFetched =>
    if s.fetches = 0 then s
    else
      { s with
        page := Designer.step repr s.page (.load stored)
        loadingReport := false
        fetches := s.fetches - 1 }
  | .reportFailed =>
    if s.fetches = 0 then s else { s with loadingReport := false, fetches := s.fetches - 1 }
  | .vizTypesFetched => if s.vizPending then fetchReport { s with vizPending := false } else s
  | .vizTypesFailed => { s with vizPending := false }
  | .datasetsFetched => s
  | .edit e =>
    if s.loadingReport = false ∧ userEdit e then { s with page := Designer.step repr s.page e } else s
  | .uploadFinished upload id => { s with page := Designer.step repr s.page (.finishUpload upload id) }

/-! ## What the user wants -/

/-- An editor, the definition that was loaded into it, and the edits made since it was
first shown, each as what it does to a definition. -/
structure Session where
  editor : Editor
  loaded : Definition
  edits : List (Definition → Definition)

namespace Session

def opened (reportId : Option Nat) : Session := ⟨Editor.opened reportId, emptyDefinition, []⟩

/-- Every edit applied in order to what was loaded. -/
def wanted (s : Session) : Definition := s.edits.foldl (fun d f => f d) s.loaded

/-- An edit on the page as it stands, for any definition. -/
def editOf (repr : String → String) (s : Session) (e : Edit) (d : Definition) : Definition :=
  (Designer.step repr { s.editor.page with definition := d } e).definition

def step (repr : String → String) (stored : RawDefinition) (s : Session) (event : Event) : Session :=
  { editor := s.editor.step repr stored event
    loaded := if event = .reportFetched ∧ s.editor.fetches ≠ 0 then Designer.opened stored else s.loaded
    edits := match event with
      | .edit e =>
        if s.editor.loadingReport = false ∧ userEdit e then s.edits ++ [editOf repr s e] else s.edits
      | .uploadFinished upload id =>
        if upload < s.editor.page.uploads.length then
          s.edits ++ [fun d => handleSelectDataset d.datasets id d]
        else s.edits
      | _ => s.edits }

/-- No edit is lost. -/
def Kept (s : Session) : Prop := s.editor.page.definition = s.wanted

/-- The datasets when an upload was started and those of now agree on what is selected. -/
def SameSelection (seen current : List DatasetEntry) (id : Nat) : Prop :=
  current = seen ∨ current = seen ++ [⟨id, some (numbered (seen.length + 1))⟩] ∨
    (id ∈ seen.map DatasetEntry.id ∧ id ∈ current.map DatasetEntry.id)

/-- What an event needs of the session for no edit to be lost: that the edits so far leave
the report as it is stored when it comes back, and that the datasets are those of when the
upload was started. -/
def Keeps (stored : RawDefinition) (s : Session) : Event → Prop
  | .reportFetched => s.editor.fetches ≠ 0 →
      s.edits.foldl (fun d f => f d) (Designer.opened stored) = Designer.opened stored
  | .uploadFinished upload id => ∀ seen, s.editor.page.uploads[upload]? = some seen →
      SameSelection seen s.editor.page.definition.datasets id
  | _ => True

/-! ## What one event keeps -/

theorem kept_opened (reportId : Option Nat) : Kept (opened reportId) := rfl

theorem selected_iff {entries : List DatasetEntry} {id : Nat} :
    entries.any (fun ds => ds.id = id) ↔ id ∈ entries.map DatasetEntry.id := by
  simp

/-- A selection made with the datasets of another render. -/
theorem handleSelectDataset_eq_iff (seen : List DatasetEntry) (id : Nat) (d : Definition) :
    handleSelectDataset seen id d = handleSelectDataset d.datasets id d ↔
      SameSelection seen d.datasets id := by
  have other : ∀ entries, { d with datasets := entries } = d ↔ entries = d.datasets := by
    intro entries
    exact ⟨fun same => congrArg Definition.datasets same, fun same => same ▸ rfl⟩
  unfold handleSelectDataset SameSelection
  simp only [selected_iff]
  by_cases before : id ∈ seen.map DatasetEntry.id
  · by_cases now : id ∈ d.datasets.map DatasetEntry.id
    · rw [if_pos before, if_pos now]
      exact iff_of_true rfl (.inr (.inr ⟨before, now⟩))
    · rw [if_pos before, if_neg now, eq_comm, other]
      have changed : d.datasets ≠ seen := by
        intro same
        exact now (same ▸ before)
      have longer : d.datasets ≠ seen ++ [⟨id, some (numbered (seen.length + 1))⟩] := by
        intro same
        apply now
        rw [same, List.map_append]
        exact List.mem_append_left _ before
      simp [changed, longer, now]
  · by_cases now : id ∈ d.datasets.map DatasetEntry.id
    · rw [if_neg before, if_pos now, other, eq_comm]
      have changed : d.datasets ≠ seen := by
        intro same
        exact before (same ▸ now)
      simp only [changed, before, false_and, or_false, false_or]
      exact Iff.rfl
    · rw [if_neg before, if_neg now]
      have shorter : d.datasets ≠ seen ++ [⟨id, some (numbered (seen.length + 1))⟩] := by
        intro same
        apply now
        rw [same, List.map_append]
        exact List.mem_append_right _ List.mem_cons_self
      simp only [shorter, before, false_and, or_false]
      constructor
      · intro same
        have lists := congrArg Definition.datasets same
        have fronts := congrArg List.dropLast lists
        simpa [eq_comm] using fronts
      · intro same
        rw [same]

theorem fetchReport_definition (s : Editor) :
    (fetchReport s).page.definition = s.page.definition := by
  unfold fetchReport
  split <;> rfl

section Events
variable {repr : String → String} {stored : RawDefinition} {s : Session} (kept : Kept s)
include kept

theorem kept_of_same {event : Event}
    (page : (s.editor.step repr stored event).page.definition = s.editor.page.definition)
    (loaded : (s.step repr stored event).loaded = s.loaded)
    (edits : (s.step repr stored event).edits = s.edits) : Kept (s.step repr stored event) := by
  have same : (s.step repr stored event).wanted = s.wanted := by
    rw [wanted, wanted, loaded, edits]
  exact page.trans (kept.trans same.symm)

theorem kept_reportFetched_iff :
    Kept (s.step repr stored .reportFetched) ↔ Keeps stored s .reportFetched := by
  by_cases none_left : s.editor.fetches = 0
  · have stays : Kept (s.step repr stored .reportFetched) := by
      apply kept_of_same kept
      · simp [Editor.step, none_left]
      · simp [step, none_left]
      · rfl
    exact iff_of_true stays (fun some_left => absurd none_left some_left)
  · have page : (s.step repr stored .reportFetched).editor.page.definition =
        Designer.opened stored := by
      simp [step, Editor.step, none_left, Designer.step, Page.define]
    have replayed : (s.step repr stored .reportFetched).wanted =
        s.edits.foldl (fun d f => f d) (Designer.opened stored) := by
      simp [wanted, step, none_left]
    rw [Kept, page, replayed, eq_comm]
    exact ⟨fun same _ => same, fun same => same none_left⟩

theorem kept_edit (e : Edit) : Kept (s.step repr stored (.edit e)) := by
  by_cases allowed : s.editor.loadingReport = false ∧ userEdit e
  · have page : (s.step repr stored (.edit e)).editor.page.definition =
        editOf repr s e s.editor.page.definition := by
      simp [step, Editor.step, allowed, editOf]
    have replayed : (s.step repr stored (.edit e)).wanted = editOf repr s e s.wanted := by
      simp [wanted, step, allowed]
    rw [Kept, page, replayed, ← kept]
  · apply kept_of_same kept
    · rw [Editor.step, if_neg allowed]
    · simp [step]
    · simp only [step, if_neg allowed]

theorem kept_uploadFinished_iff (upload id : Nat) :
    Kept (s.step repr stored (.uploadFinished upload id)) ↔
      Keeps stored s (.uploadFinished upload id) := by
  cases found : s.editor.page.uploads[upload]? with
  | none =>
    have past : ¬upload < s.editor.page.uploads.length := by
      have bound := List.getElem?_eq_none_iff.mp found
      omega
    have stays : Kept (s.step repr stored (.uploadFinished upload id)) := by
      apply kept_of_same kept
      · simp [Editor.step, Designer.step, found]
      · simp [step]
      · simp only [step, if_neg past]
    refine iff_of_true stays (fun seen there => ?_)
    rw [found] at there
    cases there
  | some seen =>
    have within : upload < s.editor.page.uploads.length := (List.getElem?_eq_some_iff.mp found).1
    have page : (s.step repr stored (.uploadFinished upload id)).editor.page.definition =
        handleSelectDataset seen id s.editor.page.definition := by
      simp [step, Editor.step, Designer.step, Page.define, found]
    have replayed : (s.step repr stored (.uploadFinished upload id)).wanted =
        handleSelectDataset s.wanted.datasets id s.wanted := by
      simp [wanted, step, within]
    rw [Kept, page, replayed, ← kept, handleSelectDataset_eq_iff]
    simp only [Keeps, found, Option.some.injEq, forall_eq']

end Events

/-- Where nothing is lost yet an event loses nothing exactly under its condition. -/
theorem kept_step_iff {repr : String → String} {stored : RawDefinition} (s : Session) (event : Event)
    (kept : Kept s) : Kept (s.step repr stored event) ↔ Keeps stored s event := by
  cases event with
  | reportFetched => exact kept_reportFetched_iff kept
  | reportFailed =>
    refine iff_of_true (kept_of_same kept ?_ rfl rfl) trivial
    simp only [Editor.step]
    split <;> rfl
  | vizTypesFetched =>
    refine iff_of_true (kept_of_same kept ?_ rfl rfl) trivial
    simp only [Editor.step]
    split
    · exact fetchReport_definition _
    · rfl
  | vizTypesFailed => exact iff_of_true (kept_of_same kept rfl rfl rfl) trivial
  | datasetsFetched => exact iff_of_true (kept_of_same kept rfl rfl rfl) trivial
  | edit e => exact iff_of_true (kept_edit kept e) trivial
  | uploadFinished upload id => exact kept_uploadFinished_iff kept upload id

/-! ## Every order -/

/-- Nothing is lost in any state of a run exactly where each of its events meets its condition. -/
theorem run_kept_iff (repr : String → String) (stored : RawDefinition) (reportId : Option Nat)
    (run : List Event) :
    (∀ before, before <+: run → Kept (Runs.after (step repr stored) (opened reportId) before)) ↔
      Runs.Each (step repr stored) (Keeps stored) (opened reportId) run :=
  Runs.invariant_iff_each kept_step_iff (kept_opened reportId) run

/-- A report without anything in it. -/
def blank : RawDefinition where
  version := none
  datasets := none
  relationships := none
  columns := none
  metrics := none
  groupBy := none
  filters := none
  orderBy := none
  limit := none

/-- The chart types come back while the report is edited, and the report after them. -/
def chartTypesLate : List Event := [.reportFetched, .edit (.selectDataset 1), .vizTypesFetched, .reportFetched]

/-- A dataset is selected while an upload that was started before is on its way. -/
def uploadLate : List Event := [.edit .startUpload, .edit (.selectDataset 5), .uploadFinished 0 8]

theorem selections_lost :
    ¬Kept (Runs.after (step id blank) (opened (some 7)) chartTypesLate) ∧
    ¬Kept (Runs.after (step id blank) (opened none) uploadLate) := by
  constructor
  · intro kept
    have asked : (Runs.after (step id blank) (opened (some 7)) chartTypesLate).wanted.datasets =
        [⟨1, some "d1"⟩] := rfl
    have nothing : (Runs.after (step id blank) (opened (some 7)) chartTypesLate).wanted.datasets = [] :=
      (congrArg Definition.datasets kept).symm
    rw [nothing] at asked
    cases asked
  · intro kept
    have asked : (Runs.after (step id blank) (opened none) uploadLate).wanted.datasets =
        [⟨5, some "d1"⟩, ⟨8, some "d2"⟩] := rfl
    have one : (Runs.after (step id blank) (opened none) uploadLate).wanted.datasets =
        [⟨8, some "d1"⟩] := (congrArg Definition.datasets kept).symm
    rw [one] at asked
    cases asked

end Session
end XpBuilder.Designer
