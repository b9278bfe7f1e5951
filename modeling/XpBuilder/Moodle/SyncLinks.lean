import Mathlib.Data.List.DropRight
import XpBuilder.Library.Percent
import XpBuilder.Publish.Publish

/-! The two links that send a published dashboard to Moodle. The list of reports builds its link on
the configured site, the designer page its own on the page itself. -/

namespace XpBuilder.MoodleSync
open Percent
open PythonText (orElse truthy)

/-! ## The code -/

def importPage : List Char := "/local/xpromptsuperset/import.php".toList

/-- `moodleBaseUrl`, with the `moodle_url` of the bootstrap data. -/
def moodleBaseUrl (moodleUrl : Option String) : List Char := (moodleUrl.getD "").toList.rdropWhile (fun c => c = '/')

def decimal (n : Nat) : List Char := (toString n).toList

/-- `moodleSyncUrl` -/
def moodleSyncUrl (moodleUrl : Option String) (dashboardId : Nat) (title : String) (redirect : Option String) :
    List Char :=
  let base := moodleBaseUrl moodleUrl
  let params := [("superset_dashboard_id".toList, decimal dashboardId), ("name".toList, title.toList)]
  let redirects := match truthy redirect with
    | some path => if base = [] then [("redirect".toList, path.toList)] else []
    | none => []
  base ++ importPage ++ '?' :: Encoder.form.writePairs (params ++ redirects)

/-- `/xpbuilder/dashboard/${id}/` -/
def dashboardPath (id : Nat) : String := "/xpbuilder/dashboard/" ++ toString id ++ "/"

/-- The link in the list of reports, for a report on a dashboard. -/
def listLink (moodleUrl : Option String) (dashboardId : Nat) (report : ReportDesigner) : List Char :=
  moodleSyncUrl moodleUrl dashboardId (orElse report.chartName report.name) (some (dashboardPath dashboardId))

/-- The link of the designer page, after its own publishing or for the report as it was loaded. -/
def designerLink (publishResult : Option PublishResult) (dashboardId : Nat) (report : ReportDesigner) : List Char :=
  let id := (PythonText.truthyId (publishResult.bind PublishResult.dashboardId)).getD dashboardId
  let name := orElse (publishResult.map PublishResult.chartName) (orElse report.chartName "")
  let url := orElse (publishResult.bind PublishResult.dashboardUrl) (dashboardPath dashboardId)
  importPage ++ "?superset_dashboard_id=".toList ++ decimal id ++ "&name=".toList ++
    encodeURIComponent name.toList ++ "&redirect=".toList ++ encodeURIComponent url.toList

/-! ## What it is for -/

/-- A report that is published on a dashboard, and the result of its publishing if the page made it. -/
structure Published where
  report : ReportDesigner
  publishResult : Option PublishResult
  dashboardId : Nat
  chartName : String
  placed : report.dashboardId = some dashboardId
  charted : report.chartName = some chartName
  named : chartName ≠ ""
  own : ∀ result, publishResult = some result → result.dashboardId = some dashboardId ∧
    result.chartName = chartName ∧ result.dashboardUrl = some (dashboardPath dashboardId)

theorem sliceNameOf_ne_empty (chartName : Option String) (reportName : String) :
    Publish.sliceNameOf chartName reportName ≠ "" := by
  unfold Publish.sliceNameOf
  dsimp only
  split_ifs with empty
  · decide
  · exact empty

/-- What publishing on a dashboard records is published. -/
theorem published_of_recordPublish (env : PublishEnv) (m : Metadata) (reportId datasetId chartId id : Nat)
    (vizType : String) (chartName : Option String) (reportName : String) {r : ReportDesigner}
    (stored : (Publish.recordPublish env reportId datasetId chartId (some id) vizType
      (Publish.sliceNameOf chartName reportName) m).reports.get reportId = some r) :
    ∃ p : Published, p.report = r ∧ p.dashboardId = id := by
  rw [Publish.recordPublish, Table.get_update_self] at stored
  obtain ⟨before, -, rfl⟩ := Option.map_eq_some_iff.mp stored
  exact ⟨⟨_, none, id, _, rfl, rfl, sliceNameOf_ne_empty chartName reportName, nofun⟩, rfl, rfl⟩

/-- The links lead to one page, as the browser resolves addresses, with the same parameters. -/
def Agree {α : Type} (resolve : List Char → α) (link link' : List Char) : Prop :=
  resolve (address link) = resolve (address link') ∧
    formPairs String.utf8EncodeChar (query link) = formPairs String.utf8EncodeChar (query link')

/-! ## The parameters of the links -/

section Parameters
variable (p : Published)

def idParam : List Char × List Char := ("superset_dashboard_id".toList, decimal p.dashboardId)

def nameParam : List Char × List Char := ("name".toList, p.chartName.toList)

def redirectParam : List Char × List Char := ("redirect".toList, (dashboardPath p.dashboardId).toList)

/-- The parameters that both links have. -/
def params : List (List Char × List Char) := [idParam p, nameParam p]

theorem dashboardPath_ne_empty (id : Nat) : dashboardPath id ≠ "" := by
  intro empty
  have chars : (dashboardPath id).toList = [] := by rw [empty, String.toList_empty]
  unfold dashboardPath at chars
  rw [String.toList_append, List.append_eq_nil_iff] at chars
  have slash : "/".toList ≠ [] := by simp
  exact slash chars.2

theorem orElse_of_named {name : String} (named : name ≠ "") (fallback : String) : orElse (some name) fallback = name :=
  if_neg named

theorem truthy_of_named {name : String} (named : name ≠ "") : truthy (some name) = some name := by
  simp [truthy, Option.filter, named]

theorem listLink_eq (moodleUrl : Option String) : listLink moodleUrl p.dashboardId p.report =
    moodleBaseUrl moodleUrl ++ importPage ++ '?' :: Encoder.form.writePairs
      (params p ++ if moodleBaseUrl moodleUrl = [] then [redirectParam p] else []) := by
  have path := truthy_of_named (dashboardPath_ne_empty p.dashboardId)
  unfold listLink moodleSyncUrl
  rw [p.charted, orElse_of_named p.named, path]
  rfl

theorem encodeURIComponent_of_kept {text : List Char} (kept : ∀ c ∈ text, keptComponent c = true) :
    encodeURIComponent text = text := by
  induction text with
  | nil => rfl
  | cons c rest ih =>
    rw [List.forall_mem_cons] at kept
    rw [encodeURIComponent, List.flatMap_cons, writeBut, if_pos kept.1]
    exact congrArg (List.cons c) (ih kept.2)

theorem encodeURIComponent_decimal (n : Nat) : encodeURIComponent (decimal n) = decimal n := by
  apply encodeURIComponent_of_kept
  intro c mem
  have chars : decimal n = Nat.toDigits 10 n := Nat.toList_repr
  rw [chars] at mem
  have digit := Nat.isDigit_of_mem_toDigits (by decide) (by decide) mem
  simp [keptComponent, Char.isAlphanum, digit]

theorem designerLink_shape : designerLink p.publishResult p.dashboardId p.report =
    importPage ++ "?superset_dashboard_id=".toList ++ decimal p.dashboardId ++ "&name=".toList ++
      encodeURIComponent p.chartName.toList ++ "&redirect=".toList ++
      encodeURIComponent (dashboardPath p.dashboardId).toList := by
  have stored : orElse p.report.chartName "" = p.chartName := by rw [p.charted, orElse_of_named p.named]
  have parts : (PythonText.truthyId (p.publishResult.bind PublishResult.dashboardId)).getD p.dashboardId = p.dashboardId ∧
      orElse (p.publishResult.map PublishResult.chartName) p.chartName = p.chartName ∧
      orElse (p.publishResult.bind PublishResult.dashboardUrl) (dashboardPath p.dashboardId) =
        dashboardPath p.dashboardId := by
    cases page : p.publishResult with
    | none => exact ⟨rfl, rfl, rfl⟩
    | some result =>
      obtain ⟨id, name, url⟩ := p.own result page
      rw [Option.bind_some, Option.bind_some, Option.map_some, id, name, url, orElse_of_named p.named,
        orElse_of_named (dashboardPath_ne_empty _)]
      refine ⟨?_, rfl, rfl⟩
      by_cases zero : p.dashboardId = 0 <;> simp [PythonText.truthyId, Option.filter, zero]
  unfold designerLink
  rw [stored, parts.1, parts.2.1, parts.2.2]

theorem encoded_names : encodeURIComponent "superset_dashboard_id".toList = "superset_dashboard_id".toList ∧
    encodeURIComponent "name".toList = "name".toList ∧ encodeURIComponent "redirect".toList = "redirect".toList :=
  ⟨encodeURIComponent_of_kept (Lists.forall_mem_of_all (by decide)),
    encodeURIComponent_of_kept (Lists.forall_mem_of_all (by decide)),
    encodeURIComponent_of_kept (Lists.forall_mem_of_all (by decide))⟩

theorem designerLink_eq : designerLink p.publishResult p.dashboardId p.report =
    importPage ++ '?' :: Encoder.component.writePairs (params p ++ [redirectParam p]) := by
  obtain ⟨id, name, redirect⟩ := encoded_names
  have first : Encoder.component.writePair (idParam p) = "superset_dashboard_id".toList ++ '=' :: decimal p.dashboardId := by
    change encodeURIComponent "superset_dashboard_id".toList ++ '=' :: encodeURIComponent (decimal p.dashboardId) = _
    rw [id, encodeURIComponent_decimal]
  have second : Encoder.component.writePair (nameParam p) =
      "name".toList ++ '=' :: encodeURIComponent p.chartName.toList := by
    change encodeURIComponent "name".toList ++ '=' :: encodeURIComponent p.chartName.toList = _
    rw [name]
  have third : Encoder.component.writePair (redirectParam p) =
      "redirect".toList ++ '=' :: encodeURIComponent (dashboardPath p.dashboardId).toList := by
    change encodeURIComponent "redirect".toList ++ '=' :: encodeURIComponent (dashboardPath p.dashboardId).toList = _
    rw [redirect]
  have asked : "?superset_dashboard_id=".toList = '?' :: "superset_dashboard_id".toList ++ ['='] := by decide
  have named : "&name=".toList = '&' :: "name".toList ++ ['='] := by decide
  have back : "&redirect=".toList = '&' :: "redirect".toList ++ ['='] := by decide
  have all : params p ++ [redirectParam p] = [idParam p, nameParam p, redirectParam p] := rfl
  rw [designerLink_shape, asked, named, back, all, Encoder.writePairs_cons, Encoder.writePairs_cons,
    Encoder.writePairs_singleton, first, second, third]
  simp only [List.append_assoc, List.cons_append, List.nil_append]

end Parameters

/-! ## Both links -/

theorem importPage_plain : '?' ∉ importPage ∧ '#' ∉ importPage ∧ '&' ∉ importPage := by
  have plain : ∀ c ∈ importPage, c ≠ '?' ∧ c ≠ '#' ∧ c ≠ '&' := Lists.forall_mem_of_all (by decide)
  exact ⟨fun mem => (plain _ mem).1 rfl, fun mem => (plain _ mem).2.1 rfl, fun mem => (plain _ mem).2.2 rfl⟩

section Links
variable (p : Published) {moodleUrl : Option String}

theorem designerLink_pairs : formPairs String.utf8EncodeChar (query (designerLink p.publishResult p.dashboardId p.report)) =
    (params p ++ [redirectParam p]).map pairBytes := by
  have plain := Encoder.component.not_mem_writePairs (c := '#') (by decide) (by decide) (by decide) (by decide)
    (params p ++ [redirectParam p])
  rw [designerLink_eq, query_eq importPage_plain.1 importPage_plain.2.1 plain, Encoder.formPairs_writePairs]

theorem listLink_unlinked (unlinked : moodleBaseUrl moodleUrl = []) :
    listLink moodleUrl p.dashboardId p.report =
      importPage ++ '?' :: Encoder.form.writePairs (params p ++ [redirectParam p]) := by
  rw [listLink_eq, unlinked, if_pos rfl, List.nil_append]

theorem listLink_linked (linked : moodleBaseUrl moodleUrl ≠ []) : listLink moodleUrl p.dashboardId p.report =
    moodleBaseUrl moodleUrl ++ (importPage ++ '?' :: Encoder.form.writePairs (params p)) := by
  rw [listLink_eq, if_neg linked, List.append_nil, List.append_assoc]

theorem links_agree_of_unlinked {α : Type} (resolve : List Char → α) (unlinked : moodleBaseUrl moodleUrl = []) :
    Agree resolve (designerLink p.publishResult p.dashboardId p.report) (listLink moodleUrl p.dashboardId p.report) := by
  have plain := Encoder.form.not_mem_writePairs (c := '#') (by decide) (by decide) (by decide) (by decide)
    (params p ++ [redirectParam p])
  have front : ∀ rest : List Char, address (importPage ++ '?' :: rest) = importPage := by
    intro rest
    have before : ∀ c ∈ importPage, decide (c ≠ '?' ∧ c ≠ '#') = true := Lists.forall_mem_of_all (by decide)
    rw [address, List.takeWhile_append_of_pos before]
    simp
  constructor
  · rw [designerLink_eq, listLink_unlinked p unlinked, front, front]
  · rw [designerLink_pairs, listLink_unlinked p unlinked, query_eq importPage_plain.1 importPage_plain.2.1 plain,
      Encoder.formPairs_writePairs]

end Links

/-! ## With a configured site -/

section Linked
variable {moodleUrl : Option String} (linked : moodleBaseUrl moodleUrl ≠ [])
include linked

/-- A base without a query of its own leaves the two parameters of every report. -/
theorem linked_pairs_of_plain (p : Published) (mark : '?' ∉ moodleBaseUrl moodleUrl) (hash : '#' ∉ moodleBaseUrl moodleUrl) :
    formPairs String.utf8EncodeChar (query (listLink moodleUrl p.dashboardId p.report)) = (params p).map pairBytes := by
  have plain := Encoder.form.not_mem_writePairs (c := '#') (by decide) (by decide) (by decide) (by decide) (params p)
  have shape := listLink_linked p linked
  rw [← List.append_assoc] at shape
  have mark' : '?' ∉ moodleBaseUrl moodleUrl ++ importPage := by
    rw [List.mem_append, not_or]
    exact ⟨mark, importPage_plain.1⟩
  have hash' : '#' ∉ moodleBaseUrl moodleUrl ++ importPage := by
    rw [List.mem_append, not_or]
    exact ⟨hash, importPage_plain.2.1⟩
  rw [shape, query_eq mark' hash' plain, Encoder.formPairs_writePairs]

/-- Whatever the base, the parameters are the same for all reports, or the same but for the last two. -/
theorem linked_pairs :
    (∃ pairs, ∀ p : Published, formPairs String.utf8EncodeChar (query (listLink moodleUrl p.dashboardId p.report)) = pairs) ∨
    (∃ (pairs : List (List UInt8 × List UInt8)) (f g : Published → List UInt8 × List UInt8),
      ∀ p : Published, formPairs String.utf8EncodeChar (query (listLink moodleUrl p.dashboardId p.report)) =
        pairs ++ [f p, g p]) := by
  by_cases hash : '#' ∈ moodleBaseUrl moodleUrl
  · refine .inl ⟨formPairs String.utf8EncodeChar (query (moodleBaseUrl moodleUrl)), fun p => ?_⟩
    rw [listLink_linked p linked, query_of_fragment hash]
  right
  by_cases mark : '?' ∈ moodleBaseUrl moodleUrl
  · obtain ⟨front, own, split, first⟩ := List.eq_append_cons_of_mem mark
    rw [split, List.mem_append, List.mem_cons, not_or, not_or] at hash
    obtain ⟨pairs, last, tail⟩ := formPairs_tail own
    refine ⟨pairs,
      fun p => formPair String.utf8EncodeChar (last ++ (importPage ++ '?' :: Encoder.form.writePair (idParam p))),
      fun p => pairBytes (nameParam p), fun p => ?_⟩
    have plain := Encoder.form.not_mem_writePairs (c := '#') (by decide) (by decide) (by decide) (by decide) (params p)
    have none_behind : '#' ∉ own ++ (importPage ++ '?' :: Encoder.form.writePairs (params p)) := by
      simp only [List.mem_append, List.mem_cons, not_or]
      exact ⟨hash.2.2, importPage_plain.2.1, by decide, plain⟩
    have cut : own ++ (importPage ++ '?' :: Encoder.form.writePairs (params p)) =
        (own ++ (importPage ++ '?' :: Encoder.form.writePair (idParam p))) ++
          '&' :: Encoder.form.writePair (nameParam p) := by
      unfold params
      rw [Encoder.writePairs_cons, Encoder.writePairs_singleton]
      simp only [List.append_assoc, List.cons_append]
    have whole : '&' ∉ importPage ++ '?' :: Encoder.form.writePair (idParam p) := by
      simp only [List.mem_append, List.mem_cons, not_or]
      exact ⟨importPage_plain.2.2, by decide, Encoder.form.not_mem_writePair (by decide) (by decide) (by decide) _⟩
    rw [listLink_linked p linked, split, List.append_assoc, List.cons_append, query_eq first hash.1 none_behind, cut,
      formPairs_append, tail _ (List.append_ne_nil_of_right_ne_nil _ (List.cons_ne_nil _ _)) whole,
      Encoder.formPairs_writePair, List.append_assoc]
    rfl
  · exact ⟨[], fun p => pairBytes (idParam p), fun p => pairBytes (nameParam p),
      fun p => linked_pairs_of_plain linked p mark hash⟩

end Linked

/-- A report on the dashboard of a number. -/
def onDashboard (id : Nat) : Published where
  report := ⟨"Course", "", ⟨none, none, none, none, none, none, none, none, none⟩, some 1, some 1, some id,
    some "table", some "Course", none⟩
  publishResult := none
  dashboardId := id
  chartName := "Course"
  placed := rfl
  charted := rfl
  named := by decide
  own := nofun

theorem id_apart : pairBytes (idParam (onDashboard 1)) ≠ pairBytes (idParam (onDashboard 2)) := by
  intro same
  have values : utf8 (decimal 1) = utf8 (decimal 2) := congrArg Prod.snd same
  exact absurd values (by decide)

/-- The links of the two pages agree for every published report exactly where no site is configured.
With a site that has no query and no fragment they agree for none. -/
theorem links_agree_iff {α : Type} (resolve : List Char → α) (moodleUrl : Option String) :
    ((∀ p : Published, Agree resolve (designerLink p.publishResult p.dashboardId p.report)
        (listLink moodleUrl p.dashboardId p.report)) ↔ moodleBaseUrl moodleUrl = []) ∧
    ('?' ∉ moodleBaseUrl moodleUrl → '#' ∉ moodleBaseUrl moodleUrl → ∀ p : Published,
      (Agree resolve (designerLink p.publishResult p.dashboardId p.report)
        (listLink moodleUrl p.dashboardId p.report) ↔ moodleBaseUrl moodleUrl = [])) := by
  constructor
  · refine ⟨fun agree => ?_, fun unlinked p => links_agree_of_unlinked p resolve unlinked⟩
    by_contra linked
    have same : ∀ p : Published, [pairBytes (idParam p), pairBytes (nameParam p), pairBytes (redirectParam p)] =
        formPairs String.utf8EncodeChar (query (listLink moodleUrl p.dashboardId p.report)) :=
      fun p => (designerLink_pairs p).symm.trans (agree p).2
    apply id_apart
    rcases linked_pairs linked with ⟨pairs, all⟩ | ⟨pairs, f, g, all⟩
    · have one := (same (onDashboard 1)).trans (all _)
      have two := (same (onDashboard 2)).trans (all _)
      exact (List.cons.inj (one.trans two.symm)).1
    · have first : ∀ p, pairs = [pairBytes (idParam p)] := by
        intro p
        have parts := (same p).trans (all p)
        have cut : [pairBytes (idParam p)] ++ [pairBytes (nameParam p), pairBytes (redirectParam p)] =
            pairs ++ [f p, g p] := parts
        exact (List.append_inj_left' cut rfl).symm
      exact List.singleton_inj.mp ((first _).symm.trans (first _))
  · intro mark hash p
    refine ⟨fun agree => ?_, fun unlinked => links_agree_of_unlinked p resolve unlinked⟩
    by_contra linked
    have pairs := (designerLink_pairs p).symm.trans (agree.2.trans (linked_pairs_of_plain linked p mark hash))
    have lengths := congrArg List.length pairs
    rw [List.length_map, List.length_map, List.length_append] at lengths
    exact absurd lengths (by rw [List.length_singleton]; omega)

theorem siteLinks_differ :
    ¬Agree id (designerLink none 7 (onDashboard 7).report)
      (listLink (some "https://lms.example.com/") 7 (onDashboard 7).report) := by
  intro agree
  have base : moodleBaseUrl (some "https://lms.example.com/") = "https://lms.example.com".toList := by decide
  have linked : moodleBaseUrl (some "https://lms.example.com/") ≠ [] := by
    rw [base]
    decide
  have plain : ∀ c ∈ moodleBaseUrl (some "https://lms.example.com/"), c ≠ '?' ∧ c ≠ '#' := by
    rw [base]
    exact Lists.forall_mem_of_all (by decide)
  have pairs := (designerLink_pairs (onDashboard 7)).symm.trans
    (agree.2.trans (linked_pairs_of_plain linked (onDashboard 7) (fun mem => (plain _ mem).1 rfl)
      (fun mem => (plain _ mem).2 rfl)))
  have lengths := congrArg List.length pairs
  rw [List.length_map, List.length_map, List.length_append] at lengths
  exact absurd lengths (by decide)

end XpBuilder.MoodleSync
