import XpBuilder.Library.Runs
import XpBuilder.Publish.Withdrawal

/-! The requests on saved reports and the runs they make up, together with what
others do to the metadata in between. -/

namespace XpBuilder

/-- The body of a save. A key may be missing or null; an empty definition is none. -/
structure SavePayload where
  name : Option (Option String)
  description : Option (Option String)
  definition : Option RawDefinition
  deriving DecidableEq

def RawDefinition.empty : RawDefinition := ⟨none, none, none, none, none, none, none, none, none⟩

/-- The request as `api_publish` passes it on. -/
def PublishRequest.passed (req : PublishRequest) : PublishRequest :=
  { req with dashboardId := PythonText.truthyId req.dashboardId }

namespace Publish
open PythonText (orElse strip)

/-- `_save_report`, without the audit fields -/
def saveReport (name description : Option String) (definition : RawDefinition)
    (report : ReportDesigner) : ReportDesigner :=
  { report with
    name := strip (orElse name "Untitled report")
    description := orElse description ""
    definition := definition }

def emptyReport : ReportDesigner :=
  ⟨"", "", RawDefinition.empty, none, none, none, none, none, none⟩

/-- `api_post`; `refused` is why the metadata database refuses the commit, if it does. -/
def apiPost (refused : Option String) (payload : SavePayload) (m : Metadata) :
    Response Nat × Metadata :=
  let report := saveReport (payload.name.getD (some "")) (payload.description.getD (some ""))
    (payload.definition.getD RawDefinition.empty) emptyReport
  match refused with
  | some e => (.failed (.other e), m)
  | none => (.done m.reports.next, { m with reports := m.reports.insert report })

/-- `api_put` -/
def apiPut (refused : Option String) (reportId : Nat) (payload : SavePayload) (m : Metadata) :
    Response Nat × Metadata :=
  match m.reports.get reportId with
  | none => (.notFound, m)
  | some report =>
    let saved := saveReport (payload.name.getD (some report.name))
      (payload.description.getD (some report.description))
      (payload.definition.getD report.definition)
    match refused with
    | some e => (.failed (.other e), m)
    | none => (.done reportId, { m with reports := m.reports.update reportId saved })

/-- `api_delete` -/
def apiDelete (refused : Option String) (reportId : Nat) (m : Metadata) :
    Response String × Metadata :=
  match m.reports.get reportId with
  | none => (.notFound, m)
  | some _ =>
    match refused with
    | some e => (.failed (.other e), m)
    | none => (.done "Report deleted", { m with reports := m.reports.delete reportId })

/-- One request of the designer, or anything done elsewhere. -/
inductive Action where
  | create (refused : Option String) (payload : SavePayload)
  | save (refused : Option String) (reportId : Nat) (payload : SavePayload)
  | delete (refused : Option String) (reportId : Nat)
  | publish (env : PublishEnv) (reportId : Nat) (req : PublishRequest)
  | unpublish (env : PublishEnv) (reportId : Nat)
  | outside (change : Metadata → Metadata)

def act (m : Metadata) : Action → Metadata
  | .create refused payload => (apiPost refused payload m).2
  | .save refused reportId payload => (apiPut refused reportId payload m).2
  | .delete refused reportId => (apiDelete refused reportId m).2
  | .publish env reportId req => (apiPublish env reportId req m).2
  | .unpublish env reportId => (apiUnpublish env reportId m).2
  | .outside change => change m

/-! ## What a publish request can do -/

/-- The course of a publish request, if it gets that far. -/
def requestCourse (env : PublishEnv) (reportId : Nat) (req : PublishRequest) (m : Metadata) :
    Option Course :=
  (m.reports.get reportId).bind (fun report => courseOf env reportId report req.passed m)

section
variable {env : PublishEnv} {reportId : Nat} {req : PublishRequest} {m : Metadata}

theorem requestCourse_eq_some {c : Course} (h : requestCourse env reportId req m = some c) :
    m.reports.get reportId = some c.report ∧ c.env = env ∧ c.reportId = reportId ∧
      c.req = req.passed ∧ c.before = m := by
  obtain ⟨report, found, course⟩ := Option.bind_eq_some_iff.mp h
  obtain ⟨-, rfl, rfl, rfl, hreq, rfl⟩ := courseOf_eq_some course
  exact ⟨found, rfl, rfl, hreq, rfl⟩

theorem apiPublish_of_none (h : requestCourse env reportId req m = none) :
    (apiPublish env reportId req m).2 = m ∧ ∀ result, (apiPublish env reportId req m).1 ≠ .done result := by
  unfold apiPublish respond
  cases found : m.reports.get reportId with
  | none => exact ⟨rfl, by simp⟩
  | some report =>
    have course : courseOf env reportId report req.passed m = none := by
      simpa [requestCourse, found] using h
    obtain ⟨e, result⟩ := publishReport_of_none course
    have passed : ({ req with dashboardId := PythonText.truthyId req.dashboardId } : PublishRequest) =
      req.passed := rfl
    simp [passed, result]

theorem apiPublish_of_course {c : Course} (h : requestCourse env reportId req m = some c) :
    (apiPublish env reportId req m).2 = c.stored c.point ∧
      (c.point = .done → (apiPublish env reportId req m).1 = .done c.result) ∧
      ∀ result, (apiPublish env reportId req m).1 = .done result → c.point = .done ∧ result = c.result := by
  obtain ⟨report, found, course⟩ := Option.bind_eq_some_iff.mp h
  obtain ⟨answer, stored⟩ := publishReport_of_course course
  have passed : ({ req with dashboardId := PythonText.truthyId req.dashboardId } : PublishRequest) =
    req.passed := rfl
  unfold apiPublish respond
  simp only [found, passed]
  generalize (publishReport env reportId report req.passed).finish m = r at answer stored
  obtain ⟨r, m'⟩ := r
  by_cases done : c.point = .done
  · rw [if_pos done] at answer
    have ok : r = .ok c.result := answer
    subst ok
    exact ⟨stored, fun _ => rfl, fun result h => ⟨done, by simpa using h.symm⟩⟩
  · rw [if_neg done] at answer
    obtain ⟨e, raised⟩ := answer
    have error : r = .error e := raised
    subst error
    exact ⟨stored, fun h => absurd h done, fun result h => by simp at h⟩

/-- The withdrawal that an unpublish request carries out. -/
def requestWithdrawal (env : PublishEnv) (reportId : Nat) (m : Metadata) : Option Withdrawal :=
  (m.reports.get reportId).map (fun report => ⟨env, m, reportId, report⟩)

theorem apiUnpublish_of_none (h : requestWithdrawal env reportId m = none) :
    (apiUnpublish env reportId m).2 = m ∧ ∀ text, (apiUnpublish env reportId m).1 ≠ .done text := by
  unfold apiUnpublish respond
  have missing : m.reports.get reportId = none := by simpa [requestWithdrawal] using h
  simp [missing]

theorem apiUnpublish_of_withdrawal {w : Withdrawal} (h : requestWithdrawal env reportId m = some w) :
    (apiUnpublish env reportId m).2 = w.stored w.point ∧
      ((∃ text, (apiUnpublish env reportId m).1 = .done text) ↔ w.point = .done) := by
  obtain ⟨report, found, rfl⟩ := Option.map_eq_some_iff.mp h
  obtain ⟨answer, stored⟩ := Withdrawal.unpublishReport_ends ⟨env, m, reportId, report⟩
  unfold apiUnpublish respond
  simp only [found]
  simp only at answer stored
  generalize (unpublishReport env reportId report).finish m = r at answer stored
  obtain ⟨r, m'⟩ := r
  split_ifs at answer with done
  · have ok : r = .ok "Report unpublished" := answer
    subst ok
    exact ⟨stored, iff_of_true ⟨_, rfl⟩ done⟩
  · obtain ⟨e, raised⟩ := answer
    have error : r = .error e := raised
    subst error
    exact ⟨stored, iff_of_false (by simp) done⟩

end
end Publish
end XpBuilder
