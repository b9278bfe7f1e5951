import XpBuilder.Provisioning.ReportLayouts
import XpBuilder.Provisioning.SupersetApi

/-! The provisioners of the user report and of the programme dashboards, request by request. The texts of
the dataset's query and of the charts' settings are arguments here. -/

namespace XpBuilder.SupersetApi
open Provisioning (Marks Provisioner)

abbrev Program := Script Request Request.Response

def send (q : Request) : Program q.Response := Script.request q

/-- A chart to create; `form` is its settings as they are sent. -/
structure ChartSpec where
  name : String
  form : String
  vizType : String
  width : Nat
  deriving DecidableEq, Repr

/-- `parameters.get("database") or name` -/
def schemaOr (name : String) (parameter : Option String) : String := (parameter.filter (· ≠ "")).getD name

/-- `resolve_connection` and `resolve_database` -/
def resolveConnection (name : String) : Program (Nat × String) := do
  let databases : List (Nat × Database) ← send .listDatabases
  match databases.find? (fun d => d.2.databaseName = name) with
  | some d =>
    let parameter : Option String ← send (.connection d.1)
    pure (d.1, schemaOr name parameter)
  | none => .quit

/-- `cleanup`, by the marks of a script. -/
def cleanup (m : Marks) : Program Unit := do
  let dashboards : List (Nat × Dashboard) ← send .listDashboards
  Script.each (fun d => send (.deleteDashboard d.1)) (dashboards.filter (fun d => m.slug d.2.slug))
  let charts : List (Nat × Chart) ← send .listCharts
  Script.each (fun c => send (.deleteChart c.1)) (charts.filter (fun c => m.description c.2.description))
  let datasets : List (Nat × Dataset) ← send .listDatasets
  Script.each (fun d => send (.deleteDataset d.1)) (datasets.filter (fun d => m.tableName d.2.tableName))

/-- A published dashboard without charts and filters. -/
def shell (title slug : String) : Dashboard := ⟨title, some slug, [], Dict.empty, true⟩

def chartRow (p : Provisioner) (datasetId : Nat) (spec : ChartSpec) : Chart :=
  ⟨spec.name, some (p.describe spec.name), spec.vizType, spec.form, datasetId⟩

def placed (spec : ChartSpec) (id : Nat) : GridLayout.Chart := ⟨id, spec.name, spec.vizType, spec.width⟩

/-- `create_chart` -/
def createChart (p : Provisioner) (dashboardId datasetId : Nat) (spec : ChartSpec) : Program GridLayout.Chart := do
  let id : Nat ← send (.postChart (chartRow p datasetId spec) [dashboardId])
  pure (placed spec id)

namespace UserReport
open Provisioning.UserReport (slug)

def dashboardTitle : String := "User Report"

/-- `native_filters` -/
def nativeFilters (datasetId : Nat) : List NativeFilter :=
  [⟨"NATIVE_FILTER-USER-1", "Signup date", "filter_time", "created_date", datasetId⟩,
    ⟨"NATIVE_FILTER-USER-2", "Role", "filter_select", "primary_role", datasetId⟩,
    ⟨"NATIVE_FILTER-USER-3", "Activity", "filter_select", "activity_status", datasetId⟩,
    ⟨"NATIVE_FILTER-USER-4", "Account status", "filter_select", "account_status", datasetId⟩,
    ⟨"NATIVE_FILTER-USER-5", "Auth method", "filter_select", "auth_method", datasetId⟩]

structure Args where
  database : String
  datasetName : String
  schema : Option String
  sql : String
  chartSpecs : Nat → List ChartSpec

def createDashboard : Program Nat := send (.postDashboard (shell dashboardTitle slug))

def createCharts (a : Args) (datasetId dashboardId : Nat) (specs : List ChartSpec) : Program (List GridLayout.Chart) :=
  Script.collect (createChart (.userReport a.datasetName) dashboardId datasetId) specs

def publishLayout (dashboardId datasetId : Nat) (charts : List GridLayout.Chart) : Program Unit := do
  let _ : Unit ← send (.putDashboard dashboardId
    ⟨dashboardTitle, some slug, nativeFilters datasetId, GridLayout.userReportLayoutFor charts, true⟩)
  pure ()

def main (a : Args) : Program Unit := do
  let database ← resolveConnection a.database
  cleanup (Provisioning.UserReport.marks a.datasetName)
  let datasetId : Nat ← send (.postDataset database.1 ((a.schema.filter (· ≠ "")).getD database.2) a.sql a.datasetName)
  let dashboardId ← createDashboard
  let charts ← createCharts a datasetId dashboardId (a.chartSpecs datasetId)
  publishLayout dashboardId datasetId charts

end UserReport

namespace Programme
open Provisioning.Programme (datasetName slugs)

structure DashboardSpec where
  title : String
  slug : String
  charts : List ChartSpec
  filters : List (String × String)

structure Args where
  connection : String
  sql : String
  teacherReport : Nat → List ChartSpec
  headmasterReport : Nat → List ChartSpec
  educationOfficerReport : Nat → List ChartSpec

/-- `dashboard_specs` -/
def dashboardSpecs (a : Args) (datasetId : Nat) : List DashboardSpec :=
  [⟨"Teacher Report", "programme-teacher-report", a.teacherReport datasetId,
      [("Participant Name", "participant_name"), ("School Name", "school_name"), ("Course", "course_shortname"),
        ("Course Category", "course_category")]⟩,
    ⟨"Headmaster Report", "programme-headmaster-report", a.headmasterReport datasetId,
      [("School Name", "school_name"), ("Designation", "designation"), ("Course Category", "course_category"),
        ("Activity", "activity_kind")]⟩,
    ⟨"Education Officer Report", "programme-education-officer-report", a.educationOfficerReport datasetId,
      [("District ID", "district_id"), ("School Name", "school_name"), ("Course Category", "course_category"),
        ("Course", "course_shortname")]⟩]

/-- `native_filters` -/
def nativeFilters (datasetId : Nat) (filters : List (String × String)) : List NativeFilter :=
  (filters.zipIdx 1).map (fun f => ⟨"NATIVE_FILTER-" ++ toString f.2, f.1.1, "filter_select", f.1.2, datasetId⟩)

/-- A dataset without columns is refreshed once. -/
def createDataset (a : Args) (connection : Nat × String) : Program Nat := do
  let datasetId : Nat ← send (.postDataset connection.1 connection.2 a.sql datasetName)
  let detail : Dataset ← send (.getDataset datasetId)
  if detail.columns = [] then do
    let _ : Unit ← send (.refreshDataset datasetId)
    let _ : Dataset ← send (.getDataset datasetId)
    pure datasetId
  else pure datasetId

def createDashboard (spec : DashboardSpec) (datasetId : Nat) : Program Nat := do
  let dashboardId : Nat ← send (.postDashboard (shell spec.title spec.slug))
  let charts ← Script.collect (createChart .programme dashboardId datasetId) spec.charts
  let _ : Unit ← send (.putDashboard dashboardId
    ⟨spec.title, some spec.slug, nativeFilters datasetId spec.filters, GridLayout.programmeLayoutFor spec.title charts, true⟩)
  pure dashboardId

def main (a : Args) : Program Unit := do
  let connection ← resolveConnection a.connection
  cleanup Provisioning.Programme.marks
  let datasetId ← createDataset a connection
  Script.each (fun spec => do
    let _ ← createDashboard spec datasetId
    pure ()) (dashboardSpecs a datasetId)

end Programme
end XpBuilder.SupersetApi
