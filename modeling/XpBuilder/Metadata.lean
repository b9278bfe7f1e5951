import XpBuilder.Library.Table
import XpBuilder.Report.Definition
import XpBuilder.Publish.Layout

/-! The metadata rows that the report designer reads and writes: datasets,
charts, dashboards and saved reports, each in a table with its own key. -/

namespace XpBuilder

/-- `is_temporal` returns `is_dttm` once the metadata fetch has set it. -/
structure TableColumn where
  columnName : String
  type : Option String
  expression : Option String
  isDttm : Bool
  deriving DecidableEq, Repr

structure SqlMetric where
  metricName : String
  verboseName : String
  expression : String
  deriving DecidableEq, Repr

structure SqlaTable where
  databaseId : Nat
  catalog : Option String
  schema : Option String
  tableName : String
  sql : Option String
  columns : List TableColumn
  metrics : List SqlMetric
  mainDttmCol : Option String
  deriving DecidableEq, Repr

namespace SqlaTable

/-- `kind` is virtual when the stored SQL is neither NULL nor empty. -/
def isVirtual (d : SqlaTable) : Bool := (PythonText.truthy d.sql).isSome

def getColumn (d : SqlaTable) (name : String) : Option TableColumn :=
  if name = "" then none else d.columns.find? (fun c => c.columnName = name)

end SqlaTable

/-- The form data of a published chart; a key the code does not set is `none`. -/
structure Params where
  vizType : String
  datasource : String
  rowLimit : Int
  allColumns : Option (List String)
  orderByCols : Option (List String)
  metric : Option String
  metrics : Option (List String)
  groupby : Option (List String)
  granularitySqla : Option String
  timeGrainSqla : Option String
  column : Option (Option String)
  x : Option (Option String)
  y : Option (Option String)
  series : Option String
  deriving DecidableEq, Repr

structure Slice where
  sliceName : String
  datasourceId : Nat
  datasourceType : String
  datasourceName : String
  vizType : String
  params : Params
  owners : List Nat
  deriving DecidableEq, Repr

structure Dashboard where
  dashboardTitle : String
  slug : Option String
  slices : List Nat
  positionJson : PositionJson
  owners : List Nat
  published : Bool
  deriving DecidableEq

/-- `published_at` is a clock reading. -/
structure ReportDesigner where
  name : String
  description : String
  definition : RawDefinition
  datasetId : Option Nat
  chartId : Option Nat
  dashboardId : Option Nat
  vizType : Option String
  chartName : Option String
  publishedAt : Option Nat
  deriving DecidableEq

structure Metadata where
  datasets : Table SqlaTable
  charts : Table Slice
  dashboards : Table Dashboard
  reports : Table ReportDesigner
  deriving DecidableEq

def Metadata.empty : Metadata := ⟨Table.empty, Table.empty, Table.empty, Table.empty⟩

end XpBuilder
