import XpBuilder.Library.Dict

/-! The position tree of a dashboard as its JSON document stores it: a
dictionary from component id to component, with each component listing the ids
of its children. Entries that are not components (the version key) are kept. -/

namespace XpBuilder

inductive NodeType where
  | root | grid | tabs | tab | row | column | chart
  | other (name : String)
  deriving DecidableEq, Repr

/-- The `meta` record, with the keys the chart helpers write. -/
structure NodeMeta where
  chartId : Option Nat
  sliceName : Option String
  height : Option Nat
  width : Option Nat
  background : Option String
  deriving DecidableEq, Repr

def NodeMeta.none : NodeMeta := ⟨Option.none, Option.none, Option.none, Option.none, Option.none⟩

/-- A missing `children` or `parents` key is `none`. -/
structure Node where
  type : NodeType
  id : String
  children : Option (List String)
  parents : Option (List String)
  info : NodeMeta
  deriving DecidableEq, Repr

namespace Node

/-- `component.get("children", [])` -/
def childIds (n : Node) : List String := n.children.getD []

/-- `component.setdefault("children", []).append(key)` -/
def addChild (n : Node) (key : String) : Node :=
  { n with children := some (n.childIds ++ [key]) }

/-- `component["children"].remove(key)`, the first occurrence only. -/
def removeChild (n : Node) (key : String) : Node :=
  { n with children := n.children.map (fun cs => cs.erase key) }

end Node

inductive Entry where
  | node (n : Node)
  | scalar (text : String)
  deriving DecidableEq, Repr

def Entry.node? : Entry → Option Node
  | .node n => some n
  | .scalar _ => none

def Entry.mapNode (f : Node → Node) : Entry → Entry
  | .node n => .node (f n)
  | .scalar s => .scalar s

abbrev Layout := Dict String Entry

/-- The text of `position_json` by what `json.loads` makes of it. A document that
is no object may still take a key lookup (a list, a text) or raise on it. -/
inductive PositionJson where
  | absent
  | unreadable
  | notDict (searchable : Bool)
  | layout (l : Layout)
  deriving DecidableEq

/-- `json.loads(position_json)`, with `{}` for an absent or unreadable text;
`none` when the document is not an object. -/
def PositionJson.load : PositionJson → Option Layout
  | .absent => some Dict.empty
  | .unreadable => some Dict.empty
  | .notDict _ => none
  | .layout l => some l

namespace Layout

def nodeAt (l : Layout) (key : String) : Option Node := (l.get key).bind Entry.node?

def isType (l : Layout) (t : NodeType) (key : String) : Bool :=
  match l.nodeAt key with
  | some n => n.type = t
  | none => false

/-- The first TAB of the first TABS container, in child order, that has one. -/
def tabUnder (l : Layout) : List String → Option String
  | [] => none
  | child :: rest =>
    match l.nodeAt child with
    | some n =>
      if n.type = .tabs then
        match n.childIds.find? (isType l .tab) with
        | some tab => some tab
        | none => tabUnder l rest
      else tabUnder l rest
    | none => tabUnder l rest

/-- `_layout_tab_target`: the first TAB under ROOT_ID, else under GRID_ID. -/
def tabTarget (l : Layout) : Option String :=
  let under (container : String) : Option String :=
    (l.nodeAt container).bind (fun n => tabUnder l n.childIds)
  (under "ROOT_ID").or (under "GRID_ID")

def chartKey (chartId : Nat) : String := "CHART-" ++ toString chartId

def gridColumnCount : Nat := 12
def gridDefaultChartWidth : Nat := 4
def chartHeight : Nat := 50

/-- The hexadecimal digits `_generate_id` draws for the new row and column. -/
structure FreshIds where
  rowHex : String
  columnHex : String
  deriving DecidableEq, Repr

/-- `_generate_id("ROW")` -/
def FreshIds.row (ids : FreshIds) : String := "ROW-" ++ ids.rowHex

/-- `_generate_id("COLUMN")` -/
def FreshIds.column (ids : FreshIds) : String := "COLUMN-" ++ ids.columnHex

def modifyNode (l : Layout) (key : String) (f : Node → Node) : Layout :=
  l.modify key (Entry.mapNode f)

/-- The three components of a new chart, under `parents`. -/
def placeNodes (l : Layout) (ids : FreshIds) (chartId : Nat) (sliceName : String)
    (rowParents : List String) : Layout :=
  let key := chartKey chartId
  let columnParents := rowParents ++ [ids.row]
  let chartParents := columnParents ++ [ids.column]
  let title := if sliceName = "" then "Chart " ++ toString chartId else sliceName
  let withChart := l.set key (.node
    { type := .chart, id := key, children := some [], parents := some chartParents,
      info := ⟨some chartId, some title, some chartHeight, some gridDefaultChartWidth, none⟩ })
  let withColumn := withChart.set ids.column (.node
    { type := .column, id := ids.column, children := some [key], parents := some columnParents,
      info := ⟨none, none, none, some gridColumnCount, some "BACKGROUND_TRANSPARENT"⟩ })
  withColumn.set ids.row (.node
    { type := .row, id := ids.row, children := some [ids.column], parents := some rowParents,
      info := ⟨none, none, none, none, some "BACKGROUND_TRANSPARENT"⟩ })

/-- Attach the new row below its parent. The parent was looked up before the
new components were written, so a parent that one of them replaced is lost; a
missing parent falls back to GRID_ID, created without `parents`. -/
def hangRow (before l : Layout) (parentId rowKey : String) (written : List String) : Layout :=
  match before.nodeAt parentId with
  | some _ => if parentId ∈ written then l else l.modifyNode parentId (fun n => n.addChild rowKey)
  | none =>
    let withGrid := if (l.get "GRID_ID").isSome then l else
      l.set "GRID_ID" (.node ⟨.grid, "GRID_ID", some [], none, NodeMeta.none⟩)
    withGrid.modifyNode "GRID_ID" (fun n => n.addChild rowKey)

/-- Make ROOT_ID and GRID_ID exist and put GRID_ID below a root without TABS. -/
def wireRoot (l : Layout) : Layout :=
  let withGrid := if (l.get "GRID_ID").isSome then l else
    l.set "GRID_ID" (.node ⟨.grid, "GRID_ID", some [], some ["ROOT_ID"], NodeMeta.none⟩)
  let wired := match withGrid.nodeAt "ROOT_ID" with
    | none => withGrid.set "ROOT_ID" (.node ⟨.root, "ROOT_ID", some ["GRID_ID"], none, NodeMeta.none⟩)
    | some root =>
      if root.childIds.any (isType withGrid .tabs) || "GRID_ID" ∈ root.childIds then
        withGrid.modifyNode "ROOT_ID" (fun n => { n with children := some n.childIds })
      else withGrid.modifyNode "ROOT_ID" (fun n => n.addChild "GRID_ID")
  if (wired.get "DASHBOARD_VERSION_KEY").isSome then wired
  else wired.set "DASHBOARD_VERSION_KEY" (.scalar "v2")

/-- `_layout_add_chart` -/
def addChart (l : Layout) (ids : FreshIds) (chartId : Nat) (sliceName : String) : Layout :=
  let parentId := (tabTarget l).getD "GRID_ID"
  let known := ((l.nodeAt parentId).bind Node.parents).getD []
  let parentParents := if parentId = "GRID_ID" ∧ known = [] then ["ROOT_ID"] else known
  let placed := placeNodes l ids chartId sliceName (parentParents ++ [parentId])
  wireRoot (hangRow l placed parentId ids.row [chartKey chartId, ids.column, ids.row])

/-- The first component of type `t`, in document order, that lists `child`. -/
def firstHolder (l : Layout) (t : NodeType) (child : String) : Option (String × Node) :=
  l.entries.findSome? (fun e =>
    match e.2 with
    | .node n => if n.type = t ∧ child ∈ n.childIds then some (e.1, n) else none
    | .scalar _ => none)

/-- Drop `rowKey` from every GRID and TAB that lists it. -/
def unhangRow (l : Layout) (rowKey : String) : Layout :=
  l.mapValues (fun _ => Entry.mapNode (fun n =>
    if (n.type = .grid ∨ n.type = .tab) ∧ rowKey ∈ n.childIds then n.removeChild rowKey else n))

/-- Take `colKey` out of the first ROW that lists it, with the row when it gets empty. -/
def dropColumn (l : Layout) (colKey : String) : Layout :=
  match firstHolder l .row colKey with
  | none => l
  | some (rowKey, row) =>
    if (row.removeChild colKey).childIds = [] then
      unhangRow (l.erase rowKey) rowKey
    else l.modifyNode rowKey (fun n => n.removeChild colKey)

/-- `_layout_remove_chart` on the key of the chart. -/
def removeKey (l : Layout) (key : String) : Layout :=
  if (l.get key).isNone then l
  else
    let popped : Layout := l.erase key
    match firstHolder popped .column key with
    | none => popped
    | some (colKey, column) =>
      if (column.removeChild key).childIds = [] then dropColumn (popped.erase colKey) colKey
      else popped.modifyNode colKey (fun n => n.removeChild key)

def removeChart (l : Layout) (chartId : Nat) : Layout := l.removeKey (chartKey chartId)

end Layout
end XpBuilder
