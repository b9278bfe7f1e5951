import Mathlib.Data.List.Find
import Mathlib.Data.List.Flatten
import Mathlib.Data.List.Pairwise
import XpBuilder.Library.Runs
import XpBuilder.Publish.Detach
import XpBuilder.Publish.Publish

/-! Charts that come to a dashboard and leave it again, in any order. Beside its position tree stands
the list of the charts that are there now, in the order in which they came: the tree is always the
one it was, with a row for each of them. -/

namespace XpBuilder.Layout
open ChildTree (Path)

/-! ## The holder of the rows stays -/

theorem tabUnder_snoc {l : Layout} {row : String} (plain : ¬l.isType .tabs row) (cs : List String) :
    l.tabUnder (cs ++ [row]) = l.tabUnder cs := by
  induction cs with
  | nil =>
    unfold isType at plain
    cases there : l.nodeAt row with
    | none => simp [tabUnder, there]
    | some n =>
      have other : n.type ≠ .tabs := by simpa [there] using plain
      simp [tabUnder, there, other]
  | cons c rest ih =>
    rw [List.cons_append, tabUnder, tabUnder, ih]

/-- Components that are TABS for both, with the same children and the same TABs among them. -/
theorem tabUnder_congr {l l' : Layout} {cs : List String}
    (same : ∀ c ∈ cs, l'.isType .tabs c = l.isType .tabs c)
    (lists : ∀ c ∈ cs, l.isType .tabs c → l'.children c = l.children c)
    (tabs : ∀ c ∈ cs, ∀ ds, l.children c = some ds → ∀ d ∈ ds, l'.isType .tab d = l.isType .tab d) :
    l'.tabUnder cs = l.tabUnder cs := by
  induction cs with
  | nil => rfl
  | cons c rest ih =>
    have later : l'.tabUnder rest = l.tabUnder rest :=
      ih (fun c mem => same c (List.mem_cons_of_mem _ mem)) (fun c mem => lists c (List.mem_cons_of_mem _ mem))
        (fun c mem => tabs c (List.mem_cons_of_mem _ mem))
    have here := same c List.mem_cons_self
    have listed := lists c List.mem_cons_self
    have inside := tabs c List.mem_cons_self
    unfold isType at here
    unfold isType children at listed
    unfold children at inside
    rw [tabUnder, tabUnder, later]
    cases there : l.nodeAt c with
    | none =>
      cases there' : l'.nodeAt c with
      | none => rfl
      | some n' =>
        have other : n'.type ≠ .tabs := by simpa [there, there'] using here
        simp only [if_neg other]
    | some n =>
      by_cases type : n.type = .tabs
      · have kept : (l'.nodeAt c).map Node.childIds = some n.childIds := by simpa [there, type] using listed
        obtain ⟨n', there', childIds⟩ := Option.map_eq_some_iff.mp kept
        have type' : n'.type = .tabs := by simpa [there, there', type] using here
        have found : n'.childIds.find? (l'.isType .tab) = n.childIds.find? (l.isType .tab) := by
          rw [childIds]
          exact List.find?_congr (inside n.childIds (by simp [there]))
        rw [there']
        simp only [if_pos type, if_pos type', found]
      · cases there' : l'.nodeAt c with
        | none => simp only [if_neg type]
        | some n' =>
          have other : n'.type ≠ .tabs := by
            intro type'
            simp [there, there', type, type'] at here
          simp only [if_neg type, if_neg other]

section
variable {l : Layout} {ids : FreshIds} {chartId : Nat}

theorem isType_addChart (stored : l.Stored) (fresh : l.Fresh ids chartId) (sliceName : String) {t : NodeType} {k : String}
    (there : (l.get k).isSome) : (l.addChart ids chartId sliceName).isType t k = l.isType t k := by
  obtain ⟨row, column, chart⟩ := fresh.ne there
  obtain ⟨p, path⟩ := exists_path_holder stored.formed stored.laid
  have added := added_of_laid stored.formed stored.laid fresh path sliceName
  rw [Bool.eq_iff_iff, isType_iff, isType_iff, added.kept k row column chart]

theorem children_addChart (stored : l.Stored) (fresh : l.Fresh ids chartId) (sliceName : String) (k : String) :
    (l.addChart ids chartId sliceName).children k =
      if k = ids.row then some [ids.column] else if k = ids.column then some [chartKey chartId]
      else if k = chartKey chartId then some []
      else if k = l.holder then (l.children k).map (fun cs => cs ++ [ids.row]) else l.children k := by
  obtain ⟨p, path⟩ := exists_path_holder stored.formed stored.laid
  rw [(added_of_laid stored.formed stored.laid fresh path sliceName).children, grafts_apply]

/-- The holder is no TABS. -/
theorem Stored.holder_ne (stored : l.Stored) {k : String} (tabs : l.isType .tabs k) : k ≠ l.holder := by
  rintro rfl
  obtain ⟨p, path⟩ := exists_path_holder stored.formed stored.laid
  obtain ⟨n, there⟩ := Option.isSome_iff_exists.mp (holder_there path)
  have type : n.type = .tabs := by simpa [isType, there] using tabs
  rcases (stored.holder_node there).1 with grid | tab
  · rw [grid] at type
    cases type
  · rw [tab] at type
    cases type

/-- The search below one component finds the same TAB. -/
theorem tabUnder_addChart (stored : l.Stored) (fresh : l.Fresh ids chartId) (sliceName : String) {k : String}
    (there : (l.get k).isSome) :
    ((l.addChart ids chartId sliceName).nodeAt k).bind (fun n => tabUnder (l.addChart ids chartId sliceName) n.childIds) =
      (l.nodeAt k).bind (fun n => tabUnder l n.childIds) := by
  have resolves := stored.formed.resolves
  obtain ⟨row, column, chart⟩ := fresh.ne there
  have lists := children_addChart stored fresh sliceName
  have types : ∀ t {k}, (l.get k).isSome → (l.addChart ids chartId sliceName).isType t k = l.isType t k :=
    fun t {k} there => isType_addChart stored fresh sliceName there
  have plain : ¬(l.addChart ids chartId sliceName).isType .tabs ids.row := by
    obtain ⟨p, path⟩ := exists_path_holder stored.formed stored.laid
    rw [isType_iff, (added_of_laid stored.formed stored.laid fresh path sliceName).row]
    rintro ⟨parents, same⟩
    cases same
  generalize l.addChart ids chartId sliceName = l' at lists types plain ⊢
  have inner : ∀ n, l.nodeAt k = some n → tabUnder l' n.childIds = tabUnder l n.childIds := by
    intro n nodeThere
    have known : ∀ c ∈ n.childIds, (l.get c).isSome := fun c mem => isSome_get_of_nodeAt (resolves k n nodeThere c mem)
    refine tabUnder_congr (fun c mem => types .tabs (known c mem)) ?_ ?_
    · intro c mem tabs
      obtain ⟨row', column', chart'⟩ := fresh.ne (known c mem)
      rw [lists, if_neg row', if_neg column', if_neg chart', if_neg (stored.holder_ne tabs)]
    · intro c mem ds listed d within
      obtain ⟨m, below, rfl⟩ := Option.map_eq_some_iff.mp listed
      exact types .tab (isSome_get_of_nodeAt (resolves c m below d within))
  have here := lists k
  rw [if_neg row, if_neg column, if_neg chart] at here
  unfold children at here
  cases nodeThere : l.nodeAt k with
  | none =>
    have gone : (l'.nodeAt k).map Node.childIds = none := by simpa [nodeThere] using here
    rw [Option.map_eq_none_iff.mp gone]
    rfl
  | some n =>
    have listed : (l'.nodeAt k).map Node.childIds =
        some (if k = l.holder then n.childIds ++ [ids.row] else n.childIds) := by
      rw [here, nodeThere]
      split_ifs <;> rfl
    obtain ⟨n', nodeThere', childIds⟩ := Option.map_eq_some_iff.mp listed
    rw [nodeThere', Option.bind_some, Option.bind_some, childIds, ← inner n nodeThere]
    split_ifs
    · exact tabUnder_snoc plain n.childIds
    · rfl

theorem holder_addChart (stored : l.Stored) (fresh : l.Fresh ids chartId) (sliceName : String) :
    (l.addChart ids chartId sliceName).holder = l.holder := by
  obtain ⟨cs, lists, -⟩ := stored.laid
  unfold holder tabTarget
  simp only
  rw [tabUnder_addChart stored fresh sliceName (isSome_get_of_children lists),
    tabUnder_addChart stored fresh sliceName (isSome_get_of_nodeAt stored.formed.grid)]

/-- A node that was there, with the row in its child list if it is the holder. -/
theorem get_addChart (stored : l.Stored) (fresh : l.Fresh ids chartId) (sliceName : String) {k : String}
    (there : (l.get k).isSome) : (l.addChart ids chartId sliceName).get k =
      if k = l.holder then (l.get k).map (Entry.mapNode (fun n => n.addChild ids.row)) else l.get k := by
  rw [addChart_eq_hung stored fresh, hung, modifyNode, Dict.get_modify, get_placeNodes_old fresh _ _ there]

/-- The new entries do not depend on the others. -/
theorem get_addChart_new (stored : l.Stored) (fresh : l.Fresh ids chartId) (sliceName : String) {k : String}
    (new : k = ids.row ∨ k = ids.column ∨ k = chartKey chartId) : (l.addChart ids chartId sliceName).get k =
      (placeNodes Dict.empty ids chartId sliceName (l.holderParents ++ [l.holder])).get k := by
  obtain ⟨p, path⟩ := exists_path_holder stored.formed stored.laid
  obtain ⟨row, column, chart⟩ := fresh.ne (isSome_get_of_nodeAt (holder_there path))
  have other : k ≠ l.holder := by
    rintro rfl
    rcases new with same | same | same
    · exact row same
    · exact column same
    · exact chart same
  rw [addChart_eq_hung stored fresh, hung, modifyNode, Dict.get_modify, if_neg other]
  unfold placeNodes
  simp only [Dict.get_set]
  rcases new with rfl | rfl | rfl
  · rw [if_pos rfl, if_pos rfl]
  · rw [if_neg (row_ne_column ids).symm, if_pos rfl, if_neg (row_ne_column ids).symm, if_pos rfl]
  · rw [if_neg (row_ne_chartKey ids chartId).symm, if_neg (column_ne_chartKey ids chartId).symm, if_pos rfl,
      if_neg (row_ne_chartKey ids chartId).symm, if_neg (column_ne_chartKey ids chartId).symm, if_pos rfl]

theorem keys_addChart (stored : l.Stored) (fresh : l.Fresh ids chartId) (sliceName : String) :
    (l.addChart ids chartId sliceName).entries.map Prod.fst =
      l.entries.map Prod.fst ++ [chartKey chartId, ids.column, ids.row] := by
  rw [addChart_eq_hung stored fresh, hung, modifyNode, Dict.keys_modify, keys_placeNodes fresh]
  simp

theorem holderParents_addChart (stored : l.Stored) (fresh : l.Fresh ids chartId) (sliceName : String) :
    (l.addChart ids chartId sliceName).holderParents = l.holderParents := by
  obtain ⟨p, path⟩ := exists_path_holder stored.formed stored.laid
  have there := isSome_get_of_nodeAt (holder_there path)
  obtain ⟨n, nodeThere⟩ := Option.isSome_iff_exists.mp (holder_there path)
  have after : (l.addChart ids chartId sliceName).nodeAt l.holder = some (n.addChild ids.row) := by
    rw [nodeAt, get_addChart stored fresh sliceName there, if_pos rfl, get_of_nodeAt nodeThere]
    rfl
  unfold holderParents
  rw [holder_addChart stored fresh, after, nodeThere]
  rfl

/-- A node of the new layout that has no child list is one of the old. -/
theorem nodeAt_addChart_old (stored : l.Stored) (fresh : l.Fresh ids chartId) (sliceName : String) {k : String} {n' : Node}
    (there' : (l.addChart ids chartId sliceName).nodeAt k = some n') (there : (l.get k).isSome) :
    ∃ n, l.nodeAt k = some n ∧ n'.type = n.type ∧ (n.children.isSome → n'.children.isSome) := by
  rw [nodeAt, get_addChart stored fresh sliceName there] at there'
  cases found : l.get k with
  | none => simp [found] at there
  | some e =>
    rw [found] at there'
    cases e with
    | scalar text =>
      split_ifs at there'
      · cases there'
      · cases there'
    | node n =>
      refine ⟨n, nodeAt_of_get found, ?_⟩
      split_ifs at there'
      · obtain rfl := Option.some.inj there'
        exact ⟨rfl, fun _ => rfl⟩
      · obtain rfl := Option.some.inj there'
        exact ⟨rfl, id⟩

/-- A layout as the editor stores it is still one when a chart is added. -/
theorem Stored.addChart (stored : l.Stored) (fresh : l.Fresh ids chartId) (sliceName : String) :
    (l.addChart ids chartId sliceName).Stored := by
  obtain ⟨p, path⟩ := exists_path_holder stored.formed stored.laid
  have added := added_of_laid stored.formed stored.laid fresh path sliceName
  have old : ∀ {k n'}, (l.addChart ids chartId sliceName).nodeAt k = some n' → (l.get k).isSome →
      ∃ n, l.nodeAt k = some n ∧ n'.type = n.type ∧ (n.children.isSome → n'.children.isSome) :=
    nodeAt_addChart_old stored fresh sliceName
  obtain ⟨cs, lists, -⟩ := stored.laid
  refine ⟨added.wellFormed stored.formed fresh path, added.laid fresh stored.laid, ?_, ?_, ?_, ?_⟩
  · intro n' there'
    obtain ⟨n, there, -, known⟩ := old there' (isSome_get_of_children lists)
    exact known (stored.root n there)
  · intro n' there'
    obtain ⟨n, there, type, known⟩ := old there' (isSome_get_of_nodeAt stored.formed.grid)
    have grid := stored.grid n there
    exact ⟨type.trans grid.1, known grid.2⟩
  · intro k n' there' tab
    by_cases there : (l.get k).isSome
    · obtain ⟨n, nodeThere, type, known⟩ := old there' there
      exact known (stored.tab k n nodeThere (type.symm.trans tab))
    · -- the new components are no TABs
      have listed : (l.addChart ids chartId sliceName).children k = some n'.childIds := by simp [children, there']
      have absent : l.get k = none := by simpa using there
      have frame : (l.addChart ids chartId sliceName).frame k = some (.tab, n'.parents) := by
        simp [Layout.frame, there', tab]
      rw [children_addChart stored fresh] at listed
      split_ifs at listed with row column chart
      · rw [row, added.row] at frame
        cases frame
      · rw [column, added.column] at frame
        cases frame
      · rw [chart, added.chart] at frame
        cases frame
      · rw [children_of_get_none absent] at listed
        cases listed
      · rw [children_of_get_none absent] at listed
        cases listed
  · have there := get_addChart stored fresh sliceName stored.version
    rw [there]
    split_ifs
    · rw [Option.isSome_map]
      exact stored.version
    · exact stored.version

end

/-! ## A layout with the charts that came to it -/

/-- A chart that came, with the digits drawn for its row and its column. -/
structure Placed where
  ids : FreshIds
  chartId : Nat
  sliceName : String
  deriving DecidableEq, Repr

/-- The keys of its components. -/
def Placed.keys (p : Placed) : List String := [chartKey p.chartId, p.ids.column, p.ids.row]

/-- Its components, below the given ones. -/
def Placed.entry (parents : List String) (p : Placed) (k : String) : Option Entry :=
  (placeNodes Dict.empty p.ids p.chartId p.sliceName parents).get k

/-- The charts added to a layout one after the other. -/
def withCharts (base : Layout) (ps : List Placed) : Layout :=
  ps.foldl (fun l p => l.addChart p.ids p.chartId p.sliceName) base

theorem withCharts_snoc (base : Layout) (ps : List Placed) (p : Placed) :
    base.withCharts (ps ++ [p]) = (base.withCharts ps).addChart p.ids p.chartId p.sliceName := List.foldl_append

/-- A node with further children behind its own. -/
def hang (rows : List String) (n : Node) : Node := rows.foldl Node.addChild n

theorem hang_snoc (rows : List String) (row : String) (n : Node) : hang (rows ++ [row]) n = (hang rows n).addChild row :=
  List.foldl_append

theorem hang_eq {n : Node} (known : n.children.isSome) (rows : List String) :
    hang rows n = { n with children := some (n.childIds ++ rows) } := by
  obtain ⟨cs, listed⟩ := Option.isSome_iff_exists.mp known
  induction rows using List.reverseRecOn with
  | nil =>
    have whole : some (n.childIds ++ []) = n.children := by simp [Node.childIds, listed]
    rw [whole]
    rfl
  | append_singleton rows row ih =>
    rw [hang_snoc, ih]
    simp [Node.addChild, Node.childIds]

/-- The layout `l` is `base` with the charts of the list: its keys, what stood there before and what is new. -/
structure Bears (base : Layout) (ps : List Placed) (l : Layout) : Prop where
  keys : l.entries.map Prod.fst = base.entries.map Prod.fst ++ ps.flatMap Placed.keys
  old : ∀ k, (base.get k).isSome → l.get k =
    if k = base.holder then (base.get k).map (Entry.mapNode (hang (ps.map (fun p => p.ids.row)))) else base.get k
  new : ∀ p ∈ ps, ∀ k ∈ p.keys, l.get k = p.entry (base.holderParents ++ [base.holder]) k

theorem isSome_get_iff {l : Layout} {k : String} : (l.get k).isSome ↔ k ∈ l.entries.map Prod.fst := by
  rw [Option.isSome_iff_ne_none, Ne, Dict.get_eq_none_iff, not_not]

/-- These tell the layout. -/
theorem Bears.unique {base l l' : Layout} {ps : List Placed} (bears : Bears base ps l) (bears' : Bears base ps l') :
    l = l' := by
  have keys := bears.keys.trans bears'.keys.symm
  apply Dict.ext_keys keys
  intro k
  by_cases there : k ∈ l.entries.map Prod.fst
  · have place := there
    rw [bears.keys, List.mem_append] at place
    rcases place with before | added
    · have known := isSome_get_iff.mpr before
      rw [bears.old k known, bears'.old k known]
    · obtain ⟨p, mem, within⟩ := List.mem_flatMap.mp added
      rw [bears.new p mem k within, bears'.new p mem k within]
  · rw [(Dict.get_eq_none_iff l k).mpr there, (Dict.get_eq_none_iff l' k).mpr (keys ▸ there)]

theorem Placed.mem_keys {p : Placed} {k : String} :
    k ∈ p.keys ↔ k = p.ids.row ∨ k = p.ids.column ∨ k = chartKey p.chartId := by
  unfold Placed.keys
  simp only [List.mem_cons, List.not_mem_nil, or_false]
  tauto

/-- The charts one after the other: the rows, columns and charts have keys of their own. -/
theorem withCharts_bears {base : Layout} (stored : base.Stored) {ps : List Placed}
    (distinct : (base.entries.map Prod.fst ++ ps.flatMap Placed.keys).Nodup) :
    (base.withCharts ps).Stored ∧ (base.withCharts ps).holder = base.holder ∧
      (base.withCharts ps).holderParents = base.holderParents ∧ Bears base ps (base.withCharts ps) := by
  induction ps using List.reverseRecOn with
  | nil =>
    refine ⟨stored, rfl, rfl, by simp [withCharts], ?_, fun p mem => nomatch mem⟩
    intro k there
    have same : Entry.mapNode (hang ([].map (fun p : Placed => p.ids.row))) = id := by
      funext e
      cases e <;> rfl
    rw [same]
    simp [withCharts]
  | append_singleton ps p ih =>
    rw [List.flatMap_append, List.flatMap_singleton, ← List.append_assoc] at distinct
    obtain ⟨storedBefore, holder, parents, bears⟩ := ih distinct.of_append_left
    have absent : ∀ k ∈ p.keys, (base.withCharts ps).get k = none := by
      intro k within
      rw [Dict.get_eq_none_iff, bears.keys]
      exact fun there => (List.disjoint_of_nodup_append distinct) there within
    have fresh : (base.withCharts ps).Fresh p.ids p.chartId :=
      ⟨absent _ (Placed.mem_keys.mpr (.inl rfl)), absent _ (Placed.mem_keys.mpr (.inr (.inl rfl))),
        absent _ (Placed.mem_keys.mpr (.inr (.inr rfl)))⟩
    have kept : ∀ k, k ∈ base.entries.map Prod.fst ++ ps.flatMap Placed.keys → ((base.withCharts ps).get k).isSome := by
      intro k there
      rw [isSome_get_iff, bears.keys]
      exact there
    rw [withCharts_snoc]
    refine ⟨storedBefore.addChart fresh _, (holder_addChart storedBefore fresh _).trans holder,
      (holderParents_addChart storedBefore fresh _).trans parents, ?_, ?_, ?_⟩
    · rw [keys_addChart storedBefore fresh, bears.keys, List.flatMap_append, List.flatMap_singleton, List.append_assoc]
      rfl
    · intro k there
      rw [get_addChart storedBefore fresh _ (kept k (List.mem_append_left _ (isSome_get_iff.mp there))), holder,
        bears.old k there]
      split_ifs
      · rw [Option.map_map, List.map_append, List.map_singleton]
        congr 1
        funext e
        cases e with
        | scalar text => rfl
        | node n => simp only [Function.comp_apply, Entry.mapNode, hang_snoc]
      · rfl
    · intro q mem k within
      rcases List.mem_append.mp mem with before | last
      · have there := kept k (List.mem_append_right _ (List.mem_flatMap.mpr ⟨q, before, within⟩))
        have apart : k ≠ base.holder := by
          rintro rfl
          obtain ⟨_, path⟩ := exists_path_holder stored.formed stored.laid
          have known := isSome_get_iff.mp (isSome_get_of_nodeAt (holder_there path))
          have disjoint := List.disjoint_of_nodup_append distinct.of_append_left
          exact disjoint known (List.mem_flatMap.mpr ⟨q, before, within⟩)
        rw [get_addChart storedBefore fresh _ there, holder, if_neg apart, bears.new q before k within]
      · obtain rfl := List.mem_singleton.mp last
        rw [get_addChart_new storedBefore fresh _ (Placed.mem_keys.mp within), holder, parents]
        rfl

/-! ## One of them leaves -/

/-- A chart alone in its column, the column alone in its row: all three go, and the row from what lists it. -/
theorem removeChart_of_sole {l : Layout} {ids : FreshIds} {chartId : Nat} {column row : Node}
    (chartThere : (l.get (chartKey chartId)).isSome) (columnThere : l.nodeAt ids.column = some column)
    (onlyChart : column.childIds = [chartKey chartId]) (columnType : column.type = .column)
    (rowThere : l.nodeAt ids.row = some row) (onlyColumn : row.childIds = [ids.column]) (rowType : row.type = .row)
    (chartAlone : ∀ k n, l.nodeAt k = some n → chartKey chartId ∈ n.childIds → k = ids.column)
    (columnAlone : ∀ k n, l.nodeAt k = some n → ids.column ∈ n.childIds → k = ids.row) :
    l.removeChart chartId = unhangRow (((l.erase (chartKey chartId)).erase ids.column).erase ids.row) ids.row := by
  have columnThere' : nodeAt (l.erase (chartKey chartId)) ids.column = some column := by
    rw [nodeAt_erase, if_neg (column_ne_chartKey ids chartId), columnThere]
  have rowThere' : nodeAt ((l.erase (chartKey chartId)).erase ids.column) ids.row = some row := by
    rw [nodeAt_erase, if_neg (row_ne_column ids), nodeAt_erase, if_neg (row_ne_chartKey ids chartId), rowThere]
  have sole : SoleIn (l.erase (chartKey chartId)) .column (chartKey chartId) := by
    apply soleIn_of_holder columnThere' columnType onlyChart
    intro k n there within
    have other := ne_of_erase there
    rw [nodeAt_erase, if_neg other] at there
    exact chartAlone k n there within
  have soleRow : SoleIn ((l.erase (chartKey chartId)).erase ids.column) .row ids.column := by
    apply soleIn_of_holder rowThere' rowType onlyColumn
    intro k n there within
    have other := ne_of_erase there
    rw [nodeAt_erase, if_neg other] at there
    have other' := ne_of_erase there
    rw [nodeAt_erase, if_neg other'] at there
    exact columnAlone k n there within
  obtain ⟨gone, removal⟩ := Layout.removed chartThere
  unfold removeChart
  generalize l.removeKey (chartKey chartId) = after at removal
  cases removal with
  | column taken => exact absurd (taken.next_of_only sole columnThere' onlyChart).1 (by simp)
  | row taken takenRow =>
    obtain ⟨same, rfl⟩ := taken.next_of_only sole columnThere' onlyChart
    obtain rfl := Option.some.inj same
    exact absurd (takenRow.next_of_only soleRow rowThere' onlyColumn).1 (by simp)
  | grid taken takenRow =>
    obtain ⟨same, rfl⟩ := taken.next_of_only sole columnThere' onlyChart
    obtain rfl := Option.some.inj same
    obtain ⟨sameRow, rfl⟩ := takenRow.next_of_only soleRow rowThere' onlyColumn
    rw [Option.some.inj sameRow]

section
variable {base l : Layout} {ps : List Placed}

theorem Bears.absent (bears : Bears base ps l) {p : Placed} (mem : p ∈ ps) {k : String} (within : k ∈ p.keys) :
    base.get k = none := by
  have distinct := l.distinct
  rw [bears.keys] at distinct
  rw [Dict.get_eq_none_iff]
  intro there
  exact List.disjoint_of_nodup_append distinct there (List.mem_flatMap.mpr ⟨p, mem, within⟩)

/-- A key belongs to one of the charts. -/
theorem Bears.eq_of_key (bears : Bears base ps l) {p q : Placed} (mem : p ∈ ps) (mem' : q ∈ ps) {k : String}
    (within : k ∈ p.keys) (within' : k ∈ q.keys) : p = q := by
  have distinct := l.distinct
  rw [bears.keys] at distinct
  have apart := (List.nodup_flatMap.mp distinct.of_append_right).2
  have symmetric : Std.Symm (Function.onFun List.Disjoint Placed.keys) := ⟨fun _ _ disjoint => disjoint.symm⟩
  by_contra other
  exact apart.forall mem mem' other within within'

/-- The components of one of the charts. -/
theorem Bears.nodes (bears : Bears base ps l) {p : Placed} (mem : p ∈ ps) :
    (∃ n, l.nodeAt p.ids.row = some n ∧ n.type = .row ∧ n.childIds = [p.ids.column]) ∧
    (∃ n, l.nodeAt p.ids.column = some n ∧ n.type = .column ∧ n.childIds = [chartKey p.chartId]) ∧
    ∃ n, l.nodeAt (chartKey p.chartId) = some n ∧ n.childIds = [] := by
  have entries := bears.new p mem
  have row := entries p.ids.row (Placed.mem_keys.mpr (.inl rfl))
  have column := entries p.ids.column (Placed.mem_keys.mpr (.inr (.inl rfl)))
  have chart := entries (chartKey p.chartId) (Placed.mem_keys.mpr (.inr (.inr rfl)))
  unfold Placed.entry placeNodes at row column chart
  simp only [Dict.get_set] at row column chart
  rw [if_pos trivial] at row
  rw [if_neg (row_ne_column p.ids).symm, if_pos trivial] at column
  rw [if_neg (row_ne_chartKey p.ids p.chartId).symm, if_neg (column_ne_chartKey p.ids p.chartId).symm,
    if_pos trivial] at chart
  exact ⟨⟨_, nodeAt_of_get row, rfl, rfl⟩, ⟨_, nodeAt_of_get column, rfl, rfl⟩, ⟨_, nodeAt_of_get chart, rfl⟩⟩

/-- Who lists a key that was not there before. -/
theorem Bears.lists (bears : Bears base ps l) (stored : base.Stored) {k child : String} {n : Node}
    (there : l.nodeAt k = some n) (within : child ∈ n.childIds) (new : base.get child = none) :
    ∃ p ∈ ps, (k = base.holder ∧ child = p.ids.row) ∨ (k = p.ids.row ∧ child = p.ids.column) ∨
      (k = p.ids.column ∧ child = chartKey p.chartId) := by
  have unlisted : ∀ m, base.nodeAt k = some m → child ∉ m.childIds := by
    intro m before holds
    have resolved := isSome_get_of_nodeAt (stored.formed.resolves k m before child holds)
    rw [new] at resolved
    cases resolved
  have place := isSome_get_iff.mp (isSome_get_of_nodeAt (Option.isSome_iff_exists.mpr ⟨n, there⟩))
  rw [bears.keys, List.mem_append] at place
  rcases place with before | added
  · have known := isSome_get_iff.mpr before
    have got := bears.old k known
    rw [get_of_nodeAt there] at got
    split_ifs at got with here
    · obtain ⟨e, found, mapped⟩ := Option.map_eq_some_iff.mp got.symm
      cases e with
      | scalar text => cases mapped
      | node m =>
        have node : hang (ps.map (fun p => p.ids.row)) m = n := by simpa [Entry.mapNode] using mapped
        have nodeThere := nodeAt_of_get found
        rw [here] at nodeThere
        rw [← node, hang_eq (stored.holder_node nodeThere).2] at within
        rcases List.mem_append.mp within with old | row
        · exact absurd old (unlisted m (nodeAt_of_get found))
        · obtain ⟨p, mem, rfl⟩ := List.mem_map.mp row
          exact ⟨p, mem, .inl ⟨here, rfl⟩⟩
    · exact absurd within (unlisted n (nodeAt_of_get got.symm))
  · obtain ⟨p, mem, key⟩ := List.mem_flatMap.mp added
    obtain ⟨⟨row, rowThere, -, rowLists⟩, ⟨column, columnThere, -, columnLists⟩, ⟨chart, chartThere, chartLists⟩⟩ :=
      bears.nodes mem
    refine ⟨p, mem, ?_⟩
    rcases Placed.mem_keys.mp key with rfl | rfl | rfl
    · rw [Option.some.inj (there.symm.trans rowThere), rowLists, List.mem_singleton] at within
      exact .inr (.inl ⟨rfl, within⟩)
    · rw [Option.some.inj (there.symm.trans columnThere), columnLists, List.mem_singleton] at within
      exact .inr (.inr ⟨rfl, within⟩)
    · rw [Option.some.inj (there.symm.trans chartThere), chartLists] at within
      cases within

/-- The removal of one of the charts takes its three components and the row from its holder. -/
theorem Bears.removeChart_eq (bears : Bears base ps l) (stored : base.Stored) {p : Placed} (mem : p ∈ ps) :
    l.removeChart p.chartId = unhangRow (((l.erase (chartKey p.chartId)).erase p.ids.column).erase p.ids.row) p.ids.row := by
  obtain ⟨⟨row, rowThere, rowType, rowLists⟩, ⟨column, columnThere, columnType, columnLists⟩, ⟨chart, chartThere, -⟩⟩ :=
    bears.nodes mem
  have chartPresent := isSome_get_of_nodeAt (Option.isSome_iff_exists.mpr ⟨chart, chartThere⟩)
  have chartNew := bears.absent mem (Placed.mem_keys.mpr (.inr (.inr rfl)))
  have columnNew := bears.absent mem (Placed.mem_keys.mpr (.inr (.inl rfl)))
  refine removeChart_of_sole chartPresent columnThere columnLists columnType rowThere rowLists rowType ?_ ?_
  · intro k n there within
    obtain ⟨q, mem', ⟨-, same⟩ | ⟨-, same⟩ | ⟨here, same⟩⟩ := bears.lists stored there within chartNew
    · exact absurd same.symm (row_ne_chartKey q.ids p.chartId)
    · exact absurd same.symm (column_ne_chartKey q.ids p.chartId)
    · have whole : p = q := bears.eq_of_key mem mem' (k := chartKey p.chartId)
        (Placed.mem_keys.mpr (.inr (.inr rfl))) (Placed.mem_keys.mpr (.inr (.inr same)))
      rw [here, whole]
  · intro k n there within
    obtain ⟨q, mem', ⟨-, same⟩ | ⟨here, same⟩ | ⟨-, same⟩⟩ := bears.lists stored there within columnNew
    · have whole : p = q := bears.eq_of_key mem mem' (k := p.ids.column)
        (Placed.mem_keys.mpr (.inr (.inl rfl))) (Placed.mem_keys.mpr (.inl same))
      rw [← whole] at same
      exact absurd same.symm (row_ne_column p.ids)
    · have whole : p = q := bears.eq_of_key mem mem' (k := p.ids.column)
        (Placed.mem_keys.mpr (.inr (.inl rfl))) (Placed.mem_keys.mpr (.inr (.inl same)))
      rw [here, whole]
    · exact absurd same (column_ne_chartKey p.ids q.chartId)

/-- A row that is taken from the others. -/
theorem removeChild_hang {n : Node} (known : n.children.isSome) {row : String} {rows : List String}
    (new : row ∉ n.childIds) (distinct : rows.Nodup) :
    (hang rows n).removeChild row = hang (rows.filter (fun r => r ≠ row)) n := by
  rw [hang_eq known, hang_eq known]
  have taken : (n.childIds ++ rows).erase row = n.childIds ++ rows.filter (fun r => r ≠ row) := by
    have others : (fun r => r != row) = fun r => decide (r ≠ row) := by
      funext r
      exact (decide_not ..).symm
    rw [List.erase_append_right _ new, distinct.erase_eq_filter, others]
  simp only [Node.removeChild, Option.map_some, taken]

/-- What a row is taken from is the holder alone. -/
theorem get_unhangRow_of_plain {l : Layout} {row k : String} (plain : ∀ n, l.nodeAt k = some n → row ∉ n.childIds) :
    (l.unhangRow row).get k = l.get k := by
  unfold unhangRow
  rw [Dict.get_mapValues]
  cases found : l.get k with
  | none => rfl
  | some e =>
    cases e with
    | scalar text => rfl
    | node n =>
      have other : ¬((n.type = .grid ∨ n.type = .tab) ∧ row ∈ n.childIds) := fun holds => plain n (nodeAt_of_get found) holds.2
      simp only [Option.map_some, Entry.mapNode]
      rw [if_neg other]

theorem rows_sublist (ps : List Placed) : (ps.map (fun p => p.ids.row)).Sublist (ps.flatMap Placed.keys) := by
  induction ps with
  | nil => exact .slnil
  | cons p rest ih =>
    have own : [p.ids.row].Sublist p.keys := by simp [Placed.keys]
    rw [List.map_cons, List.flatMap_cons]
    exact own.append ih

/-- The keys of the others. -/
theorem filter_keys {p : Placed} {ps : List Placed} (apart : ∀ q ∈ ps, q ≠ p → ∀ k ∈ q.keys, k ∉ p.keys) :
    (ps.flatMap Placed.keys).filter (fun k => k ∉ p.keys) = (ps.filter (fun q => q ≠ p)).flatMap Placed.keys := by
  induction ps with
  | nil => rfl
  | cons q rest ih =>
    rw [List.forall_mem_cons] at apart
    rw [List.flatMap_cons, List.filter_append, ih apart.2]
    by_cases same : q = p
    · simp [same]
    · have kept : q.keys.filter (fun k => k ∉ p.keys) = q.keys := by
        apply List.filter_eq_self.mpr
        intro k within
        exact decide_eq_true (apart.1 same k within)
      rw [kept, List.filter_cons_of_pos (by simpa using same), List.flatMap_cons]

/-- The layout without one of the charts is the one to which the others came. -/
theorem Bears.removed (bears : Bears base ps l) (stored : base.Stored) {p : Placed} (mem : p ∈ ps) :
    Bears base (ps.filter (fun q => q ≠ p)) (l.removeChart p.chartId) := by
  have rowNew := bears.absent mem (Placed.mem_keys.mpr (.inl rfl))
  have erased : ∀ {k}, k ∉ p.keys → (((l.erase (chartKey p.chartId)).erase p.ids.column).erase p.ids.row).get k = l.get k := by
    intro k out
    rw [Placed.mem_keys, not_or, not_or] at out
    rw [Dict.get_erase, if_neg out.1, Dict.get_erase, if_neg out.2.1, Dict.get_erase, if_neg out.2.2]
  have plain : ∀ {k}, k ≠ base.holder → k ∉ p.keys → (l.removeChart p.chartId).get k = l.get k := by
    intro k other out
    rw [bears.removeChart_eq stored mem, get_unhangRow_of_plain, erased out]
    intro n there within
    rw [nodeAt, erased out] at there
    obtain ⟨q, mem', ⟨here, -⟩ | ⟨-, same⟩ | ⟨-, same⟩⟩ := bears.lists stored there within rowNew
    · exact other here
    · have whole : p = q := bears.eq_of_key mem mem' (k := p.ids.row) (Placed.mem_keys.mpr (.inl rfl))
        (Placed.mem_keys.mpr (.inr (.inl same)))
      rw [← whole] at same
      exact row_ne_column p.ids same
    · exact row_ne_chartKey p.ids q.chartId same
  have distinct := l.distinct
  rw [bears.keys] at distinct
  refine ⟨?_, ?_, ?_⟩
  · have unhung : (l.removeChart p.chartId).entries.map Prod.fst =
        (l.entries.map Prod.fst).filter (fun k => k ∉ p.keys) := by
      rw [bears.removeChart_eq stored mem, unhangRow, Dict.keys_mapValues, Dict.keys_erase, Dict.keys_erase, Dict.keys_erase,
        List.filter_filter, List.filter_filter]
      apply List.filter_congr
      intro k _
      rw [Bool.eq_iff_iff]
      simp only [Placed.mem_keys, Bool.and_eq_true, decide_eq_true_eq]
      tauto
    have before : (base.entries.map Prod.fst).filter (fun k => k ∉ p.keys) = base.entries.map Prod.fst := by
      apply List.filter_eq_self.mpr
      intro k there
      apply decide_eq_true
      intro within
      exact (Dict.get_eq_none_iff base k).mp (bears.absent mem within) there
    have others : ∀ q ∈ ps, q ≠ p → ∀ k ∈ q.keys, k ∉ p.keys := by
      intro q mem' other k within within'
      exact other (bears.eq_of_key mem' mem within within')
    rw [unhung, bears.keys, List.filter_append, before, filter_keys others]
  · intro k known
    have out : k ∉ p.keys := by
      intro within
      rw [bears.absent mem within] at known
      cases known
    by_cases here : k = base.holder
    · have rows : (ps.map (fun q => q.ids.row)).Nodup := (rows_sublist ps).nodup distinct.of_append_right
      have others : (ps.map (fun q => q.ids.row)).filter (fun r => r ≠ p.ids.row) =
          (ps.filter (fun q => q ≠ p)).map (fun q => q.ids.row) := by
        rw [List.filter_map]
        congr 1
        apply List.filter_congr
        intro q mem'
        have same : q.ids.row = p.ids.row ↔ q = p := by
          constructor
          · intro same
            exact bears.eq_of_key mem' mem (Placed.mem_keys.mpr (.inl rfl)) (Placed.mem_keys.mpr (.inl same))
          · rintro rfl
            rfl
        simp [same]
      obtain ⟨_, path⟩ := exists_path_holder stored.formed stored.laid
      obtain ⟨n, there⟩ := Option.isSome_iff_exists.mp (holder_there path)
      obtain ⟨type, children⟩ := stored.holder_node there
      have new : p.ids.row ∉ n.childIds := by
        intro within
        have resolved := isSome_get_of_nodeAt (stored.formed.resolves _ n there p.ids.row within)
        rw [bears.absent mem (Placed.mem_keys.mpr (.inl rfl))] at resolved
        cases resolved
      have got := bears.old k known
      rw [if_pos here, here, get_of_nodeAt there] at got
      have listed : p.ids.row ∈ (hang (ps.map (fun q => q.ids.row)) n).childIds := by
        rw [hang_eq children]
        exact List.mem_append_right _ (List.mem_map.mpr ⟨p, mem, rfl⟩)
      have type' : (hang (ps.map (fun q => q.ids.row)) n).type = n.type := by rw [hang_eq children]
      have holds : ((hang (ps.map (fun q => q.ids.row)) n).type = .grid ∨
          (hang (ps.map (fun q => q.ids.row)) n).type = .tab) ∧
          p.ids.row ∈ (hang (ps.map (fun q => q.ids.row)) n).childIds := ⟨type' ▸ type, listed⟩
      rw [bears.removeChart_eq stored mem, unhangRow, Dict.get_mapValues, erased out, here, got, if_pos rfl,
        get_of_nodeAt there]
      simp only [Option.map_some, Entry.mapNode]
      rw [if_pos holds, removeChild_hang children new rows, others]
    · rw [plain here out, bears.old k known, if_neg here, if_neg here]
  · intro q mem' k within
    obtain ⟨mem', other⟩ := List.mem_filter.mp mem'
    have apart : k ∉ p.keys := fun within' => (of_decide_eq_true other) (bears.eq_of_key mem' mem within within')
    have away : k ≠ base.holder := by
      rintro rfl
      obtain ⟨_, path⟩ := exists_path_holder stored.formed stored.laid
      have known := isSome_get_of_nodeAt (holder_there path)
      rw [bears.absent mem' within] at known
      cases known
    rw [plain away apart, bears.new q mem' k within]

end

theorem chartKey_inj {c c' : Nat} (same : chartKey c = chartKey c') : c = c' := by
  have digits : Nat.toDigits 10 c = Nat.toDigits 10 c' := by
    simpa [chartKey] using congrArg String.toList same
  rw [← Nat.ofDigitChars_ten_toDigits (n := c), digits, Nat.ofDigitChars_ten_toDigits]

end XpBuilder.Layout

namespace XpBuilder.Publish
open Layout (Bears Placed chartKey)

/-! ## Charts that come and go -/

/-- A chart is put on the dashboard, or taken off it. -/
inductive Move where
  | attach (p : Placed)
  | detach (chartId : Nat)

def Move.chartId : Move → Nat
  | .attach p => p.chartId
  | .detach chartId => chartId

def Move.step (d : Dashboard) : Move → Dashboard
  | .attach p => attachChart p.ids p.chartId p.sliceName d
  | .detach chartId => detachFrom chartId d

/-- The charts that are there, in the order in which they came. -/
def Move.arrivals (ps : List Placed) : Move → List Placed
  | .attach p => if p.chartId ∈ ps.map Placed.chartId then ps else ps ++ [p]
  | .detach chartId => ps.filter (fun p => p.chartId ≠ chartId)

/-- A dashboard with charts that came to it. -/
def withArrivals (base : Layout) (d : Dashboard) (ps : List Placed) : Dashboard :=
  { d with
    slices := d.slices ++ ps.map Placed.chartId
    positionJson := .layout (base.withCharts ps) }

/-- The digits for a chart that is not there yet are not in use. -/
def Move.Drawn (d : Dashboard) (m : Move) : Prop :=
  ∀ p l, m = .attach p → d.positionJson = .layout l → (l.get (chartKey p.chartId)).isSome ∨ l.Fresh p.ids p.chartId

/-- The keys of the charts that are there are their own, and so are the charts. -/
structure Apart (base : Layout) (d : Dashboard) (ps : List Placed) : Prop where
  keys : (base.entries.map Prod.fst ++ ps.flatMap Placed.keys).Nodup
  slices : ∀ p ∈ ps, p.chartId ∉ d.slices

section
variable {base : Layout} {d : Dashboard} {ps : List Placed}

theorem mem_charts_of_key (bears : Bears base ps (base.withCharts ps)) {chartId : Nat} (new : base.get (chartKey chartId) = none)
    (there : ((base.withCharts ps).get (chartKey chartId)).isSome) : chartId ∈ ps.map Placed.chartId := by
  have place := Layout.isSome_get_iff.mp there
  rw [bears.keys, List.mem_append] at place
  rcases place with before | added
  · exact absurd before ((Dict.get_eq_none_iff base _).mp new)
  · obtain ⟨p, mem, within⟩ := List.mem_flatMap.mp added
    rcases Placed.mem_keys.mp within with same | same | same
    · exact absurd same.symm (Layout.row_ne_chartKey p.ids chartId)
    · exact absurd same.symm (Layout.column_ne_chartKey p.ids chartId)
    · exact List.mem_map.mpr ⟨p, mem, (Layout.chartKey_inj same).symm⟩

theorem isSome_of_mem_charts (bears : Bears base ps (base.withCharts ps)) {chartId : Nat}
    (there : chartId ∈ ps.map Placed.chartId) : ((base.withCharts ps).get (chartKey chartId)).isSome := by
  obtain ⟨p, mem, rfl⟩ := List.mem_map.mp there
  obtain ⟨-, -, ⟨n, node, -⟩⟩ := bears.nodes mem
  exact Layout.isSome_get_of_nodeAt (Option.isSome_iff_exists.mpr ⟨n, node⟩)

/-- The one chart with the id. -/
theorem filter_chart (bears : Bears base ps (base.withCharts ps)) {p : Placed} (mem : p ∈ ps) :
    ps.filter (fun q => q.chartId ≠ p.chartId) = ps.filter (fun q => q ≠ p) := by
  apply List.filter_congr
  intro q mem'
  have same : q.chartId = p.chartId ↔ q = p := by
    constructor
    · intro same
      exact bears.eq_of_key mem' mem (k := chartKey q.chartId) (Placed.mem_keys.mpr (.inr (.inr rfl)))
        (Placed.mem_keys.mpr (.inr (.inr (same ▸ rfl))))
    · rintro rfl
      rfl
  simp [same]

theorem attachChart_withArrivals (p : Placed) :
    attachChart p.ids p.chartId p.sliceName (withArrivals base d ps) =
      { d with
        slices := if p.chartId ∈ d.slices ++ ps.map Placed.chartId then d.slices ++ ps.map Placed.chartId
          else d.slices ++ ps.map Placed.chartId ++ [p.chartId]
        positionJson := .layout (if ((base.withCharts ps).get (chartKey p.chartId)).isSome then base.withCharts ps
          else (base.withCharts ps).addChart p.ids p.chartId p.sliceName) } := rfl

/-- One move on the dashboard is one on the list. -/
theorem step_withArrivals (stored : base.Stored) (apart : Apart base d ps) {m : Move} (new : base.get (chartKey m.chartId) = none)
    (unknown : m.chartId ∉ d.slices) (drawn : m.Drawn (withArrivals base d ps)) :
    m.step (withArrivals base d ps) = withArrivals base d (m.arrivals ps) ∧ Apart base d (m.arrivals ps) := by
  obtain ⟨-, -, -, bears⟩ := Layout.withCharts_bears stored apart.keys
  cases m with
  | attach p =>
    have slices : p.chartId ∈ d.slices ++ ps.map Placed.chartId ↔ p.chartId ∈ ps.map Placed.chartId := by
      rw [List.mem_append]
      exact or_iff_right unknown
    by_cases there : p.chartId ∈ ps.map Placed.chartId
    · have present := isSome_of_mem_charts bears there
      refine ⟨?_, by rwa [Move.arrivals, if_pos there]⟩
      rw [Move.step, attachChart_withArrivals, Move.arrivals, if_pos there, if_pos (slices.mpr there), if_pos present]
      rfl
    · have absent : ¬((base.withCharts ps).get (chartKey p.chartId)).isSome :=
        fun present => there (mem_charts_of_key bears new present)
      have fresh := (drawn p _ rfl rfl).resolve_left absent
      refine ⟨?_, ?_, ?_⟩
      · rw [Move.step, attachChart_withArrivals, Move.arrivals, if_neg there, if_neg (mt slices.mp there), if_neg absent,
          withArrivals, Layout.withCharts_snoc, List.map_append, List.append_assoc]
        rfl
      · have whole := ((base.withCharts ps).addChart p.ids p.chartId p.sliceName).distinct
        have storedNow := (Layout.withCharts_bears stored apart.keys).1
        rw [Layout.keys_addChart storedNow fresh, bears.keys] at whole
        simp only [Move.arrivals, if_neg there]
        rw [List.flatMap_append, List.flatMap_singleton, ← List.append_assoc]
        exact whole
      · simp only [Move.arrivals, if_neg there]
        intro q mem
        rcases List.mem_append.mp mem with before | last
        · exact apart.slices q before
        · rw [List.mem_singleton.mp last]
          exact unknown
  | detach chartId =>
    have foreign : d.slices.filter (fun c => c ≠ chartId) = d.slices := by
      apply List.filter_eq_self.mpr
      intro c mem
      exact decide_eq_true (fun same => unknown (same ▸ mem))
    have charts : (ps.map Placed.chartId).filter (fun c => c ≠ chartId) =
        (ps.filter (fun p => p.chartId ≠ chartId)).map Placed.chartId := by
      rw [List.filter_map]
      rfl
    have kept : Apart base d (ps.filter (fun p => p.chartId ≠ chartId)) := by
      refine ⟨?_, fun p mem => apart.slices p (List.mem_of_mem_filter mem)⟩
      exact apart.keys.sublist ((List.Sublist.refl _).append (List.filter_sublist.flatMap _))
    have layout : (base.withCharts ps).removeChart chartId = base.withCharts (ps.filter (fun p => p.chartId ≠ chartId)) := by
      by_cases there : chartId ∈ ps.map Placed.chartId
      · obtain ⟨p, mem, rfl⟩ := List.mem_map.mp there
        have after := (Layout.withCharts_bears stored kept.keys).2.2.2
        rw [filter_chart bears mem] at after ⊢
        exact (bears.removed stored mem).unique after
      · have absent : (base.withCharts ps).get (chartKey chartId) = none := by
          by_contra present
          exact there (mem_charts_of_key bears new (Option.isSome_iff_ne_none.mpr present))
        have all : ps.filter (fun p => p.chartId ≠ chartId) = ps := by
          apply List.filter_eq_self.mpr
          intro p mem
          exact decide_eq_true (fun same => there (List.mem_map.mpr ⟨p, mem, same⟩))
        rw [all, Layout.removeChart, Layout.removeKey, absent]
        rfl
    refine ⟨?_, kept⟩
    unfold Move.step Move.arrivals detachFrom dropSlice withArrivals
    simp only [PositionJson.load, layout]
    rw [List.filter_append, foreign, charts]

/-- Whatever charts come and go in whatever order, the dashboard is the one it was with those that are
there now, in the order in which they came. -/
theorem arrivals_shown (stored : base.Stored) (position : d.positionJson = .layout base) {run : List Move}
    (strangers : ∀ m ∈ run, base.get (chartKey m.chartId) = none ∧ m.chartId ∉ d.slices)
    (drawn : Runs.Each Move.step Move.Drawn d run) :
    Runs.after Move.step d run = withArrivals base d (Runs.after Move.arrivals [] run) := by
  have start : withArrivals base d [] = d := by
    unfold withArrivals
    rw [List.map_nil, List.append_nil, Layout.withCharts, List.foldl_nil, ← position]
  have general : ∀ ps, Apart base d ps → Runs.Each Move.step Move.Drawn (withArrivals base d ps) run →
      Runs.after Move.step (withArrivals base d ps) run = withArrivals base d (Runs.after Move.arrivals ps run) := by
    clear drawn
    induction run with
    | nil => exact fun _ _ _ => rfl
    | cons m rest ih =>
      rw [List.forall_mem_cons] at strangers
      intro ps apart each
      obtain ⟨step, apart'⟩ := step_withArrivals stored apart strangers.1.1 strangers.1.2 each.1
      have later := each.2
      rw [step] at later
      rw [Runs.after_cons, Runs.after_cons, step]
      exact ih strangers.2 (m.arrivals ps) apart' later
  have none : Apart base d [] := ⟨by simpa using base.distinct, fun p mem => nomatch mem⟩
  have reached := general [] none
  rw [start] at reached
  exact reached drawn

end

/-- A flat dashboard. -/
def plainDashboard : Dashboard :=
  { dashboardTitle := "Sales", slug := "sales", slices := [], positionJson := .layout Layout.flat, owners := [],
    published := true }

theorem arrivals_shown_plain :
    Runs.after Move.step plainDashboard
      [.attach ⟨⟨"0a1b2c3d", "4e5f6a7b"⟩, 7, "Sales"⟩, .attach ⟨⟨"11223344", "55667788"⟩, 8, "Visits"⟩, .detach 7] =
    withArrivals Layout.flat plainDashboard [⟨⟨"11223344", "55667788"⟩, 8, "Visits"⟩] := by
  have strange : ∀ c ∈ [7, 8], Layout.flat.get (chartKey c) = none := by decide +kernel
  have later : (Layout.flat.addChart ⟨"0a1b2c3d", "4e5f6a7b"⟩ 7 "Sales").Fresh ⟨"11223344", "55667788"⟩ 8 := by
    refine ⟨?_, ?_, ?_⟩ <;> decide +kernel
  apply arrivals_shown Layout.stored_flat rfl
  · simp only [List.forall_mem_cons, Move.chartId, plainDashboard]
    exact ⟨⟨strange 7 (by decide), List.not_mem_nil⟩, ⟨strange 8 (by decide), List.not_mem_nil⟩,
      ⟨strange 7 (by decide), List.not_mem_nil⟩, fun _ mem => nomatch mem⟩
  · refine ⟨?_, ?_, ?_, trivial⟩
    · rintro p l ⟨⟩ ⟨⟩
      exact .inr Layout.fresh_flat
    · rintro p l ⟨⟩ ⟨⟩
      exact .inr later
    · rintro p l ⟨⟩

end XpBuilder.Publish
