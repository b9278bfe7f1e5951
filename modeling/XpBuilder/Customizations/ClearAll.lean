import Mathlib.Data.Rat.Defs
import XpBuilder.Publish.Layout

/-! One click on the "Clear all" of an embedded dashboard: `handleClearAll` of the filter
bar, then the hook of the console's tail script. Both dispatch to one reducer, which merges
the keys of a mask and no deeper. -/

namespace XpBuilder.ClearAll

/-! ## JavaScript objects -/

/-- An object is what it holds under each of its keys. -/
inductive Value where
  | undefined
  | null
  | bool (b : Bool)
  | number (q : ℚ)
  | text (s : String)
  | array (items : List Value)
  | object (fields : String → Option Value)

abbrev Object := String → Option Value

/-- The object literal with these keys. -/
def literal : List (String × Value) → Object
  | [] => fun _ => none
  | (name, value) :: rest => fun key => if key = name then some value else literal rest key

/-- `{ ...base, ...changes }` -/
def spread (base changes : Object) : Object := fun key => (changes key).or (base key)

/-- The fields of a value that is spread. -/
def Value.fields : Value → Object
  | .object fields => fields
  | _ => literal []

/-! ## The reducer -/

abbrev DataMaskState := Dict String Object

def getInitialDataMask (id : String) : Object :=
  literal [("id", .text id), ("extraFormData", .object (literal [])), ("filterState", .object (literal [])),
    ("ownState", .object (literal []))]

/-- The mask of a filter after an `UPDATE_DATA_MASK`. -/
def merged (filterId : String) (dataMask : Object) (applied : Option Object) : Object :=
  spread (spread (getInitialDataMask filterId) (applied.getD (literal []))) dataMask

/-- `UPDATE_DATA_MASK` -/
def updateDataMask (draft : DataMaskState) (filterId : String) (dataMask : Object) : DataMaskState :=
  draft.set filterId (merged filterId dataMask (draft.get filterId))

/-- `dataMask[id].filterState.value` -/
def DataMaskState.value (masks : DataMaskState) (id : String) : Option Value :=
  ((masks.get id).bind (fun mask => mask "filterState")).bind (fun state => state.fields "value")

/-- `dataMask[id].extraFormData` -/
def DataMaskState.extraFormData (masks : DataMaskState) (id : String) : Option Value :=
  (masks.get id).bind (fun mask => mask "extraFormData")

/-! ## Filters and their scope -/

inductive NativeFilterType where
  | nativeFilter | divider
  deriving DecidableEq, Repr

structure Filter where
  id : String
  type : NativeFilterType
  filterType : String
  chartsInScope : Option (List Nat)
  rootPath : Option (List String)
  enableEmptyFilter : Bool
  deriving DecidableEq, Repr

/-- A node of React's tree, by its first child and its next sibling. -/
inductive Fiber where
  | none
  | node (holdsStore : Bool) (child sibling : Fiber)

/-- The filters are values of a record, under their own ids. -/
structure Page where
  filters : List Filter
  distinct : (filters.map Filter.id).Nodup
  dashboardLayout : Layout
  activeTabs : List String
  root : Fiber

namespace Page
variable (page : Page)

def dashboardHasTabs : Bool :=
  page.dashboardLayout.values.any (fun e => (e.node?.map Node.type) = some .tab)

/-- The tabs above a chart, `none` when the chart is not placed. -/
def chartTabParents (chartId : Nat) : Option (List String) :=
  let charts := (page.dashboardLayout.values.filterMap Entry.node?).filter (fun n => n.type = .chart)
  ((charts.find? (fun n => n.info.chartId = some chartId)).bind Node.parents).map
    (fun parents => parents.filter (page.dashboardLayout.isType .tab))

def isFilterInScope (filter : Filter) : Bool :=
  if filter.type = .divider then true
  else
    let charts := filter.chartsInScope.getD []
    if charts ≠ [] then
      charts.any (fun chartId =>
        ((page.chartTabParents chartId).getD []).all (fun tab => tab ∈ page.activeTabs))
    else (filter.rootPath.getD []).any (fun tab => tab ∈ page.activeTabs)

def nativeFilterValues : List Filter := page.filters.filter (fun f => f.type = .nativeFilter)

/-- `useSelectFiltersInScope`: scopes count on a dashboard with tabs only. -/
def filtersInScope : List Filter :=
  if page.dashboardHasTabs then page.nativeFilterValues.filter page.isFilterInScope
  else page.nativeFilterValues

def inScopeFilterIds : List String := page.filtersInScope.map Filter.id

end Page

/-! ## The two handlers -/

/-- The applied masks, and what the bar keeps of its own: the staged masks and the controls
told to reset. -/
structure FilterBar where
  dataMaskApplied : DataMaskState
  dataMaskSelected : DataMaskState
  clearAllTriggers : Dict String Bool

def clearedValue (filter : Filter) : Value :=
  if filter.filterType = "filter_range" then .array [.null, .null] else .null

def clearedDataMask (filter : Filter) : Object :=
  literal [("filterState", .object (literal [("value", clearedValue filter), ("label", .undefined)])),
    ("extraFormData", .object (literal []))]

/-- The staged mask of a cleared filter. -/
def stagedDataMask (filter : Filter) (selected : Option Object) : Object :=
  let current := selected.getD (getInitialDataMask filter.id)
  let validateStatus := if filter.enableEmptyFilter then Value.text "error" else .undefined
  let filterState := spread ((current "filterState").getD .undefined).fields
    (literal [("label", .undefined), ("validateStatus", validateStatus), ("value", clearedValue filter)])
  spread current (literal [("extraFormData", .object (literal [])), ("filterState", .object filterState)])

def FilterBar.clearFilter (bar : FilterBar) (filter : Filter) : FilterBar where
  dataMaskApplied := updateDataMask bar.dataMaskApplied filter.id (clearedDataMask filter)
  dataMaskSelected :=
    bar.dataMaskSelected.set filter.id (stagedDataMask filter (bar.dataMaskSelected.get filter.id))
  clearAllTriggers := bar.clearAllTriggers.set filter.id true

def handleClearAll (page : Page) (bar : FilterBar) : FilterBar :=
  page.nativeFilterValues.foldl
    (fun bar filter => if filter.id ∈ page.inScopeFilterIds then bar.clearFilter filter else bar) bar

/-- `walk`, on a tree whose nodes are met once. -/
def Fiber.walk : Fiber → Nat → Bool
  | .none, _ => false
  | .node holdsStore child sibling, depth =>
    if 40 < depth then false
    else if holdsStore then true
    else child.walk (depth + 1) || sibling.walk depth

def Page.findSupersetStore (page : Page) : Bool := page.root.walk 0

/-- `id.indexOf('NATIVE_FILTER-') === 0` -/
def isNativeFilterId (id : String) : Bool := "NATIVE_FILTER-".toList.isPrefixOf id.toList

def resetDataMask : Object :=
  literal [("filterState", .object (literal [("value", .null), ("selectedOptions", .array [])])),
    ("extraFormData", .object (literal []))]

def clearAllNativeFilters (page : Page) (masks : DataMaskState) : DataMaskState :=
  if page.findSupersetStore then
    ((masks.entries.map Prod.fst).filter isNativeFilterId).foldl
      (fun masks id => updateDataMask masks id resetDataMask) masks
  else masks

/-- The applied masks once the click has run both. -/
def clickClearAll (page : Page) (bar : FilterBar) : DataMaskState :=
  clearAllNativeFilters page (handleClearAll page bar).dataMaskApplied

/-! ## What each of them leaves -/

/-- The depths at which nodes hold the store. -/
def Fiber.storeDepths : Fiber → Nat → List Nat
  | .none, _ => []
  | .node holdsStore child sibling, depth =>
    (if holdsStore then [depth] else []) ++ child.storeDepths (depth + 1) ++ sibling.storeDepths depth

theorem Fiber.le_of_mem_storeDepths {fiber : Fiber} {depth d : Nat} (mem : d ∈ fiber.storeDepths depth) :
    depth ≤ d := by
  induction fiber generalizing depth with
  | none => cases mem
  | node holdsStore child sibling below beside =>
    simp only [storeDepths, List.mem_append] at mem
    cases mem with
    | inl first =>
      cases first with
      | inl here =>
        have same : d = depth := by
          split at here
          · exact List.mem_singleton.mp here
          · cases here
        omega
      | inr inside =>
        have deeper := below inside
        omega
    | inr next => exact beside next

/-- The walk meets the store exactly when a node at a depth of 40 or less holds it. -/
theorem Fiber.walk_iff (fiber : Fiber) (depth : Nat) :
    fiber.walk depth = true ↔ ∃ d ∈ fiber.storeDepths depth, d ≤ 40 := by
  induction fiber generalizing depth with
  | none => simp [walk, storeDepths]
  | node holdsStore child sibling below beside =>
    rw [walk]
    by_cases deep : 40 < depth
    · have none_there : ¬∃ d ∈ (Fiber.node holdsStore child sibling).storeDepths depth, d ≤ 40 := by
        intro found
        obtain ⟨d, mem, shallow⟩ := found
        have lower := le_of_mem_storeDepths mem
        omega
      simp [deep, none_there]
    · have reached : depth ≤ 40 := by omega
      simp only [deep, if_false, storeDepths, List.mem_append]
      cases holdsStore with
      | true =>
        simp [or_and_right, exists_or, reached]
      | false => simp [below, beside, or_and_right, exists_or]

/-- The filters the bar clears. -/
def Page.cleared (page : Page) : List Filter :=
  page.nativeFilterValues.filter (fun f => f.id ∈ page.inScopeFilterIds)

theorem handleClearAll_eq (page : Page) (bar : FilterBar) :
    handleClearAll page bar = page.cleared.foldl FilterBar.clearFilter bar := by
  simp only [handleClearAll, Page.cleared, List.foldl_filter, decide_eq_true_eq]

theorem applied_handleClearAll (page : Page) (bar : FilterBar) :
    (handleClearAll page bar).dataMaskApplied =
      Dict.updateAll Filter.id (fun f => merged f.id (clearedDataMask f)) bar.dataMaskApplied page.cleared := by
  rw [handleClearAll_eq]
  exact (List.foldl_hom FilterBar.dataMaskApplied (fun _ _ => rfl)).symm

theorem selected_handleClearAll (page : Page) (bar : FilterBar) :
    (handleClearAll page bar).dataMaskSelected =
      Dict.updateAll Filter.id stagedDataMask bar.dataMaskSelected page.cleared := by
  rw [handleClearAll_eq]
  exact (List.foldl_hom FilterBar.dataMaskSelected (fun _ _ => rfl)).symm

namespace Page
variable (page : Page)

theorem nodup_cleared : (page.cleared.map Filter.id).Nodup := by
  have part : page.cleared.Sublist page.filters := by
    apply List.Sublist.trans List.filter_sublist
    exact List.filter_sublist
  exact page.distinct.sublist (part.map _)

theorem not_mem_cleared {id : String} (outside : id ∉ page.inScopeFilterIds) :
    id ∉ page.cleared.map Filter.id := by
  intro mem
  obtain ⟨f, there, rfl⟩ := List.mem_map.mp mem
  have within := (List.mem_filter.mp there).2
  exact outside (by simpa using within)

theorem mem_cleared {f : Filter} (native : f ∈ page.nativeFilterValues) (within : f.id ∈ page.inScopeFilterIds) :
    f ∈ page.cleared := by
  rw [cleared, List.mem_filter]
  exact ⟨native, by simpa using within⟩

end Page

section
variable (page : Page) (bar : FilterBar)

/-- The bar clears what is in scope, ... -/
theorem handleClearAll_of_inScope {f : Filter} (native : f ∈ page.nativeFilterValues)
    (within : f.id ∈ page.inScopeFilterIds) : (handleClearAll page bar).dataMaskApplied.get f.id =
      some (merged f.id (clearedDataMask f) (bar.dataMaskApplied.get f.id)) := by
  rw [applied_handleClearAll]
  exact Dict.get_updateAll_of_mem page.nodup_cleared (page.mem_cleared native within) _

/-- ... nothing else, ... -/
theorem handleClearAll_of_outOfScope {id : String} (outside : id ∉ page.inScopeFilterIds) :
    (handleClearAll page bar).dataMaskApplied.get id = bar.dataMaskApplied.get id := by
  rw [applied_handleClearAll]
  exact Dict.get_updateAll_of_not_mem (page.not_mem_cleared outside) _

/-- ... and stages for each control the value it applied. -/
theorem handleClearAll_staged {f : Filter} (native : f ∈ page.nativeFilterValues)
    (within : f.id ∈ page.inScopeFilterIds) :
    (handleClearAll page bar).dataMaskSelected.value f.id = some (clearedValue f) ∧
      (handleClearAll page bar).dataMaskApplied.value f.id = some (clearedValue f) := by
  have staged : (handleClearAll page bar).dataMaskSelected.get f.id =
      some (stagedDataMask f (bar.dataMaskSelected.get f.id)) := by
    rw [selected_handleClearAll]
    exact Dict.get_updateAll_of_mem page.nodup_cleared (page.mem_cleared native within) _
  constructor
  · rw [DataMaskState.value, staged]
    rfl
  · rw [DataMaskState.value, handleClearAll_of_inScope page bar native within]
    rfl

end

/-- The hook resets the filters that have a mask, whatever their scope. -/
theorem get_clearAllNativeFilters (page : Page) (masks : DataMaskState) (id : String) :
    (clearAllNativeFilters page masks).get id =
      if page.findSupersetStore ∧ isNativeFilterId id then
        (masks.get id).map (fun mask => merged id resetDataMask (some mask))
      else masks.get id := by
  unfold clearAllNativeFilters
  by_cases found : page.findSupersetStore = true
  · rw [if_pos found]
    have keys : ((masks.entries.map Prod.fst).filter isNativeFilterId).foldl
        (fun masks id => updateDataMask masks id resetDataMask) masks =
        Dict.updateAll (fun id => id) (fun id => merged id resetDataMask) masks
          ((masks.entries.map Prod.fst).filter isNativeFilterId) := rfl
    rw [keys]
    by_cases prefixed : isNativeFilterId id = true
    · rw [if_pos ⟨found, prefixed⟩]
      cases there : masks.get id with
      | none =>
        have absent := (masks.get_eq_none_iff id).mp there
        rw [Dict.get_updateAll_of_not_mem, there]
        · rfl
        · rw [List.map_id']
          exact fun mem => absent (List.mem_of_mem_filter mem)
      | some mask =>
        have entry := (masks.get_eq_some_iff id mask).mp there
        have mem : id ∈ (masks.entries.map Prod.fst).filter isNativeFilterId :=
          List.mem_filter.mpr ⟨List.mem_map_of_mem entry, prefixed⟩
        have distinct : (((masks.entries.map Prod.fst).filter isNativeFilterId).map (fun id => id)).Nodup := by
          rw [List.map_id']
          exact masks.distinct.filter _
        rw [Dict.get_updateAll_of_mem distinct mem, there]
        rfl
    · rw [if_neg (fun both => prefixed both.2), Dict.get_updateAll_of_not_mem]
      rw [List.map_id']
      exact fun mem => prefixed (List.mem_filter.mp mem).2
  · rw [if_neg found, if_neg (fun both => found both.1)]

/-! ## What a click clears -/

/-- Out of scope a mask stays; in scope a filter has its cleared value and no form data. -/
structure ClearsInScope (page : Page) (before after : DataMaskState) : Prop where
  kept : ∀ f ∈ page.nativeFilterValues, f.id ∉ page.inScopeFilterIds → after.get f.id = before.get f.id
  ranges : ∀ f ∈ page.nativeFilterValues, f.id ∈ page.inScopeFilterIds → f.filterType = "filter_range" →
    after.value f.id = some (.array [.null, .null])
  others : ∀ f ∈ page.nativeFilterValues, f.id ∈ page.inScopeFilterIds → f.filterType ≠ "filter_range" →
    after.value f.id = some .null
  formData : ∀ f ∈ page.nativeFilterValues, f.id ∈ page.inScopeFilterIds →
    after.extraFormData f.id = some (.object (literal []))

/-- A mask in which the hook changes nothing. -/
structure IsReset (mask : Object) : Prop where
  id : mask "id" ≠ none
  ownState : mask "ownState" ≠ none
  filterState : mask "filterState" = resetDataMask "filterState"
  extraFormData : mask "extraFormData" = resetDataMask "extraFormData"

/-- What the hook leaves alone of the filters whose ids have the prefix. -/
structure Untouched (page : Page) (masks : DataMaskState) : Prop where
  ranges : ∀ f ∈ page.nativeFilterValues, isNativeFilterId f.id → f.id ∈ page.inScopeFilterIds →
    f.filterType ≠ "filter_range"
  outOfScope : ∀ f ∈ page.nativeFilterValues, isNativeFilterId f.id → f.id ∉ page.inScopeFilterIds →
    ∀ mask, masks.get f.id = some mask → IsReset mask

theorem literal_ne_none {props : List (String × Value)} {key : String} (mem : key ∈ props.map Prod.fst) :
    literal props key ≠ none := by
  induction props with
  | nil => cases mem
  | cons first rest ih =>
    by_cases same : key = first.1
    · simp [literal, same]
    · have later : key ∈ rest.map Prod.fst := (List.mem_cons.mp mem).resolve_left same
      simpa [literal, same] using ih later

theorem merged_reset_iff {id : String} {mask : Object} :
    merged id resetDataMask (some mask) = mask ↔ IsReset mask := by
  constructor
  · intro same
    have at_key : ∀ key, merged id resetDataMask (some mask) key = mask key := fun key => congrFun same key
    have changed : ∀ key, resetDataMask key ≠ none → mask key = resetDataMask key := by
      intro key held
      obtain ⟨value, found⟩ := Option.ne_none_iff_exists'.mp held
      rw [← at_key, merged, spread, found]
      rfl
    have initial : ∀ key, getInitialDataMask id key ≠ none → mask key ≠ none := by
      intro key held absent
      have here := at_key key
      rw [merged, spread, spread, Option.getD_some, absent, Option.none_or] at here
      cases reset : resetDataMask key with
      | none =>
        rw [reset, Option.none_or] at here
        exact held here
      | some value =>
        rw [reset] at here
        cases here
    exact ⟨initial "id" (literal_ne_none (by simp)), initial "ownState" (literal_ne_none (by simp)),
      changed "filterState" (literal_ne_none (by decide)), changed "extraFormData" (literal_ne_none (by decide))⟩
  · intro reset
    funext key
    rw [merged, spread, spread, Option.getD_some]
    by_cases state : key = "filterState"
    · subst state
      rw [reset.filterState]
      rfl
    by_cases data : key = "extraFormData"
    · subst data
      rw [reset.extraFormData]
      rfl
    have unchanged : resetDataMask key = none := by
      simp [resetDataMask, literal, state, data]
    rw [unchanged, Option.none_or]
    cases there : mask key with
    | some value => rfl
    | none =>
      have own : key ≠ "ownState" := fun same => reset.ownState (same ▸ there)
      have name : key ≠ "id" := fun same => reset.id (same ▸ there)
      simp [getInitialDataMask, literal, state, data, own, name]

section
variable {page : Page} {bar : FilterBar}

/-- The mask of a filter in scope after the click. -/
theorem get_clickClearAll {f : Filter} (native : f ∈ page.nativeFilterValues)
    (within : f.id ∈ page.inScopeFilterIds) : (clickClearAll page bar).get f.id =
      if page.findSupersetStore ∧ isNativeFilterId f.id then
        some (merged f.id resetDataMask (some (merged f.id (clearedDataMask f) (bar.dataMaskApplied.get f.id))))
      else some (merged f.id (clearedDataMask f) (bar.dataMaskApplied.get f.id)) := by
  rw [clickClearAll, get_clearAllNativeFilters, handleClearAll_of_inScope page bar native within]
  rfl

theorem value_clickClearAll {f : Filter} (native : f ∈ page.nativeFilterValues)
    (within : f.id ∈ page.inScopeFilterIds) : (clickClearAll page bar).value f.id =
      some (if page.findSupersetStore ∧ isNativeFilterId f.id then .null else clearedValue f) := by
  rw [DataMaskState.value, get_clickClearAll native within]
  split
  · rfl
  · rfl

theorem extraFormData_clickClearAll {f : Filter} (native : f ∈ page.nativeFilterValues)
    (within : f.id ∈ page.inScopeFilterIds) :
    (clickClearAll page bar).extraFormData f.id = some (.object (literal [])) := by
  rw [DataMaskState.extraFormData, get_clickClearAll native within]
  split
  · rfl
  · rfl

theorem kept_clickClearAll_iff {id : String} (outside : id ∉ page.inScopeFilterIds) :
    (clickClearAll page bar).get id = bar.dataMaskApplied.get id ↔
      (page.findSupersetStore ∧ isNativeFilterId id → ∀ mask, bar.dataMaskApplied.get id = some mask → IsReset mask) := by
  rw [clickClearAll, get_clearAllNativeFilters, handleClearAll_of_outOfScope page bar outside]
  split
  · rename_i both
    cases bar.dataMaskApplied.get id with
    | none => simp
    | some mask => simp [both, merged_reset_iff]
  · rename_i either
    simp [either]

end

/-- The click clears the filters in scope and no others exactly when the hook does not find
the store, or no range filter in scope has an id with the prefix and each filter out of
scope that has one is without a mask or already reset. -/
theorem clearsInScope_iff (page : Page) (bar : FilterBar) :
    ClearsInScope page bar.dataMaskApplied (clickClearAll page bar) ↔
      (page.findSupersetStore → Untouched page bar.dataMaskApplied) := by
  constructor
  · intro clears found
    constructor
    · intro f native prefixed within range
      have value := clears.ranges f native within range
      rw [value_clickClearAll native within, if_pos ⟨found, prefixed⟩] at value
      cases value
    · intro f native prefixed outside
      exact (kept_clickClearAll_iff outside).mp (clears.kept f native outside) ⟨found, prefixed⟩
  · intro untouched
    refine ⟨?_, ?_, ?_, ?_⟩
    · intro f native outside
      apply (kept_clickClearAll_iff outside).mpr
      intro both
      exact (untouched both.1).outOfScope f native both.2 outside
    · intro f native within range
      have apart : ¬(page.findSupersetStore ∧ isNativeFilterId f.id) := fun both =>
        (untouched both.1).ranges f native both.2 within range
      rw [value_clickClearAll native within, if_neg apart, clearedValue, if_pos range]
    · intro f native within other
      rw [value_clickClearAll native within, clearedValue, if_neg other, ite_self]
    · intro f native within
      exact extraFormData_clickClearAll native within

/-! ## Two tabs -/

def tabNode (id : String) : String × Entry := (id, .node ⟨.tab, id, none, none, NodeMeta.none⟩)

def tabFilter (id filterType tab : String) : Filter := ⟨id, .nativeFilter, filterType, none, some [tab], false⟩

/-- A filter of the tab that is open and one of the tab that is not. -/
def twoTabs : Page where
  filters := [tabFilter "NATIVE_FILTER-range" "filter_range" "TAB-1",
    tabFilter "NATIVE_FILTER-select" "filter_select" "TAB-2"]
  distinct := by decide
  dashboardLayout := ⟨[tabNode "TAB-1", tabNode "TAB-2"], by decide⟩
  activeTabs := ["TAB-1"]
  root := .node false (.node true .none .none) .none

/-- The select filter has an applied value. -/
def picked : FilterBar where
  dataMaskApplied := updateDataMask Dict.empty "NATIVE_FILTER-select"
    (literal [("filterState", .object (literal [("value", .array [.text "north"])]))])
  dataMaskSelected := Dict.empty
  clearAllTriggers := Dict.empty

theorem twoTabs_not_clearsInScope :
    (∃ f ∈ twoTabs.nativeFilterValues, f.id ∉ twoTabs.inScopeFilterIds ∧
      picked.dataMaskApplied.value f.id = some (.array [.text "north"]) ∧
      (clickClearAll twoTabs picked).value f.id = some .null) ∧
    (∃ f ∈ twoTabs.nativeFilterValues, f.id ∈ twoTabs.inScopeFilterIds ∧ f.filterType = "filter_range" ∧
      (clickClearAll twoTabs picked).value f.id = some .null) ∧
    ¬ClearsInScope twoTabs picked.dataMaskApplied (clickClearAll twoTabs picked) := by
  have ranges : ∃ f ∈ twoTabs.nativeFilterValues, f.id ∈ twoTabs.inScopeFilterIds ∧
      f.filterType = "filter_range" ∧ (clickClearAll twoTabs picked).value f.id = some .null :=
    ⟨tabFilter "NATIVE_FILTER-range" "filter_range" "TAB-1", by decide, by decide, rfl, rfl⟩
  refine ⟨⟨tabFilter "NATIVE_FILTER-select" "filter_select" "TAB-2", by decide, by decide, rfl, rfl⟩, ranges, ?_⟩
  intro clears
  obtain ⟨f, native, within, range, value⟩ := ranges
  have both := clears.ranges f native within range
  rw [value] at both
  cases both

end XpBuilder.ClearAll
