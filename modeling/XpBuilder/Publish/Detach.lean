import XpBuilder.Publish.Tree

/-! Taking a chart out of a layout. The code looks for one COLUMN that lists the chart's key, for
one ROW that lists an emptied column, and for GRIDs and TABs that list an emptied row. What it
leaves is clean exactly where the chart stands nowhere else. -/

namespace XpBuilder.Layout
open ChildTree (IsTree Path graft single isTree_single)

/-! ## One step up -/

/-- The first component of type `t` that lists `child` loses it, or goes when that was all. -/
def takeOut (l : Layout) (t : NodeType) (child : String) : Layout × Option String :=
  match firstHolder l t child with
  | none => (l, none)
  | some (key, n) =>
    if (n.removeChild child).childIds = [] then (l.erase key, some key)
    else (l.modifyNode key (fun n => n.removeChild child), none)

/-- What `takeOut` can do. -/
inductive TakenOut (l : Layout) (t : NodeType) (child : String) : Layout → Option String → Prop
  | absent (unlisted : ∀ k n, l.nodeAt k = some n → n.type = t → child ∉ n.childIds) : TakenOut l t child l none
  | shortened {k : String} {n : Node} (there : l.nodeAt k = some n) (type : n.type = t) (within : child ∈ n.childIds)
      (more : n.childIds.erase child ≠ []) :
      TakenOut l t child (l.modifyNode k (fun n => n.removeChild child)) none
  | emptied {k : String} {n : Node} (there : l.nodeAt k = some n) (type : n.type = t) (only : n.childIds = [child]) :
      TakenOut l t child (l.erase k) (some k)

theorem eq_singleton_of_erase {child : String} {cs : List String} (within : child ∈ cs) (empty : cs.erase child = []) :
    cs = [child] := by
  have length := List.length_erase_of_mem within
  rw [empty, List.length_nil] at length
  obtain ⟨c, only⟩ := List.length_eq_one_iff.mp (show cs.length = 1 by
    have positive := List.length_pos_of_mem within
    omega)
  rw [only, List.mem_singleton] at within
  rw [only, within]

theorem takenOut (l : Layout) (t : NodeType) (child : String) :
    TakenOut l t child (takeOut l t child).1 (takeOut l t child).2 := by
  unfold takeOut
  cases found : firstHolder l t child with
  | none => exact .absent (fun k n there type => firstHolder_eq_none found there type)
  | some holder =>
    obtain ⟨k, n⟩ := holder
    obtain ⟨there, type, within⟩ := firstHolder_eq_some found
    simp only [removeChild_childIds]
    split_ifs with empty
    · exact .emptied there type (eq_singleton_of_erase within empty)
    · exact .shortened there type within empty

/-- The result of a removal and the keys that are gone. -/
inductive Removed (l : Layout) (key : String) : Layout → List String → Prop
  | column {l₁ : Layout} (column : TakenOut (l.erase key) .column key l₁ none) : Removed l key l₁ [key]
  | row {l₁ l₂ : Layout} {col : String} (column : TakenOut (l.erase key) .column key l₁ (some col))
      (row : TakenOut l₁ .row col l₂ none) : Removed l key l₂ [key, col]
  | grid {l₁ l₂ : Layout} {col row : String} (column : TakenOut (l.erase key) .column key l₁ (some col))
      (row' : TakenOut l₁ .row col l₂ (some row)) : Removed l key (unhangRow l₂ row) [key, col, row]

theorem dropColumn_eq (l : Layout) (col : String) :
    dropColumn l col = match (takeOut l .row col).2 with
      | none => (takeOut l .row col).1
      | some row => unhangRow (takeOut l .row col).1 row := by
  unfold dropColumn takeOut
  cases firstHolder l .row col with
  | none => rfl
  | some holder =>
    simp only
    split_ifs <;> rfl

theorem removeKey_eq {l : Layout} {key : String} (present : (l.get key).isSome) :
    l.removeKey key = match (takeOut (l.erase key) .column key).2 with
      | none => (takeOut (l.erase key) .column key).1
      | some col => dropColumn (takeOut (l.erase key) .column key).1 col := by
  unfold removeKey takeOut
  have here : ¬(l.get key).isNone = true := by simp [Option.isSome_iff_ne_none.mp present]
  rw [if_neg here]
  simp only
  cases firstHolder (l.erase key) .column key with
  | none => rfl
  | some holder =>
    simp only
    split_ifs <;> rfl

theorem removed {l : Layout} {key : String} (present : (l.get key).isSome) :
    ∃ gone, Removed l key (l.removeKey key) gone := by
  have column := takenOut (l.erase key) .column key
  rw [removeKey_eq present]
  cases next : (takeOut (l.erase key) .column key).2 with
  | none =>
    rw [next] at column
    exact ⟨_, .column column⟩
  | some col =>
    rw [next] at column
    have row := takenOut (takeOut (l.erase key) .column key).1 .row col
    simp only [dropColumn_eq]
    cases next' : (takeOut (takeOut (l.erase key) .column key).1 .row col).2 with
    | none =>
      rw [next'] at row
      exact ⟨_, .row column row⟩
    | some rowKey =>
      rw [next'] at row
      exact ⟨_, .grid column row⟩

/-! ## What lists a key -/

/-- No component lists the key. -/
def Unlisted (l : Layout) (child : String) : Prop := ∀ k n, l.nodeAt k = some n → child ∉ n.childIds

/-- At most one component lists the key, once, and it is of type `t`. -/
def SoleIn (l : Layout) (t : NodeType) (child : String) : Prop :=
  ∀ k n, l.nodeAt k = some n → child ∈ n.childIds → n.type = t ∧ n.childIds.count child = 1 ∧
    ∀ k' n', l.nodeAt k' = some n' → child ∈ n'.childIds → k' = k

theorem Shrunk.unlisted {l l' : Layout} (shrunk : Shrunk l' l) {child : String} (unlisted : l.Unlisted child) :
    l'.Unlisted child := by
  intro k n' there' within
  obtain ⟨n, there, -, -, below⟩ := shrunk k n' there'
  exact unlisted k n there (below.subset within)

theorem not_mem_erase_iff {child : String} {cs : List String} (within : child ∈ cs) :
    child ∉ cs.erase child ↔ cs.count child = 1 := by
  have positive := List.count_pos_iff.mpr within
  rw [← List.count_eq_zero, List.count_erase_self]
  omega

theorem nodeAt_removeChild (k child : String) {l : Layout} {k' : String} {n : Node} (there : l.nodeAt k' = some n) :
    (l.modifyNode k (fun n => n.removeChild child)).nodeAt k' = some (if k' = k then n.removeChild child else n) := by
  rw [nodeAt_modifyNode, there]
  split_ifs <;> rfl

namespace TakenOut
variable {l l' : Layout} {t : NodeType} {child : String} {next : Option String}

theorem shrunk (taken : TakenOut l t child l' next) : Shrunk l' l := by
  cases taken with
  | absent _ => exact .refl l
  | shortened _ _ _ _ => exact shrunk_modifyNode l _ _
  | emptied _ _ _ => exact shrunk_erase l _

/-- No component lists the key afterwards exactly where one of the right type did, once. -/
theorem unlisted_iff (taken : TakenOut l t child l' next) : l'.Unlisted child ↔ l.SoleIn t child := by
  cases taken with
  | absent unlisted =>
    constructor
    · intro free k n there within
      exact absurd within (free k n there)
    · intro sole k n there within
      exact unlisted k n there (sole k n there within).1 within
  | @shortened k n there type within more =>
    constructor
    · intro free k' n' there' within'
      have only : ∀ {k' n'}, l.nodeAt k' = some n' → child ∈ n'.childIds → k' = k := by
        intro k' n' there' within'
        by_contra other
        have after := nodeAt_removeChild k child there'
        rw [if_neg other] at after
        exact free k' n' after within'
      obtain rfl := only there' within'
      obtain rfl : n' = n := Option.some.inj (there'.symm.trans there)
      have after := nodeAt_removeChild k' child there
      rw [if_pos rfl] at after
      have lost := free k' _ after
      rw [removeChild_childIds, not_mem_erase_iff within] at lost
      exact ⟨type, lost, fun _ _ there within => only there within⟩
    · intro sole k' n' after within'
      rw [nodeAt_modifyNode] at after
      split_ifs at after with here
      · obtain ⟨m, before, rfl⟩ := Option.map_eq_some_iff.mp after
        obtain rfl : m = n := Option.some.inj (before.symm.trans (here ▸ there))
        rw [removeChild_childIds] at within'
        exact (not_mem_erase_iff within).mpr (sole k m there within).2.1 within'
      · exact here ((sole k n there within).2.2 k' n' after within')
  | @emptied k n there type only =>
    have within : child ∈ n.childIds := by simp [only]
    constructor
    · intro free k' n' there' within'
      have sole : ∀ {k' n'}, l.nodeAt k' = some n' → child ∈ n'.childIds → k' = k := by
        intro k' n' there' within'
        by_contra other
        have after : nodeAt (l.erase k) k' = some n' := by rw [nodeAt_erase, if_neg other, there']
        exact free k' n' after within'
      obtain rfl := sole there' within'
      obtain rfl : n' = n := Option.some.inj (there'.symm.trans there)
      exact ⟨type, by simp [only], fun _ _ there within => sole there within⟩
    · intro sole k' n' after within'
      rw [nodeAt_erase] at after
      split_ifs at after with here
      exact here ((sole k n there within).2.2 k' n' after within')

/-- Another key is listed afterwards if it was before. -/
theorem unlisted_other (taken : TakenOut l t child l' next) {x : String} (other : x ≠ child) (free : l'.Unlisted x) :
    l.Unlisted x := by
  cases taken with
  | absent _ => exact free
  | @shortened k n there type within more =>
    intro k' n' there' within'
    have after := nodeAt_removeChild k child there'
    split_ifs at after with here
    · refine free k' _ after ?_
      rw [removeChild_childIds]
      exact (List.mem_erase_of_ne other).mpr within'
    · exact free k' n' after within'
  | @emptied k n there type only =>
    intro k' n' there' within'
    by_cases here : k' = k
    · subst here
      obtain rfl : n' = n := Option.some.inj (there'.symm.trans there)
      rw [only, List.mem_singleton] at within'
      exact other within'
    · have after : nodeAt (l.erase k) k' = some n' := by rw [nodeAt_erase, if_neg here, there']
      exact free k' n' after within'

/-- A component that lists only the key, and is the only one to list it, goes. -/
theorem next_of_only (taken : TakenOut l t child l' next) (sole : l.SoleIn t child) {k : String} {n : Node}
    (there : l.nodeAt k = some n) (only : n.childIds = [child]) : next = some k ∧ l' = l.erase k := by
  have within : child ∈ n.childIds := by simp [only]
  obtain ⟨type, -, alone⟩ := sole k n there within
  cases taken with
  | absent unlisted => exact absurd within (unlisted k n there type)
  | @shortened k' n' there' type' within' more =>
    obtain rfl := alone k' n' there' within'
    obtain rfl : n' = n := Option.some.inj (there'.symm.trans there)
    rw [only, List.erase_cons_head] at more
    exact absurd rfl more
  | @emptied k' n' there' type' only' =>
    obtain rfl := alone k' n' there' (by simp [only'])
    exact ⟨rfl, rfl⟩

theorem eq_of_only {k₀ : String} (taken : TakenOut l t child l' (some k₀)) (sole : l.SoleIn t child) {k : String}
    {n : Node} (there : l.nodeAt k = some n) (only : n.childIds = [child]) : k₀ = k :=
  Option.some.inj (taken.next_of_only sole there only).1

theorem of_some {k : String} (taken : TakenOut l t child l' (some k)) :
    ∃ n, l.nodeAt k = some n ∧ n.type = t ∧ n.childIds = [child] ∧ l' = l.erase k := by
  cases taken with
  | @emptied _ n there type only => exact ⟨n, there, type, only, rfl⟩

end TakenOut

/-- The chart's key is listed by one COLUMN at most; when this lists nothing else, one ROW at most lists
it; and when this lists nothing else, only GRIDs and TABs list it. Each lists it once. -/
structure Alone (l : Layout) (key : String) : Prop where
  column : SoleIn (l.erase key) .column key
  row : ∀ col n, nodeAt (l.erase key) col = some n → n.childIds = [key] → SoleIn ((l.erase key).erase col) .row col
  grid : ∀ col n row m, nodeAt (l.erase key) col = some n → n.childIds = [key] →
    nodeAt ((l.erase key).erase col) row = some m → m.childIds = [col] →
    ∀ k g, nodeAt (((l.erase key).erase col).erase row) k = some g → row ∈ g.childIds →
      (g.type = .grid ∨ g.type = .tab) ∧ g.childIds.count row = 1

theorem unlisted_unhangRow_iff {l : Layout} {row : String} : (l.unhangRow row).Unlisted row ↔
    ∀ k g, l.nodeAt k = some g → row ∈ g.childIds → (g.type = .grid ∨ g.type = .tab) ∧ g.childIds.count row = 1 := by
  constructor
  · intro free k g there within
    have after := nodeAt_unhangRow l row k
    rw [there, Option.map_some] at after
    have lost := free k _ after
    split_ifs at lost with holder
    · rw [removeChild_childIds, not_mem_erase_iff within] at lost
      exact ⟨holder.1, lost⟩
    · exact absurd within lost
  · intro once k g' there' within'
    rw [nodeAt_unhangRow] at there'
    obtain ⟨g, there, rfl⟩ := Option.map_eq_some_iff.mp there'
    split_ifs at within' with holder
    · rw [removeChild_childIds] at within'
      exact (not_mem_erase_iff holder.2).mpr (once k g there holder.2).2 within'
    · exact holder ⟨(once k g there within').1, within'⟩

theorem unlisted_of_unhangRow {l : Layout} {row x : String} (other : x ≠ row) (free : (l.unhangRow row).Unlisted x) :
    l.Unlisted x := by
  intro k g there within
  have after := nodeAt_unhangRow l row k
  rw [there, Option.map_some] at after
  refine free k _ after ?_
  split_ifs
  · rw [removeChild_childIds]
    exact (List.mem_erase_of_ne other).mpr within
  · exact within

theorem ne_of_erase {l : Layout} {key k : String} {n : Node} (there : nodeAt (l.erase key) k = some n) : k ≠ key := by
  intro same
  rw [nodeAt_erase, if_pos same] at there
  cases there

namespace Removed
variable {l l' : Layout} {key : String} {gone : List String}

/-- Nothing that is gone is still listed exactly where the code finds all that lists it. -/
theorem unlisted_iff (removed : Removed l key l' gone) : (∀ x ∈ gone, l'.Unlisted x) ↔ l.Alone key := by
  cases removed with
  | column column =>
    constructor
    · intro free
      have sole := column.unlisted_iff.mp (free key List.mem_cons_self)
      refine ⟨sole, ?_, ?_⟩
      · intro col n there only
        exact absurd (column.next_of_only sole there only).1 (by simp)
      · intro col n row m there only
        exact absurd (column.next_of_only sole there only).1 (by simp)
    · intro alone x within
      rw [List.mem_singleton.mp within]
      exact column.unlisted_iff.mpr alone.column
  | @row l₁ l₂ col column row =>
    obtain ⟨n, there, -, only, rfl⟩ := column.of_some
    have apart := ne_of_erase there
    constructor
    · intro free
      have sole := column.unlisted_iff.mp (row.unlisted_other apart.symm (free key (by simp)))
      have soleRow := row.unlisted_iff.mp (free col (by simp))
      refine ⟨sole, ?_, ?_⟩
      · intro col' n' there' only'
        rw [← column.eq_of_only sole there' only']
        exact soleRow
      · intro col' n' rowKey m there' only' thereRow onlyRow
        obtain rfl := column.eq_of_only sole there' only'
        exact absurd (row.next_of_only soleRow thereRow onlyRow).1 (by simp)
    · intro alone
      have freeKey := row.shrunk.unlisted (column.unlisted_iff.mpr alone.column)
      have freeCol := row.unlisted_iff.mpr (alone.row col n there only)
      simp [freeKey, freeCol]
  | @grid l₁ l₂ col rowKey column row =>
    obtain ⟨n, there, -, only, rfl⟩ := column.of_some
    obtain ⟨m, thereRow, -, onlyRow, rfl⟩ := row.of_some
    have apart := ne_of_erase there
    have apartRow := ne_of_erase thereRow
    have apartKey : rowKey ≠ key := by
      rw [nodeAt_erase, if_neg apartRow] at thereRow
      exact ne_of_erase thereRow
    constructor
    · intro free
      have freeKey := unlisted_of_unhangRow apartKey.symm (free key (by simp))
      have freeCol := unlisted_of_unhangRow apartRow.symm (free col (by simp))
      have sole := column.unlisted_iff.mp (row.unlisted_other apart.symm freeKey)
      have soleRow := row.unlisted_iff.mp freeCol
      refine ⟨sole, ?_, ?_⟩
      · intro col' n' there' only'
        rw [← column.eq_of_only sole there' only']
        exact soleRow
      · intro col' n' rowKey' m' there' only' thereRow' onlyRow'
        obtain rfl := column.eq_of_only sole there' only'
        obtain rfl := row.eq_of_only soleRow thereRow' onlyRow'
        exact unlisted_unhangRow_iff.mp (free rowKey (by simp))
    · intro alone
      have shrunk := shrunk_unhangRow (((l.erase key).erase col).erase rowKey) rowKey
      have freeKey := shrunk.unlisted (row.shrunk.unlisted (column.unlisted_iff.mpr alone.column))
      have freeCol := shrunk.unlisted (row.unlisted_iff.mpr (alone.row col n there only))
      have freeRow := unlisted_unhangRow_iff.mpr (alone.grid col n rowKey m there only thereRow onlyRow)
      simp [freeKey, freeCol, freeRow]

end Removed

/-! ## What is left alone -/

/-- A component with only those children that `P` holds of. -/
def prune (P : String → Bool) (e : Entry) : Entry :=
  e.mapNode (fun n => { n with children := n.children.map (List.filter P) })

theorem filter_erase {P : String → Bool} {x : String} (out : P x = false) (cs : List String) :
    (cs.erase x).filter P = cs.filter P := by
  induction cs with
  | nil => rfl
  | cons c rest ih =>
    rw [List.erase_cons]
    split_ifs with same
    · rw [List.filter_cons, beq_iff_eq.mp same, out, if_neg Bool.false_ne_true]
    · rw [List.filter_cons, List.filter_cons, ih]

theorem prune_removeChild {P : String → Bool} {x : String} (out : P x = false) (n : Node) :
    prune P (.node (n.removeChild x)) = prune P (.node n) := by
  obtain ⟨type, id, children, parents, info⟩ := n
  cases children with
  | none => rfl
  | some cs => simp [prune, Entry.mapNode, Node.removeChild, filter_erase out]

/-- The same entries in the same order, but that some are gone and that components lost children. -/
structure Pruned (P : String → Bool) (l' l : Layout) : Prop where
  order : (l'.entries.map Prod.fst).Sublist (l.entries.map Prod.fst)
  kept : ∀ k e', l'.get k = some e' → ∃ e, l.get k = some e ∧ prune P e' = prune P e

section
variable {P : String → Bool} {l l' l'' : Layout}

theorem Pruned.refl (P : String → Bool) (l : Layout) : Pruned P l l := ⟨List.Sublist.refl _, fun _ e there => ⟨e, there, rfl⟩⟩

theorem Pruned.trans (after : Pruned P l'' l') (before : Pruned P l' l) : Pruned P l'' l := by
  refine ⟨after.order.trans before.order, ?_⟩
  intro k e'' there''
  obtain ⟨e', there', same'⟩ := after.kept k e'' there''
  obtain ⟨e, there, same⟩ := before.kept k e' there'
  exact ⟨e, there, same'.trans same⟩

theorem pruned_erase (l : Layout) (key : String) : Pruned P (l.erase key) l := by
  constructor
  · rw [Dict.keys_erase]
    exact List.filter_sublist
  · intro k e there
    rw [Dict.get_erase] at there
    split_ifs at there
    exact ⟨e, there, rfl⟩

theorem prune_mapNode {f : Node → Node} (same : ∀ n, prune P (.node (f n)) = prune P (.node n)) (e : Entry) :
    prune P (e.mapNode f) = prune P e := by
  cases e with
  | node n => exact same n
  | scalar s => rfl

theorem pruned_modifyNode {x : String} (out : P x = false) (key : String) :
    Pruned P (l.modifyNode key (fun n => n.removeChild x)) l := by
  constructor
  · unfold modifyNode
    rw [Dict.keys_modify]
  · intro k e' there
    unfold modifyNode at there
    rw [Dict.get_modify] at there
    split_ifs at there
    · obtain ⟨e, before, rfl⟩ := Option.map_eq_some_iff.mp there
      exact ⟨e, before, prune_mapNode (prune_removeChild out) e⟩
    · exact ⟨e', there, rfl⟩

theorem pruned_unhangRow {x : String} (out : P x = false) : Pruned P (l.unhangRow x) l := by
  constructor
  · unfold unhangRow
    rw [Dict.keys_mapValues]
  · intro k e' there
    unfold unhangRow at there
    rw [Dict.get_mapValues] at there
    obtain ⟨e, before, rfl⟩ := Option.map_eq_some_iff.mp there
    refine ⟨e, before, prune_mapNode (fun n => ?_) e⟩
    split_ifs
    · exact prune_removeChild out n
    · rfl

theorem TakenOut.pruned {t : NodeType} {child : String} {next : Option String} (taken : TakenOut l t child l' next)
    (out : P child = false) : Pruned P l' l := by
  cases taken with
  | absent _ => exact .refl P l
  | shortened _ _ _ _ => exact pruned_modifyNode out _
  | emptied _ _ _ => exact pruned_erase l _

theorem TakenOut.get_eq_none_iff {t : NodeType} {child : String} {next : Option String} (taken : TakenOut l t child l' next)
    (k : String) : l'.get k = none ↔ l.get k = none ∨ next = some k := by
  cases taken with
  | absent _ => simp
  | shortened _ _ _ _ =>
    unfold modifyNode
    rw [Dict.get_modify]
    split_ifs <;> simp
  | @emptied key _ _ _ _ =>
    rw [Dict.get_erase]
    split_ifs with same
    · simp [same]
    · simp [Ne.symm same]

theorem get_unhangRow_eq_none_iff {row k : String} : (l.unhangRow row).get k = none ↔ l.get k = none := by
  unfold unhangRow
  rw [Dict.get_mapValues]
  simp

namespace Removed
variable {key : String} {gone : List String}

theorem pruned (removed : Removed l key l' gone) (out : ∀ x ∈ gone, P x = false) : Pruned P l' l := by
  cases removed with
  | column column => exact (column.pruned (out _ (by simp))).trans (pruned_erase l key)
  | row column row =>
    exact (row.pruned (out _ (by simp))).trans ((column.pruned (out _ (by simp))).trans (pruned_erase l key))
  | grid column row =>
    have before := (row.pruned (out _ (by simp))).trans ((column.pruned (out _ (by simp))).trans (pruned_erase l key))
    exact (pruned_unhangRow (out _ (by simp))).trans before

theorem get_eq_none_iff (removed : Removed l key l' gone) (k : String) : l'.get k = none ↔ l.get k = none ∨ k ∈ gone := by
  have popped : Dict.get (l.erase key) k = none ↔ l.get k = none ∨ k = key := by
    rw [Dict.get_erase]
    split_ifs with same
    · simp [same]
    · simp [same]
  cases removed with
  | column column =>
    rw [column.get_eq_none_iff, popped]
    simp
  | @row _ _ col column row =>
    rw [row.get_eq_none_iff, column.get_eq_none_iff, popped]
    simp [eq_comm (a := col), or_assoc]
  | @grid _ _ col rowKey column row =>
    rw [get_unhangRow_eq_none_iff, row.get_eq_none_iff, column.get_eq_none_iff, popped]
    simp [eq_comm (a := col), eq_comm (a := rowKey), or_assoc]

end Removed
end

/-! ## A clean layout -/

/-- What goes with the chart: the components that show it and, in turn, the ROWs and COLUMNs that
hold nothing else. -/
inductive Goes (l : Layout) (chartId : Nat) : String → Prop
  | shows {k : String} (shown : l.chartAt k = some chartId) : Goes l chartId k
  | emptied {k : String} {n : Node} (there : l.nodeAt k = some n) (type : n.type = .row ∨ n.type = .column)
      (some : n.childIds ≠ []) (all : ∀ c ∈ n.childIds, Goes l chartId c) : Goes l chartId k

/-- Every child is a component. -/
def Resolves (l : Layout) : Prop := ∀ k n, l.nodeAt k = some n → ∀ c ∈ n.childIds, (l.nodeAt c).isSome

/-- `l'` is `l` without the chart: nothing shows it, every child resolves, no ROW or COLUMN became
empty, and all else is as it was, in its order. -/
structure Cleared (l l' : Layout) (chartId : Nat) : Prop where
  chart : ∀ k, l'.chartAt k ≠ some chartId
  resolves : l'.Resolves
  filled : ∀ k n n', l.nodeAt k = some n → l'.nodeAt k = some n' → n.type = .row ∨ n.type = .column →
    n'.childIds = [] → n.childIds = []
  gone : ∀ k, (l.get k).isSome → l'.get k = none → l.Goes chartId k
  kept : ∀ k e', l'.get k = some e' → ∃ e, l.get k = some e ∧ e' = prune (fun c => (l'.get c).isSome) e
  order : (l'.entries.map Prod.fst).Sublist (l.entries.map Prod.fst)

/-- The chart is shown under its key only, and the code finds all that lists the key. -/
structure Found (l : Layout) (chartId : Nat) : Prop where
  only : ∀ k, l.chartAt k = some chartId → k = chartKey chartId
  shown : (l.get (chartKey chartId)).isSome → l.chartAt (chartKey chartId) = some chartId
  alone : l.Alone (chartKey chartId)

/-- Only CHART components name a chart. -/
def ChartsOnly (l : Layout) : Prop := ∀ k n chartId, l.nodeAt k = some n → n.info.chartId = some chartId → n.type = .chart

theorem get_of_nodeAt {l : Layout} {k : String} {n : Node} (there : l.nodeAt k = some n) : l.get k = some (.node n) := by
  obtain ⟨e, found, node⟩ := Option.bind_eq_some_iff.mp there
  cases e with
  | node m => rw [found, ← Option.some.inj node]
  | scalar s => cases node

theorem nodeAt_of_get {l : Layout} {k : String} {n : Node} (found : l.get k = some (.node n)) : l.nodeAt k = some n := by
  rw [nodeAt, found]
  rfl

theorem prune_eq_self {P : String → Bool} {e : Entry} (all : ∀ n, e = .node n → ∀ c ∈ n.childIds, P c) : prune P e = e := by
  cases e with
  | scalar s => rfl
  | node n =>
    have here := all n rfl
    obtain ⟨type, id, children, parents, info⟩ := n
    cases children with
    | none => rfl
    | some cs =>
      have whole : cs.filter P = cs := List.filter_eq_self.mpr here
      simp [prune, Entry.mapNode, whole]

section
variable {l l' : Layout} {chartId : Nat}

/-- Where something goes, the chart is shown. -/
theorem Goes.exists_shown {k : String} (goes : l.Goes chartId k) : ∃ k', l.chartAt k' = some chartId := by
  induction goes with
  | @shows k shown => exact ⟨k, shown⟩
  | @emptied k n there type some all ih =>
    obtain ⟨c, within⟩ := List.exists_mem_of_ne_nil _ some
    exact ih c within

theorem WellFormed.resolves (formed : l.WellFormed) : l.Resolves := by
  intro k n there c within
  have lists : l.children k = some n.childIds := by simp [Layout.children, there]
  have resolved := formed.tree.resolves k _ lists c within
  rw [isSome_children] at resolved
  exact resolved

/-- A layout whose children resolve and that loses nothing is as it was. -/
theorem cleared_self (resolves : l.Resolves) : Cleared l l chartId ↔ ∀ k, l.chartAt k ≠ some chartId := by
  constructor
  · exact Cleared.chart
  · intro chart
    refine ⟨chart, resolves, ?_, ?_, ?_, List.Sublist.refl _⟩
    · intro k n n' there there' _ empty
      obtain rfl : n = n' := Option.some.inj (there.symm.trans there')
      exact empty
    · intro k present absent
      rw [absent] at present
      cases present
    · intro k e found
      refine ⟨e, found, (prune_eq_self ?_).symm⟩
      rintro n rfl c within
      exact isSome_get_of_nodeAt (resolves k n (nodeAt_of_get found) c within)

/-- What stays is the component it was, but for its children. -/
theorem Pruned.nodeAt {P : String → Bool} (pruned : Pruned P l' l) {k : String} (stays : l'.get k ≠ none) {n : Node}
    (there : l.nodeAt k = some n) : ∃ n', l'.nodeAt k = some n' ∧ n'.info = n.info := by
  obtain ⟨e', found'⟩ := Option.ne_none_iff_exists'.mp stays
  obtain ⟨e, found, same⟩ := pruned.kept k e' found'
  obtain rfl : e = .node n := Option.some.inj (found.symm.trans (get_of_nodeAt there))
  cases e' with
  | scalar s => cases same
  | node n' =>
    refine ⟨n', nodeAt_of_get found', ?_⟩
    have info := congrArg Node.info (Entry.node.inj same)
    exact info

theorem TakenOut.filled {t : NodeType} {child : String} {next : Option String} (taken : TakenOut l t child l' next)
    {k : String} {n' : Node} (there' : l'.nodeAt k = some n') :
    ∃ n, l.nodeAt k = some n ∧ n.type = n'.type ∧ (n'.childIds = [] → n.childIds = []) := by
  cases taken with
  | absent _ => exact ⟨n', there', rfl, id⟩
  | @shortened key n there type within more =>
    rw [nodeAt_modifyNode] at there'
    split_ifs at there' with here
    · obtain ⟨m, before, rfl⟩ := Option.map_eq_some_iff.mp there'
      obtain rfl : m = n := Option.some.inj (before.symm.trans (here ▸ there))
      refine ⟨m, before, rfl, fun empty => ?_⟩
      rw [removeChild_childIds] at empty
      exact absurd empty more
    · exact ⟨n', there', rfl, id⟩
  | @emptied key n there type only =>
    rw [nodeAt_erase] at there'
    split_ifs at there'
    exact ⟨n', there', rfl, id⟩

namespace Removed
variable {key : String} {gone : List String}

/-- No ROW or COLUMN is left empty. -/
theorem filled (removed : Removed l key l' gone) {k : String} {n n' : Node} (there : l.nodeAt k = some n)
    (there' : l'.nodeAt k = some n') (type : n.type = .row ∨ n.type = .column) (empty : n'.childIds = []) :
    n.childIds = [] := by
  have popped : ∀ {m}, nodeAt (l.erase key) k = some m → m = n := by
    intro m before
    rw [nodeAt_erase] at before
    split_ifs at before
    exact Option.some.inj (before.symm.trans there)
  cases removed with
  | column column =>
    obtain ⟨m, before, -, empty'⟩ := column.filled there'
    exact popped before ▸ empty' empty
  | row column row =>
    obtain ⟨m', before', -, empty'⟩ := row.filled there'
    obtain ⟨m, before, -, empty''⟩ := column.filled before'
    exact popped before ▸ empty'' (empty' empty)
  | @grid l₁ l₂ col rowKey column row =>
    rw [nodeAt_unhangRow] at there'
    obtain ⟨g, below, rfl⟩ := Option.map_eq_some_iff.mp there'
    obtain ⟨m', before', type', empty'⟩ := row.filled below
    obtain ⟨m, before, type'', empty''⟩ := column.filled before'
    obtain rfl := popped before
    have other : ¬((g.type = .grid ∨ g.type = .tab) ∧ rowKey ∈ g.childIds) := by
      rintro ⟨holder, -⟩
      rw [← type', ← type''] at holder
      rcases holder with grid | tab
      · simp [grid] at type
      · simp [tab] at type
    rw [if_neg other] at empty
    exact empty'' (empty' empty)

/-- What is gone beside the chart's component were a COLUMN and a ROW that held nothing else. -/
theorem goes (removed : Removed l key l' gone) (shown : l.Goes chartId key) {k : String} (within : k ∈ gone) :
    l.Goes chartId k ∧ (k ≠ key → ∃ n, l.nodeAt k = some n ∧ (n.type = .row ∨ n.type = .column)) := by
  have step : ∀ {k child : String} {n : Node}, l.nodeAt k = some n → n.type = .row ∨ n.type = .column →
      n.childIds = [child] → l.Goes chartId child → l.Goes chartId k := by
    intro k child n there type only goes
    refine .emptied there type (by simp [only]) ?_
    rw [only]
    simpa using goes
  have before : ∀ {k n}, nodeAt (l.erase key) k = some n → l.nodeAt k = some n := by
    intro k n there
    have other := ne_of_erase there
    rw [nodeAt_erase, if_neg other] at there
    exact there
  cases removed with
  | column column =>
    rw [List.mem_singleton.mp within]
    exact ⟨shown, fun other => absurd rfl other⟩
  | @row l₁ l₂ col column row =>
    obtain ⟨n, there, type, only, rfl⟩ := column.of_some
    simp only [List.mem_cons, List.not_mem_nil, or_false] at within
    rcases within with rfl | rfl
    · exact ⟨shown, fun other => absurd rfl other⟩
    · exact ⟨step (before there) (.inr type) only shown, fun _ => ⟨n, before there, .inr type⟩⟩
  | @grid l₁ l₂ col rowKey column row =>
    obtain ⟨n, there, type, only, rfl⟩ := column.of_some
    obtain ⟨m, thereRow, typeRow, onlyRow, rfl⟩ := row.of_some
    have apart := ne_of_erase thereRow
    rw [nodeAt_erase, if_neg apart] at thereRow
    have goesCol := step (before there) (.inr type) only shown
    simp only [List.mem_cons, List.not_mem_nil, or_false] at within
    rcases within with rfl | rfl | rfl
    · exact ⟨shown, fun other => absurd rfl other⟩
    · exact ⟨goesCol, fun _ => ⟨n, before there, .inr type⟩⟩
    · exact ⟨step (before thereRow) (.inl typeRow) onlyRow goesCol, fun _ => ⟨m, before thereRow, .inl typeRow⟩⟩

end Removed

theorem Removed.shrunk {key : String} {gone : List String} (removed : Removed l key l' gone) : Shrunk l' l := by
  cases removed with
  | column column => exact column.shrunk.trans (shrunk_erase l key)
  | row column row => exact row.shrunk.trans (column.shrunk.trans (shrunk_erase l key))
  | grid column row => exact (shrunk_unhangRow _ _).trans (row.shrunk.trans (column.shrunk.trans (shrunk_erase l key)))

theorem Removed.mem_key {key : String} {gone : List String} (removed : Removed l key l' gone) : key ∈ gone := by
  cases removed <;> exact List.mem_cons_self

theorem cleared_of_found {gone : List String} (removed : Removed l (chartKey chartId) l' gone) (resolves : l.Resolves)
    (found : l.Found chartId) (present : (l.get (chartKey chartId)).isSome) : Cleared l l' chartId := by
  have free := removed.unlisted_iff.mpr found.alone
  have out : ∀ x ∈ gone, (fun c => (l'.get c).isSome) x = false := by
    intro x within
    have absent := (removed.get_eq_none_iff x).mpr (.inr within)
    simp [absent]
  have pruned := removed.pruned out
  have resolves' : l'.Resolves := by
    intro k n' there' c within'
    obtain ⟨n, there, -, -, below⟩ := removed.shrunk k n' there'
    have before := resolves k n there c (below.subset within')
    obtain ⟨m, thereChild⟩ := Option.isSome_iff_exists.mp before
    have stays : l'.get c ≠ none := by
      rw [ne_eq, removed.get_eq_none_iff, not_or]
      exact ⟨by simp [get_of_nodeAt thereChild], fun lost => free c lost k n' there' within'⟩
    obtain ⟨m', thereChild', -⟩ := pruned.nodeAt stays thereChild
    rw [thereChild']
    rfl
  refine ⟨?_, resolves', ?_, ?_, ?_, pruned.order⟩
  · intro k shown
    obtain rfl := found.only k (removed.shrunk.chartAt shown)
    rw [chartAt_of_get_none ((removed.get_eq_none_iff _).mpr (.inr removed.mem_key))] at shown
    cases shown
  · intro k n n' there there' type empty
    exact removed.filled there there' type empty
  · intro k there absent
    rcases (removed.get_eq_none_iff k).mp absent with absent | within
    · rw [absent] at there
      cases there
    · exact (removed.goes (.shows (found.shown present)) within).1
  · intro k e' found'
    obtain ⟨e, before, same⟩ := pruned.kept k e' found'
    refine ⟨e, before, ?_⟩
    rw [← same]
    refine (prune_eq_self ?_).symm
    rintro n' rfl c within
    exact isSome_get_of_nodeAt (resolves' k n' (nodeAt_of_get found') c within)

theorem found_of_cleared {gone : List String} (removed : Removed l (chartKey chartId) l' gone) (charts : l.ChartsOnly)
    (cleared : Cleared l l' chartId) (present : (l.get (chartKey chartId)).isSome) : l.Found chartId := by
  have lost := (removed.get_eq_none_iff (chartKey chartId)).mpr (.inr removed.mem_key)
  have goes := cleared.gone _ present lost
  have only : ∀ k, l.chartAt k = some chartId → k = chartKey chartId := by
    intro k shown
    obtain ⟨n, there, names⟩ := Option.bind_eq_some_iff.mp shown
    by_contra other
    have stays : l'.get k ≠ none := by
      rw [ne_eq, removed.get_eq_none_iff, not_or]
      refine ⟨by simp [get_of_nodeAt there], fun within => ?_⟩
      -- a component that went for being empty shows no chart
      obtain ⟨m, there', type⟩ := (removed.goes goes within).2 other
      obtain rfl : m = n := Option.some.inj (there'.symm.trans there)
      rw [charts k m chartId there names] at type
      simp at type
    obtain ⟨n', there', info⟩ := (removed.pruned (P := fun x => x ∉ gone) (by simp)).nodeAt stays there
    apply cleared.chart k
    rw [chartAt, there', Option.bind_some, info, names]
  refine ⟨only, ?_, ?_⟩
  · intro _
    obtain ⟨k, shown⟩ := goes.exists_shown
    rw [← only k shown, shown]
  · apply removed.unlisted_iff.mp
    intro x within k n' there' holds
    have absent := (removed.get_eq_none_iff x).mpr (.inr within)
    have resolved := isSome_get_of_nodeAt (cleared.resolves k n' there' x holds)
    rw [absent] at resolved
    cases resolved

theorem alone_of_absent (resolves : l.Resolves) {key : String} (absent : l.get key = none) : l.Alone key := by
  have free : Unlisted (l.erase key) key := by
    intro k n there within
    have other := ne_of_erase there
    rw [nodeAt_erase, if_neg other] at there
    have resolved := isSome_get_of_nodeAt (resolves k n there key within)
    rw [absent] at resolved
    cases resolved
  refine ⟨?_, ?_, ?_⟩
  · intro k n there within
    exact absurd within (free k n there)
  · intro col n there only
    exact absurd (show key ∈ n.childIds by simp [only]) (free col n there)
  · intro col n row m there only
    exact absurd (show key ∈ n.childIds by simp [only]) (free col n there)

end

/-- Removing a chart leaves a clean layout exactly where the chart is shown under its key only,
at one place of the kind that publishing makes. -/
theorem removeChart_cleared_iff {l : Layout} (resolves : l.Resolves) (charts : l.ChartsOnly) (chartId : Nat) :
    Cleared l (l.removeChart chartId) chartId ↔ l.Found chartId := by
  unfold removeChart
  cases present : l.get (chartKey chartId) with
  | none =>
    rw [removeKey_of_none present, cleared_self resolves]
    constructor
    · intro chart
      refine ⟨fun k shown => absurd shown (chart k), ?_, alone_of_absent resolves present⟩
      rw [present]
      intro there
      cases there
    · intro found k shown
      rw [found.only k shown, chartAt_of_get_none present] at shown
      cases shown
  | some e =>
    have there : (l.get (chartKey chartId)).isSome := by rw [present]; rfl
    obtain ⟨gone, removal⟩ := removed there
    exact ⟨fun cleared => found_of_cleared removal charts cleared there,
      fun found => cleared_of_found removal resolves found there⟩

/-! ## A chart in a row -/

/-- A layout as the provisioning scripts write it: the chart stands in the row itself. -/
def provisioned : Layout :=
  (((Dict.empty.set "ROOT_ID" (.node ⟨.root, "ROOT_ID", some ["GRID_ID"], none, NodeMeta.none⟩)).set "GRID_ID"
    (.node ⟨.grid, "GRID_ID", some ["ROW-00"], some ["ROOT_ID"], NodeMeta.none⟩)).set "CHART-5"
    (.node ⟨.chart, "CHART-5", some [], some ["ROOT_ID", "GRID_ID", "ROW-00"], ⟨some 5, some "Sales", some 44, some 3, none⟩⟩)).set
    "ROW-00" (.node ⟨.row, "ROW-00", some ["CHART-5"], some ["ROOT_ID", "GRID_ID"],
      ⟨none, none, none, none, some "BACKGROUND_TRANSPARENT"⟩⟩)

theorem nodeAt_provisioned {k : String} {n : Node} (there : provisioned.nodeAt k = some n) :
    k = "ROOT_ID" ∨ k = "GRID_ID" ∨ k = "ROW-00" ∨ k = "CHART-5" := by
  unfold provisioned at there
  simp only [nodeAt_set] at there
  by_contra other
  push Not at other
  rw [if_neg other.2.2.1, if_neg other.2.2.2, if_neg other.2.1, if_neg other.1] at there
  cases there

theorem chartsOnly_provisioned : provisioned.ChartsOnly := by
  intro k n chartId there names
  rcases nodeAt_provisioned there with rfl | rfl | rfl | rfl <;> cases there <;> cases names
  rfl

theorem children_provisioned : provisioned.children =
    graft (graft (graft (single "ROOT_ID") "ROOT_ID" "GRID_ID") "GRID_ID" "ROW-00") "ROW-00" "CHART-5" := by
  funext k
  unfold children provisioned graft single
  simp only [nodeAt_set]
  by_cases chart : k = "CHART-5"
  · subst chart
    rfl
  · by_cases row : k = "ROW-00"
    · subst row
      rfl
    · by_cases grid : k = "GRID_ID"
      · subst grid
        rfl
      · by_cases root : k = "ROOT_ID"
        · subst root
          rfl
        · simp only [chart, row, grid, root, if_false]
          rfl

theorem tree_provisioned : IsTree provisioned.children "ROOT_ID" ∧ ∀ q k, Path provisioned.children "ROOT_ID" q k →
    (k = "ROOT_ID" ∧ q = []) ∨ (k = "GRID_ID" ∧ q = ["ROOT_ID"]) ∨ (k = "ROW-00" ∧ q = ["ROOT_ID", "GRID_ID"]) ∨
      (k = "CHART-5" ∧ q = ["ROOT_ID", "GRID_ID", "ROW-00"]) := by
  have root := isTree_single "ROOT_ID"
  have grid : IsTree (graft (single "ROOT_ID") "ROOT_ID" "GRID_ID") "ROOT_ID" := root.graft rfl rfl
  have row : IsTree (graft (graft (single "ROOT_ID") "ROOT_ID" "GRID_ID") "GRID_ID" "ROW-00") "ROOT_ID" := grid.graft rfl rfl
  have chart : IsTree (graft (graft (graft (single "ROOT_ID") "ROOT_ID" "GRID_ID") "GRID_ID" "ROW-00") "ROW-00" "CHART-5")
      "ROOT_ID" := row.graft rfl rfl
  rw [children_provisioned]
  refine ⟨chart, ?_⟩
  have ofRoot : ∀ q k, Path (single "ROOT_ID") "ROOT_ID" q k → k = "ROOT_ID" ∧ q = [] := fun q k path =>
    (ChildTree.path_single_iff.mp path).symm
  have ofGrid : ∀ q k, Path (graft (single "ROOT_ID") "ROOT_ID" "GRID_ID") "ROOT_ID" q k →
      (k = "ROOT_ID" ∧ q = []) ∨ (k = "GRID_ID" ∧ q = ["ROOT_ID"]) := by
    intro q k path
    rcases (root.path_graft_iff rfl rfl).mp path with before | ⟨rfl, r, below, rfl⟩
    · exact .inl (ofRoot q k before)
    · rw [(ofRoot r _ below).2]
      exact .inr ⟨rfl, rfl⟩
  have ofRow : ∀ q k, Path (graft (graft (single "ROOT_ID") "ROOT_ID" "GRID_ID") "GRID_ID" "ROW-00") "ROOT_ID" q k →
      (k = "ROOT_ID" ∧ q = []) ∨ (k = "GRID_ID" ∧ q = ["ROOT_ID"]) ∨ (k = "ROW-00" ∧ q = ["ROOT_ID", "GRID_ID"]) := by
    intro q k path
    rcases (grid.path_graft_iff rfl rfl).mp path with before | ⟨rfl, r, below, rfl⟩
    · exact (ofGrid q k before).imp_right .inl
    · have above := (ofGrid r _ below).resolve_left (fun wrong => absurd wrong.1 (by decide))
      rw [above.2]
      exact .inr (.inr ⟨rfl, rfl⟩)
  intro q k path
  rcases (row.path_graft_iff rfl rfl).mp path with before | ⟨rfl, r, below, rfl⟩
  · exact (ofRow q k before).imp_right (Or.imp_right .inl)
  · have above := (ofRow r _ below).resolve_left (fun wrong => absurd wrong.1 (by decide))
    have above' := above.resolve_left (fun wrong => absurd wrong.1 (by decide))
    rw [above'.2]
    exact .inr (.inr (.inr ⟨rfl, rfl⟩))

theorem wellFormed_provisioned : provisioned.WellFormed where
  tree := tree_provisioned.1
  grid := rfl
  tabs := by
    intro k cs tabs
    obtain ⟨parents, frame⟩ := isType_iff.mp tabs
    obtain ⟨n, there, -⟩ := Option.map_eq_some_iff.mp frame
    rcases nodeAt_provisioned there with rfl | rfl | rfl | rfl <;> cases frame
  parents := by
    intro q k t parents path frame
    rcases tree_provisioned.2 q k path with ⟨rfl, rfl⟩ | ⟨rfl, rfl⟩ | ⟨rfl, rfl⟩ | ⟨rfl, rfl⟩ <;> cases frame <;>
      exact .inl rfl

/-- The chart's component goes and the row goes on listing it. -/
theorem provisioned_not_cleared : provisioned.WellFormed ∧ provisioned.chartAt "CHART-5" = some 5 ∧
    ¬Cleared provisioned (provisioned.removeChart 5) 5 := by
  refine ⟨wellFormed_provisioned, rfl, ?_⟩
  intro cleared
  have key : chartKey 5 = "CHART-5" := by decide
  have row : (provisioned.removeChart 5).nodeAt "ROW-00" = provisioned.nodeAt "ROW-00" := by
    rw [removeChart, key]
    rfl
  have resolved := cleared.resolves "ROW-00" _ row "CHART-5" (by decide)
  rw [removeChart, key] at resolved
  cases resolved

theorem removeChart_cleared_iff_provisioned :
    Cleared provisioned (provisioned.removeChart 5) 5 ↔ provisioned.Found 5 :=
  removeChart_cleared_iff wellFormed_provisioned.resolves chartsOnly_provisioned 5

/-! ## Adding and removing -/

/-- A layout as the editor stores it: ROOT_ID, GRID_ID and the TABs have a child list, GRID_ID is a
GRID, and the version is there. -/
structure Stored (l : Layout) : Prop where
  formed : l.WellFormed
  laid : l.Laid
  root : ∀ n, l.nodeAt "ROOT_ID" = some n → n.children.isSome
  grid : ∀ n, l.nodeAt "GRID_ID" = some n → n.type = .grid ∧ n.children.isSome
  tab : ∀ k n, l.nodeAt k = some n → n.type = .tab → n.children.isSome
  version : (l.get "DASHBOARD_VERSION_KEY").isSome

theorem wireRoot_eq_self {l : Layout} (grid : (l.get "GRID_ID").isSome) (laid : l.Laid)
    (root : ∀ n, l.nodeAt "ROOT_ID" = some n → n.children.isSome) (version : (l.get "DASHBOARD_VERSION_KEY").isSome) :
    wireRoot l = l := by
  obtain ⟨cs, lists, top⟩ := laid
  obtain ⟨n, there, rfl⟩ := Option.map_eq_some_iff.mp lists
  have wired : (n.childIds.any (isType l .tabs) || "GRID_ID" ∈ n.childIds) = true := by
    rw [Bool.or_eq_true, decide_eq_true_eq, List.any_eq_true]
    exact top.symm
  have same : l.modifyNode "ROOT_ID" (fun n => { n with children := some n.childIds }) = l := by
    apply Dict.modify_eq_self
    intro e found
    rw [get_of_nodeAt there] at found
    rw [← Option.some.inj found]
    obtain ⟨ds, known⟩ := Option.isSome_iff_exists.mp (root n there)
    have whole : some n.childIds = n.children := by simp [Node.childIds, known]
    simp only [Entry.mapNode, whole]
  unfold wireRoot
  simp only [if_pos grid, there, wired, if_true]
  rw [same, if_pos version]

section
variable {l : Layout} {ids : FreshIds} {chartId : Nat}

theorem get_placeNodes_old (fresh : l.Fresh ids chartId) (sliceName : String) (parents : List String) {k : String}
    (there : (l.get k).isSome) : (placeNodes l ids chartId sliceName parents).get k = l.get k := by
  obtain ⟨row, column, chart⟩ := fresh.ne there
  unfold placeNodes
  simp [row, column, chart]

theorem keys_placeNodes (fresh : l.Fresh ids chartId) (sliceName : String) (parents : List String) :
    (placeNodes l ids chartId sliceName parents).entries.map Prod.fst =
      l.entries.map Prod.fst ++ [chartKey chartId] ++ [ids.column] ++ [ids.row] := by
  have rowColumn := row_ne_column ids
  have rowChart := row_ne_chartKey ids chartId
  have columnChart := column_ne_chartKey ids chartId
  unfold placeNodes
  simp only
  rw [Dict.keys_set_of_absent, Dict.keys_set_of_absent, Dict.keys_set_of_absent]
  · exact fresh.chart
  · rw [Dict.get_set_ne _ _ columnChart, fresh.column]
  · rw [Dict.get_set_ne _ _ rowColumn, Dict.get_set_ne _ _ rowChart, fresh.row]

/-- On a stored layout nothing else changes. -/
theorem addChart_eq_hung (stored : l.Stored) (fresh : l.Fresh ids chartId) (sliceName : String) :
    l.addChart ids chartId sliceName = l.hung ids chartId sliceName := by
  obtain ⟨p, path⟩ := exists_path_holder stored.formed stored.laid
  rw [addChart_eq_wireRoot fresh path]
  apply wireRoot_eq_self (grid_hung stored.formed fresh sliceName) (laid_hung stored.laid fresh sliceName)
  · intro n there
    unfold hung at there
    rw [nodeAt_modifyNode] at there
    obtain ⟨cs, lists, -⟩ := stored.laid
    obtain ⟨m, before, -⟩ := Option.map_eq_some_iff.mp lists
    have kept : (placeNodes l ids chartId sliceName (l.holderParents ++ [l.holder])).nodeAt "ROOT_ID" = some m := by
      rw [nodeAt, get_placeNodes_old fresh _ _ (by simp [get_of_nodeAt before]), ← nodeAt, before]
    rw [kept] at there
    split_ifs at there
    · rw [← Option.some.inj there]
      rfl
    · rw [← Option.some.inj there]
      exact stored.root m before
  · unfold hung modifyNode
    have kept := get_placeNodes_old fresh sliceName (l.holderParents ++ [l.holder]) stored.version
    rw [Dict.get_modify, kept]
    split_ifs
    · rw [Option.isSome_map]
      exact stored.version
    · exact stored.version

/-- Who lists what after the chart is added. -/
theorem Added.lists {l' : Layout} {p : List String} {parentId : String} (added : Added l l' ids chartId p parentId)
    (resolves : l.Resolves) {child k : String} {n : Node} (new : l.get child = none) (there : l'.nodeAt k = some n)
    (within : child ∈ n.childIds) :
    (k = ids.row ∧ n.childIds = [ids.column]) ∨ (k = ids.column ∧ n.childIds = [chartKey chartId]) ∨
      (k = parentId ∧ child = ids.row) := by
  have unlisted : ∀ cs, l.children k = some cs → child ∉ cs := by
    intro cs lists holds
    obtain ⟨m, before, rfl⟩ := Option.map_eq_some_iff.mp lists
    have resolved := isSome_get_of_nodeAt (resolves k m before child holds)
    rw [new] at resolved
    cases resolved
  have lists : l'.children k = some n.childIds := by simp [Layout.children, there]
  rw [added.children, grafts_apply] at lists
  split_ifs at lists with row column chart parent
  · exact .inl ⟨row, (Option.some.inj lists).symm⟩
  · exact .inr (.inl ⟨column, (Option.some.inj lists).symm⟩)
  · rw [← Option.some.inj lists] at within
    exact absurd within List.not_mem_nil
  · obtain ⟨cs, before, whole⟩ := Option.map_eq_some_iff.mp lists
    rw [← whole, List.mem_append, List.mem_singleton] at within
    exact .inr (.inr ⟨parent, within.resolve_left (unlisted cs before)⟩)
  · exact absurd within (unlisted _ lists)

theorem node_of_frame {k : String} {t : NodeType} {parents : Option (List String)} {cs : List String}
    (frame : l.frame k = some (t, parents)) (lists : l.children k = some cs) :
    ∃ n, l.nodeAt k = some n ∧ n.type = t ∧ n.childIds = cs := by
  obtain ⟨n, there, childIds⟩ := Option.map_eq_some_iff.mp lists
  rw [Layout.frame, there, Option.map_some] at frame
  exact ⟨n, there, congrArg Prod.fst (Option.some.inj frame), childIds⟩

theorem soleIn_of_holder {t : NodeType} {child k₀ : String} {n₀ : Node} (there₀ : l.nodeAt k₀ = some n₀)
    (type : n₀.type = t) (only : n₀.childIds = [child])
    (holder : ∀ k n, l.nodeAt k = some n → child ∈ n.childIds → k = k₀) : l.SoleIn t child := by
  intro k n there within
  obtain rfl := holder k n there within
  obtain rfl : n₀ = n := Option.some.inj (there₀.symm.trans there)
  exact ⟨type, by simp [only], holder⟩

/-- The search finds the three new components, and no other. -/
theorem Added.removed {l' : Layout} {p : List String} {parentId : String} (added : Added l l' ids chartId p parentId)
    (resolves : l.Resolves) (fresh : l.Fresh ids chartId) : l'.removeChart chartId =
      unhangRow (((l'.erase (chartKey chartId)).erase ids.column).erase ids.row) ids.row := by
  have rowColumn := row_ne_column ids
  have rowChart := row_ne_chartKey ids chartId
  have columnChart := column_ne_chartKey ids chartId
  have columnLists : l'.children ids.column = some [chartKey chartId] := by
    rw [added.children, grafts_apply, if_neg rowColumn.symm, if_pos rfl]
  have rowLists : l'.children ids.row = some [ids.column] := by rw [added.children, grafts_apply, if_pos rfl]
  have chartLists : l'.children (chartKey chartId) = some [] := by
    rw [added.children, grafts_apply, if_neg rowChart.symm, if_neg columnChart.symm, if_pos rfl]
  obtain ⟨column, columnThere, columnType, onlyChart⟩ := node_of_frame added.column columnLists
  obtain ⟨row, rowThere, rowType, onlyColumn⟩ := node_of_frame added.row rowLists
  have columnThere' : nodeAt (l'.erase (chartKey chartId)) ids.column = some column := by
    rw [nodeAt_erase, if_neg columnChart, columnThere]
  have rowThere' : nodeAt ((l'.erase (chartKey chartId)).erase ids.column) ids.row = some row := by
    rw [nodeAt_erase, if_neg rowColumn, nodeAt_erase, if_neg rowChart, rowThere]
  have sole : SoleIn (l'.erase (chartKey chartId)) .column (chartKey chartId) := by
    apply soleIn_of_holder columnThere' columnType onlyChart
    intro k n there within
    have other := ne_of_erase there
    rw [nodeAt_erase, if_neg other] at there
    rcases added.lists resolves fresh.chart there within with ⟨-, lists⟩ | ⟨same, -⟩ | ⟨-, same⟩
    · rw [lists, List.mem_singleton] at within
      exact absurd within columnChart.symm
    · exact same
    · exact absurd same rowChart.symm
  have soleRow : SoleIn ((l'.erase (chartKey chartId)).erase ids.column) .row ids.column := by
    apply soleIn_of_holder rowThere' rowType onlyColumn
    intro k n there within
    have other := ne_of_erase there
    rw [nodeAt_erase, if_neg other] at there
    have other' := ne_of_erase there
    rw [nodeAt_erase, if_neg other'] at there
    rcases added.lists resolves fresh.column there within with ⟨same, -⟩ | ⟨same, -⟩ | ⟨-, same⟩
    · exact same
    · exact absurd same other
    · exact absurd same rowColumn.symm
  obtain ⟨gone, removal⟩ := Layout.removed (isSome_get_of_children chartLists)
  unfold removeChart
  generalize result : l'.removeKey (chartKey chartId) = after at removal
  cases removal with
  | column taken => exact absurd (taken.next_of_only sole columnThere' onlyChart).1 (by simp)
  | row taken takenRow =>
    obtain ⟨same, rfl⟩ := taken.next_of_only sole columnThere' onlyChart
    obtain rfl := Option.some.inj same
    exact absurd (takenRow.next_of_only soleRow rowThere' onlyColumn).1 (by simp)
  | grid taken takenRow =>
    obtain ⟨same, rfl⟩ := taken.next_of_only sole columnThere' onlyChart
    obtain rfl := Option.some.inj same
    obtain ⟨sameRow, rfl⟩ := takenRow.next_of_only soleRow rowThere' onlyColumn
    rw [Option.some.inj sameRow]

/-- The row taken from the children of its holder. -/
theorem removeChild_addChild {n : Node} {key : String} (known : n.children.isSome) (new : key ∉ n.childIds) :
    (n.addChild key).removeChild key = n := by
  obtain ⟨type, id, children, parents, info⟩ := n
  obtain ⟨cs, rfl⟩ := Option.isSome_iff_exists.mp known
  have whole : (cs ++ [key]).erase key = cs := by
    have absent : key ∉ cs := new
    rw [List.erase_append_right _ absent, List.erase_cons_head, List.append_nil]
  simp [Node.addChild, Node.removeChild, Node.childIds, whole]

theorem filter_keys_of_absent {x : String} (absent : l.get x = none) :
    (l.entries.map Prod.fst).filter (fun k => k ≠ x) = l.entries.map Prod.fst := by
  apply List.filter_eq_self.mpr
  intro k within
  have other : k ≠ x := fun same => (l.get_eq_none_iff x).mp absent (same ▸ within)
  simpa using other

theorem Stored.holder_node (stored : l.Stored) {n : Node} (there : l.nodeAt l.holder = some n) :
    (n.type = .grid ∨ n.type = .tab) ∧ n.children.isSome := by
  rcases holder_kind l with grid | tab
  · have known := stored.grid n (by rw [← grid, there])
    exact ⟨.inl known.1, known.2⟩
  · rw [isType, there] at tab
    have type : n.type = .tab := of_decide_eq_true tab
    exact ⟨.inr type, stored.tab l.holder n there type⟩

/-- Removing the chart just added gives back the layout, entry by entry. -/
theorem removeChart_addChart (stored : l.Stored) (fresh : l.Fresh ids chartId) (sliceName : String) :
    (l.addChart ids chartId sliceName).removeChart chartId = l := by
  have rowColumn := row_ne_column ids
  have rowChart := row_ne_chartKey ids chartId
  have columnChart := column_ne_chartKey ids chartId
  have resolves := stored.formed.resolves
  obtain ⟨p, path⟩ := exists_path_holder stored.formed stored.laid
  rw [(added_of_laid stored.formed stored.laid fresh path sliceName).removed resolves fresh,
    addChart_eq_hung stored fresh]
  apply Dict.ext_keys
  · unfold unhangRow hung modifyNode
    rw [Dict.keys_mapValues, Dict.keys_erase, Dict.keys_erase, Dict.keys_erase, Dict.keys_modify, keys_placeNodes fresh]
    simp only [List.filter_append, filter_keys_of_absent fresh.chart, filter_keys_of_absent fresh.column,
      filter_keys_of_absent fresh.row]
    simp [columnChart, rowChart, rowColumn]
  · intro k
    unfold unhangRow
    rw [Dict.get_mapValues, Dict.get_erase, Dict.get_erase, Dict.get_erase]
    split_ifs with row column chart
    · rw [row, fresh.row]
      rfl
    · rw [column, fresh.column]
      rfl
    · rw [chart, fresh.chart]
      rfl
    · have unlisted : ∀ n, l.nodeAt k = some n → ids.row ∉ n.childIds := by
        intro n there within
        have resolved := isSome_get_of_nodeAt (resolves k n there ids.row within)
        rw [fresh.row] at resolved
        cases resolved
      have before : (placeNodes l ids chartId sliceName (l.holderParents ++ [l.holder])).get k = l.get k := by
        unfold placeNodes
        simp [row, column, chart]
      unfold hung modifyNode
      rw [Dict.get_modify, before]
      by_cases here : k = l.holder
      · obtain ⟨n, there⟩ := Option.isSome_iff_exists.mp (holder_there path)
        -- the holder is the GRID or a TAB, so it loses the row again
        have kind := stored.holder_node there
        rw [← here] at there
        have taken : ids.row ∈ (n.addChild ids.row).childIds := by simp [childIds_addChild]
        have holds : ((n.addChild ids.row).type = .grid ∨ (n.addChild ids.row).type = .tab) ∧
            ids.row ∈ (n.addChild ids.row).childIds := ⟨kind.1, taken⟩
        rw [if_pos here, get_of_nodeAt there]
        simp only [Option.map_some, Entry.mapNode]
        rw [if_pos holds, removeChild_addChild kind.2 (unlisted n there)]
      · rw [if_neg here]
        cases found : l.get k with
        | none => rfl
        | some e =>
          cases e with
          | scalar s => rfl
          | node n =>
            have other : ¬((n.type = .grid ∨ n.type = .tab) ∧ ids.row ∈ n.childIds) :=
              fun holds => unlisted n (nodeAt_of_get found) holds.2
            simp only [Option.map_some, Entry.mapNode]
            rw [if_neg other]

end

/-- A flat layout as the editor stores it. -/
def flat : Layout :=
  bare.set "DASHBOARD_VERSION_KEY" (.scalar "v2")

theorem nodeAt_flat : flat.nodeAt = bare.nodeAt := by
  funext k
  unfold flat
  rw [nodeAt_set]
  split_ifs with version
  · rw [version]
    rfl
  · rfl

theorem stored_flat : flat.Stored := by
  have children : flat.children = bare.children := by
    unfold Layout.children
    rw [nodeAt_flat]
  have frame : flat.frame = bare.frame := by
    unfold Layout.frame
    rw [nodeAt_flat]
  have isType : flat.isType = bare.isType := by
    unfold Layout.isType
    rw [nodeAt_flat]
  have formed := wellFormed_bare
  refine ⟨⟨?_, ?_, ?_, ?_⟩, ?_, ?_, ?_, ?_, rfl⟩
  · rw [children]
    exact formed.tree
  · rw [nodeAt_flat]
    exact formed.grid
  · rw [isType, children]
    exact formed.tabs
  · rw [children, frame]
    exact formed.parents
  · rw [Laid, children, isType]
    exact laid_bare
  · rintro n there
    cases there
    rfl
  · rintro n there
    cases there
    exact ⟨rfl, rfl⟩
  · intro k n there type
    rw [nodeAt_flat] at there
    unfold bare at there
    simp only [nodeAt_set] at there
    split_ifs at there <;> cases there <;> cases type

theorem fresh_flat : flat.Fresh ⟨"0a1b2c3d", "4e5f6a7b"⟩ 7 := by
  have apart : ∀ k, k ∉ ["DASHBOARD_VERSION_KEY", "ROOT_ID", "GRID_ID"] → flat.get k = none := by
    intro k other
    simp only [List.mem_cons, List.not_mem_nil, or_false, not_or] at other
    simp [flat, bare, other]
  exact ⟨apart _ (by decide), apart _ (by decide), apart _ (by decide)⟩

theorem removeChart_addChart_flat : (flat.addChart ⟨"0a1b2c3d", "4e5f6a7b"⟩ 7 "Sales").removeChart 7 = flat :=
  removeChart_addChart stored_flat fresh_flat "Sales"

end XpBuilder.Layout
