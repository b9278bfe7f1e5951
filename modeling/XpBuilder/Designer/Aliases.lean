import XpBuilder.Library.Runs
import XpBuilder.Report.Query
import XpBuilder.Designer.Page

/-! The aliases of the datasets. A new dataset is numbered by the length of the list that
it is added to, a missing alias by the position in the list, so a number can come back
after a dataset was closed or while an upload was on its way. -/

namespace XpBuilder.Designer
open PythonText (orElse truthy)

/-! ## The aliases that count -/

def numbered (n : Nat) : String := s!"d{n}"

theorem numbered_injective {m n : Nat} (same : numbered m = numbered n) : m = n := by
  have chars : (numbered m).toList = (numbered n).toList := congrArg String.toList same
  have digits : Nat.toDigits 10 m = Nat.toDigits 10 n := by
    simpa [numbered, Nat.toList_repr] using chars
  have values := congrArg (fun ds => Nat.ofDigitChars 10 ds 0) digits
  simpa [Nat.ofDigitChars_ten_toDigits] using values

theorem numbered_ne_empty (n : Nat) : numbered n ≠ "" := by
  intro empty
  have chars := congrArg String.toList empty
  simp [numbered] at chars

/-- The alias of the entry at a position. -/
def aliasAt (index : Nat) (entry : DatasetEntry) : String :=
  orElse entry.aliasName (numbered (index + 1))

/-- For each dataset its last entry, with the position. -/
def counting : Nat → List DatasetEntry → List (Nat × DatasetEntry)
  | _, [] => []
  | index, entry :: rest =>
    if entry.id ∈ rest.map DatasetEntry.id then counting (index + 1) rest
    else (index, entry) :: counting (index + 1) rest

theorem mem_counting_cons {index i : Nat} {entry a : DatasetEntry} {rest : List DatasetEntry} :
    (i, a) ∈ counting index (entry :: rest) ↔ (i, a) ∈ counting (index + 1) rest ∨
      ((i = index ∧ a = entry) ∧ entry.id ∉ rest.map DatasetEntry.id) := by
  rw [counting]
  split
  · rename_i again
    simp only [again, not_true_eq_false, and_false, or_false]
  · rename_i new
    rw [List.mem_cons, Prod.mk.injEq, or_comm]
    simp only [new, not_false_eq_true, and_true]

theorem getElem?_of_mem_counting {index i : Nat} {entries : List DatasetEntry} {a : DatasetEntry}
    (mem : (i, a) ∈ counting index entries) : index ≤ i ∧ entries[i - index]? = some a := by
  induction entries generalizing index with
  | nil => cases mem
  | cons entry rest ih =>
    cases mem_counting_cons.mp mem with
    | inl later =>
      have there := ih later
      have shift : i - index = (i - (index + 1)) + 1 := by omega
      rw [shift, List.getElem?_cons_succ]
      exact ⟨by omega, there.2⟩
    | inr here =>
      obtain ⟨⟨rfl, rfl⟩, -⟩ := here
      simp

theorem mem_of_mem_counting {index i : Nat} {entries : List DatasetEntry} {a : DatasetEntry}
    (mem : (i, a) ∈ counting index entries) : a ∈ entries :=
  List.mem_of_getElem? (getElem?_of_mem_counting mem).2

theorem aliasFrom_eq_none_iff {index : Nat} {entries : List DatasetEntry} {id : Nat} :
    Definition.aliasFrom index entries id = none ↔ id ∉ entries.map DatasetEntry.id := by
  induction entries generalizing index with
  | nil => simp [Definition.aliasFrom]
  | cons entry rest ih =>
    rw [Definition.aliasFrom, Option.or_eq_none_iff, ih, List.map_cons, List.mem_cons]
    simp only [ite_eq_right_iff, reduceCtorEq, imp_false, not_or]
    exact ⟨fun h => ⟨Ne.symm h.2, h.1⟩, fun h => ⟨h.2, Ne.symm h.1⟩⟩

theorem aliasFrom_eq_some_iff {index : Nat} {entries : List DatasetEntry} {id : Nat} {name : String} :
    Definition.aliasFrom index entries id = some name ↔
      ∃ i a, (i, a) ∈ counting index entries ∧ a.id = id ∧ aliasAt i a = name := by
  induction entries generalizing index with
  | nil => simp [Definition.aliasFrom, counting]
  | cons entry rest ih =>
    rw [Definition.aliasFrom, Option.or_eq_some_iff, ih, aliasFrom_eq_none_iff,
      Option.ite_none_right_eq_some]
    constructor
    · intro found
      cases found with
      | inl later =>
        obtain ⟨i, a, mem, same⟩ := later
        exact ⟨i, a, mem_counting_cons.mpr (.inl mem), same⟩
      | inr here =>
        obtain ⟨last, rfl, named⟩ := here
        exact ⟨index, entry, mem_counting_cons.mpr (.inr ⟨⟨rfl, rfl⟩, last⟩), rfl, Option.some.inj named⟩
    · intro found
      obtain ⟨i, a, mem, rfl, rfl⟩ := found
      cases mem_counting_cons.mp mem with
      | inl later => exact .inl ⟨i, a, later, rfl, rfl⟩
      | inr here =>
        obtain ⟨⟨rfl, rfl⟩, last⟩ := here
        exact .inr ⟨last, rfl, rfl⟩

theorem counting_append (index : Nat) (entries : List DatasetEntry) (entry : DatasetEntry)
    (new : entry.id ∉ entries.map DatasetEntry.id) :
    counting index (entries ++ [entry]) = counting index entries ++ [(index + entries.length, entry)] := by
  induction entries generalizing index with
  | nil => rfl
  | cons first rest ih =>
    rw [List.map_cons, List.mem_cons, not_or] at new
    have same : first.id ∈ (rest ++ [entry]).map DatasetEntry.id ↔
        first.id ∈ rest.map DatasetEntry.id := by
      simp [Ne.symm new.1]
    have length : index + 1 + rest.length = index + (first :: rest).length := by
      rw [List.length_cons]
      omega
    rw [List.cons_append, counting, counting, ih _ new.2, length]
    simp only [same]
    split <;> rfl

/-- Closing a dataset takes its entries away and moves others to the front. -/
theorem mem_counting_of_filter {index i : Nat} {entries : List DatasetEntry} {id : Nat} {a : DatasetEntry}
    (mem : (i, a) ∈ counting index (entries.filter (fun item => item.id ≠ id))) (start : Nat) :
    ∃ i', (i', a) ∈ counting start entries := by
  induction entries generalizing index start with
  | nil => cases mem
  | cons entry rest ih =>
    have shifted : ∀ {at' : Nat}, (i, a) ∈ counting at' (rest.filter (fun item => item.id ≠ id)) →
        ∃ i', (i', a) ∈ counting start (entry :: rest) := by
      intro at' later
      obtain ⟨i', there⟩ := ih later (start + 1)
      exact ⟨i', mem_counting_cons.mpr (.inl there)⟩
    rw [List.filter_cons] at mem
    split at mem
    · rename_i kept
      cases mem_counting_cons.mp mem with
      | inl later => exact shifted later
      | inr here =>
        obtain ⟨⟨-, rfl⟩, last⟩ := here
        have other : a.id ≠ id := by simpa using kept
        have still : a.id ∉ rest.map DatasetEntry.id := by
          intro again
          obtain ⟨b, there, same⟩ := List.mem_map.mp again
          apply last
          exact List.mem_map.mpr ⟨b, List.mem_filter.mpr ⟨there, by simpa [same] using other⟩, same⟩
        exact ⟨start, mem_counting_cons.mpr (.inr ⟨⟨rfl, rfl⟩, still⟩)⟩
    · exact shifted mem

/-! ## When they are distinct -/

/-- No two datasets have the same written alias. -/
def WrittenApart (entries : List DatasetEntry) : Prop :=
  ∀ e ∈ counting 0 entries, ∀ f ∈ counting 0 entries, ∀ name ∈ truthy e.2.aliasName,
    name ∈ truthy f.2.aliasName → e.2.id = f.2.id

/-- No written alias is the number that stands in for a missing one. -/
def NumbersFree (entries : List DatasetEntry) : Prop :=
  ∀ e ∈ counting 0 entries, ∀ f ∈ counting 0 entries, ∀ name ∈ truthy e.2.aliasName,
    truthy f.2.aliasName = none → name ≠ numbered (f.1 + 1)

def Apart (entries : List DatasetEntry) : Prop := WrittenApart entries ∧ NumbersFree entries

instance (entries : List DatasetEntry) : Decidable (NumbersFree entries) :=
  inferInstanceAs (Decidable (∀ e ∈ counting 0 entries, ∀ f ∈ counting 0 entries,
    ∀ name ∈ truthy e.2.aliasName, _))

instance (entries : List DatasetEntry) : Decidable (Apart entries) :=
  inferInstanceAs (Decidable ((∀ e ∈ counting 0 entries, ∀ f ∈ counting 0 entries,
    ∀ name ∈ truthy e.2.aliasName, _) ∧ _))

/-- The aliases as `_load_datasets` assigns them. -/
def OneEach (entries : List DatasetEntry) : Prop :=
  ∀ e ∈ counting 0 entries, ∀ f ∈ counting 0 entries,
    aliasAt e.1 e.2 = aliasAt f.1 f.2 → e.2.id = f.2.id

theorem aliasAt_written {index : Nat} {entry : DatasetEntry} {name : String}
    (written : truthy entry.aliasName = some name) : aliasAt index entry = name := by
  obtain ⟨same, nonempty⟩ := PythonText.truthy_eq_some written
  rw [aliasAt, same, PythonText.orElse_some nonempty]

theorem aliasAt_missing {index : Nat} {entry : DatasetEntry} (missing : truthy entry.aliasName = none) :
    aliasAt index entry = numbered (index + 1) := by
  unfold aliasAt orElse
  cases given : entry.aliasName with
  | none => rfl
  | some name =>
    have empty : name = "" := by simpa [truthy, given] using missing
    exact if_pos empty

/-- Where two entries of one dataset would count they are one. -/
theorem counting_unique {index i j : Nat} {entries : List DatasetEntry} {a b : DatasetEntry}
    (first : (i, a) ∈ counting index entries) (second : (j, b) ∈ counting index entries)
    (same : a.id = b.id) : i = j ∧ a = b := by
  induction entries generalizing index with
  | nil => cases first
  | cons entry rest ih =>
    have apart : ∀ {k c}, (k, c) ∈ counting (index + 1) rest → entry.id ∉ rest.map DatasetEntry.id →
        c.id ≠ entry.id := by
      intro k c mem last equal
      exact last (equal ▸ List.mem_map_of_mem (mem_of_mem_counting mem))
    cases mem_counting_cons.mp first with
    | inl there =>
      cases mem_counting_cons.mp second with
      | inl there' => exact ih there there'
      | inr here' => exact absurd (here'.1.2 ▸ same) (apart there here'.2)
    | inr here =>
      cases mem_counting_cons.mp second with
      | inl there' => exact absurd (here.1.2 ▸ same.symm) (apart there' here.2)
      | inr here' => exact ⟨here.1.1.trans here'.1.1.symm, here.1.2.trans here'.1.2.symm⟩

theorem oneEach_iff_apart (entries : List DatasetEntry) : OneEach entries ↔ Apart entries := by
  constructor
  · intro distinct
    constructor
    · intro e first f second name written written'
      apply distinct e first f second
      rw [aliasAt_written written, aliasAt_written written']
    · intro e first f second name written missing clash
      have same : e.2.id = f.2.id := by
        apply distinct e first f second
        rw [aliasAt_written written, aliasAt_missing missing, clash]
      have one : e.2 = f.2 := (counting_unique first second same).2
      rw [one, missing] at written
      cases written
  · intro apart e first f second same
    cases written : truthy e.2.aliasName with
    | some name =>
      rw [aliasAt_written written] at same
      cases written' : truthy f.2.aliasName with
      | some name' =>
        rw [aliasAt_written written'] at same
        exact apart.1 e first f second name written (same ▸ written')
      | none =>
        rw [aliasAt_missing written'] at same
        exact absurd same (apart.2 e first f second name written written')
    | none =>
      rw [aliasAt_missing written] at same
      cases written' : truthy f.2.aliasName with
      | some name' =>
        rw [aliasAt_written written'] at same
        exact absurd same.symm (apart.2 f second e first name' written' written)
      | none =>
        rw [aliasAt_missing written'] at same
        have index : e.1 = f.1 := Nat.succ.inj (numbered_injective same)
        have entry := (getElem?_of_mem_counting first).2
        rw [index, (getElem?_of_mem_counting second).2, Option.some.injEq] at entry
        rw [entry]

/-- For a definition that loads, the aliases of distinct datasets are distinct. -/
def AliasesDistinct (env : BuildEnv) (d : Definition) : Prop :=
  ∀ loaded, SqlBuilder.loadDatasets env d = .ok loaded → ∀ u v l m, loaded.get u = some l →
    loaded.get v = some m → l.aliasName = m.aliasName → u = v

theorem aliasesDistinct_iff_apart {env : BuildEnv} {d : Definition} {loaded : Dict Nat SqlBuilder.Loaded}
    (loads : SqlBuilder.loadDatasets env d = .ok loaded) : AliasesDistinct env d ↔ Apart d.datasets := by
  have assigned : ∀ u, (loaded.get u).map SqlBuilder.Loaded.aliasName = d.aliasOf u := by
    intro u
    have whole := SqlBuilder.loadFrom_alias (SqlBuilder.loadDatasets_ok.mp loads).1 u
    simpa [Definition.aliasOf] using whole
  rw [← oneEach_iff_apart]
  constructor
  · intro distinct e first f second same
    have left : d.aliasOf e.2.id = some (aliasAt e.1 e.2) :=
      aliasFrom_eq_some_iff.mpr ⟨e.1, e.2, first, rfl, rfl⟩
    have right : d.aliasOf f.2.id = some (aliasAt f.1 f.2) :=
      aliasFrom_eq_some_iff.mpr ⟨f.1, f.2, second, rfl, rfl⟩
    rw [← assigned, Option.map_eq_some_iff] at left right
    obtain ⟨l, found, named⟩ := left
    obtain ⟨m, found', named'⟩ := right
    exact distinct loaded loads e.2.id f.2.id l m found found' (named.trans (same.trans named'.symm))
  · intro each loaded' loads' u v l m found found' same
    rw [loads, Except.ok.injEq] at loads'
    subst loads'
    have left := assigned u
    have right := assigned v
    rw [found, Option.map_some] at left
    rw [found', Option.map_some] at right
    obtain ⟨i, a, first, rfl, named⟩ := aliasFrom_eq_some_iff.mp left.symm
    obtain ⟨j, b, second, rfl, named'⟩ := aliasFrom_eq_some_iff.mp right.symm
    exact each (i, a) first (j, b) second (named.trans (same.trans named'.symm))

/-- Then each alias in a FROM clause is that of one table. -/
theorem fromItems_apart {env : BuildEnv} {raw : RawDefinition} {s : Sql.Select} {p : SqlaTable}
    (accepted : SqlBuilder.buildSelect env raw = .ok (s, p))
    (apart : Apart (normalizeDefinition raw).datasets) {c c' : Sql.TableClause} (mem : c ∈ s.fromItems)
    (mem' : c' ∈ s.fromItems) (same : c.aliasName = c'.aliasName) : c = c' := by
  obtain ⟨tables, first, a⟩ := SqlBuilder.buildSelect_ok.mp accepted
  have named : ∀ {c : Sql.TableClause}, c ∈ s.fromItems → ∃ u i e, c = SqlBuilder.clauseOf tables u ∧
      (i, e) ∈ counting 0 (normalizeDefinition raw).datasets ∧ e.id = u ∧ aliasAt i e = c.aliasName := by
    intro c mem
    obtain ⟨u, from_, rfl⟩ := (a.mem_fromItems_iff c).mp mem
    obtain ⟨b, found, clause, -⟩ := a.get_of_from from_
    obtain ⟨i, e, counts⟩ := aliasFrom_eq_some_iff.mp (SqlBuilder.aliasOf_of_get a.loads found)
    exact ⟨u, i, e, rfl, clause ▸ counts⟩
  obtain ⟨u, i, e, rfl, counts, rfl, alias_e⟩ := named mem
  obtain ⟨v, j, e', rfl, counts', rfl, alias_e'⟩ := named mem'
  have one : e.id = e'.id := by
    apply (oneEach_iff_apart _).mpr apart (i, e) counts (j, e') counts'
    rw [alias_e, alias_e', same]
  rw [one]

/-! ## Edits -/

/-- The definition that `handleSave` sends. -/
def saved (d : Definition) : Definition :=
  { d with datasets := d.datasets.mapIdx (fun index ds => { ds with aliasName := some (aliasAt index ds) }) }

/-- The number that a new dataset gets is not a written alias. -/
def NumberFree (entries : List DatasetEntry) : Prop :=
  ∀ e ∈ counting 0 entries, ∀ name ∈ truthy e.2.aliasName, name ≠ numbered (entries.length + 1)

instance (entries : List DatasetEntry) : Decidable (NumberFree entries) :=
  inferInstanceAs (Decidable (∀ e ∈ counting 0 entries, ∀ name ∈ truthy e.2.aliasName, _))

theorem apart_append_iff {entries : List DatasetEntry} {id : Nat}
    (new : id ∉ entries.map DatasetEntry.id) (apart : Apart entries) :
    Apart (entries ++ [⟨id, some (numbered (entries.length + 1))⟩]) ↔ NumberFree entries := by
  have last := counting_append 0 entries ⟨id, some (numbered (entries.length + 1))⟩ new
  have added : ∀ k, aliasAt k ⟨id, some (numbered (entries.length + 1))⟩ = numbered (entries.length + 1) :=
    fun k => PythonText.orElse_some (numbered_ne_empty _) _
  rw [← oneEach_iff_apart] at apart ⊢
  unfold OneEach NumberFree
  rw [last]
  constructor
  · intro distinct e mem name named clash
    have same : e.2.id = id := by
      apply distinct e (List.mem_append_left _ mem) (0 + entries.length, _)
        (List.mem_append_right _ List.mem_cons_self)
      rw [aliasAt_written named, added, clash]
    exact new (same ▸ List.mem_map_of_mem (mem_of_mem_counting mem))
  · intro free e first f second same
    have other : ∀ g ∈ counting 0 entries, aliasAt g.1 g.2 ≠ numbered (entries.length + 1) := by
      intro g mem clash
      cases named : truthy g.2.aliasName with
      | some name => exact free g mem name named (aliasAt_written named ▸ clash)
      | none =>
        rw [aliasAt_missing named] at clash
        have index := numbered_injective clash
        have bound := (List.getElem?_eq_some_iff.mp (getElem?_of_mem_counting mem).2).1
        omega
    rw [List.mem_append, List.mem_singleton] at first second
    cases first with
    | inl there =>
      cases second with
      | inl there' => exact apart e there f there' same
      | inr here' =>
        rw [here', added] at same
        exact absurd same (other e there)
    | inr here =>
      cases second with
      | inl there' =>
        rw [here, added] at same
        exact absurd same.symm (other f there')
      | inr here' => rw [here, here']

/-- Only the entries without an alias depend on where they stand. -/
theorem apart_filter_iff {entries : List DatasetEntry} {id : Nat} (apart : Apart entries) :
    Apart (entries.filter (fun item => item.id ≠ id)) ↔
      NumbersFree (entries.filter (fun item => item.id ≠ id)) := by
  refine ⟨fun rest => rest.2, fun free => ⟨?_, free⟩⟩
  intro e first f second
  obtain ⟨i, there⟩ := mem_counting_of_filter first 0
  obtain ⟨j, there'⟩ := mem_counting_of_filter second 0
  exact apart.1 (i, e.2) there (j, f.2) there'

/-- Saving writes the missing aliases down. -/
theorem counting_mapIdx (index : Nat) (entries : List DatasetEntry) :
    counting index (entries.mapIdx (fun i ds => { ds with aliasName := some (aliasAt (index + i) ds) })) =
      (counting index entries).map (fun e => (e.1, { e.2 with aliasName := some (aliasAt e.1 e.2) })) := by
  induction entries generalizing index with
  | nil => rfl
  | cons entry rest ih =>
    have ids : (rest.mapIdx (fun i ds => { ds with aliasName := some (aliasAt (index + 1 + i) ds) })).map
        DatasetEntry.id = rest.map DatasetEntry.id := by
      apply List.ext_getElem?
      intro i
      simp only [List.getElem?_map, List.getElem?_mapIdx, Option.map_map]
      rfl
    have shift : (fun (i : Nat) (ds : DatasetEntry) =>
          { ds with aliasName := some (aliasAt (index + (i + 1)) ds) }) =
        fun i ds => { ds with aliasName := some (aliasAt (index + 1 + i) ds) } := by
      funext i ds
      rw [Nat.add_assoc, Nat.add_comm 1 i]
    rw [List.mapIdx_cons, shift, Nat.add_zero, counting, counting, ids, ih]
    split <;> rfl

theorem apart_saved {d : Definition} (apart : Apart d.datasets) : Apart (saved d).datasets := by
  rw [← oneEach_iff_apart] at apart ⊢
  have all := counting_mapIdx 0 d.datasets
  simp only [Nat.zero_add] at all
  have kept : ∀ i ds, aliasAt i { ds with aliasName := some (aliasAt i ds) } = aliasAt i ds := by
    intro i ds
    cases named : truthy ds.aliasName with
    | some name =>
      rw [aliasAt_written named]
      exact PythonText.orElse_some (PythonText.truthy_eq_some named).2 _
    | none =>
      rw [aliasAt_missing named]
      exact PythonText.orElse_some (numbered_ne_empty _) _
  intro e first f second same
  simp only [saved, all] at first second
  obtain ⟨e, mem, rfl⟩ := List.mem_map.mp first
  obtain ⟨f, mem', rfl⟩ := List.mem_map.mp second
  rw [kept, kept] at same
  exact apart e mem f mem' same

/-! ## Runs -/

/-- What an edit needs of the page to keep the aliases apart. -/
def KeepsAliases (p : Page) : Edit → Prop
  | .load raw => Apart (opened raw).datasets
  | .selectDataset id => id ∈ p.definition.datasets.map DatasetEntry.id ∨ NumberFree p.definition.datasets
  | .closeDataset id => NumbersFree (p.definition.datasets.filter (fun item => item.id ≠ id))
  | .finishUpload upload id => ∀ seen, p.uploads[upload]? = some seen →
      id ∈ seen.map DatasetEntry.id ∨ NumberFree seen
  | _ => True

/-- The aliases on the page are apart, and were when each upload was started. -/
def Tidy (p : Page) : Prop := Apart p.definition.datasets ∧ ∀ seen ∈ p.uploads, Apart seen

theorem apart_handleSelectDataset_iff {d : Definition} {seen : List DatasetEntry} {id : Nat}
    (apart : Apart d.datasets) (before : Apart seen) : Apart (handleSelectDataset seen id d).datasets ↔
      id ∈ seen.map DatasetEntry.id ∨ NumberFree seen := by
  have present : seen.any (fun ds => ds.id = id) ↔ id ∈ seen.map DatasetEntry.id := by simp
  unfold handleSelectDataset
  by_cases known : id ∈ seen.map DatasetEntry.id
  · rw [if_pos (present.mpr known)]
    exact iff_of_true apart (.inl known)
  · rw [if_neg (fun there => known (present.mp there))]
    simp only [known, false_or]
    exact apart_append_iff known before

/-- An edit on a tidy page keeps the aliases apart exactly under its condition. -/
theorem apart_step_iff (repr : String → String) (p : Page) (e : Edit) (tidy : Tidy p) :
    Apart (step repr p e).definition.datasets ↔ KeepsAliases p e := by
  cases e with
  | load raw => rfl
  | selectDataset id => exact apart_handleSelectDataset_iff tidy.1 tidy.1
  | closeDataset id => exact apart_filter_iff tidy.1
  | finishUpload upload id =>
    simp only [step, KeepsAliases]
    cases found : p.uploads[upload]? with
    | none =>
      refine iff_of_true tidy.1 (fun seen there => ?_)
      cases there
    | some seen =>
      have before := tidy.2 seen (List.mem_of_getElem? found)
      simp only [Option.some.injEq, forall_eq']
      exact apart_handleSelectDataset_iff tidy.1 before
  | _ =>
    -- the other edits leave the datasets alone
    refine iff_of_true ?_ trivial
    rw [step_datasets repr p (by rfl)]
    exact tidy.1

theorem uploads_step (repr : String → String) (p : Page) (e : Edit) :
    (step repr p e).uploads ⊆ p.definition.datasets :: p.uploads := by
  have same : p.uploads ⊆ p.definition.datasets :: p.uploads := List.subset_cons_self _ _
  cases e with
  | startUpload =>
    intro seen mem
    simpa [step, or_comm] using mem
  | finishUpload upload id =>
    simp only [step]
    split
    · exact same
    · exact List.Subset.trans List.eraseIdx_subset same
  | addFilter =>
    simp only [step, addFilter]
    split <;> exact same
  | addRelationship =>
    simp only [step, addRelationship]
    split <;> exact same
  | addOrder option =>
    simp only [step]
    split <;> exact same
  | _ => exact same

theorem tidy_step (repr : String → String) (p : Page) (e : Edit) (tidy : Tidy p)
    (keeps : KeepsAliases p e) : Tidy (step repr p e) := by
  refine ⟨(apart_step_iff repr p e tidy).mpr keeps, fun seen mem => ?_⟩
  cases List.mem_cons.mp (uploads_step repr p e mem) with
  | inl now => exact now ▸ tidy.1
  | inr before => exact tidy.2 seen before

/-- The aliases that a definition is given when it is loaded are distinct exactly where its
entries are apart, and no statement then has two tables under one alias. In a run whose
edits meet their conditions they are so for the definition of every state that is reached,
and for what is saved of it. -/
theorem aliases_distinct (env : BuildEnv) :
    (∀ d loaded, SqlBuilder.loadDatasets env d = .ok loaded →
      (AliasesDistinct env d ↔ Apart d.datasets)) ∧
    (∀ raw s p, SqlBuilder.buildSelect env raw = .ok (s, p) → Apart (normalizeDefinition raw).datasets →
      ∀ c ∈ s.fromItems, ∀ c' ∈ s.fromItems, c.aliasName = c'.aliasName → c = c') ∧
    ∀ repr p run, Tidy p → Runs.Each (step repr) KeepsAliases p run → ∀ before, before <+: run →
      AliasesDistinct env (Runs.after (step repr) p before).definition ∧
        AliasesDistinct env (saved (Runs.after (step repr) p before).definition) := by
  have distinct : ∀ {d : Definition}, Apart d.datasets → AliasesDistinct env d := by
    intro d apart loaded loads
    exact (aliasesDistinct_iff_apart loads).mpr apart loaded loads
  refine ⟨fun d loaded loads => aliasesDistinct_iff_apart loads, ?_, ?_⟩
  · intro raw s p accepted apart c mem c' mem' same
    exact fromItems_apart accepted apart mem mem' same
  · intro repr p run tidy keeps before reached
    obtain ⟨rest, rfl⟩ := reached
    have kept := keeps.of_append.of_invariant (I := Tidy) (Q := KeepsAliases)
      (fun p e tidy keeps => ⟨keeps, tidy_step repr p e tidy keeps⟩) tidy
    exact ⟨distinct kept.2.1, distinct (apart_saved kept.2.1)⟩

/-! ## Closing and selecting -/

/-- Every dataset is a table with one column. -/
def plainTables : BuildEnv where
  find id := some ⟨1, none, none, s!"t{id}", none, [], [], none⟩
  reflect _ := some ["id"]
  reflect_ne _ _ h := by simp at h; simp [← h]

/-- One column of each of two datasets; the second has no alias. -/
def twoTables (first : String) : RawDefinition where
  version := none
  datasets := some [⟨1, some first⟩, ⟨2, none⟩]
  relationships := some [⟨1, "id", 2, "id", none⟩]
  columns := some [⟨1, "id", none⟩, ⟨2, "id", some "other"⟩]
  metrics := none
  groupBy := none
  filters := none
  orderBy := none
  limit := none

/-- The last of two datasets is closed, and another is selected. -/
def reselected : List Edit := [.selectDataset 1, .selectDataset 2, .closeDataset 2, .selectDataset 3]

theorem reselected_distinct :
    (AliasesDistinct plainTables (normalizeDefinition (twoTables "d1")) ↔
      Apart (normalizeDefinition (twoTables "d1")).datasets) ∧
    (∃ s p, SqlBuilder.buildSelect plainTables (twoTables "d1") = .ok (s, p) ∧
      ∀ c ∈ s.fromItems, ∀ c' ∈ s.fromItems, c.aliasName = c'.aliasName → c = c') ∧
    AliasesDistinct plainTables (Runs.after (step id) Page.start reselected).definition ∧
      AliasesDistinct plainTables (saved (Runs.after (step id) Page.start reselected).definition) := by
  have all := aliases_distinct plainTables
  have tidy : Tidy Page.start := ⟨by decide, fun _ mem => nomatch mem⟩
  have closed : NumbersFree [⟨1, some (numbered 1)⟩] := by decide
  have keeps : Runs.Each (step id) KeepsAliases Page.start reselected :=
    ⟨.inr (by decide), .inr (by decide), closed, .inr (by decide), trivial⟩
  obtain ⟨s, p, built⟩ : ∃ s p, SqlBuilder.buildSelect plainTables (twoTables "d1") = .ok (s, p) :=
    ⟨_, _, rfl⟩
  refine ⟨all.1 _ _ rfl, ⟨s, p, built, all.2.1 _ s p built (by decide)⟩, ?_⟩
  exact all.2.2 id Page.start reselected tidy keeps reselected List.prefix_rfl

/-- The first of two is closed, and a third gets the number of the second. -/
def renumbered : List Edit := [.selectDataset 1, .selectDataset 2, .closeDataset 1, .selectDataset 3]

theorem renumbered_clash :
    ¬AliasesDistinct plainTables (Runs.after (step id) Page.start renumbered).definition ∧
    ∃ s p, SqlBuilder.buildSelect plainTables (twoTables "d2") = .ok (s, p) ∧
      s.fromItems.map Sql.TableClause.aliasName = ["d2", "d2"] := by
  refine ⟨fun distinct => ?_, _, _, rfl, by decide⟩
  have same := distinct _ rfl 2 3 _ _ rfl rfl (by decide)
  exact absurd same (by decide)

end XpBuilder.Designer
