import Mathlib.Data.List.Perm.Subperm
import XpBuilder.Staging.Authorisation

/-! The names under which the three requests find a table and its columns. Each
request cleans names its own way; they meet in the same place for names that all
of the cleaners leave alone, up to the case of letters, which the server ignores. -/

namespace XpBuilder
open PythonText (truthy lower strip isSlugChar)

namespace PythonText

/-- A fact about ASCII characters, checked one by one. -/
theorem ascii_induction {p : Char → Prop} [DecidablePred p]
    (h : ∀ n < 128, p (Char.ofNat n)) (c : Char) (ascii : c.toNat < 128) : p c := by
  have same : Char.ofNat c.toNat = c := Char.ofNat_toNat c
  rw [← same]
  exact h c.toNat ascii

theorem ascii_of_isSlugChar {c : Char} (h : isSlugChar c) : c.toNat < 128 := by
  simp only [isSlugChar, Bool.or_eq_true, Bool.and_eq_true, decide_eq_true_eq, beq_iff_eq,
    Char.le_def, UInt32.le_iff_toNat_le] at h
  have small : c.val.toNat < 128 := by
    rcases h with ((⟨-, h⟩ | ⟨-, h⟩) | ⟨-, h⟩) | h
    · exact lt_of_le_of_lt h (by decide)
    · exact lt_of_le_of_lt h (by decide)
    · exact lt_of_le_of_lt h (by decide)
    · rw [h]; decide
  exact small

/-- A letter, digit or underscore in lower case. -/
def isNameChar (c : Char) : Bool := isSlugChar c && !('A' ≤ c && c ≤ 'Z')

theorem slug_toLower {c : Char} (h : isSlugChar c) :
    isNameChar c.toLower ∧ lowerChar c = [c.toLower] ∧ isSpace c = false := by
  have all : isSlugChar c → isNameChar c.toLower ∧ lowerChar c = [c.toLower] ∧ isSpace c = false := by
    refine ascii_induction (p := fun c => isSlugChar c → isNameChar c.toLower ∧
      lowerChar c = [c.toLower] ∧ isSpace c = false) ?_ c (ascii_of_isSlugChar h)
    decide +kernel
  exact all h

theorem name_toLower {c : Char} (h : isNameChar c) : c.toLower = c := by
  have slug : isSlugChar c := (Bool.and_eq_true_iff.mp h).1
  have all : isNameChar c → c.toLower = c := by
    refine ascii_induction (p := fun c => isNameChar c → c.toLower = c) ?_ c
      (ascii_of_isSlugChar slug)
    decide +kernel
  exact all h

def IsSlug (s : String) : Prop := ∀ c ∈ s.toList, isSlugChar c

def IsName (s : String) : Prop := ∀ c ∈ s.toList, isNameChar c

instance (s : String) : Decidable (IsName s) := List.decidableBAll (fun c => isNameChar c = true) s.toList

theorem lower_toList {s : String} (h : IsSlug s) : (lower s).toList = s.toList.map Char.toLower := by
  have each : ∀ cs : List Char, (∀ c ∈ cs, isSlugChar c) →
      cs.flatMap lowerChar = cs.map Char.toLower := by
    intro cs slug
    induction cs with
    | nil => rfl
    | cons c rest ih =>
      rw [List.flatMap_cons, (slug_toLower (slug c List.mem_cons_self)).2.1,
        ih (fun b mem => slug b (List.mem_cons_of_mem c mem))]
      rfl
  simp only [lower, String.toList_ofList]
  exact each s.toList h

theorem isName_lower {s : String} (h : IsSlug s) : IsName (lower s) := by
  intro c mem
  rw [lower_toList h] at mem
  obtain ⟨b, inside, rfl⟩ := List.mem_map.mp mem
  exact (slug_toLower (h b inside)).1

theorem IsName.isSlug {s : String} (h : IsName s) : IsSlug s :=
  fun c mem => (Bool.and_eq_true_iff.mp (h c mem)).1

theorem lower_of_isName {s : String} (h : IsName s) : lower s = s := by
  apply String.toList_injective
  rw [lower_toList h.isSlug]
  conv_rhs => rw [← List.map_id s.toList]
  exact List.map_congr_left (fun c mem => name_toLower (h c mem))

theorem strip_of_isSlug {s : String} (h : IsSlug s) : strip s = s := by
  have kept : ∀ cs : List Char, (∀ c ∈ cs, isSlugChar c) → cs.dropWhile isSpace = cs := by
    intro cs slug
    cases cs with
    | nil => rfl
    | cons c rest => simp [(slug_toLower (slug c List.mem_cons_self)).2.2]
  apply String.toList_injective
  simp only [strip, stripChars, String.toList_ofList]
  rw [kept _ h, kept _ (fun c mem => h c (List.mem_reverse.mp mem)), List.reverse_reverse]

end PythonText

namespace TableSchema
open PythonText

theorem cleanName_isName (s : String) : IsName (cleanName s) := by
  intro c mem
  simp only [cleanName, String.toList_ofList, List.mem_map] at mem
  obtain ⟨b, -, rfl⟩ := mem
  split
  · assumption
  · decide

theorem cleanName_of_isSlug {s : String} (h : IsSlug s) : cleanName s = lower s := by
  have names := isName_lower h
  apply String.toList_injective
  simp only [cleanName, String.toList_ofList]
  conv_rhs => rw [← List.map_id (lower s).toList]
  apply List.map_congr_left
  intro c mem
  exact if_pos (names c mem)

theorem quotedName_eq_self_iff (s : String) : quotedName s = s ↔ IsSlug s := by
  unfold quotedName IsSlug
  constructor
  · intro same
    have filtered := congrArg String.toList same
    rw [String.toList_ofList] at filtered
    exact List.filter_eq_self.mp filtered
  · intro slug
    rw [List.filter_eq_self.mpr slug, String.ofList_toList]

theorem quotedName_cleanName (s : String) : quotedName (cleanName s) = cleanName s :=
  (quotedName_eq_self_iff _).mpr (cleanName_isName s).isSlug

end TableSchema

namespace Staging
open PythonText TableSchema

/-! ## Underscores against repetition -/

/-- The name with `k` underscores after it. -/
def padded (name : String) (k : Nat) : String := name ++ String.ofList (List.replicate k '_')

theorem padded_toList (name : String) (k : Nat) :
    (padded name k).toList = name.toList ++ List.replicate k '_' := by
  simp [padded]

@[simp] theorem padded_zero (name : String) : padded name 0 = name := by
  apply String.toList_injective
  simp [padded_toList]

theorem padded_underscore (name : String) (k : Nat) : padded (name ++ "_") k = padded name (k + 1) := by
  apply String.toList_injective
  simp [padded_toList, List.replicate_succ]

theorem padded_injective (name : String) : Function.Injective (padded name) := by
  intro j k same
  have lengths := congrArg (fun s => s.toList.length) same
  simpa [padded_toList] using lengths

/-- One of the first names is not taken, since they are more than the taken ones. -/
theorem exists_padded_not_mem (existing : List String) (name : String) :
    ∃ k < existing.length.succ, padded name k ∉ existing := by
  by_contra all
  have taken : (List.range existing.length.succ).map (padded name) ⊆ existing := by
    intro s mem
    obtain ⟨k, inside, rfl⟩ := List.mem_map.mp mem
    by_contra free
    exact all ⟨k, List.mem_range.mp inside, free⟩
  have distinct : ((List.range existing.length.succ).map (padded name)).Nodup :=
    List.nodup_range.map (padded_injective name)
  have lengths := (distinct.subperm taken).length_le
  simp at lengths

theorem freshen_eq {existing : List String} {fuel : Nat} {name : String}
    (enough : ∃ k < fuel, padded name k ∉ existing) :
    ∃ k, freshen existing fuel name = padded name k ∧ padded name k ∉ existing ∧
      ∀ j < k, padded name j ∈ existing := by
  induction fuel generalizing name with
  | zero =>
    obtain ⟨k, impossible, -⟩ := enough
    omega
  | succ fuel ih =>
    by_cases taken : name ∈ existing
    · obtain ⟨k, bound, free⟩ := enough
      cases k with
      | zero => exact absurd taken (by simpa using free)
      | succ k =>
        obtain ⟨m, result, fresh, earlier⟩ := @ih (name ++ "_")
          ⟨k, by omega, by rwa [padded_underscore]⟩
        refine ⟨m + 1, ?_, by rwa [← padded_underscore], fun j below => ?_⟩
        · rw [freshen, if_pos taken, result, padded_underscore]
        · cases j with
          | zero => simpa using taken
          | succ j =>
            rw [← padded_underscore]
            exact earlier j (by omega)
    · refine ⟨0, ?_, by simpa using taken, fun j below => by omega⟩
      rw [freshen, if_neg taken, padded_zero]

/-- The stem with the fewest underscores that make it a new name. -/
theorem normalizeColumnName_eq (name : String) (existing : List String) :
    ∃ k, normalizeColumnName name existing = padded (columnStem name) k ∧
      padded (columnStem name) k ∉ existing ∧ ∀ j < k, padded (columnStem name) j ∈ existing :=
  freshen_eq (exists_padded_not_mem existing (columnStem name))

/-! ## Stems -/

theorem stripTrailing_cons {c : Char} (h : c ≠ '_') (cs : List Char) :
    stripTrailing (c :: cs) = c :: stripTrailing cs := by
  unfold stripTrailing
  rw [List.reverse_cons, List.dropWhile_append]
  split
  · rename_i dropped
    have nothing : cs.reverse.dropWhile (· = '_') = [] := List.isEmpty_iff.mp dropped
    simp [nothing, h]
  · simp

theorem mem_of_mem_stripTrailing {c : Char} {cs : List Char} (h : c ∈ stripTrailing cs) : c ∈ cs := by
  unfold stripTrailing at h
  exact List.mem_reverse.mp ((List.dropWhile_sublist _).subset (List.mem_reverse.mp h))

theorem startsWithLetter_iff (s : String) :
    startsWithLetter s ↔ ∃ c rest, s.toList = c :: rest ∧ isAsciiAlpha c := by
  unfold startsWithLetter
  cases s.toList with
  | nil => simp [isAsciiAlpha]
  | cons c rest => simp

theorem columnStem_isName (name : String) : IsName (columnStem name) := by
  intro c mem
  simp only [columnStem, String.toList_ofList] at mem
  have inside := List.mem_of_mem_take (mem_of_mem_stripTrailing mem)
  split_ifs at inside
  · exact (by decide : IsName "col") c inside
  · exact cleanName_isName _ c inside
  · rw [String.toList_append, List.mem_append] at inside
    rcases inside with prefix' | rest
    · exact (by decide : IsName "col_") c prefix'
    · exact cleanName_isName _ c rest

theorem columnStem_startsWithLetter (name : String) : startsWithLetter (columnStem name) := by
  have cut : ∀ s : String, startsWithLetter s →
      startsWithLetter (String.ofList (stripTrailing (s.toList.take 60))) := by
    intro s letter
    obtain ⟨c, rest, shape, alpha⟩ := (startsWithLetter_iff s).mp letter
    have other : c ≠ '_' := by
      rintro rfl
      exact absurd alpha (by decide)
    rw [startsWithLetter_iff, shape, List.take_succ_cons, stripTrailing_cons other]
    exact ⟨c, _, String.toList_ofList, alpha⟩
  unfold columnStem
  apply cut
  split_ifs with empty letter
  · decide
  · exact letter
  · rw [startsWithLetter_iff]
    exact ⟨'c', _, String.toList_append, by decide⟩

theorem padded_isName {name : String} (h : IsName name) (k : Nat) : IsName (padded name k) := by
  intro c mem
  rw [padded_toList, List.mem_append] at mem
  rcases mem with inside | underscore
  · exact h c inside
  · rw [List.eq_of_mem_replicate underscore]
    decide

theorem normalizeColumnName_isName (name : String) (existing : List String) :
    IsName (normalizeColumnName name existing) := by
  obtain ⟨k, result, -⟩ := normalizeColumnName_eq name existing
  rw [result]
  exact padded_isName (columnStem_isName name) k

/-! ## Names that no cleaner changes -/

/-- The first 60 characters without trailing underscores. -/
def nameStem (n : String) : String :=
  String.ofList (stripTrailing ((lower n).toList.take 60))

/-- A name of letters, digits and underscores that starts with a letter and is new.
Past its stem it has underscores only, and the names with fewer of them came before. -/
structure PlainName (earlier : List String) (n : String) : Prop where
  slug : IsSlug n
  letter : startsWithLetter n
  new : lower n ∉ earlier
  stem : ∃ k, lower n = padded (nameStem n) k ∧ ∀ j < k, padded (nameStem n) j ∈ earlier

/-- Plain names, each after those before it. -/
def PlainNames : List String → List String → Prop
  | _, [] => True
  | earlier, n :: rest => PlainName earlier n ∧ PlainNames (lower n :: earlier) rest

/-- The column made for a source column, looked up under its name, is the column `w`. -/
def SameColumn (n w : String) : Prop := quotedName n = n ∧ lower w = lower (quotedName n)

theorem startsWithLetter_lower_iff {n : String} (slug : IsSlug n) :
    startsWithLetter (lower n) ↔ startsWithLetter n := by
  have alpha : ∀ c, isSlugChar c → (isAsciiAlpha c.toLower ↔ isAsciiAlpha c) := by
    intro c h
    have all : isSlugChar c → (isAsciiAlpha c.toLower = isAsciiAlpha c) := by
      refine ascii_induction (p := fun c => isSlugChar c →
        (isAsciiAlpha c.toLower = isAsciiAlpha c)) ?_ c (ascii_of_isSlugChar h)
      decide +kernel
    rw [all h]
  unfold startsWithLetter
  rw [lower_toList slug]
  unfold IsSlug at slug
  generalize n.toList = cs at slug
  cases cs with
  | nil => rfl
  | cons c rest => exact alpha c (slug c List.mem_cons_self)

theorem columnStem_of_plain {n : String} (slug : IsSlug n) (letter : startsWithLetter n) :
    columnStem n = nameStem n := by
  have lowered : startsWithLetter (lower n) := (startsWithLetter_lower_iff slug).mpr letter
  have nonempty : lower n ≠ "" := by
    intro empty
    rw [empty] at lowered
    exact absurd lowered (by decide)
  simp [columnStem, nameStem, strip_of_isSlug slug, cleanName_of_isSlug slug, nonempty, lowered]

theorem sameColumn_iff_plainName (n : String) (earlier : List String) :
    SameColumn n (normalizeColumnName n earlier) ↔ PlainName earlier n := by
  obtain ⟨k, result, fresh, taken⟩ := normalizeColumnName_eq n earlier
  have lowered := lower_of_isName (normalizeColumnName_isName n earlier)
  constructor
  · rintro ⟨same, written⟩
    have slug := (quotedName_eq_self_iff n).mp same
    rw [same, lowered] at written
    have letter : startsWithLetter n := by
      rw [← startsWithLetter_lower_iff slug, ← written, result, startsWithLetter_iff]
      obtain ⟨c, rest, shape, alpha⟩ :=
        (startsWithLetter_iff _).mp (columnStem_startsWithLetter n)
      rw [padded_toList, shape]
      exact ⟨c, _, rfl, alpha⟩
    rw [columnStem_of_plain slug letter] at result fresh taken
    rw [result] at written
    exact ⟨slug, letter, written ▸ fresh, k, written.symm, taken⟩
  · rintro ⟨slug, letter, new, m, stem, before⟩
    have same := (quotedName_eq_self_iff n).mpr slug
    rw [columnStem_of_plain slug letter] at result fresh taken
    refine ⟨same, ?_⟩
    rw [same, lowered, result, stem]
    rcases Nat.lt_trichotomy k m with less | equal | more
    · exact absurd (before k less) fresh
    · rw [equal]
    · exact absurd (taken m more) (stem ▸ new)

theorem forall₂_sameColumn_iff (names earlier : List String) :
    List.Forall₂ SameColumn names (normalizeColumns earlier names) ↔ PlainNames earlier names := by
  induction names generalizing earlier with
  | nil => simp [normalizeColumns, PlainNames]
  | cons n rest ih =>
    simp only [normalizeColumns, List.forall₂_cons, PlainNames, sameColumn_iff_plainName, ih]
    apply and_congr_right
    intro plain
    have same := (sameColumn_iff_plainName n earlier).mpr plain
    have written : normalizeColumnName n earlier = lower n := by
      rw [← lower_of_isName (normalizeColumnName_isName n earlier), same.2, same.1]
    rw [written]

/-! ## The place of the table -/

/-- The schema that a qualified name spells out, else that of the connection. -/
def statedSchema (d : Database) (schema : Option String) : Option String :=
  ((truthy schema).map quotedName).or (d.engine.schemaOf none)

/-- All three requests address one table: where the statements of `prepare_table` and
`ensure_indexes` go is where they inspect and where an upload writes; and each
source column has one column there. -/
structure NamesAgree (d : Database) (table : String) (schema : Option String) (stamp : String)
    (columns : List String) : Prop where
  inspected : d.placeOf schema (cleanName table) = d.target (truthy schema) (cleanName table)
  uploaded : ∀ u : UploadRequest, u.tableName = some table → u.schema = schema →
    u.place d stamp = d.target (truthy schema) (cleanName table)
  columns : List.Forall₂ SameColumn columns (normalizeColumns [] columns)

/-- Names that all cleaners leave alone. -/
structure NamesPlain (d : Database) (table : String) (schema : Option String)
    (columns : List String) : Prop where
  inspected : schema.or (d.engine.schemaOf schema) = statedSchema d schema
  connected : d.engine.schemaOf schema = statedSchema d schema
  table : startsWithLetter (cleanName table)
  columns : PlainNames [] columns

theorem stagingName_eq_cleanName_iff (table stamp : String) :
    stagingName (some table) stamp = cleanName table ↔ startsWithLetter (cleanName table) := by
  unfold stagingName
  by_cases empty : table = ""
  · subst empty
    have nothing : cleanName "" = "" := by decide
    have unlettered : startsWithLetter "" = false := by decide
    have absent : truthy (some "") = none := by decide
    simp only [absent, nothing, unlettered]
    refine iff_of_false ?_ (by simp)
    intro same
    have lengths := congrArg (fun s => s.toList.length) same
    simp at lengths
  · have there : truthy (some table) = some table := by simp [truthy, empty]
    simp only [there]
    split_ifs with letter
    · exact iff_of_true rfl letter
    · refine iff_of_false ?_ letter
      intro same
      have lengths := congrArg (fun s => s.toList.length) same
      simp only [String.toList_append, List.length_append] at lengths
      have three : "xp_".toList.length = 3 := by decide
      omega

/-- The requests agree on the table and its columns exactly on plain names. -/
theorem namesAgree_iff_namesPlain (d : Database) (table : String) (schema : Option String)
    (stamp : String) (columns : List String) :
    NamesAgree d table schema stamp columns ↔ NamesPlain d table schema columns := by
  have target : d.target (truthy schema) (cleanName table) =
      ⟨d.server, statedSchema d schema, cleanName table⟩ := by
    simp only [Database.target, quotedName_cleanName]
    rfl
  have inspected : d.placeOf schema (cleanName table) = d.target (truthy schema) (cleanName table) ↔
      schema.or (d.engine.schemaOf schema) = statedSchema d schema := by
    rw [target]
    simp [Database.placeOf]
  have uploaded : ∀ u : UploadRequest, u.tableName = some table → u.schema = schema →
      (u.place d stamp = d.target (truthy schema) (cleanName table) ↔
        d.engine.schemaOf schema = statedSchema d schema ∧ startsWithLetter (cleanName table)) := by
    intro u name named
    rw [target, UploadRequest.place, name, named, Place.mk.injEq, stagingName_eq_cleanName_iff]
    simp
  constructor
  · intro agree
    obtain ⟨connected, letter⟩ := (uploaded ⟨"", "", some table, schema, ""⟩ rfl rfl).mp
      (agree.uploaded _ rfl rfl)
    exact ⟨inspected.mp agree.inspected, connected, letter,
      (forall₂_sameColumn_iff columns []).mp agree.columns⟩
  · intro plain
    exact ⟨inspected.mpr plain.inspected,
      fun u name named => (uploaded u name named).mpr ⟨plain.connected, plain.table⟩,
      (forall₂_sameColumn_iff columns []).mpr plain.columns⟩

/-- An upload of a table whose name starts with a digit goes to another table. -/
theorem digitName_not_agree :
    ¬NamesAgree ⟨1, true, willing⟩ "2024_grades" none "20250101_000000" ["id"] := by
  intro agree
  have apart := agree.uploaded ⟨"", "", some "2024_grades", none, ""⟩ rfl rfl
  have written : stagingName (some "2024_grades") "20250101_000000" = "xp_2024_grades" := by decide
  have prepared : cleanName "2024_grades" = "2024_grades" := by decide
  have names := congrArg Place.name apart
  simp [UploadRequest.place, Database.target, written, prepared] at names
  exact absurd names (by decide)

end Staging
end XpBuilder
