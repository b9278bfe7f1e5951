import Mathlib.Data.List.Nodup
import XpBuilder.Library.Edits

/-! The patches of the vendored source, and the script that applies them while the image is
built. A hunk goes where its old lines stand at its place, without fuzz, and a patch goes
where all its hunks do; `-R` exchanges old and new. Whether a patch is there already the script
finds out by trying. -/

namespace XpBuilder.Patches

/-! ## Patches -/

/-- The place of a hunk is given by the lines between it and the hunk before, or the beginning of
the file. In a unified diff they are as many in the old file as in the new one. -/
structure Hunk where
  gap : Nat
  old : List String
  new : List String

def Hunk.reverse (h : Hunk) : Hunk := ⟨h.gap, h.new, h.old⟩

def applyHunks : List Hunk → List String → Option (List String)
  | [], lines => some lines
  | h :: rest, lines =>
    if h.gap ≤ lines.length ∧ h.old <+: lines.drop h.gap then
      (applyHunks rest (lines.drop (h.gap + h.old.length))).map (fun below => lines.take h.gap ++ h.new ++ below)
    else none

/-- What a patch does to a file. -/
inductive Change where
  | edit (hunks : List Hunk)
  | create (lines : List String)
  | delete (lines : List String)

def Change.reverse : Change → Change
  | edit hunks => edit (hunks.map Hunk.reverse)
  | create lines => delete lines
  | delete lines => create lines

/-- The file that a change makes of another one; `none` inside is no file. -/
def Change.apply : Change → Option (List String) → Option (Option (List String))
  | edit hunks, some lines => (applyHunks hunks lines).map some
  | edit _, none => none
  | create lines, none => some (some lines)
  | create _, some _ => none
  | delete lines, some there => if there = lines then some none else none
  | delete _, none => none

structure Section where
  path : String
  change : Change

/-- A diff has one section for each file that differs. -/
structure Patch where
  sections : List Section
  distinct : (sections.map Section.path).Nodup

def Patch.paths (p : Patch) : List String := p.sections.map Section.path

def Section.reverse (s : Section) : Section := ⟨s.path, s.change.reverse⟩

/-- `-R` -/
def Patch.reverse (p : Patch) : Patch where
  sections := p.sections.map Section.reverse
  distinct := by
    rw [List.map_map]
    exact p.distinct

/-- The source tree, file by file. -/
abbrev Tree := String → Option (List String)

def Section.apply (t : Tree) (s : Section) : Option Tree :=
  (s.change.apply (t s.path)).map (Function.update t s.path)

def Patch.apply (p : Patch) (t : Tree) : Option Tree := p.sections.foldlM Section.apply t

/-! ## `apply.sh` -/

structure PatchFile where
  base : String
  patch : Patch

/-- What the script has between two patches. -/
structure Progress where
  tree : Tree
  count : Nat
  printed : List String

def applying (base : String) : String := "XPBuilder: applying patch " ++ base

def skipping (base : String) : String := "XPBuilder: patch already applied, skipping " ++ base

def failed (base : String) : String :=
  "XPBuilder: FAILED to apply patch " ++ base ++ " (does it apply cleanly to a pristine 6.1.0 tree?)"

def applied (count : Nat) : String := "XPBuilder: applied " ++ toString count ++ " patch(es)"

/-- The body of the loop. A dry run succeeds where the patch does. -/
def tryPatch (s : Progress) (f : PatchFile) : Except String Progress :=
  match f.patch.apply s.tree with
  | some tree => .ok ⟨tree, s.count + 1, s.printed ++ [applying f.base]⟩
  | none =>
    if (f.patch.reverse.apply s.tree).isSome then .ok { s with printed := s.printed ++ [skipping f.base] }
    else .error (failed f.base)

def tryPatches (s : Progress) (files : List PatchFile) : Except String Progress := files.foldlM tryPatch s

/-- The tree that the script leaves and what it prints, or the message it stops with. -/
def applySh (files : List PatchFile) (tree : Tree) : Except String (Tree × List String) := do
  let s ← tryPatches ⟨tree, 0, []⟩ files
  return (s.tree, s.printed ++ [applied s.count])

/-! ## What it is for -/

/-- The patches one after another, each once. -/
def applyInTurn (files : List PatchFile) (tree : Tree) : Option Tree :=
  files.foldlM (fun t f => f.patch.apply t) tree

/-- The script succeeds on the tree and leaves it as it is, with any beginning of the series. -/
def ChangesNothing (files : List PatchFile) (tree : Tree) : Prop :=
  ∀ done, done <+: files → (applySh done tree).toOption.map Prod.fst = some tree

/-- The patch is recognised in the tree: it does not go, and its reverse does. Or it goes and does
nothing. -/
def Recognised (tree : Tree) (f : PatchFile) : Prop :=
  (f.patch.apply tree = none ∧ (f.patch.reverse.apply tree).isSome) ∨ f.patch.apply tree = some tree

/-! ## A patch and its reverse -/

theorem applyHunks_cons {h : Hunk} {rest : List Hunk} {lines out : List String} :
    applyHunks (h :: rest) lines = some out ↔
      ∃ above below tail, above.length = h.gap ∧ lines = above ++ h.old ++ below ∧
        applyHunks rest below = some tail ∧ out = above ++ h.new ++ tail := by
  rw [applyHunks]
  constructor
  · intro went
    split at went
    · rename_i place
      obtain ⟨tail, later, rfl⟩ := Option.map_eq_some_iff.mp went
      obtain ⟨below, found⟩ := place.2
      refine ⟨lines.take h.gap, lines.drop (h.gap + h.old.length), tail, List.length_take_of_le place.1, ?_, later, rfl⟩
      rw [← List.drop_drop, ← found, List.drop_left, List.append_assoc, found, List.take_append_drop]
    · cases went
  · rintro ⟨above, below, tail, gap, rfl, later, rfl⟩
    have place : h.gap ≤ (above ++ h.old ++ below).length ∧ h.old <+: (above ++ h.old ++ below).drop h.gap := by
      constructor
      · rw [← gap, List.append_assoc, List.length_append]
        exact Nat.le_add_right _ _
      · rw [← gap, List.append_assoc, List.drop_left]
        exact List.prefix_append _ _
    have behind : (above ++ h.old ++ below).drop (h.gap + h.old.length) = below := by
      rw [← gap, ← List.length_append, List.drop_left]
    have front : (above ++ h.old ++ below).take h.gap = above := by
      rw [← gap, List.append_assoc, List.take_left]
    rw [if_pos place, behind, front, later, Option.map_some]

theorem applyHunks_reverse {hunks : List Hunk} {lines out : List String} (went : applyHunks hunks lines = some out) :
    applyHunks (hunks.map Hunk.reverse) out = some lines := by
  induction hunks generalizing lines out with
  | nil =>
    cases went
    rfl
  | cons h rest ih =>
    obtain ⟨above, below, tail, gap, rfl, later, rfl⟩ := applyHunks_cons.mp went
    exact applyHunks_cons.mpr ⟨above, tail, below, gap, rfl, ih later, rfl⟩

theorem Change.apply_reverse {c : Change} {file file' : Option (List String)} (went : c.apply file = some file') :
    c.reverse.apply file' = some file := by
  cases c with
  | edit hunks =>
    cases file with
    | none => cases went
    | some lines =>
      obtain ⟨out, ran, rfl⟩ := Option.map_eq_some_iff.mp went
      exact Option.map_eq_some_iff.mpr ⟨lines, applyHunks_reverse ran, rfl⟩
  | create lines =>
    cases file with
    | none =>
      cases went
      exact if_pos rfl
    | some there => cases went
  | delete lines =>
    cases file with
    | none => cases went
    | some there =>
      rw [apply] at went
      split_ifs at went with same
      · cases went
        rw [same]
        rfl

/-- A patch goes where every section goes, and does to each file what its section does. -/
theorem foldlM_sections {sections : List Section} (distinct : (sections.map Section.path).Nodup) {t t' : Tree} :
    sections.foldlM Section.apply t = some t' ↔
      (∀ s ∈ sections, s.change.apply (t s.path) = some (t' s.path)) ∧
        ∀ path, path ∉ sections.map Section.path → t' path = t path := by
  induction sections generalizing t with
  | nil =>
    constructor
    · intro same
      cases same
      exact ⟨fun _ there => absurd there List.not_mem_nil, fun _ _ => rfl⟩
    · intro same
      exact congrArg some (funext (fun path => (same.2 path List.not_mem_nil).symm))
  | cons s rest ih =>
    rw [List.map_cons, List.nodup_cons] at distinct
    have elsewhere : ∀ x, ∀ s' ∈ rest, Function.update t s.path x s'.path = t s'.path := by
      intro x s' mem
      have other : s'.path ≠ s.path := fun same => distinct.1 (same ▸ List.mem_map_of_mem mem)
      exact Function.update_of_ne other x t
    have here : (∀ path, path ∉ rest.map Section.path → t' path = Function.update t s.path (t' s.path) path) ↔
        ∀ path, path ∉ (s :: rest).map Section.path → t' path = t path := by
      constructor
      · intro outside path none
        rw [List.map_cons, List.mem_cons, not_or] at none
        rw [outside path none.2, Function.update_of_ne none.1]
      · intro outside path none
        by_cases own : path = s.path
        · rw [own, Function.update_self]
        · rw [Function.update_of_ne own]
          exact outside path (List.not_mem_cons_of_ne_of_not_mem own none)
    rw [List.foldlM_cons, Option.bind_eq_bind, Option.bind_eq_some_iff, List.forall_mem_cons]
    constructor
    · rintro ⟨next, first, later⟩
      obtain ⟨x, changed, rfl⟩ := Option.map_eq_some_iff.mp first
      obtain ⟨inside, outside⟩ := (ih distinct.2).mp later
      have own : t' s.path = x := by rw [outside s.path distinct.1, Function.update_self]
      subst own
      refine ⟨⟨changed, fun s' mem => ?_⟩, here.mp outside⟩
      rw [← elsewhere _ s' mem]
      exact inside s' mem
    · rintro ⟨⟨changed, inside⟩, outside⟩
      refine ⟨_, Option.map_eq_some_iff.mpr ⟨_, changed, rfl⟩, (ih distinct.2).mpr ⟨fun s' mem => ?_, here.mpr outside⟩⟩
      rw [elsewhere _ s' mem]
      exact inside s' mem

theorem Patch.apply_eq_some_iff {p : Patch} {t t' : Tree} : p.apply t = some t' ↔
    (∀ s ∈ p.sections, s.change.apply (t s.path) = some (t' s.path)) ∧
      ∀ path, path ∉ p.paths → t' path = t path := foldlM_sections p.distinct

theorem Patch.paths_reverse (p : Patch) : p.reverse.paths = p.paths := List.map_map

theorem Patch.apply_reverse {p : Patch} {t t' : Tree} (went : p.apply t = some t') : p.reverse.apply t' = some t := by
  rw [apply_eq_some_iff, paths_reverse]
  rw [apply_eq_some_iff] at went
  refine ⟨fun s mem => ?_, fun path outside => (went.2 path outside).symm⟩
  obtain ⟨forward, there, rfl⟩ := List.mem_map.mp mem
  exact Change.apply_reverse (went.1 forward there)

def Patch.edit (p : Patch) : Edit Tree where
  apply := p.apply
  undo := p.reverse.apply
  undo_apply := apply_reverse

/-! ## The script -/

section Script
variable {files : List PatchFile} {s : Progress} {t t' : Tree}

/-- The series without the names. -/
def edits (files : List PatchFile) : List (Edit Tree) := files.map (fun f => f.patch.edit)

theorem applyInTurn_eq : applyInTurn files t = Edit.applyAll (edits files) t := by
  rw [Edit.applyAll, edits, List.foldlM_map]
  rfl

theorem tryPatch_of_apply {f : PatchFile} {tree : Tree} (went : f.patch.apply s.tree = some tree) :
    tryPatch s f = .ok ⟨tree, s.count + 1, s.printed ++ [applying f.base]⟩ := by
  rw [tryPatch, went]

theorem tree_tryPatch (f : PatchFile) :
    (tryPatch s f).toOption.map Progress.tree = f.patch.edit.settle s.tree := by
  cases went : f.patch.apply s.tree with
  | some tree =>
    have same : f.patch.edit.apply s.tree = some tree := went
    rw [tryPatch_of_apply went, Edit.settle, same]
    rfl
  | none =>
    have same : f.patch.edit.apply s.tree = none := went
    have undone : f.patch.edit.undo s.tree = f.patch.reverse.apply s.tree := rfl
    rw [tryPatch, went, Edit.settle, same, undone]
    cases f.patch.reverse.apply s.tree <;> rfl

theorem tree_tryPatches : (tryPatches s files).toOption.map Progress.tree =
    Edit.settleAll (edits files) s.tree := by
  induction files generalizing s with
  | nil => rfl
  | cons f rest ih =>
    have one := tree_tryPatch (s := s) f
    rw [edits, List.map_cons, Edit.settleAll_cons, ← one, tryPatches, List.foldlM_cons]
    cases tryPatch s f with
    | error message => rfl
    | ok next => exact ih (s := next)

/-- The tree of the script is that of the settled series. -/
theorem tree_applySh : (applySh files t).toOption.map Prod.fst = Edit.settleAll (edits files) t := by
  have tree : (tryPatches ⟨t, 0, []⟩ files).toOption.map Progress.tree = Edit.settleAll (edits files) t :=
    tree_tryPatches
  rw [← tree, applySh]
  cases tryPatches ⟨t, 0, []⟩ files <;> rfl

theorem tryPatches_of_applyInTurn (went : applyInTurn files s.tree = some t') : tryPatches s files =
    .ok ⟨t', s.count + files.length, s.printed ++ files.map (fun f => applying f.base)⟩ := by
  induction files generalizing s with
  | nil =>
    cases went
    simp [tryPatches, pure, Except.pure]
  | cons f rest ih =>
    obtain ⟨next, first, later⟩ := Option.bind_eq_some_iff.mp went
    rw [tryPatches, List.foldlM_cons, tryPatch_of_apply first]
    refine (ih (s := ⟨next, s.count + 1, s.printed ++ [applying f.base]⟩) later).trans ?_
    simp [Nat.add_assoc, Nat.add_comm 1]

theorem changesNothing_iff : ChangesNothing files t ↔ ∀ f ∈ files, Recognised t f := by
  have still : (∀ done, done <+: edits files → Edit.settleAll done t = some t) ↔ ∀ e ∈ edits files, e.Settled t :=
    Edit.settleAll_still_iff
  rw [edits, List.forall_mem_map] at still
  refine Iff.trans ?_ still
  constructor
  · intro nothing done front
    obtain ⟨first, start, rfl⟩ := List.prefix_map_iff.mp front
    have one := nothing first start
    rwa [tree_applySh] at one
  · intro nothing done front
    rw [tree_applySh]
    exact nothing _ (front.map _)

end Script

/-- The first run applies every patch. The second changes nothing exactly where the finished tree
has each patch in a form in which it is recognised. -/
theorem applySh_twice (files : List PatchFile) (t t' : Tree) (went : applyInTurn files t = some t') :
    applySh files t = .ok (t', files.map (fun f => applying f.base) ++ [applied files.length]) ∧
    (ChangesNothing files t' ↔ ∀ f ∈ files, Recognised t' f) := by
  refine ⟨?_, changesNothing_iff⟩
  have first := tryPatches_of_applyInTurn (s := ⟨t, 0, []⟩) went
  rw [applySh, first]
  simp [bind, Except.bind, pure, Except.pure]

/-! ## Patches of different files -/

/-- A patch goes where its files let it. -/
theorem Patch.isSome_congr {p : Patch} {t u : Tree} (same : ∀ path ∈ p.paths, t path = u path)
    (went : (p.apply t).isSome) : (p.apply u).isSome := by
  obtain ⟨t', ran⟩ := Option.isSome_iff_exists.mp went
  obtain ⟨inside, -⟩ := apply_eq_some_iff.mp ran
  rw [Option.isSome_iff_exists]
  refine ⟨fun path => if path ∈ p.paths then t' path else u path, apply_eq_some_iff.mpr ⟨fun s mem => ?_, ?_⟩⟩
  · have there : s.path ∈ p.paths := List.mem_map_of_mem mem
    rw [← same s.path there, if_pos there]
    exact inside s mem
  · exact fun path outside => if_neg outside

theorem Patch.spares_of_disjoint {p q : Patch} (apart : p.paths.Disjoint q.paths) : p.edit.Spares q.edit := by
  intro t t' went back
  refine isSome_congr (fun path own => ?_) back
  rw [paths_reverse] at own
  exact ((apply_eq_some_iff.mp went).2 path (fun mem => apart mem own)).symm

/-- Where no file is patched twice only a patch that goes again is in the way. -/
theorem changesNothing_of_apart {files : List PatchFile} {t t' : Tree} (went : applyInTurn files t = some t')
    (apart : files.Pairwise (fun f g => f.patch.paths.Disjoint g.patch.paths)) :
    ChangesNothing files t' ↔ ∀ f ∈ files, f.patch.apply t' = none ∨ f.patch.apply t' = some t' := by
  rw [changesNothing_iff]
  have spared : (edits files).Pairwise (fun e f => f.Spares e) := by
    rw [edits, List.pairwise_map]
    exact apart.imp (fun away => Patch.spares_of_disjoint (fun _ later own => away own later))
  rw [applyInTurn_eq] at went
  have back := Edit.undo_of_applyAll spared went
  rw [edits, List.forall_mem_map] at back
  exact forall₂_congr (fun f mem => Edit.settled_iff_of_undo (back f mem))

/-! ## Two patches of one line -/

/-- A patch of the first lines of a file. -/
def lineFile (base : String) (old new : List String) : PatchFile :=
  ⟨base, [⟨"config.py", .edit [⟨0, old, new⟩]⟩], List.nodup_singleton _⟩

def oneLine (line : String) : Tree := Function.update (fun _ => none) "config.py" (some [line])

theorem lineFile_twice :
    applySh [lineFile "0001.patch" ["a"] ["b"]] (oneLine "a") =
        .ok (Function.update (oneLine "a") "config.py" (some ["b"]),
          ["XPBuilder: applying patch 0001.patch", "XPBuilder: applied 1 patch(es)"]) ∧
      ChangesNothing [lineFile "0001.patch" ["a"] ["b"]] (Function.update (oneLine "a") "config.py" (some ["b"])) := by
  obtain ⟨first, second⟩ := applySh_twice [lineFile "0001.patch" ["a"] ["b"]] (oneLine "a") _ rfl
  refine ⟨first, second.mpr (List.forall_mem_singleton.mpr (.inl ⟨rfl, rfl⟩))⟩

/-- The second patch rewrites the line of the first, which then goes neither forward nor back. -/
theorem lineFiles_stop : ∃ t',
    applyInTurn [lineFile "0001.patch" ["a"] ["b"], lineFile "0002.patch" ["b"] ["c"]] (oneLine "a") = some t' ∧
    applySh [lineFile "0001.patch" ["a"] ["b"], lineFile "0002.patch" ["b"] ["c"]] t' =
      .error (failed "0001.patch") :=
  ⟨_, rfl, rfl⟩

/-- A line put behind an equal one goes in a second time. -/
example : ∃ t' t'', applyInTurn [lineFile "0001.patch" ["a"] ["a", "a"]] (oneLine "a") = some t' ∧
    applySh [lineFile "0001.patch" ["a"] ["a", "a"]] t' = .ok (t'', [applying "0001.patch", applied 1]) ∧
    t'' "config.py" = some ["a", "a", "a"] :=
  ⟨_, _, rfl, rfl, rfl⟩

end XpBuilder.Patches
