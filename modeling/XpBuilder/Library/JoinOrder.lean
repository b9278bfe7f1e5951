import Mathlib.Data.List.Nodup
import Mathlib.Data.List.Perm.Basic
import Mathlib.Logic.Relation

/-! Growing a tree by a list of directed pairs. A list is in join order from a
set of reached vertices when every pair starts at a vertex already reached and
ends at a new one; the weaker condition that a pair may also loop at its own
new end is the same for pairs that connect everything to one root. -/

namespace XpBuilder.JoinOrder
variable {κ : Type}

def InJoinOrder (reached : List κ) : List (κ × κ) → Prop
  | [] => True
  | e :: rest => e.1 ∈ reached ∧ e.2 ∉ reached ∧ InJoinOrder (reached ++ [e.2]) rest

instance decidableInJoinOrder [DecidableEq κ] (reached : List κ) (edges : List (κ × κ)) :
    Decidable (InJoinOrder reached edges) :=
  match edges with
  | [] => isTrue trivial
  | e :: rest =>
    have := decidableInJoinOrder (reached ++ [e.2]) rest
    inferInstanceAs (Decidable (_ ∧ _ ∧ _))

/-- Every pair starts at a reached vertex or loops at its own end. -/
def Resolves (reached : List κ) : List (κ × κ) → Prop
  | [] => True
  | e :: rest => (e.1 ∈ reached ∨ e.1 = e.2) ∧ Resolves (reached ++ [e.2]) rest

def Adjacent (edges : List (κ × κ)) (a b : κ) : Prop := (a, b) ∈ edges ∨ (b, a) ∈ edges

def Connects (edges : List (κ × κ)) (root v : κ) : Prop :=
  Relation.ReflTransGen (Adjacent edges) root v

def ends (edges : List (κ × κ)) : List κ := edges.map Prod.snd

theorem Connects.closed {edges : List (κ × κ)} {root v : κ} (h : Connects edges root v)
    {P : κ → Prop} (start : P root) (step : ∀ e ∈ edges, P e.1 ↔ P e.2) : P v := by
  induction h with
  | refl => exact start
  | tail _ hab ih =>
    rcases hab with h | h
    · exact (step _ h).mp ih
    · exact (step _ h).mpr ih

/-! ## From join order -/

theorem InJoinOrder.resolves {reached : List κ} {edges : List (κ × κ)}
    (h : InJoinOrder reached edges) : Resolves reached edges := by
  induction edges generalizing reached with
  | nil => trivial
  | cons e rest ih => exact ⟨.inl h.1, ih h.2.2⟩

theorem InJoinOrder.nodup {reached : List κ} {edges : List (κ × κ)} (hr : reached.Nodup)
    (h : InJoinOrder reached edges) : (reached ++ ends edges).Nodup := by
  induction edges generalizing reached with
  | nil => simpa [ends] using hr
  | cons e rest ih =>
    obtain ⟨-, fresh, tail⟩ := h
    have grown : (reached ++ [e.2]).Nodup := by
      rw [List.nodup_append]
      refine ⟨hr, by simp, fun a ha b hb => ?_⟩
      rw [List.mem_singleton] at hb
      exact fun hab => fresh (hb ▸ hab ▸ ha)
    simpa [ends] using ih grown tail

/-- Every pair has both its ends among the vertices reached at the end. -/
theorem InJoinOrder.spans {reached : List κ} {edges : List (κ × κ)}
    (h : InJoinOrder reached edges) {e : κ × κ} (he : e ∈ edges) :
    e.1 ∈ reached ++ ends edges ∧ e.2 ∈ reached ++ ends edges := by
  induction edges generalizing reached with
  | nil => simp at he
  | cons f rest ih =>
    obtain ⟨start, -, tail⟩ := h
    rcases List.mem_cons.mp he with rfl | he
    · simp [ends, start]
    · simpa [ends] using ih tail he

/-- A later pair ends at a vertex that no earlier pair has touched. -/
theorem InJoinOrder.pairwise {reached : List κ} {edges : List (κ × κ)}
    (h : InJoinOrder reached edges) :
    edges.Pairwise (fun e f => e.1 ≠ f.2 ∧ e.2 ≠ f.2) ∧ ∀ f ∈ edges, f.2 ∉ reached := by
  induction edges generalizing reached with
  | nil => simp
  | cons e rest ih =>
    obtain ⟨start, fresh, tail⟩ := h
    obtain ⟨pairs, new⟩ := ih tail
    have later : ∀ f ∈ rest, f.2 ∉ reached ∧ f.2 ≠ e.2 := by
      intro f hf
      simpa using new f hf
    refine ⟨List.pairwise_cons.mpr ⟨fun f hf => ⟨fun he => ?_, fun he => ?_⟩, pairs⟩,
      List.forall_mem_cons.mpr ⟨fresh, fun f hf => (later f hf).1⟩⟩
    · exact (later f hf).1 (he ▸ start)
    · exact (later f hf).2 he.symm

theorem Connects.mem_of_inJoinOrder {edges : List (κ × κ)} {root v : κ}
    (h : InJoinOrder [root] edges) (hv : Connects edges root v) : v ∈ root :: ends edges := by
  refine hv.closed (P := fun v => v ∈ root :: ends edges) List.mem_cons_self (fun e he => ?_)
  have := h.spans he
  simp only [List.cons_append, List.nil_append] at this
  exact ⟨fun _ => this.2, fun _ => this.1⟩

/-! ## To join order -/

theorem inJoinOrder_of_resolves {reached : List κ} {edges : List (κ × κ)}
    (resolves : Resolves reached edges) (distinct : (reached ++ ends edges).Nodup)
    (loopless : ∀ e ∈ edges, e.1 ≠ e.2) : InJoinOrder reached edges := by
  induction edges generalizing reached with
  | nil => trivial
  | cons e rest ih =>
    obtain ⟨start, tail⟩ := resolves
    have shape : reached ++ ends (e :: rest) = (reached ++ [e.2]) ++ ends rest := by simp [ends]
    rw [shape] at distinct
    have fresh : e.2 ∉ reached := fun h =>
      (List.nodup_append.mp (List.nodup_append.mp distinct).1).2.2 e.2 h e.2 (by simp) rfl
    exact ⟨start.resolve_right (loopless e List.mem_cons_self), fresh,
      ih tail distinct (fun f hf => loopless f (List.mem_cons_of_mem _ hf))⟩

/-- Renaming the vertices by a function that tells apart those that occur. -/
theorem resolves_map {ι : Type} {f : κ → ι} {reached : List κ} {edges : List (κ × κ)}
    (inj : ∀ a ∈ reached ++ edges.flatMap (fun e => [e.1, e.2]),
      ∀ b ∈ reached ++ edges.flatMap (fun e => [e.1, e.2]), f a = f b → a = b) :
    Resolves (reached.map f) (edges.map (Prod.map f f)) ↔ Resolves reached edges := by
  induction edges generalizing reached with
  | nil => exact Iff.rfl
  | cons e rest ih =>
    have occurs : ∀ v, v ∈ (reached ++ [e.2]) ++ rest.flatMap (fun e => [e.1, e.2]) →
        v ∈ reached ++ (e :: rest).flatMap (fun e => [e.1, e.2]) := by
      intro v hv
      simp only [List.flatMap_cons, List.mem_append, List.mem_cons, List.not_mem_nil] at hv ⊢
      tauto
    have tail := ih (fun a ha b hb => inj a (occurs a ha) b (occurs b hb))
    have source : e.1 ∈ reached ++ (e :: rest).flatMap (fun e => [e.1, e.2]) := by simp
    have target : e.2 ∈ reached ++ (e :: rest).flatMap (fun e => [e.1, e.2]) := by simp
    rw [List.map_append, List.map_singleton] at tail
    simp only [List.map_cons, Resolves, Prod.map_fst, Prod.map_snd, tail]
    refine and_congr_left (fun _ => or_congr ?_ ?_)
    · rw [List.mem_map]
      refine ⟨?_, fun h => ⟨e.1, h, rfl⟩⟩
      rintro ⟨a, ha, hf⟩
      exact inj a (List.mem_append_left _ ha) e.1 source hf ▸ ha
    · exact ⟨fun h => inj _ source _ target h, fun h => congrArg f h⟩

theorem Connects.mono {edges edges' : List (κ × κ)} {root v : κ} (h : Connects edges root v)
    (sub : ∀ e ∈ edges, Adjacent edges' e.1 e.2) : Connects edges' root v := by
  induction h with
  | refl => exact Relation.ReflTransGen.refl
  | tail _ hab ih =>
    rcases hab with hab | hab
    · exact ih.tail (sub _ hab)
    · exact ih.tail (sub _ hab).symm

variable [DecidableEq κ]

/-- The vertices reached from `grown` when pairs that start elsewhere are skipped. -/
def grow (grown : List κ) : List (κ × κ) → List κ
  | [] => grown
  | e :: rest => grow (if e.1 ∈ grown then grown ++ [e.2] else grown) rest

theorem subset_grow (grown : List κ) (edges : List (κ × κ)) : grown ⊆ grow grown edges := by
  induction edges generalizing grown with
  | nil => exact List.Subset.refl _
  | cons e rest ih =>
    refine List.Subset.trans ?_ (ih _)
    split
    · exact List.subset_append_left _ _
    · exact List.Subset.refl _

theorem mem_grow {grown : List κ} {edges : List (κ × κ)} {v : κ} (h : v ∈ grow grown edges) :
    v ∈ grown ∨ v ∈ ends edges := by
  induction edges generalizing grown with
  | nil => exact .inl h
  | cons e rest ih =>
    simp only [ends, List.map_cons, List.mem_cons]
    rcases ih h with h | h
    · split at h
      · simp only [List.mem_append, List.mem_singleton] at h
        tauto
      · exact .inl h
    · exact .inr (.inr h)

/-- Pairs that resolve and end at distinct new vertices never lead out of the
grown set or into it from outside, and a pair inside it is no loop. -/
theorem grow_closed {reached grown : List κ} {edges : List (κ × κ)} (hg : grown ⊆ reached)
    (resolves : Resolves reached edges) (distinct : (reached ++ ends edges).Nodup)
    {e : κ × κ} (he : e ∈ edges) :
    (e.1 ∈ grow grown edges ↔ e.2 ∈ grow grown edges) ∧
      (e.2 ∈ grow grown edges → e.1 ≠ e.2) := by
  induction edges generalizing reached grown with
  | nil => simp at he
  | cons f rest ih =>
    obtain ⟨start, tail⟩ := resolves
    have shape : reached ++ ends (f :: rest) = (reached ++ [f.2]) ++ ends rest := by simp [ends]
    rw [shape] at distinct
    have hg' : (if f.1 ∈ grown then grown ++ [f.2] else grown) ⊆ reached ++ [f.2] := by
      intro v hv
      split at hv
      · simp only [List.mem_append, List.mem_singleton] at hv ⊢
        exact hv.imp_left (fun h => hg h)
      · exact List.mem_append_left _ (hg hv)
    rcases List.mem_cons.mp he with rfl | he
    · have separate := List.nodup_append.mp distinct
      have fresh : e.2 ∉ reached := fun h =>
        (List.nodup_append.mp separate.1).2.2 e.2 h e.2 (by simp) rfl
      have apart : ∀ v ∈ reached ++ [e.2], v ∉ ends rest := fun v hv hv' =>
        separate.2.2 v hv v hv' rfl
      -- membership of an end of the first pair is decided when it is taken
      have early : ∀ v ∈ reached ++ [e.2], (v ∈ grow grown (e :: rest) ↔
          v ∈ if e.1 ∈ grown then grown ++ [e.2] else grown) := by
        intro v hv
        constructor
        · exact fun h => (mem_grow (show v ∈ grow _ rest from h)).resolve_right (apart v hv)
        · exact fun h => subset_grow _ rest h
      have target : e.2 ∈ grow grown (e :: rest) ↔ e.1 ∈ grown := by
        rw [early e.2 (by simp)]
        split
        · simp_all
        · next h =>
          have := fun h' => fresh (hg h')
          tauto
      rcases start with start | loop
      · have ne : e.1 ≠ e.2 := fun h => fresh (h ▸ start)
        refine ⟨?_, fun _ => ne⟩
        rw [target, early e.1 (List.mem_append_left _ start)]
        split
        · simp_all
        · tauto
      · refine ⟨by rw [loop], fun h => ?_⟩
        exact absurd (hg (loop ▸ target.mp h)) fresh
    · exact ih hg' tail distinct he

omit [DecidableEq κ] in
/-- For pairs that connect all their ends to the root, resolving at distinct
new ends is being in join order. -/
theorem inJoinOrder_iff {root : κ} {edges : List (κ × κ)}
    (connected : ∀ e ∈ edges, Connects edges root e.2) :
    InJoinOrder [root] edges ↔ Resolves [root] edges ∧ (root :: ends edges).Nodup := by
  constructor
  · intro h
    exact ⟨h.resolves, h.nodup (by simp)⟩
  · rintro ⟨resolves, distinct⟩
    classical
    have closed := fun e (he : e ∈ edges) =>
      grow_closed (List.Subset.refl [root]) resolves distinct he
    refine inJoinOrder_of_resolves resolves distinct (fun e he => (closed e he).2 ?_)
    exact (connected e he).closed (subset_grow _ _ (by simp)) (fun f hf => (closed f hf).1)

end XpBuilder.JoinOrder
