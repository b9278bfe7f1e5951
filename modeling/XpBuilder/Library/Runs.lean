/-! Runs of a system that takes one step after another. A run is the list of the
steps it takes, and a condition on steps is about the state each is taken in. -/

namespace XpBuilder.Runs
variable {σ α : Type} (step : σ → α → σ)

/-- The state at the end of a run. -/
def after (s : σ) (run : List α) : σ := run.foldl step s

/-- Every step of the run meets `P`. -/
def Each (P : σ → α → Prop) : σ → List α → Prop
  | _, [] => True
  | s, a :: rest => P s a ∧ Each P (step s a) rest

variable {step} {P Q : σ → α → Prop} {s : σ}

@[simp] theorem after_nil : after step s [] = s := rfl

@[simp] theorem after_cons (a : α) (rest : List α) :
    after step s (a :: rest) = after step (step s a) rest := rfl

theorem after_append (run rest : List α) :
    after step s (run ++ rest) = after step (after step s run) rest := List.foldl_append

theorem Each.mono (weaker : ∀ s a, P s a → Q s a) {run : List α} (h : Each step P s run) :
    Each step Q s run := by
  induction run generalizing s with
  | nil => trivial
  | cons a rest ih => exact ⟨weaker s a h.1, ih h.2⟩

theorem Each.and {run : List α} (h : Each step P s run) (h' : Each step Q s run) :
    Each step (fun s a => P s a ∧ Q s a) s run := by
  induction run generalizing s with
  | nil => trivial
  | cons a rest ih => exact ⟨⟨h.1, h'.1⟩, ih h.2 h'.2⟩

/-- A condition on steps alone. -/
theorem Each.of_forall_mem {C : α → Prop} {run : List α} (h : ∀ a ∈ run, C a) :
    Each step (fun _ a => C a) s run := by
  induction run generalizing s with
  | nil => trivial
  | cons a rest ih =>
    exact ⟨h a List.mem_cons_self, ih (fun b hb => h b (List.mem_cons_of_mem a hb))⟩

theorem Each.and_forall {C : α → Prop} {run : List α} (h : Each step P s run)
    (h' : ∀ a ∈ run, C a) : Each step (fun s a => P s a ∧ C a) s run :=
  h.and (.of_forall_mem h')

/-- An invariant that each step keeps holds at every step of the run and at its end. -/
theorem Each.of_invariant {I : σ → Prop} (keeps : ∀ s a, I s → P s a → Q s a ∧ I (step s a))
    (start : I s) {run : List α} (h : Each step P s run) :
    Each step Q s run ∧ I (after step s run) := by
  induction run generalizing s with
  | nil => exact ⟨trivial, start⟩
  | cons a rest ih =>
    have kept := keeps s a start h.1
    have tail := ih kept.2 h.2
    exact ⟨⟨kept.1, tail.1⟩, tail.2⟩

/-- What every step relates, a run relates. -/
theorem Each.related {R : σ → σ → Prop} (refl : ∀ s, R s s)
    (trans : ∀ s t u, R s t → R t u → R s u) {run : List α}
    (h : Each step (fun s a => R s (step s a)) s run) : R s (after step s run) := by
  induction run generalizing s with
  | nil => exact refl s
  | cons a rest ih => exact trans _ _ _ h.1 (ih h.2)

/-- The beginning of a run. -/
theorem Each.of_append {run rest : List α} (h : Each step P s (run ++ rest)) : Each step P s run := by
  induction run generalizing s with
  | nil => trivial
  | cons a run ih => exact ⟨h.1, ih h.2⟩

/-- Any step of the run, with the state it is taken in. -/
theorem Each.at {before rest : List α} {a : α} (h : Each step P s (before ++ a :: rest)) :
    P (after step s before) a := by
  induction before generalizing s with
  | nil => exact h.1
  | cons b before ih => exact ih h.2

/-- Where each step keeps an invariant exactly under its condition, the invariant holds all
along a run exactly where every step meets its condition. -/
theorem invariant_iff_each {I : σ → Prop} (keeps : ∀ s a, I s → (I (step s a) ↔ P s a)) (start : I s)
    (run : List α) : (∀ before, before <+: run → I (after step s before)) ↔ Each step P s run := by
  constructor
  · intro always
    induction run generalizing s with
    | nil => trivial
    | cons a rest ih =>
      have next : I (step s a) := always [a] (List.prefix_append [a] rest)
      refine ⟨(keeps s a start).mp next, ih next ?_⟩
      intro before reached
      exact always (a :: before) (List.cons_prefix_cons.mpr ⟨rfl, reached⟩)
  · intro each before reached
    obtain ⟨rest, rfl⟩ := reached
    exact (each.of_append.of_invariant (Q := P) (fun s a holds meets =>
      ⟨meets, (keeps s a holds).mpr meets⟩) start).2

end XpBuilder.Runs
