import XpBuilder.Library.Dict

/-! Inversion of computations in `Except`: what a successful sequence, a
successful pass over a list and a successful pass over a dictionary say about
their parts. -/

namespace XpBuilder.Fallible
variable {ε α β : Type}

theorem bind_eq_ok {x : Except ε α} {f : α → Except ε β} {b : β} :
    (x >>= f) = .ok b ↔ ∃ a, x = .ok a ∧ f a = .ok b := by
  cases x with
  | error e => simp [bind, Except.bind]
  | ok a => simp [bind, Except.bind]

@[simp] theorem pure_eq_ok {a b : α} : (pure a : Except ε α) = .ok b ↔ b = a := by
  simp [pure, Except.pure, eq_comm]

@[simp] theorem throw_ne_ok {e : ε} {a : α} : (throw e : Except ε α) ≠ .ok a := by
  simp [throw, throwThe, MonadExceptOf.throw]

theorem ite_throw_eq_ok {c : Prop} [Decidable c] {e : ε} {x : Except ε α} {a : α} :
    (if c then throw e else x) = .ok a ↔ ¬c ∧ x = .ok a := by
  by_cases h : c <;> simp [h]

theorem mapM_eq_ok {f : α → Except ε β} {xs : List α} {ys : List β} :
    xs.mapM f = .ok ys ↔ List.Forall₂ (fun x y => f x = .ok y) xs ys := by
  induction xs generalizing ys with
  | nil =>
    simp only [List.mapM_nil, pure_eq_ok, List.forall₂_nil_left_iff]
  | cons x xs ih =>
    simp only [List.mapM_cons, bind_eq_ok, pure_eq_ok, List.forall₂_cons_left_iff]
    constructor
    · rintro ⟨y, hy, zs, hzs, rfl⟩
      exact ⟨y, zs, hy, ih.mp hzs, rfl⟩
    · rintro ⟨y, zs, hy, hzs, rfl⟩
      exact ⟨y, hy, zs, ih.mpr hzs, rfl⟩

/-- A pass whose steps succeed under `p` and then compute `g`. -/
theorem mapM_eq_ok_iff_map {f : α → Except ε β} {p : α → Prop} {g : α → β}
    (h : ∀ a b, f a = .ok b ↔ p a ∧ b = g a) {xs : List α} {ys : List β} :
    xs.mapM f = .ok ys ↔ (∀ x ∈ xs, p x) ∧ ys = xs.map g := by
  induction xs generalizing ys with
  | nil => simp
  | cons x xs ih =>
    simp only [List.mapM_cons, bind_eq_ok, pure_eq_ok, h, ih, List.forall_mem_cons, List.map_cons]
    constructor
    · rintro ⟨y, ⟨holds, rfl⟩, zs, ⟨all, rfl⟩, rfl⟩
      exact ⟨⟨holds, all⟩, rfl⟩
    · rintro ⟨⟨holds, all⟩, rfl⟩
      exact ⟨g x, ⟨holds, rfl⟩, xs.map g, ⟨all, rfl⟩, rfl⟩

theorem exists_related {R : α → β → Prop} {xs : List α} {ys : List β} (h : List.Forall₂ R xs ys)
    {x : α} (hx : x ∈ xs) : ∃ y ∈ ys, R x y := by
  induction h with
  | nil => simp at hx
  | cons hxy _ ih =>
    rcases List.mem_cons.mp hx with rfl | hx
    · exact ⟨_, List.mem_cons_self, hxy⟩
    · obtain ⟨y, hy, hr⟩ := ih hx
      exact ⟨y, List.mem_cons_of_mem _ hy, hr⟩

/-- A successful pass relates every result to the element it came from. -/
theorem mem_of_mapM {f : α → Except ε β} {xs : List α} {ys : List β} (h : xs.mapM f = .ok ys)
    {y : β} (hy : y ∈ ys) : ∃ x ∈ xs, f x = .ok y :=
  exists_related (mapM_eq_ok.mp h).flip hy

theorem ok_of_mapM {f : α → Except ε β} {xs : List α} {ys : List β} (h : xs.mapM f = .ok ys)
    {x : α} (hx : x ∈ xs) : ∃ y ∈ ys, f x = .ok y := exists_related (mapM_eq_ok.mp h) hx

/-- A pass that gives every element a result in a relation to it. -/
theorem exists_mapM_related {f : α → Except ε β} {R : α → β → Prop} (xs : List α) :
    (∃ ys, xs.mapM f = .ok ys ∧ List.Forall₂ R xs ys) ↔ ∀ x ∈ xs, ∃ y, f x = .ok y ∧ R x y := by
  induction xs with
  | nil => simp
  | cons x xs ih =>
    rw [List.forall_mem_cons, ← ih]
    simp only [List.mapM_cons, bind_eq_ok, pure_eq_ok, List.forall₂_cons_left_iff]
    constructor
    · rintro ⟨ys, ⟨y, made, zs, later, rfl⟩, y', zs', here, behind, same⟩
      obtain ⟨rfl, rfl⟩ := List.cons.inj same
      exact ⟨⟨y, made, here⟩, zs, later, behind⟩
    · rintro ⟨⟨y, made, here⟩, zs, later, behind⟩
      exact ⟨y :: zs, ⟨y, made, zs, later, rfl⟩, y, zs, here, behind, rfl⟩

theorem exists_mapM_iff {f : α → Except ε β} (xs : List α) :
    (∃ ys, xs.mapM f = .ok ys) ↔ ∀ x ∈ xs, ∃ y, f x = .ok y := by
  have related := exists_mapM_related (f := f) (R := fun x y => f x = .ok y) xs
  simpa only [← mapM_eq_ok, and_self] using related

variable {κ : Type} [DecidableEq κ]

/-- `{k: f(k, v) for k, v in d.items()}` -/
def comprehend (f : κ → α → Except ε β) (d : Dict κ α) : Except ε (Dict κ β) :=
  d.entries.foldlM (fun acc e => do
    let b ← f e.1 e.2
    pure (acc.set e.1 b)) Dict.empty

theorem get_foldlM_set {f : κ → α → Except ε β} {es : List (κ × α)} {acc r : Dict κ β}
    (distinct : (es.map Prod.fst).Nodup)
    (h : es.foldlM (fun acc e => do let b ← f e.1 e.2; pure (acc.set e.1 b)) acc = .ok r)
    (k : κ) : (∀ a, Dict.find k es = some a → ∃ b, f k a = .ok b ∧ r.get k = some b) ∧
      (Dict.find k es = none → r.get k = acc.get k) := by
  induction es generalizing acc with
  | nil =>
    simp only [List.foldlM_nil, pure_eq_ok] at h
    simp [Dict.find, h]
  | cons e rest ih =>
    simp only [List.map_cons, List.nodup_cons] at distinct
    simp only [List.foldlM_cons, bind_eq_ok, pure_eq_ok] at h
    obtain ⟨acc', ⟨b, hb, rfl⟩, h⟩ := h
    obtain ⟨found, missing⟩ := ih distinct.2 h
    by_cases hk : e.1 = k
    · subst hk
      have absent : Dict.find e.1 rest = none := by
        rw [Option.eq_none_iff_forall_ne_some]
        intro a ha
        exact distinct.1 (List.mem_map.mpr
          ⟨(e.1, a), (Dict.find_eq_some_iff distinct.2 e.1 a).mp ha, rfl⟩)
      simp only [Dict.find, if_true, Option.some.injEq]
      refine ⟨?_, fun h => by simp at h⟩
      rintro a rfl
      exact ⟨b, hb, by rw [missing absent, Dict.get_set_self]⟩
    · simp only [Dict.find, if_neg hk]
      refine ⟨found, fun hn => ?_⟩
      rw [missing hn, Dict.get_set_ne _ _ (Ne.symm hk)]

theorem get_comprehend {f : κ → α → Except ε β} {d : Dict κ α} {r : Dict κ β}
    (h : comprehend f d = .ok r) (k : κ) :
    (∀ a, d.get k = some a → ∃ b, f k a = .ok b ∧ r.get k = some b) ∧
      (d.get k = none → r.get k = none) := get_foldlM_set d.distinct h k

theorem exists_foldlM_set {f : κ → α → Except ε β} {es : List (κ × α)} {acc : Dict κ β}
    (each : ∀ e ∈ es, ∃ b, f e.1 e.2 = .ok b) :
    ∃ r, es.foldlM (fun acc e => do let b ← f e.1 e.2; pure (acc.set e.1 b)) acc = .ok r := by
  induction es generalizing acc with
  | nil => exact ⟨acc, rfl⟩
  | cons e rest ih =>
    rw [List.forall_mem_cons] at each
    obtain ⟨⟨b, made⟩, later⟩ := each
    obtain ⟨r, reached⟩ := @ih (acc.set e.1 b) later
    refine ⟨r, ?_⟩
    rw [List.foldlM_cons, made]
    exact reached

/-- A pass over a dictionary whose steps succeed. -/
theorem exists_comprehend {f : κ → α → Except ε β} {d : Dict κ α}
    (each : ∀ k a, d.get k = some a → ∃ b, f k a = .ok b) : ∃ r, comprehend f d = .ok r :=
  exists_foldlM_set (fun e mem => each e.1 e.2 ((Dict.find_eq_some_iff d.distinct e.1 e.2).mpr mem))

end XpBuilder.Fallible
