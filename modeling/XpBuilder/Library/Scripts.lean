import Mathlib.Logic.Function.Basic
import Mathlib.Logic.Relation
import Mathlib.Tactic.SplitIfs

/-! Programs that ask a server one request after the other and go on by its answers. Others ask the
server too, at any time in between, and a program may be cut off before any of its requests. What
a program promises holds of each of its own requests and of its result, as long as the others keep
to what it relies on. -/

namespace XpBuilder
open Relation (ReflTransGen)

inductive Script (Q : Type) (R : Q → Type) (α : Type) where
  | done (a : α)
  | ask (q : Q) (next : R q → Script Q R α)
  | quit

namespace Script
variable {Q : Type} {R : Q → Type} {α β γ : Type}

def bind : Script Q R α → (α → Script Q R β) → Script Q R β
  | done a, f => f a
  | ask q next, f => ask q (fun x => (next x).bind f)
  | quit, _ => quit

instance : Monad (Script Q R) where
  pure := done
  bind := bind

def request (q : Q) : Script Q R (R q) := ask q done

/-- One body after the other, for the elements of a list. -/
def each (body : β → Script Q R Unit) : List β → Script Q R Unit
  | [] => done ()
  | b :: rest => (body b).bind fun _ => each body rest

/-- The same with the results. -/
def collect (body : β → Script Q R γ) : List β → Script Q R (List γ)
  | [] => done []
  | b :: rest => (body b).bind fun c => (collect body rest).bind fun cs => done (c :: cs)

/-- A script that nobody disturbs, as long as the states are such as `ok` allows. -/
def run {σ : Type} (serve : (q : Q) → σ → Option (R q × σ)) (ok : σ → Bool) : Script Q R α → σ → Option (α × σ)
  | done a, s => some (a, s)
  | ask q next, s =>
    match serve q s with
    | some (x, s') => if ok s' then (next x).run serve ok s' else none
    | none => none
  | quit, _ => none

theorem run_bind {σ : Type} {serve : (q : Q) → σ → Option (R q × σ)} {ok : σ → Bool} {c : Script Q R α}
    {f : α → Script Q R β} {s : σ} :
    (c.bind f).run serve ok s = (c.run serve ok s).bind (fun p => (f p.1).run serve ok p.2) := by
  induction c generalizing s with
  | done a => rfl
  | ask q next ih =>
    rw [bind, run, run]
    cases serve q s with
    | none => rfl
    | some answered =>
      dsimp only
      split_ifs with fine
      · exact ih _
      · rfl
  | quit => rfl

end Script

/-! ## One script among others -/

/-- A server that a script asks: what it answers, unless it refuses, what the others may change, what the
script may, when it may be refused and when it may quit, and which states come about. -/
structure Setting (Q : Type) (R : Q → Type) (σ : Type) where
  serve : (q : Q) → σ → Option (R q × σ)
  others : σ → σ → Prop
  own : σ → σ → Prop
  refused : Q → σ → Prop
  quits : σ → Prop
  within : σ → Prop

namespace Setting
variable {Q : Type} {R : Q → Type} {σ α β γ : Type} (S : Setting Q R σ)

/-- A request of the script, or a change by others. -/
inductive Step : Script Q R α × σ → Script Q R α × σ → Prop
  | others {c : Script Q R α} {s s' : σ} (change : S.others s s') (within : S.within s') : Step (c, s) (c, s')
  | asked {q : Q} {next : R q → Script Q R α} {s s' : σ} {x : R q} (answer : S.serve q s = some (x, s'))
    (within : S.within s') : Step (.ask q next, s) (next x, s')

/-- What a script keeps to at a point that it has reached. -/
def Sound (post : α → σ → Prop) : Script Q R α × σ → Prop
  | (.done a, s) => post a s
  | (.ask q _, s) => (∀ x s', S.serve q s = some (x, s') → S.within s' → S.own s s') ∧ (S.serve q s = none → S.refused q s)
  | (.quit, s) => S.quits s

/-- Wherever the script gets, its next request does what it may, and its result meets `post`. -/
def Meets (P : σ → Prop) (c : Script Q R α) (post : α → σ → Prop) : Prop :=
  ∀ s, P s → S.within s → ∀ reached, ReflTransGen S.Step (c, s) reached → S.Sound post reached

/-- No change by others undoes it. -/
def Stable (P : σ → Prop) : Prop := ∀ s s', S.others s s' → P s → P s'

variable {S} {P P' : σ → Prop} {post post' : α → σ → Prop}

/-- Before its first request of its own, a script stays what it is. -/
theorem reached_cases (stable : S.Stable P) {c : Script Q R α} {s : σ} (start : P s) (within : S.within s)
    {reached : Script Q R α × σ} (path : ReflTransGen S.Step (c, s) reached) :
    (∃ t, P t ∧ S.within t ∧ reached = (c, t)) ∨
      ∃ q next t x t', c = .ask q next ∧ P t ∧ S.within t ∧ S.serve q t = some (x, t') ∧ S.within t' ∧
        ReflTransGen S.Step (next x, t') reached := by
  induction path with
  | refl => exact .inl ⟨s, start, within, rfl⟩
  | tail _ step ih =>
    rcases ih with ⟨t, holds, inside, rfl⟩ | ⟨q, next, t, x, t', rfl, holds, inside, answer, inside', later⟩
    · cases step with
      | others change within => exact .inl ⟨_, stable t _ change holds, within, rfl⟩
      | asked answer within => exact .inr ⟨_, _, t, _, _, rfl, holds, inside, answer, within, .refl⟩
    · exact .inr ⟨q, next, t, x, t', rfl, holds, inside, answer, inside', later.tail step⟩

theorem Meets.mono {c : Script Q R α} (meets : S.Meets P c post) (weaker : ∀ s, P' s → P s)
    (stronger : ∀ a s, post a s → post' a s) : S.Meets P' c post' := by
  intro s start within reached path
  have sound := meets s (weaker s start) within reached path
  obtain ⟨c', t⟩ := reached
  cases c' with
  | done a => exact stronger a t sound
  | ask q next => exact sound
  | quit => exact sound

theorem Meets.done {a : α} (stable : S.Stable P) (result : ∀ s, P s → post a s) : S.Meets P (.done a) post := by
  intro s start within reached path
  rcases reached_cases stable start within path with ⟨t, holds, -, rfl⟩ | ⟨q, next, t, x, t', other, -⟩
  · exact result t holds
  · cases other

theorem Meets.quit (stable : S.Stable P) (quits : ∀ s, P s → S.quits s) : S.Meets P (.quit : Script Q R α) post := by
  intro s start within reached path
  rcases reached_cases stable start within path with ⟨t, holds, -, rfl⟩ | ⟨q, next, t, x, t', other, -⟩
  · exact quits t holds
  · cases other

/-- A request, and what follows upon its answer. -/
theorem Meets.ask {q : Q} {next : R q → Script Q R α} {mid : R q → σ → Prop} (stable : S.Stable P)
    (served : ∀ s x s', P s → S.within s → S.serve q s = some (x, s') → S.within s' → S.own s s' ∧ mid x s')
    (refused : ∀ s, P s → S.within s → S.serve q s = none → S.refused q s) (later : ∀ x, S.Meets (mid x) (next x) post) : S.Meets P (.ask q next) post := by
  intro s start within reached path
  rcases reached_cases stable start within path with
    ⟨t, holds, inside, rfl⟩ | ⟨_, _, t, x, t', ⟨⟩, holds, inside, answer, inside', rest⟩
  · exact ⟨fun x s' answer inside' => (served t x s' holds inside answer inside').1, refused t holds inside⟩
  · exact later x t' (served t x t' holds inside answer inside').2 inside' reached rest

theorem reached_within {c : Script Q R α} {s : σ} (within : S.within s) {reached : Script Q R α × σ}
    (path : ReflTransGen S.Step (c, s) reached) : S.within reached.2 := by
  cases path with
  | refl => exact within
  | tail _ step =>
    cases step with
    | others _ within => exact within
    | asked _ within => exact within

/-- Where a script goes on with another, it is still at the first or at the other. -/
theorem reached_bind {f : α → Script Q R β} {c : Script Q R α} {s : σ} {reached : Script Q R β × σ}
    (path : ReflTransGen S.Step (c.bind f, s) reached) :
    (∃ c' t, reached = (c'.bind f, t) ∧ ReflTransGen S.Step (c, s) (c', t)) ∨
      ∃ a u, ReflTransGen S.Step (c, s) (.done a, u) ∧ ReflTransGen S.Step (f a, u) reached := by
  induction path with
  | refl => exact .inl ⟨c, s, rfl, .refl⟩
  | tail _ step ih =>
    rcases ih with ⟨c', t, rfl, there⟩ | ⟨a, u, ended, later⟩
    · generalize at_bind : c'.bind f = d at step
      cases step with
      | others change within => exact .inl ⟨c', _, by rw [at_bind], there.tail (.others change within)⟩
      | asked answer within =>
        cases c' with
        | done a =>
          rw [Script.bind] at at_bind
          refine .inr ⟨a, t, there, ?_⟩
          rw [at_bind]
          exact .single (.asked answer within)
        | ask q next =>
          obtain ⟨rfl, rfl⟩ := Script.ask.inj at_bind
          exact .inl ⟨next _, _, rfl, there.tail (.asked answer within)⟩
        | quit => cases at_bind
    · exact .inr ⟨a, u, ended, later.tail step⟩

theorem Meets.bind {c : Script Q R α} {f : α → Script Q R β} {mid : α → σ → Prop} {post : β → σ → Prop}
    (first : S.Meets P c mid) (later : ∀ a, S.Meets (mid a) (f a) post) : S.Meets P (c.bind f) post := by
  intro s start within reached path
  rcases reached_bind path with ⟨c', t, rfl, there⟩ | ⟨a, u, ended, rest⟩
  · have sound := first s start within _ there
    cases c' with
    | done a => exact later a t sound (reached_within within there) _ .refl
    | ask q next => exact sound
    | quit => exact sound
  · exact later a u (first s start within _ ended) (reached_within within ended) reached rest

/-- What neither the others nor the script undo goes along. -/
theorem Meets.frame {F : σ → Prop} {c : Script Q R α} (meets : S.Meets P c post) (stable : S.Stable F)
    (kept : ∀ s s', S.own s s' → F s → F s') : S.Meets (fun s => P s ∧ F s) c (fun a s => post a s ∧ F s) := by
  intro s start within reached path
  have along : F reached.2 := by
    induction path with
    | refl => exact start.2
    | tail earlier step ih =>
      cases step with
      | others change inside => exact stable _ _ change ih
      | asked answer inside => exact kept _ _ ((meets s start.1 within _ earlier).1 _ _ answer inside) ih
  have sound := meets s start.1 within reached path
  obtain ⟨c', t⟩ := reached
  cases c' with
  | done a => exact ⟨sound, along⟩
  | ask q next => exact sound
  | quit => exact sound

theorem Meets.request {q : Q} {post : R q → σ → Prop} (stable : S.Stable P) (kept : ∀ x, S.Stable (post x))
    (served : ∀ s x s', P s → S.within s → S.serve q s = some (x, s') → S.within s' → S.own s s' ∧ post x s')
    (refused : ∀ s, P s → S.within s → S.serve q s = none → S.refused q s) : S.Meets P (Script.request q) post :=
  Meets.ask stable served refused (fun x => Meets.done (kept x) (fun _ holds => holds))

/-- A loop, by what holds after each of its rounds. -/
theorem Meets.each {body : β → Script Q R Unit} {I : List β → σ → Prop} {l : List β}
    (rounds : ∀ before b rest, before ++ b :: rest = l → S.Meets (I before) (body b) (fun _ => I (before ++ [b])))
    (stable : S.Stable (I l)) : S.Meets (I []) (Script.each body l) (fun _ => I l) := by
  have general : ∀ before rest, before ++ rest = l → S.Meets (I before) (Script.each body rest) (fun _ => I l) := by
    intro before rest whole
    induction rest generalizing before with
    | nil =>
      rw [List.append_nil] at whole
      subst whole
      exact Meets.done stable (fun _ holds => holds)
    | cons b rest ih =>
      apply (rounds before b rest whole).bind
      intro _
      exact ih (before ++ [b]) (by rw [List.append_assoc]; exact whole)
  exact general [] l rfl

theorem Meets.collect {body : β → Script Q R γ} {I : List β → List γ → σ → Prop} {l : List β}
    (rounds : ∀ before cs b rest, before ++ b :: rest = l → S.Meets (I before cs) (body b) (fun c => I (before ++ [b]) (cs ++ [c])))
    (stable : ∀ cs, S.Stable (I l cs)) : S.Meets (I [] []) (Script.collect body l) (I l) := by
  have general : ∀ before cs rest, before ++ rest = l →
      S.Meets (I before cs) (Script.collect body rest) (fun ds => I l (cs ++ ds)) := by
    intro before cs rest whole
    induction rest generalizing before cs with
    | nil =>
      rw [List.append_nil] at whole
      subst whole
      apply Meets.done (stable cs)
      intro s holds
      rwa [List.append_nil]
    | cons b rest ih =>
      apply (rounds before cs b rest whole).bind
      intro c
      apply (ih (before ++ [b]) (cs ++ [c]) (by rw [List.append_assoc]; exact whole)).bind
      intro ds
      apply Meets.done (stable _)
      intro s holds
      rwa [List.append_cons]
  exact general [] [] l rfl

end Setting

/-! ## Scripts side by side -/

/-- Scripts that ask one server, with what each relies on and what it promises. -/
structure Scripts (ι Q : Type) (R : Q → Type) (σ α : Type) where
  serve : (q : Q) → σ → Option (R q × σ)
  within : σ → Prop
  /-- The changes by others than the scripts. -/
  outside : σ → σ → Prop
  script : ι → Script Q R α
  others : ι → σ → σ → Prop
  own : ι → σ → σ → Prop
  refused : ι → Q → σ → Prop
  quits : ι → σ → Prop
  before : ι → σ → Prop
  after : ι → α → σ → Prop

namespace Scripts
variable {ι Q : Type} {R : Q → Type} {σ α : Type} [DecidableEq ι] (T : Scripts ι Q R σ α)

def setting (i : ι) : Setting Q R σ := ⟨T.serve, T.others i, T.own i, T.refused i, T.quits i, T.within⟩

/-- What is left of each script, and the state. Each may be started at any time, also while it runs, and is
then at its beginning again. -/
inductive Step : (ι → Script Q R α) × σ → (ι → Script Q R α) × σ → Prop
  | outside {cs : ι → Script Q R α} {s s' : σ} (change : T.outside s s') (inside : T.within s') : Step (cs, s) (cs, s')
  | start {cs : ι → Script Q R α} {s : σ} (i : ι) : Step (cs, s) (Function.update cs i (T.script i), s)
  | asked {cs : ι → Script Q R α} {s s' : σ} {i : ι} {q : Q} {next : R q → Script Q R α} {x : R q}
    (turn : cs i = .ask q next) (answer : T.serve q s = some (x, s')) (inside : T.within s') :
    Step (cs, s) (Function.update cs i (next x), s')

/-- Each script relies on no more than what the others promise. -/
structure Compatible : Prop where
  apart : ∀ i j s s', i ≠ j → T.own i s s' → T.others j s s'
  outside : ∀ i s s', T.outside s s' → T.others i s s'
  stable : ∀ i, (T.setting i).Stable (T.before i)
  ready : ∀ i s s', T.before i s → T.own i s s' → T.before i s'
  meets : ∀ i, (T.setting i).Meets (T.before i) (T.script i) (T.after i)

variable {T}

/-- Whatever the interleaving and however often scripts are cut off and started again, each is where it would be
with the others as mere surroundings. -/
theorem reached_each (compatible : T.Compatible) {s : σ} (start : ∀ i, T.before i s) (within : T.within s)
    {reached : (ι → Script Q R α) × σ} (path : ReflTransGen T.Step (fun _ => .quit, s) reached) :
    T.within reached.2 ∧ ∀ i, T.before i reached.2 ∧ (reached.1 i = .quit ∨
      ∃ u, T.before i u ∧ T.within u ∧ ReflTransGen (T.setting i).Step (T.script i, u) (reached.1 i, reached.2)) := by
  induction path with
  | refl => exact ⟨within, fun i => ⟨start i, .inl rfl⟩⟩
  | tail _ step ih =>
    obtain ⟨inside, each⟩ := ih
    cases step with
    | outside change inside' =>
      refine ⟨inside', fun i => ⟨compatible.stable i _ _ (compatible.outside i _ _ change) (each i).1, ?_⟩⟩
      rcases (each i).2 with idle | ⟨u, before, within, there⟩
      · exact .inl idle
      · exact .inr ⟨u, before, within, there.tail (.others (compatible.outside i _ _ change) inside')⟩
    | @start cs s i =>
      refine ⟨inside, fun j => ⟨(each j).1, ?_⟩⟩
      by_cases same : j = i
      · subst same
        dsimp only
        rw [Function.update_self]
        exact .inr ⟨s, (each j).1, inside, .refl⟩
      · dsimp only
        rw [Function.update_of_ne same]
        exact (each j).2
    | @asked cs s s' i q next x turn answer inside' =>
      -- the script whose turn it is keeps its promise
      have promise : T.own i s s' := by
        obtain ⟨before, idle | ⟨u, before', within', there⟩⟩ := each i
        · cases turn.symm.trans idle
        · dsimp only at there
          rw [turn] at there
          exact (compatible.meets i u before' within' _ there).1 x s' answer inside'
      refine ⟨inside', fun j => ?_⟩
      by_cases same : j = i
      · subst same
        refine ⟨compatible.ready j _ _ (each j).1 promise, .inr ?_⟩
        obtain ⟨before, idle | ⟨u, before', within', there⟩⟩ := each j
        · cases turn.symm.trans idle
        · dsimp only at there ⊢
          rw [turn] at there
          rw [Function.update_self]
          exact ⟨u, before', within', there.tail (.asked answer inside')⟩
      · have change := compatible.apart i j _ _ (Ne.symm same) promise
        refine ⟨compatible.stable j _ _ change (each j).1, ?_⟩
        dsimp only
        rw [Function.update_of_ne same]
        rcases (each j).2 with idle | ⟨u, before', within', there⟩
        · exact .inl idle
        · exact .inr ⟨u, before', within', there.tail (.others change inside')⟩

theorem reached_sound (compatible : T.Compatible) {s : σ} (start : ∀ i, T.before i s) (within : T.within s)
    {cs : ι → Script Q R α} {t : σ} (path : ReflTransGen T.Step (fun _ => .quit, s) (cs, t)) (i : ι) :
    cs i = .quit ∨ (T.setting i).Sound (T.after i) (cs i, t) := by
  rcases ((reached_each compatible start within path).2 i).2 with idle | ⟨u, before, within', there⟩
  · exact .inl idle
  · exact .inr (compatible.meets i u before within' _ there)

/-- A script that is done has what it is for. -/
theorem reached_done (compatible : T.Compatible) {s : σ} (start : ∀ i, T.before i s) (within : T.within s)
    {cs : ι → Script Q R α} {t : σ} (path : ReflTransGen T.Step (fun _ => .quit, s) (cs, t)) {i : ι} {a : α}
    (ended : cs i = .done a) : T.after i a t := by
  rcases reached_sound compatible start within path i with idle | sound
  · cases ended.symm.trans idle
  · rw [ended] at sound
    exact sound

/-- The next request of a script does what the script may, and is refused only where it may be. -/
theorem reached_ask (compatible : T.Compatible) {s : σ} (start : ∀ i, T.before i s) (within : T.within s)
    {cs : ι → Script Q R α} {t : σ} (path : ReflTransGen T.Step (fun _ => .quit, s) (cs, t)) {i : ι} {q : Q}
    {next : R q → Script Q R α} (turn : cs i = .ask q next) :
    (∀ x t', T.serve q t = some (x, t') → T.within t' → T.own i t t') ∧ (T.serve q t = none → T.refused i q t) := by
  rcases reached_sound compatible start within path i with idle | sound
  · cases turn.symm.trans idle
  · rw [turn] at sound
    exact sound

/-- A script that is left alone. -/
theorem path_of_run {ok : σ → Bool} (inside : ∀ s, ok s = true → T.within s) {cs : ι → Script Q R α} {i : ι} {c : Script Q R α}
    (turn : cs i = c) {s t : σ} {a : α} (ends : c.run T.serve ok s = some (a, t)) :
    ReflTransGen T.Step (cs, s) (Function.update cs i (.done a), t) := by
  induction c generalizing cs s with
  | done b =>
    obtain ⟨rfl, rfl⟩ := Prod.mk.inj (Option.some.inj ends)
    rw [← turn, Function.update_eq_self]
  | ask q next ih =>
    rw [Script.run] at ends
    cases answer : T.serve q s with
    | none =>
      rw [answer] at ends
      cases ends
    | some answered =>
      obtain ⟨x, s'⟩ := answered
      rw [answer] at ends
      dsimp only at ends
      split_ifs at ends with fine
      have later : ReflTransGen T.Step (Function.update cs i (next x), s') (Function.update (Function.update cs i (next x)) i (.done a), t) :=
        ih x (by rw [Function.update_self]) ends
      rw [Function.update_idem] at later
      exact later.head (.asked turn answer (inside s' fine))
  | quit => cases ends

end Scripts
end XpBuilder
