/-! Computations on a database session. A session holds the state its own
statements see and the state last committed; an exception leaves the session as
it is, and only a commit makes changes last. -/

namespace XpBuilder

structure Session (σ : Type) where
  working : σ
  stored : σ

namespace Session
variable {σ : Type}

/-- Nothing is pending. -/
def clean (m : σ) : Session σ := ⟨m, m⟩

@[simp] theorem clean_working (m : σ) : (clean m).working = m := rfl
@[simp] theorem clean_stored (m : σ) : (clean m).stored = m := rfl

end Session

def Tx (ε σ α : Type) : Type := Session σ → Except ε α × Session σ

namespace Tx
variable {ε σ α β : Type}

instance : Monad (Tx ε σ) where
  pure a := fun s => (.ok a, s)
  bind x f := fun s =>
    match x s with
    | (.ok a, s') => f a s'
    | (.error e, s') => (.error e, s')

def read (f : σ → α) : Tx ε σ α := fun s => (.ok (f s.working), s)

def update (f : σ → σ) : Tx ε σ Unit := fun s => (.ok (), ⟨f s.working, s.stored⟩)

def raise (e : ε) : Tx ε σ α := fun s => (.error e, s)

/-- A refused commit raises and stores nothing. -/
def commit (refusal : Option ε) : Tx ε σ Unit := fun s =>
  match refusal with
  | none => (.ok (), ⟨s.working, s.working⟩)
  | some e => (.error e, s)

def rollback : Tx ε σ Unit := fun s => (.ok (), ⟨s.stored, s.stored⟩)

/-- `try: body except Exception: handler` -/
def attempt (body : Tx ε σ α) (handler : Tx ε σ α) : Tx ε σ α := fun s =>
  match body s with
  | (.ok a, s') => (.ok a, s')
  | (.error _, s') => handler s'

@[simp] theorem pure_apply (a : α) (s : Session σ) : (pure a : Tx ε σ α) s = (.ok a, s) := rfl

theorem bind_apply (x : Tx ε σ α) (f : α → Tx ε σ β) (s : Session σ) :
    (x >>= f) s =
      match x s with
      | (.ok a, s') => f a s'
      | (.error e, s') => (.error e, s') := rfl

@[simp] theorem read_bind_apply (g : σ → α) (f : α → Tx ε σ β) (s : Session σ) :
    (read g >>= f) s = f (g s.working) s := rfl

@[simp] theorem update_bind_apply (g : σ → σ) (f : Unit → Tx ε σ β) (s : Session σ) :
    (update g >>= f) s = f () ⟨g s.working, s.stored⟩ := rfl

@[simp] theorem raise_apply (e : ε) (s : Session σ) : (raise e : Tx ε σ α) s = (.error e, s) := rfl

@[simp] theorem raise_bind_apply (e : ε) (f : α → Tx ε σ β) (s : Session σ) :
    ((raise e : Tx ε σ α) >>= f) s = (.error e, s) := rfl

@[simp] theorem commit_none_apply (s : Session σ) :
    (commit none : Tx ε σ Unit) s = (.ok (), Session.clean s.working) := rfl

@[simp] theorem commit_some_apply (e : ε) (s : Session σ) :
    (commit (some e) : Tx ε σ Unit) s = (.error e, s) := rfl

theorem bind_of_ok {x : Tx ε σ α} {s s' : Session σ} {a : α} (h : x s = (.ok a, s'))
    (f : α → Tx ε σ β) : (x >>= f) s = f a s' := by rw [bind_apply, h]

theorem bind_of_error {x : Tx ε σ α} {s s' : Session σ} {e : ε} (h : x s = (.error e, s'))
    (f : α → Tx ε σ β) : (x >>= f) s = (.error e, s') := by rw [bind_apply, h]

/-- What is stored when the request handler rolls back after an exception. -/
def finish (x : Tx ε σ α) (m : σ) : Except ε α × σ :=
  let result := x (Session.clean m)
  (result.1, result.2.stored)

end Tx
end XpBuilder
