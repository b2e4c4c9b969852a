import StoryServer.Fault

/-!
# Actions

An `Act` changes a state and may fail.  What it has done before it fails stays done: the
state comes out beside the answer or the fault.

An action that never ends fails with `Fault.endless`.  This is no fault to those who take
faults (`caught`): what they do never ends either.
-/

namespace StoryServer

/-- A step on a state that answers or fails. -/
abbrev Act (σ α : Type) := ExceptT Fault (StateM σ) α

namespace Act

/-- The answer or the fault of an action, and the state it leaves. -/
def on {σ α : Type} (act : Act σ α) (s : σ) : Except Fault α × σ := act.run.run s

/-- An answer or a fault that no state bears on. -/
def ofExcept {σ α : Type} : Except Fault α → Act σ α
  | .ok a => pure a
  | .error f => throw f

/-- An action on a part of a state. -/
def within {σ τ α : Type} (part : σ → τ) (replace : σ → τ → σ) (act : Act τ α) : Act σ α :=
  fun s =>
    let (r, t) := act.on (part s)
    (r, replace s t)

/-- An action whose fault is taken as an answer. -/
def attempt {σ α : Type} (act : Act σ α) : Act σ (Except Fault α) :=
  fun s =>
    let (r, t) := act.on s
    (.ok r, t)

/-- An action whose fault is taken as an answer, if it ends. -/
def caught {σ α : Type} (act : Act σ α) : Act σ (Except Fault α) :=
  fun s =>
    match act.on s with
    | (.error .endless, t) => (.error .endless, t)
    | (r, t) => (.ok r, t)

/-- An action, and when it fails another one before the fault goes on. -/
def orElseDo {σ α : Type} (act : Act σ α) (rescue : Act σ Unit) : Act σ α := do
  match ← attempt act with
  | .ok a => return a
  | .error f =>
    rescue
    throw f

/-- An action, and another one whether it fails or not. -/
def andFinally {σ α : Type} (act : Act σ α) (last : Act σ Unit) : Act σ α := do
  let r ← attempt act
  last
  ofExcept r

/-! ## Running an action

`on` on each way to build an action.  With these no proof about an action looks into the
monad. -/

section Running

variable {σ τ α β : Type}

@[simp] theorem on_pure (a : α) (s : σ) : (pure a : Act σ α).on s = (.ok a, s) := rfl

@[simp] theorem on_throw (f : Fault) (s : σ) : (throw f : Act σ α).on s = (.error f, s) := rfl

@[simp] theorem on_get (s : σ) : (get : Act σ σ).on s = (.ok s, s) := rfl

@[simp] theorem on_set (s t : σ) : (set t : Act σ PUnit).on s = (.ok ⟨⟩, t) := rfl

@[simp] theorem on_modify (f : σ → σ) (s : σ) :
    (modify f : Act σ PUnit).on s = (.ok ⟨⟩, f s) := rfl

@[simp] theorem on_ofExcept (r : Except Fault α) (s : σ) : (ofExcept r).on s = (r, s) := by
  cases r <;> rfl

@[simp] theorem on_attempt (act : Act σ α) (s : σ) :
    (attempt act).on s = (.ok (act.on s).1, (act.on s).2) := rfl

theorem on_caught (act : Act σ α) (s : σ) : (caught act).on s =
    match act.on s with
    | (.error .endless, t) => (.error .endless, t)
    | (r, t) => (.ok r, t) := rfl

/-- What an action that ends answers is its answer or its fault. -/
theorem on_caught_of_ends {act : Act σ α} {s : σ} (h : (act.on s).1 ≠ .error .endless) :
    (caught act).on s = (.ok (act.on s).1, (act.on s).2) := by
  rw [on_caught]
  generalize act.on s = run at h ⊢
  obtain ⟨r, t⟩ := run
  split
  · next heq => cases heq; exact absurd rfl h
  · next heq => cases heq; rfl

theorem on_caught_of_endless {act : Act σ α} {s : σ} (h : (act.on s).1 = .error .endless) :
    (caught act).on s = (.error .endless, (act.on s).2) := by
  rw [on_caught]
  generalize act.on s = run at h ⊢
  obtain ⟨r, t⟩ := run
  cases h
  rfl

/-- The state after an action does not depend on whether its fault is taken. -/
@[simp] theorem after_caught (act : Act σ α) (s : σ) :
    ((caught act).on s).2 = (act.on s).2 := by
  by_cases h : (act.on s).1 = .error .endless
  · rw [on_caught_of_endless h]
  · rw [on_caught_of_ends h]

@[simp] theorem on_within (part : σ → τ) (replace : σ → τ → σ) (act : Act τ α) (s : σ) :
    (within part replace act).on s =
      ((act.on (part s)).1, replace s (act.on (part s)).2) := rfl

theorem on_bind (act : Act σ α) (next : α → Act σ β) (s : σ) :
    (act >>= next).on s =
      match act.on s with
      | (.ok a, t) => (next a).on t
      | (.error f, t) => (.error f, t) := by
  simp only [on, bind, ExceptT.bind, ExceptT.run, ExceptT.mk, StateT.run, StateT.bind]
  generalize act s = r
  obtain ⟨r, t⟩ := r
  cases r <;> rfl

theorem on_bind_of_ok {act : Act σ α} {next : α → Act σ β} {s t : σ} {a : α}
    (h : act.on s = (.ok a, t)) : (act >>= next).on s = (next a).on t := by
  rw [on_bind, h]

theorem on_bind_of_error {act : Act σ α} {next : α → Act σ β} {s t : σ} {f : Fault}
    (h : act.on s = (.error f, t)) : (act >>= next).on s = (.error f, t) := by
  rw [on_bind, h]

/-- What an action in two steps consists of, if it has an answer. -/
theorem of_on_bind {act : Act σ α} {next : α → Act σ β} {s : σ} {b : β}
    (h : ((act >>= next).on s).1 = .ok b) :
    ∃ a t, act.on s = (.ok a, t) ∧ (act >>= next).on s = (next a).on t := by
  rw [on_bind] at h ⊢
  generalize act.on s = r at h ⊢
  obtain ⟨r, t⟩ := r
  cases r with
  | ok a => exact ⟨a, t, rfl, rfl⟩
  | error f => cases h

@[simp] theorem on_map (g : α → β) (act : Act σ α) (s : σ) :
    (g <$> act).on s = ((act.on s).1.map g, (act.on s).2) := by
  simp only [on, Functor.map, ExceptT.map, ExceptT.run, ExceptT.mk, StateT.run, StateT.bind, bind]
  generalize act s = r
  obtain ⟨r, t⟩ := r
  cases r <;> rfl

theorem on_orElseDo_of_ok {act : Act σ α} {rescue : Act σ Unit} {s t : σ} {a : α}
    (h : act.on s = (.ok a, t)) : (orElseDo act rescue).on s = (.ok a, t) := by
  rw [orElseDo, on_bind_of_ok (on_attempt act s), h]
  rfl

theorem on_orElseDo_of_error {act : Act σ α} {rescue : Act σ Unit} {s t u : σ} {f : Fault}
    (h : act.on s = (.error f, t)) (hr : rescue.on t = (.ok (), u)) :
    (orElseDo act rescue).on s = (.error f, u) := by
  rw [orElseDo, on_bind_of_ok (on_attempt act s), h]
  exact on_bind_of_ok hr

theorem on_andFinally {act : Act σ α} {last : Act σ Unit} {s t : σ}
    (h : last.on (act.on s).2 = (.ok (), t)) : (andFinally act last).on s = ((act.on s).1, t) := by
  rw [andFinally, on_bind_of_ok (on_attempt act s), on_bind_of_ok h, on_ofExcept]

end Running

end Act

end StoryServer
