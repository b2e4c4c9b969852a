import Mathlib.Order.Defs.Unbundled
import StoryServer.Story.Engine

/-!
# What actions lead to

An action *leads* along a relation of states when its run from any state ends in a related
one, whether it answers or fails.  The rules follow the ways to build an action, so a
statement about a definition is proved along its text; the relation must be a preorder.

An action *keeps* a view of the state when the view is the same after it as before: it
leads along `Same view`.  `StoryEngine.Leads` and `StoryEngine.Keeps` say of an engine that
everything but opening and closing a story does so.
-/

namespace StoryServer

/-- Two states with the same view. -/
def Same {σ γ : Type} (view : σ → γ) (s t : σ) : Prop := view t = view s

instance {σ γ : Type} (view : σ → γ) : IsPreorder σ (Same view) where
  refl _ := rfl
  trans _ _ _ h h' := Eq.trans h' h

/-- What holds of the first state holds of the second. -/
def Upholds {σ : Type} (P : σ → Prop) (s t : σ) : Prop := P s → P t

instance {σ : Type} (P : σ → Prop) : IsPreorder σ (Upholds P) where
  refl _ := fun h => h
  trans _ _ _ h h' := h' ∘ h

namespace Act

section Leads

variable {σ τ α β : Type} {R : σ → σ → Prop}

/-- Every run of the action ends in a related state. -/
def Leads (R : σ → σ → Prop) (act : Act σ α) : Prop := ∀ s, R s (act.on s).2

theorem leads_modify {f : σ → σ} (h : ∀ s, R s (f s)) : Leads R (modify f : Act σ PUnit) :=
  fun s => h s

/-- An action on a part leads as far as the replaced parts do. -/
theorem leads_within {part : σ → τ} {replace : σ → τ → σ} {S : τ → τ → Prop} {act : Act τ α}
    (h : Leads S act) (hr : ∀ s t, S (part s) t → R s (replace s t)) :
    Leads R (within part replace act) := fun s => hr s _ (h (part s))

theorem leads_attempt {act : Act σ α} (h : Leads R act) : Leads R (attempt act) := fun s => h s

theorem leads_caught {act : Act σ α} (h : Leads R act) : Leads R (caught act) := by
  intro s
  rw [after_caught]
  exact h s

/-- After `get` the state read is the state that the rest starts from. -/
theorem leads_get_bind {next : σ → Act σ α} (h : ∀ s, R s ((next s).on s).2) :
    Leads R (get >>= next) := by
  intro s
  rw [on_bind, on_get]
  exact h s

theorem leads_map {g : α → β} {act : Act σ α} (h : Leads R act) : Leads R (g <$> act) := by
  intro s
  rw [on_map]
  exact h s

variable [IsPreorder σ R]

theorem leads_pure (a : α) : Leads R (pure a : Act σ α) := fun s => refl_of R s

theorem leads_throw (f : Fault) : Leads R (throw f : Act σ α) := fun s => refl_of R s

theorem leads_get : Leads R (get : Act σ σ) := fun s => refl_of R s

theorem leads_ofExcept (r : Except Fault α) : Leads R (ofExcept r : Act σ α) := by
  intro s
  rw [on_ofExcept]
  exact refl_of R s

theorem leads_bind {act : Act σ α} {next : α → Act σ β} (h : Leads R act)
    (hn : ∀ a, Leads R (next a)) : Leads R (act >>= next) := by
  intro s
  have hs := h s
  rw [on_bind]
  generalize act.on s = run at hs
  obtain ⟨r, t⟩ := run
  cases r with
  | ok a => exact trans_of R hs (hn a t)
  | error f => exact hs

/-- Nothing comes after a fault. -/
theorem leads_throw_bind (f : Fault) (next : α → Act σ β) :
    Leads R ((throw f : Act σ α) >>= next) := by
  intro s
  rw [on_bind, on_throw]
  exact refl_of R s

theorem leads_orElseDo {act : Act σ α} {rescue : Act σ Unit} (h : Leads R act)
    (hr : Leads R rescue) : Leads R (orElseDo act rescue) := by
  refine leads_bind (leads_attempt h) fun r => ?_
  cases r with
  | ok a => exact leads_pure a
  | error f => exact leads_bind hr fun _ => leads_throw f

end Leads

section Keeps

variable {σ τ α β γ δ : Type} {view : σ → γ}

/-- The view is the same after the action as before. -/
def Keeps (view : σ → γ) (act : Act σ α) : Prop := ∀ s, view (act.on s).2 = view s

theorem keeps_pure (a : α) : Keeps view (pure a : Act σ α) := fun _ => rfl

theorem keeps_throw (f : Fault) : Keeps view (throw f : Act σ α) := fun _ => rfl

theorem keeps_get : Keeps view (get : Act σ σ) := fun _ => rfl

theorem keeps_ofExcept (r : Except Fault α) : Keeps view (ofExcept r : Act σ α) :=
  leads_ofExcept (R := Same view) r

theorem keeps_modify {f : σ → σ} (h : ∀ s, view (f s) = view s) :
    Keeps view (modify f : Act σ PUnit) := fun s => h s

theorem keeps_get_bind {next : σ → Act σ α} (h : ∀ s, view ((next s).on s).2 = view s) :
    Keeps view (get >>= next) := leads_get_bind (R := Same view) h

theorem keeps_bind {act : Act σ α} {next : α → Act σ β} (h : Keeps view act)
    (hn : ∀ a, Keeps view (next a)) : Keeps view (act >>= next) :=
  leads_bind (R := Same view) h hn

theorem keeps_map {g : α → β} {act : Act σ α} (h : Keeps view act) : Keeps view (g <$> act) :=
  leads_map (R := Same view) h

theorem keeps_caught {act : Act σ α} (h : Keeps view act) : Keeps view (caught act) :=
  leads_caught (R := Same view) h

/-- An action on a part keeps what does not look at the part, and what looks at the part
through a view that the action keeps. -/
theorem keeps_within {part : σ → τ} {replace : σ → τ → σ} {act : Act τ α} {inner : τ → δ}
    (h : Keeps inner act)
    (hr : ∀ s t, inner t = inner (part s) → view (replace s t) = view s) :
    Keeps view (within part replace act) := fun s => hr s _ (h (part s))

end Keeps

end Act

namespace Stage

variable {ε α γ : Type} {view : ε → γ} {R : ε → ε → Prop}

/-- A relation of engine states, as one of stages. -/
def Over (R : ε → ε → Prop) (s t : Stage ε) : Prop := R s.engine t.engine

instance [IsPreorder ε R] : IsPreorder (Stage ε) (Over R) where
  refl s := refl_of R s.engine
  trans _ _ _ h h' := trans_of R h h'

theorem leads_note [IsPreorder ε R] (line : String) : Act.Leads (Over R) (note line) :=
  fun s => refl_of R s.engine

theorem leads_inEngine {act : Act ε α} (h : Act.Leads R act) : Act.Leads (Over R) (inEngine act) :=
  Act.leads_within h fun _ _ ht => ht

theorem keeps_note (line : String) : Act.Keeps (fun s : Stage ε => view s.engine) (note line) :=
  fun _ => rfl

theorem keeps_inEngine {act : Act ε α} (h : Act.Keeps view act) :
    Act.Keeps (fun s : Stage ε => view s.engine) (inEngine act) :=
  Act.keeps_within h fun _ _ ht => ht

end Stage

/-- Everything but opening, restoring and closing a story leads along a relation of the
engine's states. -/
structure StoryEngine.LeadsUnrestored {ε : Type} (engine : StoryEngine ε) (R : ε → ε → Prop) :
    Prop where
  compile (source : String) : Act.Leads (Stage.Over R) (engine.compile source)
  continueStory (id : StoryId) : Act.Leads (Stage.Over R) (engine.continueStory id)
  continueLine (id : StoryId) : Act.Leads (Stage.Over R) (engine.continueLine id)
  canContinue (id : StoryId) : Act.Leads (Stage.Over R) (engine.canContinue id)
  choose (id : StoryId) (index : Int) : Act.Leads (Stage.Over R) (engine.choose id index)
  choices (id : StoryId) : Act.Leads (Stage.Over R) (engine.choices id)
  getVariable (id : StoryId) (name : String) : Act.Leads (Stage.Over R) (engine.getVariable id name)
  setVariable (id : StoryId) (name : String) (v : Json) :
    Act.Leads (Stage.Over R) (engine.setVariable id name v)
  saveState (id : StoryId) : Act.Leads (Stage.Over R) (engine.saveState id)
  reset (id : StoryId) : Act.Leads (Stage.Over R) (engine.reset id)
  evaluate (id : StoryId) (name : String) (arguments : List Json) :
    Act.Leads (Stage.Over R) (engine.evaluate id name arguments)
  globalTags (id : StoryId) : Act.Leads (Stage.Over R) (engine.globalTags id)
  bidify (text : String) : Act.Leads (Stage.Over R) (engine.bidify text)
  stripBidi (text : String) : Act.Leads (Stage.Over R) (engine.stripBidi text)
  bidifyCompiled (text : String) : Act.Leads (Stage.Over R) (engine.bidifyCompiled text)

/-- Everything but opening and closing a story leads along a relation of the engine's
states. -/
structure StoryEngine.Leads {ε : Type} (engine : StoryEngine ε) (R : ε → ε → Prop) : Prop
    extends engine.LeadsUnrestored R where
  loadState (id : StoryId) (text : String) : Act.Leads (Stage.Over R) (engine.loadState id text)

/-- Everything but opening and closing a story keeps a view of the engine's state. -/
def StoryEngine.Keeps {ε γ : Type} (engine : StoryEngine ε) (view : ε → γ) : Prop :=
  engine.Leads (Same view)

end StoryServer
