import StoryServer.Proofs.Frame

/-!
# Two actions that do alike

Two actions *agree* along a relation of their states when, started in related states, both
answer or both fail, what they say is related, and the states are related afterwards.  The
rules follow the ways to build an action, as those for `Act.Keeps` do.

Two actions on one kind of state are *alike* along a relation when they agree along it and say
the same.  An action that is alike to itself is *blind* to where related states differ.
-/

namespace StoryServer

namespace Act

section Agree

variable {σ τ σ' τ' α β γ δ : Type} {F : Fault → Fault → Prop} {Q : α → β → Prop}
variable {S : γ → δ → Prop} {R : σ → τ → Prop}

/-- Two answers, or two faults, that are related. -/
def Related (F : Fault → Fault → Prop) (Q : α → β → Prop) : Except Fault α → Except Fault β → Prop
  | .ok a, .ok b => Q a b
  | .error f, .error g => F f g
  | _, _ => False

def Agree (R : σ → τ → Prop) (F : Fault → Fault → Prop) (Q : α → β → Prop) (act : Act σ α)
    (act' : Act τ β) : Prop :=
  ∀ s t, R s t → Related F Q (act.on s).1 (act'.on t).1 ∧ R (act.on s).2 (act'.on t).2

theorem Related.mono {Q' : α → β → Prop} {r : Except Fault α} {r' : Except Fault β}
    (h : Related F Q r r') (hq : ∀ a b, Q a b → Q' a b) : Related F Q' r r' := by
  cases r <;> cases r' <;> first | exact h | exact hq _ _ h

theorem related_refl {Q : α → α → Prop} (hf : ∀ f, F f f) (hq : ∀ a, Q a a)
    (r : Except Fault α) : Related F Q r r := by
  cases r with
  | error f => exact hf f
  | ok a => exact hq a

theorem agree_pure {a : α} {b : β} (h : Q a b) : Agree R F Q (pure a) (pure b) :=
  fun _ _ hR => ⟨h, hR⟩

theorem agree_throw {f g : Fault} (h : F f g) : Agree R F Q (throw f) (throw g) :=
  fun _ _ hR => ⟨h, hR⟩

theorem agree_ofExcept {r : Except Fault α} {r' : Except Fault β} (h : Related F Q r r') :
    Agree R F Q (ofExcept r) (ofExcept r') := by
  intro s t hR
  rw [on_ofExcept, on_ofExcept]
  exact ⟨h, hR⟩

theorem agree_modify {f : σ → σ} {g : τ → τ} (h : ∀ s t, R s t → R (f s) (g t)) :
    Agree R F (fun _ _ => True) (modify f) (modify g) := fun s t hR => ⟨trivial, h s t hR⟩

theorem agree_bind {act : Act σ α} {act' : Act τ β} {next : α → Act σ γ} {next' : β → Act τ δ}
    (h : Agree R F Q act act') (hn : ∀ a b, Q a b → Agree R F S (next a) (next' b)) :
    Agree R F S (act >>= next) (act' >>= next') := by
  intro s t hR
  obtain ⟨hres, hstate⟩ := h s t hR
  rw [on_bind, on_bind]
  generalize act.on s = run at hres hstate
  generalize act'.on t = run' at hres hstate
  obtain ⟨r, s'⟩ := run
  obtain ⟨r', t'⟩ := run'
  cases r with
  | error f =>
      cases r' with
      | error g => exact ⟨hres, hstate⟩
      | ok b => exact hres.elim
  | ok a =>
      cases r' with
      | error g => exact hres.elim
      | ok b => exact hn a b hres s' t' hstate

/-- Nothing comes after a fault. -/
theorem agree_throw_bind {f g : Fault} (h : F f g) (next : α → Act σ γ) (next' : β → Act τ δ) :
    Agree R F S ((throw f : Act σ α) >>= next) ((throw g : Act τ β) >>= next') :=
  agree_bind (Q := fun _ _ => False) (agree_throw h) fun _ _ hQ => hQ.elim

theorem agree_attempt {act : Act σ α} {act' : Act τ β} (h : Agree R F Q act act') :
    Agree R F (Related F Q) (attempt act) (attempt act') := fun s t hR => h s t hR

/-- Of two related runs either both end or neither does, if related faults are so. -/
theorem Related.endless_iff {r : Except Fault α} {r' : Except Fault β} (h : Related F Q r r')
    (hF : ∀ f g, F f g → (f = .endless ↔ g = .endless)) :
    r = .error .endless ↔ r' = .error .endless := by
  cases r with
  | error f =>
      cases r' with
      | error g => simpa using hF f g h
      | ok b => exact h.elim
  | ok a =>
      cases r' with
      | error g => exact h.elim
      | ok b => simp

theorem agree_caught {act : Act σ α} {act' : Act τ β} (h : Agree R F Q act act')
    (hF : ∀ f g, F f g → (f = .endless ↔ g = .endless)) :
    Agree R F (Related F Q) (caught act) (caught act') := by
  intro s t hR
  obtain ⟨hres, hstate⟩ := h s t hR
  have hends := hres.endless_iff hF
  by_cases he : (act.on s).1 = .error .endless
  · have he' := hends.mp he
    rw [on_caught_of_endless he, on_caught_of_endless he']
    rw [he, he'] at hres
    exact ⟨hres, hstate⟩
  · rw [on_caught_of_ends he, on_caught_of_ends (mt hends.mpr he)]
    exact ⟨hres, hstate⟩

theorem Agree.mono {Q' : α → β → Prop} {act : Act σ α} {act' : Act τ β} (h : Agree R F Q act act')
    (hq : ∀ a b, Q a b → Q' a b) : Agree R F Q' act act' :=
  fun s t hR => ⟨(h s t hR).1.mono hq, (h s t hR).2⟩

/-- Actions on parts agree along what relates the parts, if the wholes stay related. -/
theorem agree_within {R' : σ' → τ' → Prop} {part : σ → σ'} {replace : σ → σ' → σ}
    {part' : τ → τ'} {replace' : τ → τ' → τ} {act : Act σ' α} {act' : Act τ' β}
    (h : Agree R' F Q act act') (hp : ∀ s t, R s t → R' (part s) (part' t))
    (hr : ∀ s t x y, R s t → R' x y → R (replace s x) (replace' t y)) :
    Agree R F Q (within part replace act) (within part' replace' act') := by
  intro s t hR
  obtain ⟨hres, hstate⟩ := h (part s) (part' t) (hp s t hR)
  exact ⟨hres, hr s t _ _ hR hstate⟩

/-- After `get` the states read are those that the rests start from. -/
theorem agree_get_bind {next : σ → Act σ α} {next' : τ → Act τ β}
    (h : ∀ s t, R s t → Related F Q ((next s).on s).1 ((next' t).on t).1 ∧
      R ((next s).on s).2 ((next' t).on t).2) : Agree R F Q (get >>= next) (get >>= next') := by
  intro s t hR
  rw [on_bind, on_bind, on_get, on_get]
  exact h s t hR

end Agree

section Alike

variable {σ τ α β : Type} {R : σ → σ → Prop}

/-- From related states the actions say the same and leave related states. -/
def Alike (R : σ → σ → Prop) (act act' : Act σ α) : Prop := Agree R (· = ·) (· = ·) act act'

/-- The action does the same in related states. -/
abbrev Blind (R : σ → σ → Prop) (act : Act σ α) : Prop := Alike R act act

theorem eq_of_related {r r' : Except Fault α} (h : Related (· = ·) (· = ·) r r') : r = r' := by
  cases r with
  | error f =>
      cases r' with
      | error g => exact congrArg Except.error h
      | ok b => exact h.elim
  | ok a =>
      cases r' with
      | error g => exact h.elim
      | ok b => exact congrArg Except.ok h

theorem Alike.run {act act' : Act σ α} (h : Alike R act act') {s t : σ} (hR : R s t) :
    (act.on s).1 = (act'.on t).1 ∧ R (act.on s).2 (act'.on t).2 :=
  ⟨eq_of_related (h s t hR).1, (h s t hR).2⟩

theorem alike_of_on {act act' : Act σ α} (h : Blind R act) (hon : ∀ s, act'.on s = act.on s) :
    Alike R act act' := by
  intro s t hR
  rw [hon]
  exact h s t hR

theorem blind_pure (a : α) : Blind R (pure a : Act σ α) := agree_pure rfl

theorem blind_throw (f : Fault) : Blind R (throw f : Act σ α) := agree_throw rfl

theorem blind_ofExcept (r : Except Fault α) : Blind R (ofExcept r : Act σ α) :=
  agree_ofExcept (related_refl (fun _ => rfl) (fun _ => rfl) r)

theorem blind_modify {f : σ → σ} (h : ∀ s t, R s t → R (f s) (f t)) :
    Blind R (modify f : Act σ PUnit) := fun s t hR => ⟨rfl, h s t hR⟩

theorem alike_bind {act act' : Act σ α} {next next' : α → Act σ β} (h : Alike R act act')
    (hn : ∀ a, Alike R (next a) (next' a)) : Alike R (act >>= next) (act' >>= next') :=
  agree_bind h fun a _ hab => hab ▸ hn a

theorem blind_throw_bind (f : Fault) (next : α → Act σ β) :
    Blind R ((throw f : Act σ α) >>= next) := agree_throw_bind rfl next next

theorem alike_map {act act' : Act σ α} (g : α → β) (h : Alike R act act') :
    Alike R (g <$> act) (g <$> act') := by
  intro s t hR
  obtain ⟨hres, hstate⟩ := h.run hR
  rw [on_map, on_map, hres]
  exact ⟨related_refl (fun _ => rfl) (fun _ => rfl) _, hstate⟩

theorem alike_attempt {act act' : Act σ α} (h : Alike R act act') :
    Alike R (attempt act) (attempt act') :=
  (agree_attempt h).mono fun _ _ hres => eq_of_related hres

theorem alike_caught {act act' : Act σ α} (h : Alike R act act') :
    Alike R (caught act) (caught act') :=
  (agree_caught h fun _ _ hfg => hfg ▸ Iff.rfl).mono fun _ _ hres => eq_of_related hres

theorem alike_orElseDo {act act' : Act σ α} {rescue rescue' : Act σ Unit} (h : Alike R act act')
    (hr : Alike R rescue rescue') : Alike R (orElseDo act rescue) (orElseDo act' rescue') := by
  refine alike_bind (alike_attempt h) fun r => ?_
  cases r with
  | ok a => exact blind_pure a
  | error f => exact alike_bind hr fun _ => blind_throw f

end Alike

end Act

namespace Stage

variable {ε α : Type}

/-- The action does not look at the log. -/
def Blind (act : Act (Stage ε) α) : Prop := Act.Blind (Over (· = ·)) act

theorem alike_note (line line' : String) :
    Act.Alike (Over (· = ·)) (note (ε := ε) line) (note line') := fun _ _ h => ⟨rfl, h⟩

theorem blind_inEngine (act : Act ε α) : Blind (inEngine act) := by
  have hact : Act.Blind (· = ·) act := by
    rintro s _ rfl
    exact ⟨Act.related_refl (fun _ => rfl) (fun _ => rfl) _, rfl⟩
  exact Act.agree_within hact (fun _ _ h => h) fun _ _ _ _ _ h => h

end Stage

/-- No operation on stories looks at the log. -/
structure StoryEngine.Blind {ε : Type} (engine : StoryEngine ε) : Prop where
  compile (source : String) : Stage.Blind (engine.compile source)
  openSource (source : String) : Stage.Blind (engine.openSource source)
  openCompiled (text : String) : Stage.Blind (engine.openCompiled text)
  continueStory (id : StoryId) : Stage.Blind (engine.continueStory id)
  continueLine (id : StoryId) : Stage.Blind (engine.continueLine id)
  canContinue (id : StoryId) : Stage.Blind (engine.canContinue id)
  choose (id : StoryId) (index : Int) : Stage.Blind (engine.choose id index)
  choices (id : StoryId) : Stage.Blind (engine.choices id)
  getVariable (id : StoryId) (name : String) : Stage.Blind (engine.getVariable id name)
  setVariable (id : StoryId) (name : String) (v : Json) : Stage.Blind (engine.setVariable id name v)
  saveState (id : StoryId) : Stage.Blind (engine.saveState id)
  loadState (id : StoryId) (text : String) : Stage.Blind (engine.loadState id text)
  reset (id : StoryId) : Stage.Blind (engine.reset id)
  evaluate (id : StoryId) (name : String) (arguments : List Json) :
    Stage.Blind (engine.evaluate id name arguments)
  globalTags (id : StoryId) : Stage.Blind (engine.globalTags id)
  close (id : StoryId) : Stage.Blind (engine.close id)
  bidify (text : String) : Stage.Blind (engine.bidify text)
  stripBidi (text : String) : Stage.Blind (engine.stripBidi text)
  bidifyCompiled (text : String) : Stage.Blind (engine.bidifyCompiled text)

end StoryServer
