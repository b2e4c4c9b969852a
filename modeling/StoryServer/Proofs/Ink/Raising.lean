import StoryServer.Debug.Debugger
import StoryServer.Proofs.Ink.Frame

/-!
# How telling a story fails

`Raises P` says that every fault of an answer is one of which `P` holds, and `Act.Raises P` the
same of every run of an action.  The rules follow the ways to build an answer or an action.

Only the debugger finds that a story cannot be stepped (`Fault.OfStepping`).  No line of a story
that is told in process fails so, and neither does a comparison of watched values or a test for
a breakpoint.  Arithmetic fails for want of a fitting value (`Fault.OfValue`).
-/

namespace StoryServer

/-! ## Rules -/

section Raises

variable {σ α β : Type} {P : Fault → Prop}

/-- Every fault of an answer is one of these. -/
def Raises (P : Fault → Prop) (r : Except Fault α) : Prop := ∀ f, r = .error f → P f

theorem raises_ok (a : α) : Raises P (.ok a : Except Fault α) := nofun

theorem raises_error {f : Fault} (h : P f) : Raises P (.error f : Except Fault α) := by
  intro g hg
  cases hg
  exact h

/-- The rule by which a failing answer is followed through: either part may fail, and both as is
said. -/
theorem raises_bind {r : Except Fault α} {next : α → Except Fault β} (h : Raises P r)
    (hn : ∀ a, Raises P (next a)) : Raises P (r >>= next) := by
  cases r with
  | error f => exact raises_error (h f rfl)
  | ok a => exact hn a

/-- What is known of the faults may be weakened. -/
theorem Raises.mono {r : Except Fault α} {Q : Fault → Prop} (h : Raises P r) (hPQ : ∀ f, P f → Q f) :
    Raises Q r := fun f hf => hPQ f (h f hf)

namespace Act

/-- Every fault of a run is one of these. -/
def Raises (P : Fault → Prop) (act : Act σ α) : Prop := ∀ s, StoryServer.Raises P (act.on s).1

theorem raises_pure (a : α) : Raises P (pure a : Act σ α) := fun _ => raises_ok a

theorem raises_throw {f : Fault} (h : P f) : Raises P (throw f : Act σ α) := fun _ => raises_error h

theorem raises_get : Raises P (get : Act σ σ) := fun s => raises_ok s

theorem raises_set (s : σ) : Raises P (set s : Act σ PUnit) := fun _ => raises_ok PUnit.unit

theorem raises_modify (f : σ → σ) : Raises P (modify f : Act σ PUnit) :=
  fun _ => raises_ok PUnit.unit

theorem raises_ofExcept {r : Except Fault α} (h : StoryServer.Raises P r) :
    Raises P (ofExcept r : Act σ α) := by
  intro s
  rw [on_ofExcept]
  exact h

theorem raises_bind {act : Act σ α} {next : α → Act σ β} (h : Raises P act)
    (hn : ∀ a, Raises P (next a)) : Raises P (act >>= next) := by
  intro s
  have hs := h s
  rw [on_bind]
  generalize act.on s = run at hs
  obtain ⟨r, t⟩ := run
  cases r with
  | error f => exact raises_error (hs f rfl)
  | ok a => exact hn a t

end Act

end Raises

/-! ## Stories -/

/-- Whether a fault is that of a step where there is no line to tell. -/
def Fault.ofStepping : Fault → Bool
  | .notSteppable .. => true
  | _ => false

/-- It is the only fault that is reported under its name. -/
theorem Fault.ofStepping_iff (f : Fault) : f.ofStepping = true ↔ f.kind = "DebugStateError" := by
  refine ⟨fun h => ?_, fun h => ?_⟩
  · cases f with
    | notSteppable id waiting => rfl
    | _ => cases h
  · cases f with
    | notSteppable id waiting => rfl
    | misuse m =>
        rw [kind] at h
        split at h <;> simp at h
    | pattern d => cases d <;> simp [kind] at h
    | wait d => cases d <;> simp [kind] at h
    | chatStatus status message =>
        rw [kind] at h
        split at h <;> simp at h
    | _ => simp [kind] at h

/-- Any other fault. -/
abbrev Fault.Other (f : Fault) : Prop := f.ofStepping = false

/-- Whether a fault is one of the values at hand: a word without a value, a value of the wrong kind
or size, a function that fails. -/
def Fault.ofValue : Fault → Bool
  | .story _ | .misuse _ | .tooLargeForDouble | .boom | .number _ | .notFinite => true
  | _ => false

/-- A fault of the values at hand. -/
abbrev Fault.OfValue (f : Fault) : Prop := f.ofValue = true

theorem Fault.OfValue.other {f : Fault} (h : f.OfValue) : f.Other := by
  cases f with
  | notSteppable id waiting => cases h
  | _ => rfl

/-- A value cannot be written because of a number in it. -/
theorem raises_writeJson (style : JsonStyle) (v : Json) : Raises Fault.OfValue (writeJson style v) := by
  rw [writeJson]
  split
  · exact raises_ok _
  · exact raises_error rfl
  · exact raises_error rfl

namespace Ink

/-- A whole number may be too large for a double. -/
theorem raises_toDouble (n : Int) : Raises Fault.OfValue (toDouble n) := by
  obtain ⟨x, hx⟩ : ∃ x, Binary64.ofInt n = x := ⟨_, rfl⟩
  rw [toDouble_eq hx]
  cases x with
  | infinite _ => exact raises_error rfl
  | _ => exact raises_ok _

theorem raises_onNumbers (whole : Int → Int → Int) (real : Binary64 → Binary64 → Binary64)
    (a b : Int ⊕ Binary64) : Raises Fault.OfValue (onNumbers whole real a b) := by
  rw [onNumbers.eq_def]
  split
  · exact raises_ok _
  · exact raises_bind (raises_toDouble _) fun _ => raises_ok _
  · exact raises_bind (raises_toDouble _) fun _ => raises_ok _
  · exact raises_ok _

theorem raises_add (a b : Json) : Raises Fault.OfValue (add a b) := by
  rw [add.eq_def]
  split
  · exact raises_onNumbers _ _ _ _
  · split
    · exact raises_ok _
    · exact raises_ok _
    all_goals exact raises_error rfl

theorem raises_sub (a b : Json) : Raises Fault.OfValue (sub a b) := by
  rw [sub]
  split
  · exact raises_onNumbers _ _ _ _
  · exact raises_error rfl

theorem raises_double (a : Json) : Raises Fault.OfValue (double a) := by
  rw [double.eq_def]
  split
  · exact raises_onNumbers _ _ _ _
  · split
    · exact raises_ok _
    · exact raises_ok _
    · exact raises_error rfl

/-- A function with the wrong number of arguments is misused. -/
theorem raises_called {name : String} {parameters : List String} {arguments : List Json}
    {body : List Json → Except Fault Outcome} (h : ∀ given, Raises Fault.OfValue (body given)) :
    Raises Fault.OfValue (called name parameters arguments body) := by
  rw [called]
  split
  · exact h arguments
  · exact raises_error rfl

/-- Calling one of some functions fails as these do, or because there is none with the name. -/
theorem Functions.raises_call {P : Fault → Prop} {functions : Functions}
    (h : ∀ name function, functions name = some function → ∀ arguments, Raises P (function arguments))
    (hnone : ∀ name, P (.story (.noFunction name))) (name : String) (arguments : List Json) :
    Raises P (functions.call name arguments) := by
  rw [call]
  cases hfunction : functions name with
  | some function => exact h name function hfunction arguments
  | none => exact raises_error (hnone name)

/-- The functions to rehearse with fail for want of a fitting value. -/
theorem Functions.raises_sample {name : String} {function : List Json → Except Fault Outcome}
    (h : sample name = some function) (arguments : List Json) :
    Raises Fault.OfValue (function arguments) := by
  have hvalue {r : Except Fault Json} (h : Raises Fault.OfValue r) :
      Raises Fault.OfValue (Outcome.value <$> r) := by
    cases r with
    | ok v => exact raises_ok _
    | error f => exact raises_error (h f rfl)
  rw [sample.eq_def] at h
  split at h <;> obtain ⟨⟩ := h
  · refine raises_called fun given => ?_
    split
    · exact hvalue (raises_double _)
    · exact raises_ok _
  · refine raises_called fun given => ?_
    split
    · exact hvalue (raises_add _ _)
    · exact raises_ok _
  · exact raises_called fun _ => raises_error rfl
  · exact raises_called fun _ => raises_ok _
  · exact raises_ok _
  · exact raises_called fun _ => raises_ok _

theorem raises_instructionIn (body : List Instruction) (index : Int) :
    Raises Fault.Other (instructionIn body index) := by
  rw [instructionIn]
  split
  · exact raises_ok _
  · generalize (if index < 0 then index + body.length else index) = i
    dsimp only
    split
    · exact raises_error rfl
    · exact raises_ok _

/-- A cell that was restored may be no index at all. -/
theorem raises_instructionAtCell (body : List Instruction) (cell : Json) :
    Raises Fault.Other (instructionAtCell body cell) := by
  rw [instructionAtCell.eq_def]
  split
  · exact raises_instructionIn _ _
  · exact raises_instructionIn _ _
  · split
    · exact raises_error rfl
    · exact raises_ok _
  · exact raises_error rfl

/-- A cell that was restored may name no knot. -/
theorem Program.raises_bodyAtCell (p : Program) (cell : Json) :
    Raises Fault.Other (p.bodyAtCell cell) := by
  rw [bodyAtCell.eq_def]
  split
  · split
    · exact raises_ok _
    · exact raises_error rfl
  · exact raises_error rfl
  · exact raises_error rfl
  · exact raises_error rfl

/-- Cells that are no pair. -/
theorem raises_noPair {α : Type} (cells : List Json) :
    Raises Fault.Other (.error (if cells.length < 2 then .tooFewCells cells.length else .tooManyCells) :
      Except Fault α) := by
  refine raises_error ?_
  split <;> rfl

theorem Program.raises_instructionAt (p : Program) (c : Cursor) :
    Raises Fault.Other (p.instructionAt c) := by
  rw [instructionAt.eq_def]
  split
  · exact raises_ok _
  · exact raises_bind (p.raises_bodyAtCell _) fun body => raises_instructionIn body _
  · exact raises_bind (p.raises_bodyAtCell _) fun body => raises_instructionAtCell body _
  · exact raises_noPair _

/-- Looking ahead fails where there is no instruction, by induction on the steps that may be
looked ahead. -/
theorem Program.raises_peekFrom (p : Program) : ∀ (n : Nat) (c : Cursor),
    Raises Fault.Other (p.peekFrom n c)
  | 0, _ => raises_error rfl
  | n + 1, c => by
      refine raises_bind (p.raises_instructionAt c) fun i => ?_
      split
      · exact raises_ok _
      · exact raises_ok _
      · exact raises_ok _
      · exact p.raises_peekFrom n _
      · split
        · exact raises_ok _
        · exact p.raises_peekFrom n _

namespace Story

theorem raises_value (s : Story) (token : String) : Raises Fault.OfValue (s.value token) := by
  rw [value]
  split
  · exact raises_ok _
  · split
    · exact raises_ok _
    · exact raises_error rfl

/-- An expression fails for want of a fitting value in one of its words. -/
theorem raises_evaluate (s : Story) (expression : String) :
    Raises Fault.OfValue (s.evaluate expression) := by
  rw [evaluate]
  split
  · split
    · refine raises_bind (s.raises_value _) fun a => raises_bind (s.raises_value _) fun b => ?_
      split
      · exact raises_add a b
      · exact raises_sub a b
    · exact s.raises_value _
  · exact s.raises_value _

/-- An offer that was restored may have no text. -/
theorem raises_choicesFrom : ∀ (i : Nat) (offers : List Offer),
    Raises Fault.Other (choicesFrom i offers)
  | _, [] => raises_ok _
  | i, o :: rest => by
      have htext : Raises Fault.Other o.text := by
        rw [Offer.text.eq_def]
        split
        · exact raises_ok _
        · exact raises_ok _
        · exact raises_noPair _
      exact raises_bind htext fun _ =>
        raises_bind (raises_choicesFrom (i + 1) rest) fun _ => raises_ok _

theorem raises_requireOpen : Act.Raises Fault.Other requireOpen := by
  refine Act.raises_bind Act.raises_get fun s => ?_
  split
  · exact Act.raises_throw rfl
  · exact Act.raises_pure _

/-- Settling fails in an assignment or at a place that is none, by induction on the steps it may
take. -/
theorem raises_settleFrom : ∀ n : Nat, Act.Raises Fault.Other (settleFrom n)
  | 0 => Act.raises_throw rfl
  | n + 1 => by
      refine Act.raises_bind Act.raises_get fun s =>
        Act.raises_bind (Act.raises_ofExcept (s.program.raises_instructionAt _)) fun i => ?_
      split
      · exact Act.raises_pure _
      · exact Act.raises_pure _
      · have hvalue (expression : String) :=
          (s.raises_evaluate expression).mono fun _ => Fault.OfValue.other
        exact Act.raises_bind (Act.raises_ofExcept (hvalue _)) fun _ =>
          Act.raises_bind (Act.raises_set _) fun _ => raises_settleFrom n
      · exact Act.raises_bind (Act.raises_set _) fun _ => raises_settleFrom n
      · exact Act.raises_set _

theorem raises_settle : Act.Raises Fault.Other settle :=
  Act.raises_bind (Act.raises_modify _) fun _ => raises_settleFrom _

theorem raises_lineAt (s : Story) : Raises Fault.Other s.lineAt := by
  refine raises_bind (s.program.raises_instructionAt _) fun i => ?_
  split <;> exact raises_ok _

/-- Where telling a line fails, it is not for want of a line. -/
theorem raises_continueLine : Act.Raises Fault.Other continueLine := by
  refine Act.raises_bind raises_requireOpen fun _ => Act.raises_bind raises_settle fun _ =>
    Act.raises_bind Act.raises_get fun s =>
      Act.raises_bind (Act.raises_ofExcept s.raises_lineAt) fun line => ?_
  split
  · exact Act.raises_bind (Act.raises_ofExcept (raises_choicesFrom _ _)) fun _ => Act.raises_pure _
  · refine Act.raises_bind (Act.raises_set _) fun _ => Act.raises_bind Act.raises_get fun s =>
      Act.raises_bind (Act.raises_ofExcept (s.program.raises_peekFrom _ _)) fun more => ?_
    cases more with
    | true => exact Act.raises_pure _
    | false =>
        exact Act.raises_bind raises_settle fun _ => Act.raises_bind Act.raises_get fun s =>
          Act.raises_bind (Act.raises_ofExcept (raises_choicesFrom _ _)) fun _ => Act.raises_pure _

end Story

end Ink

/-! ## Watches and breakpoints -/

namespace Debug

/-- Values that are compared have to be written first. -/
theorem raises_sameValue (a b : Json) : Raises Fault.Other (sameValue a b) := by
  have hwritten (v : Json) := (raises_writeJson .canonical v).mono fun _ => Fault.OfValue.other
  exact raises_bind (hwritten a) fun _ => raises_bind (hwritten b) fun _ => raises_ok _

theorem raises_holds (told : Json) (part : String) : Raises Fault.Other (holds told part) := by
  rw [holds.eq_def]
  split
  · exact raises_ok _
  · exact raises_ok _
  · exact raises_ok _
  · exact raises_error rfl

theorem raises_showsPlace (sign : String) (told : Json) (name : String) :
    Raises Fault.Other (showsPlace sign told name) := by
  refine raises_bind (raises_holds told _) fun found => ?_
  split
  · exact raises_ok _
  · rw [beginsWith.eq_def]
    split
    · exact raises_ok _
    · exact raises_error rfl

/-- A pattern may be too large, or what was told be no text. -/
theorem raises_showsPattern (told : Json) (target : String) :
    Raises Fault.Other (showsPattern told target) := by
  rw [showsPattern.eq_def]
  split
  · split
    · exact raises_ok _
    · exact raises_error rfl
  · exact raises_holds told target
  · exact raises_error rfl

/-- By induction on the breakpoints; those that are off are not tried. -/
theorem raises_firstHit (told : Json) (changed : List String) : ∀ breakpoints : List Breakpoint,
    Raises Fault.Other (firstHit told changed breakpoints)
  | [] => raises_ok _
  | b :: rest => by
      have hrest := raises_firstHit told changed rest
      have hhit : Raises Fault.Other (b.type.hit b.target told changed) := by
        rw [BreakpointType.hit.eq_def]
        split
        · exact raises_showsPattern told _
        · exact raises_ok _
        · exact raises_showsPlace _ told _
        · exact raises_showsPlace _ told _
      rw [firstHit]
      split
      · refine raises_bind hhit fun hit => ?_
        split
        · exact raises_ok _
        · exact hrest
      · exact hrest

end Debug

end StoryServer
