import StoryServer.Proofs.Debug.Step
import StoryServer.Proofs.Frame

/-!
# What happens to a debug session

An `Event` is something a debug session remembers, or should: a breakpoint that was issued, a
watch that was set, a continuation that began, and what became of each line that a step told.
A step whose line is not told leaves no event.

*Commands.*  A `Command` is an operation on one debug session, or an action beside it that
does not touch its record.  `Command.events` are its events, read off the parts of the
operation; a continuation has those of all its steps.

*Happening.*  `Happens T r events r'` lists everything that one event, or a change without an
event, can do to a record, and `Runs` is any number of these.  `T` is what is known of the
lines that the engine tells.  `Command.runs` says that every command is such a run.  What
holds of all records is proved along `Runs`, and no later proof looks into an operation.
-/

namespace StoryServer

namespace Debug

/-- What happens to a debug session. -/
inductive Event where
  | issued (b : Breakpoint)
  | watched (name : String)
  | resumed
  /-- A step told a line and was taken. -/
  | stepped (o : StepOutcome)
  /-- A step told a line, and then a comparison or a test failed. -/
  | unjudged
  /-- A step told a line whose text could not be cut. -/
  | unwritten
  deriving DecidableEq, Repr

section Steps

variable {ε : Type} (engine : StoryEngine ε) (id : String)

/-- What happens in a step. -/
def stepEvents (s : Server ε) : List Event :=
  match (advance engine id).on s with
  | (.error _, _) => []
  | (.ok p, t) =>
    match (judge engine id p).on t with
    | (.error _, _) => [.unjudged]
    | (.ok v, u) =>
      match (conclude id p.told v).on u with
      | (.error _, _) => [.unwritten]
      | (.ok o, _) => [.stepped o]

/-- What happens in the steps after a last one. -/
def stepsEvents : Nat → StepOutcome → Server ε → List Event
  | 0, _, _ => []
  | n + 1, last, s =>
    if stops last then []
    else stepEvents engine id s ++
      match (step engine id).on s with
      | (.error _, _) => []
      | (.ok o, t) => stepsEvents n o t

/-- What happens in a first step and at most `n` after it. -/
def begunEvents (n : Nat) (s : Server ε) : List Event :=
  stepEvents engine id s ++
    match (step engine id).on s with
    | (.error _, _) => []
    | (.ok o, t) => stepsEvents engine id n o t

theorem stepsEvents_succ (n : Nat) (last : StepOutcome) (s : Server ε) :
    stepsEvents engine id (n + 1) last s =
      if stops last then [] else begunEvents engine id n s := rfl

/-- What happens in a continuation. -/
def continueEvents (most : Int) (s : Server ε) : List Event :=
  match (unpause id).on s with
  | (.error _, _) => []
  | (.ok _, t) => [.resumed] ++
    match most.toNat with
    | 0 => []
    | n + 1 => begunEvents engine id n t

end Steps

/-! ## Commands -/

/-- An operation on the debug session of `id`, or an action beside it. -/
inductive Command (ε : Type) (id : String) where
  | addBreakpoint (type target : String)
  | removeBreakpoint (breakpoint : String)
  /-- Makes a breakpoint looked at or not. -/
  | enable (breakpoint : String) (enabled : Bool)
  | breakpoints
  | addWatch (name : String)
  | removeWatch (name : String)
  | step
  | continueFor (most : Int)
  | inspect
  | trace (n : Int)
  | beside (act : Act (Server ε) Unit) (keeps : act.Keeps (Server.recordOf id))

namespace Command

variable {ε : Type} {id : String}

def act (engine : StoryEngine ε) : Command ε id → Act (Server ε) Unit
  | .addBreakpoint type target => do let _ ← Debug.addBreakpoint id type target
  | .removeBreakpoint breakpoint => do let _ ← Debug.removeBreakpoint id breakpoint
  | .enable breakpoint enabled => Debug.enable id breakpoint enabled
  | .breakpoints => do let _ ← Debug.breakpoints (ε := ε) id
  | .addWatch name => do let _ ← Debug.addWatch engine id name
  | .removeWatch name => do let _ ← Debug.removeWatch id name
  | .step => do let _ ← Debug.step engine id
  | .continueFor most => do let _ ← Debug.continueFor engine id most
  | .inspect => do let _ ← Debug.inspect engine id
  | .trace n => do let _ ← Debug.trace (ε := ε) id n
  | .beside act _ => act

/-- What happens in a command. -/
def events (engine : StoryEngine ε) (s : Server ε) : Command ε id → List Event
  | .addBreakpoint type target =>
    match (Debug.addBreakpoint id type target).on s with
    | (.error _, _) => []
    | (.ok b, _) => [.issued b]
  | .addWatch name =>
    match (Debug.addWatch engine id name).on s with
    | (.error _, _) => []
    | (.ok w, _) => [.watched w.name]
  | .step => stepEvents engine id s
  | .continueFor most => continueEvents engine id most s
  | _ => []

/-- The server after some commands. -/
def run (engine : StoryEngine ε) : List (Command ε id) → Server ε → Server ε
  | [], s => s
  | c :: rest, s => run engine rest ((c.act engine).on s).2

/-- What happens in some commands, in order. -/
def history (engine : StoryEngine ε) : List (Command ε id) → Server ε → List Event
  | [], _ => []
  | c :: rest, s => c.events engine s ++ history engine rest ((c.act engine).on s).2

end Command

/-! ## What happens to a record -/

/-- The ways in which a told line is recorded. -/
inductive Recorded (r : Record) (p : Passage) (seen : List Change) :
    Except Fault StepOutcome → Event → Record → Prop where
  /-- A comparison or a test fails. -/
  | unjudged {f : Fault} (hj : Judged r p seen (.error f)) :
      Recorded r p seen (.error f) .unjudged ((r.count p.told.text).look seen)
  | unwritten {v : Verdict} {f : Fault} (hj : Judged r p seen (.ok v))
      (ht : beginning traceTextLimit p.told.text = .error f) :
      Recorded r p seen (.error f) .unwritten (((r.count p.told.text).look seen).pauseAt v.hit)
  | written {v : Verdict} {text : Json} (time : Nat) (hj : Judged r p seen (.ok v))
      (ht : beginning traceTextLimit p.told.text = .ok text) :
      Recorded r p seen
        (.ok (v.outcome p.told (((r.count p.told.text).look seen).pauseAt v.hit).paused))
        (.stepped (v.outcome p.told (((r.count p.told.text).look seen).pauseAt v.hit).paused))
        ((((r.count p.told.text).look seen).pauseAt v.hit).visit
          { step := v.number, text, changed := v.changes.map (·.name), time })

/-- What can happen to a record. -/
inductive Happens (T : Continuation → Prop) (r : Record) : List Event → Record → Prop where
  | nothing : Happens T r [] r
  | issued (type : BreakpointType) (target : String) :
      Happens T r [.issued { number := r.nextBreakpoint, type, target }]
        { r with
          breakpoints := r.breakpoints ++ [{ number := r.nextBreakpoint, type, target }]
          nextBreakpoint := r.nextBreakpoint + 1 }
  | removed (keep : Breakpoint → Bool) :
      Happens T r [] { r with breakpoints := r.breakpoints.filter keep }
  /-- A breakpoint is looked at or not. -/
  | enabled (breakpoint : String) (enabled : Bool) :
      Happens T r [] { r with breakpoints := r.breakpoints.map fun b =>
        if b.id == breakpoint then { b with enabled } else b }
  | watched (name : String) (last : Json) :
      Happens T r [.watched name] { r with watches := Record.putWatch { name, last } r.watches }
  /-- A variable is watched no longer. -/
  | unwatched (name : String) :
      Happens T r [] { r with watches := r.watches.filter fun w => w.name != name }
  | resumed : Happens T r [.resumed] { r with paused := false }
  | told {p : Passage} {seen : List Change} {res : Except Fault StepOutcome} {e : Event}
      {r' : Record} (hT : T p.told)
      (hb : p.before.map Prod.fst = r.watches.map (·.name)) (h : Recorded r p seen res e r') :
      Happens T r [e] r'

/-- What can happen to a record in any number of turns. -/
inductive Runs (T : Continuation → Prop) (r : Record) : List Event → Record → Prop where
  | refl : Runs T r [] r
  | more {E e : List Event} {r' r'' : Record} :
      Runs T r E r' → Happens T r' e r'' → Runs T r (E ++ e) r''

theorem Happens.runs {T : Continuation → Prop} {r r' : Record} {e : List Event}
    (h : Happens T r e r') : Runs T r e r' :=
  List.nil_append e ▸ Runs.more .refl h

theorem Runs.trans {T : Continuation → Prop} {r r' r'' : Record} {E F : List Event}
    (h : Runs T r E r') (h' : Runs T r' F r'') :
    Runs T r (E ++ F) r'' := by
  induction h' with
  | refl =>
      rw [List.append_nil]
      exact h
  | more _ he ih =>
      rw [← List.append_assoc]
      exact ih.more he

/-! ## What a step does -/

section Stepping

variable {ε : Type} {engine : StoryEngine ε} {id : String} {r : Record} {s t : Server ε}
variable {T : Continuation → Prop}

/-- A step whose line is not told fails as the telling does. -/
theorem step_untold {f : Fault} (ha : (advance engine id).on s = (.error f, t)) :
    (step engine id).on s = (.error f, t) ∧ stepEvents engine id s = [] := by
  refine ⟨Act.on_bind_of_error ha, ?_⟩
  rw [stepEvents, ha]

/-- A step whose line is told records it, and what reading variables keeps is kept. -/
theorem step_focus {sessions : List Session} {P : Stage ε → Prop} {Q : String → Json → Prop}
    {p : Passage} (ha : (advance engine id).on s = (.ok p, t)) (ht : Focus id sessions P r t)
    (hr : Reads engine p.story P Q) :
    ∃ res seen e r' u, (step engine id).on s = (res, u) ∧ stepEvents engine id s = [e] ∧
      Recorded r p seen res e r' ∧ (∀ x ∈ seen, Q x.name x.new) ∧ Focus id sessions P r' u := by
  obtain ⟨res, seen, u, hu, hjudged, hseen, hfocus⟩ := judge_focus ht hr
  rw [step, Act.on_bind_of_ok ha, stepEvents, ha]
  cases res with
  | error f =>
      refine ⟨.error f, seen, .unjudged, _, u, Act.on_bind_of_error hu, ?_, .unjudged hjudged,
        hseen, hfocus⟩
      simp only [hu]
  | ok v =>
      rw [Act.on_bind_of_ok hu]
      simp only [hu]
      cases hc : beginning traceTextLimit p.told.text with
      | error f =>
          obtain ⟨w, hw, hlast⟩ := conclude_error hfocus hr (v := v) hc
          refine ⟨.error f, seen, .unwritten, _, w, hw, ?_, .unwritten hjudged hc, hseen, hlast⟩
          simp only [hw]
      | ok text =>
          obtain ⟨time, w, hw, hlast⟩ := conclude_ok hfocus hr (v := v) hc
          refine ⟨_, seen, _, _, w, hw, ?_, .written time hjudged hc, hseen, hlast⟩
          simp only [hw]

/-- A step whose line is told records it. -/
theorem step_told {p : Passage} (h : s.recordOf id = some r)
    (ha : (advance engine id).on s = (.ok p, t)) :
    ∃ res seen e r' u, (step engine id).on s = (res, u) ∧ stepEvents engine id s = [e] ∧
      u.recordOf id = some r' ∧ Recorded r p seen res e r' := by
  have ht := advance_record (tells_any engine) h
  rw [ha] at ht
  obtain ⟨res, seen, e, r', u, hstep, hevents, hrec, -, hfocus⟩ :=
    step_focus ha (focus_any ht.1) (reads_any engine p.story)
  exact ⟨res, seen, e, r', u, hstep, hevents, hfocus.record, hrec⟩

theorem step_happens (hT : Tells engine T) (h : s.recordOf id = some r) :
    ∃ r', ((step engine id).on s).2.recordOf id = some r' ∧
      Happens T r (stepEvents engine id s) r' := by
  have hrecord := advance_record hT h
  cases ha : (advance engine id).on s with
  | mk res t =>
      rw [ha] at hrecord
      cases res with
      | error f =>
          obtain ⟨hstep, hevents⟩ := step_untold ha
          rw [hstep, hevents]
          exact ⟨r, hrecord, .nothing⟩
      | ok p =>
          obtain ⟨res, seen, e, r', u, hstep, hevents, hlast, htold⟩ := step_told h ha
          rw [hstep, hevents]
          exact ⟨r', hlast, .told hrecord.2.2 hrecord.2.1 htold⟩

/-- A first step and those after it, if those after any step are a run. -/
theorem begun_runs_of (hT : Tells engine T) {n : Nat}
    (hsteps : ∀ (last : StepOutcome) {r : Record} {s : Server ε}, s.recordOf id = some r →
      ∃ r', ((steps engine id n last).on s).2.recordOf id = some r' ∧
        Runs T r (stepsEvents engine id n last s) r') (h : s.recordOf id = some r) :
    ∃ r', ((do steps engine id n (← step engine id) : Act (Server ε) StepOutcome).on s).2.recordOf
        id = some r' ∧ Runs T r (begunEvents engine id n s) r' := by
  obtain ⟨r', hr', hstep⟩ := step_happens hT h
  rw [Act.on_bind, begunEvents]
  generalize (step engine id).on s = run at hr'
  obtain ⟨res, t⟩ := run
  cases res with
  | error f =>
      rw [List.append_nil]
      exact ⟨r', hr', hstep.runs⟩
  | ok o =>
      obtain ⟨r'', hr'', hrest⟩ := hsteps o hr'
      exact ⟨r'', hr'', hstep.runs.trans hrest⟩

theorem steps_runs (hT : Tells engine T) (n : Nat) : ∀ (last : StepOutcome) {r : Record}
    {s : Server ε}, s.recordOf id = some r →
      ∃ r', ((steps engine id n last).on s).2.recordOf id = some r' ∧
        Runs T r (stepsEvents engine id n last s) r' := by
  induction n with
  | zero => exact fun _ r _ h => ⟨r, h, .refl⟩
  | succ n ih =>
      intro last r s h
      rw [steps, stepsEvents_succ]
      split
      · exact ⟨r, h, .refl⟩
      · exact begun_runs_of hT ih h

/-! ## What a command does -/

theorem continueFor_runs (hT : Tells engine T) (most : Int) (h : s.recordOf id = some r) :
    ∃ r', ((continueFor engine id most).on s).2.recordOf id = some r' ∧
      Runs T r (continueEvents engine id most s) r' := by
  rw [continueFor, continueEvents]
  cases hs : s.sessions.find? (·.id == id) with
  | none =>
      have hunpause : (unpause id).on s = (.error (.noSession id), s) :=
        Act.on_bind_of_error (session_none hs)
      rw [Act.on_bind_of_error hunpause, hunpause]
      exact ⟨r, h, .refl⟩
  | some session =>
    have hunpause : (unpause id).on s =
        (.ok r, ((update id fun r => { r with paused := false }).on s).2) := by
      rw [unpause, Act.on_bind_of_ok (session_on hs), Act.on_bind_of_ok (record_on h)]
      rfl
    have ht : ((update id fun r => { r with paused := false }).on s).2.recordOf id =
        some { r with paused := false } := record_update h fun _ => rfl
    rw [Act.on_bind_of_ok hunpause, hunpause]
    generalize ((update id fun r => { r with paused := false }).on s).2 = t at ht
    dsimp only
    cases most.toNat with
    | zero => exact ⟨_, ht, Happens.resumed.runs⟩
    | succ n =>
        obtain ⟨r', hr', hrest⟩ := begun_runs_of hT (steps_runs hT n) ht
        exact ⟨r', hr', Happens.resumed.runs.trans hrest⟩

theorem addBreakpoint_runs (type target : String) (h : s.recordOf id = some r) :
    ∃ r', ((addBreakpoint id type target).on s).2.recordOf id = some r' ∧
      Runs T r ((Command.addBreakpoint type target : Command ε id).events engine s) r' := by
  rw [Command.events, addBreakpoint]
  cases BreakpointType.ofName? type with
  | none => exact ⟨r, h, .refl⟩
  | some t =>
      dsimp only
      by_cases he : target.isEmpty = true
      · rw [if_pos he]
        exact ⟨r, h, .refl⟩
      · rw [if_neg he]
        cases hs : s.sessions.find? (·.id == id) with
        | none =>
            rw [Act.on_bind_of_error (session_none hs)]
            exact ⟨r, h, .refl⟩
        | some session =>
            rw [Act.on_bind_of_ok (session_on hs), Act.on_bind_of_ok (record_on h)]
            exact ⟨_, record_update h fun _ => rfl, (Happens.issued t target).runs⟩

theorem removeBreakpoint_runs (breakpoint : String) (h : s.recordOf id = some r) :
    ∃ r', ((removeBreakpoint id breakpoint).on s).2.recordOf id = some r' ∧ Runs T r [] r' := by
  rw [removeBreakpoint]
  cases hs : s.sessions.find? (·.id == id) with
  | none =>
      rw [Act.on_bind_of_error (session_none hs)]
      exact ⟨r, h, .refl⟩
  | some session =>
      rw [Act.on_bind_of_ok (session_on hs), Act.on_bind_of_ok (record_on h)]
      exact ⟨_, record_update h fun _ => rfl, (Happens.removed fun b => b.id != breakpoint).runs⟩

theorem addWatch_runs (name : String) (h : s.recordOf id = some r) :
    ∃ r', ((addWatch engine id name).on s).2.recordOf id = some r' ∧
      Runs T r ((Command.addWatch name : Command ε id).events engine s) r' := by
  rw [Command.events, addWatch]
  cases hs : s.sessions.find? (·.id == id) with
  | none =>
      rw [Act.on_bind_of_error (session_none hs)]
      exact ⟨r, h, .refl⟩
  | some session =>
      obtain ⟨v, t, ht, -, hfocus⟩ :=
        readVariable_focus (focus_any h) (reads_any engine session.story) name
      rw [Act.on_bind_of_ok (session_on hs), Act.on_bind_of_ok (record_on h),
        Act.on_bind_of_ok ht]
      exact ⟨_, record_update hfocus.record fun _ => rfl, (Happens.watched name v).runs⟩

theorem removeWatch_runs (name : String) (h : s.recordOf id = some r) :
    ∃ r', ((removeWatch id name).on s).2.recordOf id = some r' ∧ Runs T r [] r' := by
  rw [removeWatch]
  cases hs : s.sessions.find? (·.id == id) with
  | none =>
      rw [Act.on_bind_of_error (session_none hs)]
      exact ⟨r, h, .refl⟩
  | some session =>
      rw [Act.on_bind_of_ok (session_on hs), Act.on_bind_of_ok (record_on h)]
      exact ⟨_, record_update h fun _ => rfl, (Happens.unwatched name).runs⟩

/-- Looking at a record changes nothing in it. -/
theorem inspect_record (h : s.recordOf id = some r) :
    ((inspect engine id).on s).2.recordOf id = some r := by
  rw [inspect]
  cases hs : s.sessions.find? (·.id == id) with
  | none =>
      rw [Act.on_bind_of_error (session_none hs)]
      exact h
  | some session =>
      obtain ⟨values, t, ht, -, -, hfocus⟩ := readVariables_focus
        (reads_any engine session.story) (r.watches.map (·.name)) (focus_any h)
      rw [Act.on_bind_of_ok (session_on hs), Act.on_bind_of_ok (record_on h),
        Act.on_bind_of_ok ht, Act.on_bind, Act.on_ofExcept]
      cases beginning inspectTextLimit r.lastOutput <;> exact hfocus.record

/-- A command, up to its answer, does what the operation does. -/
theorem on_drop {α : Type} (act : Act (Server ε) α) (s : Server ε) :
    ((do let _ ← act : Act (Server ε) Unit).on s).2 = (act.on s).2 := by
  rw [Act.on_bind]
  generalize act.on s = run
  obtain ⟨res, t⟩ := run
  cases res <;> rfl

theorem Command.runs (hT : Tells engine T) (c : Command ε id) (h : s.recordOf id = some r) :
    ∃ r', ((c.act engine).on s).2.recordOf id = some r' ∧ Runs T r (c.events engine s) r' := by
  cases c with
  | addBreakpoint type target =>
      rw [Command.act, on_drop]
      exact addBreakpoint_runs type target h
  | removeBreakpoint breakpoint =>
      rw [Command.act, on_drop]
      exact removeBreakpoint_runs breakpoint h
  | enable breakpoint enabled =>
      rw [Command.act, Debug.enable, Act.on_bind_of_ok (record_on h)]
      exact ⟨_, record_update h fun _ => rfl, (Happens.enabled breakpoint enabled).runs⟩
  | breakpoints =>
      rw [Command.act, on_drop, Debug.breakpoints, Act.on_bind_of_ok (record_on h)]
      exact ⟨r, h, .refl⟩
  | addWatch name =>
      rw [Command.act, on_drop]
      exact addWatch_runs name h
  | removeWatch name =>
      rw [Command.act, on_drop]
      exact removeWatch_runs name h
  | step =>
      obtain ⟨r', hr', hstep⟩ := step_happens hT h
      rw [Command.act, on_drop]
      exact ⟨r', hr', hstep.runs⟩
  | continueFor most =>
      rw [Command.act, on_drop]
      exact continueFor_runs hT most h
  | inspect =>
      rw [Command.act, on_drop]
      exact ⟨r, inspect_record h, .refl⟩
  | trace n =>
      rw [Command.act, on_drop, Debug.trace, Act.on_bind_of_ok (record_on h)]
      exact ⟨r, h, .refl⟩
  | beside act keeps => exact ⟨r, (keeps s).trans h, .refl⟩

/-- Any number of commands is a run of what can happen to the record. -/
theorem Command.history_runs (hT : Tells engine T) : ∀ (cs : List (Command ε id)) {r : Record}
    {s : Server ε}, s.recordOf id = some r → ∃ r', (Command.run engine cs s).recordOf id = some r' ∧
      Runs T r (Command.history engine cs s) r'
  | [], r, s, h => ⟨r, h, .refl⟩
  | c :: rest, r, s, h => by
      obtain ⟨r', hr', hfirst⟩ := c.runs hT h
      obtain ⟨r'', hr'', hrest⟩ := history_runs hT rest hr'
      exact ⟨r'', hr'', hfirst.trans hrest⟩

end Stepping

end Debug

end StoryServer
