import Mathlib.Data.List.Basic
import StoryServer.Bridge.Process

/-!
# What becomes of a process

Each operation of a bridge on one of its processes, as an equation: what it answers and what it
leaves.  An operation changes one process (`World.change`), adds events, and writes to the log; the
lines that were sent can be read off the events (`World.sent`).
-/

namespace StoryServer

namespace Bridge

/-- The line that was sent, if the event is that. -/
def Event.line? : Event → Option String
  | .send line => some line
  | _ => none

/-- What comes of reading an arrival. -/
def Arrival.read : Arrival → Except Fault String
  | .line text => .ok text
  | .failed reason => .error (.bridge (.readFailed reason))
  | .closed => .error (.bridge .closed)

/-- A process but for what is kept of its error output. -/
def Process.bare (p : Process) : Process := { p with errorLog := [] }

theorem Process.fields_of_bare {p q : Process} (h : p.bare = q.bare) :
    p.running = q.running ∧ p.attached = q.attached ∧ p.reading = q.reading ∧
      p.arrivals = q.arrivals := by
  simp only [bare, mk.injEq, and_true] at h
  exact ⟨h.1, h.2.1, h.2.2.2⟩

theorem Process.bare_keepError (p : Process) (line : String) : (p.keepError line).bare = p.bare := by
  simp only [bare, keepError]

namespace Process

/-- What a reaction does to a process, its error output apart. -/
def undergo (r : Reaction) (p : Process) : Process :=
  if r.stuck then p
  else
    match r.broken with
    | some _ => { p with running := p.running && !r.exits, stubborn := p.stubborn || r.stubborn }
    | none => p.after r

theorem bare_undergo (r : Reaction) {p q : Process} (h : p.bare = q.bare) :
    (p.undergo r).bare = (q.undergo r).bare := by
  obtain ⟨running, attached, stubborn, reading, arrivals, errors⟩ := p
  obtain ⟨running', attached', stubborn', reading', arrivals', errors'⟩ := q
  simp only [bare, mk.injEq, and_true] at h
  obtain ⟨rfl, rfl, rfl, rfl, rfl⟩ := h
  unfold undergo
  cases r.stuck <;> cases r.broken <;> rfl

/-- No reaction takes a process from its story. -/
theorem attached_undergo (r : Reaction) (p : Process) : (p.undergo r).attached = p.attached := by
  unfold undergo
  cases r.stuck <;> cases r.broken <;> rfl

/-- A process that is ended. -/
def ended (p : Process) : Process :=
  { p with running := p.running && !p.attached, attached := false }

end Process

namespace World

variable {σ : Type}

/-- A process; a number without one stands for a process that has been ended. -/
def look (w : World σ) (id : StoryId) : Process :=
  (w.processes[id]?).getD { running := false, attached := false }

/-- One process changed. -/
def change (id : StoryId) (f : Process → Process) (w : World σ) : World σ :=
  { w with processes := w.processes.modify id f }

/-- The lines that were sent, latest first. -/
def sent (w : World σ) : List String := w.events.filterMap Event.line?

section Change

variable {w : World σ} {id n : StoryId} {f g : Process → Process}

theorem look_change (h : id < w.processes.length) : (w.change id f).look id = f (w.look id) := by
  simp [look, change, List.getElem?_modify_eq, List.getElem?_eq_getElem h]

theorem look_change_ne (h : n ≠ id) : (w.change id f).look n = w.look n := by
  simp [look, change, Ne.symm h]

@[simp] theorem length_change : (w.change id f).processes.length = w.processes.length :=
  List.length_modify f w.processes id

/-- Ending a process sends nothing. -/
theorem sent_ending {events : List Event} (h : ∀ e ∈ events, e = .terminate ∨ e = .kill) :
    ({ w with events := events ++ w.events } : World σ).sent = w.sent := by
  rw [sent, sent, List.filterMap_append, List.filterMap_eq_nil_iff.mpr, List.nil_append]
  intro e he
  obtain rfl | rfl := h e he <;> rfl

theorem change_change : (w.change id f).change id g = w.change id (g ∘ f) := by
  simp [change, List.modify_modify_eq]

theorem change_self : w.change id (fun p => p) = w := by
  rw [change, show w.processes.modify id (fun p => p) = w.processes from List.ext_getElem? fun n => by
    simp [List.getElem?_modify]]

end Change

/-! ## Operations -/

section Operations

variable (id : StoryId) (x : Stage (World σ))

theorem process_on : (process id).on x = (.ok (x.engine.look id), x) := rfl

theorem update_on (f : Process → Process) :
    (update id f).on x = (.ok (), { x with engine := x.engine.change id f }) := rfl

theorem note_on (line : String) :
    (Stage.note line : Act (Stage (World σ)) Unit).on x = (.ok (), { x with log := line :: x.log }) :=
  rfl

/-- A process that is ended is asked to end, if it can be, and killed if it does not. -/
theorem terminate_on : ∃ events, (∀ e ∈ events, e = .terminate ∨ e = .kill) ∧
    (terminate id).on x = (.ok (), { x with
      engine := { x.engine with events := events ++ x.engine.events }.change id Process.ended }) := by
  rw [terminate, Act.on_bind_of_ok (process_on id x)]
  cases (x.engine.look id).alive with
  | false => exact ⟨[], nofun, rfl⟩
  | true =>
      cases (x.engine.look id).stubborn with
      | false => exact ⟨[.terminate], by simp, rfl⟩
      | true => exact ⟨[.kill, .terminate], by simp, rfl⟩

/-- Error output changes nothing but what is kept of it. -/
theorem takeErrors_on (lines : List String) :
    ∃ f log, (∀ p : Process, (f p).bare = p.bare) ∧
      (takeErrors id lines).on x = (.ok (), { x with engine := x.engine.change id f, log }) := by
  induction lines generalizing x with
  | nil =>
      refine ⟨fun p => p, x.log, fun _ => rfl, ?_⟩
      rw [change_self]
      rfl
  | cons line rest ih =>
      rw [takeErrors]
      split
      · rw [Act.on_bind_of_ok (update_on id x _), Act.on_bind_of_ok (note_on _ _)]
        obtain ⟨f, log, hf, hon⟩ := ih
          ⟨x.engine.change id (·.keepError line), s!"[inky-stderr] {line}" :: x.log⟩
        rw [change_change] at hon
        exact ⟨f ∘ (·.keepError line), log, fun p => (hf _).trans (p.bare_keepError line), hon⟩
      · exact ih x

end Operations

/-! ## Writing a line -/

section Write

variable (peer : Peer σ) (id : StoryId) (line : String) (x : Stage (World σ))

/-- The stage with a line on its way. -/
def onWay : Stage (World σ) :=
  { x with engine := { x.engine with
      peer := (peer.react id line x.engine.peer).2, events := .send line :: x.engine.events } }

/-- What comes of writing, by the reaction. -/
def written (r : Reaction) : Except Fault Unit :=
  if r.stuck then .error .endless
  else
    match r.broken with
    | some reason => .error (.bridge (.writeFailed reason))
    | none => .ok ()

/-- A process goes through the reaction to a line that does not stand in its pipe for ever. -/
theorem takeReaction_on {r : Reaction} (hstuck : r.stuck = false) :
    ∃ f log, (takeReaction id r).on x = (written r, { x with engine := x.engine.change id f, log }) ∧
      ∀ p : Process, (f p).bare = (p.undergo r).bare := by
  have hundergo (p : Process) : p.undergo r = match r.broken with
      | some _ =>
        { p with running := p.running && !r.exits, stubborn := p.stubborn || r.stubborn }
      | none => p.after r := by
    rw [Process.undergo, if_neg (by simp [hstuck])]
  obtain ⟨f, log, hf, herrors⟩ := takeErrors_on id x
    (r.errorLines.flatMap fun text => Text.streamLines text.toList [])
  rw [takeReaction, Act.on_bind_of_ok herrors, written, if_neg (by simp [hstuck])]
  cases hb : r.broken with
  | some reason =>
      dsimp only
      rw [Act.on_bind_of_ok (update_on id _ _), change_change]
      refine ⟨_, log, rfl, fun p => ?_⟩
      rw [← Process.bare_undergo r (hf p), hundergo, hb]
      rfl
  | none =>
      dsimp only
      rw [update_on, change_change]
      refine ⟨_, log, rfl, fun p => ?_⟩
      rw [← Process.bare_undergo r (hf p), hundergo, hb]
      rfl

/-- A line that is written is sent, whatever comes of it, and its process goes through the
reaction. -/
theorem write_on : ∃ f log, (write peer id line).on x =
      (written (peer.react id line x.engine.peer).1,
        ⟨(onWay peer id line x).engine.change id f, log⟩) ∧
    ∀ p : Process, (f p).bare = (p.undergo (peer.react id line x.engine.peer).1).bare := by
  generalize hr : (peer.react id line x.engine.peer).1 = r
  have hwrite : (write peer id line).on x = Act.on (do
      if r.stuck then throw .endless
      takeReaction id r) (onWay peer id line x) := by
    rw [← hr]
    rfl
  rw [hwrite]
  cases hstuck : r.stuck with
  | true =>
      refine ⟨fun p => p, x.log, ?_, fun p => ?_⟩
      · rw [change_self, written, if_pos hstuck]
        rfl
      · rw [Process.undergo, if_pos hstuck]
  | false => exact takeReaction_on id (onWay peer id line x) hstuck

end Write

/-! ## Reading a line -/

section Read

variable (id : StoryId) (x : Stage (World σ))

theorem readLine_arrival (timeout : Json) {a : Arrival} {rest : List Arrival}
    (h : (x.engine.look id).arrivals = a :: rest) :
    (readLine id timeout).on x = (a.read,
      { x with engine := x.engine.change id fun p => { p with arrivals := rest } }) := by
  have hread : (readLine id timeout).on x = Act.on (do
      update id fun p => { p with arrivals := rest }
      match a with
      | .line text => return text
      | .failed reason => throw (.bridge (.readFailed reason))
      | .closed => throw (.bridge .closed)) x := by
    rw [readLine, Act.on_bind_of_ok (process_on id x)]
    generalize (x.engine.look id).arrivals = queue at h
    subst h
    rfl
  rw [hread, Act.on_bind_of_ok (update_on id x _)]
  cases a <;> rfl

/-- A process from which nothing arrives is ended. -/
theorem readLine_silent (timeout : Json)
    (h : (x.engine.look id).arrivals = []) :
    ∃ line events, (∀ e ∈ events, e = .terminate ∨ e = .kill) ∧
      (readLine id timeout).on x = (.error (.timeout timeout),
        ⟨{ x.engine with events := events ++ x.engine.events }.change id Process.ended,
          line :: x.log⟩) := by
  have hend (line : String) : ∃ events, (∀ e ∈ events, e = .terminate ∨ e = .kill) ∧
      Act.on (do Stage.note line; terminate id; throw (.timeout timeout) : Act _ String) x =
        (.error (.timeout timeout),
          ⟨{ x.engine with events := events ++ x.engine.events }.change id Process.ended,
            line :: x.log⟩) := by
    obtain ⟨events, hevents, hterminate⟩ := terminate_on id { x with log := line :: x.log }
    refine ⟨events, hevents, ?_⟩
    exact (Act.on_bind_of_ok (note_on x line)).trans (Act.on_bind_of_ok hterminate)
  rw [readLine, Act.on_bind_of_ok (process_on id x), h]
  exact ⟨_, hend _⟩

end Read

end World

end Bridge

end StoryServer
