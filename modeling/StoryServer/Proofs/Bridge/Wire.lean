import Mathlib.Data.List.Nodup
import StoryServer.Proofs.Bridge.World

/-!
# A bridge and its process side by side

`World.send` lets the other side react at once.  A real process takes its time: its lines are under
way before they arrive, its output may end or fail at any moment, and so may the process.  A `Wire`
is one bridge with what is going on behind it, and a `Happening` is one step of the other side.
`Wire.send` is `World.send` with happenings in the gaps between its steps; without any it is
`World.send` (`send_quiet`).

*Calls.*  The calls of a bridge are numbered.  `owed` holds the calls whose command was received
and has no line yet, and `replies` all lines of the process, each with the call that it is for: a
process gives at most one line for a command that it received, at any later time.  A line is what is
read as one (`IsLine`).
-/

namespace StoryServer

namespace Bridge

/-- A bridge and what is going on behind it. -/
structure Wire (σ : Type) where
  stage : Stage (World σ)
  /-- The calls whose command was received and not answered. -/
  owed : List Nat := []
  /-- The lines of the process, each with its call, oldest first. -/
  replies : List (Nat × String) := []
  /-- The lines that have not arrived yet, oldest first. -/
  underway : List String := []

/-- Whether a text is one line as it is read: there is something in it, and no line end but a line
feed after all else. -/
def IsLine (line : String) : Bool :=
  !line.isEmpty && !line.toList.contains '\r' && !line.toList.dropLast.contains '\n'

/-- What may happen at any moment. -/
inductive Happening where
  /-- The process gives its line for a command that it received. -/
  | reply (call : Nat) (line : String)
  /-- The oldest line under way arrives. -/
  | arrival
  /-- The output of the process cannot be read any more. -/
  | readerFails (reason : String)
  /-- The output of the process has ended. -/
  | readerEnds
  /-- The process exits. -/
  | exits
  /-- The process ignores from now on that it is asked to end. -/
  | stubborn
  deriving DecidableEq, Repr

namespace Wire

variable {σ α : Type}

/-- The process of a bridge. -/
def process (id : StoryId) (w : Wire σ) : Process := w.stage.engine.look id

def alter (id : StoryId) (f : Process → Process) (w : Wire σ) : Wire σ :=
  { w with stage := { w.stage with engine := w.stage.engine.change id f } }

/-- The output of the process ends, with what then arrives. -/
def cutOff (id : StoryId) (last : List Arrival) (w : Wire σ) : Wire σ :=
  if (w.process id).reading then
    w.alter id fun p => { p with reading := false, arrivals := p.arrivals ++ last }
  else w

/-- A wire after something has happened. -/
def meanwhile (id : StoryId) (w : Wire σ) : Happening → Wire σ
  | .reply call line =>
    if call ∈ w.owed ∧ IsLine line then
      { w with
        owed := w.owed.erase call
        replies := w.replies ++ [(call, line)]
        underway := w.underway ++ [line] }
    else w
  | .arrival =>
    match w.underway with
    | [] => w
    | line :: rest =>
      if (w.process id).reading then
        { w.alter id (fun p => { p with arrivals := p.arrivals ++ [.line line] }) with
          underway := rest }
      else w
  | .readerFails reason => w.cutOff id [.failed reason, .closed]
  | .readerEnds => w.cutOff id [.closed]
  | .exits => w.alter id fun p => { p with running := false }
  | .stubborn => w.alter id fun p => { p with stubborn := true }

/-- A wire after some things have happened. -/
def pass (id : StoryId) (happenings : List Happening) (w : Wire σ) : Wire σ :=
  happenings.foldl (meanwhile id) w

/-- A step of the bridge. -/
def onStage (act : Act (Stage (World σ)) α) : Act (Wire σ) α :=
  act.within Wire.stage fun w stage => { w with stage }

/-- A command received: its line is given at once or owed. -/
def receive (call : Nat) (r : Reaction) (w : Wire σ) : Wire σ :=
  { w with
    owed := if r.output.isEmpty then w.owed ++ [call] else w.owed
    replies := w.replies ++ r.output.map fun line => (call, line) }

/-- Writes a line.  A line that cannot be written is not received. -/
def write (peer : Peer σ) (id : StoryId) (call : Nat) (line : String) : Act (Wire σ) Unit := do
  let reaction := (peer.react id line (← get).stage.engine.peer).1
  onStage (World.write peer id line)
  modify (receive call reaction)

end Wire

/-- What happens between the steps of a call. -/
structure Gaps where
  atFirst : List Happening := []
  beforeWriting : List Happening := []
  /-- What happens while the answer is waited for. -/
  beforeReading : List Happening := []

/-- A call of a bridge. -/
inductive Call where
  | send (timeout command : Json) (gaps : Gaps)
  | close (before : List Happening)

/-- A call with what it answers, and the wire before and after it. -/
structure Turn (σ : Type) where
  call : Call
  before : Wire σ
  /-- What a command is answered with. -/
  result : Option (Except Fault Fields)
  after : Wire σ

namespace Wire

variable {σ : Type} (peer : Peer σ) (id : StoryId)

/-- Sends a command and waits for its answer, while other things happen. -/
def send (call : Nat) (timeout command : Json) (gaps : Gaps) : Act (Wire σ) Fields := do
  modify (pass id gaps.atFirst)
  if !(← onStage (World.process id)).alive then throw (.bridge .notRunning)
  let text ← Act.ofExcept (writeJson .ascii command)
  modify (pass id gaps.beforeWriting)
  write peer id call (text ++ "\n")
  modify (pass id gaps.beforeReading)
  Act.ofExcept (World.answer peer.room (← onStage (World.readLine id timeout)))

/-- Ends the process. -/
def close (before : List Happening) : Act (Wire σ) Unit := do
  modify (pass id before)
  onStage (World.terminate id)

/-- A call carried out. -/
def turn (number : Nat) (w : Wire σ) : Call → Turn σ
  | .send timeout command gaps =>
    let (result, after) := (send peer id number timeout command gaps).on w
    ⟨.send timeout command gaps, w, some result, after⟩
  | .close before => ⟨.close before, w, none, ((close id before).on w).2⟩

/-- Calls carried out one after another, the first one under a number. -/
def trail : Nat → List Call → Wire σ → List (Turn σ)
  | _, [], _ => []
  | number, call :: rest, w =>
    let t := turn peer id number w call
    t :: trail (number + 1) rest t.after

/-- A bridge that was just started. -/
def opened (settings : Settings) (stage : Stage (World σ)) : Wire σ :=
  ⟨((World.start settings).on stage).2, [], [], []⟩

/-! ## Steps -/

theorem onStage_on {α : Type} (act : Act (Stage (World σ)) α) (w : Wire σ) :
    (onStage act).on w = ((act.on w.stage).1, { w with stage := (act.on w.stage).2 }) := rfl

theorem onStage_process (w : Wire σ) :
    (onStage (World.process id)).on w = (.ok (w.process id), w) := rfl

theorem write_on (call : Nat) (line : String) (w : Wire σ) : (write peer id call line).on w =
    match (World.write peer id line).on w.stage with
    | (.ok _, stage) =>
      (.ok (), receive call (peer.react id line w.stage.engine.peer).1 { w with stage })
    | (.error f, stage) => (.error f, { w with stage }) := by
  rw [write, Act.on_bind, Act.on_get]
  dsimp only
  rw [Act.on_bind, onStage_on]
  generalize (World.write peer id line).on w.stage = run
  obtain ⟨r, stage⟩ := run
  cases r <;> rfl

/-- How a command is answered, by the step at which it ends. -/
inductive Outcome (call : Nat) (timeout command : Json) (gaps : Gaps) (w : Wire σ) :
    Except Fault Fields → Wire σ → Prop
  | refused (h : ((w.pass id gaps.atFirst).process id).alive = false) :
      Outcome call timeout command gaps w (.error (.bridge .notRunning)) (w.pass id gaps.atFirst)
  | unwritable {f : Fault} (h : ((w.pass id gaps.atFirst).process id).alive = true)
      (hc : writeJson .ascii command = .error f) :
      Outcome call timeout command gaps w (.error f) (w.pass id gaps.atFirst)
  | broken {text : String} {f : Fault} {w' : Wire σ}
      (h : ((w.pass id gaps.atFirst).process id).alive = true)
      (hc : writeJson .ascii command = .ok text)
      (hw : (write peer id call (text ++ "\n")).on
        ((w.pass id gaps.atFirst).pass id gaps.beforeWriting) = (.error f, w')) :
      Outcome call timeout command gaps w (.error f) w'
  | read {text : String} {w' : Wire σ} {r : Except Fault String} {stage : Stage (World σ)}
      (h : ((w.pass id gaps.atFirst).process id).alive = true)
      (hc : writeJson .ascii command = .ok text)
      (hw : (write peer id call (text ++ "\n")).on
        ((w.pass id gaps.atFirst).pass id gaps.beforeWriting) = (.ok (), w'))
      (hr : (World.readLine id timeout).on (w'.pass id gaps.beforeReading).stage = (r, stage)) :
      Outcome call timeout command gaps w (r.bind (World.answer peer.room))
        { w'.pass id gaps.beforeReading with stage }

/-- Every command is answered at one of the steps. -/
theorem send_outcome (call : Nat) (timeout command : Json) (gaps : Gaps) (w : Wire σ) :
    Outcome peer id call timeout command gaps w
      ((send peer id call timeout command gaps).on w).1
      ((send peer id call timeout command gaps).on w).2 := by
  generalize hrun : (send peer id call timeout command gaps).on w = run
  rw [send, Act.on_bind_of_ok (Act.on_modify _ w),
    Act.on_bind_of_ok (onStage_process id _)] at hrun
  cases halive : ((w.pass id gaps.atFirst).process id).alive with
  | false =>
      rw [halive] at hrun
      subst hrun
      exact .refused halive
  | true =>
      rw [halive] at hrun
      change Act.on (do
        let text ← Act.ofExcept (writeJson .ascii command)
        modify (pass id gaps.beforeWriting)
        write peer id call (text ++ "\n")
        modify (pass id gaps.beforeReading)
        Act.ofExcept (World.answer peer.room (← onStage (World.readLine id timeout))))
        (w.pass id gaps.atFirst) = run at hrun
      cases hc : writeJson .ascii command with
      | error f =>
          rw [hc, Act.on_bind_of_error (Act.on_ofExcept _ _)] at hrun
          subst hrun
          exact .unwritable halive hc
      | ok text =>
          rw [hc, Act.on_bind_of_ok (Act.on_ofExcept _ _),
            Act.on_bind_of_ok (Act.on_modify _ _)] at hrun
          cases hw : (write peer id call (text ++ "\n")).on
              ((w.pass id gaps.atFirst).pass id gaps.beforeWriting) with
          | mk written w' =>
              cases written with
              | error f =>
                  rw [Act.on_bind_of_error hw] at hrun
                  subst hrun
                  exact .broken halive hc hw
              | ok _ =>
                  rw [Act.on_bind_of_ok hw, Act.on_bind_of_ok (Act.on_modify _ _), Act.on_bind,
                    onStage_on] at hrun
                  cases hr : (World.readLine id timeout).on (w'.pass id gaps.beforeReading).stage with
                  | mk r stage =>
                      rw [hr] at hrun
                      have houtcome := Outcome.read halive hc hw hr
                      cases r with
                      | error f => subst hrun; exact houtcome
                      | ok line =>
                          dsimp only at hrun
                          rw [Act.on_ofExcept] at hrun
                          subst hrun
                          exact houtcome

/-- When nothing happens in between, a command is sent as by the bridge alone. -/
theorem send_quiet (call : Nat) (timeout command : Json) (w : Wire σ) :
    (World.send peer id timeout command).on w.stage =
      (((send peer id call timeout command {}).on w).1,
        ((send peer id call timeout command {}).on w).2.stage) := by
  have houtcome := send_outcome peer id call timeout command {} w
  generalize (send peer id call timeout command {}).on w = run at houtcome ⊢
  obtain ⟨r, w'⟩ := run
  rw [World.send, Act.on_bind_of_ok (World.process_on id w.stage)]
  cases houtcome with
  | refused h =>
      have h : (w.stage.engine.look id).alive = false := h
      rw [h]
      rfl
  | unwritable h hc =>
      have h : (w.stage.engine.look id).alive = true := h
      rw [h, hc]
      rfl
  | broken h hc hw =>
      have h : (w.stage.engine.look id).alive = true := h
      have hw : (write peer id call _).on w = _ := hw
      rw [write_on] at hw
      rw [h, hc]
      cases hwrite : (World.write peer id _).on w.stage with
      | mk written stage =>
          rw [hwrite] at hw
          cases written <;> cases hw
          exact (Act.on_bind_of_ok (Act.on_ofExcept _ _)).trans (Act.on_bind_of_error hwrite)
  | @read text w' line stage h hc hw hr =>
      have h : (w.stage.engine.look id).alive = true := h
      have hw : (write peer id call _).on w = _ := hw
      rw [write_on] at hw
      rw [h, hc]
      cases hwrite : (World.write peer id _).on w.stage with
      | mk written stage =>
          rw [hwrite] at hw
          cases written <;> cases hw
          refine (Act.on_bind_of_ok (Act.on_ofExcept _ _)).trans
            ((Act.on_bind_of_ok hwrite).trans ?_)
          have hr : (World.readLine id timeout).on stage = _ := hr
          rw [Act.on_bind, hr]
          cases line with
          | error f => rfl
          | ok line => exact Act.on_ofExcept _ _

end Wire

end Bridge

end StoryServer
