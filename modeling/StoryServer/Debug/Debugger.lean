import StoryServer.Server

/-!
# Stepping through a story

The debugger takes a story line by line.  A step reads the watched variables, tells one
line, reads the variables again, looks for a breakpoint and adds the step to the trace.
It changes the story exactly as telling the line does; reading variables changes nothing.
-/

namespace StoryServer

namespace Debug

variable {ε : Type} (engine : StoryEngine ε)

/-- The least number of steps a continuation takes when none is given. -/
def defaultSteps : Int := 100

/-- How many steps a trace shows when no number is given. -/
def defaultEntries : Int := 50

/-- How many steps a trace keeps when no number is given. -/
def defaultLimit : Int := 1000

/-- How much of a step's text the trace keeps. -/
def traceTextLimit : Nat := 100

/-- How much of the last step's text an inspection shows. -/
def inspectTextLimit : Nat := 200

/-- How many steps an inspection shows. -/
def recentVisits : Nat := 10

/-- The largest size of a trace. -/
def sizeLimit : Int := Nat.pow 2 63

/-! ## Records -/

/-- The record of a session changed. -/
def update (id : String) (change : Record → Record) : Act (Server ε) Unit :=
  modify fun s => { s with
    records := s.records.map fun r => if r.session == id then change r else r }

/-- A record in the place of the one for the same session, or a new one. -/
def putRecord (r : Record) : List Record → List Record
  | [] => [r]
  | q :: rest => if q.session == r.session then r :: rest else q :: putRecord r rest

/-- How many steps a trace keeps, for a number that is asked for. -/
def traceSize (limit : Int) : Except Fault Nat :=
  if limit < 0 then .error .negativeSize
  else if limit ≥ sizeLimit then .error .tooLargeForSize
  else .ok limit.toNat

/-- Starts debugging a live session, with an empty record. -/
def start (limit : Int) (id : String) : Act (Server ε) Json := do
  let _ ← Server.session id
  let limit ← Act.ofExcept (traceSize limit)
  modify fun s => { s with records := putRecord { session := id, limit } s.records }
  Server.note s!"[inky] debug session started for {id}"
  return .obj [("session_id", .str id), ("debugging", .bool true),
    ("message", .str ("Debug session started. "
      ++ "Use add_breakpoint, add_watch, debug_step, debug_continue."))]

def stop (id : String) : Act (Server ε) Bool := do
  let s ← get
  if s.records.any (·.session == id) then
    set { s with records := s.records.filter fun r => r.session != id }
    Server.note s!"[inky] debug session ended for {id}"
    return true
  else return false

/-- Whether a session is being debugged. -/
def isActive (id : String) : Act (Server ε) Bool := do
  return (← get).records.any (·.session == id)

/-! ## Breakpoints and watches -/

def addBreakpoint (id typeName target : String) : Act (Server ε) Breakpoint := do
  match BreakpointType.ofName? typeName with
  | none => throw (.breakpointType typeName)
  | some type =>
    if target.isEmpty then throw .breakpointTarget
    let _ ← Server.session id
    let r ← Server.record id
    let b : Breakpoint := { number := r.nextBreakpoint, type, target }
    update id fun r => { r with
      breakpoints := r.breakpoints ++ [b], nextBreakpoint := r.nextBreakpoint + 1 }
    Server.note s!"[inky] {id}: breakpoint {b.id} {typeName} -> {target}"
    return b

def removeBreakpoint (id breakpoint : String) : Act (Server ε) Bool := do
  let _ ← Server.session id
  let r ← Server.record id
  let kept := r.breakpoints.filter fun b => b.id != breakpoint
  update id fun r => { r with breakpoints := kept }
  return kept.length != r.breakpoints.length

/-- The breakpoints of a session, which need not be live. -/
def breakpoints (id : String) : Act (Server ε) (List Breakpoint) := do
  return (← Server.record id).breakpoints

/-- Makes a breakpoint looked at or not. -/
def enable (id breakpoint : String) (enabled : Bool) : Act (Server ε) Unit := do
  let _ ← Server.record id
  update id fun r => { r with
    breakpoints := r.breakpoints.map fun b => if b.id == breakpoint then { b with enabled } else b }

/-- The value of a variable, null when it cannot be read. -/
def readVariable (story : StoryId) (name : String) : Act (Server ε) Json := do
  match ← Act.attempt (Server.onStage (engine.getVariable story name)) with
  | .ok v => return v
  | .error f =>
    Server.note s!"[inky] watch {Text.quoted name} unreadable: {f.report}"
    return .null

def readVariables (story : StoryId) : List String → Act (Server ε) (List (String × Json))
  | [] => pure []
  | name :: rest => do
    let v ← readVariable engine story name
    return (name, v) :: (← readVariables story rest)

/-- Watches a variable, from its present value on. -/
def addWatch (id name : String) : Act (Server ε) Watch := do
  let s ← Server.session id
  let _ ← Server.record id
  let w : Watch := { name, last := ← readVariable engine s.story name }
  update id fun r => { r with watches := Record.putWatch w r.watches }
  return w

def removeWatch (id name : String) : Act (Server ε) Bool := do
  let _ ← Server.session id
  let r ← Server.record id
  update id fun r => { r with watches := r.watches.filter fun w => w.name != name }
  return r.watches.any (·.name == name)

/-! ## Steps -/

/-- Looks at the watched variables after a line.  `before` are their values before it. -/
def lookAtWatches (id : String) (story : StoryId) :
    List (String × Json) → Act (Server ε) (List Change)
  | [] => pure []
  | (name, old) :: rest => do
    let new ← readVariable engine story name
    update id (·.updateWatch name fun w => { w with last := new })
    if ← Act.ofExcept (sameValue old new) then lookAtWatches id story rest
    else
      update id (·.updateWatch name fun w => { w with changes := w.changes + 1 })
      return { name, old, new } :: (← lookAtWatches id story rest)

/-- A line that a step has told, before anything is recorded of it. -/
structure Passage where
  story : StoryId
  /-- The watched variables before it, with their values. -/
  before : List (String × Json)
  told : Continuation
  deriving DecidableEq, Repr

/-- Tells the line of a step, if there is one. -/
def advance (id : String) : Act (Server ε) Passage := do
  let session ← Server.session id
  let story := session.story
  let r ← Server.record id
  if !(← Server.onStage (engine.canContinue story)) then
    let choices ← Server.onStage (engine.choices story)
    throw (.notSteppable id (!choices.isEmpty))
  let before ← readVariables engine story (r.watches.map (·.name))
  let told ← Server.onStage (engine.continueLine story)
  return { story, before, told }

/-- Pauses a session at the breakpoint that a step hit, if it hit one. -/
def pauseAt (id : String) (number : Nat) : Option Breakpoint → Act (Server ε) Unit
  | none => pure ()
  | some b => do
    update id fun r => { r with paused := true }
    Server.note s!"[inky] {id}: step {number} hit {b.id}"

/-- What a step has found out about the line that it told. -/
structure Verdict where
  number : Nat
  changes : List Change
  hit : Option Breakpoint
  deriving DecidableEq, Repr

/-- Counts a told line and looks at the watches and the breakpoints. -/
def judge (id : String) (p : Passage) : Act (Server ε) Verdict := do
  let number := (← Server.record id).steps + 1
  update id fun r => { r with steps := number, lastOutput := p.told.text }
  let changes ← lookAtWatches engine id p.story p.before
  let breakpoints := (← Server.record id).breakpoints
  let hit ← Act.ofExcept (firstHit p.told.text (changes.map (·.name)) breakpoints)
  return { number, changes, hit }

/-- Pauses at the breakpoint that was hit, adds the line to the trace, and says what the step
did. -/
def conclude (id : String) (told : Continuation) (v : Verdict) : Act (Server ε) StepOutcome := do
  pauseAt id v.number v.hit
  let text ← Act.ofExcept (beginning traceTextLimit told.text)
  let time ← Server.readClock
  update id (·.visit { step := v.number, text, changed := v.changes.map (·.name), time })
  return { text := told.text, canContinue := told.canContinue, choices := told.choices
           tags := told.tags, number := v.number, paused := (← Server.record id).paused
           hit := v.hit, changes := v.changes }

def step (id : String) : Act (Server ε) StepOutcome := do
  let p ← advance engine id
  conclude id p.told (← judge engine id p)

/-- Whether a continuation stops after a step. -/
def stops (o : StepOutcome) : Bool := o.hit.isSome || !o.canContinue || !o.choices.isEmpty

/-- Takes steps until one stops the continuation, at most `n` after the last one. -/
def steps (id : String) : Nat → StepOutcome → Act (Server ε) StepOutcome
  | 0, last => pure last
  | n + 1, last =>
    if stops last then pure last
    else do steps id n (← step engine id)

/-- Begins a continuation: the session is paused no longer. -/
def unpause (id : String) : Act (Server ε) Record := do
  let _ ← Server.session id
  let r ← Server.record id
  update id fun r => { r with paused := false }
  return r

/-- Takes at most so many steps, until a breakpoint is hit, a choice is on offer, or the
story ends. -/
def continueFor (id : String) (most : Int) : Act (Server ε) StepOutcome := do
  let r ← unpause id
  match most.toNat with
  | 0 => return { text := .str "", canContinue := false, number := r.steps, paused := false }
  | n + 1 => steps engine id n (← step engine id)

/-! ## Looking at a record -/

/-- What is known of a debugged story. -/
def inspect (id : String) : Act (Server ε) Json := do
  let session ← Server.session id
  let r ← Server.record id
  let values ← readVariables engine session.story (r.watches.map (·.name))
  let text ← Act.ofExcept (beginning inspectTextLimit r.lastOutput)
  return .obj [("session_id", .str id), ("total_steps", .int r.steps),
    ("is_paused", .bool r.paused), ("breakpoints", .int r.breakpoints.length),
    ("watches", .obj values),
    ("watch_change_counts", .obj (r.watches.map fun w => (w.name, .int w.changes))),
    ("last_output", text), ("visit_log_size", .int r.trace.length),
    ("recent_visits", .arr ((r.latest recentVisits).map fun v => .obj v.summary))]

/-- The latest steps of a session, which need not be live. -/
def trace (id : String) (n : Int) : Act (Server ε) Json := do
  return .arr (((← Server.record id).latest n).map Visit.toJson)

end Debug

end StoryServer
