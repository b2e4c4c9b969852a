import StoryServer.Story.Engine

/-!
# Story processes

Every story of a bridge runs in a process of its own.  A command is one line to the
process, its answer one line back.  What a process does with a line is given by a
`Peer`: it takes the line and says what then happens, as a `Reaction`.  A process may also
never take the line.  The pipe to it is full then, and writing does not end.

What comes out of a process is queued in order of arrival.  A command waits for the next
arrival, whatever it answers; when nothing is queued the process is taken to be stuck,
and is ended.  Once ended, a process is never written to again, so no late answer can be
taken for the answer to a later command.

How long a command waits plays no part here: whether something arrives in time is for the
other side to say.
-/

namespace StoryServer

namespace Bridge

/-! ## The other side -/

/-- What happens when a line is written to a process. -/
structure Reaction where
  /-- The line is never taken. -/
  stuck : Bool := false
  broken : Option String := none
  /-- Texts on the error output, before anything else. -/
  errorLines : List String := []
  /-- Texts on the output, each with a line feed behind it. -/
  lines : List String := []
  /-- Reading fails after these lines, for this reason. -/
  readError : Option String := none
  exits : Bool := false
  /-- From now on the process does not end when asked to. -/
  stubborn : Bool := false
  deriving DecidableEq, Repr

/-- The lines that are read of the output, each with a line feed behind it. -/
def Reaction.output (r : Reaction) : List String :=
  (r.lines.flatMap fun text => Text.streamLines (text.toList ++ ['\n']) []).map (· ++ "\n")

/-- What processes do with the lines written to them, as a state machine shared by all
processes. -/
structure Peer (σ : Type) where
  /-- The reaction of a process to a line. -/
  react : Nat → String → σ → Reaction × σ
  /-- For how many levels of arrays and objects there is room when an answer is read. -/
  room : Nat := 960

/-- A peer that plays reactions in the order in which lines are written, and one and the
same reaction when they have run out. -/
def Peer.scripted (otherwise : Reaction) : Peer (List Reaction) where
  react := fun _ _ script =>
    match script with
    | [] => (otherwise, [])
    | r :: rest => (r, rest)

/-! ## Processes -/

/-- What arrives from a process. -/
inductive Arrival where
  | line (text : String)
  | failed (reason : String)
  /-- There is nothing more to come. -/
  | closed
  deriving DecidableEq, Repr

/-- A process and what is known of it. -/
structure Process where
  running : Bool := true
  /-- Whether it still belongs to its story. -/
  attached : Bool := true
  /-- Whether it ignores being asked to end. -/
  stubborn : Bool := false
  /-- Whether its output is still read. -/
  reading : Bool := true
  /-- What has arrived and is not yet taken. -/
  arrivals : List Arrival := []
  /-- The latest lines of the error output, first one first. -/
  errorLog : List String := []
  deriving DecidableEq, Repr

namespace Process

/-- How many lines of error output are kept. -/
def errorLogSize : Nat := 200

/-- Whether commands can be written. -/
def alive (p : Process) : Bool := p.attached && p.running

/-- A line on the error output kept, the oldest one dropped when there are too many. -/
def keepError (p : Process) (line : String) : Process :=
  let log := p.errorLog ++ [line]
  { p with errorLog := log.drop (log.length - errorLogSize) }

/-- What arrives in a reaction. -/
def arrivalsOf (r : Reaction) : List Arrival :=
  r.output.map .line ++
    match r.readError with
    | some reason => [.failed reason, .closed]
    | none => if r.exits then [.closed] else []

/-- The process after a reaction. -/
def after (p : Process) (r : Reaction) : Process :=
  { p with
    running := p.running && !r.exits
    stubborn := p.stubborn || r.stubborn
    reading := p.reading && r.readError.isNone && !r.exits
    arrivals := if p.reading then p.arrivals ++ arrivalsOf r else p.arrivals }

end Process

/-! ## Events -/

/-- What a bridge does to processes. -/
inductive Event where
  | spawn (program module : String) (bidify : Option String)
  | send (line : String)
  /-- A process is asked to end. -/
  | terminate
  /-- A process is ended by force. -/
  | kill
  deriving DecidableEq, Repr

/-- How long an answer may take, in seconds, when nothing else is said. -/
def defaultTimeout : Json := .float (Binary64.ofInt 30)

/-- How processes are started. -/
structure Settings where
  program : String := "node"
  module : String := "inkjs/full"
  /-- The module that marks texts for right-to-left display. -/
  bidify : Option String := none
  /-- Such a module set in the environment. -/
  inheritedBidify : Option String := none
  /-- How long an answer may take, in seconds. -/
  timeout : Json := defaultTimeout

/-- All processes, what was done to them, and the other side. -/
structure World (σ : Type) where
  peer : σ
  processes : List Process := []
  /-- What was done to processes, latest first. -/
  events : List Event := []

namespace World

def record {σ : Type} (event : Event) : Act (Stage (World σ)) Unit :=
  Stage.inEngine (modify fun w => { w with events := event :: w.events })

/-- A process by its number. -/
def process {σ : Type} (id : StoryId) : Act (Stage (World σ)) Process := do
  return ((← get).engine.processes[id]?).getD { running := false, attached := false }

def update {σ : Type} (id : StoryId) (change : Process → Process) : Act (Stage (World σ)) Unit :=
  Stage.inEngine (modify fun w => { w with processes := w.processes.modify id change })

/-- The number of a process in the operating system. -/
def systemNumber (id : StoryId) : Nat := 1001 + id

/-! ## Starting, ending and talking -/

/-- Whether a path is given and not empty. -/
def given : Option String → Bool
  | some path => !path.isEmpty
  | none => false

def start {σ : Type} (settings : Settings) : Act (Stage (World σ)) StoryId := do
  let bidify := if given settings.bidify then settings.bidify else settings.inheritedBidify
  record (.spawn settings.program settings.module bidify)
  let id := (← get).engine.processes.length
  Stage.inEngine (modify fun w => { w with processes := w.processes ++ [{}] })
  return id

/-- Ends a process: it is asked to, and killed when it does not.  It no longer belongs to
a story. -/
def terminate {σ : Type} (id : StoryId) : Act (Stage (World σ)) Unit := do
  let p ← process id
  if p.alive then
    record .terminate
    if p.stubborn then record .kill
  update id fun p => { p with running := p.running && !p.attached, attached := false }

/-- Error output is kept and logged, but for empty lines. -/
def takeErrors {σ : Type} (id : StoryId) : List String → Act (Stage (World σ)) Unit
  | [] => pure ()
  | line :: rest => do
    if !line.isEmpty then
      update id (·.keepError line)
      Stage.note s!"[inky-stderr] {line}"
    takeErrors id rest

/-- What comes of a line that was taken or refused: error output, and a pipe that is found broken
or what is said in answer. -/
def takeReaction {σ : Type} (id : StoryId) (reaction : Reaction) : Act (Stage (World σ)) Unit := do
  takeErrors id (reaction.errorLines.flatMap fun text => Text.streamLines text.toList [])
  match reaction.broken with
  | some reason =>
    update id fun p =>
      { p with running := p.running && !reaction.exits, stubborn := p.stubborn || reaction.stubborn }
    throw (.bridge (.writeFailed reason))
  | none => update id (·.after reaction)

/-- Writes a line, and what then happens happens.  This does not end when the line is never
taken, however long an answer may take. -/
def write {σ : Type} (peer : Peer σ) (id : StoryId) (line : String) :
    Act (Stage (World σ)) Unit := do
  record (.send line)
  let (reaction, state) := peer.react id line (← get).engine.peer
  Stage.inEngine (modify fun w => { w with peer := state })
  if reaction.stuck then throw .endless
  takeReaction id reaction

/-- The next line to arrive.  When there is none the process is ended. -/
def readLine {σ : Type} (id : StoryId) (timeout : Json) : Act (Stage (World σ)) String := do
  match (← process id).arrivals with
  | [] =>
    Stage.note <| s!"[inky-bridge] no reply after {timeout.shown}s, "
      ++ s!"terminating pid {systemNumber id}"
    terminate id
    throw (.timeout timeout)
  | arrival :: rest =>
    update id fun p => { p with arrivals := rest }
    match arrival with
    | .line text => return text
    | .failed reason => throw (.bridge (.readFailed reason))
    | .closed => throw (.bridge .closed)

/-- The answer in a line, with room for so many levels: an object whose status is not an
error. -/
def answer (room : Nat) (line : String) : Except Fault Fields := do
  match Json.parseText (.within room) line with
  | .error (.number d) => .error (.number d)
  | .error (.tooDeep kind) => .error (.tooDeep kind)
  | .error (.syntaxAt ..) => .error (.bridge (.malformed line))
  | .ok v =>
    let fields ← v.members
    if fields.get? "status" = some (.str "error") then
      .error (.bridge (.refused ((fields.get? "message").getD (.str "unknown bridge error"))))
    else .ok fields

/-- Sends a command and waits for its answer. -/
def send {σ : Type} (peer : Peer σ) (id : StoryId) (timeout command : Json) :
    Act (Stage (World σ)) Fields := do
  if !(← process id).alive then throw (.bridge .notRunning)
  let text ← Act.ofExcept (writeJson .ascii command)
  write peer id (text ++ "\n")
  Act.ofExcept (answer peer.room (← readLine id timeout))

end World

end Bridge

end StoryServer
