import StoryServer.Bridge.Engine
import StoryServer.Command.Options
import StoryServer.Web.Service

/-!
# Runs

What a command line sets up: the tools, and how messages are taken.  A run announces its
tools, serves, and in the end closes every session, also when serving fails.  What takes
requests over HTTP is not part of the program: it hands one request after another to the
service until it stops, and the `Visits` of a run say which they are.
-/

namespace StoryServer

namespace Options

/-- How story processes are started. -/
def processes (o : Options) (env : Environment) : Bridge.Settings :=
  { program := o.program, module := o.module, bidify := o.bidify
    inheritedBidify := env "INKY_BIDIFY_PATH" }

/-- The tools of a run. -/
def toolbox {ε : Type} (o : Options) (env : Environment) (engine : StoryEngine ε) :
    Except Fault (Toolbox ε) := do
  let author ← if o.noAuthor then pure none else Author.Settings.configured? env
  return { engine, traceLimit := if o.noDebug then none else some Debug.defaultLimit, author }

/-- Whether messages are taken as lines. -/
def takesLines (o : Options) : Bool := o.transport == "stdio"

end Options

namespace Toolbox

/-- The words for whether something is there. -/
def onOff (b : Bool) : String := if b then "on" else "off"

/-- What is said of the tools when a run starts. -/
def announcement {ε : Type} (box : Toolbox ε) : String :=
  let model := match box.author with
    | some settings => settings.model
    | none => "off"
  s!"[inky] {box.tools.length} tools (debug=" ++ onOff box.traceLimit.isSome
    ++ ", bidi=" ++ onOff box.engine.hasBidi ++ s!", llm={model})"

end Toolbox

/-- Where a run listens. -/
structure Listener where
  host : String
  port : Int
  deriving DecidableEq, Repr

/-- What a run did: the lines it wrote, and where it listened. -/
structure RunReport where
  lines : List String := []
  listeners : List Listener := []
  deriving DecidableEq, Repr

/-- What comes to a run that listens. -/
structure Visits where
  /-- Where the ids of channels come from. -/
  channelIds : IdSupply := { numbered := toString }
  /-- The requests, first one first. -/
  requests : List HttpRequest := []
  /-- How it stops listening. -/
  stopped : Except Fault Unit := .ok ()

namespace Launch

variable {ε : Type}

/-- Says where a run listens. -/
def listening (identity : Identity) (o : Options) : String :=
  s!"[inky] {identity.name} {identity.version} listening on http://{o.host}:{o.port}/sse"

/-- The service over HTTP, until it stops. -/
def receive (p : Processor ε) (v : Visits) : Act (Server ε) Unit := do
  let hub := v.requests.foldl (fun h r => (Service.serve p r h).2)
    { server := ← get, ids := v.channelIds }
  set hub.server
  Act.ofExcept v.stopped

/-- Serves lines, or says where it listens and serves requests. -/
def serve (p : Processor ε) (o : Options) (input : String) (v : Visits) :
    Act (Server ε) RunReport := do
  if o.takesLines then return { lines := ← p.serve input }
  else
    Server.note (listening p.identity o)
    receive p v
    return { listeners := [⟨o.host, o.port⟩] }

/-- A run over an input and requests. -/
def attend (box : Toolbox ε) (o : Options) (input : String) (v : Visits) :
    Act (Server ε) RunReport := do
  Server.note box.announcement
  Act.andFinally (serve { box } o input v) (Registry.closeAll box.engine)

/-- A run over an input, which stops at once when it listens. -/
def run (box : Toolbox ε) (o : Options) (input : String) : Act (Server ε) RunReport :=
  attend box o input {}

/-- A run with the words of its command line and story processes. -/
def program {σ : Type} (peer : Bridge.Peer σ) (env : Environment) (words : List String)
    (input : String) (v : Visits) : Act (Server (Bridge.World σ)) (Except Halt RunReport) := do
  match (← Act.ofExcept (Options.ofEnvironment env)).ofWords words with
  | .error halt => return .error halt
  | .ok o =>
    let box ← Act.ofExcept (o.toolbox env (Bridge.engine peer (o.processes env)))
    return .ok (← attend box o input v)

end Launch

end StoryServer
