import StoryServer.Command.Launch
import StoryServer.Ink.Shelf

/-!
# The program

Reads the command line and the environment, and answers messages, one a line, until the
input ends.  The stories are told in process.  Answers go to the output and the log to
the error output.

A run that is asked to listen says where it would, and ends: lines are the only way in
which this program takes messages.  Help from a model needs an endpoint, and here every
request to one fails.
-/

namespace StoryServer

namespace Console

/-- The variables that a run looks at. -/
def watched : List String :=
  ["INKY_TRANSPORT", "INKY_HOST", "INKY_PORT", "INKY_NODE", "INKY_INKJS_MODULE",
    "INKY_BIDIFY_PATH", "INKY_DISABLE_DEBUG", "INKY_LLM_MODEL", "INKY_LLM_BASE_URL",
    "OPENAI_API_KEY", "INKY_LLM_MAX_RETRIES", "INKY_LLM_RETRY_BASE_DELAY"]

/-- The environment of the program. -/
def readEnvironment : IO Environment := do
  let values ← watched.mapM fun name => do return (name, ← IO.getEnv name)
  return fun name => (values.lookup name).join

/-- What is said when help is asked for. -/
def usage : String :=
  "usage: inky-mcp [-h] [--transport \x7bsse,stdio\x7d] [--host HOST] [--port PORT] "
    ++ "[--node NODE] [--inkjs INKJS] [--bidify BIDIFY] [--no-debug] [--no-llm]"

/-- What is said of a refused command line. -/
def refusal (e : UsageError) : String := "inky-mcp: error: " ++ e.message

/-- A server that has not been asked anything; its ids begin at a number. -/
def newServer (firstId : Nat) : Server Ink.Shelf where
  stage := { engine := {} }
  ids := { numbered := fun n => String.ofList (Text.hex Registry.idLength (firstId + n)) }
  clock := { now := 0 }
  author :=
    { endpoint := { otherwise := .failed "there is no chat endpoint" }, waiting := .counted }

/-- Writes the log and empties it. -/
def writeLog (errors : IO.FS.Stream) (server : Server Ink.Shelf) : IO (Server Ink.Shelf) := do
  for line in server.stage.log.reverse do errors.putStrLn line
  errors.flush
  return { server with stage := { server.stage with log := [] } }

/-- The answer or the fault of an action, whose log is written. -/
def perform {α : Type} (errors : IO.FS.Stream) (act : Act (Server Ink.Shelf) α)
    (server : Server Ink.Shelf) : IO (Except Fault α × Server Ink.Shelf) := do
  let now ← IO.monoMsNow
  let (r, server) := act.on { server with clock := { now } }
  return (r, ← writeLog errors server)

/-- Answers lines until the input ends or a line cannot be answered for. -/
partial def answerLines (p : Processor Ink.Shelf) (input output errors : IO.FS.Stream)
    (server : Server Ink.Shelf) : IO (Option Fault × Server Ink.Shelf) := do
  let received ← input.getLine
  if received.isEmpty then return (none, server)
  let (r, server) ← perform errors (p.line received) server
  match r with
  | .error f => return (some f, server)
  | .ok none => answerLines p input output errors server
  | .ok (some answer) =>
    output.putStrLn answer
    output.flush
    answerLines p input output errors server

/-- A run with its options. -/
def run (o : Options) (env : Environment) : IO UInt32 := do
  let errors ← IO.getStderr
  let engine := Ink.engine (Bridge.World.given o.bidify)
  match o.toolbox env engine with
  | .error f =>
    errors.putStrLn f.report
    return 1
  | .ok box =>
    let p : Processor Ink.Shelf := { box }
    let server := newServer (← IO.rand 0x10000000 0x7fffffff)
    let (_, server) ← perform errors (Server.note box.announcement) server
    if o.takesLines then
      let (_, server) ← perform errors Processor.greet server
      let (fault, server) ← answerLines p (← IO.getStdin) (← IO.getStdout) errors server
      let _ ← perform errors (Registry.closeAll engine) server
      match fault with
      | some f =>
        errors.putStrLn f.report
        return 1
      | none => return 0
    else
      let _ ← perform errors (Server.note (Launch.listening p.identity o)) server
      errors.putStrLn "inky-mcp: error: only --transport stdio is served"
      return 1

/-- A run with the words of its command line. -/
def start (words : List String) : IO UInt32 := do
  let errors ← IO.getStderr
  let env ← readEnvironment
  match Options.ofEnvironment env with
  | .error f =>
    errors.putStrLn f.report
    return 1
  | .ok usual =>
    match usual.ofWords words with
    | .error .help =>
      (← IO.getStdout).putStrLn usage
      return 0
    | .error (.refused e) =>
      errors.putStrLn usage
      errors.putStrLn (refusal e)
      return 2
    | .ok o => run o env

end Console

end StoryServer

/-- Runs the program with the words of its command line. -/
def main (words : List String) : IO UInt32 := StoryServer.Console.start words
