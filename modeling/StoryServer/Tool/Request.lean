import StoryServer.Story.Continuation
import StoryServer.Tool.Catalog

/-!
# Requests

A `Request` is a call of a tool with arguments of the right kinds.  `Request.read` reads
one from the members of an object; it takes the first argument that is refused, in the
order in which a tool looks at them.  A null argument counts as absent.  A double without
fraction counts as a whole number; a truth value never does.
-/

namespace StoryServer

/-! ## Arguments -/

namespace Argument

/-- The value of an argument, unless it is absent or null. -/
def given? (args : Fields) (key : String) : Option Json :=
  match args.get? key with
  | some .null | none => none
  | some v => some v

/-- The value of an argument that must be given. -/
def given (args : Fields) (key : String) : Except ArgumentDefect Json :=
  match given? args key with
  | some v => .ok v
  | none => .error (.missing key)

def text (args : Fields) (key : String) : Except ArgumentDefect String := do
  match ← given args key with
  | .str s => return s
  | v => throw (.wrongKind key .text v.kind)

/-- A text that may be absent. -/
def optionalText (args : Fields) (key : String) : Except ArgumentDefect (Option String) :=
  match given? args key with
  | none => .ok none
  | some _ => some <$> text args key

/-- A value as a whole number. -/
def asInteger (key : String) (v : Json) : Except ArgumentDefect Int :=
  match v with
  | .int n => .ok n
  | .float x =>
    match x.isWhole, x.truncate? with
    | true, some n => .ok n
    | _, _ => .error (.wrongKind key .integer .float)
  | v => .error (.wrongKind key .integer v.kind)

def integer (args : Fields) (key : String) : Except ArgumentDefect Int := do
  asInteger key (← given args key)

/-- A whole number that may be absent. -/
def optionalInteger (args : Fields) (key : String) (default : Int) : Except ArgumentDefect Int :=
  match given? args key with
  | none => .ok default
  | some v => asInteger key v

/-- A truth value that may be absent. -/
def optionalBoolean (args : Fields) (key : String) (default : Bool) :
    Except ArgumentDefect Bool :=
  match given? args key with
  | none => .ok default
  | some (.bool b) => .ok b
  | some v => .error (.wrongKind key .boolean v.kind)

/-- An array that may be absent. -/
def optionalArray (args : Fields) (key : String) : Except ArgumentDefect (List Json) :=
  match given? args key with
  | none => .ok []
  | some (.arr items) => .ok items
  | some v => .error (.wrongKind key .array v.kind)

/-- The value for a variable: null or a scalar, and not absent. -/
def scalar (args : Fields) (key : String) : Except ArgumentDefect Json :=
  match args.get? key with
  | none => .error (.missing key)
  | some (.arr _) | some (.obj _) => .error .compoundValue
  | some v => .ok v

/-- The key under which a breakpoint is named. -/
def breakpointKey (args : Fields) : Except ArgumentDefect String :=
  if (given? args "breakpoint_id").isSome then .ok "breakpoint_id"
  else if (given? args "id").isSome then .ok "id"
  else .error (.missing "breakpoint_id")

end Argument

/-! ## Requests -/

/-- A call of a tool. -/
inductive Request where
  | compileInk (source : String)
  /-- Starts a story from its source. -/
  | startStory (source : String) (session : Option String)
  /-- Starts a compiled story, perhaps from a saved state. -/
  | startStoryJson (json : String) (session state : Option String)
  /-- Takes a choice and perhaps continues. -/
  | choose (session : String) (choice : Int) (continues : Bool)
  | continueStory (session : String)
  | getVariable (session name : String)
  | setVariable (session name : String) (value : Json)
  /-- Saves the state of a story. -/
  | saveState (session : String)
  /-- Restores the state of a story. -/
  | loadState (session state : String)
  | resetStory (session : String)
  /-- Calls a function of a story. -/
  | evaluateFunction (session function : String) (arguments : List Json)
  /-- Reads the tags at the top. -/
  | getGlobalTags (session : String)
  | listSessions
  | endSession (session : String)
  | bidify (text : String)
  /-- Removes the marks from a text. -/
  | stripBidi (text : String)
  /-- Marks the texts of a compiled story. -/
  | bidifyJson (json : String)
  | startDebug (session : String)
  | addBreakpoint (session type target : String)
  | removeBreakpoint (session breakpoint : String)
  | listBreakpoints (session : String)
  | debugStep (session : String)
  | debugContinue (session : String) (most : Int)
  | addWatch (session variableName : String)
  | removeWatch (session variableName : String)
  | debugInspect (session : String)
  | debugTrace (session : String) (latest : Int)
  | endDebug (session : String)
  | llmChat (message : String)
  | generateInk (prompt : String)
  | reviewInk (source : String)
  | translateInkHebrew (source : String)
  /-- Has ink written and starts it. -/
  | generateCompilePlay (prompt : String)
  | modelInfo
  deriving DecidableEq, Repr

namespace Request

open Argument

/-- The session that a tool works on. -/
def session (args : Fields) : Except ArgumentDefect String := text args "session_id"

/-- The call of a tool with arguments. -/
def read (args : Fields) : Tool → Except ArgumentDefect Request
  | .compileInk => return .compileInk (← text args "source")
  | .startStory =>
    return .startStory (← text args "source") (← optionalText args "session_id")
  | .startStoryJson =>
    return .startStoryJson (← text args "json") (← optionalText args "session_id")
      (← optionalText args "state_json")
  | .choose =>
    return .choose (← session args) (← integer args "choice_index")
      (← optionalBoolean args "auto_continue" true)
  | .continueStory => return .continueStory (← session args)
  | .getVariable => return .getVariable (← session args) (← text args "name")
  | .setVariable => do
    let value ← scalar args "value"
    return .setVariable (← session args) (← text args "name") value
  | .saveState => return .saveState (← session args)
  | .loadState => return .loadState (← session args) (← text args "state_json")
  | .resetStory => return .resetStory (← session args)
  | .evaluateFunction => do
    let arguments ← optionalArray args "args"
    return .evaluateFunction (← session args) (← text args "function_name") arguments
  | .getGlobalTags => return .getGlobalTags (← session args)
  | .listSessions => return .listSessions
  | .endSession => return .endSession (← session args)
  | .bidify => return .bidify (← text args "text")
  | .stripBidi => return .stripBidi (← text args "text")
  | .bidifyJson => return .bidifyJson (← text args "json")
  | .startDebug => return .startDebug (← session args)
  | .addBreakpoint =>
    return .addBreakpoint (← session args) (← text args "type") (← text args "target")
  | .removeBreakpoint => do
    let key ← breakpointKey args
    return .removeBreakpoint (← session args) (← text args key)
  | .listBreakpoints => return .listBreakpoints (← session args)
  | .debugStep => return .debugStep (← session args)
  | .debugContinue =>
    return .debugContinue (← session args) (← optionalInteger args "max_steps" 100)
  | .addWatch => return .addWatch (← session args) (← text args "variable")
  | .removeWatch => return .removeWatch (← session args) (← text args "variable")
  | .debugInspect => return .debugInspect (← session args)
  | .debugTrace => return .debugTrace (← session args) (← optionalInteger args "last_n" 50)
  | .endDebug => return .endDebug (← session args)
  | .llmChat => return .llmChat (← text args "message")
  | .generateInk => return .generateInk (← text args "prompt")
  | .reviewInk => return .reviewInk (← text args "source")
  | .translateInkHebrew => return .translateInkHebrew (← text args "source")
  | .generateCompilePlay => return .generateCompilePlay (← text args "prompt")
  | .modelInfo => return .modelInfo

/-- Why a value that is no object does not say what to set a variable to.  A text or an
array may still hold the word for it, but nothing under it. -/
def noValueIn : Json → Fault
  | .str s =>
    if Text.occursIn "value".toList s.toList then .misuse (.textIndex .str)
    else .arguments (.missing "value")
  | .arr items =>
    if items.contains (.str "value") then .misuse (.arrayIndex .str)
    else .arguments (.missing "value")
  | v => .misuse (.notContainer v.kind)

/-- The call of a tool with a value as its arguments, which should be an object.  A tool
without arguments takes any value. -/
def ofJson (arguments : Json) (tool : Tool) : Except Fault Request :=
  match tool, arguments with
  | .listSessions, _ => .ok .listSessions
  | .modelInfo, _ => .ok .modelInfo
  | _, .obj fields => (read fields tool).mapError Fault.arguments
  | .setVariable, v => .error (noValueIn v)
  | _, v => .error (.misuse (.noAttribute v.kind "get"))

theorem ofJson_obj (fields : Fields) (tool : Tool) :
    ofJson (.obj fields) tool = (read fields tool).mapError Fault.arguments := by
  cases tool <;> rfl

/-- The arguments of a request with all defaults filled in. -/
def arguments : Request → Fields
  | .compileInk source | .reviewInk source | .translateInkHebrew source =>
    [("source", .str source)]
  | .startStory source session => [("source", .str source), ("session_id", .ofText? session)]
  | .startStoryJson json session state =>
    [("json", .str json), ("session_id", .ofText? session), ("state_json", .ofText? state)]
  | .choose session choice continues =>
    [("session_id", .str session), ("choice_index", .int choice), ("auto_continue", .bool continues)]
  | .continueStory session | .saveState session | .resetStory session | .getGlobalTags session
  | .endSession session | .startDebug session | .listBreakpoints session | .debugStep session
  | .debugInspect session | .endDebug session => [("session_id", .str session)]
  | .getVariable session name => [("session_id", .str session), ("name", .str name)]
  | .setVariable session name value =>
    [("session_id", .str session), ("name", .str name), ("value", value)]
  | .loadState session state => [("session_id", .str session), ("state_json", .str state)]
  | .evaluateFunction session function arguments =>
    [("session_id", .str session), ("function_name", .str function), ("args", .arr arguments)]
  | .bidify text | .stripBidi text => [("text", .str text)]
  | .bidifyJson json => [("json", .str json)]
  | .addBreakpoint session type target =>
    [("session_id", .str session), ("type", .str type), ("target", .str target)]
  | .removeBreakpoint session breakpoint =>
    [("session_id", .str session), ("breakpoint_id", .str breakpoint)]
  | .debugContinue session most => [("session_id", .str session), ("max_steps", .int most)]
  | .addWatch session name | .removeWatch session name =>
    [("session_id", .str session), ("variable", .str name)]
  | .debugTrace session latest => [("session_id", .str session), ("last_n", .int latest)]
  | .llmChat message => [("message", .str message)]
  | .generateInk prompt | .generateCompilePlay prompt => [("prompt", .str prompt)]
  | .listSessions | .modelInfo => []

end Request

end StoryServer
