import StoryServer.Text.Encoding
import StoryServer.Tool.Toolbox

/-!
# Messages

The JSON-RPC 2.0 messages of a client and the responses to them.  A message without an id
is a notification: it is carried out as any other, and not answered.  `Processor.message`
takes a JSON value, `Processor.text` and `Processor.octets` what was received.
-/

namespace StoryServer

/-! ## Responses -/

/-- Why a message has no result. -/
inductive RpcError where
  /-- What was received is no JSON. -/
  | parse (reason : String)
  | notObject
  | noMethod
  | unknownMethod (name : String)
  | paramsNotObject
  | noToolName
  /-- The arguments of a call are no object. -/
  | argumentsNotObject
  | internal (f : Fault)
  deriving DecidableEq, Repr

namespace RpcError

/-- The code of an error. -/
def code : RpcError → Int
  | .parse _ => -32700
  | .notObject | .noMethod => -32600
  | .unknownMethod _ => -32601
  | .paramsNotObject | .noToolName | .argumentsNotObject => -32602
  | .internal _ => -32603

/-- What is said of an error. -/
def message : RpcError → String
  | .parse reason => s!"Parse error: {reason}"
  | .notObject => "Invalid Request: expected a JSON object"
  | .noMethod => "Invalid Request: missing method"
  | .unknownMethod name => s!"Method not found: {name}"
  | .paramsNotObject => "Invalid params: expected an object"
  | .noToolName => "Missing tool name"
  | .argumentsNotObject => "Invalid arguments: expected an object"
  | .internal f => s!"Internal error: {f.message}"

end RpcError

/-- A response with an error. -/
def errorResponse (id : Json) (e : RpcError) : Json :=
  .obj [("jsonrpc", .str "2.0"), ("id", id),
    ("error", .obj [("code", .int e.code), ("message", .str e.message)])]

/-- A response with a result. -/
def resultResponse (id result : Json) : Json :=
  .obj [("jsonrpc", .str "2.0"), ("id", id), ("result", result)]

/-! ## Methods -/

/-- The methods that are answered. -/
inductive RpcMethod where
  | introduction
  | toolsList
  | toolsCall
  | ping
  deriving DecidableEq, Repr

/-- The method with a name. -/
def RpcMethod.ofName? : String → Option RpcMethod
  | "initialize" => some .introduction
  | "tools/list" => some .toolsList
  | "tools/call" => some .toolsCall
  | "ping" => some .ping
  | _ => none

/-- Whether a method is a notice that is taken and passed over. -/
def isNotice (method : String) : Bool :=
  Text.startsWith "notifications/".toList method.toList

/-! ## The processor -/

/-- The name and version under which a server runs. -/
structure Identity where
  name : String := "inky-mcp"
  version : String := "0.1.0"
  deriving DecidableEq, Repr

/-- The version of the protocol. -/
def protocolVersion : String := "2024-11-05"

/-- What answers messages. -/
structure Processor (ε : Type) where
  box : Toolbox ε
  identity : Identity := {}
  /-- For how many levels of arrays and objects in a message there is room. -/
  room : Nat := 960

namespace Processor

variable {ε : Type} (p : Processor ε)

/-- A value that counts as true, else another. -/
def orElse (v : Option Json) (other : Json) : Json :=
  match v with
  | some v => if v.truthy then v else other
  | none => other

/-- The name of a client, which need not be a text. -/
def clientName (client : Fields) : Json := (client.get? "name").getD (.str "unknown client")

/-- A value as it is shown in the log, if it can be shown. -/
def display (v : Json) : Except Fault String :=
  match v.obstacle? p.room with
  | none => .ok v.shown
  | some .tooLong => .error (.number .tooLongToWrite)
  | some .tooDeep => .error .tooDeepToShow

/-- The answer to a client that introduces itself. -/
def introduce (params : Fields) : Act (Server ε) Json := do
  let client ← Act.ofExcept (orElse (params.get? "clientInfo") (.obj [])).members
  let name ← Act.ofExcept (p.display (clientName client))
  Server.note s!"[inky] initialize from {name}"
  return .obj [("protocolVersion", .str protocolVersion),
    ("capabilities", .obj [("tools", .obj [("listChanged", .bool false)])]),
    ("serverInfo", .obj [("name", .str p.identity.name), ("version", .str p.identity.version)])]

/-- The tool and the arguments of a call. -/
def callOf (params : Fields) : Except RpcError (String × Json) :=
  match params.get? "name" with
  | some (.str name) =>
    if name.isEmpty then .error .noToolName
    else
      match params.get? "arguments" with
      | none | some .null => .ok (name, .obj [])
      | some (.obj fields) => .ok (name, .obj fields)
      | some _ => .error .argumentsNotObject
  | _ => .error .noToolName

/-- The parameters of a method. -/
def paramsOf (message : Fields) : Except RpcError Fields :=
  match message.get? "params" with
  | none | some .null => .ok []
  | some (.obj fields) => .ok fields
  | some _ => .error .paramsNotObject

/-- What a method answers to its parameters. -/
def perform (params : Fields) : RpcMethod → Act (Server ε) (Except RpcError Json)
  | .introduction => return .ok (← p.introduce params)
  | .toolsList => return .ok (.obj [("tools", .arr (p.box.tools.map fun t => t.card.toJson))])
  | .toolsCall =>
    match callOf params with
    | .error e => return .error e
    | .ok (name, arguments) => return .ok (← p.box.call name arguments).toJson
  | .ping => return .ok (.obj [])

/-- What a named method answers to a message. -/
def dispatch (method : String) (message : Fields) : Act (Server ε) (Except RpcError Json) :=
  if isNotice method then return .ok (.obj [])
  else
    match RpcMethod.ofName? method with
    | none => return .error (.unknownMethod method)
    | some m =>
      match paramsOf message with
      | .error e => return .error e
      | .ok params => p.perform params m

/-- What a named method answers, a fault being logged. -/
def run (method : String) (message : Fields) : Act (Server ε) (Except RpcError Json) := do
  match ← Act.caught (p.dispatch method message) with
  | .ok r => return r
  | .error f =>
    Server.note s!"[inky] {method} failed: {f.report}"
    return .error (.internal f)

/-- The response to a message. -/
def message (m : Json) : Act (Server ε) (Option Json) := do
  match m with
  | .obj fields =>
    let id := (Fields.get? fields "id").getD .null
    match Fields.get? fields "method" with
    | some (.str method) =>
      let r ← p.run method fields
      if Fields.has fields "id" then
        match r with
        | .ok result => return some (resultResponse id result)
        | .error e => return some (errorResponse id e)
      else return none
    | _ => return some (errorResponse id .noMethod)
  | _ => return some (errorResponse .null .notObject)

/-- The response to what was read of a message.  A whole number that is too long to be
read is a fault, and so is an array or an object for which there is no room. -/
def received (text : List Char) (r : Except Json.ReadDefect Json) : Act (Server ε) (Option Json) :=
  match r with
  | .ok m => p.message m
  | .error (.syntaxAt complaint position) =>
    return some (errorResponse .null (.parse (Json.placed text complaint position)))
  | .error (.number d) => throw (.number d)
  | .error (.tooDeep kind) => throw (.tooDeep kind)

/-- The response to a text. -/
def text (s : String) : Act (Server ε) (Option Json) :=
  p.received s.toList (Json.parseText (.within p.room) s)

def octets (bs : Octets) : Act (Server ε) (Option Json) :=
  match Encoding.decode bs with
  | .ok s => p.received s.toList (Json.parseAll (.within p.room) s.toList)
  | .error d => return some (errorResponse .null (.parse d.message))

/-! ## Lines -/

/-- The line that answers a line, if one does.  A blank line is passed over. -/
def line (received : String) : Act (Server ε) (Option String) := do
  let text := Text.trim received
  if text.isEmpty then return none
  match ← p.text text with
  | none => return none
  | some response => return some (← Act.ofExcept (writeJson .spaced response))

/-- The lines that answer lines, served one after another. -/
def lines : List String → Act (Server ε) (List String)
  | [] => pure []
  | received :: rest => do
    let answer ← p.line received
    return answer.toList ++ (← lines rest)

/-- Says that lines are served. -/
def greet : Act (Server ε) Unit := Server.note "[inky] serving JSON-RPC on stdio"

/-- The lines that answer a text, whose lines end at line feeds alone. -/
def serve (input : String) : Act (Server ε) (List String) := do
  greet
  p.lines ((Text.splitAt '\n' input.toList).map String.ofList)

end Processor

end StoryServer
