import StoryServer.Rpc.Processor
import StoryServer.Web.Channel
import StoryServer.Web.Origin
import StoryServer.Web.Query

/-!
# The service over HTTP

The routes and what they answer.  `POST /message` takes a message: with the id of a
channel the response goes to the channel, without one it is the body of the answer.  The
other routes with `POST` are short ways to single tools; their body is the object of
arguments, and the text of the tool is the body of the answer.

`Service.serve` never fails: a fault that a route does not answer for is answered with
status 500, and told beside the answer.
-/

namespace StoryServer

/-! ## Routes -/

/-- The routes. -/
inductive Route where
  | events
  | message
  /-- Tells that the server is running. -/
  | health
  /-- A short way to a tool. -/
  | shortcut (tool : Tool)
  /-- Reads a variable, or sets it when there is a value. -/
  | storyVariable
  | sessions
  deriving DecidableEq, Repr

namespace Route

/-- All routes and their paths. -/
def all : List (String × Route) :=
  [("/sse", .events), ("/message", .message), ("/health", .health),
    ("/api/compile", .shortcut .compileInk), ("/api/start", .shortcut .startStory),
    ("/api/choose", .shortcut .choose), ("/api/variable", .storyVariable),
    ("/api/debug/start", .shortcut .startDebug), ("/api/debug/step", .shortcut .debugStep),
    ("/api/sessions", .sessions)]

/-- The route of a path.  A line end after the path is passed over. -/
def ofPath? (path : String) : Option Route :=
  (all.find? fun r => path == r.1 || path == r.1 ++ "\n").map (·.2)

/-- The methods of a route. -/
def methods : Route → List String
  | .events | .health | .sessions => ["GET", "HEAD"]
  | .message | .shortcut _ | .storyVariable => ["POST"]

/-- The path without the slashes at its end, if it has some. -/
def withoutSlashes? (path : String) : Option String :=
  if path != "/" && path.endsWith "/" then
    some (String.ofList (Text.trimEndBy (· == '/') path.toList))
  else none

end Route

/-! ## Bodies -/

/-- What is said of a body that is no object. -/
def bodyComplaint (reason : String) : String := s!"Invalid JSON body: {reason}"

/-- The object in a body, or what is said of it.  An array or an object for which there is no
room is a fault. -/
def objectOf (room : Nat) (body : Octets) : Except Fault (Except String Fields) :=
  match Encoding.decode body with
  | .error d => .ok (.error (bodyComplaint d.message))
  | .ok s =>
    match Json.parseAll (.within room) s.toList with
    | .ok (.obj fields) => .ok (.ok fields)
    | .ok _ => .ok (.error (bodyComplaint "expected an object"))
    | .error (.syntaxAt complaint position) =>
      .ok (.error (bodyComplaint (Json.placed s.toList complaint position)))
    | .error (.number d) => .ok (.error d.message)
    | .error (.tooDeep kind) => .error (.tooDeep kind)

/-- An object that says what is wrong. -/
def complaint (reason : String) : Json := .obj [("error", .str reason)]

/-! ## Answers -/

namespace Service

variable {ε : Type} (p : Processor ε)

/-- The answer of a tool as a response. -/
def ofResult (r : ToolResult) : HttpResponse :=
  if r.isError then .plain 400 r.text else .json 200 r.text

/-- A call of a tool that is answered by a response. -/
def callTool (tool : Tool) (arguments : Json) : Act (Hub ε) HttpResponse := do
  return ofResult (← Hub.onServer (p.box.call tool.name arguments))

/-- The answer to a call whose arguments are a body. -/
def shortcut (toolFor : Fields → Tool) (body : Octets) : Act (Hub ε) HttpResponse := do
  match ← Act.ofExcept (objectOf p.room body) with
  | .ok fields => callTool p (toolFor fields) (.obj fields)
  | .error reason => Act.ofExcept (HttpResponse.value 400 (complaint reason))

/-- The answer to a message that was taken. -/
def accepted : HttpResponse := .plain 202 "Accepted"

/-- A response put into a channel, if there is one and the channel is still there. -/
def deliver (channel : String) (response : Option Json) : Act (Hub ε) HttpResponse := do
  if let some response := response then
    Hub.push channel (.message response)
  return accepted

/-- The channel that a query names. -/
def channelOf (query : String) : Option String :=
  (Query.value? query "sessionId").filter fun id => !id.isEmpty

/-- The answer to a message: the channel is looked up, the message is processed, and the
response is put into the channel or sent back. -/
def message (query : String) (body : Octets) : Act (Hub ε) HttpResponse := do
  match channelOf query with
  | some id =>
    if ((← get).openChannel? id).isNone then
      Act.ofExcept (HttpResponse.value 404 (complaint "Session not found or expired"))
    else deliver id (← Hub.onServer (p.octets body))
  | none =>
    match ← Hub.onServer (p.octets body) with
    | none => return accepted
    | some response => Act.ofExcept (HttpResponse.value 200 response)

def health : Json :=
  .obj [("status", .str "ok"), ("version", .str p.identity.version),
    ("tools", .int p.box.tools.length)]

def answer (r : HttpRequest) : Route → Act (Hub ε) HttpResponse
  | .events => do return .events (← Hub.openStream)
  | .message => message p r.query r.body
  | .health => Act.ofExcept (HttpResponse.value 200 (health p))
  | .shortcut tool => shortcut p (fun _ => tool) r.body
  | .storyVariable =>
    shortcut p (fun fields => if fields.has "value" then .setVariable else .getVariable) r.body
  | .sessions => callTool p .listSessions (.obj [])

/-- The address of a path on the host of a request, with its query. -/
def address (r : HttpRequest) (path : String) : String :=
  Address.quoted ("http://" ++ r.host ++ path ++ (if r.query.isEmpty then "" else "?" ++ r.query))

/-- The answer to a path that has no route: one without the slashes at its end may have
one. -/
def noRoute (r : HttpRequest) : HttpResponse :=
  match Route.withoutSlashes? r.path with
  | some path =>
    if (Route.ofPath? path).isSome then .redirect (address r path)
    else .plain 404 "Not Found"
  | none => .plain 404 "Not Found"

/-- The response to a request that is no preflight request. -/
def respond (r : HttpRequest) : Act (Hub ε) HttpResponse :=
  match Route.ofPath? r.path with
  | none => return noRoute r
  | some route =>
    if route.methods.contains r.method then answer p r route
    else
      return (HttpResponse.plain 405 "Method Not Allowed").withHeaders
        [("allow", ", ".intercalate route.methods)]

/-- The response to a request and the fault behind it, if there is one.  A request whose
fault is `Fault.endless` gets no response. -/
def serve (r : HttpRequest) (h : Hub ε) : (HttpResponse × Option Fault) × Hub ε :=
  match Origin.preflight? r with
  | some response => ((response, none), h)
  | none =>
    match (respond p r).on h with
    | (.ok response, h) => ((Origin.mark r response, none), h)
    | (.error f, h) => ((.plain 500 "Internal Server Error", some f), h)

end Service

end StoryServer
