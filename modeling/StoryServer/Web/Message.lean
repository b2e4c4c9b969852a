import StoryServer.Text.Encoding
import StoryServer.Fault

/-!
# Requests and responses

What a client sends over HTTP and what it gets back.  Names of headers are the same
whatever their case, and of repeated headers the first counts.
-/

namespace StoryServer

/-- A request. -/
structure HttpRequest where
  method : String
  /-- The host that the client addresses. -/
  host : String
  path : String
  /-- The query, as it was sent. -/
  query : String := ""
  headers : List (String × String) := []
  body : Octets := []

/-- The value of a header. -/
def HttpRequest.header? (r : HttpRequest) (name : String) : Option String :=
  (r.headers.find? fun h => h.1.map Char.toLower == name).map (·.2)

/-- The body of a response. -/
inductive HttpBody where
  | text (s : String)
  /-- The events of a channel, for as long as the client reads them. -/
  | stream (channel : String)
  deriving DecidableEq, Repr

/-- A response. -/
structure HttpResponse where
  status : Nat
  /-- The headers, with names in lower case. -/
  headers : List (String × String)
  body : HttpBody
  deriving DecidableEq, Repr

namespace HttpResponse

/-- A response with a body of some kind. -/
def ofKind (status : Nat) (kind body : String) : HttpResponse :=
  { status, headers := [("content-type", kind)], body := .text body }

/-- A response with a text for people. -/
def plain (status : Nat) (body : String) : HttpResponse :=
  ofKind status "text/plain; charset=utf-8" body

/-- A response with a JSON text. -/
def json (status : Nat) (body : String) : HttpResponse := ofKind status "application/json" body

/-- A response with a value.  A double that is not finite cannot be sent. -/
def value (status : Nat) (v : Json) : Except Fault HttpResponse := do
  return json status (← writeJson .compact v)

/-- A response that sends the client to another address. -/
def redirect (address : String) : HttpResponse :=
  { status := 307, headers := [("location", address)], body := .text "" }

/-- A response with the events of a channel. -/
def events (channel : String) : HttpResponse :=
  { status := 200
    headers := [("content-type", "text/event-stream; charset=utf-8"), ("cache-control", "no-store")]
    body := .stream channel }

/-- A response with more headers. -/
def withHeaders (r : HttpResponse) (headers : List (String × String)) : HttpResponse :=
  { r with headers := r.headers ++ headers }

end HttpResponse

end StoryServer
