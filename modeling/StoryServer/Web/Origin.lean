import StoryServer.Web.Message

/-!
# Requests from other origins

Pages of every origin may read the responses.  A browser asks before it sends certain
requests; such a preflight request is answered here and reaches no route.
-/

namespace StoryServer

namespace Origin

/-- The methods that pages of other origins may use. -/
def methods : List String := ["GET", "POST"]

/-- The name of the header that says which origins may read a response. -/
def allowHeader : String := "access-control-allow-origin"

/-- The origin that may read the response to a request: every one, or only that of a
request with cookies. -/
def readers (r : HttpRequest) (origin : String) : String :=
  if (r.header? "cookie").isSome then origin else "*"

/-- The answer to a preflight request for a method. -/
def preflight (r : HttpRequest) (method : String) : HttpResponse :=
  let failures :=
    (if methods.contains method then [] else ["method"])
      ++ (if (r.header? "access-control-request-private-network").isSome then ["private-network"]
        else [])
  let headers :=
    [(allowHeader, "*"), ("access-control-allow-methods", ", ".intercalate methods),
      ("access-control-max-age", "600")]
      ++ ((r.header? "access-control-request-headers").toList.map fun names =>
        ("access-control-allow-headers", names))
  let answer :=
    if failures.isEmpty then HttpResponse.plain 200 "OK"
    else HttpResponse.plain 400 ("Disallowed CORS " ++ ", ".intercalate failures)
  answer.withHeaders headers

/-- The answer to a request, if it is a preflight request. -/
def preflight? (r : HttpRequest) : Option HttpResponse :=
  match r.header? "origin", r.method, r.header? "access-control-request-method" with
  | some _, "OPTIONS", some method => some (preflight r method)
  | _, _, _ => none

/-- The response to a request, with the headers that a page of another origin needs. -/
def mark (r : HttpRequest) (response : HttpResponse) : HttpResponse :=
  match r.header? "origin" with
  | some origin => response.withHeaders [(allowHeader, readers r origin)]
  | none => response

end Origin

end StoryServer
