import StoryServer.Fault

/-!
# The chat endpoint

What the server asks a chat endpoint and what it answers.  The endpoint is given by the
answers it will give, in order, and the one it gives when these have run out; what was
asked of it is kept.
-/

namespace StoryServer

/-- An answer of the chat endpoint. -/
inductive ChatAnswer where
  /-- The texts of a completion, null where there is none, and the numbers of tokens of
  the prompt and of the completion. -/
  | completion (texts : List (Option String)) (usage : Option (Int × Int))
  /-- A status other than success, with the header that says how long to wait. -/
  | status (code : Nat) (message : String) (retryAfter : Option String)
  | failed (message : String)
  deriving DecidableEq, Repr

/-- A message of a conversation. -/
structure ChatMessage where
  role : String
  content : String
  deriving DecidableEq, Repr

/-- What is asked of the endpoint. -/
inductive ChatEvent where
  /-- A connection with an address and a key. -/
  | connect (address : Option String) (key : Option String)
  | request (maxTokens : Json) (messages : List ChatMessage) (model : String)
  deriving DecidableEq, Repr

/-- The endpoint, and the time spent waiting for it. -/
structure ChatEndpoint (δ : Type := Binary64) where
  answers : List ChatAnswer := []
  /-- The answer when these have run out. -/
  otherwise : ChatAnswer
  events : List ChatEvent := []
  /-- The waits between requests in seconds, latest first. -/
  waits : List δ := []
  deriving DecidableEq, Repr

namespace ChatEndpoint

variable {δ : Type}

/-- Something asked of the endpoint. -/
def record (e : ChatEndpoint δ) (event : ChatEvent) : ChatEndpoint δ :=
  { e with events := event :: e.events }

def next (e : ChatEndpoint δ) : ChatAnswer × ChatEndpoint δ :=
  match e.answers with
  | [] => (e.otherwise, e)
  | a :: rest => (a, { e with answers := rest })

end ChatEndpoint

end StoryServer
