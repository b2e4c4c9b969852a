import StoryServer.Chat.Author
import StoryServer.Debug.Record

/-!
# The state of a server

The story sessions, their debug records, and what the server takes from outside: new
ids, the time, and the chat endpoint.  All of it is one value, and every request is an
action on it.
-/

namespace StoryServer

/-! ## Ids and time -/

/-- Where new ids come from: first those listed, then the numbered ones. -/
structure IdSupply where
  listed : List String := []
  numbered : Nat → String
  /-- How many numbered ids were given out. -/
  given : Nat := 0

namespace IdSupply

def next (ids : IdSupply) : String × IdSupply :=
  match ids.listed with
  | id :: rest => (id, { ids with listed := rest })
  | [] => (ids.numbered ids.given, { ids with given := ids.given + 1 })

end IdSupply

/-- A clock in milliseconds. -/
structure Clock where
  /-- What it shows when it is read next. -/
  now : Nat
  /-- How far it moves with every reading. -/
  step : Nat := 0
  deriving DecidableEq, Repr

/-! ## Sessions -/

/-- A live story session. -/
structure Session where
  id : String
  story : StoryId
  /-- The source that it was started from. -/
  source : String := ""
  /-- The state that was saved last, or null. -/
  saved : Json := .null
  deriving DecidableEq, Repr

/-! ## Servers -/

/-- The state of a server with stories of one engine. -/
structure Server (ε : Type) where
  stage : Stage ε
  /-- The live sessions, oldest first; no two have the same id. -/
  sessions : List Session := []
  /-- The debug records; no two are of the same session. -/
  records : List Debug.Record := []
  ids : IdSupply
  clock : Clock
  author : Author.State

namespace Server

variable {ε α : Type}

/-- An action on the stories. -/
def onStage (act : Act (Stage ε) α) : Act (Server ε) α :=
  act.within Server.stage fun s stage => { s with stage }

/-- Writes a line to the log. -/
def note (line : String) : Act (Server ε) Unit := onStage (Stage.note line)

/-- The server with another log. -/
def logging (s : Server ε) (log : List String) : Server ε :=
  { s with stage := { s.stage with log } }

/-- The server with one more line in its log. -/
def noting (s : Server ε) (line : String) : Server ε := s.logging (line :: s.stage.log)

@[simp] theorem on_note (line : String) (s : Server ε) :
    (note line).on s = (.ok (), s.noting line) := rfl

/-- An action on the chat endpoint. -/
def onAuthor (act : Act Author.Work α) : Act (Server ε) α :=
  act.within (fun s => ⟨s.author, s.stage.log⟩) fun s w =>
    { s with author := w.engine, stage := { s.stage with log := w.log } }

def readClock : Act (Server ε) Nat := do
  let clock := (← get).clock
  modify fun s => { s with clock := { clock with now := clock.now + clock.step } }
  return clock.now

/-- A session that must be live. -/
def session (id : String) : Act (Server ε) Session := do
  match (← get).sessions.find? (·.id == id) with
  | some s => return s
  | none => throw (.noSession id)

/-- A debug record that must exist. -/
def record (id : String) : Act (Server ε) Debug.Record := do
  match (← get).records.find? (·.session == id) with
  | some r => return r
  | none => throw (.noDebugSession id)

end Server

end StoryServer
