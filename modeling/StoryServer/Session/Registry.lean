import StoryServer.Server

/-!
# The table of sessions

Sessions are created with a given or a new id, and ended.  The story of a session is
opened before the session is put into the table, so every session in the table has an
open story; a session that leaves the table has its story closed.  Opening a story may
itself create sessions, also under the same id: the session that is put in last stays,
and the one it replaces is closed.
-/

namespace StoryServer

namespace Registry

variable {ε : Type} (engine : StoryEngine ε)

/-- How many characters of an id are kept. -/
def idLength : Nat := 8

/-- An id longer than all live ones. -/
def longId (live : List String) : String :=
  String.ofList (List.replicate (live.foldl (fun n id => max n id.length) 0 + 1) '0')

/-- The first of the next ids that is not live.  `n` bounds how many are tried; a supply
that gives none in time is passed over. -/
def freshId (live : List String) : Nat → IdSupply → String × IdSupply
  | 0, ids => (longId live, ids)
  | n + 1, ids =>
    let (id, ids) := ids.next
    let id := Text.first idLength id
    if live.contains id then freshId live n ids else (id, ids)

def newId : Act (Server ε) String := do
  let s ← get
  let tries := s.sessions.length + s.ids.listed.length + 1
  let (id, ids) := freshId (s.sessions.map (·.id)) tries s.ids
  set { s with ids }
  return id

/-- Takes a session out of the table. -/
def remove (id : String) : Act (Server ε) (Option Session) := do
  let s ← get
  set { s with sessions := s.sessions.filter fun t => t.id != id }
  return s.sessions.find? (·.id == id)

/-- Closes the story of a session. -/
def close (session : Session) : Act (Server ε) Unit := Server.onStage (engine.close session.story)

/-- Ends a session.  An id that is not live is passed over. -/
def endSession (id : String) : Act (Server ε) Bool := do
  match ← remove id with
  | none => return false
  | some session =>
    close engine session
    Server.note s!"[inky] session {id}: ended"
    return true

/-- An id that is given and not empty. -/
def givenId (id : Option String) : Option String := id.filter fun id => !id.isEmpty

/-- Ends the session with the id that is given, if one is given. -/
def makeRoom (id : Option String) : Act (Server ε) Unit := do
  if let some id := givenId id then
    let _ ← endSession engine id

/-- Puts a story into the table under an id.  A session that has the id is replaced. -/
def place (story : StoryId) (id source : String) : Act (Server ε) Unit := do
  let replaced ← remove id
  modify fun s => { s with sessions := s.sessions ++ [{ id, story, source }] }
  if let some session := replaced then close engine session

/-- The id of a new session: the one that is given, or a new one. -/
def chooseId (id : Option String) : Act (Server ε) String :=
  match givenId id with
  | some id => pure id
  | none => newId

/-- Puts a story into the table under the id that is given or a new one. -/
def install (story : StoryId) (id : Option String) (source : String) : Act (Server ε) String := do
  let id ← chooseId id
  place engine story id source
  Server.note s!"[inky] session {id}: created"
  return id

/-- Creates a session whose story an action opens.  A live session with the given id is
ended before. -/
def create (openStory : Act (Server ε) StoryId) (id : Option String) (source : String) :
    Act (Server ε) String := do
  makeRoom engine id
  let story ← openStory
  install engine story id source

/-- The ids of the live sessions. -/
def ids : Act (Server ε) (List String) := do return (← get).sessions.map (·.id)

/-- Closes sessions one after another. -/
def closeEach : List Session → Act (Server ε) Unit
  | [] => pure ()
  | session :: rest => do
    close engine session
    closeEach rest

def closeAll : Act (Server ε) Unit := do
  let sessions := (← get).sessions
  modify fun s => { s with sessions := [] }
  closeEach engine sessions

/-- Keeps a state with its session. -/
def keepState (id : String) (state : Json) : Act (Server ε) Unit :=
  modify fun s => { s with
    sessions := s.sessions.map fun t => if t.id == id then { t with saved := state } else t }

end Registry

end StoryServer
