import StoryServer.Act
import StoryServer.Story.Continuation

/-!
# Story engines

The server never interprets a story itself.  All it knows of stories goes through a
`StoryEngine`: it compiles sources, opens stories, and works on an open story through a
`StoryId`.  A story that has been closed is not opened again under its id.

The operations are actions on a `Stage`, the state of the engine together with the log,
so that one server is written for every engine.
-/

namespace StoryServer

/-- The engine's state and the log. -/
structure Stage (ε : Type) where
  engine : ε
  /-- The lines of the log, latest first. -/
  log : List String := []

/-- Writes a line to the log. -/
def Stage.note {ε : Type} (line : String) : Act (Stage ε) Unit :=
  modify fun s => { s with log := line :: s.log }

/-- An action on the state of the engine alone. -/
def Stage.inEngine {ε α : Type} (act : Act ε α) : Act (Stage ε) α :=
  act.within Stage.engine fun s e => { s with engine := e }

/-- The number of an open story. -/
abbrev StoryId := Nat

/-- What a server can do with stories. -/
structure StoryEngine (ε : Type) where
  /-- Whether texts can be marked for right-to-left display. -/
  hasBidi : Bool
  compile : String → Act (Stage ε) Compilation
  /-- Opens a story from its source. -/
  openSource : String → Act (Stage ε) StoryId
  openCompiled : String → Act (Stage ε) StoryId
  /-- Continues to the next choice or the end. -/
  continueStory : StoryId → Act (Stage ε) Continuation
  continueLine : StoryId → Act (Stage ε) Continuation
  /-- Whether there is a next line. -/
  canContinue : StoryId → Act (Stage ε) Bool
  choose : StoryId → Int → Act (Stage ε) Unit
  choices : StoryId → Act (Stage ε) (List Choice)
  getVariable : StoryId → String → Act (Stage ε) Json
  setVariable : StoryId → String → Json → Act (Stage ε) Unit
  /-- The state of the story, to be saved. -/
  saveState : StoryId → Act (Stage ε) Json
  loadState : StoryId → String → Act (Stage ε) Unit
  reset : StoryId → Act (Stage ε) Unit
  /-- Calls a function of the story. -/
  evaluate : StoryId → String → List Json → Act (Stage ε) Outcome
  /-- The tags at the top of the story. -/
  globalTags : StoryId → Act (Stage ε) (List Json)
  close : StoryId → Act (Stage ε) Unit
  /-- A text with marks for right-to-left display. -/
  bidify : String → Act (Stage ε) Json
  stripBidi : String → Act (Stage ε) Json
  /-- A compiled story whose texts have such marks. -/
  bidifyCompiled : String → Act (Stage ε) Json

end StoryServer
