import StoryServer.Ink.Story
import StoryServer.Story.Engine

/-!
# Stories told in process

The shelf keeps every story that was opened, in order; the number of a story is its
place on the shelf.  `Ink.engine` is the story engine on a shelf.
-/

namespace StoryServer

namespace Ink

/-- The stories opened so far. -/
structure Shelf where
  opened : List Story := []
  deriving DecidableEq, Repr

namespace Shelf

/-- An action on an open story. -/
def withStory {α : Type} (id : StoryId) (act : Act Story α) : Act Shelf α := do
  match (← get).opened[id]? with
  | none => throw .closedStory
  | some story =>
    let (r, story) := act.on story
    modify fun s => { s with opened := s.opened.set id story }
    Act.ofExcept r

/-- Opens a story from its source. -/
def openSource (source : String) : Act Shelf StoryId := do
  let p ← Act.ofExcept (Program.parse source)
  if !p.errors.isEmpty then throw (.story (.source p.errors))
  let s ← get
  set { s with opened := s.opened ++ [Story.start p] }
  return s.opened.length

/-- Opens the story whose source a compiled text holds. -/
def openCompiled (text : String) : Act Shelf StoryId := do
  match ← Act.ofExcept ((readJson text).bind (·.item "source")) with
  | .str source => openSource source
  | v => throw (.misuse (.noAttribute v.kind "splitlines"))

/-- Compiles a source.  The compiled text holds the source. -/
def compile (source : String) : Except Fault Compilation := do
  let p ← Program.parse source
  if p.errors.isEmpty then
    let json ← writeJson .ascii (.obj [("inkVersion", .int 21), ("source", .str source)])
    return { success := true, json := .str json }
  else return { success := false, errors := p.errors.map fun e => .str e.message }

end Shelf

/-! ## Marks for right-to-left display -/

/-- The mark before a text whose direction is found from its first letter. -/
def isolateMark : Char := '\u2068'

/-- The mark after such a text. -/
def popMark : Char := '\u2069'

def bidify (text : String) : String :=
  String.ofList (isolateMark :: (text.toList ++ [popMark]))

def stripBidi (text : String) : String :=
  Text.without (fun c => c == isolateMark || c == popMark) text

/-- A compiled text marked as a whole. -/
def bidifyCompiled (text : String) : Except Fault String := do
  match ← readJson text with
  | .obj fields => writeJson .ascii (.obj (Fields.put fields "bidi" (.bool true)))
  | .arr _ => .error (.misuse (.arrayIndex .str))
  | v => .error (.misuse (.noAssignment v.kind))

/-! ## The engine -/

/-- What an engine is made with. -/
structure Setup where
  /-- Whether texts can be marked for right-to-left display. -/
  hasBidi : Bool
  functions : Functions := .sample

instance : Coe Bool Setup where
  coe hasBidi := { hasBidi }

/-- The engine on a shelf. -/
def engine (setup : Setup) : StoryEngine Shelf :=
  let inStory {α : Type} (id : StoryId) (act : Act Story α) : Act (Stage Shelf) α :=
    Stage.inEngine (Shelf.withStory id act)
  { hasBidi := setup.hasBidi
    compile := fun source => Act.ofExcept (Shelf.compile source)
    openSource := fun source => Stage.inEngine (Shelf.openSource source)
    openCompiled := fun text => Stage.inEngine (Shelf.openCompiled text)
    continueStory := fun id => inStory id Story.continueStory
    continueLine := fun id => inStory id Story.continueLine
    canContinue := fun id => inStory id Story.canContinue
    choose := fun id index => inStory id (Story.choose index)
    choices := fun id => inStory id do
      Story.requireOpen
      Act.ofExcept (← get).choices
    getVariable := fun id name => inStory id (Story.getVariable name)
    setVariable := fun id name v => inStory id (Story.setVariable name v)
    saveState := fun id => inStory id (Json.str <$> Story.saveState)
    loadState := fun id text => inStory id (Story.loadState text)
    reset := fun id => inStory id Story.reset
    evaluate := fun id name arguments => inStory id do
      Story.requireOpen
      Act.ofExcept (setup.functions.call name arguments)
    globalTags := fun id => inStory id do
      Story.requireOpen
      return (← get).program.globalTags.map .str
    close := fun id => inStory id (modify fun s => { s with closings := s.closings + 1 })
    bidify := fun text => return .str (bidify text)
    stripBidi := fun text => return .str (stripBidi text)
    bidifyCompiled := fun text => Act.ofExcept (Json.str <$> bidifyCompiled text) }

end Ink

end StoryServer
