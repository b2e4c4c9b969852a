import StoryServer.Bridge.Process

/-!
# Stories in processes

The story engine over a bridge: every operation is one command, and a story is the number
of its process.  Compiling and marking texts use a process of their own that is ended
before the answer is given; a process whose story could not be opened is ended too.
-/

namespace StoryServer

namespace Bridge

/-- A command with its members. -/
def command (op : String) (members : Fields) : Json := .obj (("op", .str op) :: members)

/-- A member that an answer must have. -/
def required (fields : Fields) (key : String) : Except Fault Json := Json.item (.obj fields) key

section

variable {σ : Type} (peer : Peer σ) (settings : Settings)

/-- Sends a command to the process of a story. -/
def ask (id : StoryId) (op : String) (members : Fields) : Act (Stage (World σ)) Fields :=
  World.send peer id settings.timeout (command op members)

/-- Sends a command to a new process, which is ended at once. -/
def askOnce (op : String) (members : Fields) : Act (Stage (World σ)) Fields := do
  let id ← World.start settings
  Act.andFinally (ask peer settings id op members) (World.terminate id)

/-- Opens a story in a new process. -/
def openStory (op : String) (members : Fields) : Act (Stage (World σ)) StoryId := do
  let id ← World.start settings
  let _ ← Act.orElseDo (ask peer settings id op members) (World.terminate id)
  return id

/-- A text marked by a new process; the text itself when there is no module for it. -/
def marked (op key text : String) : Act (Stage (World σ)) Json := do
  if World.given settings.bidify then
    let fields ← askOnce peer settings op [(key, .str text)]
    Act.ofExcept (required fields "value")
  else return .str text

/-- The story engine over a bridge. -/
def engine : StoryEngine (World σ) where
  hasBidi := World.given settings.bidify
  compile := fun source => do
    let fields ← askOnce peer settings "compile" [("source", .str source)]
    Act.ofExcept (Compilation.ofJson (.obj fields))
  openSource := fun source => openStory peer settings "load-source" [("source", .str source)]
  openCompiled := fun text => openStory peer settings "load-json" [("json", .str text)]
  continueStory := fun id => do
    Act.ofExcept (Continuation.ofJson (.obj (← ask peer settings id "continue" [])))
  continueLine := fun id => do
    Act.ofExcept (Continuation.ofJson (.obj (← ask peer settings id "continue-line" [])))
  canContinue := fun id => do
    let v ← Act.ofExcept (required (← ask peer settings id "can-continue" []) "value")
    return v.truthy
  choose := fun id index => do
    let _ ← ask peer settings id "choose" [("index", .int index)]
  choices := fun id => do
    let fields ← ask peer settings id "choices" []
    let items ← Act.ofExcept ((fields.get? "choices").getD (.arr [])).parts
    Act.ofExcept (items.mapM Choice.ofJson)
  getVariable := fun id name => do
    let fields ← ask peer settings id "get-var" [("name", .str name)]
    return (fields.get? "value").getD .null
  setVariable := fun id name value => do
    let _ ← ask peer settings id "set-var" [("name", .str name), ("value", value)]
  saveState := fun id => do
    Act.ofExcept (required (← ask peer settings id "save-state" []) "state")
  loadState := fun id text => do
    let _ ← ask peer settings id "load-state" [("state", .str text)]
  reset := fun id => do
    let _ ← ask peer settings id "reset" []
  evaluate := fun id name arguments => do
    let fields ← ask peer settings id "eval-fn" [("name", .str name), ("args", .arr arguments)]
    return .value ((fields.get? "value").getD .null)
  globalTags := fun id => do
    let fields ← ask peer settings id "global-tags" []
    Act.ofExcept ((fields.get? "tags").getD (.arr [])).parts
  close := World.terminate
  bidify := marked peer settings "bidify" "text"
  stripBidi := marked peer settings "strip-bidi" "text"
  bidifyCompiled := marked peer settings "bidify-json" "json"

end

end Bridge

end StoryServer
