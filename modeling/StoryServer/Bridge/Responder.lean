import StoryServer.Bridge.Interpreter
import StoryServer.Bridge.Process
import StoryServer.Json.Flaw

/-!
# The answering side of a bridge

A story process takes commands, one a line, and answers each with one line.  It holds at
most one story.  A command is an object with the member `op`; what else it needs stands
in other members.  `Responder.answer` answers a line: a blank line is passed over, and
what is no command is answered with an error.  The null value ends the process, and so
does an operation that cannot be spelled out, or whose arrays are nested too deep for it.
A command that never ends is never answered, and no line after it is.

Operations are looked up by their spelling among the members of an object, so some words
that name no operation find a member which every object has; `Inherited` says what these
do.
-/

namespace StoryServer

namespace Bridge

/-! ## Commands -/

/-- The operations of a story process. -/
inductive Command where
  | compile
  /-- Opens a story from its source. -/
  | loadSource
  | loadJson
  /-- Continues to the next choice or the end. -/
  | continueAll
  | continueLine
  /-- Whether there is a next line. -/
  | canContinue
  | choices
  | choose
  | getVariable
  | setVariable
  /-- The state of the story, to be saved. -/
  | saveState
  | loadState
  | reset
  /-- Calls a function of the story. -/
  | call
  /-- The tags at the top of the story. -/
  | globalTags
  /-- A text with marks for right-to-left display. -/
  | bidify
  | stripBidi
  /-- A compiled story with such marks. -/
  | bidifyJson
  deriving DecidableEq, Repr

namespace Command

/-- All operations and their names. -/
def named : List (String × Command) :=
  [("compile", .compile), ("load-source", .loadSource), ("load-json", .loadJson),
    ("continue", .continueAll), ("continue-line", .continueLine),
    ("can-continue", .canContinue), ("choices", .choices), ("choose", .choose),
    ("get-var", .getVariable), ("set-var", .setVariable), ("save-state", .saveState),
    ("load-state", .loadState), ("reset", .reset), ("eval-fn", .call),
    ("global-tags", .globalTags), ("bidify", .bidify), ("strip-bidi", .stripBidi),
    ("bidify-json", .bidifyJson)]

/-- The operation with a name. -/
def ofName? (name : String) : Option Command := named.lookup name

end Command

/-! ## Words that every object knows -/

/-- A value of a command as an answer. -/
def echo (room : Nat) (v : Json) : Except Thrown Json :=
  if v.levels ≤ room then .ok v else .error .tooDeep

namespace Inherited

/-- What is said of an operation on nothing. -/
def onNothing : Thrown := .error "Cannot convert undefined or null to object"

/-- The members of every object that are operations on it, and fail without one. -/
def operations : List String :=
  ["valueOf", "hasOwnProperty", "isPrototypeOf", "propertyIsEnumerable", "__defineGetter__",
    "__defineSetter__", "__lookupGetter__", "__lookupSetter__"]

/-- What a word that every object knows answers to a command, when there is room for so many
levels in an answer. -/
def answer? (room : Nat) (word : String) (command : Json) : Option (Except Thrown Json) :=
  if word == "constructor" then some (echo room command)
  else if word == "toString" then some (.ok (.str "[object Undefined]"))
  else if word == "toLocaleString" then
    some (.error (.error "Object.prototype.toLocaleString called on null or undefined"))
  else if word == "__proto__" then some (.error (.error "handler is not a function"))
  else if operations.contains word then some (.error onNothing)
  else none

end Inherited

/-! ## Compiling -/

/-- Why a source gives no story. -/
structure Rejection where
  thrown : Thrown
  /-- The errors, when the compiler came to list them. -/
  errors : Option Json := none
  /-- The warnings, when the compiler came to list them. -/
  warnings : Option Json := none
  deriving DecidableEq, Repr

namespace Compiling

variable {σ : Type}

/-- Whether the errors have a length that counts. -/
def hasErrors (errors : Json) : Bool :=
  match errors with
  | .arr items => !items.isEmpty
  | .str s => !s.isEmpty
  | .obj fields => ((Fields.get? fields "length").filter Json.counts).isSome
  | _ => false

/-- The errors as one message. -/
def joined (errors : Json) : Except Thrown String :=
  match errors with
  | .arr items =>
    match Json.spelledItems? items with
    | some texts => .ok ("\n".intercalate texts)
    | none => .error .noSpelling
  | .str _ => .error (.error "messages.join is not a function")
  | _ => .error (.error "errors.slice is not a function")

/-- The only error of a compiler that lists none and gives no story. -/
def onlyError (result : Except Thrown (Option σ)) : Except Thrown String :=
  match result with
  | .error t => if t.isSomething then t.text else .ok "Compilation failed"
  | .ok _ => .ok "Compilation failed"

/-- The errors that a source is rejected with: those listed, or the only one there is. -/
def complaints (c : Compiling σ) : Except Thrown Json :=
  let listed := Json.orEmpty c.errors
  if hasErrors listed then .ok listed
  else do return .arr [.str (← onlyError c.result)]

/-- The rejection of a source. -/
def rejection (c : Compiling σ) : Rejection :=
  match c.complaints with
  | .error t => { thrown := t }
  | .ok errors =>
    match joined errors with
    | .ok message =>
      { thrown := .error message, errors := some errors
        warnings := some (Json.orEmpty c.warnings) }
    | .error t => { thrown := t }

/-- The story of a compiler that lists no errors. -/
def story? (c : Compiling σ) : Option σ :=
  if hasErrors (Json.orEmpty c.errors) then none
  else
    match c.result with
    | .ok story => story
    | .error _ => none

end Compiling

/-! ## Answering -/

/-- What a story process runs on. -/
structure Responder (σ : Type) where
  interpreter : Interpreter σ
  /-- The module that marks texts, if there is one. -/
  marks : Option Marks := none
  /-- For how many levels there is room when what a command brings is spelled or written. -/
  room : Nat := 4000

namespace Responder

variable {σ : Type} (r : Responder σ)

/-- An answer with a status and what else is present. -/
def ok (members : List (String × Option Json)) : Json :=
  Json.present (("status", some (.str "ok")) :: members)

/-- An answer that says what is wrong. -/
def refusal (message : Json) : Json := .obj [("status", .str "error"), ("message", message)]

/-- A step on the story that is held. -/
def onStory {α : Type} (act : Telling σ α) : Telling (Option σ) α :=
  fun held =>
    match held with
    | none => (.error (.error "No story loaded"), none)
    | some story =>
      let (a, story) := act story
      (a, some story)

/-- What something thrown or given comes to. -/
def ofExcept {τ α : Type} : Except Thrown α → Telling τ α
  | .ok a => pure a
  | .error t => throw t

/-- The source that a command brings: an empty text when there is none. -/
def sourceOf (command : Fields) : Json :=
  ((command.get? "source").filter Json.counts).getD (.str "")

/-- The story of a source and the warnings, or why there is none. -/
def compileSource (source : Json) : Except Rejection (σ × Json) :=
  match r.interpreter.compile source with
  | .error t => .error { thrown := t }
  | .ok c =>
    match c.story?, c.result with
    | some story, _ => .ok (story, Json.orEmpty c.warnings)
    | none, .error .endless => .error { thrown := .endless }
    | none, _ => .error c.rejection

/-- The answer for a source that gives no story, unless it never comes. -/
def rejected (f : Rejection) : Except Thrown Json := do
  if f.thrown = .endless then throw .endless
  let errors ← match f.errors with
    | some errors => .ok errors
    | none => do pure (Json.arr [.str (← f.thrown.text)])
  return ok [("success", some (.bool false)), ("errors", some errors),
    ("warnings", some (f.warnings.getD (.arr [])))]

/-- The answer to a source that is to be compiled. -/
def compile (source : Json) : Except Thrown Json :=
  match r.compileSource source with
  | .error f => rejected f
  | .ok (story, warnings) =>
    match r.interpreter.compiled story with
    | .error t => rejected { thrown := t }
    | .ok text =>
      .ok (ok [("success", some (.bool true)), ("json", some (.str text)),
        ("errors", some (.arr [])), ("warnings", some warnings)])

/-- A choice in an answer. -/
def offerJson (o : Offer) : Json :=
  Json.present [("index", o.index), ("text", o.text), ("tags", some (Json.orEmpty o.tags))]

/-- The choices in an answer. -/
def choicesJson (story : σ) : Json :=
  .arr (((r.interpreter.choices story).getD []).map offerJson)

/-- The answer to a continuation. -/
def continued (text : Option Json) (tags : Json) : Telling σ Json := do
  let story ← get
  return ok [("text", text), ("can_continue", some (.bool (r.interpreter.canContinue story))),
    ("choices", some (r.choicesJson story)), ("tags", some tags)]

/-- A value by its kind, and as it is spelled unless it is an object. -/
def kindAndSpelling (v : Json) : String :=
  let spelling := (Json.spelled? v).getD ""
  match v with
  | .bool _ => s!"boolean {spelling}"
  | .int _ | .float _ => s!"number {spelling}"
  | _ => "object"

/-- What is said of tags that cannot be taken one by one. -/
def notIterable (v : Json) : String :=
  kindAndSpelling v ++ " is not iterable (cannot read property Symbol(Symbol.iterator))"

/-- Tags one by one: the items of an array, or the characters of a text. -/
def tagList (tags : Json) : Except Thrown (List Json) :=
  match tags with
  | .arr items => .ok items
  | .str s => .ok (s.toList.map fun c => .str (String.singleton c))
  | v => .error (.error (notIterable v))

def tagCopy (tags : Json) : Except Thrown Json :=
  match tags with
  | .arr _ | .str _ => .ok tags
  | _ => .error (.error "(s.currentTags || []).slice is not a function")

/-- Tells lines until there is none and adds their texts and tags to those before.  After `n` lines
there is none, or this never ends. -/
def tellAll : Nat → String → List Json → Telling σ (String × List Json)
  | 0, text, tags => do
    if r.interpreter.canContinue (← get) then throw .endless
    return (text, tags)
  | n + 1, text, tags => do
    if !r.interpreter.canContinue (← get) then return (text, tags)
    let line ← ofExcept (spell (← r.interpreter.tell))
    let more ← ofExcept (tagList (Json.orEmpty (r.interpreter.tags (← get))))
    tellAll n (text ++ line) (tags ++ more)

/-- Tells all lines up to the next choice or the end. -/
def continueAll : Telling σ Json := do
  let (text, tags) ← r.tellAll (r.interpreter.linesLeft (← get)) "" []
  r.continued (some (.str text)) (.arr tags)

/-- Tells the next line, if there is one. -/
def continueLine : Telling σ Json := do
  if r.interpreter.canContinue (← get) then
    let text ← r.interpreter.tell
    let tags ← ofExcept (tagCopy (Json.orEmpty (r.interpreter.tags (← get))))
    r.continued text tags
  else r.continued (some (.str "")) (.arr [])

/-- A value in an answer: null, a truth value, a number or a text, and any other value
spelled out. -/
def plain (v : Option Json) : Except Thrown Json :=
  match v with
  | none => .ok .null
  | some (.arr items) => Json.str <$> spell (some (.arr items))
  | some (.obj fields) => Json.str <$> spell (some (.obj fields))
  | some v => .ok v

/-- The answer to a text that a module marks.  Without a module it is the answer. -/
def marked (v : Option Json) (mark : Marks → Option Json → Except Thrown (Option Json)) :
    Except Thrown Json :=
  match r.marks with
  | none => echo r.room (ok [("value", v)])
  | some m => do return ok [("value", ← mark m v)]

def perform (fields : Fields) : Command → Telling (Option σ) Json
  | .compile => ofExcept (r.compile (sourceOf fields))
  | .loadSource => do
    match r.compileSource (sourceOf fields) with
    | .ok (story, _) =>
      set (some story)
      return ok []
    | .error f => throw f.thrown
  | .loadJson => do
    let story ← ofExcept (r.interpreter.load (fields.get? "json"))
    set (some story)
    return ok []
  | .continueAll => onStory r.continueAll
  | .continueLine => onStory r.continueLine
  | .canContinue => onStory do
    return ok [("value", some (.bool (r.interpreter.canContinue (← get))))]
  | .choices => onStory do return ok [("choices", some (r.choicesJson (← get)))]
  | .choose => onStory do
    r.interpreter.choose (fields.get? "index")
    return ok []
  | .getVariable => onStory do
    let v ← r.interpreter.getVariable (fields.get? "name")
    return ok [("value", some (← ofExcept (plain v)))]
  | .setVariable => onStory do
    r.interpreter.setVariable (fields.get? "name") (fields.get? "value")
    return ok []
  | .saveState => onStory do return ok [("state", some (.str (← r.interpreter.save)))]
  | .loadState => onStory do
    r.interpreter.restore (fields.get? "state")
    return ok []
  | .reset => onStory do
    r.interpreter.reset
    return ok []
  | .call => onStory do
    let v ← r.interpreter.call (fields.get? "name") (Json.orEmpty (fields.get? "args"))
    return ok [("value", some (← ofExcept (plain v)))]
  | .globalTags => onStory do
    return ok [("tags", some (Json.orEmpty (r.interpreter.globalTags (← get))))]
  | .bidify => ofExcept (r.marked (fields.get? "text") Marks.mark)
  | .stripBidi => ofExcept (r.marked (fields.get? "text") Marks.unmark)
  | .bidifyJson => ofExcept (r.marked (fields.get? "json") Marks.markCompiled)

/-! ## Lines -/

/-- What comes of a line. -/
inductive Response where
  | nothing
  | line (text : String)
  /-- The process ends with an error. -/
  | crash
  /-- The process never comes to an answer. -/
  | unending
  deriving DecidableEq, Repr

/-- An answer written as a line. -/
def written (v : Json) : Response := .line (Json.text Json.terse v)

/-- The answer to a command that throws.  Something thrown of which nothing can be said ends the
process. -/
def refused (t : Thrown) : Response :=
  match t.said with
  | .ok message => written (refusal message)
  | .error .endless => .unending
  | .error _ => .crash

/-- What is said of a line that is no JSON. -/
def invalidLine (reason : String) : String := "Invalid JSON: " ++ reason

/-- The members of a command, if it is an object. -/
def membersOf : Json → Fields
  | .obj fields => fields
  | _ => []

/-- What an operation answers to a command. -/
def perform? (word : String) (command : Json) : Option (Telling (Option σ) Json) :=
  match Command.ofName? word with
  | some c => some (r.perform (membersOf command) c)
  | none => (Inherited.answer? r.room word command).map ofExcept

/-- The word that the operation of a command is looked up by.  The null value has no members, and
some values that stand in the place of a word cannot be spelled. -/
def wordOf? (command : Json) : Option String :=
  let op := command.get? "op"
  if command = .null || r.room < (op.map Json.arrayLevels).getD 0 then none
  else Json.spelledOrAbsent? op

/-- The answer to a command. -/
def respond (command : Json) : StateM (Option σ) Response := do
  match r.wordOf? command with
  | none => return .crash
  | some word =>
    match r.perform? word command with
    | none => return written (refusal (.str ("Unknown op: " ++ word)))
    | some act =>
      match ← act.run with
      | .ok v => return written v
      | .error t => return refused t

/-- Whether a story process passes a character over at the ends of a line. -/
def isPassedOver (c : Char) : Bool :=
  c == '\uFEFF' || (isBlank c && !(0x1C ≤ c.toNat && c.toNat ≤ 0x1F) && c.toNat != 0x85)

/-- The answer to a line. -/
def answer (line : String) : StateM (Option σ) Response := do
  let text := String.ofList (Text.trimBy isPassedOver line.toList)
  if text.isEmpty then return .nothing
  match Json.parseStrict text with
  | .error reason => return written (refusal (.str (invalidLine reason)))
  | .ok command => r.respond command.settled

/-- The lines of an input, which end at line feeds and carriage returns. -/
def inputLines (input acc : List Char) : List String := Text.streamLines input acc

/-- How a process is after some lines. -/
inductive Ending where
  /-- It waits for the next one. -/
  | waiting
  | crashed
  /-- It never comes to an answer. -/
  | unending
  deriving DecidableEq, Repr

/-- The lines that answer lines, and how the process is after them. -/
def converse : List String → StateM (Option σ) (List String × Ending)
  | [] => return ([], .waiting)
  | line :: rest => do
    match ← r.answer line with
    | .crash => return ([], .crashed)
    | .unending => return ([], .unending)
    | .nothing => converse rest
    | .line text => do
      let (texts, ending) ← converse rest
      return (text :: texts, ending)

/-- The lines that answer lines, and whether the process ended with an error. -/
def serve (lines : List String) : StateM (Option σ) (List String × Bool) := do
  let (texts, ending) ← r.converse lines
  return (texts, ending == .crashed)

/-! ## Many processes -/

/-- The stories that processes hold, by the number of the process. -/
abbrev Holdings (σ : Type) := List (Nat × Option σ)

/-- Story processes as the other side of a bridge. -/
def peer : Peer (Holdings σ) where
  react := fun id line holdings =>
    let held := (holdings.lookup id).getD none
    let (response, held) := (r.answer line).run held
    let holdings := (id, held) :: holdings.filter fun p => p.1 != id
    match response with
    | .nothing | .unending => ({}, holdings)
    | .line text => ({ lines := [text] }, holdings)
    | .crash => ({ exits := true }, holdings)

end Responder

end Bridge

end StoryServer
