import StoryServer.Bridge.Interpreter
import StoryServer.Json.Flaw

/-!
# Playbooks

A playbook is a story given as one JSON object, for rehearsing a bridge without a story
language.  Its `blocks` have lines, which are told in order, and choices, which are on
offer when all lines of a block are told and lead to other blocks.  A line may set
variables, and it may throw in the place of being told.  The first block is `start`; a
block that does not exist is empty.

The source of a playbook may also say what its compiler does: list `errors` and
`warnings`, and throw, or give nothing.
-/

namespace StoryServer

open Bridge

/-- A playbook and how far it has been told. -/
structure Playbook where
  script : Json
  block : Option Json := some (.str "start")
  /-- The number of lines of the block that were told. -/
  position : Option Json := some (.float (Binary64.zero false))
  /-- The variables, in order of their first appearance. -/
  bindings : List (String × Option Json) := []
  /-- The tags of the line told last. -/
  tags : Option Json := none
  deriving DecidableEq, Repr

namespace Playbook

/-! ## Looking up -/

/-- A member of a value that may be absent; a value that counts as nothing has none. -/
def look (v : Option Json) (key : String) : Option Json := v.bind (·.get? key)

/-- A part of a value under a key that may be any value: an item of an array by its
index, or a member. -/
def part (v : Option Json) (key : Option Json) : Option Json :=
  match v, Json.spelledOrAbsent? key with
  | some (.arr items), some word => (Json.indexKey? word).bind (items[·]?)
  | some v, some word => v.get? word
  | _, _ => none

/-- The items of an array. -/
def itemsOf : Option Json → List Json
  | some (.arr items) => items
  | _ => []

/-- The members of an object. -/
def membersOf : Option Json → Fields
  | some (.obj fields) => fields
  | _ => []

/-- The block that is being told. -/
def current (p : Playbook) : Option Json := part (look (some p.script) "blocks") p.block

/-- The lines of the block. -/
def lines (p : Playbook) : List Json := itemsOf (look p.current "lines")

/-- The position as a double, if it counts as a number. -/
def place (p : Playbook) : Option Binary64 :=
  match p.position with
  | some (.float x) => some x
  | some .null => some (Binary64.zero false)
  | _ => none

/-- Whether there is a next line. -/
def canContinue (p : Playbook) : Bool :=
  match p.place with
  | some x => x.blt (Binary64.ofInt p.lines.length)
  | none => false

/-- How many lines of the block were told. -/
def told (p : Playbook) : Nat :=
  match p.place.bind Binary64.truncate? with
  | some n => n.toNat
  | none => 0

/-- How many lines are left to be told. -/
def linesLeft (p : Playbook) : Nat := p.lines.length - p.told

def nextLine (p : Playbook) : Option Json := part (some (.arr p.lines)) p.position

/-! ## Variables -/

/-- A variable set where it stands, or a new one at the end. -/
def put : List (String × Option Json) → String → Option Json → List (String × Option Json)
  | [], name, v => [(name, v)]
  | (k, w) :: rest, name, v => if k == name then (k, v) :: rest else (k, w) :: put rest name v

def putAll (bindings : List (String × Option Json)) (fields : Fields) :
    List (String × Option Json) :=
  fields.foldl (fun vs p => put vs p.1 (some p.2)) bindings

/-- The members that every object has. -/
def inherited : List String := ["constructor", "toString"] ++
  ["valueOf", "hasOwnProperty", "isPrototypeOf", "propertyIsEnumerable", "toLocaleString",
    "__defineGetter__", "__defineSetter__", "__lookupGetter__", "__lookupSetter__"]

/-- The text of a member that every object has. -/
def inheritedText (name : String) : Option Json :=
  if name == "__proto__" then some (.str "[object Object]")
  else if inherited.contains name then
    let shown := if name == "constructor" then "Object" else name
    some (.str ("function " ++ shown ++ "() \x7b [native code] \x7d"))
  else none

/-- The value of a variable. -/
def valueOf (bindings : List (String × Option Json)) (name : String) : Option Json :=
  match bindings.lookup name with
  | some v => v
  | none => inheritedText name

/-! ## Opening and compiling -/

/-- The value of a text that should be JSON, as a story process has it. -/
def readSettled (text : Option Json) : Except Thrown Json := do
  match Json.parseStrict (← spell text) with
  | .ok v => return v.settled
  | .error reason => throw (.error reason)

/-- The value of such a text, if it is one. -/
def readSettled? (text : Option Json) : Option Json :=
  match readSettled text with
  | .ok v => some v
  | .error _ => none

/-- A playbook at its beginning. -/
def opening (script : Json) : Playbook :=
  { script, bindings := putAll [] (membersOf (look (some script) "vars")) }

/-- A playbook that has blocks. -/
def ofScript (script : Json) : Except Thrown Playbook :=
  if ((look (some script) "blocks").filter Json.counts).isSome then .ok (opening script)
  else .error (.error "stub: no blocks")

def load (text : Option Json) : Except Thrown Playbook :=
  match readSettled? text with
  | some script => ofScript script
  | none => .error (.error "stub: bad json")

/-- An error with the spelling of a value as its message. -/
def errorOf (v : Json) : Thrown :=
  match Json.spelled? v with
  | some message => .error message
  | none => .noSpelling

/-- What a script throws, if it says so. -/
def thrownBy (script : Option Json) : Option Thrown :=
  match look script "throw", look script "throwText" with
  | some v, _ => some (errorOf v)
  | none, some v => some (.value (some v))
  | none, none => none

/-- What the compiler of a script gives. -/
def compileScript (script : Json) : Except Thrown (Option Playbook) :=
  match thrownBy (some script) with
  | some t => .error t
  | none =>
    if ((look (some script) "nothing").filter Json.counts).isSome then .ok none
    else some <$> ofScript script

def compile (source : Json) : Except Thrown (Compiling Playbook) :=
  match readSettled? (some source) with
  | none => .error (.error "stub: bad source")
  | some .null => .error (.error "Cannot read properties of null (reading 'errors')")
  | some script =>
    .ok { errors := look (some script) "errors", warnings := look (some script) "warnings"
          result := compileScript script }

/-- A playbook in compiled form. -/
def compiled (p : Playbook) : String := Json.text Json.terse p.script

/-! ## Telling -/

/-- The position after one more line. -/
def advanced (p : Playbook) : Option Json := p.place.map fun x => .float (x.add (Binary64.ofInt 1))

def tell : Telling Playbook (Option Json) := do
  let p ← get
  match p.nextLine with
  | none => throw (.error "Cannot read properties of undefined (reading 'throw')")
  | some line =>
    if let some v := line.get? "throw" then throw (errorOf v)
    set { p with
      position := p.advanced
      bindings := putAll p.bindings (membersOf (line.get? "set"))
      tags := line.get? "tags" }
    return line.get? "text"

def choices (p : Playbook) : Option (List Offer) :=
  if p.canContinue then some []
  else
    match look p.current "choices" with
    | some (.arr items) =>
      some (items.mapIdx fun i c =>
        ⟨some (.float (Binary64.ofInt i)), c.get? "text", c.get? "tags"⟩)
    | _ => none

/-- What is said of a choice that is not on offer. -/
def noSuchChoice : Thrown := .error "choice out of range"

def choose (index : Option Json) : Telling Playbook Unit := do
  let p ← get
  if p.canContinue then throw noSuchChoice
  match part (some (.arr (itemsOf (look p.current "choices")))) index with
  | none | some .null => throw noSuchChoice
  | some c => set { p with block := c.get? "to", position := some (.float (Binary64.zero false)) }

/-! ## Variables, states and functions -/

/-- The value of a variable. -/
def getVariable (name : Option Json) : Telling Playbook (Option Json) := do
  match spell name with
  | .ok name => return valueOf (← get).bindings name
  | .error t => throw t

def setVariable (name value : Option Json) : Telling Playbook Unit := do
  match spell name with
  | .ok name => modify fun p => { p with bindings := put p.bindings name value }
  | .error t => throw t

/-- The state as a text. -/
def save : Telling Playbook String := do
  let p ← get
  let bindings := Json.present (Json.indexFirst p.bindings)
  return Json.text Json.terse
    (Json.present [("block", p.block), ("pos", p.position), ("vars", some bindings)])

def restore (text : Option Json) : Telling Playbook Unit := do
  match readSettled? text with
  | none => throw (.error "stub: bad state")
  | some .null => throw (.error "Cannot read properties of null (reading 'block')")
  | some state =>
    modify fun p => { p with
      block := state.get? "block"
      position := state.get? "pos"
      bindings := putAll [] (membersOf (state.get? "vars")) }

/-- Goes back to the beginning. -/
def reset : Telling Playbook Unit := modify fun p => opening p.script

def call (name : Option Json) (arguments : Json) : Telling Playbook (Option Json) := do
  let functions := look (some (← get).script) "functions"
  match spell name with
  | .error t => throw t
  | .ok word =>
    match (part functions name).filter Json.counts with
    | none =>
      if (inheritedText word).isSome then return none
      else throw (.error ("no function: " ++ word))
    | some f =>
      match thrownBy (some f) with
      | some t => throw t
      | none =>
        if ((f.get? "args").filter Json.counts).isSome then return some arguments
        else return f.get? "value"

/-! ## The interpreter -/

def interpreter : Interpreter Playbook where
  compile := compile
  load := load
  compiled := fun p => .ok p.compiled
  canContinue := canContinue
  linesLeft := linesLeft
  tell := tell
  tags := fun p => p.tags
  choices := choices
  choose := choose
  getVariable := getVariable
  setVariable := setVariable
  save := save
  restore := restore
  reset := reset
  call := call
  globalTags := fun p => look (some p.script) "globalTags"

/-! ## Marks for rehearsals -/

/-- A text between the marks of an isolate. -/
def mark (text : Option Json) : Except Thrown (Option Json) := do
  return some (.str ("\u2068" ++ (← spell text) ++ "\u2069"))

/-- A text without the marks of isolates. -/
def unmark : Option Json → Except Thrown (Option Json)
  | some (.str s) => .ok (some (.str (Text.without (fun c => '\u2066' ≤ c && c ≤ '\u2069') s)))
  | none => .error (.error "Cannot read properties of undefined (reading 'replace')")
  | some .null => .error (.error "Cannot read properties of null (reading 'replace')")
  | some _ => .error (.error "text.replace is not a function")

/-- The members of a value that is spread over an object. -/
def spread : Json → Fields
  | .obj fields => fields
  | .arr items => items.mapIdx fun i v => (toString i, v)
  | .str s => s.toList.mapIdx fun i c => (toString i, .str (String.singleton c))
  | _ => []

/-- A compiled playbook that says it has marks. -/
def markCompiled (text : Option Json) : Except Thrown (Option Json) := do
  let v ← readSettled text
  let fields := (spread v).foldl (fun fs p => Fields.put fs p.1 p.2) [("bidi", .bool true)]
  return some (.str (Json.text Json.terse (.obj (Json.indexFirst fields))))

/-- The module that marks texts in rehearsals. -/
def marks : Marks where
  mark := mark
  unmark := unmark
  markCompiled := markCompiled

end Playbook

end StoryServer
