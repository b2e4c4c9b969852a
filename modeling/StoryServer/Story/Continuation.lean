import StoryServer.Fault

/-!
# What a story tells

A `Continuation` is what a story has told when it stops: the text, whether it can go on,
the choices on offer and the tags met on the way.  Its texts and tags are JSON values,
because a story process may answer with any of them; only the shape is read.

`Choice.ofJson` and `Continuation.ofJson` read these records from the answer of a
process.  Absent members have defaults, and members of the wrong kind are faults.
-/

namespace StoryServer

/-! ## Reading members -/

namespace Json

/-- The parts of a value: items, keys, or characters. -/
def parts : Json → Except Fault (List Json)
  | .arr items => .ok items
  | .obj fields => .ok (fields.map fun p => .str p.1)
  | .str s => .ok (s.toList.map fun c => .str (String.singleton c))
  | v => .error (.misuse (.notIterable v.kind))

/-- The parts of a value that may also be absent, null or otherwise false. -/
def partsOrNone : Option Json → Except Fault (List Json)
  | some v => if v.truthy then v.parts else .ok []
  | none => .ok []

/-- The members of a value that should be an object. -/
def members : Json → Except Fault Fields
  | .obj fields => .ok fields
  | v => .error (.misuse (.noAttribute v.kind "get"))

/-- The value of a key that must be present. -/
def item (v : Json) (key : String) : Except Fault Json :=
  match v with
  | .obj fields =>
    match Fields.get? fields key with
    | some v => .ok v
    | none => .error (.missingKey (.str key))
  | .arr _ => .error (.misuse (.arrayIndex .str))
  | .str _ => .error (.misuse (.textIndex .str))
  | v => .error (.misuse (.notSubscriptable v.kind))

/-- The whole number in a value: a number without its fraction, or a text that spells
one. -/
def toInteger : Json → Except Fault Int
  | .bool b => .ok (if b then 1 else 0)
  | .int n => .ok n
  | .float x =>
    match x, x.truncate? with
    | _, some n => .ok n
    | .nan, none => .error .wholePartOfNaN
    | _, none => .error .wholePartOfInfinity
  | .str s =>
    match Number.readInteger s with
    | .ok n => .ok n
    | .error d => .error (.number d)
  | v => .error (.misuse (.notNumber v.kind))

end Json

/-! ## Choices -/

/-- A choice on offer. -/
structure Choice where
  /-- The number by which it is chosen. -/
  index : Int
  text : Json
  tags : List Json := []
  deriving DecidableEq, Repr

namespace Choice

/-- A choice from the answer of a process. -/
def ofJson (v : Json) : Except Fault Choice := do
  let fields ← v.members
  let index ← ((fields.get? "index").getD (.int 0)).toInteger
  let tags ← Json.partsOrNone (fields.get? "tags")
  return { index, text := (fields.get? "text").getD (.str ""), tags }

/-- A choice as an object. -/
def toJson (c : Choice) : Json :=
  .obj [("index", .int c.index), ("text", c.text), ("tags", .arr c.tags)]

end Choice

/-! ## Continuations -/

/-- What a story has told when it stops. -/
structure Continuation where
  text : Json
  /-- Whether the story can go on without a choice. -/
  canContinue : Bool
  choices : List Choice := []
  /-- The tags met on the way. -/
  tags : List Json := []
  deriving DecidableEq, Repr

namespace Continuation

/-- A continuation from the answer of a process. -/
def ofJson (v : Json) : Except Fault Continuation := do
  let fields ← v.members
  let choices ← (← Json.partsOrNone (fields.get? "choices")).mapM Choice.ofJson
  let tags ← Json.partsOrNone (fields.get? "tags")
  return { text := (fields.get? "text").getD (.str "")
           canContinue := ((fields.get? "can_continue").getD (.bool false)).truthy
           choices, tags }

/-- A continuation of a session as an object. -/
def toJson (session : String) (c : Continuation) : Json :=
  .obj [("session_id", .str session), ("text", c.text), ("can_continue", .bool c.canContinue),
    ("choices", .arr (c.choices.map Choice.toJson)), ("tags", .arr c.tags)]

end Continuation

/-! ## Compilations -/

/-- What a compiler says of a source. -/
structure Compilation where
  success : Bool
  json : Json := .null
  errors : List Json := []
  warnings : List Json := []
  deriving DecidableEq, Repr

namespace Compilation

/-- A compilation from the answer of a process. -/
def ofJson (v : Json) : Except Fault Compilation := do
  let fields ← v.members
  let errors ← Json.partsOrNone (fields.get? "errors")
  let warnings ← Json.partsOrNone (fields.get? "warnings")
  return { success := ((fields.get? "success").getD .null).truthy
           json := (fields.get? "json").getD .null
           errors, warnings }

end Compilation

/-! ## Values of functions -/

/-- What a story function returns. -/
inductive Outcome where
  | value (v : Json)
  /-- Something that has no JSON text. -/
  | opaqueThing
  deriving DecidableEq, Repr

/-- The value of a function that has to be written. -/
def Outcome.written : Outcome → Except Fault Json
  | .value v => .ok v
  | .opaqueThing => .error (.misuse .notSerializable)

end StoryServer
