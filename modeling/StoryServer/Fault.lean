import StoryServer.Json.Display
import StoryServer.Json.Reader
import StoryServer.Pattern.Reader

/-!
# Faults

Everything that can go wrong while a request is answered, by cause.  `Fault.kind` is the
name under which a cause is reported and `Fault.message` what is said of it; both are
part of the answers that clients see, as in `ValueError: Breakpoint target must not be
empty`.

A `Misuse` is a fault of a value: it is not of the kind that an operation is for.
-/

namespace StoryServer

/-! ## Arguments of tools -/

/-- The kinds of values that tools ask for. -/
inductive Wanted where
  /-- A text. -/
  | text
  /-- A whole number. -/
  | integer
  /-- A truth value. -/
  | boolean
  /-- An array. -/
  | array
  deriving DecidableEq, Repr

/-- The words for what is asked for. -/
def Wanted.words : Wanted → String
  | .text => "a string"
  | .integer => "an integer"
  | .boolean => "a boolean"
  | .array => "an array"

/-- Why the arguments of a tool are refused. -/
inductive ArgumentDefect where
  /-- A required argument is absent or null. -/
  | missing (key : String)
  /-- An argument has the wrong kind. -/
  | wrongKind (key : String) (wanted : Wanted) (got : Json.Kind)
  /-- The value for a variable is an array or an object. -/
  | compoundValue
  deriving DecidableEq, Repr

/-- What is said of refused arguments. -/
def ArgumentDefect.message : ArgumentDefect → String
  | .missing key => s!"missing required argument '{key}'"
  | .wrongKind key wanted got => s!"argument '{key}' must be {wanted.words}, got {got.name}"
  | .compoundValue => "argument 'value' must be a string, number, boolean or null"

/-! ## Values of the wrong kind -/

/-- A value of the wrong kind for an operation. -/
inductive Misuse where
  /-- A value that has no parts was taken apart. -/
  | notIterable (kind : Json.Kind)
  /-- A value that has no parts was indexed. -/
  | notSubscriptable (kind : Json.Kind)
  /-- An array was indexed with a value that is no index. -/
  | arrayIndex (kind : Json.Kind)
  /-- A text was indexed with a value that is no index. -/
  | textIndex (kind : Json.Kind)
  /-- An object was indexed with a range. -/
  | rangeKey
  /-- A key cannot be looked up. -/
  | unhashable (kind : Json.Kind)
  /-- A value that has no members was asked for one. -/
  | noAttribute (kind : Json.Kind) (name : String)
  /-- A value that has no members was given one. -/
  | noAssignment (kind : Json.Kind)
  /-- A value that is no text was searched for a pattern. -/
  | notText (kind : Json.Kind)
  /-- A value that has no parts was asked whether it holds something. -/
  | notContainer (kind : Json.Kind)
  /-- Two values cannot be ordered. -/
  | notOrdered (left right : Json.Kind)
  /-- Something was appended to a text or an array that is of another kind. -/
  | notAppendable (left right : Json.Kind)
  /-- Two values cannot be combined. -/
  | noOperator (sign : String) (left right : Json.Kind)
  /-- A value is no number and holds none. -/
  | notNumber (kind : Json.Kind)
  /-- A value that is no pair was taken as one. -/
  | notPair (position : Nat)
  /-- A story function was called with the wrong number of arguments. -/
  | argumentCount (function : String) (names : List String) (given : Nat)
  /-- A value has no JSON text. -/
  | notSerializable
  deriving DecidableEq, Repr

/-- Quoted names with commas and an `and` before the last. -/
def namesInProse : List String → String
  | [] => ""
  | [a] => s!"'{a}'"
  | [a, b] => s!"'{a}' and '{b}'"
  | a :: rest => s!"'{a}', " ++ namesInProse rest

/-- A noun with its count. -/
def counted (n : Nat) (noun : String) : String :=
  if n = 1 then s!"{n} {noun}" else s!"{n} {noun}s"

/-- What is said of a call with the wrong number of arguments. -/
def argumentCountMessage (function : String) (names : List String) (given : Nat) : String :=
  if given < names.length then
    let missing := names.drop given
    s!"{function}() missing " ++ counted missing.length "required positional argument" ++ ": "
      ++ namesInProse missing
  else
    s!"{function}() takes " ++ counted names.length "positional argument" ++ s!" but {given} "
      ++ (if given = 1 then "was given" else "were given")

namespace Misuse

/-- Whether the value lacks a member, which is reported under a name of its own. -/
def isAttribute : Misuse → Bool
  | .noAttribute .. => true
  | _ => false

/-- What is said of a misused value. -/
def message : Misuse → String
  | .notIterable k => s!"'{k.name}' object is not iterable"
  | .notSubscriptable k => s!"'{k.name}' object is not subscriptable"
  | .arrayIndex k => s!"list indices must be integers or slices, not {k.name}"
  | .textIndex k => s!"string indices must be integers, not '{k.name}'"
  | .rangeKey => "unhashable type: 'slice'"
  | .unhashable k => s!"unhashable type: '{k.name}'"
  | .noAttribute k name => s!"'{k.name}' object has no attribute '{name}'"
  | .noAssignment k => s!"'{k.name}' object does not support item assignment"
  | .notText k => s!"expected string or bytes-like object, got '{k.name}'"
  | .notContainer k => s!"argument of type '{k.name}' is not iterable"
  | .notOrdered a b => s!"'<' not supported between instances of '{a.name}' and '{b.name}'"
  | .notAppendable a b => s!"can only concatenate {a.name} (not \"{b.name}\") to {a.name}"
  | .noOperator sign a b =>
    s!"unsupported operand type(s) for {sign}: '{a.name}' and '{b.name}'"
  | .notNumber k =>
    "int() argument must be a string, a bytes-like object or a real number, not "
      ++ s!"'{k.name}'"
  | .notPair n => s!"cannot convert dictionary update sequence element #{n} to a sequence"
  | .argumentCount function names given => argumentCountMessage function names given
  | .notSerializable => "Object of type object is not JSON serializable"

end Misuse

/-! ## Stories -/

/-- A mistake in the source of a story. -/
inductive SourceError where
  /-- A variable is declared with something that is no literal. -/
  | notLiteral (line : Nat) (token : String)
  /-- A divert or a choice leads nowhere. -/
  | noTarget (target : String)
  deriving DecidableEq, Repr

/-- What is said of a mistake in a source. -/
def SourceError.message : SourceError → String
  | .notLiteral line token => s!"ERROR: line {line}: not a literal: {token}"
  | .noTarget target => s!"ERROR: Divert target not found: '-> {target}'"

/-- Why a story refuses an operation. -/
inductive StoryFault where
  /-- Its source has mistakes. -/
  | source (errors : List SourceError)
  /-- A word is neither a variable nor a literal. -/
  | notLiteral (token : String)
  /-- A variable is not declared. -/
  | undeclared (name : String)
  /-- A saved state is no JSON. -/
  | stateText (text : String) (complaint : Json.Complaint) (position : Nat)
  /-- A function does not exist. -/
  | noFunction (name : String)
  deriving DecidableEq, Repr

/-- What is said of a refused operation. -/
def StoryFault.message : StoryFault → String
  | .source errors => "\n".intercalate (errors.map SourceError.message)
  | .notLiteral token => s!"not a literal: {token}"
  | .undeclared name =>
    s!"Cannot assign to a variable ({name}) that hasn't been declared in the story"
  | .stateText text complaint position =>
    "invalid state: " ++ Json.placed text.toList complaint position
  | .noFunction name => s!"Function '{name}' doesn't exist"

/-! ## Story processes -/

/-- Why a story process gave no answer. -/
inductive BridgeFault where
  /-- The process answered with an error. -/
  | refused (message : Json)
  /-- The process has been ended or has exited. -/
  | notRunning
  /-- The command could not be written. -/
  | writeFailed (reason : String)
  /-- The answer could not be read. -/
  | readFailed (reason : String)
  /-- The process closed its output. -/
  | closed
  /-- The answer is no JSON. -/
  | malformed (line : String)
  deriving DecidableEq, Repr

/-- What is said of a missing answer. -/
def BridgeFault.message : BridgeFault → String
  | .refused message => message.shown
  | .notRunning => "ink bridge is not running"
  | .writeFailed reason => s!"ink bridge stdin closed: {reason}"
  | .readFailed reason => s!"ink bridge stdout reader error: {reason}"
  | .closed => "ink bridge stdout closed"
  | .malformed line => "malformed bridge reply: " ++ Text.quoted (Text.first 200 line)

/-! ## Waits -/

/-- Why a wait cannot be made. -/
inductive WaitDefect where
  | notANumber
  | negative
  /-- The clock cannot count it. -/
  | outOfRange
  deriving DecidableEq, Repr

/-- What is said of a wait that cannot be made. -/
def WaitDefect.message : WaitDefect → String
  | .notANumber => "Invalid value NaN (not a number)"
  | .negative => "sleep length must be non-negative"
  | .outOfRange => "timestamp out of range for platform time_t"

/-! ## All faults -/

/-- Why a request fails. -/
inductive Fault where
  /-- The arguments of a tool are refused. -/
  | arguments (d : ArgumentDefect)
  /-- No story session has the id. -/
  | noSession (id : String)
  /-- No debug session has the id. -/
  | noDebugSession (id : String)
  /-- The story cannot be stepped: it waits for a choice, or it has ended. -/
  | notSteppable (id : String) (waiting : Bool)
  /-- No breakpoint has this type. -/
  | breakpointType (type : String)
  /-- A breakpoint without a target. -/
  | breakpointTarget
  /-- A choice beyond those on offer. -/
  | choiceIndex (index : Int) (count : Nat)
  /-- A choice that the story does not have. -/
  | noChoice (index : Int)
  /-- An element of a list that does not exist. -/
  | noElement
  /-- An element of a fixed row that does not exist. -/
  | noCell
  /-- A story refuses an operation. -/
  | story (f : StoryFault)
  /-- A story that was closed is used. -/
  | closedStory
  /-- A story runs on without reaching a text. -/
  | divertLoop
  /-- What was asked never ends.  This is not a fault that anything takes or reports: nobody
  sees what is left then. -/
  | endless
  /-- A story function that fails by design. -/
  | boom
  /-- A key that an object does not have. -/
  | missingKey (key : Json)
  /-- A value of the wrong kind. -/
  | misuse (m : Misuse)
  /-- A row of cells has too few for a pair. -/
  | tooFewCells (count : Nat)
  /-- A row of cells has too many for a pair. -/
  | tooManyCells
  /-- An element of a list of pairs has the wrong length. -/
  | pairLength (position length : Nat)
  /-- A text is no number, or a number is too long. -/
  | number (d : NumberDefect)
  /-- A not-a-number has no whole part. -/
  | wholePartOfNaN
  /-- An infinity has no whole part. -/
  | wholePartOfInfinity
  /-- A whole number is too large for a double. -/
  | tooLargeForDouble
  /-- A size is too large for the machine. -/
  | tooLargeForSize
  /-- A size is negative. -/
  | negativeSize
  /-- A pattern is refused. -/
  | pattern (d : Pattern.Defect)
  /-- A text is no JSON. -/
  | json (text : String) (complaint : Json.Complaint) (position : Nat)
  /-- A text has more levels of arrays and objects than there is room for. -/
  | tooDeep (kind : Json.Kind)
  /-- A value has more levels than there is room for when it is shown. -/
  | tooDeepToShow
  /-- A double that is not finite cannot be written. -/
  | notFinite
  /-- A story process gave no answer. -/
  | bridge (f : BridgeFault)
  /-- A story process did not answer in time; the time is in seconds. -/
  | timeout (seconds : Json)
  /-- The chat endpoint answered with a status other than success. -/
  | chatStatus (status : Nat) (message : String)
  /-- The chat endpoint could not be reached. -/
  | chatFailed (message : String)
  /-- No request was made to the chat endpoint. -/
  | chatUnreached
  /-- A wait cannot be made. -/
  | wait (d : WaitDefect)
  deriving DecidableEq, Repr

namespace Fault

/-- The name under which a fault is reported. -/
def kind : Fault → String
  | .arguments _ => "ToolArgumentError"
  | .noSession _ => "SessionNotFoundError"
  | .noDebugSession _ => "DebugSessionNotFoundError"
  | .notSteppable .. => "DebugStateError"
  | .noChoice _ | .noElement | .noCell => "IndexError"
  | .story _ => "FakeInkError"
  | .closedStory | .divertLoop | .endless | .chatFailed _ | .chatUnreached => "RuntimeError"
  | .missingKey _ => "KeyError"
  | .misuse m => if m.isAttribute then "AttributeError" else "TypeError"
  | .wholePartOfInfinity | .tooLargeForDouble | .tooLargeForSize => "OverflowError"
  | .wait .outOfRange => "OverflowError"
  | .pattern .tooManyTurns => "OverflowError"
  | .json .. => "JSONDecodeError"
  | .tooDeep _ | .tooDeepToShow => "RecursionError"
  | .bridge _ => "BridgeError"
  | .timeout _ => "TimeoutError"
  | .chatStatus status _ => if status = 429 then "RateLimitError" else "APIStatusError"
  | .breakpointType _ | .breakpointTarget | .choiceIndex .. | .boom | .tooFewCells _
  | .tooManyCells | .pairLength .. | .number _ | .wholePartOfNaN | .negativeSize
  | .pattern _ | .notFinite | .wait _ => "ValueError"

/-- What is said of a fault. -/
def message : Fault → String
  | .arguments d => d.message
  | .noSession id => s!"No story session: {id}"
  | .noDebugSession id => s!"No debug session for: {id}. Call start_debug first."
  | .notSteppable id true => s!"Cannot step {id}: story is waiting for a choice"
  | .notSteppable id false => s!"Cannot step {id}: story has ended"
  | .breakpointType type =>
    s!"Unknown breakpoint type: {Text.quoted type} "
      ++ "(expected one of knot, stitch, pattern, variable_change)"
  | .breakpointTarget => "Breakpoint target must not be empty"
  | .choiceIndex index count => s!"Choice index {index} out of range ({count} choices available)"
  | .noChoice index => s!"choice out of range: {index}"
  | .noElement => "list index out of range"
  | .noCell => "tuple index out of range"
  | .story f => f.message
  | .closedStory => "runtime is closed"
  | .divertLoop => "divert loop"
  | .endless => "no end"
  | .boom => "boom"
  | .missingKey key => key.quoted
  | .misuse m => m.message
  | .tooFewCells count => s!"not enough values to unpack (expected 2, got {count})"
  | .tooManyCells => "too many values to unpack (expected 2)"
  | .pairLength position length =>
    s!"dictionary update sequence element #{position} has length {length}; 2 is required"
  | .number d => d.message
  | .wholePartOfNaN => "cannot convert float NaN to integer"
  | .wholePartOfInfinity => "cannot convert float infinity to integer"
  | .tooLargeForDouble => "int too large to convert to float"
  | .tooLargeForSize => "Python int too large to convert to C ssize_t"
  | .negativeSize => "maxlen must be non-negative"
  | .pattern d => d.message
  | .json text complaint position => Json.placed text.toList complaint position
  | .tooDeep kind => s!"maximum recursion depth exceeded while decoding a JSON "
    ++ (if kind = .arr then "array" else "object") ++ " from a unicode string"
  | .tooDeepToShow =>
    "maximum recursion depth exceeded while getting the repr of an object"
  | .notFinite => "Out of range float values are not JSON compliant"
  | .bridge f => f.message
  | .timeout seconds => s!"ink bridge timed out after {seconds.shown}s"
  | .chatStatus _ message => message
  | .chatFailed message => message
  | .chatUnreached => "unreachable: retry loop exited without a result"
  | .wait d => d.message

/-- A fault in one line, its name before what is said of it. -/
def report (f : Fault) : String := s!"{f.kind}: {f.message}"

end Fault

/-! ## Faults of numbers -/

/-- A whole number as a double, unless it is too large. -/
def toDouble (n : Int) : Except Fault Binary64 :=
  match Binary64.ofInt n with
  | .infinite _ => .error .tooLargeForDouble
  | x => .ok x

theorem toDouble_eq {n : Int} {double : Binary64} : Binary64.ofInt n = double →
    toDouble n =
      match double with
      | .infinite _ => .error .tooLargeForDouble
      | x => .ok x := by
  -- the definition is put in for the function as a whole: applied to a number, it would be
  -- compared by computing the double
  obtain ⟨convert, hconvert⟩ : ∃ convert, convert = toDouble := ⟨_, rfl⟩
  rw [← hconvert]
  delta toDouble at hconvert
  rw [hconvert]
  rintro rfl
  rfl

/-! ## Faults of reading and writing JSON -/

/-- The value of a JSON text. -/
def readJson (text : String) : Except Fault Json :=
  match Json.parse text with
  | .ok v => .ok v
  | .error (.syntaxAt complaint position) => .error (.json text complaint position)
  | .error (.number d) => .error (.number d)
  | .error (.tooDeep kind) => .error (.tooDeep kind)

/-- The text of a value. -/
def writeJson (style : JsonStyle) (v : Json) : Except Fault String :=
  match Json.write style v with
  | .ok text => .ok text
  | .error .tooLong => .error (.number .tooLongToWrite)
  | .error .notFinite => .error .notFinite

/-- A value is written as its text, unless one of its numbers is refused. -/
theorem writeJson_eq_ok {style : JsonStyle} {v : Json} {text : String} :
    writeJson style v = .ok text ↔ v.defect? style = none ∧ text = Json.text style v := by
  rw [writeJson, Json.write]
  cases v.defect? style with
  | none =>
      dsimp only
      rw [Except.ok.injEq, eq_comm, and_iff_right rfl]
  | some d =>
      refine iff_of_false ?_ nofun
      cases d <;> exact nofun

/-! ## Computations that may fail -/

/-- What a computation with an answer consists of. -/
theorem bind_eq_ok {ε α β : Type} {x : Except ε α} {next : α → Except ε β} {b : β} :
    (x >>= next) = .ok b ↔ ∃ a, x = .ok a ∧ next a = .ok b := by
  cases x with
  | error e => exact ⟨nofun, nofun⟩
  | ok a => exact ⟨fun h => ⟨a, rfl, h⟩, fun ⟨_, ha, h⟩ => Except.ok.inj ha ▸ h⟩

theorem mapError_eq_ok {ε ε' α : Type} {x : Except ε α} {g : ε → ε'} {a : α} :
    x.mapError g = .ok a ↔ x = .ok a := by
  cases x with
  | error e => exact ⟨nofun, nofun⟩
  | ok b => exact ⟨fun h => congrArg _ (Except.ok.inj h), fun h => congrArg _ (Except.ok.inj h)⟩

end StoryServer
