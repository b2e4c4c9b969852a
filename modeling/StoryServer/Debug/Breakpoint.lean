import StoryServer.Fault
import StoryServer.Pattern.Matcher
import StoryServer.Text.Blank

/-!
# Breakpoints

A breakpoint looks at what a step told and at which watched variables the step changed.
A story does not say which knot or stitch a line belongs to, so these are found in the
text: by the name after its equals signs anywhere, or at the start of the line.  A target
that is no pattern is searched for as a plain text.

The text of a step is a JSON value; in an array or an object a text is found as an item
or a key.
-/

namespace StoryServer

namespace Debug

/-- What a breakpoint looks for. -/
inductive BreakpointType where
  | knot
  | stitch
  | pattern
  /-- A change of a watched variable. -/
  | variableChange
  deriving DecidableEq, Repr

namespace BreakpointType

/-- The name of a type. -/
def name : BreakpointType → String
  | .knot => "knot"
  | .stitch => "stitch"
  | .pattern => "pattern"
  | .variableChange => "variable_change"

def all : List BreakpointType := [.knot, .stitch, .pattern, .variableChange]

/-- The type with a name. -/
def ofName? (name : String) : Option BreakpointType := all.find? fun t => t.name == name

theorem ofName?_name (t : BreakpointType) : ofName? t.name = some t := by cases t <;> decide

end BreakpointType

/-- A breakpoint of a debug session. -/
structure Breakpoint where
  /-- Its number, counted from one over the whole debug session. -/
  number : Nat
  type : BreakpointType
  /-- The name, pattern or variable it looks for. -/
  target : String
  enabled : Bool := true
  deriving DecidableEq, Repr

namespace Breakpoint

/-- The id of a breakpoint. -/
def id (b : Breakpoint) : String := s!"bp_{b.number}"

/-- A breakpoint as an object, without whether it is looked at. -/
def summary (b : Breakpoint) : Fields :=
  [("id", .str b.id), ("type", .str b.type.name), ("target", .str b.target)]

/-- A breakpoint as an object. -/
def toJson (b : Breakpoint) : Json := .obj (b.summary ++ [("enabled", .bool b.enabled)])

end Breakpoint

/-! ## Texts of steps -/

/-- Whether a told value holds a text: as a part of a text, an item, or a key. -/
def holds (told : Json) (part : String) : Except Fault Bool :=
  match told with
  | .str s => .ok (Text.occursIn part.toList s.toList)
  | .arr items => .ok (items.contains (.str part))
  | .obj fields => .ok (Fields.has fields part)
  | v => .error (.misuse (.notContainer v.kind))

/-- Whether a told value begins with a text, blanks before it apart. -/
def beginsWith (told : Json) (start : String) : Except Fault Bool :=
  match told with
  | .str s => .ok (Text.startsWith start.toList (Text.trimStartBy isBlank s.toList))
  | v => .error (.misuse (.noAttribute v.kind "lstrip"))

/-- Whether a told value shows a place: its name after a sign, or at the start. -/
def showsPlace (sign : String) (told : Json) (name : String) : Except Fault Bool := do
  if ← holds told (sign ++ name) then return true
  else beginsWith told name

/-- Whether a pattern is found in a told value; a target that is no pattern is a plain
text. -/
def showsPattern (told : Json) (target : String) : Except Fault Bool :=
  match Pattern.read target with
  | .ok node =>
    match told with
    | .str s => .ok (node.search s.toList)
    | v => .error (.misuse (.notText v.kind))
  | .error .malformed => holds told target
  | .error d => .error (.pattern d)

/-- Whether a step hits a breakpoint, by what it told and the names of the watched
variables it changed. -/
def BreakpointType.hit (type : BreakpointType) (target : String) (told : Json)
    (changed : List String) : Except Fault Bool :=
  match type with
  | .pattern => showsPattern told target
  | .variableChange => .ok (changed.contains target)
  | .knot => showsPlace "=== " told target
  | .stitch => showsPlace "= " told target

/-- Whether a step hits a breakpoint of a type that is given by name.  A name of no type is
never hit. -/
def hitNamed (type target : String) (told : Json) (changed : List String) : Except Fault Bool :=
  match BreakpointType.ofName? type with
  | some t => t.hit target told changed
  | none => .ok false

theorem hitNamed_name (t : BreakpointType) (target : String) (told : Json)
    (changed : List String) : hitNamed t.name target told changed = t.hit target told changed := by
  simp [hitNamed, BreakpointType.ofName?_name]

/-- The first enabled breakpoint that a step hits. -/
def firstHit (told : Json) (changed : List String) :
    List Breakpoint → Except Fault (Option Breakpoint)
  | [] => .ok none
  | b :: rest => do
    if b.enabled then
      if ← b.type.hit b.target told changed then return some b
    firstHit told changed rest

end Debug

end StoryServer
