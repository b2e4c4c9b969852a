import StoryServer.Debug.Breakpoint
import StoryServer.Story.Continuation

/-!
# What a debug session records

The breakpoints and watches of a session, a bounded trace of its steps, and how far it
has come.  `sameValue` is the equality by which a watched variable counts as changed: two
values are the same when their JSON texts with sorted members are.
-/

namespace StoryServer

namespace Debug

/-- Whether two values are the same up to the order of members. -/
def sameValue (a b : Json) : Except Fault Bool := do
  let s ← writeJson .canonical a
  let t ← writeJson .canonical b
  return s == t

/-- A watched variable. -/
structure Watch where
  name : String
  /-- The value it was last seen with. -/
  last : Json
  /-- How many steps have changed it. -/
  changes : Nat := 0
  deriving DecidableEq, Repr

/-- A change of a watched variable. -/
structure Change where
  name : String
  old : Json
  new : Json
  deriving DecidableEq, Repr

/-- A step in the trace. -/
structure Visit where
  step : Nat
  /-- The beginning of what it told. -/
  text : Json
  changed : List String
  /-- When it was taken, in milliseconds. -/
  time : Nat
  deriving DecidableEq, Repr

namespace Visit

/-- A step without its time, as members of an object. -/
def summary (v : Visit) : Fields :=
  [("step", .int v.step), ("text", v.text), ("vars_changed", .texts v.changed)]

/-- A step as an object. -/
def toJson (v : Visit) : Json := .obj (v.summary ++ [("timestamp", .int v.time)])

end Visit

/-- A debug session of a story. -/
structure Record where
  /-- The id of the story session. -/
  session : String
  /-- How many steps the trace keeps. -/
  limit : Nat
  breakpoints : List Breakpoint := []
  /-- The watches, in the order in which their names were first watched. -/
  watches : List Watch := []
  trace : List Visit := []
  steps : Nat := 0
  /-- Whether the last step hit a breakpoint, or an earlier one since the last
  continuation. -/
  paused : Bool := false
  lastOutput : Json := .str ""
  /-- The number of the next breakpoint. -/
  nextBreakpoint : Nat := 1
  deriving DecidableEq, Repr

namespace Record

/-- A step at the end of the trace, the oldest one dropped when there are too many. -/
def visit (r : Record) (v : Visit) : Record :=
  let trace := r.trace ++ [v]
  { r with trace := trace.drop (trace.length - r.limit) }

/-- A watch set where its name stands, or a new one at the end. -/
def putWatch (w : Watch) : List Watch → List Watch
  | [] => [w]
  | v :: rest => if v.name == w.name then w :: rest else v :: putWatch w rest

def updateWatch (r : Record) (name : String) (change : Watch → Watch) : Record :=
  { r with watches := r.watches.map fun w => if w.name == name then change w else w }

def latest (r : Record) (n : Int) : List Visit :=
  if n ≤ 0 then [] else r.trace.drop (r.trace.length - n.toNat)

end Record

/-- What a step says. -/
structure StepOutcome where
  text : Json
  canContinue : Bool
  choices : List Choice := []
  tags : List Json := []
  number : Nat
  paused : Bool
  hit : Option Breakpoint := none
  changes : List Change := []
  deriving DecidableEq, Repr

namespace StepOutcome

/-- A choice without its tags, as an object. -/
def choiceJson (c : Choice) : Json := .obj [("index", .int c.index), ("text", c.text)]

/-- A change as an object. -/
def changeJson (c : Change) : String × Json := (c.name, .obj [("old", c.old), ("new", c.new)])

/-- An outcome as an object; the breakpoint and the changes only when there are any. -/
def toJson (o : StepOutcome) : Json :=
  .obj <| [("text", o.text), ("can_continue", .bool o.canContinue),
      ("choices", .arr (o.choices.map choiceJson)), ("tags", .arr o.tags),
      ("step_number", .int o.number), ("is_paused", .bool o.paused)]
    ++ (match o.hit with
      | some b => [("hit_breakpoint", .obj b.summary)]
      | none => [])
    ++ (if o.changes.isEmpty then [] else [("watch_changes", .obj (o.changes.map changeJson))])

end StepOutcome

/-- The beginning of what was told: so many characters of a text, or items of an array. -/
def beginning (n : Nat) : Json → Except Fault Json
  | .str s => .ok (.str (Text.first n s))
  | .arr items => .ok (.arr (items.take n))
  | .obj _ => .error (.misuse .rangeKey)
  | v => .error (.misuse (.notSubscriptable v.kind))

end Debug

end StoryServer
