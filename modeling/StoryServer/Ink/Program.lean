import StoryServer.Ink.Value
import StoryServer.Text.Blank

/-!
# Programs

A small slice of ink, line by line: tags at the top, `VAR name = literal`, knots,
assignments, choices, diverts, and lines of text with tags.  `Program.parse` reads a
source; what is wrong with it is kept in `Program.errors`, in the order of the lines and
then of the knots, so that a program with errors can be told from one without.
-/

namespace StoryServer

namespace Ink

/-- One step of a knot. -/
inductive Instruction where
  /-- A line of text with its tags. -/
  | text (text : String) (tags : List String)
  /-- A variable gets the value of an expression. -/
  | assign (name expression : String)
  /-- A choice and the knot it leads to. -/
  | choice (text target : String)
  /-- The story goes on in a knot. -/
  | divert (target : String)
  deriving DecidableEq, Repr

/-- Whether a target ends the story. -/
def endsStory (target : String) : Bool := target == "END" || target == "DONE"

/-- The knot before all named ones. -/
def rootKnot : String := ""

/-- The knots of a story and their instructions, in order. -/
abbrev Knots := List (String × List Instruction)

namespace Knots

/-- A knot begun: it loses its instructions if it has any, and stands last if it is new. -/
def start : Knots → String → Knots
  | [], knot => [(knot, [])]
  | (k, body) :: rest, knot =>
    if k == knot then (k, []) :: rest else (k, body) :: start rest knot

/-- An instruction at the end of a knot. -/
def append : Knots → String → Instruction → Knots
  | [], _, _ => []
  | (k, body) :: rest, knot, i =>
    if k == knot then (k, body ++ [i]) :: rest else (k, body) :: append rest knot i

end Knots

/-- A story as it is written. -/
structure Program where
  knots : Knots
  /-- The declared variables with their first values. -/
  bindings : Variables
  globalTags : List String
  /-- What is wrong with the source. -/
  errors : List SourceError
  deriving DecidableEq, Repr

namespace Program

/-- The instructions of a knot. -/
def body? (p : Program) (knot : String) : Option (List Instruction) := p.knots.lookup knot

/-! ## Reading a source -/

/-- The program read so far. -/
structure Draft where
  program : Program
  /-- The knot that instructions go to. -/
  knot : String
  /-- Whether anything but tags has been read. -/
  started : Bool

/-- The start of every program: an empty root knot. -/
def Draft.empty : Draft := ⟨⟨[(rootKnot, [])], [], [], []⟩, rootKnot, false⟩

/-- An instruction at the end of the current knot. -/
def Draft.append (d : Draft) (i : Instruction) : Draft :=
  { d with program := { d.program with knots := d.program.knots.append d.knot i } }

/-- The text after the first `n` characters. -/
def after (n : Nat) (line : String) : String := String.ofList (line.toList.drop n)

/-- Whether a line begins with a text. -/
def begins (start line : String) : Bool := Text.startsWith start.toList line.toList

/-- The line of a knot, with its number of equals signs and blanks left out. -/
def Draft.knotLine (d : Draft) (line : String) : Except Fault Draft :=
  let name := Text.trimBy (fun c => c == '=' || c == ' ') line.toList
  match Text.words (String.ofList name) with
  | [] => .error .noElement
  | knot :: _ =>
    .ok { d with knot, program := { d.program with knots := d.program.knots.start knot } }

/-- A declaration of a variable. -/
def Draft.variableLine (d : Draft) (number : Nat) (line : String) : Draft :=
  let (name, value) := Text.cut "=" (after 4 line)
  let token := Text.trim value
  match literal? token with
  | some v =>
    let bindings := d.program.bindings.put (.str (Text.trim name)) v
    { d with program := { d.program with bindings } }
  | none =>
    let errors := d.program.errors ++ [.notLiteral number token]
    { d with program := { d.program with errors } }

/-- The instruction in a line that is no knot and no declaration. -/
def instruction (line : String) : Instruction :=
  if begins "~" line then
    let (name, expression) := Text.cut "=" (after 1 line)
    .assign (Text.trim name) (Text.trim expression)
  else if begins "*" line || begins "+" line then
    let (text, target) := Text.cut "->" (after 1 line)
    .choice (Text.without (fun c => c == '[' || c == ']') (Text.trim text)) (Text.trim target)
  else if begins "->" line then .divert (Text.trim (after 2 line))
  else
    let (text, tags) := Text.cut "#" line
    let tags := (Text.splitAt '#' tags.toList).map fun t => Text.trim (String.ofList t)
    .text (Text.trim text) (tags.filter fun t => !t.isEmpty)

/-- A line, trimmed and with its number. -/
def Draft.addLine (d : Draft) (number : Nat) (line : String) : Except Fault Draft :=
  if line.isEmpty || begins "//" line then .ok d
  else if begins "#" line && !d.started then
    let tag := Text.trim (after 1 line)
    .ok { d with program := { d.program with globalTags := d.program.globalTags ++ [tag] } }
  else
    let d := { d with started := true }
    if begins "===" line then d.knotLine line
    else if begins "VAR " line then .ok (d.variableLine number line)
    else .ok (d.append (instruction line))

/-- All lines from a number on. -/
def Draft.addLines : Draft → Nat → List String → Except Fault Draft
  | d, _, [] => .ok d
  | d, number, line :: rest => do (← d.addLine number (Text.trim line)).addLines (number + 1) rest

/-- The target of a choice or a divert. -/
def Instruction.target? : Instruction → Option String
  | .choice _ target | .divert target => some target
  | _ => none

def hasTarget (p : Program) (target : String) : Bool :=
  endsStory target || (p.body? target).isSome

/-- The targets that do not exist, in the order of the knots. -/
def missingTargets (p : Program) : List String :=
  (p.knots.flatMap fun k => k.2.filterMap Instruction.target?).filter fun t => !p.hasTarget t

/-- The program in a source. -/
def parse (source : String) : Except Fault Program := do
  let d ← Draft.empty.addLines 1 (Text.lines source)
  let p := d.program
  return { p with errors := p.errors ++ p.missingTargets.map SourceError.noTarget }

end Program

end Ink

end StoryServer
