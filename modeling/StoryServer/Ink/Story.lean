import StoryServer.Act
import StoryServer.Ink.Program

/-!
# Running a story

A `Story` is a program with the values of its variables, a cursor and the choices on
offer.  The logic before a line runs when the line is told; the logic after the last
line before a stop runs at once, so that the choices there are on offer.

Looking ahead (`Story.peek`) follows diverts without running anything.  Both looking
ahead and running stop after `instructionLimit` instructions without a text.

A story can tell lines for ever.  `Story.continueWithin` tells at most a given number of
them, and `Story.continueStory` allows more than any machine can tell: the path of a story
does not depend on its variables, so a loop is left only by a fault of arithmetic, and that
may come after any number of rounds.  Telling that is not over by then is `Fault.endless`, which
is no answer: nothing catches it, and no client hears of it (`Act.caught`).

A restored state may put the cursor or a choice anywhere, also where no story gets by
itself; such a place keeps the cells it was given and fails when it is used.
-/

namespace StoryServer

namespace Ink

/-! ## Places -/

/-- Where a story is. -/
inductive Cursor where
  | ended
  /-- Before an instruction of a knot. -/
  | at (knot : String) (index : Int)
  /-- At no place that a story reaches by itself. -/
  | stray (cells : List Json)
  deriving DecidableEq, Repr

namespace Cursor

/-- The place that the cells of a saved state name. -/
def ofCells : List Json → Cursor
  | [.str knot, .int index] => .at knot index
  | cells => .stray cells

/-- The place as a value. -/
def toJson : Cursor → Json
  | .ended => .null
  | .at knot index => .arr [.str knot, .int index]
  | .stray cells => .arr cells

/-- The place after an instruction. -/
def next : Cursor → Cursor
  | .at knot index => .at knot (index + 1)
  | .stray [.str knot, .bool b] => .at knot (if b then 2 else 1)
  | c => c

/-- The place that a target names. -/
def ofTarget (target : String) : Cursor :=
  if endsStory target then .ended else .at target 0

end Cursor

/-- A choice on offer. -/
inductive Offer where
  /-- A text and the knot it leads to. -/
  | option (text target : String)
  /-- Cells that are no such pair. -/
  | stray (cells : List Json)
  deriving DecidableEq, Repr

namespace Offer

/-- The choice that the cells of a saved state name. -/
def ofCells : List Json → Offer
  | [.str text, .str target] => .option text target
  | cells => .stray cells

/-- The cells of a choice. -/
def cells : Offer → List Json
  | .option text target => [.str text, .str target]
  | .stray cells => cells

/-- The text of a choice. -/
def text : Offer → Except Fault Json
  | .option text _ => .ok (.str text)
  | .stray [text, _] => .ok text
  | .stray cells => .error (if cells.length < 2 then .tooFewCells cells.length else .tooManyCells)

/-- The place that a choice leads to. -/
def destination : Offer → Except Fault Cursor
  | .option _ target => .ok (.ofTarget target)
  | .stray (_ :: .str target :: _) => .ok (.ofTarget target)
  | .stray (_ :: target :: _) => .ok (.stray [target, .int 0])
  | .stray _ => .error .noCell

end Offer

/-! ## Instructions -/

/-- The instruction at an index; a negative index counts from the end. -/
def instructionIn (body : List Instruction) (index : Int) : Except Fault (Option Instruction) :=
  if (body.length : Int) ≤ index then .ok none
  else
    let i := if index < 0 then index + body.length else index
    if i < 0 then .error .noElement
    else .ok body[i.toNat]?

/-- The instruction at an index that need not be a whole number. -/
def instructionAtCell (body : List Instruction) : Json → Except Fault (Option Instruction)
  | .int index => instructionIn body index
  | .bool b => instructionIn body (if b then 1 else 0)
  | .float x =>
    if x.blt (Binary64.ofInt body.length) then .error (.misuse (.arrayIndex .float)) else .ok none
  | v => .error (.misuse (.notOrdered v.kind .int))

/-- The instructions of the knot that a cell names. -/
def Program.bodyAtCell (p : Program) (cell : Json) : Except Fault (List Instruction) :=
  match cell with
  | .str knot =>
    match p.body? knot with
    | some body => .ok body
    | none => .error (.missingKey cell)
  | .arr _ | .obj _ => .error (.misuse (.unhashable cell.kind))
  | _ => .error (.missingKey cell)

/-- The instruction at a place, if there is one. -/
def Program.instructionAt (p : Program) : Cursor → Except Fault (Option Instruction)
  | .ended => .ok none
  | .at knot index => do instructionIn (← p.bodyAtCell (.str knot)) index
  | .stray [knot, index] => do instructionAtCell (← p.bodyAtCell knot) index
  | .stray cells => .error (if cells.length < 2 then .tooFewCells cells.length else .tooManyCells)

/-- How many instructions may pass without a text. -/
def instructionLimit : Nat := 10000

/-- Whether a text comes before the next stop, looking at most this many instructions
ahead. -/
def Program.peekFrom (p : Program) : Nat → Cursor → Except Fault Bool
  | 0, _ => .error .divertLoop
  | n + 1, c => do
    match ← p.instructionAt c with
    | none | some (.choice ..) => return false
    | some (.text ..) => return true
    | some (.assign ..) => p.peekFrom n c.next
    | some (.divert target) =>
      if endsStory target then return false else p.peekFrom n (.at target 0)

/-- The run of choices that begins a list of instructions. -/
def leadingOffers : List Instruction → List Offer
  | .choice text target :: rest => .option text target :: leadingOffers rest
  | _ => []

/-- The choices on offer at a place in a knot.  A place counted from the end goes on at
the beginning. -/
def offersAt (body : List Instruction) (index : Int) : List Offer :=
  if index < 0 then
    let tail := body.drop (index + body.length).toNat
    leadingOffers (tail ++ body)
  else leadingOffers (body.drop index.toNat)

/-! ## Stories -/

/-- A running story. -/
structure Story where
  program : Program
  bindings : Variables
  cursor : Cursor := .at rootKnot 0
  offers : List Offer := []
  /-- How often it has been closed. -/
  closings : Nat := 0
  deriving DecidableEq, Repr

namespace Story

/-- Whether it has been closed. -/
def closed (s : Story) : Bool := s.closings != 0

/-- The story of a program, at its beginning. -/
def start (p : Program) : Story := { program := p, bindings := p.bindings }

/-- A story must not be closed. -/
def requireOpen : Act Story Unit := do
  if (← get).closed then throw .closedStory

/-! ### Expressions -/

/-- The value of a word: a variable, else a literal. -/
def value (s : Story) (token : String) : Except Fault Json :=
  match s.bindings.get? token with
  | some v => .ok v
  | none =>
    match literal? token with
    | some v => .ok v
    | none => .error (.story (.notLiteral token))

/-- The value of an expression: a sum or a difference of two words, else one word. -/
def evaluate (s : Story) (expression : String) : Except Fault Json :=
  match Text.words expression with
  | [left, sign, right] =>
    if sign == "+" || sign == "-" || sign == "+-" then do
      let a ← s.value left
      let b ← s.value right
      if sign == "+" then add a b else sub a b
    else s.value expression
  | _ => s.value expression

/-! ### Running -/

/-- Whether a text comes before the next stop. -/
def peek (s : Story) : Except Fault Bool := s.program.peekFrom instructionLimit s.cursor

/-- The place of the choices at a cursor, as a knot's instructions and an index. -/
def offersHere (s : Story) : List Offer :=
  match s.cursor with
  | .at knot index => offersAt ((s.program.body? knot).getD []) index
  | .stray [.str knot, .bool b] => offersAt ((s.program.body? knot).getD []) (if b then 1 else 0)
  | _ => []

/-- Runs the instructions up to the next text, choice or end. -/
def settleFrom : Nat → Act Story Unit
  | 0 => throw .divertLoop
  | n + 1 => do
    let s ← get
    match ← Act.ofExcept (s.program.instructionAt s.cursor) with
    | none | some (.text ..) => pure ()
    | some (.assign name expression) =>
      let v ← Act.ofExcept (s.evaluate expression)
      set { s with bindings := s.bindings.put (.str name) v, cursor := s.cursor.next }
      settleFrom n
    | some (.divert target) =>
      set { s with cursor := .ofTarget target }
      settleFrom n
    | some (.choice ..) => set { s with offers := s.offersHere }

/-- Runs the logic up to the next text, choice or end, with no choices on offer before. -/
def settle : Act Story Unit := do
  modify fun s => { s with offers := [] }
  settleFrom instructionLimit

/-- The choices on offer, numbered. -/
def choicesFrom : Nat → List Offer → Except Fault (List Choice)
  | _, [] => .ok []
  | i, o :: rest => do
    let text ← o.text
    return { index := i, text } :: (← choicesFrom (i + 1) rest)

def choices (s : Story) : Except Fault (List Choice) := choicesFrom 0 s.offers

/-- The line at a place, if a text stands there. -/
def lineAt (s : Story) : Except Fault (Option (String × List String)) := do
  match ← s.program.instructionAt s.cursor with
  | some (.text text tags) => return some (text, tags)
  | _ => return none

/-- Tells one line, after the logic before it. -/
def continueLine : Act Story Continuation := do
  requireOpen
  settle
  let s ← get
  match ← Act.ofExcept s.lineAt with
  | none => return { text := .str "", canContinue := false, choices := ← Act.ofExcept s.choices }
  | some (text, tags) =>
    set { s with cursor := s.cursor.next }
    let canContinue ← Act.ofExcept (← get).peek
    if !canContinue then settle
    let choices ← if canContinue then pure [] else Act.ofExcept (← get).choices
    return { text := .str (text ++ "\n"), canContinue, choices, tags := tags.map .str }

/-- Tells lines until no text is left before the next stop.  `told` and `tags` are what
has been told so far, `can` what the last line said about going on.  When the lines run out there
is no answer, and the telling counts as one that never ends. -/
def continueFrom : Nat → String → List Json → Bool → Act Story Continuation
  | 0, _, _, _ => throw .endless
  | n + 1, told, tags, can => do
    if ← Act.ofExcept (← get).peek then
      let c ← continueLine
      let line := match c.text with
        | .str line => line
        | _ => ""
      continueFrom n (told ++ line) (tags ++ c.tags) c.canContinue
    else
      let choices ← Act.ofExcept (← get).choices
      return { text := .str told, canContinue := can, choices, tags }

/-- Tells all lines up to the next choice or the end, if they are fewer than `n`. -/
def continueWithin (n : Nat) : Act Story Continuation := do
  requireOpen
  let _ ← Act.ofExcept (← get).choices
  continueFrom n "" [] false

/-- More lines than can be told. -/
def lineLimit : Nat := Nat.pow 2 60

/-- Tells all lines up to the next choice or the end. -/
def continueStory : Act Story Continuation := continueWithin lineLimit

/-- Whether there is a next line. -/
def canContinue : Act Story Bool := do
  requireOpen
  Act.ofExcept (← get).peek

def choose (index : Int) : Act Story Unit := do
  requireOpen
  let s ← get
  match s.offers[index.toNat]?, decide (0 ≤ index) with
  | some o, true =>
    let cursor ← Act.ofExcept o.destination
    set { s with cursor, offers := [] }
  | _, _ => throw (.noChoice index)

/-- Goes back to the beginning. -/
def reset : Act Story Unit := do
  requireOpen
  modify fun s => { s with bindings := s.program.bindings, cursor := .at rootKnot 0, offers := [] }

/-! ### Variables -/

/-- The value of a variable; null for an unknown one. -/
def getVariable (name : String) : Act Story Json := do
  requireOpen
  return ((← get).bindings.get? name).getD .null

def setVariable (name : String) (v : Json) : Act Story Unit := do
  requireOpen
  let s ← get
  match s.bindings.get? name with
  | none => throw (.story (.undeclared name))
  | some _ => set { s with bindings := s.bindings.put (.str name) v }

/-! ### Saved states -/

/-- The state of a story as an object. -/
def stateJson (s : Story) : Json :=
  .obj [("pc", s.cursor.toJson), ("variables", s.bindings.toJson),
    ("choices", .arr (s.offers.map fun o => .arr o.cells))]

/-- The text of the state. -/
def saveState : Act Story String := do
  requireOpen
  Act.ofExcept (writeJson .ascii (← get).stateJson)

/-- The value of a state's text. -/
def readState (text : String) : Except Fault Json :=
  match readJson text with
  | .error (.json text complaint position) =>
    .error (.story (.stateText text complaint position))
  | r => r

/-- The place that a state names. -/
def stateCursor (state : Json) : Except Fault Cursor := do
  match ← state.item "pc" with
  | .null => return .ended
  | v => return .ofCells (← v.parts)

/-- The variables of a state. -/
def stateVariables (state : Json) : Except Fault Variables := do
  Variables.ofJson (← state.item "variables")

/-- The choices on offer of a state. -/
def stateOffers (state : Json) : Except Fault (List Offer) := do
  let rows ← (← state.item "choices").parts
  rows.mapM fun row => do return .ofCells (← row.parts)

/-- Restores a state, part after part: the place, the variables, the choices.  What is
restored before a part fails stays restored. -/
def loadState (text : String) : Act Story Unit := do
  requireOpen
  let state ← Act.ofExcept (readState text)
  let cursor ← Act.ofExcept (stateCursor state)
  modify fun s => { s with cursor }
  let bindings ← Act.ofExcept (stateVariables state)
  modify fun s => { s with bindings }
  let offers ← Act.ofExcept (stateOffers state)
  modify fun s => { s with offers }

end Story

end Ink

end StoryServer
