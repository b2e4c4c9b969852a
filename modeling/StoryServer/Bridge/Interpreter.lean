import StoryServer.Json.Spelled

/-!
# Interpreters

What a story process runs on: an interpreter of stories, which compiles sources and opens
compiled stories, and perhaps a module that marks texts for right-to-left display.  Both
may throw, an error with a message or any other value.

A value may be absent where an interpreter has none to give; that is not the same as
null.  The values that it gives or throws are no deeper than a process can write and spell.

A step that never ends fails with `Thrown.endless`.  Nothing is thrown then, and nobody
takes it: what a step is a part of never ends either.
-/

namespace StoryServer

namespace Bridge

/-! ## What is thrown -/

/-- What an interpreter throws. -/
inductive Thrown where
  | error (message : String)
  /-- A value of any other kind. -/
  | value (v : Option Json)
  /-- Nothing is thrown, and nothing else comes. -/
  | endless
  deriving DecidableEq, Repr

/-- A step of a story that may throw.  What it did before stays done. -/
abbrev Telling (σ α : Type) := ExceptT Thrown (StateM σ) α

namespace Thrown

/-- What is said when a value has no spelling. -/
def noSpelling : Thrown := .error "Cannot convert object to primitive value"

/-- What is said when a value has more levels than there is room for. -/
def tooDeep : Thrown := .error "Maximum call stack size exceeded"

end Thrown

def spell (v : Option Json) : Except Thrown String :=
  match Json.spelledOrAbsent? v with
  | some s => .ok s
  | none => .error .noSpelling

namespace Thrown

/-- The message of an error.  An empty one is said as the word for an error. -/
def ofMessage (message : String) : String := if message.isEmpty then "Error" else message

/-- The message that a thrown value brings, if it counts. -/
def broughtMessage (v : Option Json) : Option Json :=
  ((v.filter Json.counts).bind (·.get? "message")).filter Json.counts

/-- What is said of something thrown.  To say it may throw again. -/
def said : Thrown → Except Thrown Json
  | .error message => .ok (.str (ofMessage message))
  | .value v =>
    match broughtMessage v with
    | some message => .ok message
    | none => Json.str <$> spell v
  | .endless => .error .endless

/-- What is said of something thrown, as a text. -/
def text (t : Thrown) : Except Thrown String := do spell (some (← t.said))

/-- Whether what is thrown counts as something. -/
def isSomething : Thrown → Bool
  | .value v => (v.filter Json.counts).isSome
  | _ => true

end Thrown

/-! ## Interpreters -/

/-- A choice that an interpreter offers. -/
structure Offer where
  index : Option Json
  text : Option Json
  tags : Option Json
  deriving DecidableEq, Repr

/-- What compiling a source gives. -/
structure Compiling (σ : Type) where
  /-- The errors that the compiler lists. -/
  errors : Option Json := none
  warnings : Option Json := none
  /-- The story, or none, or what the compiler throws. -/
  result : Except Thrown (Option σ)

/-- An interpreter whose stories have states `σ`. -/
structure Interpreter (σ : Type) where
  compile : Json → Except Thrown (Compiling σ)
  load : Option Json → Except Thrown σ
  compiled : σ → Except Thrown String
  /-- Whether there is a next line. -/
  canContinue : σ → Bool
  /-- No fewer than the lines that are told until there is none or one throws, if that ever
  comes. -/
  linesLeft : σ → Nat
  tell : Telling σ (Option Json)
  /-- The tags of the line told last. -/
  tags : σ → Option Json
  choices : σ → Option (List Offer)
  choose : Option Json → Telling σ Unit
  getVariable : Option Json → Telling σ (Option Json)
  setVariable : Option Json → Option Json → Telling σ Unit
  /-- The state of the story, to be saved. -/
  save : Telling σ String
  restore : Option Json → Telling σ Unit
  reset : Telling σ Unit
  call : Option Json → Json → Telling σ (Option Json)
  /-- The tags at the top of the story. -/
  globalTags : σ → Option Json

/-- A module that marks texts for right-to-left display. -/
structure Marks where
  mark : Option Json → Except Thrown (Option Json)
  unmark : Option Json → Except Thrown (Option Json)
  markCompiled : Option Json → Except Thrown (Option Json)

end Bridge

end StoryServer
