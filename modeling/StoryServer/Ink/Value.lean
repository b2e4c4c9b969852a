import StoryServer.Story.Continuation

/-!
# Values of a story

Literals, the variables of a story, and the arithmetic on values.  A truth value counts
as one or zero in arithmetic; a whole number beside a double becomes a double; texts and
arrays can be joined and repeated.

A variable's name is a text, but a restored state may bring any scalar as a name.  Two
such names are the same when they are equal as numbers.
-/

namespace StoryServer

namespace Ink

/-! ## Literals -/

/-- The text inside double quotes. -/
def unquoted? (s : List Char) : Option (List Char) :=
  match s with
  | '"' :: rest =>
    match rest.reverse with
    | '"' :: inner => some inner.reverse
    | _ => none
  | _ => none

/-- The value of a literal: a truth value, a quoted text, a whole number or a double. -/
def literal? (token : String) : Option Json :=
  if token == "true" then some (.bool true)
  else if token == "false" then some (.bool false)
  else match unquoted? token.toList with
    | some inner => some (.str (String.ofList inner))
    | none =>
      match Number.readInteger token, Number.readDouble token with
      | .ok n, _ => some (.int n)
      | .error _, .ok x => some (.float x)
      | .error _, .error _ => none

/-! ## Variables -/

/-- The variables of a story and their values, in the order of their declaration. -/
abbrev Variables := List (Json × Json)

/-- A name with numbers of all kinds brought to one form. -/
def plainName : Json → Json
  | .bool b => .int (if b then 1 else 0)
  | .float x => if x.isWhole then .int (x.truncate?.getD 0) else .float x
  | name => name

/-- Whether two names are the same. -/
def sameName (a b : Json) : Bool := plainName a == plainName b

namespace Variables

/-- The value of a variable. -/
def get? (bindings : Variables) (name : String) : Option Json :=
  (bindings.find? fun p => sameName p.1 (.str name)).map (·.2)

/-- A variable set where it stands, or declared at the end. -/
def put : Variables → Json → Json → Variables
  | [], name, value => [(name, value)]
  | (n, v) :: rest, name, value =>
    if sameName n name then (n, value) :: rest else (n, v) :: put rest name value

/-- The text of a name as the key of an object. -/
def keyText : Json → String
  | .str s => s
  | name => name.text .ascii

/-- The variables as an object. -/
def toJson (bindings : Variables) : Json :=
  .obj (bindings.map fun p => (keyText p.1, p.2))

/-- The variables that the members of an object are. -/
def ofFields (fields : Fields) : Variables := fields.map fun p => (.str p.1, p.2)

/-- The cells of an element of a list of pairs. -/
def cells (position : Nat) (v : Json) : Except Fault (List Json) :=
  match v.parts with
  | .ok cells => .ok cells
  | .error _ => .error (.misuse (.notPair position))

/-- The variables in a list of pairs, the last value of a name winning. -/
def ofPairs : Nat → Variables → List Json → Except Fault Variables
  | _, bindings, [] => .ok bindings
  | position, bindings, v :: rest => do
    match ← cells position v with
    | [name, value] =>
      match name.kind with
      | .arr | .obj => .error (.misuse (.unhashable name.kind))
      | _ => ofPairs (position + 1) (bindings.put name value) rest
    | row => .error (.pairLength position row.length)

/-- The variables of a saved state: the members of an object, or a list of pairs. -/
def ofJson : Json → Except Fault Variables
  | .obj fields => .ok (ofFields fields)
  | v => do ofPairs 0 [] (← v.parts)

end Variables

/-! ## Arithmetic -/

/-- The number that a value is in arithmetic: a whole number or a double. -/
def numeral? : Json → Option (Int ⊕ Binary64)
  | .bool b => some (.inl (if b then 1 else 0))
  | .int n => some (.inl n)
  | .float x => some (.inr x)
  | _ => none

/-- An operation on whole numbers or, if one operand is a double, on doubles. -/
def onNumbers (whole : Int → Int → Int) (real : Binary64 → Binary64 → Binary64) :
    Int ⊕ Binary64 → Int ⊕ Binary64 → Except Fault Json
  | .inl a, .inl b => .ok (.int (whole a b))
  | .inl a, .inr y => do return .float (real (← toDouble a) y)
  | .inr x, .inl b => do return .float (real x (← toDouble b))
  | .inr x, .inr y => .ok (.float (real x y))

/-- The sum of numbers, or texts or arrays joined. -/
def add (a b : Json) : Except Fault Json :=
  match numeral? a, numeral? b with
  | some x, some y => onNumbers (· + ·) Binary64.add x y
  | _, _ =>
    match a, b with
    | .str s, .str t => .ok (.str (s ++ t))
    | .arr s, .arr t => .ok (.arr (s ++ t))
    | .str _, _ | .arr _, _ => .error (.misuse (.notAppendable a.kind b.kind))
    | _, _ => .error (.misuse (.noOperator "+" a.kind b.kind))

def sub (a b : Json) : Except Fault Json :=
  match numeral? a, numeral? b with
  | some x, some y => onNumbers (· - ·) Binary64.sub x y
  | _, _ => .error (.misuse (.noOperator "-" a.kind b.kind))

/-- Twice a number, or a text or an array two times. -/
def double (a : Json) : Except Fault Json :=
  match numeral? a with
  | some x => onNumbers (· * ·) Binary64.mul x (.inl 2)
  | none =>
    match a with
    | .str s => .ok (.str (s ++ s))
    | .arr items => .ok (.arr (items ++ items))
    | _ => .error (.misuse (.noOperator "*" a.kind .int))

/-! ## Functions -/

/-- A function with named parameters, called with a list of arguments. -/
def called (name : String) (parameters : List String) (arguments : List Json)
    (body : List Json → Except Fault Outcome) : Except Fault Outcome :=
  if arguments.length = parameters.length then body arguments
  else .error (.misuse (.argumentCount name parameters arguments.length))

/-- The functions of stories by their names.  What they answer depends on nothing but their
arguments. -/
abbrev Functions := String → Option (List Json → Except Fault Outcome)

/-- Functions to rehearse stories with. -/
def Functions.sample : Functions
  | "double" => some fun arguments => called "double" ["x"] arguments fun
    | [x] => .value <$> double x
    | _ => .ok (.value .null)
  | "add" => some fun arguments => called "add" ["a", "b"] arguments fun
    | [a, b] => .value <$> add a b
    | _ => .ok (.value .null)
  | "boom" => some fun arguments => called "boom" [] arguments fun _ => .error .boom
  | "nothing" => some fun arguments => called "nothing" [] arguments fun _ => .ok (.value .null)
  | "echo" => some fun arguments => .ok (.value (.arr arguments))
  | "opaque" => some fun arguments => called "opaque" [] arguments fun _ => .ok .opaqueThing
  | _ => none

/-- What a function answers, if there is one with the name. -/
def Functions.call (functions : Functions) (name : String) (arguments : List Json) :
    Except Fault Outcome :=
  match functions name with
  | some function => function arguments
  | none => .error (.story (.noFunction name))

end Ink

end StoryServer
