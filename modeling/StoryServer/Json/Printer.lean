import StoryServer.Json.Basic
import StoryServer.Number.Decimal
import StoryServer.Number.Literal

/-!
# JSON text of a value

`Json.chars` writes a value in a `Style`: what separates items, whether characters
outside ASCII are escaped, whether members are sorted by key, and how a double looks.
It always has an answer.  A style may refuse numbers that have no place in its format;
`Json.defect?` finds the first such number in writing order, and `Json.write` is the two
together.
-/

namespace StoryServer

namespace Json

/-- Doubles in JSON: the fewest digits, a point in whole numbers, and an exponent from
`1e+16` on and below `0.0001`. -/
def floatLayout : Layout where
  positionalFrom := -4
  positionalBelow := 16
  keepPoint := true
  exponentDigits := 2
  signedZero := true
  nan := "NaN"
  infinity := "Infinity"

end Json

/-- A way to write JSON. -/
structure JsonStyle where
  /-- What stands between two items or members. -/
  itemSeparator : String := ", "
  /-- What stands between a key and its value. -/
  keySeparator : String := ": "
  /-- Whether characters outside printable ASCII are escaped. -/
  asciiOnly : Bool := false
  /-- Whether the members of objects are sorted by key. -/
  sorted : Bool := false
  /-- Whether infinities and not-a-number may be written. -/
  nonFinite : Bool := true
  layout : Layout := Json.floatLayout

namespace JsonStyle

/-- Spaced text with all characters as they are: tool results and messages. -/
def spaced : JsonStyle := {}

/-- Spaced text in ASCII: commands to a story process and saved states. -/
def ascii : JsonStyle := { asciiOnly := true }

/-- Text without spaces and without numbers that are not finite: bodies of responses. -/
def compact : JsonStyle := { itemSeparator := ",", keySeparator := ":", nonFinite := false }

/-- ASCII text with sorted members: equal for values that differ in member order only. -/
def canonical : JsonStyle := { asciiOnly := true, sorted := true }

end JsonStyle

namespace Json

/-! ## Texts -/

/-- Four hexadecimal digits after `\u`. -/
def unicodeEscape (n : Nat) : List Char := '\\' :: 'u' :: Text.hex 4 n

/-- A code point as one or two escaped UTF-16 units. -/
def utf16Escape (n : Nat) : List Char :=
  if n < 0x10000 then unicodeEscape n
  else
    let m := n - 0x10000
    unicodeEscape (0xD800 + m / 0x400) ++ unicodeEscape (0xDC00 + m % 0x400)

/-- One character of a text. -/
def charText (asciiOnly : Bool) (c : Char) : List Char :=
  match c with
  | '"' => ['\\', '"']
  | '\\' => ['\\', '\\']
  | '\n' => ['\\', 'n']
  | '\r' => ['\\', 'r']
  | '\t' => ['\\', 't']
  | '\x0c' => ['\\', 'f']
  | '\x08' => ['\\', 'b']
  | c =>
    if c.toNat < 0x20 then unicodeEscape c.toNat
    else if asciiOnly && (c.toNat > 0x7E) then utf16Escape c.toNat
    else [c]

/-- A text in double quotes. -/
def stringChars (asciiOnly : Bool) (s : String) : List Char :=
  '"' :: (s.toList.flatMap (charText asciiOnly) ++ ['"'])

/-! ## Numbers -/

def intChars (n : Int) : List Char :=
  let ds := Nat.toDigits 10 n.natAbs
  if n < 0 then '-' :: ds else ds

/-! ## Values -/

/-- Members sorted by key; the keys of an object are distinct. -/
def sortFields {α : Type} (fields : List (String × α)) : List (String × α) :=
  fields.mergeSort fun a b => decide (a.1 ≤ b.1)

/-- Written items with a separator between them. -/
def joinChars (sep : List Char) : List (List Char) → List Char
  | [] => []
  | [x] => x
  | x :: rest => x ++ sep ++ joinChars sep rest

mutual

/-- The characters of a value. -/
def chars (style : JsonStyle) : Json → List Char
  | .null => "null".toList
  | .bool true => "true".toList
  | .bool false => "false".toList
  | .int n => intChars n
  | .float x => style.layout.text x
  | .str s => stringChars style.asciiOnly s
  | .arr items => '[' :: (joinChars style.itemSeparator.toList (itemsChars style items) ++ [']'])
  | .obj fields =>
    let written := fieldsChars style fields
    let members := (if style.sorted then sortFields written else written).map (·.2)
    '{' :: (joinChars style.itemSeparator.toList members ++ ['}'])

/-- The characters of each item. -/
def itemsChars (style : JsonStyle) : List Json → List (List Char)
  | [] => []
  | x :: rest => chars style x :: itemsChars style rest

/-- The key of each member and the characters of the member. -/
def fieldsChars (style : JsonStyle) : List (String × Json) → List (String × List Char)
  | [] => []
  | (k, v) :: rest =>
    (k, stringChars style.asciiOnly k ++ style.keySeparator.toList ++ chars style v)
      :: fieldsChars style rest

end

theorem itemsChars_eq (style : JsonStyle) (items : List Json) :
    itemsChars style items = items.map (chars style) := by
  induction items with
  | nil => rfl
  | cons v rest ih => rw [itemsChars, ih, List.map_cons]

/-- The characters of a member. -/
def memberChars (style : JsonStyle) (p : String × Json) : List Char :=
  stringChars style.asciiOnly p.1 ++ style.keySeparator.toList ++ chars style p.2

theorem fieldsChars_eq (style : JsonStyle) (fields : Fields) :
    fieldsChars style fields = fields.map fun p => (p.1, memberChars style p) := by
  induction fields with
  | nil => rfl
  | cons p rest ih => rw [fieldsChars, ih, List.map_cons, memberChars]

/-- The text of a value. -/
def text (style : JsonStyle) (v : Json) : String := String.ofList (chars style v)

/-! ## Refused numbers -/

/-- Why a value cannot be written. -/
inductive WriteDefect where
  /-- A whole number has too many digits. -/
  | tooLong
  /-- A double is infinite or not a number and the style has no text for it. -/
  | notFinite
  deriving DecidableEq, Repr

mutual

/-- The first number, in the order of the value, that the style cannot write. -/
def defect? (style : JsonStyle) : Json → Option WriteDefect
  | .int n => if (Nat.toDigits 10 n.natAbs).length > digitLimit then some .tooLong else none
  | .float (.finite ..) => none
  | .float _ => if style.nonFinite then none else some .notFinite
  | .arr items => itemsDefect? style items
  | .obj fields => fieldsDefect? style fields
  | _ => none

/-- The first refused number among items. -/
def itemsDefect? (style : JsonStyle) : List Json → Option WriteDefect
  | [] => none
  | x :: rest => (defect? style x).or (itemsDefect? style rest)

/-- The first refused number among members. -/
def fieldsDefect? (style : JsonStyle) : List (String × Json) → Option WriteDefect
  | [] => none
  | (_, v) :: rest => (defect? style v).or (fieldsDefect? style rest)

end

theorem itemsDefect?_eq_none {style : JsonStyle} {items : List Json} :
    itemsDefect? style items = none ↔ ∀ v ∈ items, defect? style v = none := by
  induction items with
  | nil => simp [itemsDefect?]
  | cons v rest ih => simp [itemsDefect?, ih]

theorem fieldsDefect?_eq_none {style : JsonStyle} {fields : Fields} :
    fieldsDefect? style fields = none ↔ ∀ p ∈ fields, defect? style p.2 = none := by
  induction fields with
  | nil => simp [fieldsDefect?]
  | cons p rest ih => simp [fieldsDefect?, ih]

/-- The text of a value, unless the style refuses one of its numbers. -/
def write (style : JsonStyle) (v : Json) : Except WriteDefect String :=
  match defect? style v with
  | some d => .error d
  | none => .ok (text style v)

example : text .spaced (.obj [("a", .arr [.int 1, .float (.ofInt 1)]), ("é", .null)])
    = "\x7b\"a\": [1, 1.0], \"é\": null\x7d" := by decide +kernel

end Json

end StoryServer
