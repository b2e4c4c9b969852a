import StoryServer.Json.Printer

/-!
# Values in a story process

A story process has one kind of number, the double, and keeps the members of an object in
an order of its own: first the keys that are indices, by index, then the others as they
came.  `Json.settled` gives a value that form.

Where a process needs a text and has another value, it spells the value out:
`Json.spelled?`.  A value that is an object can be spelled only when it does not bring a
member of the name by which spelling is looked up.
-/

namespace StoryServer

namespace Json

/-! ## Settled values -/

/-- How many indices there are. -/
def indexLimit : Nat := Nat.pow 2 32 - 1

/-- The index that a key is, if it is one: a number as it is written, with no digit too many. -/
def indexKey? (key : String) : Option Nat :=
  let n := Nat.ofDigitChars 10 key.toList 0
  if n < indexLimit && n.repr == key then some n else none

theorem indexKey?_repr {n : Nat} (hn : n < indexLimit) : indexKey? n.repr = some n := by
  have hdigits : n.repr.toList = Nat.toDigits 10 n := String.toList_ofList
  rw [indexKey?, hdigits, Nat.ofDigitChars_ten_toDigits]
  simp [hn]

/-- Members with those whose keys are indices before all others. -/
def indexFirst {α : Type} (fields : List (String × α)) : List (String × α) :=
  let indexed := fields.filterMap fun p => (indexKey? p.1).map fun n => (n, p)
  (indexed.mergeSort fun a b => decide (a.1 ≤ b.1)).map (·.2)
    ++ fields.filter fun p => (indexKey? p.1).isNone

mutual

/-- A value as a story process has it. -/
def settled : Json → Json
  | .int n => .float (Binary64.ofInt n)
  | .arr items => .arr (settledItems items)
  | .obj fields => .obj (indexFirst (settledFields fields))
  | v => v

/-- The items of an array. -/
def settledItems : List Json → List Json
  | [] => []
  | v :: rest => settled v :: settledItems rest

/-- The members of an object, in the order they came. -/
def settledFields : List (String × Json) → List (String × Json)
  | [] => []
  | (k, v) :: rest => (k, settled v) :: settledFields rest

end

/-- Whether a value counts as true in a story process: arrays and objects always do. -/
def counts : Json → Bool
  | .null => false
  | .bool b => b
  | .int n => n != 0
  | .float x => !(x.isZero || decide (x = .nan))
  | .str s => !s.isEmpty
  | .arr _ | .obj _ => true

/-- A value that may be absent, or an empty array in the place of one that does not
count. -/
def orEmpty (v : Option Json) : Json := (v.filter counts).getD (.arr [])

/-! ## Spelling -/

/-- Numbers spelled out: the fewest digits, no point in whole numbers, and an exponent
from `1e+21` on and below `0.000001`. -/
def spelledLayout : Layout where
  positionalFrom := -6
  positionalBelow := 21
  keepPoint := false
  exponentDigits := 1
  signedZero := false
  nan := "NaN"
  infinity := "Infinity"

/-- The name by which the spelling of an object is looked up. -/
def spellingName : String := "toString"

mutual

/-- A value as a text. -/
def spelled? : Json → Option String
  | .null => some "null"
  | .bool true => some "true"
  | .bool false => some "false"
  | .int n => some (String.ofList (intChars n))
  | .float x => some (String.ofList (spelledLayout.text x))
  | .str s => some s
  | .arr items => (spelledItems? items).map (",".intercalate ·)
  | .obj fields => if Fields.has fields spellingName then none else some "[object Object]"

/-- The items of an array as texts; null is an empty one. -/
def spelledItems? : List Json → Option (List String)
  | [] => some []
  | .null :: rest => (spelledItems? rest).map ("" :: ·)
  | v :: rest => do return (← spelled? v) :: (← spelledItems? rest)

end

/-- A value that may be absent as a text. -/
def spelledOrAbsent? : Option Json → Option String
  | some v => spelled? v
  | none => some "undefined"

/-! ## Levels -/

mutual

/-- How many arrays are nested in a value, one in another. -/
def arrayLevels : Json → Nat
  | .arr items => arrayLevelsIn items + 1
  | _ => 0

/-- How many arrays are nested in the items of an array. -/
def arrayLevelsIn : List Json → Nat
  | [] => 0
  | v :: rest => max (arrayLevels v) (arrayLevelsIn rest)

end

mutual

/-- How many arrays and objects are nested in a value, one in another. -/
def levels : Json → Nat
  | .arr items => levelsIn items + 1
  | .obj fields => levelsAmong fields + 1
  | _ => 0

/-- How many arrays and objects are nested in the items of an array. -/
def levelsIn : List Json → Nat
  | [] => 0
  | v :: rest => max (levels v) (levelsIn rest)

/-- How many arrays and objects are nested in the members of an object. -/
def levelsAmong : List (String × Json) → Nat
  | [] => 0
  | (_, v) :: rest => max (levels v) (levelsAmong rest)

end

/-! ## Answers of a process -/

/-- How a story process writes: no spaces, all characters as they are, and null for a
number that is not finite. -/
def terse : JsonStyle where
  itemSeparator := ","
  keySeparator := ":"
  layout := { spelledLayout with nan := "null", infinity := "null", negativeInfinity := "null" }

/-- An object of those members that are present. -/
def present (members : List (String × Option Json)) : Json :=
  .obj (members.filterMap fun p => p.2.map fun v => (p.1, v))

example : text terse (.obj [("a", .float (.ofInt 100)), ("b", .float .nan)])
    = "\x7b\"a\":100,\"b\":null\x7d" := by decide +kernel

end Json

end StoryServer
