import StoryServer.Json.Basic
import StoryServer.Number.Literal

/-!
# Reading JSON text

The grammar of RFC 8259.  A `Dialect` may add three words, `NaN`, `Infinity` and
`-Infinity`, may bound the digits of whole numbers, and may have room for so many levels of
arrays and objects only.  The reader takes the first error from the left and tells its
place in characters, lines and columns.

Each function takes the rest of the text together with its position in the whole, and
returns what it read with the new rest.  The recursion is bounded by a budget that
`Json.parseAll` sets to twice the length of the text, more than any text can use.

*Surrogates.*  An escape may stand for half of a surrogate pair.  Without the other half it
is no character; it is read as the replacement character.
-/

namespace StoryServer

namespace Json

/-- What a reader takes. -/
structure Dialect where
  /-- Whether there are words for doubles that are not finite. -/
  nonFinite : Bool
  /-- Whether the digits of a whole number are bounded. -/
  bounded : Bool
  /-- For how many levels of arrays and objects there is room; none when there is always
  more. -/
  room : Option Nat := none
  deriving DecidableEq, Repr

/-- What clients and story processes may send. -/
def Dialect.lenient : Dialect := { nonFinite := true, bounded := true }

/-- JSON by the letter of its standard. -/
def Dialect.standard : Dialect := { nonFinite := false, bounded := false }

/-- What clients and story processes may send, when there is room for so many levels. -/
def Dialect.within (room : Nat) : Dialect := { Dialect.lenient with room := some room }

/-- The dialect inside an array or an object, if there is room for one. -/
def Dialect.inner? (d : Dialect) : Option Dialect :=
  match d.room with
  | none => some d
  | some 0 => none
  | some (n + 1) => some { d with room := some n }

/-- What is wrong at a place of a text. -/
inductive Complaint where
  | value
  /-- A member does not begin with a quoted key. -/
  | propertyName
  | colon
  /-- No comma or closing bracket after an item. -/
  | comma
  | extraData
  /-- A text without a closing quote; the place is its opening quote. -/
  | unterminated
  /-- A control character inside a text. -/
  | controlCharacter
  | escape
  /-- A `\u` without four hexadecimal digits. -/
  | unicodeEscape
  /-- A byte order mark in front of decoded text. -/
  | byteOrderMark
  deriving DecidableEq, Repr

/-- The words for a complaint. -/
def Complaint.message : Complaint → String
  | .value => "Expecting value"
  | .propertyName => "Expecting property name enclosed in double quotes"
  | .colon => "Expecting ':' delimiter"
  | .comma => "Expecting ',' delimiter"
  | .extraData => "Extra data"
  | .unterminated => "Unterminated string starting at"
  | .controlCharacter => "Invalid control character at"
  | .escape => "Invalid \\escape"
  | .unicodeEscape => "Invalid \\uXXXX escape"
  | .byteOrderMark => "Unexpected UTF-8 BOM (decode using utf-8-sig)"

/-- Why a text is no JSON value. -/
inductive ReadDefect where
  /-- A complaint at a position of the text. -/
  | syntaxAt (complaint : Complaint) (position : Nat)
  /-- A whole number that is too long to be read. -/
  | number (defect : NumberDefect)
  /-- An array or an object for which there is no room. -/
  | tooDeep (kind : Kind)
  deriving DecidableEq, Repr

/-- A complaint with its line, column and position in a text. -/
def placed (text : List Char) (complaint : Complaint) (position : Nat) : String :=
  let before := text.take position
  let line := before.count '\n' + 1
  let column := (before.reverse.takeWhile (· != '\n')).length + 1
  s!"{complaint.message}: line {line} column {column} (char {position})"

/-- The rest of a text and its position in the whole. -/
structure Rest where
  chars : List Char
  position : Nat

/-- The rest after `n` characters. -/
def Rest.drop (r : Rest) (n : Nat) : Rest := ⟨r.chars.drop n, r.position + n⟩

/-- A complaint about the place where the rest begins. -/
def Rest.complain {α : Type} (r : Rest) (c : Complaint) : Except ReadDefect (α × Rest) :=
  .error (.syntaxAt c r.position)

/-! ## White space -/

def isSpace (c : Char) : Bool := c == ' ' || c == '\t' || c == '\n' || c == '\r'

/-- The rest after white space. -/
def Rest.skip (r : Rest) : Rest := r.drop (r.chars.takeWhile isSpace).length

/-! ## Texts -/

/-- The value of a hexadecimal digit. -/
def hexDigit? (c : Char) : Option Nat :=
  if '0' ≤ c ∧ c ≤ '9' then some (c.toNat - 48)
  else if 'a' ≤ c ∧ c ≤ 'f' then some (c.toNat - 87)
  else if 'A' ≤ c ∧ c ≤ 'F' then some (c.toNat - 55)
  else none

/-- The value of four hexadecimal digits at the start of a text that goes on after
them. -/
def hex4? : List Char → Option Nat
  | a :: b :: c :: d :: _ :: _ => do
    let a ← hexDigit? a
    let b ← hexDigit? b
    let c ← hexDigit? c
    let d ← hexDigit? d
    pure (((a * 16 + b) * 16 + c) * 16 + d)
  | _ => none

/-- The character of a one-letter escape. -/
def escaped? : Char → Option Char
  | '"' => some '"'
  | '\\' => some '\\'
  | '/' => some '/'
  | 'b' => some '\x08'
  | 'f' => some '\x0c'
  | 'n' => some '\n'
  | 'r' => some '\r'
  | 't' => some '\t'
  | _ => none

/-- The second half of a surrogate pair: another `\u` escape that holds a low
surrogate.  The answer is none when no complete escape follows. -/
def lowSurrogate? (s : List Char) : Option (Option Nat) :=
  match s with
  | '\\' :: 'u' :: more =>
    if more.length < 5 then none
    else match hex4? more with
      | some n => if 0xDC00 ≤ n ∧ n ≤ 0xDFFF then some (some n) else none
      | none => some none
  | _ => none

/-- The inside of a text, up to and with its closing quote.  `start` is the position of
the opening quote, `acc` what was read, last character first.  A surrogate that has no
partner stands for no character and is read as the replacement character. -/
def stringFrom (start : Nat) : Nat → List Char → Nat → List Char → Except ReadDefect (String × Rest)
  | 0, _, _, _ => .error (.syntaxAt .unterminated start)
  | fuel + 1, s, pos, acc =>
    match s with
    | [] => .error (.syntaxAt .unterminated start)
    | '"' :: rest => .ok (String.ofList acc.reverse, ⟨rest, pos + 1⟩)
    | '\\' :: [] => .error (.syntaxAt .unterminated start)
    | '\\' :: 'u' :: more =>
      match hex4? more with
      | none => .error (.syntaxAt .unicodeEscape (pos + 1))
      | some n =>
        if 0xD800 ≤ n ∧ n ≤ 0xDBFF then
          match lowSurrogate? (more.drop 4) with
          | some (some low) =>
            let c := Char.ofNat (0x10000 + (n - 0xD800) * 0x400 + (low - 0xDC00))
            stringFrom start fuel (more.drop 10) (pos + 12) (c :: acc)
          | some none => .error (.syntaxAt .unicodeEscape (pos + 7))
          | none => stringFrom start fuel (more.drop 4) (pos + 6) ('\uFFFD' :: acc)
        else
          let c := if 0xDC00 ≤ n ∧ n ≤ 0xDFFF then '\uFFFD' else Char.ofNat n
          stringFrom start fuel (more.drop 4) (pos + 6) (c :: acc)
    | '\\' :: e :: more =>
      match escaped? e with
      | some c => stringFrom start fuel more (pos + 2) (c :: acc)
      | none => .error (.syntaxAt .escape pos)
    | c :: rest =>
      if c.toNat < 0x20 then .error (.syntaxAt .controlCharacter pos)
      else stringFrom start fuel rest (pos + 1) (c :: acc)

/-- A text whose opening quote has been read. -/
def readString (r : Rest) : Except ReadDefect (String × Rest) :=
  stringFrom (r.position - 1) (r.chars.length + 1) r.chars r.position []

/-! ## Numbers -/

/-- The digits of a fraction: a point and at least one digit, or nothing. -/
def fractionPart : List Char → List Char
  | '.' :: rest =>
    match rest.takeWhile isAsciiDigit with
    | [] => []
    | ds => '.' :: ds
  | _ => []

/-- The characters of an exponent: a letter, perhaps a sign, and at least one digit, or
nothing. -/
def exponentPart : List Char → List Char
  | c :: rest =>
    if c == 'e' || c == 'E' then
      let signed := match rest with
        | '+' :: more => (['+'], more)
        | '-' :: more => (['-'], more)
        | _ => ([], rest)
      match signed.2.takeWhile isAsciiDigit with
      | [] => []
      | ds => c :: (signed.1 ++ ds)
    else []
  | [] => []

/-- The whole part of a number: a zero, or digits that do not begin with one. -/
def wholePart : List Char → List Char
  | '0' :: _ => ['0']
  | s => s.takeWhile isAsciiDigit

/-- The whole number of digits with or without a minus. -/
def wholeNumber (negative : Bool) (ds : List Char) : Int :=
  let n := Number.ofDigits (ds.map fun d => d.toNat - 0x30)
  if negative then -(n : Int) else n

/-- A number: a sign, a whole part, and perhaps a fraction and an exponent, which make
it a double. -/
def readNumber (d : Dialect) (r : Rest) : Except ReadDefect (Json × Rest) :=
  let (minus, body) := match r.chars with
    | '-' :: rest => (['-'], rest)
    | s => ([], s)
  match wholePart body with
  | [] => r.complain .value
  | whole =>
    let afterWhole := body.drop whole.length
    let fraction := fractionPart afterWhole
    let exponent := exponentPart (afterWhole.drop fraction.length)
    let written := minus ++ whole ++ fraction ++ exponent
    let rest := r.drop written.length
    if fraction.isEmpty && exponent.isEmpty then
      if d.bounded && whole.length > digitLimit then .error (.number (.tooManyDigits whole.length))
      else .ok (.int (wholeNumber (!minus.isEmpty) whole), rest)
    else
      match Number.readDouble (String.ofList written) with
      | .ok x => .ok (.float x, rest)
      | .error d => .error (.number d)

/-! ## Values -/

/-- The words that stand for values. -/
def standardWords : List (List Char × Json) :=
  [("null".toList, .null), ("true".toList, .bool true), ("false".toList, .bool false)]

/-- The words for doubles that are not finite. -/
def nonFiniteWords : List (List Char × Json) :=
  [("NaN".toList, .float .nan), ("Infinity".toList, .float (.infinite false)),
    ("-Infinity".toList, .float (.infinite true))]

/-- The words of a dialect. -/
def words (d : Dialect) : List (List Char × Json) :=
  if d.nonFinite then standardWords ++ nonFiniteWords else standardWords

/-- A word at the start of the rest. -/
def word? (d : Dialect) (r : Rest) : Option (Json × Rest) :=
  ((words d).find? fun w => w.1.isPrefixOf r.chars).map fun w => (w.2, r.drop w.1.length)

mutual

def readValue (d : Dialect) : Nat → Rest → Except ReadDefect (Json × Rest)
  | 0, r => r.complain .value
  | fuel + 1, r =>
    match r.chars with
    | '"' :: _ => do
      let (s, rest) ← readString (r.drop 1)
      pure (.str s, rest)
    | '[' :: _ =>
      match d.inner? with
      | none => .error (.tooDeep .arr)
      | some d =>
        let inside := (r.drop 1).skip
        match inside.chars with
        | ']' :: _ => .ok (.arr [], inside.drop 1)
        | _ => do
          let (items, rest) ← readItems d fuel inside
          pure (.arr items, rest)
    | '{' :: _ =>
      match d.inner? with
      | none => .error (.tooDeep .obj)
      | some d =>
        let inside := (r.drop 1).skip
        match inside.chars with
        | '}' :: _ => .ok (.obj [], inside.drop 1)
        | _ => do
          let (pairs, rest) ← readMembers d fuel inside
          pure (.obj (Fields.ofPairs pairs), rest)
    | _ =>
      match word? d r with
      | some found => .ok found
      | none => readNumber d r

/-- The items of an array, at least one, and its closing bracket. -/
def readItems (d : Dialect) : Nat → Rest → Except ReadDefect (List Json × Rest)
  | 0, r => r.complain .value
  | fuel + 1, r => do
    let (item, rest) ← readValue d fuel r
    let next := rest.skip
    match next.chars with
    | ']' :: _ => pure ([item], next.drop 1)
    | ',' :: _ => do
      let (items, rest) ← readItems d fuel (next.drop 1).skip
      pure (item :: items, rest)
    | _ => next.complain .comma

/-- The members of an object, at least one, and its closing bracket. -/
def readMembers (d : Dialect) : Nat → Rest → Except ReadDefect (List (String × Json) × Rest)
  | 0, r => r.complain .value
  | fuel + 1, r =>
    match r.chars with
    | '"' :: _ => do
      let (key, rest) ← readString (r.drop 1)
      let colon := rest.skip
      match colon.chars with
      | ':' :: _ => do
        let (value, rest) ← readValue d fuel (colon.drop 1).skip
        let next := rest.skip
        match next.chars with
        | '}' :: _ => pure ([(key, value)], next.drop 1)
        | ',' :: _ => do
          let (members, rest) ← readMembers d fuel (next.drop 1).skip
          pure ((key, value) :: members, rest)
        | _ => next.complain .comma
      | _ => colon.complain .colon
    | _ => r.complain .propertyName

end

/-- The value that characters hold in a dialect, and nothing else. -/
def parseAll (d : Dialect) (s : List Char) : Except ReadDefect Json := do
  let (v, rest) ← readValue d (2 * s.length + 2) (Rest.skip ⟨s, 0⟩)
  let tail := rest.skip
  match tail.chars with
  | [] => pure v
  | _ => .error (.syntaxAt .extraData tail.position)

/-- The value that a text holds in a dialect.  A byte order mark belongs to octets and has
no place in a text. -/
def parseText (d : Dialect) (text : String) : Except ReadDefect Json :=
  match text.toList with
  | '\uFEFF' :: _ => .error (.syntaxAt .byteOrderMark 0)
  | s => parseAll d s

/-- The value that a text holds. -/
def parse (text : String) : Except ReadDefect Json := parseText .lenient text

end Json

end StoryServer
