import StoryServer.Json.Reader

/-!
# Flaws of a text that should be JSON

A story process reads JSON by the letter of its standard.  When a text is no JSON it names
the first flaw from the left, and shows either the place or the text around it.
`Flaw.find?` finds the flaw: it follows the text token by token, with a stack of the
brackets that are open.

Places are counted in UTF-16 code units, of which a character takes one or two.  A part
of a text that begins or ends inside a character shows the replacement character there.
-/

namespace StoryServer

namespace Json

/-- What is not where it should be. -/
inductive Mistake where
  /-- The first member of an object does not begin with a quoted key. -/
  | firstKey
  /-- A later member does not begin with a quoted key. -/
  | key
  | colon
  /-- No comma or bracket after an item. -/
  | itemEnd
  /-- No comma or bracket after a member. -/
  | memberEnd
  /-- A text without a closing quote. -/
  | unterminated
  /-- A control character inside a text. -/
  | controlCharacter
  | escape
  /-- An escape by number without four hexadecimal digits. -/
  | unicodeEscape
  | minus
  | fraction
  | exponent
  | number
  | text
  | extra
  deriving DecidableEq, Repr

/-- The words for a mistake. -/
def Mistake.words : Mistake → String
  | .firstKey => "Expected property name or '\x7d' in JSON"
  | .key => "Expected double-quoted property name in JSON"
  | .colon => "Expected ':' after property name in JSON"
  | .itemEnd => "Expected ',' or ']' after array element in JSON"
  | .memberEnd => "Expected ',' or '\x7d' after property value in JSON"
  | .unterminated => "Unterminated string in JSON"
  | .controlCharacter => "Bad control character in string literal in JSON"
  | .escape => "Bad escaped character in JSON"
  | .unicodeEscape => "Bad Unicode escape in JSON"
  | .minus => "No number after minus sign in JSON"
  | .fraction => "Unterminated fractional number in JSON"
  | .exponent => "Exponent part is missing a number in JSON"
  | .number => "Unexpected number in JSON"
  | .text => "Unexpected string in JSON"
  | .extra => "Unexpected non-whitespace character after JSON"

/-- The first flaw of a text; positions count characters. -/
inductive Flaw where
  | ended
  | stray (position : Nat)
  | mistake (m : Mistake) (position : Nat)
  deriving DecidableEq, Repr

namespace Flaw

/-! ## Tokens -/

/-- A mistake at the place where a rest begins. -/
def here {α : Type} (m : Mistake) (r : Rest) : Except Flaw α := .error (.mistake m r.position)

/-- The flaw of a character that begins the wrong token. -/
def ofToken (c : Char) (position : Nat) : Flaw :=
  if isAsciiDigit c || c == '-' then .mistake .number position
  else if c == '"' then .mistake .text position
  else .stray position

/-- The rest after a text whose opening quote has been read.  `n` bounds how many of its
characters and escapes are read. -/
def afterText : Nat → List Char → Nat → Except Flaw Rest
  | 0, _, pos => .error (.mistake .unterminated pos)
  | n + 1, s, pos =>
    match s with
    | [] => .error (.mistake .unterminated pos)
    | '"' :: rest => .ok ⟨rest, pos + 1⟩
    | '\\' :: [] => .error .ended
    | '\\' :: 'u' :: more =>
      let digits := ((more.take 4).takeWhile fun c => (hexDigit? c).isSome).length
      if digits = 4 then afterText n (more.drop 4) (pos + 6)
      else .error (.mistake .unicodeEscape (pos + 2 + digits))
    | '\\' :: e :: more =>
      if (escaped? e).isSome then afterText n more (pos + 2)
      else if e.toNat > 0xFF then .error (.stray (pos + 1))
      else .error (.mistake .escape (pos + 1))
    | c :: rest =>
      if c.toNat < 0x20 then .error (.mistake .controlCharacter pos)
      else afterText n rest (pos + 1)

/-- The rest after a text, its opening quote included. -/
def skipText (r : Rest) : Except Flaw Rest :=
  afterText r.chars.length (r.chars.drop 1) (r.position + 1)

def skipDigits (r : Rest) : Rest := r.drop (r.chars.takeWhile isAsciiDigit).length

/-- The rest after digits of which there must be one. -/
def needDigits (m : Mistake) (r : Rest) : Except Flaw Rest :=
  match r.chars with
  | c :: _ => if isAsciiDigit c then .ok (skipDigits r) else here m r
  | [] => here m r

/-- The rest after a fraction, if there is one. -/
def skipFraction (r : Rest) : Except Flaw Rest :=
  match r.chars with
  | '.' :: _ => needDigits .fraction (r.drop 1)
  | _ => .ok r

/-- The rest after a sign, if there is one. -/
def skipSign (r : Rest) : Rest :=
  match r.chars with
  | '+' :: _ | '-' :: _ => r.drop 1
  | _ => r

/-- The rest after an exponent, if there is one. -/
def skipExponent (r : Rest) : Except Flaw Rest :=
  match r.chars with
  | 'e' :: _ | 'E' :: _ => needDigits .exponent (skipSign (r.drop 1))
  | _ => .ok r

/-- The rest after a whole part.  No digit may follow a zero. -/
def skipWhole (r : Rest) : Except Flaw Rest :=
  match r.chars with
  | '0' :: d :: _ => if isAsciiDigit d then here .number (r.drop 1) else .ok (r.drop 1)
  | _ => needDigits .minus r

/-- The rest after a number. -/
def skipNumber (r : Rest) : Except Flaw Rest := do
  let body := match r.chars with
    | '-' :: _ => r.drop 1
    | _ => r
  skipExponent (← skipFraction (← skipWhole body))

/-- The rest after a word, of which the rest must begin with every letter. -/
def skipWord : List Char → Rest → Except Flaw Rest
  | [], r => .ok r
  | w :: word, r =>
    match r.chars with
    | [] => .error .ended
    | c :: _ => if c == w then skipWord word (r.drop 1) else .error (ofToken c r.position)

/-! ## The text as a whole -/

/-- An open bracket. -/
inductive Bracket where
  | array
  | object
  deriving DecidableEq, Repr

/-- What comes next. -/
inductive Place where
  | value
  /-- A key, with what is wrong when there is none. -/
  | key (m : Mistake)
  | colon
  | after
  deriving DecidableEq, Repr

/-- The first step into a value: where the text stands then. -/
def enter (opened : List Bracket) (r : Rest) : Except Flaw (Place × List Bracket × Rest) :=
  let whole (rest : Except Flaw Rest) : Except Flaw (Place × List Bracket × Rest) := do
    return (.after, opened, ← rest)
  match r.chars with
  | [] => .error .ended
  | '"' :: _ => whole (skipText r)
  | '[' :: _ =>
    let inside := (r.drop 1).skip
    match inside.chars with
    | ']' :: _ => .ok (.after, opened, inside.drop 1)
    | _ => .ok (.value, .array :: opened, inside)
  | '{' :: _ =>
    let inside := (r.drop 1).skip
    match inside.chars with
    | '}' :: _ => .ok (.after, opened, inside.drop 1)
    | _ => .ok (.key .firstKey, .object :: opened, inside)
  | 't' :: _ => whole (skipWord "true".toList r)
  | 'f' :: _ => whole (skipWord "false".toList r)
  | 'n' :: _ => whole (skipWord "null".toList r)
  | c :: _ =>
    if isAsciiDigit c || c == '-' then whole (skipNumber r) else .error (.stray r.position)

/-- The step after a value inside brackets. -/
def leave (bracket : Bracket) (outer : List Bracket) (r : Rest) :
    Except Flaw (Place × List Bracket × Rest) :=
  match bracket, r.chars with
  | .array, ',' :: _ => .ok (.value, .array :: outer, r.drop 1)
  | .array, ']' :: _ => .ok (.after, outer, r.drop 1)
  | .array, _ => here .itemEnd r
  | .object, ',' :: _ => .ok (.key .key, .object :: outer, r.drop 1)
  | .object, '}' :: _ => .ok (.after, outer, r.drop 1)
  | .object, _ => here .memberEnd r

/-- One step through a text; none when it is at its end. -/
def step (place : Place) (opened : List Bracket) (r : Rest) :
    Except Flaw (Option (Place × List Bracket × Rest)) :=
  match place, opened, r.chars with
  | .value, _, _ => some <$> enter opened r
  | .key _, _, '"' :: _ => do return some (.colon, opened, ← skipText r)
  | .key m, _, _ => here m r
  | .colon, _, ':' :: _ => .ok (some (.value, opened, r.drop 1))
  | .colon, _, _ => here .colon r
  | .after, [], [] => .ok none
  | .after, [], _ => here .extra r
  | .after, bracket :: outer, _ => some <$> leave bracket outer r

/-- The first flaw in at most `n` steps from a place on. -/
def findFrom : Nat → Place → List Bracket → Rest → Option Flaw
  | 0, _, _, _ => none
  | n + 1, place, opened, r =>
    match step place opened r.skip with
    | .error f => some f
    | .ok none => none
    | .ok (some (place, opened, rest)) => findFrom n place opened rest

/-- The first flaw of a text, if it has one.  Every step reads a character. -/
def find? (s : List Char) : Option Flaw := findFrom (s.length + 1) .value [] ⟨s, 0⟩

/-! ## Words -/

/-- Whether a character takes two code units. -/
def isWide (c : Char) : Bool := c.toNat ≥ 0x10000

/-- The code units of a text: a character, and nothing for the second unit of one that
takes two. -/
def units (s : List Char) : List (Option Char) :=
  s.flatMap fun c => if isWide c then [some c, none] else [some c]

/-- The text of code units. -/
def ofUnits : List (Option Char) → List Char
  | some c :: none :: rest => c :: ofUnits rest
  | some c :: rest => (if isWide c then '\uFFFD' else c) :: ofUnits rest
  | none :: rest => '\uFFFD' :: ofUnits rest
  | [] => []

/-- The line and the column after a text.  A line ends at a line feed, at a carriage
return, or at both together. -/
def lineAndColumn : List Char → Nat → Nat → Nat × Nat
  | '\r' :: '\n' :: rest, line, _ => lineAndColumn rest (line + 1) 1
  | '\r' :: rest, line, _ => lineAndColumn rest (line + 1) 1
  | '\n' :: rest, line, _ => lineAndColumn rest (line + 1) 1
  | c :: rest, line, column => lineAndColumn rest line (column + if isWide c then 2 else 1)
  | [], line, column => (line, column)

/-- How many code units are shown on each side of a character. -/
def shownUnits : Nat := 10

/-- A text around a place, with dots where it is cut. -/
def excerpt (s : List Char) (position : Nat) : String :=
  let all := units s
  let unit := (units (s.take position)).length
  let quoted (cells : List (Option Char)) := "\"" ++ String.ofList (ofUnits cells) ++ "\""
  if all.length ≤ 2 * shownUnits then quoted all
  else
    let last := unit + shownUnits
    if unit < shownUnits then quoted (all.take last) ++ "..."
    else
      let cells := all.drop (unit - shownUnits)
      if last < all.length then "..." ++ quoted (cells.take (2 * shownUnits)) ++ "..."
      else "..." ++ quoted cells

/-- Values that are often taken for texts, as they are spelled. -/
def wholeTexts : List String := ["[object Object]", "NaN", "Infinity", "undefined"]

/-- The character at a place, as one code unit shows it. -/
def shownAt (s : List Char) (position : Nat) : String :=
  String.ofList (ofUnits ((units (s.drop position)).take 1))

/-- What is said of the flaw of a text. -/
def message (s : List Char) : Flaw → String
  | .ended => "Unexpected end of JSON input"
  | .stray position =>
    if wholeTexts.contains (String.ofList s) then "\"" ++ String.ofList s ++ "\" is not valid JSON"
    else
      "Unexpected token '" ++ shownAt s position ++ "', " ++ excerpt s position
        ++ " is not valid JSON"
  | .mistake m position =>
    let before := s.take position
    let (line, column) := lineAndColumn before 1 1
    m.words ++ s!" at position {(units before).length} (line {line} column {column})"

end Flaw

/-- The value of a text that is JSON by the standard, or what is said of its flaw. -/
def parseStrict (text : String) : Except String Json :=
  match parseAll .standard text.toList with
  | .ok v => .ok v
  | .error _ => .error (((Flaw.find? text.toList).getD .ended).message text.toList)

example : Flaw.find? "[1,2".toList = some (.mistake .itemEnd 4) := by decide +kernel

example : Flaw.message "nul".toList .ended = "Unexpected end of JSON input" := rfl

end Json

end StoryServer
