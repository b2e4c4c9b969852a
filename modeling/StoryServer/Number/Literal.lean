import StoryServer.Number.Binary64
import StoryServer.Text.Blank
import StoryServer.Text.Digit
import StoryServer.Text.Quoted

/-!
# Numbers written in text

Reading an integer or a double from a text that holds nothing else.  Blanks around the
number are allowed, its digits may come from any script, and an underscore may stand
between two digits.  An integer has at most `digitLimit` digits, so that reading one
never takes longer than the text deserves; writing an integer has the same limit.
-/

namespace StoryServer

/-- The most digits an integer may have in text. -/
def digitLimit : Nat := 4300

/-- Why a text is no number. -/
inductive NumberDefect where
  /-- The text has not the form of an integer. -/
  | notInteger (text : String)
  /-- The text has not the form of a double. -/
  | notDouble (text : String)
  /-- The integer in the text has this many digits, which is too many. -/
  | tooManyDigits (count : Nat)
  /-- The integer to be written has too many digits. -/
  | tooLongToWrite
  deriving DecidableEq, Repr

/-- What is said of a text that is no number. -/
def NumberDefect.message : NumberDefect → String
  | .notInteger s => "invalid literal for int() with base 10: " ++ Text.quotedFirst 200 s
  | .notDouble s => "could not convert string to float: " ++ Text.quoted s
  | .tooManyDigits n =>
    s!"Exceeds the limit ({digitLimit} digits) for integer string conversion: value has {n} digits; "
      ++ "use sys.set_int_max_str_digits() to increase the limit"
  | .tooLongToWrite =>
    s!"Exceeds the limit ({digitLimit} digits) for integer string conversion; "
      ++ "use sys.set_int_max_str_digits() to increase the limit"

namespace Number

/-! ## Digits -/

/-- The digits of a run such as `1_000`, with single underscores between digits, and
what follows the run.  The flag says whether a digit has just been read. -/
def digitRun : Bool → List Char → List Nat × List Char
  | _, [] => ([], [])
  | afterDigit, c :: rest =>
    match digitValue? c.toNat with
    | some d =>
      let (ds, tail) := digitRun true rest
      (d :: ds, tail)
    | none =>
      match afterDigit && c == '_', rest with
      | true, d :: _ =>
        if (digitValue? d.toNat).isSome then digitRun false rest else ([], c :: rest)
      | _, _ => ([], c :: rest)

/-- The number with these decimal digits, first digit first. -/
def ofDigits (ds : List Nat) : Nat := ds.foldl (fun n d => 10 * n + d) 0

/-- A sign in front of a number, true for a minus. -/
def sign : List Char → Bool × List Char
  | '-' :: rest => (true, rest)
  | '+' :: rest => (false, rest)
  | s => (false, s)

/-! ## Integers -/

def readInteger (s : String) : Except NumberDefect Int :=
  let (negative, body) := sign (Text.trimBy isNumberBlank s.toList)
  match digitRun false body with
  | (ds@(_ :: _), []) =>
    if ds.length > digitLimit then throw (.tooManyDigits ds.length)
    else
      let n := ofDigits ds
      pure (if negative then -(n : Int) else n)
  | _ => throw (.notInteger s)

/-! ## Doubles -/

/-- An ASCII word, in any mixture of cases. -/
def isWord (word : String) (s : List Char) : Bool := s.map Char.toLower == word.toList

/-- An exponent: nothing, or a letter, a sign and digits. -/
def exponent? : List Char → Option Int
  | [] => some 0
  | c :: rest =>
    if c == 'e' || c == 'E' then
      let (negative, body) := sign rest
      match digitRun false body with
      | (ds@(_ :: _), []) =>
        let n := ofDigits ds
        some (if negative then -(n : Int) else n)
      | _ => none
    else none

/-- Digits with an optional point and exponent; at least one digit stands before or
after the point. -/
def decimal? (negative : Bool) (s : List Char) : Option Binary64 :=
  let (whole, rest) := digitRun false s
  let (fraction, rest) := match rest with
    | '.' :: more => digitRun false more
    | _ => ([], rest)
  if whole.isEmpty && fraction.isEmpty then none
  else (exponent? rest).map fun e =>
    Binary64.ofDecimal negative (ofDigits (whole ++ fraction)) (e - fraction.length)

/-- A double, in decimals or as one of the words for infinity and not-a-number. -/
def readDouble (s : String) : Except NumberDefect Binary64 :=
  let (negative, body) := sign (Text.trimBy isNumberBlank s.toList)
  if isWord "inf" body || isWord "infinity" body then pure (.infinite negative)
  else if isWord "nan" body then pure .nan
  else match decimal? negative body with
    | some x => pure x
    | none => throw (.notDouble s)

end Number

end StoryServer
