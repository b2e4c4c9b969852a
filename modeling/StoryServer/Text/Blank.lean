/-!
# Blanks, lines and pieces of text

The characters that count as blank when text is trimmed or split into words, the
characters that end a line, and the cutting of text at a separator.  The functions are
on lists of characters; the ones on strings are the same up to `String.toList`.
-/

namespace StoryServer

/-! ## Blanks -/

/-- Blank characters: the white space of Unicode and the four separators of ASCII. -/
def isBlank (c : Char) : Bool :=
  let n := c.toNat
  (0x09 ≤ n && n ≤ 0x0D) || (0x1C ≤ n && n ≤ 0x20) || n == 0x85 || n == 0xA0 || n == 0x1680
    || (0x2000 ≤ n && n ≤ 0x200A) || n == 0x2028 || n == 0x2029 || n == 0x202F
    || n == 0x205F || n == 0x3000

/-- The blanks around the text of a number: the same without the four separators. -/
def isNumberBlank (c : Char) : Bool :=
  isBlank c && !(0x1C ≤ c.toNat && c.toNat ≤ 0x1F)

namespace Text

/-- A text without the leading characters that satisfy `p`. -/
def trimStartBy (p : Char → Bool) (s : List Char) : List Char := s.dropWhile p

/-- A text without the trailing characters that satisfy `p`. -/
def trimEndBy (p : Char → Bool) (s : List Char) : List Char := (s.reverse.dropWhile p).reverse

/-- A text without the characters that satisfy `p` at both ends. -/
def trimBy (p : Char → Bool) (s : List Char) : List Char := trimEndBy p (trimStartBy p s)

/-- A text without the blanks at both ends. -/
def trim (s : String) : String := String.ofList (trimBy isBlank s.toList)

/-- The words of a text: what stands between blanks.  The second argument is the word
being read, last character first. -/
def wordsFrom : List Char → List Char → List (List Char)
  | [], [] => []
  | [], word => [word.reverse]
  | c :: rest, word =>
    if isBlank c then
      match word with
      | [] => wordsFrom rest []
      | _ => word.reverse :: wordsFrom rest []
    else wordsFrom rest (c :: word)

/-- The words of a text. -/
def words (s : String) : List String := (wordsFrom s.toList []).map String.ofList

/-! ## Lines -/

/-- The characters that end a line.  A carriage return and a line feed together end one
line. -/
def isLineEnd (c : Char) : Bool :=
  let n := c.toNat
  (0x0A ≤ n && n ≤ 0x0D) || (0x1C ≤ n && n ≤ 0x1E) || n == 0x85 || n == 0x2028 || n == 0x2029

/-- The lines of a text, without their ends.  The second argument is the line being read,
last character first.  A text that ends in a line end has no empty line after it. -/
def linesFrom : List Char → List Char → List (List Char)
  | [], [] => []
  | [], line => [line.reverse]
  | '\r' :: '\n' :: rest, line => line.reverse :: linesFrom rest []
  | c :: rest, line =>
    if isLineEnd c then line.reverse :: linesFrom rest [] else linesFrom rest (c :: line)

/-- The lines of a text. -/
def lines (s : String) : List String := (linesFrom s.toList []).map String.ofList

/-- The lines that a stream brings: a line feed, a carriage return or both together end a
line.  The second argument is the line being read, last character first. -/
def streamLines : List Char → List Char → List String
  | [], acc => if acc.isEmpty then [] else [String.ofList acc.reverse]
  | '\r' :: '\n' :: rest, acc => String.ofList acc.reverse :: streamLines rest []
  | '\r' :: rest, acc => String.ofList acc.reverse :: streamLines rest []
  | '\n' :: rest, acc => String.ofList acc.reverse :: streamLines rest []
  | c :: rest, acc => streamLines rest (c :: acc)

/-! ## Separators -/

/-- Whether one text is at the start of another. -/
def startsWith (pre s : List Char) : Bool := pre.isPrefixOf s

/-- Whether one text occurs in another. -/
def occursIn (part : List Char) : List Char → Bool
  | [] => part.isEmpty
  | s@(_ :: rest) => part.isPrefixOf s || occursIn part rest

/-- The text before the first occurrence of a separator and the text after it, if it
occurs. -/
def cut? (sep : List Char) : List Char → Option (List Char × List Char)
  | [] => if sep.isEmpty then some ([], []) else none
  | s@(c :: rest) =>
    if sep.isPrefixOf s then some ([], s.drop sep.length)
    else (cut? sep rest).map fun p => (c :: p.1, p.2)

/-- The text before the first occurrence of a separator and the text after it; all of it
and nothing when it does not occur. -/
def cut (sep s : String) : String × String :=
  match cut? sep.toList s.toList with
  | some (a, b) => (String.ofList a, String.ofList b)
  | none => (s, "")

/-- The pieces of a text between occurrences of one character. -/
def splitAt (sep : Char) (s : List Char) : List (List Char) :=
  s.foldr (fun c acc =>
    if c == sep then [] :: acc
    else match acc with
      | [] => [[c]]
      | piece :: more => (c :: piece) :: more) [[]]

/-- A text without the characters that satisfy `p`. -/
def without (p : Char → Bool) (s : String) : String :=
  String.ofList (s.toList.filter fun c => !p c)

/-- The first `n` characters of a text. -/
def first (n : Nat) (s : String) : String := String.ofList (s.toList.take n)

end Text

end StoryServer
