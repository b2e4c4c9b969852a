import StoryServer.Text.Printable

/-!
# Quoted text

Messages show a text in quotes: single ones, unless the text has a single quote and no
double one.  A backslash and the quote itself are written with a backslash before them,
the common controls have letters, and every other character that is not printable is
written by its code in two, four or eight hexadecimal digits.
-/

namespace StoryServer

namespace Text

/-- A number in lower-case hexadecimal with at least `width` digits. -/
def hex (width n : Nat) : List Char :=
  let ds := Nat.toDigits 16 n
  List.replicate (width - ds.length) '0' ++ ds

def quoteChar (quote c : Char) : List Char :=
  if c == quote || c == '\\' then ['\\', c]
  else if c == '\n' then ['\\', 'n']
  else if c == '\r' then ['\\', 'r']
  else if c == '\t' then ['\\', 't']
  else if isPrintable c then [c]
  else if c.toNat < 0x100 then '\\' :: 'x' :: hex 2 c.toNat
  else if c.toNat < 0x10000 then '\\' :: 'u' :: hex 4 c.toNat
  else '\\' :: 'U' :: hex 8 c.toNat

/-- The quote that a text gets. -/
def quoteFor (s : List Char) : Char :=
  if s.contains '\'' && !s.contains '"' then '"' else '\''

/-- A text in quotes, as characters. -/
def quotedChars (s : List Char) : List Char :=
  let q := quoteFor s
  q :: (s.flatMap (quoteChar q) ++ [q])

def quoted (s : String) : String := String.ofList (quotedChars s.toList)

/-- A text in quotes, cut off after `n` characters of the quoted form. -/
def quotedFirst (n : Nat) (s : String) : String := String.ofList ((quotedChars s.toList).take n)

end Text

end StoryServer
