import StoryServer.Text.Blank

/-!
# Code in a reply

A model often answers with code between fences of three backquotes.  `Fence.extract`
finds the first opening fence with the word `ink` or no word, blanks, and a line end
among them, and takes the text up to the next fence; without such a block the whole
reply is taken.  Blanks around the result are dropped.
-/

namespace StoryServer

namespace Fence

/-- The mark of a fence. -/
def mark : List Char := List.replicate 3 '\x60'

/-- The text after a word, if the text begins with it. -/
def dropWord? (word s : List Char) : Option (List Char) :=
  if word.isPrefixOf s then some (s.drop word.length) else none

/-- The text after the last line end among the blanks that a text begins with. -/
def afterLineEnd? (s : List Char) : Option (List Char) :=
  let blanks := s.takeWhile isBlank
  let tail := blanks.reverse.takeWhile (· != '\n')
  if tail.length < blanks.length then some (s.drop (blanks.length - tail.length)) else none

/-- The text before the next fence. -/
def body? (s : List Char) : Option (List Char) := (Text.cut? mark s).map (·.1)

/-- The body of a block whose fence stands at the start of a text. -/
def blockAt? (s : List Char) : Option (List Char) := do
  let rest ← dropWord? mark s
  body? (← afterLineEnd? ((dropWord? "ink".toList rest).getD rest))

/-- The body of the first block. -/
def block? : List Char → Option (List Char)
  | [] => none
  | s@(_ :: rest) => (blockAt? s).or (block? rest)

/-- The code in a reply. -/
def extract (reply : String) : String :=
  let s := reply.toList
  String.ofList (Text.trimBy isBlank ((block? s).getD s))

end Fence

end StoryServer
