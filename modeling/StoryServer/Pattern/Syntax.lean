import StoryServer.Text.Alphanumeric
import StoryServer.Text.Blank
import StoryServer.Text.Casing
import StoryServer.Text.Digit

/-!
# Patterns

The syntax tree of a pattern that a breakpoint searches for in a line of text, and the
tests on single characters that its leaves make.  Every flag of the written pattern is
resolved in the tree: a leaf says itself how it treats letter case and which characters
it counts as words.

Characters are given by their code points, because a written pattern may name code
points that are no characters; those match nothing.
-/

namespace StoryServer

namespace Pattern

/-! ## Characters -/

/-- How letters of different case compare. -/
inductive Folding where
  | exact
  /-- The two cases of an ASCII letter are the same. -/
  | ascii
  /-- The cases of a letter of any script are the same. -/
  | unicode
  deriving DecidableEq, Repr

/-- The character that stands for all cases of a character. -/
def Folding.fold : Folding → Nat → Nat
  | .exact, c => c
  | .ascii, c => lowerCaseAscii c
  | .unicode, c => lowerCase c

/-- The folded characters that a folded character equals. -/
def Folding.siblings : Folding → Nat → List Nat
  | .unicode, c => sameCapital c
  | _, c => [c]

/-- The characters that fold to a character.  Above U+FFFF the letters of all scripts
fold under every folding but the exact one. -/
def Folding.preimages : Folding → Nat → List Nat
  | .exact, c => [c]
  | .ascii, c =>
    if 0x61 ≤ c && c ≤ 0x7A then [c, c - 32]
    else if c > 0xFFFF then c :: casePreimages c
    else [c]
  | .unicode, c => casePreimages c

/-- The kinds of characters with a name of their own. -/
inductive CharKind where
  | digit
  | space
  | word
  deriving DecidableEq, Repr

/-- Whether a character is of a kind; `ascii` leaves only the ASCII characters in it. -/
def CharKind.holds (kind : CharKind) (ascii : Bool) (c : Nat) : Bool :=
  (!ascii || c < 0x80) &&
  match kind with
  | .digit => isDecimalDigit c
  | .space => isBlank (Char.ofNat c) && !(ascii && 0x1C ≤ c && c ≤ 0x1F)
  | .word => isAlphanumeric c || c == 0x5F

/-- A member of a set of characters. -/
inductive SetItem where
  | single (c : Nat)
  /-- The characters from one to another. -/
  | range (first last : Nat)
  /-- The characters of a kind, or all others. -/
  | kind (kind : CharKind) (ascii negated : Bool)
  deriving DecidableEq, Repr

/-- Whether a folded character belongs to a member of a set.  A single character above
U+FFFF is compared as it is written, so that under a folding its capital form is found in
no text. -/
def SetItem.holds (folding : Folding) (c : Nat) : SetItem → Bool
  | .single d =>
    if d ≤ 0xFFFF then (folding.siblings (folding.fold d)).contains c else d == c
  | .range first last =>
    (folding.siblings c).any fun s => (folding.preimages s).any fun d => first ≤ d && d ≤ last
  | .kind k ascii negated => k.holds ascii c != negated

/-- A test on one character. -/
inductive CharTest where
  /-- One letter, or every character but one. -/
  | letter (negated : Bool) (c : Nat) (folding : Folding)
  /-- A set of characters, or all characters outside it. -/
  | set (negated : Bool) (items : List SetItem) (folding : Folding)
  deriving DecidableEq, Repr

/-- Whether a character passes a test. -/
def CharTest.holds (c : Nat) : CharTest → Bool
  | .letter negated d folding =>
    (folding.siblings (folding.fold d)).contains (folding.fold c) != negated
  | .set negated items folding => items.any (·.holds folding (folding.fold c)) != negated

/-- Every character but a line feed. -/
def CharTest.inLine : CharTest := .letter true 0x0A .exact

def CharTest.any : CharTest := .set true [] .exact

/-! ## Places -/

/-- A condition on a place in the text. -/
inductive Anchor where
  | start
  /-- The start of the text or of a line. -/
  | lineStart
  /-- The end of the text, or the last line feed before it. -/
  | finish
  /-- The end of the text or of a line. -/
  | lineEnd
  /-- The end of the text and nowhere else. -/
  | textEnd
  /-- A place with a word character on exactly one side. -/
  | boundary (ascii : Bool)
  /-- A place that is no boundary. -/
  | inside (ascii : Bool)
  deriving DecidableEq, Repr

/-- How many times a repetition tries to match. -/
inductive Greed where
  /-- As often as possible, fewer if the rest then fails. -/
  | greedy
  /-- As rarely as possible, more if the rest then fails. -/
  | lazy
  /-- As often as possible and never fewer. -/
  | possessive
  deriving DecidableEq, Repr

/-- A pattern. -/
inductive Node where
  | empty
  | char (test : CharTest)
  | anchor (a : Anchor)
  | seq (first second : Node)
  /-- One pattern or, failing that, another. -/
  | alt (first second : Node)
  /-- A group whose text is remembered under a number. -/
  | capture (group : Nat) (body : Node)
  /-- The text of a group again; `low` and `high` bound its length. -/
  | again (group : Nat) (folding : Folding) (low high : Nat)
  /-- One pattern if a group has text, another if not. -/
  | whether (group : Nat) (yes no : Node)
  /-- What must follow, or must not. -/
  | ahead (negated : Bool) (body : Node)
  /-- What must stand in the `width` characters before, or must not. -/
  | behind (negated : Bool) (width : Nat) (body : Node)
  /-- The first way in which a pattern matches and no other. -/
  | atomic (body : Node)
  | times (greed : Greed) (least : Nat) (most : Option Nat) (body : Node)
  deriving Repr

/-! ## Widths -/

/-- The least and the greatest number of characters that a pattern can match. -/
structure Width where
  low : Nat
  /-- The greatest number, or the limit. -/
  high : Nat
  deriving DecidableEq, Repr

/-- The limit of all widths. -/
def widthLimit : Nat := Nat.pow 2 64

/-- A width with both ends held to the limit. -/
def Width.capped (low high : Nat) : Width := ⟨min low widthLimit, min high widthLimit⟩

/-- The width of a pattern. -/
def Node.width : Node → Width
  | .empty | .anchor _ | .ahead .. | .behind .. => ⟨0, 0⟩
  | .char _ => ⟨1, 1⟩
  | .seq a b => .capped (a.width.low + b.width.low) (a.width.high + b.width.high)
  | .alt a b => ⟨min a.width.low b.width.low, max a.width.high b.width.high⟩
  | .capture _ body | .atomic body => body.width
  | .again _ _ low high => ⟨low, high⟩
  | .whether _ yes no =>
    ⟨min yes.width.low no.width.low, max yes.width.high no.width.high⟩
  | .times _ least most body =>
    .capped (body.width.low * least)
      (match most with
        | some n => body.width.high * n
        | none => if body.width.high = 0 then 0 else widthLimit)

end Pattern

end StoryServer
