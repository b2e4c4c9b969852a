import StoryServer.Pattern.Syntax

/-!
# Searching for a pattern

A `Place` is a position in a text, with the characters before it in reverse, the
characters after it, and the texts of the groups matched so far.  `Node.run` matches a
pattern from a place and hands each place that it can end at to the rest of the pattern,
the preferred one first, until the rest succeeds.  It is structural in the pattern; a
repetition is bounded by its least count and the characters that are left, because past
its least count every further turn moves on.
-/

namespace StoryServer

namespace Pattern

/-- A position in a text with what has been remembered on the way. -/
structure Place where
  /-- The characters before, last one first. -/
  before : List Char
  after : List Char
  position : Nat
  /-- The texts of the groups, latest first. -/
  groups : List (Nat × List Char) := []

namespace Place

/-- The start of a text. -/
def start (text : List Char) : Place := ⟨[], text, 0, []⟩

/-- The place after one more character. -/
def next? (p : Place) : Option (Char × Place) :=
  match p.after with
  | [] => none
  | c :: rest => some (c, { p with before := c :: p.before, after := rest, position := p.position + 1 })

/-- The place `n` characters earlier. -/
def back? : Nat → Place → Option Place
  | 0, p => some p
  | n + 1, p =>
    match p.before with
    | [] => none
    | c :: rest => back? n { p with before := rest, after := c :: p.after, position := p.position - 1 }

/-- The text of a group. -/
def group? (p : Place) (group : Nat) : Option (List Char) :=
  (p.groups.find? (·.1 == group)).map (·.2)

/-- A place at which the text since position `since` is remembered for a group. -/
def remember (p : Place) (group since : Nat) : Place :=
  { p with groups := (group, (p.before.take (p.position - since)).reverse) :: p.groups }

/-- The place after a text, if that text follows. -/
def skip? (folding : Folding) : List Char → Place → Option Place
  | [], p => some p
  | c :: rest, p =>
    match p.next? with
    | some (d, q) =>
      if folding.fold c.toNat == folding.fold d.toNat then skip? folding rest q else none
    | none => none

end Place

/-! ## Anchors -/

/-- Whether a neighbour of a place exists and is a word character. -/
def isWordAt (ascii : Bool) : List Char → Bool
  | [] => false
  | c :: _ => CharKind.word.holds ascii c.toNat

/-- Whether exactly one neighbour is a word character. -/
def Place.atBoundary (ascii : Bool) (p : Place) : Bool :=
  isWordAt ascii p.before != isWordAt ascii p.after

/-- Whether a condition holds at a place.  An empty text has neither boundaries nor
places that are none. -/
def Anchor.holds (p : Place) : Anchor → Bool
  | .start => p.before.isEmpty
  | .lineStart => p.before.isEmpty || p.before.head? == some '\n'
  | .finish => p.after.isEmpty || p.after == ['\n']
  | .lineEnd => p.after.isEmpty || p.after.head? == some '\n'
  | .textEnd => p.after.isEmpty
  | .boundary ascii => !(p.before.isEmpty && p.after.isEmpty) && p.atBoundary ascii
  | .inside ascii => !(p.before.isEmpty && p.after.isEmpty) && !p.atBoundary ascii

/-! ## Matching -/

/-- What follows a pattern: whether it can be matched from a place, and where that ends. -/
abbrev Follow := Place → Option Place

/-- A way to match: all ends of a match are offered to what follows. -/
abbrev Matching := Place → Follow → Option Place

/-- A repetition that prefers more turns.  `last` is where the latest turn past the
least count began; a turn that ended where it began is not followed by another. -/
def moreTurns (body : Matching) (least : Nat) (most : Option Nat) (follow : Follow) :
    Nat → Nat → Option Nat → Follow
  | 0, _, _, _ => none
  | fuel + 1, count, last, p =>
    if count < least then body p (moreTurns body least most follow fuel (count + 1) last)
    else if most.all (count < ·) && last != some p.position then
      (body p (moreTurns body least most follow fuel (count + 1) (some p.position))).or (follow p)
    else follow p

/-- A repetition that prefers fewer turns. -/
def fewerTurns (body : Matching) (least : Nat) (most : Option Nat) (follow : Follow) :
    Nat → Nat → Option Nat → Follow
  | 0, _, _, _ => none
  | fuel + 1, count, last, p =>
    if count < least then body p (fewerTurns body least most follow fuel (count + 1) last)
    else (follow p).or <|
      if most.all (count < ·) && last != some p.position then
        body p (fewerTurns body least most follow fuel (count + 1) (some p.position))
      else none

/-- A repetition that takes each turn in its first way and gives none back. -/
def allTurns (body : Matching) (least : Nat) (most : Option Nat) : Nat → Nat → Option Nat → Follow
  | 0, _, _, _ => none
  | fuel + 1, count, last, p =>
    if count < least then
      (body p some).bind (allTurns body least most fuel (count + 1) last)
    else if most.all (count < ·) && last != some p.position then
      match body p some with
      | some q => allTurns body least most fuel (count + 1) (some p.position) q
      | none => some p
    else some p

/-- Enough turns for a repetition that starts at a place. -/
def turns (least : Nat) (p : Place) : Nat := least + p.after.length + 2

/-- The ways in which a pattern matches from a place. -/
def Node.run : Node → Matching
  | .empty, p, follow => follow p
  | .char test, p, follow =>
    match p.next? with
    | some (c, q) => if test.holds c.toNat then follow q else none
    | none => none
  | .anchor a, p, follow => if a.holds p then follow p else none
  | .seq a b, p, follow => a.run p fun q => b.run q follow
  | .alt a b, p, follow => (a.run p follow).or (b.run p follow)
  | .capture group body, p, follow =>
    body.run p fun q => follow (q.remember group p.position)
  | .again group folding _ _, p, follow =>
    ((p.group? group).bind fun text => p.skip? folding text).bind follow
  | .whether group yes no, p, follow =>
    if (p.group? group).isSome then yes.run p follow else no.run p follow
  | .ahead false body, p, follow =>
    (body.run p some).bind fun q => follow { p with groups := q.groups }
  | .ahead true body, p, follow => if (body.run p some).isSome then none else follow p
  | .behind false width body, p, follow =>
    (p.back? width).bind fun s => (body.run s some).bind fun q =>
      follow { p with groups := q.groups }
  | .behind true width body, p, follow =>
    if ((p.back? width).bind fun s => body.run s some).isSome then none else follow p
  | .atomic body, p, follow => (body.run p some).bind follow
  | .times .greedy least most body, p, follow =>
    moreTurns body.run least most follow (turns least p) 0 none p
  | .times .lazy least most body, p, follow =>
    fewerTurns body.run least most follow (turns least p) 0 none p
  | .times .possessive least most body, p, follow =>
    (allTurns body.run least most (turns least p) 0 none p).bind follow

/-- Whether a pattern matches from some place with these characters before and after. -/
def Node.searchFrom (node : Node) : List Char → List Char → Nat → Bool
  | before, [], n => (node.run ⟨before, [], n, []⟩ some).isSome
  | before, c :: rest, n =>
    (node.run ⟨before, c :: rest, n, []⟩ some).isSome || node.searchFrom (c :: before) rest (n + 1)

/-- Whether a pattern matches somewhere in a text. -/
def Node.search (node : Node) (text : List Char) : Bool := node.searchFrom [] text 0

end Pattern

end StoryServer
