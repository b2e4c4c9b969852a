import StoryServer.Number.Literal
import StoryServer.Pattern.Syntax
import StoryServer.Text.CharacterName
import StoryServer.Text.Identifier

/-!
# Reading a written pattern

`Pattern.read` turns the text of a pattern into a `Node`.  The text is first cut into
tokens, a backslash together with the character after it being one; a recursive descent
reads alternatives, sequences and groups.  What a repetition may follow is decided by
the `Role` of the item before it.

A pattern can be wrong in three ways.  It can be `malformed`, which is no matter of
which rule it breaks.  It can ask for too many turns, or for flags that exclude each
other; those are causes of their own.  Some rules are looked at only when the whole
pattern has been read, and `late` remembers that one of them was broken.
-/

namespace StoryServer

namespace Pattern

/-! ## Tokens -/

/-- A unit of a written pattern. -/
inductive Token where
  /-- A character that stands by itself. -/
  | char (c : Char)
  /-- A backslash and the character after it. -/
  | escape (c : Char)
  /-- A backslash at the end of the pattern. -/
  | dangling
  deriving DecidableEq, Repr

/-- The tokens of a written pattern. -/
def tokens : List Char → List Token
  | [] => []
  | ['\\'] => [.dangling]
  | '\\' :: c :: rest => .escape c :: tokens rest
  | c :: rest => .char c :: tokens rest

/-- The characters of a token. -/
def Token.text : Token → List Char
  | .char c => [c]
  | .escape c => ['\\', c]
  | .dangling => ['\\']

/-! ## Flags and defects -/

/-- The flags in force. -/
structure Flags where
  ignoreCase : Bool := false
  multiline : Bool := false
  /-- A dot matches a line feed too. -/
  dotAll : Bool := false
  /-- Blanks and comments in the pattern are skipped. -/
  verbose : Bool := false
  /-- The kinds of characters and letter case are those of ASCII. -/
  ascii : Bool := false
  /-- The kinds of characters and letter case were asked to be those of all scripts. -/
  unicode : Bool := false
  plain : Bool := false
  deriving DecidableEq, Repr

namespace Flags

/-- No flag but the one with this letter. -/
def ofLetter? : Char → Option Flags
  | 'i' => some { ignoreCase := true }
  | 'm' => some { multiline := true }
  | 's' => some { dotAll := true }
  | 'x' => some { verbose := true }
  | 'a' => some { ascii := true }
  | 'u' => some { unicode := true }
  | 't' => some { plain := true }
  | _ => none

def union (f g : Flags) : Flags where
  ignoreCase := f.ignoreCase || g.ignoreCase
  multiline := f.multiline || g.multiline
  dotAll := f.dotAll || g.dotAll
  verbose := f.verbose || g.verbose
  ascii := f.ascii || g.ascii
  unicode := f.unicode || g.unicode
  plain := f.plain || g.plain

/-- The flags of the first that are not flags of the second. -/
def diff (f g : Flags) : Flags where
  ignoreCase := f.ignoreCase && !g.ignoreCase
  multiline := f.multiline && !g.multiline
  dotAll := f.dotAll && !g.dotAll
  verbose := f.verbose && !g.verbose
  ascii := f.ascii && !g.ascii
  unicode := f.unicode && !g.unicode
  plain := f.plain && !g.plain

/-- Whether there is no flag. -/
def isEmpty (f : Flags) : Bool := f == {}

/-- Whether some flag is in both. -/
def overlap (f g : Flags) : Bool := f.diff g != f

/-- Whether the alphabet is chosen. -/
def choosesAlphabet (f : Flags) : Bool := f.ascii || f.unicode

/-- The flags inside a group that adds some and removes some; a choice of alphabet
replaces the one outside. -/
def within (f added removed : Flags) : Flags :=
  let outer := if added.choosesAlphabet then { f with ascii := false, unicode := false } else f
  (outer.union added).diff removed

/-- How letter case is treated. -/
def folding (f : Flags) : Folding :=
  if !f.ignoreCase then .exact else if f.ascii then .ascii else .unicode

end Flags

/-- Why a text is no pattern. -/
inductive Defect where
  /-- The pattern breaks a rule of the notation. -/
  | malformed
  /-- A repetition asks for more turns than can be counted. -/
  | tooManyTurns
  /-- The flags ask for ASCII and for all scripts. -/
  | alphabetConflict
  /-- A count of turns has too many digits. -/
  | number (d : NumberDefect)
  deriving DecidableEq, Repr

/-- What is said of a text that is no pattern. -/
def Defect.message : Defect → String
  | .malformed => "malformed pattern"
  | .tooManyTurns => "the repetition number is too large"
  | .alphabetConflict => "ASCII and UNICODE flags are incompatible"
  | .number d => d.message

/-! ## The reader's state -/

/-- What is known of the pattern read so far. -/
structure Progress where
  rest : List Token
  /-- The widths of the groups opened so far; an open group has none yet. -/
  groups : List (Option Width) := []
  names : List (String × Nat) := []
  /-- The number of groups opened before the lookbehind that is being read. -/
  groupsBefore : Option Nat := none
  /-- The groups that conditions ask for. -/
  asked : List Nat := []
  /-- The flags of the whole pattern. -/
  flags : Flags := {}
  /-- Whether a rule is broken that is looked at only in the end. -/
  late : Bool := false

/-- A step of the reader. -/
abbrev Reading := StateT Progress (Except Defect)

/-- A pattern that breaks a rule. -/
def malformed {α : Type} : Reading α := throw .malformed

/-- A rule that must hold. -/
def require (rule : Bool) : Reading Unit := if rule then pure () else malformed

def peek? : Reading (Option Token) := do return (← get).rest.head?

/-- The next token is passed.  A pattern that goes on with a backslash at its end is
found out here. -/
def advance : Reading Unit := do
  let rest := (← get).rest.drop 1
  require (rest.head? != some .dangling)
  modify fun s => { s with rest }

/-- The next token, which is passed. -/
def take? : Reading (Option Token) := do
  let t ← peek?
  advance
  return t

/-- Passes a character if it is next. -/
def accept (c : Char) : Reading Bool := do
  if (← peek?) == some (.char c) then
    advance
    return true
  else return false

/-- Passes a character that must be next. -/
def expect (c : Char) : Reading Unit := do require (← accept c)

/-- Passes at most `n` characters that satisfy `p`. -/
def takeWhile (p : Char → Bool) : Nat → Reading (List Char)
  | 0 => pure []
  | n + 1 => do
    match ← peek? with
    | some (.char c) =>
      if p c then
        advance
        return c :: (← takeWhile p n)
      else return []
    | _ => return []

/-- The characters up to a terminator, which is passed; `n` bounds their tokens. -/
def untilChar (terminator : Char) : Nat → Reading (List Char)
  | 0 => malformed
  | n + 1 => do
    match ← take? with
    | none => malformed
    | some t =>
      if t == .char terminator then return []
      else return t.text ++ (← untilChar terminator n)

/-- A name up to a terminator; it has at least one character. -/
def nameUntil (terminator : Char) : Reading String := do
  let name ← untilChar terminator ((← get).rest.length + 1)
  require !name.isEmpty
  return String.ofList name

/-! ## Groups -/

/-- The most groups that can be told apart. -/
def groupLimit : Nat := 1073741823

/-- Whether a group exists and has been closed. -/
def isClosed (group : Nat) : Reading Bool := do
  return ((← get).groups[group - 1]?).any (·.isSome) && group != 0

/-- A reference inside a lookbehind must be to a group closed before it. -/
def requireOutside (group : Nat) : Reading Unit := do
  match (← get).groupsBefore with
  | none => pure ()
  | some n => require ((← isClosed group) && group ≤ n)

/-- Opens a group and gives it the next number. -/
def openGroup (name : Option String) : Reading Nat := do
  let s ← get
  let group := s.groups.length + 1
  match name with
  | none => set { s with groups := s.groups ++ [none] }
  | some name =>
    require (s.names.lookup name).isNone
    set { s with groups := s.groups ++ [none], names := (name, group) :: s.names }
  return group

def closeGroup (group : Nat) (width : Width) : Reading Unit :=
  modify fun s => { s with groups := s.groups.set (group - 1) (some width) }

/-- The text of a closed group again. -/
def reference (flags : Flags) (group : Nat) : Reading Node := do
  require (← isClosed group)
  requireOutside group
  match (← get).groups[group - 1]? with
  | some (some w) => return .again group flags.folding w.low w.high
  | _ => malformed

/-! ## Escapes -/

def isOctal (c : Char) : Bool := '0' ≤ c && c ≤ '7'

def isHex (c : Char) : Bool :=
  isAsciiDigit c || ('a' ≤ c && c ≤ 'f') || ('A' ≤ c && c ≤ 'F')

def isAsciiLetter (c : Char) : Bool := ('a' ≤ c && c ≤ 'z') || ('A' ≤ c && c ≤ 'Z')

/-- The value of a digit in any base up to sixteen. -/
def digit (c : Char) : Nat :=
  if isAsciiDigit c then c.toNat - 0x30
  else if c.toNat ≥ 0x61 then c.toNat - 0x57
  else c.toNat - 0x37

/-- The value of digits in a base. -/
def inBase (base : Nat) (ds : List Char) : Nat := ds.foldl (fun n c => base * n + digit c) 0

/-- The characters with a letter of their own. -/
def control? : Char → Option Nat
  | 'a' => some 0x07
  | 'f' => some 0x0C
  | 'n' => some 0x0A
  | 'r' => some 0x0D
  | 't' => some 0x09
  | 'v' => some 0x0B
  | '\\' => some 0x5C
  | _ => none

/-- The kind of characters that a letter stands for; a capital stands for all others. -/
def kind? : Char → Option (CharKind × Bool)
  | 'd' => some (.digit, false)
  | 'D' => some (.digit, true)
  | 's' => some (.space, false)
  | 'S' => some (.space, true)
  | 'w' => some (.word, false)
  | 'W' => some (.word, true)
  | _ => none

def hexDigits (n : Nat) : Reading Nat := do
  let ds ← takeWhile isHex n
  require (ds.length == n)
  return inBase 16 ds

/-- A character given by its number or by its name, after the letter that says how. -/
def named? : Char → Option (Reading Nat)
  | 'x' => some (hexDigits 2)
  | 'u' => some (hexDigits 4)
  | 'U' => some do
    let c ← hexDigits 8
    require (c ≤ 0x10FFFF)
    return c
  | 'N' => some do
    expect '\x7b'
    match characterNamed? (← nameUntil '\x7d') with
    | some c => return c
    | none => malformed
  | _ => none

/-- A character that an escape stands for itself: no letter of ASCII. -/
def itself (c : Char) : Reading Nat := do
  require !(isAsciiLetter c)
  return c.toNat

/-- An escape in a set. -/
def setEscape (flags : Flags) (c : Char) : Reading SetItem := do
  if let some (kind, negated) := kind? c then return .kind kind flags.ascii negated
  else if c == 'b' then return .single 0x08
  else if let some n := control? c then return .single n
  else if let some reading := named? c then return .single (← reading)
  else if isOctal c then
    let n := inBase 8 (c :: (← takeWhile isOctal 2))
    require (n ≤ 0o377)
    return .single n
  else
    require !(isAsciiDigit c)
    return .single (← itself c)

/-- An anchor that a letter stands for. -/
def anchor? (flags : Flags) : Char → Option Anchor
  | 'A' => some .start
  | 'b' => some (.boundary flags.ascii)
  | 'B' => some (.inside flags.ascii)
  | 'Z' => some .textEnd
  | _ => none

/-- One letter under the flags. -/
def letter (flags : Flags) (c : Nat) : Node := .char (.letter false c flags.folding)

/-- A number after a backslash: three octal digits are a character, and one or two
digits are the number of a group. -/
def numbered (flags : Flags) (c : Char) : Reading Node := do
  let ds := c :: (← takeWhile isAsciiDigit 1)
  if ds.length == 2 && ds.all isOctal then
    if let [d] ← takeWhile isOctal 1 then
      let n := inBase 8 (ds ++ [d])
      require (n ≤ 0o377)
      return letter flags n
  reference flags (inBase 10 ds)

/-! ## Sets -/

/-- One end of a range, or a member by itself. -/
def setMember (flags : Flags) : Token → Reading SetItem
  | .char c => pure (.single c.toNat)
  | .escape c => setEscape flags c
  | .dangling => malformed

/-- The range between two members, which must be single characters in order. -/
def rangeOf : SetItem → SetItem → Reading SetItem
  | .single lo, .single hi => do
    require (lo ≤ hi)
    return .range lo hi
  | _, _ => malformed

/-- The members of a set up to its bracket; a bracket that comes first is a member.
`n` bounds the tokens. -/
def setMembers (flags : Flags) : Nat → Bool → Reading (List SetItem)
  | 0, _ => malformed
  | n + 1, first => do
    match ← take? with
    | none => malformed
    | some t =>
      if t == .char ']' && !first then return []
      else
        let member ← setMember flags t
        if ← accept '-' then
          match ← take? with
          | none => malformed
          | some u =>
            if u == .char ']' then return [member, .single 0x2D]
            else
              let range ← rangeOf member (← setMember flags u)
              return range :: (← setMembers flags n false)
        else return member :: (← setMembers flags n false)

/-- A set after its opening bracket.  A set of one character is that character. -/
def setAfterBracket (flags : Flags) : Reading CharTest := do
  let negated ← accept '^'
  let items ← setMembers flags ((← get).rest.length + 1) true
  match items.eraseDups with
  | [.single c] => return .letter negated c flags.folding
  | items => return .set negated items flags.folding

/-! ## Items -/

/-- What a repetition may do with the item before it. -/
inductive Role where
  | plain
  | anchor
  | repeated
  deriving DecidableEq, Repr

/-- A part of a sequence. -/
structure Item where
  node : Node
  /-- What a repetition may do with it. -/
  role : Role := .plain
  /-- The items of a group without number and flags; they join the sequence around it. -/
  inner : Option (List Item) := none
  /-- Whether it is a group with flags of its own, which alternatives do not look into. -/
  closed : Bool := false

/-- A sequence of items as one pattern. -/
def joined : List Item → Node
  | [] => .empty
  | [i] => i.node
  | i :: rest => .seq i.node (joined rest)

/-- The items of a sequence, with groups that only hold items together dissolved. -/
def dissolved (items : List Item) : List Item :=
  items.flatMap fun i => i.inner.getD [i]

/-- Whether two patterns are the same test, condition or reference. -/
def Node.sameLeaf : Node → Node → Bool
  | .char t, .char u => t == u
  | .anchor a, .anchor b => a == b
  | .again g f _ _, .again h e _ _ => g == h && f == e
  | _, _ => false

/-- The leaf with which all branches begin. -/
def commonHead? : List (List Item) → Option Item
  | (i :: _) :: rest =>
    if !i.closed && i.node.sameLeaf i.node
        && rest.all (fun b => b.head?.any fun j => !j.closed && i.node.sameLeaf j.node) then some i
    else none
  | _ => none

/-- The leaves with which all branches begin, and the branches after them; `n` bounds
the length of a branch. -/
def factored : Nat → List (List Item) → List Item × List (List Item)
  | 0, branches => ([], branches)
  | n + 1, branches =>
    match commonHead? branches with
    | some i =>
      let (shared, rest) := factored n (branches.map (·.drop 1))
      (i :: shared, rest)
    | none => ([], branches)

/-- The characters that a branch of one test matches, if it is no negated test. -/
def choices? : List Item → Option (List SetItem)
  | [⟨.char (.letter false c _), _, _, false⟩] => some [.single c]
  | [⟨.char (.set false items _), _, _, false⟩] => some items
  | _ => none

def anyOf : List (List Item) → Node
  | [] => .empty
  | [b] => joined b
  | b :: rest => .alt (joined b) (anyOf rest)

/-- Alternatives as items: what they have in common first, and branches of one
character each as a set. -/
def alternatives (flags : Flags) (branches : List (List Item)) : List Item :=
  match branches with
  | [b] => b
  | _ =>
    let (shared, rest) := factored ((branches.head?.getD []).length) branches
    let node := match rest.mapM choices? with
      | some sets => .char (.set false sets.flatten.eraseDups flags.folding)
      | none => anyOf rest
    shared ++ [{ node }]

/-! ## Repetitions -/

/-- The first number of turns that cannot be counted. -/
def turnLimit : Nat := 4294967295

def turnCount (ds : List Char) : Reading Nat := do
  match Number.readInteger (String.ofList ds) with
  | .error d => throw (.number d)
  | .ok n =>
    if n.toNat ≥ turnLimit then throw .tooManyTurns
    return n.toNat

/-- The numbers of turns in braces, after the opening brace; none when the brace is an
ordinary character. -/
def braces : Reading (Option (Nat × Option Nat)) := do
  let saved ← get
  if (← peek?) == some (.char '\x7d') then return none
  let n := saved.rest.length
  let lo ← takeWhile isAsciiDigit n
  let comma ← accept ','
  let hi ← if comma then takeWhile isAsciiDigit n else pure lo
  if ← accept '\x7d' then
    let least ← if lo.isEmpty then pure 0 else turnCount lo
    if hi.isEmpty then return some (least, none)
    let most ← turnCount hi
    require (least ≤ most)
    return some (least, some most)
  else
    set saved
    return none

/-- How often a repetition tries to match, from the sign after it. -/
def readGreed : Reading Greed := do
  match ← peek? with
  | some (.char '?') =>
    advance
    return .lazy
  | some (.char '+') =>
    advance
    return .possessive
  | _ => return .greedy

/-- The last item of a sequence, given in reverse, repeated. -/
def repeatLast (least : Nat) (most : Option Nat) (done : List Item) : Reading (List Item) := do
  match done with
  | ⟨node, .plain, _, _⟩ :: earlier =>
    let greed ← readGreed
    if (← get).flags.plain then modify fun s => { s with late := true }
    return { node := .times greed least most node, role := .repeated } :: earlier
  | _ => malformed

/-! ## Groups and sequences -/

/-- Skips a comment up to and including its end; `n` bounds the tokens. -/
def skipUntil (last : Char) (mustEnd : Bool) : Nat → Reading Unit
  | 0 => malformed
  | n + 1 => do
    match ← take? with
    | none => require !mustEnd
    | some t => if t == .char last then pure () else skipUntil last mustEnd n

/-- The letters of flags up to a character that ends them; `n` bounds the tokens. -/
def flagLetters (ends : List Char) (adding : Bool) : Nat → Flags → Option Token → Reading (Flags × Char)
  | 0, _, _ => malformed
  | n + 1, flags, token => do
    match token with
    | some (.char c) =>
      match Flags.ofLetter? c with
      | some f =>
        let flags := flags.union f
        require (if adding then !(flags.ascii && flags.unicode) else !f.choosesAlphabet)
        match ← take? with
        | some (.char d) =>
          if ends.contains d then return (flags, d)
          else flagLetters ends adding n flags (some (.char d))
        | _ => malformed
      | none => malformed
    | _ => malformed

/-- The flags that a group adds and removes, after the question mark and the first
character; no second flags mean that the first are for the whole pattern. -/
def groupFlags (c : Char) : Reading (Flags × Option Flags) := do
  let n := (← get).rest.length + 2
  let (added, stop) ←
    if c == '-' then pure ({}, '-')
    else flagLetters [')', '-', ':'] true n {} (some (.char c))
  if stop == ')' then return (added, none)
  require !added.plain
  let removed ←
    if stop == '-' then pure (← flagLetters [':'] false n {} (← take?)).1 else pure {}
  require (!removed.plain && !added.overlap removed)
  return (added, some removed)

/-- The number of the group that a condition asks for. -/
def conditionGroup (name : String) : Reading Nat := do
  if isIdentifier name.toList then
    match (← get).names.lookup name with
    | some group => return group
    | none => malformed
  else
    match Number.readInteger name with
    | .error _ => malformed
    | .ok n =>
      require (0 < n && n.toNat < groupLimit)
      modify fun s => { s with asked := n.toNat :: s.asked }
      return n.toNat

/-- The opening of a group, after its parenthesis. -/
inductive Opening where
  /-- A group with a number and perhaps a name. -/
  | capture (name : Option String)
  /-- A group that holds items together. -/
  | bare
  /-- A group that takes its first match. -/
  | atomic
  | scoped (added removed : Flags)
  | ahead (negated : Bool)
  /-- A look at what stands before. -/
  | behind (negated : Bool)
  /-- A choice by whether a group has text. -/
  | whether (group : Nat)
  /-- A group given by name again, complete with its parenthesis. -/
  | again (group : Nat)
  | comment
  /-- Flags for the whole pattern, complete. -/
  | global (flags : Flags)

/-- Reads the opening of a group. -/
def opening : Reading Opening := do
  if !(← accept '?') then return .capture none
  match ← take? with
  | some (.char 'P') =>
    if ← accept '<' then
      let name ← nameUntil '>'
      require (isIdentifier name.toList)
      return .capture (some name)
    else if ← accept '=' then
      let name ← nameUntil ')'
      require (isIdentifier name.toList)
      match (← get).names.lookup name with
      | some group => return .again group
      | none => malformed
    else malformed
  | some (.char ':') => return .bare
  | some (.char '#') =>
    skipUntil ')' true ((← get).rest.length + 1)
    return .comment
  | some (.char '=') => return .ahead false
  | some (.char '!') => return .ahead true
  | some (.char '<') =>
    match ← take? with
    | some (.char '=') => return .behind false
    | some (.char '!') => return .behind true
    | _ => malformed
  | some (.char '(') =>
    let group ← conditionGroup (← nameUntil ')')
    requireOutside group
    return .whether group
  | some (.char '>') => return .atomic
  | some (.char c) =>
    require (c == '-' || (Flags.ofLetter? c).isSome)
    match ← groupFlags c with
    | (added, none) => return .global added
    | (added, some removed) => return .scoped added removed
  | _ => malformed

/-- A character that is skipped in a verbose pattern. -/
def isSkipped (c : Char) : Bool := c == ' ' || (0x09 ≤ c.toNat && c.toNat ≤ 0x0D)

def escaped (flags : Flags) (c : Char) : Reading Item := do
  if let some a := anchor? flags c then return { node := .anchor a, role := .anchor }
  else if let some (kind, negated) := kind? c then
    return { node := .char (.set false [.kind kind flags.ascii negated] flags.folding) }
  else if let some n := control? c then return { node := letter flags n }
  else if let some reading := named? c then return { node := letter flags (← reading) }
  else if c == '0' then
    return { node := letter flags (inBase 8 (← takeWhile isOctal 2)) }
  else if isAsciiDigit c then return { node := ← numbered flags c }
  else return { node := letter flags (← itself c) }

/-- An item of one character, for a character that opens nothing. -/
def simpleItem (flags : Flags) : Char → Item
  | '.' => { node := .char (if flags.dotAll then .any else .inLine) }
  | '^' => { node := .anchor (if flags.multiline then .lineStart else .start), role := .anchor }
  | '$' => { node := .anchor (if flags.multiline then .lineEnd else .finish), role := .anchor }
  | c => { node := letter flags c.toNat }

/-- A look behind, which must have one width. -/
def lookBehind (negated : Bool) (body : List Item) : Reading Item := do
  let w := (joined body).width
  if w.low != w.high || w.low ≥ Nat.pow 2 32 then modify fun s => { s with late := true }
  return { node := .behind negated w.low (joined body) }

mutual

/-- Reads alternatives up to a closing parenthesis or the end.  Only at the top may the
first branch begin with flags for the whole pattern. -/
def readAlternatives : Nat → Bool → Flags → Reading (List Item)
  | 0, _, _ => malformed
  | n + 1, top, flags => do
    let first ← readSequence n top flags []
    let rest ← readBranches n top flags
    let whole := (← get).flags
    return alternatives (if top then whole else flags) (first :: rest)

/-- Reads the branches after the first. -/
def readBranches : Nat → Bool → Flags → Reading (List (List Item))
  | 0, _, _ => malformed
  | n + 1, top, flags => do
    if ← accept '|' then
      let whole := (← get).flags
      let branch ← readSequence n false (if top then whole else flags) []
      return branch :: (← readBranches n top flags)
    else return []

/-- Reads a sequence; `done` holds its items so far, last one first. -/
def readSequence : Nat → Bool → Flags → List Item → Reading (List Item)
  | 0, _, _, _ => malformed
  | n + 1, first, flags, done => do
    match ← peek? with
    | none | some (.char '|') | some (.char ')') => return dissolved done.reverse
    | some .dangling => malformed
    | some (.escape c) =>
      advance
      let item ← escaped flags c
      readSequence n first flags (item :: done)
    | some (.char c) =>
      advance
      if flags.verbose && isSkipped c then readSequence n first flags done
      else if flags.verbose && c == '#' then
        skipUntil '\n' false ((← get).rest.length + 1)
        readSequence n first flags done
      else match c with
        | '[' =>
          let test ← setAfterBracket flags
          readSequence n first flags ({ node := .char test } :: done)
        | '?' => readSequence n first flags (← repeatLast 0 (some 1) done)
        | '*' => readSequence n first flags (← repeatLast 0 none done)
        | '+' => readSequence n first flags (← repeatLast 1 none done)
        | '\x7b' =>
          match ← braces with
          | none => readSequence n first flags ({ node := letter flags 0x7B } :: done)
          | some (least, most) => readSequence n first flags (← repeatLast least most done)
        | '(' =>
          match ← opening with
          | .comment => readSequence n first flags done
          | .global added =>
            require (first && done.isEmpty)
            modify fun s => { s with flags := s.flags.union added }
            readSequence n first (← get).flags done
          | .again group =>
            let node ← reference flags group
            readSequence n first flags ({ node } :: done)
          | o =>
            let item ← readGroup n flags o
            readSequence n first flags (item :: done)
        | c => readSequence n first flags (simpleItem flags c :: done)

/-- Reads a group after its opening. -/
def readGroup : Nat → Flags → Opening → Reading Item
  | 0, _, _ => malformed
  | n + 1, flags, o => do
    match o with
    | .capture name =>
      let group ← openGroup name
      let body ← readAlternatives n false flags
      expect ')'
      let node := joined body
      closeGroup group node.width
      return { node := .capture group node }
    | .bare =>
      let body ← readAlternatives n false flags
      expect ')'
      return { node := joined body, inner := some body }
    | .atomic =>
      let body ← readAlternatives n false flags
      expect ')'
      return { node := .atomic (joined body) }
    | .scoped added removed =>
      let body ← readAlternatives n false (flags.within added removed)
      expect ')'
      let plain := added.isEmpty && removed.isEmpty
      return { node := joined body, inner := if plain then some body else none, closed := !plain }
    | .ahead negated =>
      let body ← readAlternatives n false flags
      expect ')'
      return { node := .ahead negated (joined body) }
    | .behind negated =>
      let outer := (← get).groupsBefore
      modify fun s => { s with groupsBefore := outer.orElse fun _ => some s.groups.length }
      let body ← readAlternatives n false flags
      modify fun s => { s with groupsBefore := outer }
      expect ')'
      lookBehind negated body
    | .whether group =>
      let yes ← readSequence n false flags []
      let no ← if ← accept '|' then
          let no ← readSequence n false flags []
          require ((← peek?) != some (.char '|'))
          pure (joined no)
        else pure .empty
      expect ')'
      return { node := .whether group (joined yes) no }
    | _ => malformed

end

/-- The test on the first character of a pattern that begins with one. -/
def leadingTest? : Node → Option CharTest
  | .char t => some t
  | .seq a _ => leadingTest? a
  | .capture _ body => leadingTest? body
  | _ => none

/-- A member of a set with its kind taken from another alphabet. -/
def SetItem.inAlphabet (ascii : Bool) : SetItem → SetItem
  | .kind k _ negated => .kind k ascii negated
  | item => item

/-- A pattern that begins with a set.  Where it may begin is decided with the kinds of
characters of the whole pattern's alphabet, whatever alphabet a group at its start has. -/
def startingIn (ascii : Bool) (node : Node) : Node :=
  match leadingTest? node with
  | some (.set negated items _) =>
    let lead := items.map (·.inAlphabet ascii)
    if lead == items then node
    else .seq (.ahead false (.char (.set negated lead .exact))) node
  | _ => node

/-- The pattern that a text writes. -/
def read (text : String) : Except Defect Node := do
  let ts := tokens text.toList
  let reading : Reading (List Item) := do
    require (ts.head? != some .dangling)
    let items ← readAlternatives (4 * ts.length + 4) true {}
    let s ← get
    if s.flags.ascii && s.flags.unicode then throw .alphabetConflict
    require (s.rest.isEmpty && s.asked.all (· ≤ s.groups.length) && !s.late)
    return items
  let (items, s) ← reading.run { rest := ts }
  return startingIn s.flags.ascii (joined items)

end Pattern

end StoryServer
