import StoryServer.Text.Quoted

/-!
# Text from octets

A JSON document may arrive in UTF-8, UTF-16 or UTF-32, with or without a byte order
mark.  `detect` tells the encoding from the first octets: a mark decides, and without
one the pattern of zero octets around the first two characters does, for these are
ASCII in every JSON document.

The decoders give code points, and stop at the first octets that stand for none and tell
which.  In a text a surrogate without a partner is the replacement character.
-/

namespace StoryServer

/-- Octets. -/
abbrev Octets := List UInt8

namespace Encoding

/-! ## Defects -/

/-- What is wrong with a run of octets. -/
inductive Trouble where
  /-- An octet that begins no character. -/
  | invalidStart
  /-- A character that is not continued as it began. -/
  | invalidContinuation
  /-- The octets end inside a character. -/
  | unexpectedEnd
  /-- The octets end inside a code unit. -/
  | truncated
  /-- A code point beyond the last one. -/
  | outOfRange
  deriving DecidableEq, Repr

/-- The words for a trouble. -/
def Trouble.message : Trouble → String
  | .invalidStart => "invalid start byte"
  | .invalidContinuation => "invalid continuation byte"
  | .unexpectedEnd => "unexpected end of data"
  | .truncated => "truncated data"
  | .outOfRange => "code point not in range(0x110000)"

/-- Octets that stand for no character. -/
structure Defect where
  codec : String
  /-- The position of the first of them. -/
  first : Nat
  /-- The octets themselves, at least one. -/
  octets : Octets
  trouble : Trouble
  deriving DecidableEq, Repr

/-- What is said about octets that stand for no character. -/
def Defect.message (d : Defect) : String :=
  let place := match d.octets with
    | [b] => "byte 0x" ++ String.ofList (Text.hex 2 b.toNat) ++ s!" in position {d.first}"
    | bs => s!"bytes in position {d.first}-{d.first + bs.length - 1}"
  s!"'{d.codec}' codec can't decode {place}: {d.trouble.message}"

/-! ## UTF-8 -/

/-- Whether an octet continues a character. -/
def continues (b : UInt8) : Bool := 0x80 ≤ b && b < 0xC0

/-- The six bits of a continuation. -/
def payload (b : UInt8) : Nat := b.toNat % 64

/-- The number of continuations that a first octet asks for; none for an octet that
begins no character. -/
def continuations? (b : UInt8) : Option Nat :=
  if b < 0x80 then some 0
  else if b < 0xC2 then none
  else if b < 0xE0 then some 1
  else if b < 0xF0 then some 2
  else if b < 0xF5 then some 3
  else none

/-- Whether an octet may follow a given first octet: it is a continuation, it makes no
overlong form and no number beyond the last code point. -/
def secondFits (first b : UInt8) : Bool :=
  continues b && !(first == 0xE0 && b < 0xA0) && !(first == 0xF0 && b < 0x90)
    && !(first == 0xF4 && b ≥ 0x90)

/-- The code point of a first octet with its continuations. -/
def assemble (first : UInt8) (rest : Octets) : Nat :=
  let head := match rest.length with
    | 0 => first.toNat
    | 1 => first.toNat % 32
    | 2 => first.toNat % 16
    | _ => first.toNat % 8
  rest.foldl (fun n b => n * 64 + payload b) head

/-- How many of the octets after a first octet continue it, at most `n`. -/
def fitting (first : UInt8) (n : Nat) (rest : Octets) : Nat :=
  match n, rest with
  | 0, _ => 0
  | _, [] => 0
  | n + 1, b :: more =>
    if secondFits first b then 1 + ((more.take n).takeWhile continues).length else 0

/-- Whether a first octet and its continuations, as far as present, are a surrogate.
Such a group is one character only when it is complete. -/
def surrogateGroup (first : UInt8) (rest : Octets) : Bool :=
  match rest with
  | b :: _ => first == 0xED && b ≥ 0xA0
  | [] => false

/-- Decodes UTF-8 from a position on. -/
def utf8From : Nat → Octets → Nat → Except Defect (List Nat)
  | 0, _, _ => .ok []
  | _ + 1, [], _ => .ok []
  | fuel + 1, b :: rest, pos =>
    match continuations? b with
    | none => .error ⟨"utf-8", pos, [b], .invalidStart⟩
    | some n =>
      let k := fitting b n rest
      if k = n then do
        let tail ← utf8From fuel (rest.drop n) (pos + n + 1)
        pure (assemble b (rest.take n) :: tail)
      else if surrogateGroup b rest then .error ⟨"utf-8", pos, [b], .invalidContinuation⟩
      else if rest.length = k then .error ⟨"utf-8", pos, b :: rest, .unexpectedEnd⟩
      else .error ⟨"utf-8", pos, b :: rest.take k, .invalidContinuation⟩

def utf8 (bs : Octets) : Except Defect (List Nat) := utf8From (bs.length + 1) bs 0

/-! ## UTF-16 and UTF-32 -/

/-- The order of the octets of a code unit. -/
inductive Endian where
  | big
  | little
  deriving DecidableEq, Repr

/-- A code unit from its octets. -/
def Endian.unit (e : Endian) (bs : Octets) : Nat :=
  let ordered := match e with
    | .big => bs
    | .little => bs.reverse
  ordered.foldl (fun n b => n * 256 + b.toNat) 0

/-- The end of an encoding's name. -/
def Endian.suffix : Endian → String
  | .big => "-be"
  | .little => "-le"

/-- The code units of two octets, from a position on. -/
def units16 (e : Endian) : Octets → Nat → Except Defect (List Nat)
  | [], _ => .ok []
  | [b], pos => .error ⟨"utf-16" ++ e.suffix, pos, [b], .truncated⟩
  | a :: b :: rest, pos => do
    let tail ← units16 e rest (pos + 2)
    pure (e.unit [a, b] :: tail)

def joinSurrogates : List Nat → List Nat
  | [] => []
  | [u] => [u]
  | u :: v :: rest =>
    if 0xD800 ≤ u ∧ u ≤ 0xDBFF ∧ 0xDC00 ≤ v ∧ v ≤ 0xDFFF then
      (0x10000 + (u - 0xD800) * 0x400 + (v - 0xDC00)) :: joinSurrogates rest
    else u :: joinSurrogates (v :: rest)

/-- Decodes UTF-16 from a position on. -/
def utf16 (e : Endian) (bs : Octets) (pos : Nat) : Except Defect (List Nat) :=
  (units16 e bs pos).map joinSurrogates

/-- Decodes UTF-32 from a position on. -/
def utf32 (e : Endian) : Octets → Nat → Except Defect (List Nat)
  | [], _ => .ok []
  | a :: b :: c :: d :: rest, pos =>
    let n := e.unit [a, b, c, d]
    if n < 0x110000 then do
      let tail ← utf32 e rest (pos + 4)
      pure (n :: tail)
    else .error ⟨"utf-32" ++ e.suffix, pos, [a, b, c, d], .outOfRange⟩
  | bs, pos => .error ⟨"utf-32" ++ e.suffix, pos, bs, .truncated⟩

/-! ## Detection -/

/-- The encodings of a JSON document. -/
inductive Scheme where
  | utf8
  /-- UTF-8 after a byte order mark. -/
  | utf8Marked
  /-- UTF-16, after a byte order mark or not. -/
  | utf16 (order : Endian) (marked : Bool)
  /-- UTF-32, after a byte order mark or not. -/
  | utf32 (order : Endian) (marked : Bool)
  deriving DecidableEq, Repr

/-- The encoding of a document by its first octets. -/
def detect : Octets → Scheme
  | 0x00 :: 0x00 :: 0xFE :: 0xFF :: _ => .utf32 .big true
  | 0xFF :: 0xFE :: 0x00 :: 0x00 :: _ => .utf32 .little true
  | 0xFE :: 0xFF :: _ => .utf16 .big true
  | 0xFF :: 0xFE :: _ => .utf16 .little true
  | 0xEF :: 0xBB :: 0xBF :: _ => .utf8Marked
  | a :: b :: c :: d :: _ =>
    if a = 0 then (if b = 0 then .utf32 .big false else .utf16 .big false)
    else if b = 0 then
      (if c = 0 ∧ d = 0 then .utf32 .little false else .utf16 .little false)
    else .utf8
  | [a, b] =>
    if a = 0 then .utf16 .big false else if b = 0 then .utf16 .little false else .utf8
  | _ => .utf8

/-- The code points of a JSON document. -/
def codePoints (bs : Octets) : Except Defect (List Nat) :=
  match detect bs with
  | .utf8 => utf8 bs
  | .utf8Marked => utf8 (bs.drop 3)
  | .utf16 e marked => if marked then utf16 e (bs.drop 2) 2 else utf16 e bs 0
  | .utf32 e marked => if marked then utf32 e (bs.drop 4) 4 else utf32 e bs 0

/-! ## Texts -/

/-- Whether a code point is one half of a pair. -/
def isSurrogate (n : Nat) : Bool := 0xD800 ≤ n && n ≤ 0xDFFF

/-- The character of a code point; a surrogate gives the replacement character. -/
def charOf (n : Nat) : Char := if isSurrogate n then '\uFFFD' else Char.ofNat n

/-- The text of code points. -/
def textOf (points : List Nat) : String := String.ofList (points.map charOf)

/-- The text of a JSON document. -/
def decode (bs : Octets) : Except Defect String := (codePoints bs).map textOf

end Encoding

end StoryServer
