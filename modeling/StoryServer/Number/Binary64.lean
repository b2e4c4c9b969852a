/-!
# Double-precision numbers

A number with a fraction is an IEEE 754 double, held by its three fields.  Every
combination of the fields of `finite` is a double and no double has two
combinations, so equality of values of this type is equality of doubles, with the
two zeros apart and one not-a-number.

Arithmetic is exact arithmetic followed by one rounding.  A finite double is an
integer multiple of `2^-1074`; that integer is `scaled`, and `magnitude` is its
absolute value.  A rational magnitude in the same unit is rounded by `nearest`: to
the nearest double, a tie to the even significand, and past the largest double to
infinity.  So `add`, `mul` and the reading of decimals are each one line of integer
arithmetic and one call of `nearest`.

Nothing here uses the machine's floating point, so every closed case is decided by
evaluation.
-/

namespace StoryServer

/-- An IEEE 754 double. -/
inductive Binary64 where
  | nan
  | infinite (negative : Bool)
  /-- A finite number: its sign, its biased exponent and the fraction bits. -/
  | finite (negative : Bool) (exponent : Fin 2047) (fraction : Fin 4503599627370496)
  deriving DecidableEq, Repr, Inhabited

namespace Binary64

/-! ## The value of a finite double -/

/-- The significand: the fraction bits under the leading one that a normal number
leaves unwritten. -/
def significand (exponent : Fin 2047) (fraction : Fin 4503599627370496) : Nat :=
  if exponent.val = 0 then fraction.val else Nat.pow 2 52 + fraction.val

/-- The significand counts units of `2 ^ shift` times the smallest positive double. -/
def shift (exponent : Fin 2047) : Nat := exponent.val - 1

/-- The absolute value of a finite double in units of `2^-1074`; zero of the others. -/
def magnitude : Binary64 → Nat
  | .finite _ e f => significand e f * Nat.pow 2 (shift e)
  | _ => 0

/-- Whether the sign bit is set. -/
def isNegative : Binary64 → Bool
  | .nan => false
  | .infinite n => n
  | .finite n _ _ => n

/-- The value of a finite double in units of `2^-1074`. -/
def scaled (x : Binary64) : Int :=
  if x.isNegative then -(x.magnitude : Int) else x.magnitude

/-- The unit of `magnitude`: this many of them make one. -/
def unit : Nat := Nat.pow 2 1074

def zero (negative : Bool) : Binary64 := .finite negative 0 0

/-- Whether a double is one of the two zeros. -/
def isZero (x : Binary64) : Bool :=
  match x with
  | .finite _ e f => e.val == 0 && f.val == 0
  | _ => false

/-! ## Rounding -/

/-- The quotient rounded to the nearest integer, a tie to the even one. -/
def roundDiv (num den : Nat) : Nat :=
  let q := num / den
  let r := num % den
  if 2 * r < den then q
  else if 2 * r = den then q + q % 2
  else q + 1

/-- The finite double with this significand and shift, or infinity when there is
none that large. -/
def ofSignificand (negative : Bool) (m p : Nat) : Binary64 :=
  if m < Nat.pow 2 52 then
    .finite negative 0 (Fin.ofNat _ m)
  else if p + 1 < 2047 then
    .finite negative (Fin.ofNat _ (p + 1)) (Fin.ofNat _ (m - Nat.pow 2 52))
  else .infinite negative

/-- The double nearest to `num / den` units of `2^-1074`.  The shift is chosen so
that the significand has 53 bits, or is zero for the smallest numbers; rounding up
to the next power of two moves to the next shift. -/
def nearest (negative : Bool) (num den : Nat) : Binary64 :=
  let p := Nat.log2 (num / den) - 52
  let m := roundDiv num (den * Nat.pow 2 p)
  if m = Nat.pow 2 53 then ofSignificand negative (Nat.pow 2 52) (p + 1) else ofSignificand negative m p

/-! ## Integers -/

/-- The double nearest to an integer; infinite when the integer is too large. -/
def ofInt (n : Int) : Binary64 := nearest (n < 0) (n.natAbs * unit) 1

/-- The integer part of a finite double, toward zero. -/
def truncate? : Binary64 → Option Int
  | x@(.finite n _ _) =>
    let m := x.magnitude / unit
    some (if n then -(m : Int) else m)
  | _ => none

/-- Whether a double is a whole number. -/
def isWhole : Binary64 → Bool
  | x@(.finite ..) => x.magnitude % unit == 0
  | _ => false

/-! ## Arithmetic and order -/

/-- The double with the other sign. -/
def neg : Binary64 → Binary64
  | .nan => .nan
  | .infinite n => .infinite !n
  | .finite n e f => .finite (!n) e f

/-- Addition.  An exact zero has the sign of both operands when they agree and is
positive otherwise. -/
def add : Binary64 → Binary64 → Binary64
  | .nan, _ => .nan
  | _, .nan => .nan
  | .infinite a, .infinite b => if a == b then .infinite a else .nan
  | .infinite a, _ => .infinite a
  | _, .infinite b => .infinite b
  | x, y =>
    let s := x.scaled + y.scaled
    if s = 0 then zero (x.isNegative && y.isNegative) else nearest (s < 0) s.natAbs 1

/-- Subtraction is addition of the other sign. -/
def sub (x y : Binary64) : Binary64 := add x y.neg

def mul (x y : Binary64) : Binary64 :=
  let negative := x.isNegative != y.isNegative
  match x, y with
  | .nan, _ => .nan
  | _, .nan => .nan
  | .infinite _, b => if b.isZero then .nan else .infinite negative
  | a, .infinite _ => if a.isZero then .nan else .infinite negative
  | a, b => nearest negative (a.magnitude * b.magnitude) unit

/-- Strictly less; a not-a-number is less than nothing and nothing is less than it. -/
def blt : Binary64 → Binary64 → Bool
  | .nan, _ => false
  | _, .nan => false
  | .infinite a, .infinite b => a && !b
  | .infinite a, _ => a
  | _, .infinite b => !b
  | x, y => x.scaled < y.scaled

/-! ## Decimals -/

/-- The double nearest to `digits * 10 ^ exponent`.  Exponents far outside the range
of doubles are answered before any power of ten is computed. -/
def ofDecimal (negative : Bool) (digits : Nat) (exponent : Int) : Binary64 :=
  if digits = 0 then zero negative
  else
    let size : Int := (Nat.toDigits 10 digits).length + exponent
    if size > 310 then .infinite negative
    else if size < -330 then zero negative
    else if exponent < 0 then nearest negative (digits * unit) (Nat.pow 10 exponent.natAbs)
    else nearest negative (digits * Nat.pow 10 exponent.natAbs * unit) 1

example : ofInt 1 = .finite false 1023 0 := by decide +kernel
example : add (ofDecimal false 1 (-1)) (ofDecimal false 2 (-1))
    = ofDecimal false 30000000000000004 (-17) := by decide +kernel
example : nearest false 1 2 = zero false := by decide +kernel

end Binary64

end StoryServer
