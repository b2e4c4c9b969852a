import StoryServer.Number.Binary64

/-!
# Decimal text of doubles

The text of a double has two parts.  `Binary64.shortest` chooses the digits: the
fewest that read back as the same double, and of two candidates the nearer.
`Layout` says how a format writes chosen digits: where positional notation ends,
whether a whole number keeps its point, how an exponent looks, and the words for
what has no digits.

The digits are found in exact integer arithmetic.  The reals that round to a double
form an interval around it, closed when its significand is even.  On the grid of
decimals with `n` digits only the two neighbours of the value can be the nearest
point inside, so the search tests these two for `n = 1, 2, …, 17`, and seventeen
digits always suffice.
-/

namespace StoryServer

/-! ## Digits -/

/-- A positive decimal: `digits` is read as a fraction with its first digit before
the point, times ten to the `exponent`. -/
structure Decimal where
  digits : List Char
  /-- The exponent of the first digit. -/
  exponent : Int
  deriving DecidableEq, Repr

namespace Binary64

/-- A positive rational as a numerator and a denominator. -/
structure Quotient where
  num : Nat
  den : Nat

/-- `m * 2 ^ q * 10 ^ t` as a quotient. -/
def scale (m : Nat) (q t : Int) : Quotient :=
  ⟨m * Nat.pow 2 q.toNat * Nat.pow 10 t.toNat, Nat.pow 2 (-q).toNat * Nat.pow 10 (-t).toNat⟩

/-- The exponent of the first decimal digit of `m * 2 ^ q`, from an estimate by the
binary logarithm that is at most two too small. -/
def leadingExponent (m : Nat) (q : Int) : Int :=
  let estimate : Int := ((Nat.log2 m : Int) + q) * 30103 / 100000 - 1
  let below (k : Int) : Bool := let x := scale m q (-k); x.num < x.den
  if below (estimate + 1) then estimate
  else if below (estimate + 2) then estimate + 1
  else if below (estimate + 3) then estimate + 2
  else estimate + 3

/-- The point of the grid with `n` digits that lies nearest to `m * 2 ^ q` among the
points that read back as it, if there is one.  `narrow` says that the interval is
half as wide below the value, which happens at powers of two. -/
def gridPoint? (m : Nat) (q k : Int) (narrow : Bool) (n : Nat) : Option Nat :=
  let t : Int := (n : Int) - 1 - k
  let x := scale (4 * m) (q - 2) t
  let above := (scale 2 (q - 2) t)
  let below := if narrow then (scale 1 (q - 2) t) else above
  let d := x.num / x.den
  let r := x.num % x.den
  let inside (distance width : Nat) : Bool :=
    if m % 2 = 0 then distance ≤ width else distance < width
  let low := inside r below.num
  let high := inside (x.den - r) above.num
  match low, high with
  | true, true =>
    if 2 * r < x.den then some d
    else if 2 * r = x.den then some (d + d % 2)
    else some (d + 1)
  | true, false => some d
  | false, true => some (d + 1)
  | false, false => none

/-- The first grid with a point, from `n` digits on. -/
def firstGrid (m : Nat) (q k : Int) (narrow : Bool) : Nat → Nat → Nat × Nat
  | 0, n => ((gridPoint? m q k narrow n).getD 0, n)
  | fuel + 1, n =>
    match gridPoint? m q k narrow n with
    | some d => (d, n)
    | none => firstGrid m q k narrow fuel (n + 1)

/-- A list of digits without its trailing zeros. -/
def dropTrailingZeros (ds : List Char) : List Char :=
  (ds.reverse.dropWhile (· == '0')).reverse

/-- The fewest decimal digits that read back as this finite positive double. -/
def shortest (exponent : Fin 2047) (fraction : Fin 4503599627370496) : Decimal :=
  let m := significand exponent fraction
  let q : Int := (shift exponent : Int) - 1074
  let k := leadingExponent m q
  let narrow := fraction.val == 0 && exponent.val > 1
  let (d, n) := firstGrid m q k narrow 16 1
  let ds := Nat.toDigits 10 d
  ⟨dropTrailingZeros ds, k + ((ds.length : Int) - n)⟩

end Binary64

/-! ## Layout -/

/-- How a format writes doubles. -/
structure Layout where
  /-- Exponents from here on are written positionally. -/
  positionalFrom : Int
  /-- Exponents from here on are written with an exponent again. -/
  positionalBelow : Int
  /-- Whether a whole number in positional notation ends in `.0`. -/
  keepPoint : Bool
  /-- The least number of digits of an exponent. -/
  exponentDigits : Nat
  /-- Whether negative zero keeps its sign. -/
  signedZero : Bool
  nan : String
  infinity : String
  negativeInfinity : String := "-" ++ infinity

namespace Layout

/-- Zeros in front up to a least length. -/
def padLeft (n : Nat) (ds : List Char) : List Char :=
  List.replicate (n - ds.length) '0' ++ ds

/-- Digits with an exponent: one digit, a point when more follow, and the exponent
with its sign. -/
def scientific (l : Layout) (d : Decimal) : List Char :=
  let mantissa := match d.digits with
    | [] => ['0']
    | [c] => [c]
    | c :: rest => c :: '.' :: rest
  let sign := if d.exponent < 0 then '-' else '+'
  mantissa ++ 'e' :: sign :: padLeft l.exponentDigits (Nat.toDigits 10 d.exponent.natAbs)

def positional (l : Layout) (d : Decimal) : List Char :=
  let point := if l.keepPoint then ['.', '0'] else []
  if d.exponent < 0 then
    '0' :: '.' :: (List.replicate (d.exponent.natAbs - 1) '0' ++ d.digits)
  else
    let whole := d.exponent.natAbs + 1
    if d.digits.length ≤ whole then
      d.digits ++ List.replicate (whole - d.digits.length) '0' ++ point
    else d.digits.take whole ++ '.' :: d.digits.drop whole

/-- The text of a double. -/
def text (l : Layout) : Binary64 → List Char
  | .nan => l.nan.toList
  | .infinite n => if n then l.negativeInfinity.toList else l.infinity.toList
  | x@(.finite n e f) =>
    if x.isZero then
      (if n && l.signedZero then ['-'] else []) ++ '0' :: (if l.keepPoint then ['.', '0'] else [])
    else
      let d := Binary64.shortest e f
      (if n then ['-'] else []) ++
        (if l.positionalFrom ≤ d.exponent ∧ d.exponent < l.positionalBelow then l.positional d
         else l.scientific d)

end Layout

/-! ## Fixed places -/

namespace Binary64

/-- A double with `places` digits after the point, the exact value rounded to the
nearest and a tie to the even digit. -/
def fixed (places : Nat) : Binary64 → String
  | .nan => "nan"
  | .infinite n => if n then "-inf" else "inf"
  | x@(.finite n _ _) =>
    let d := roundDiv (x.magnitude * Nat.pow 10 places) unit
    let ds := Layout.padLeft (places + 1) (Nat.toDigits 10 d)
    let whole := ds.take (ds.length - places)
    let rest := ds.drop (ds.length - places)
    String.ofList ((if n then ['-'] else []) ++ whole ++ (if places = 0 then [] else '.' :: rest))

end Binary64

end StoryServer
