import CompilerTest.Decimal.Double

/-!
# Shortest decimal text of a floating-point number

The text of a number has the fewest digits that read back as the number, and of those the digits
nearest to it. Grids of one to seventeen significant digits are tried in turn; on each, the two
neighbours of the number are the only candidates.
-/

namespace CompilerTest.Decimal

/-- A positive number as the fraction `num / den`, with the ends of the interval of reals that round
to it, over the same denominator. -/
structure Rounding where
  /-- The numerator of the number. -/
  num : Nat
  /-- The numerator of the lower end. -/
  low : Nat
  /-- The numerator of the upper end. -/
  high : Nat
  /-- The common denominator. -/
  den : Nat
  /-- Whether the ends themselves round to the number. -/
  closed : Bool

/-- The rounding interval of `s * 2 ^ e`. Below a power of two the next number is half as far away
as above it. -/
def Rounding.of (s : Nat) (e : Int) : Rounding :=
  let shift := e - 2
  let scale (n : Nat) : Nat := if shift < 0 then n else n * Nat.pow 2 shift.toNat
  { num := scale (4 * s)
    low := scale (if s = Nat.pow 2 52 && e > Double.minExponent then 4 * s - 1 else 4 * s - 2)
    high := scale (4 * s + 2)
    den := if shift < 0 then Nat.pow 2 (-shift).toNat else 1
    closed := s % 2 == 0 }

/-- Whether `m * 10 ^ p` lies in the interval. -/
def Rounding.holds (r : Rounding) (m : Nat) (p : Int) : Bool :=
  let n := if p < 0 then m * r.den else m * Nat.pow 10 p.toNat * r.den
  let scale (x : Nat) : Nat := if p < 0 then x * Nat.pow 10 (-p).toNat else x
  if r.closed then scale r.low ≤ n && n ≤ scale r.high else scale r.low < n && n < scale r.high

/-- The number of digits before the decimal point of `num / den`; not positive if the fraction
begins with zeros. `fuel` bounds the zeros. -/
def pointPosition (num den : Nat) : Nat → Int
  | 0 => 0
  | fuel + 1 =>
    if num ≥ den then (Nat.toDigits 10 (num / den)).length
    else if 10 * num ≥ den then 0
    else pointPosition (10 * num) den fuel - 1

/-- The candidate on the grid of multiples of `10 ^ p`, if the interval holds one: the nearer of the
two neighbours of the number, the even one on a tie. -/
def Rounding.onGrid? (r : Rounding) (p : Int) : Option Nat :=
  let n := if p < 0 then r.num * Nat.pow 10 (-p).toNat else r.num
  let d := if p < 0 then r.den else r.den * Nat.pow 10 p.toNat
  let below := n / d
  let twice := 2 * (n % d)
  let upFirst := twice > d || (twice == d && below % 2 == 1)
  let near := if upFirst then below + 1 else below
  let far := if upFirst then below else below + 1
  if r.holds near p then some near else if r.holds far p then some far else none

/-- The shortest decimal `m * 10 ^ p` that reads back as `s * 2 ^ e`. -/
def shortest (s : Nat) (e : Int) : Nat × Int :=
  let r := Rounding.of s e
  let point := pointPosition r.num r.den 400
  let grids := (List.range 17).map fun i : Nat => point - (i + 1 : Nat)
  match grids.findSome? fun p => (r.onGrid? p).map (·, p) with
  | some found => found
  | none => (0, 0)

/-- How a number is laid out: positional between the two bounds on the position of the point, with
an exponent outside them. -/
structure Layout where
  /-- Positional if the point stands after at most this many digits. -/
  most : Int
  /-- Positional if the point stands after more digits than this. -/
  least : Int

/-- Numbers of up to sixteen digits before the point, and with up to three zeros after it, are
positional. -/
def standard : Layout := ⟨16, -4⟩

/-- The exponent part: a sign and at least two digits. -/
def exponentText (e : Int) : String :=
  let digits := Nat.toDigits 10 e.natAbs
  let digits := if digits.length < 2 then '0' :: digits else digits
  String.ofList ('e' :: (if e < 0 then '-' else '+') :: digits)

/-- The digits of `m` without the zeros at the end, and the position of the point in
`m * 10 ^ p`. -/
def significant (m : Nat) (p : Int) : List Char × Int :=
  let digits := Nat.toDigits 10 m
  ((digits.reverse.dropWhile (· == '0')).reverse, digits.length + p)

/-- The text of the positive number with these digits and this position of the point. A number
without a fraction ends in a point and a zero when it is positional. -/
def layOut (layout : Layout) (digits : List Char) (point : Int) : String :=
  if layout.least < point && point ≤ layout.most then
    if point ≤ 0 then
      "0." ++ String.ofList (List.replicate (-point).toNat '0' ++ digits)
    else
      let n := point.toNat
      let padded := digits ++ List.replicate (n - digits.length) '0'
      let fraction := padded.drop n
      String.ofList (padded.take n ++ '.' :: (if fraction.isEmpty then ['0'] else fraction))
  else
    let head := digits.take 1
    let fraction := digits.drop 1
    String.ofList (if fraction.isEmpty then head else head ++ '.' :: fraction) ++
      exponentText (point - 1)

end CompilerTest.Decimal

namespace CompilerTest

/-- The text of a floating-point number. -/
def Double.text : Double → String
  | .nan => "nan"
  | .infinite negative => if negative then "-inf" else "inf"
  | .finite negative s e =>
    let body :=
      if s = 0 then "0.0"
      else
        let (m, p) := Decimal.shortest s e
        let (digits, point) := Decimal.significant m p
        Decimal.layOut Decimal.standard digits point
    if negative then "-" ++ body else body

end CompilerTest
