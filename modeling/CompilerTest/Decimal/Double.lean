/-!
# Binary floating-point numbers

Numbers with a fraction are kept in the 64-bit binary format, as sign, significand and exponent, so
that reading a decimal numeral and comparing it with a whole number are exact integer arithmetic.
The main function is `Double.ofRatio`, which rounds a fraction to the nearest such number, a tie
going to the even significand.
-/

namespace CompilerTest

/-- A number of the 64-bit binary format. -/
inductive Double where
  /-- Not a number. -/
  | nan
  /-- An infinity. -/
  | infinite (negative : Bool)
  /-- The number `significand * 2 ^ exponent`, with its sign. -/
  | finite (negative : Bool) (significand : Nat) (exponent : Int)
  deriving DecidableEq, Inhabited, Repr

namespace Double

/-- The least exponent of the format. -/
def minExponent : Int := -1074

/-- The greatest exponent of the format. -/
def maxExponent : Int := 971

/-- Zero, with a sign. -/
def zero (negative : Bool) : Double := .finite negative 0 minExponent

/-- The fraction `num / den`, divided by `2 ^ q` and rounded to the nearest whole number, a tie
going to the even one. -/
def roundScaled (num den : Nat) (q : Int) : Nat :=
  let n := if q < 0 then num * Nat.pow 2 (-q).toNat else num
  let d := if q < 0 then den else den * Nat.pow 2 q.toNat
  let whole := n / d
  let twice := 2 * (n % d)
  if twice > d || (twice == d && whole % 2 == 1) then whole + 1 else whole

/-- The exponent at which `num / den` has a significand of 53 bits, but no less than the least
exponent of the format. -/
def exponentFor (num den : Nat) : Int :=
  let q := (Nat.log2 num : Int) - Nat.log2 den - 52
  let n := if q < 0 then num * Nat.pow 2 (-q).toNat else num
  let d := if q < 0 then den else den * Nat.pow 2 q.toNat
  max minExponent (if n / d < Nat.pow 2 52 then q - 1 else q)

/-- The number nearest to `num / den`, with a sign. -/
def ofRatio (negative : Bool) (num den : Nat) : Double :=
  if num = 0 then zero negative
  else
    let q := exponentFor num den
    let s := roundScaled num den q
    let (s, q) := if s = Nat.pow 2 53 then (Nat.pow 2 52, q + 1) else (s, q)
    if q > maxExponent then .infinite negative else .finite negative s q

/-- The number nearest to `digits * 10 ^ exponent`, with a sign. Numerals far outside the range of
the format are decided by their order of magnitude. -/
def ofDecimal (negative : Bool) (digits : Nat) (exponent : Int) : Double :=
  let order := (Nat.toDigits 10 digits).length + exponent
  if digits = 0 || order < -330 then zero negative
  else if order > 310 then .infinite negative
  else if exponent < 0 then ofRatio negative digits (Nat.pow 10 (-exponent).toNat)
  else ofRatio negative (digits * Nat.pow 10 exponent.toNat) 1

/-- The number with its fraction cut off, toward zero; nothing if it is not finite. -/
def truncate? : Double → Option Int
  | .finite negative s e =>
    let n : Nat := if e < 0 then s / Nat.pow 2 (-e).toNat else s * Nat.pow 2 e.toNat
    some (if negative then -n else n)
  | _ => none

/-- Whether the number has no fraction. -/
def isWhole : Double → Bool
  | .finite _ s e => if e < 0 then s % Nat.pow 2 (-e).toNat == 0 else true
  | _ => false

/-- The whole number that this number is equal to, if there is one. -/
def whole? (x : Double) : Option Int := if x.isWhole then x.truncate? else none

/-- Whether the number is below the whole number `n`. -/
def below (x : Double) (n : Int) : Bool :=
  match x with
  | .nan => false
  | .infinite negative => negative
  | .finite negative s e =>
    let num : Int := if e < 0 then s else s * Nat.pow 2 e.toNat
    let bound : Int := if e < 0 then n * Nat.pow 2 (-e).toNat else n
    (if negative then -num else num) < bound

end Double

end CompilerTest
