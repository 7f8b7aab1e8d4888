/-!
# Binary floating point numbers

The numbers of the 64-bit binary format, as exact values: the number nearest to a decimal, ties
going to the even significand, and the shortest decimal that leads back to a number.  All
arithmetic is on whole numbers.
-/

namespace RecipeMatrix

/-- A number of the 64-bit binary format.  A finite one is `significand * 2 ^ exponent`, with at
most 53 binary digits in the significand and an exponent of at least -1074. -/
inductive Binary64
  | notANumber
  | infinite (negative : Bool)
  | finite (negative : Bool) (significand : Nat) (exponent : Int)
  deriving DecidableEq, Repr

namespace Binary64

/-- The least exponent of a finite number. -/
def minExponent : Int := -1074

/-- The greatest exponent of a finite number. -/
def maxExponent : Int := 971

/-- The first significand with 53 binary digits. -/
def fullSignificand : Nat := Nat.pow 2 52

/-- The whole number nearest to a quotient, a tie going to the even one. -/
def roundedQuotient (numerator denominator : Nat) : Nat :=
  let quotient := numerator / denominator
  let twice := 2 * (numerator % denominator)
  if twice < denominator then quotient
  else if denominator < twice then quotient + 1
  else if quotient % 2 = 0 then quotient
  else quotient + 1

/-- A quotient divided by a power of two, as a quotient. -/
def scaledDown (numerator denominator : Nat) (exponent : Int) : Nat × Nat :=
  if exponent < 0 then (numerator * Nat.pow 2 (-exponent).toNat, denominator)
  else (numerator, denominator * Nat.pow 2 exponent.toNat)

/-- The finite or infinite number nearest to a quotient that is not zero. -/
def ofQuotient (negative : Bool) (numerator denominator : Nat) : Binary64 :=
  let guess : Int := (numerator.log2 : Int) - (denominator.log2 : Int) - 52
  let (above, below) := scaledDown numerator denominator guess
  let exact := if above < below * fullSignificand then guess - 1 else guess
  let exponent := max exact minExponent
  let (above, below) := scaledDown numerator denominator exponent
  let rounded := roundedQuotient above below
  let (significand, exponent) :=
    if rounded = 2 * fullSignificand then (fullSignificand, exponent + 1)
    else (rounded, exponent)
  if maxExponent < exponent then .infinite negative else .finite negative significand exponent

/-- The number nearest to `digits * 10 ^ exponent`.  Decimals far outside the range of the
format are settled by their size alone. -/
def ofDecimal (negative : Bool) (digits : Nat) (exponent : Int) : Binary64 :=
  let size : Int := (Nat.toDigits 10 digits).length + exponent
  if digits = 0 || size < -400 then .finite negative 0 minExponent
  else if 400 < size then .infinite negative
  else if exponent < 0 then ofQuotient negative digits (Nat.pow 10 (-exponent).toNat)
  else ofQuotient negative (digits * Nat.pow 10 exponent.toNat) 1

/-! ## The shortest decimal -/

/-- An interval of quotients with one denominator, and whether its ends belong to it. -/
structure Interval where
  low : Nat
  middle : Nat
  high : Nat
  denominator : Nat
  closed : Bool

/-- The quotients that round to a significand and an exponent. -/
def interval (significand : Nat) (exponent : Int) : Interval :=
  let atPower := significand = fullSignificand && minExponent < exponent
  let shift := exponent - 2
  let unit := if shift < 0 then 1 else Nat.pow 2 shift.toNat
  { low := (4 * significand - (if atPower then 1 else 2)) * unit
    middle := 4 * significand * unit
    high := (4 * significand + 2) * unit
    denominator := if shift < 0 then Nat.pow 2 (-shift).toNat else 1
    closed := significand % 2 = 0 }

/-- The quotient of two positive numbers is in the interval. -/
def Interval.contains (interval : Interval) (numerator denominator : Nat) : Bool :=
  let point := numerator * interval.denominator
  let low := interval.low * denominator
  let high := interval.high * denominator
  if interval.closed then low ≤ point && point ≤ high else low < point && point < high

/-- The exponent of the first decimal digit of the middle of an interval. -/
def Interval.decimalExponent (interval : Interval) : Int :=
  let digitsOf (number : Nat) : Nat := (Nat.toDigits 10 number).length
  if interval.denominator ≤ interval.middle then
    (digitsOf (interval.middle / interval.denominator) : Int) - 1
  else
    let places := digitsOf (interval.denominator / interval.middle)
    if interval.denominator ≤ interval.middle * Nat.pow 10 (places - 1) then 1 - (places : Int)
    else -(places : Int)

/-- The multiple of `10 ^ exponent` in an interval that is nearest to its middle, if there is
one; only the two neighbours of the middle can be. -/
def Interval.nearestMultiple (interval : Interval) (exponent : Int) : Option Nat :=
  let scale := if exponent < 0 then 1 else Nat.pow 10 exponent.toNat
  let divisor := if exponent < 0 then Nat.pow 10 (-exponent).toNat else 1
  let lower := interval.middle * divisor / (interval.denominator * scale)
  let inside (digits : Nat) : Bool := interval.contains (digits * scale) divisor
  let twice := 2 * (interval.middle * divisor)
  let halfway := (2 * lower + 1) * (interval.denominator * scale)
  let preferred := if twice ≤ halfway then [lower, lower + 1] else [lower + 1, lower]
  preferred.find? inside

/-- The shortest digits with an exponent that lie in an interval, tried from `count` digits on. -/
def Interval.shortestFrom (interval : Interval) : Nat → Nat → Nat × Int
  | 0, count => (0, interval.decimalExponent - count)
  | more + 1, count =>
      let exponent := interval.decimalExponent + 1 - count
      match interval.nearestMultiple exponent with
      | some digits => (digits, exponent)
      | none => interval.shortestFrom more (count + 1)

/-- The shortest decimal that leads back to a positive number; 17 digits always do. -/
def shortestDecimal (significand : Nat) (exponent : Int) : Nat × Int :=
  (interval significand exponent).shortestFrom 17 1

/-- A decimal in positional notation, with at least one digit after the point. -/
def positional (digits : Nat) (exponent : Int) : String :=
  let written := Nat.toDigits 10 digits
  let zeros (count : Nat) : List Char := List.replicate count '0'
  if 0 ≤ exponent then String.ofList (written ++ zeros exponent.toNat ++ ['.', '0'])
  else
    let places := (-exponent).toNat
    let padded := zeros (places + 1 - written.length) ++ written
    let whole := padded.take (padded.length - places)
    String.ofList (whole ++ ['.'] ++ padded.drop (padded.length - places))

/-- The text of a number: its shortest decimal, in positional notation. -/
def text : Binary64 → String
  | notANumber => "NaN"
  | infinite negative => (if negative then "-" else "") ++ "inf"
  | finite negative significand exponent =>
      let (digits, decimalExponent) :=
        if significand = 0 then (0, 0) else shortestDecimal significand exponent
      (if negative then "-" else "") ++ positional digits decimalExponent

end Binary64

end RecipeMatrix
