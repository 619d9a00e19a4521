import FuelDuel.Text.Decimal

/-!
The shortest decimal of a floating-point number: among the decimals that read back as the number,
one with the fewest digits and, of those, the nearest one. It is found in exact arithmetic: the
numbers that round to a given one form an interval, and the coarsest power-of-ten grid that meets
the interval has the shortest decimals.
-/

namespace FuelDuel.Decimal

open FuelDuel.Text

/-- A floating-point number taken apart. -/
inductive Parts where
  /-- The number `significand * 2 ^ exponent` or its negative. -/
  | finite (negative : Bool) (significand : Nat) (exponent : Int)
  | infinite (negative : Bool)
  | nan
  deriving DecidableEq, Repr

/-- Takes the 64 bits of a number apart: sign, eleven bits of exponent, 52 bits of fraction. -/
def Parts.ofFloat (x : Float) : Parts :=
  let bits := x.toBits.toNat
  let negative := bits / Nat.pow 2 63 == 1
  let biased : Nat := bits / Nat.pow 2 52 % Nat.pow 2 11
  let fraction := bits % Nat.pow 2 52
  if biased = 2047 then if fraction = 0 then .infinite negative else .nan
  else if biased = 0 then .finite negative fraction (-1074)
  else .finite negative (Nat.pow 2 52 + fraction) (Int.ofNat biased - 1075)

/-- The decimal `digits * 10 ^ exponent`. -/
structure Scientific where
  digits : Nat
  exponent : Int
  deriving DecidableEq, Repr

/-- Numerators, over one denominator, of a number and of the ends of its rounding interval: halfway
to the neighbours, which belong to the interval if the significand is even. The neighbour below a
power of two is half as far away as the one above. -/
structure RoundingInterval where
  low : Nat
  value : Nat
  high : Nat
  denominator : Nat
  inclusive : Bool
  deriving DecidableEq, Repr

namespace RoundingInterval

/-- The rounding interval of `significand * 2 ^ exponent`. -/
def ofFinite (significand : Nat) (exponent : Int) : RoundingInterval :=
  let narrow := significand = Nat.pow 2 52 ∧ -1074 < exponent
  let unit := Nat.pow 2 (exponent - 2).toNat
  { low := (4 * significand - if narrow then 1 else 2) * unit
    value := 4 * significand * unit
    high := (4 * significand + 2) * unit
    denominator := Nat.pow 2 (2 - exponent).toNat
    inclusive := significand % 2 = 0 }

/-- The interval in multiples of `10 ^ exponent`. -/
def scale (interval : RoundingInterval) (exponent : Int) : RoundingInterval :=
  let up := Nat.pow 10 (-exponent).toNat
  { interval with
    low := interval.low * up
    value := interval.value * up
    high := interval.high * up
    denominator := interval.denominator * Nat.pow 10 exponent.toNat }

/-- Whether a natural number lies in the interval. -/
def contains (interval : RoundingInterval) (n : Nat) : Bool :=
  let numerator := n * interval.denominator
  if interval.inclusive then interval.low ≤ numerator && numerator ≤ interval.high
  else interval.low < numerator && numerator < interval.high

/-- The positive natural number in the interval that is nearest to the value: one of the two
neighbours of the value, the upper one if they are equally near. -/
def nearest? (interval : RoundingInterval) : Option Nat :=
  let below := interval.value / interval.denominator
  let remainder := interval.value % interval.denominator
  match 0 < below && interval.contains below, interval.contains (below + 1) with
  | true, true => some (if 2 * remainder < interval.denominator then below else below + 1)
  | true, false => some below
  | false, true => some (below + 1)
  | false, false => none

end RoundingInterval

/-- The exponents of the decimal grids on which a number can have its shortest decimal, the
coarsest grid first. -/
def gridExponents : List Int := (List.range 640).map fun step => 310 - Int.ofNat step

/-- The shortest decimal of the positive number `significand * 2 ^ exponent`. -/
def shortest (significand : Nat) (exponent : Int) : Scientific :=
  let interval := RoundingInterval.ofFinite significand exponent
  let found := gridExponents.findSome? fun gridExponent =>
    (interval.scale gridExponent).nearest?.map fun digits => ⟨digits, gridExponent⟩
  found.getD ⟨0, 0⟩

/-- A decimal in positional notation: no exponent, a zero before a leading point, and no point
without digits after it. -/
def Scientific.positional (decimal : Scientific) : String :=
  let digits := Nat.toDigits 10 decimal.digits
  let places := (-decimal.exponent).toNat
  let padded := List.replicate (places + 1 - digits.length) '0' ++ digits ++
    List.replicate decimal.exponent.toNat '0'
  let (whole, fraction) := padded.splitAt (padded.length - places)
  if fraction.isEmpty then String.ofList whole
  else String.ofList whole ++ "." ++ String.ofList fraction

/-- A minus sign before the text of a negative number. -/
def signed (negative : Bool) (text : String) : String := if negative then "-" ++ text else text

/-- A floating-point number in positional notation, with as few digits as read back. -/
def floatText (x : Float) : String :=
  match Parts.ofFloat x with
  | .nan => "NaN"
  | .infinite negative => signed negative "inf"
  | .finite negative significand exponent =>
      signed negative
        (if significand = 0 then ofNat 0 else (shortest significand exponent).positional)

end FuelDuel.Decimal
