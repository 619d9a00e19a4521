import FuelDuel.Json.Value
import FuelDuel.Text.Decimal

/-!
What a JSON numeral means as an integer and as a floating-point number. Only a numeral without
fraction and exponent is an integer. As a floating-point number a numeral is rounded twice: as many
leading digits as fit into 64 bits are rounded to a floating-point number, which is then multiplied
or divided by a power of ten. Numerals that are too large have no value.
-/

namespace FuelDuel.Json.Numeral

open FuelDuel.Text

/-- Whether a numeral is written as an integer. -/
def isWhole (numeral : Numeral) : Bool := numeral.fraction.isEmpty && numeral.exponent.isNone

/-- The integer that a numeral stands for. A zero with a minus sign is no integer. -/
def toInt? (numeral : Numeral) : Option Int :=
  let magnitude := digitsValue numeral.whole
  if !numeral.isWhole then none
  else if !numeral.negative then some magnitude
  else if magnitude = 0 then none
  else some (-(magnitude : Int))

/-- Leading digits of a numeral and the power of ten that they are to be multiplied with. -/
structure Scaled where
  significand : Nat
  exponent : Int
  deriving DecidableEq, Repr

/-- Appends the leading digits that keep the significand within 64 bits; gives the digits that are
left over too. -/
def takeDigits (significand : Nat) : List Char → Nat × List Char
  | [] => (significand, [])
  | digit :: rest =>
      let longer := 10 * significand + (digit.toNat - '0'.toNat)
      if longer < UInt64.size then takeDigits longer rest else (significand, digit :: rest)

/-- The leading digits of the whole part; each digit left over is a factor of ten. -/
def scaledWhole (numeral : Numeral) : Scaled :=
  let (significand, left) := takeDigits 0 numeral.whole
  ⟨significand, left.length⟩

/-- The leading digits of the whole part and the fraction. -/
def scaledMantissa (numeral : Numeral) : Scaled :=
  let whole := numeral.scaledWhole
  let (significand, left) := takeDigits whole.significand numeral.fraction
  ⟨significand, whole.exponent - (numeral.fraction.length - left.length : Nat)⟩

/-- The power of ten as a floating-point number. -/
def power (exponent : Nat) : Float := Float.ofScientific 1 false exponent

/-- Divides by `10 ^ exponent`, in steps of `10 ^ 308` as long as that is needed. -/
def divideBy (x : Float) (exponent : Nat) : Float :=
  if exponent ≤ 308 then x / power exponent
  else if x == 0 then x
  else divideBy (x / power 308) (exponent - 308)
termination_by exponent

/-- Multiplies by a power of ten; no value if the product is out of range. -/
def multiplyBy? (x : Float) (exponent : Nat) : Option Float :=
  if exponent ≤ 308 then
    let product := x * power exponent
    if product.isInf then none else some product
  else if x == 0 then some x
  else none

/-- The magnitude of scaled digits as a floating-point number. -/
def Scaled.toFloat? (scaled : Scaled) : Option Float :=
  let x := (UInt64.ofNat scaled.significand).toFloat
  match scaled.exponent with
  | .ofNat exponent => multiplyBy? x exponent
  | .negSucc exponent => some (divideBy x (exponent + 1))

/-- The magnitude of scaled digits with an exponent part. An exponent part beyond 31 bits makes
the number zero or leaves it without a value. -/
def Scaled.withExponent? (scaled : Scaled) (exponent : Exponent) : Option Float :=
  let value := digitsValue exponent.digits
  if value < Nat.pow 2 31 then
    let shift : Int := if exponent.negative then -(value : Int) else value
    Scaled.toFloat? { scaled with exponent := scaled.exponent + shift }
  else if scaled.significand = 0 ∨ exponent.negative then some 0
  else none

/-- The magnitude of a numeral as a floating-point number. -/
def magnitude? (numeral : Numeral) : Option Float :=
  match numeral.exponent with
  | none => numeral.scaledMantissa.toFloat?
  | some exponent => numeral.scaledMantissa.withExponent? exponent

/-- The floating-point number that a numeral stands for. -/
def toFloat? (numeral : Numeral) : Option Float :=
  numeral.magnitude?.map fun x => if numeral.negative then -x else x

end FuelDuel.Json.Numeral
