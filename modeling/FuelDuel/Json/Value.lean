/-!
JSON values. Numerals keep their digits, because what a numeral means depends on who reads it, and
objects keep their fields in order and with repetitions.
-/

namespace FuelDuel.Json

/-- The exponent of a numeral: its sign and its digits. -/
structure Exponent where
  negative : Bool
  digits : List Char
  deriving DecidableEq, Repr

/-- A numeral as it is written. No digits of a fraction means that there is no fraction. -/
structure Numeral where
  negative : Bool
  whole : List Char
  fraction : List Char
  exponent : Option Exponent
  deriving DecidableEq, Repr

/-- A JSON value. A string is `none` if it is well formed but holds an unpaired surrogate, so that
it denotes no text. -/
inductive Value where
  | null
  | bool (value : Bool)
  | number (numeral : Numeral)
  | string (text : Option String)
  | array (items : List Value)
  | object (fields : List (Option String × Value))
  deriving Repr

namespace Value

/-- A string that denotes the given text. -/
def text (text : String) : Value := .string (some text)

/-- An object with the given fields. -/
def record (fields : List (String × Value)) : Value :=
  .object (fields.map fun (key, value) => (some key, value))

/-- The numeral of an integer. -/
def int (n : Int) : Value :=
  .number ⟨n < 0, Nat.toDigits 10 n.natAbs, [], none⟩

/-- The value of an optional part: `null` if it is absent. -/
def optional {α : Type} (encode : α → Value) : Option α → Value
  | none => .null
  | some a => encode a

end Value

end FuelDuel.Json
