import FuelDuel.Json.Value
import FuelDuel.Text.Decimal

/-!
JSON text with one item or field to a line and two spaces for each level of nesting.
-/

namespace FuelDuel.Json

open FuelDuel.Text

/-- A lower-case hexadecimal digit. -/
def hexDigit (n : Nat) : Char := (Nat.toDigits 16 n).headD '0'

/-- A character inside a string: quotes, backslashes and control characters are escaped. -/
def escapeChar (c : Char) : List Char :=
  match c with
  | '"' => ['\\', '"']
  | '\\' => ['\\', '\\']
  | '\x08' => ['\\', 'b']
  | '\x0c' => ['\\', 'f']
  | '\n' => ['\\', 'n']
  | '\r' => ['\\', 'r']
  | '\t' => ['\\', 't']
  | c =>
      if c.toNat < 0x20 then
        ['\\', 'u', '0', '0', hexDigit (c.toNat / 16), hexDigit (c.toNat % 16)]
      else [c]

/-- A string in quotes. -/
def quoted (text : String) : String :=
  "\"" ++ String.ofList (text.toList.flatMap escapeChar) ++ "\""

/-- The text of a numeral. -/
def Numeral.text (numeral : Numeral) : String :=
  let sign := if numeral.negative then "-" else ""
  let fraction :=
    if numeral.fraction.isEmpty then "" else "." ++ String.ofList numeral.fraction
  let exponent := match numeral.exponent with
    | none => ""
    | some exponent =>
        "e" ++ (if exponent.negative then "-" else "") ++ String.ofList exponent.digits
  sign ++ String.ofList numeral.whole ++ fraction ++ exponent

/-- Lines between two brackets, the lines one level deeper than the brackets. -/
def bracketed (opening closing : String) (depth : Nat) (lines : List String) : String :=
  if lines.isEmpty then opening ++ closing
  else
    opening ++ "\n" ++
      joinWith ",\n" (lines.map (spaces (2 * (depth + 1)) ++ ·)) ++
      "\n" ++ spaces (2 * depth) ++ closing

mutual

/-- The text of a value at the given depth of nesting. -/
def Value.prettyAt (depth : Nat) : Value → String
  | .null => "null"
  | .bool value => if value then "true" else "false"
  | .number numeral => numeral.text
  | .string text => quoted (text.getD "")
  | .array items => bracketed "[" "]" depth (itemLines (depth + 1) items)
  | .object fields => bracketed "\x7b" "\x7d" depth (fieldLines (depth + 1) fields)

/-- The texts of the items of an array. -/
def itemLines (depth : Nat) : List Value → List String
  | [] => []
  | item :: rest => item.prettyAt depth :: itemLines depth rest

/-- The texts of the fields of an object. -/
def fieldLines (depth : Nat) : List (Option String × Value) → List String
  | [] => []
  | (key, value) :: rest =>
      (quoted (key.getD "") ++ ": " ++ value.prettyAt depth) :: fieldLines depth rest

end

/-- The text of a value. -/
def Value.pretty (value : Value) : String := value.prettyAt 0

end FuelDuel.Json
