/-!
Integers in decimal, and text padded to a column width.
-/

namespace FuelDuel.Text

/-- A natural number in decimal, without leading zeros. -/
def ofNat (n : Nat) : String := String.ofList (Nat.toDigits 10 n)

/-- An integer in decimal: a minus sign before a negative one, no sign before any other. -/
def ofInt : Int → String
  | .ofNat n => ofNat n
  | .negSucc n => "-" ++ ofNat (n + 1)

/-- The number that a list of decimal digits denotes, most significant first. -/
def digitsValue (digits : List Char) : Nat :=
  digits.foldl (fun n c => 10 * n + (c.toNat - '0'.toNat)) 0

/-- `n` spaces. -/
def spaces (n : Nat) : String := String.ofList (List.replicate n ' ')

/-- Left-justifies `text` in a column of `width` characters; longer text is kept whole. -/
def padRight (width : Nat) (text : String) : String := text ++ spaces (width - text.length)

/-- Right-justifies `text` in a column of `width` characters; longer text is kept whole. -/
def padLeft (width : Nat) (text : String) : String := spaces (width - text.length) ++ text

/-- Joins the items with `separator` between neighbours. -/
def joinWith (separator : String) : List String → String
  | [] => ""
  | [item] => item
  | item :: rest => item ++ separator ++ joinWith separator rest

/-- Items joined by a comma and a space. -/
def commaList (items : List String) : String := joinWith ", " items

end FuelDuel.Text
