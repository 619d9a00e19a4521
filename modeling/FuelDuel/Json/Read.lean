import FuelDuel.Json.Value
import FuelDuel.Text.Decimal

/-!
Reading JSON text. The grammar is the strict one: no leading zeros, no trailing commas, no control
characters in strings, and nothing but blanks after the value. Nesting is not limited: readers
recurse on a limit to the depth of nesting and to the number of items, but every level and every
item takes a character of its own, so a limit above the number of characters is never reached.
-/

namespace FuelDuel.Json

/-- Consumes characters and ends with an `α`, unless they are not JSON. -/
abbrev Reader (α : Type) : Type := StateT (List Char) Option α

/-- The four blanks of JSON. -/
def isSpace (c : Char) : Bool := c == ' ' || c == '\n' || c == '\t' || c == '\r'

/-- Consumes blanks. -/
def skipSpace : Reader Unit := modify (·.dropWhile isSpace)

/-- Consumes the next character if it passes the test; gives whether it did. -/
def acceptThat (test : Char → Bool) : Reader Bool := fun chars =>
  if chars.head?.any test then some (true, chars.tail) else some (false, chars)

/-- Consumes the next character if it is the given one; gives whether it was. -/
def accept (c : Char) : Reader Bool := acceptThat (· == c)

/-- Consumes the next character, which has to be the given one. -/
def expect (c : Char) : Reader Unit := do
  unless ← accept c do failure

/-! ### Numerals -/

/-- Reads one digit or more. -/
def readDigits : Reader (List Char) := fun chars =>
  let digits := chars.takeWhile Char.isDigit
  if digits.isEmpty then none else some (digits, chars.dropWhile Char.isDigit)

/-- Reads the digits before the point: a zero alone, or digits that do not start with a zero. -/
def readWhole : Reader (List Char) := do
  let digits ← readDigits
  if digits.head? = some '0' ∧ digits.length ≠ 1 then failure else return digits

/-- Reads a point and digits, if there is a point. -/
def readFraction : Reader (List Char) := do
  if ← accept '.' then readDigits else return []

/-- Reads a sign, if there is one; gives whether it is a minus. -/
def readSign : Reader Bool := do
  if ← accept '-' then return true
  let _ ← accept '+'
  return false

/-- Reads the mark, sign and digits of an exponent, if there is a mark. -/
def readExponent : Reader (Option Exponent) := do
  if ← acceptThat (fun c => c == 'e' || c == 'E') then
    let negative ← readSign
    let digits ← readDigits
    return some ⟨negative, digits⟩
  else return none

/-- Reads a numeral. -/
def readNumeral : Reader Numeral := do
  let negative ← accept '-'
  let whole ← readWhole
  let fraction ← readFraction
  let exponent ← readExponent
  return ⟨negative, whole, fraction, exponent⟩

/-! ### Strings -/

/-- The value of a hexadecimal digit. -/
def hexValue? (c : Char) : Option Nat :=
  if c.isDigit then some (c.toNat - '0'.toNat)
  else if 'a' ≤ c ∧ c ≤ 'f' then some (c.toNat - 'a'.toNat + 10)
  else if 'A' ≤ c ∧ c ≤ 'F' then some (c.toNat - 'A'.toNat + 10)
  else none

/-- The value of four hexadecimal digits. -/
def hexUnit? (a b c d : Char) : Option Nat := do
  some (((← hexValue? a) * 16 + (← hexValue? b)) * 256 + (← hexValue? c) * 16 + (← hexValue? d))

/-- The code point that a one-letter escape stands for. -/
def escapeValue? : Char → Option Nat
  | '"' => some 0x22
  | '\\' => some 0x5C
  | '/' => some 0x2F
  | 'b' => some 0x08
  | 'f' => some 0x0C
  | 'n' => some 0x0A
  | 'r' => some 0x0D
  | 't' => some 0x09
  | _ => none

/-- Reads the inside of a string up to its closing quote: code points, and surrogates as they are
escaped. -/
def readUnits : Reader (List Nat)
  | [] => none
  | '"' :: rest => some ([], rest)
  | '\\' :: 'u' :: a :: b :: c :: d :: rest => do
      let unit ← hexUnit? a b c d
      let (units, rest) ← readUnits rest
      some (unit :: units, rest)
  | '\\' :: c :: rest => do
      let unit ← escapeValue? c
      let (units, rest) ← readUnits rest
      some (unit :: units, rest)
  | c :: rest =>
      if c.toNat < 0x20 ∨ c = '\\' then none
      else do
        let (units, rest) ← readUnits rest
        some (c.toNat :: units, rest)

/-- Whether a number is a leading surrogate. -/
def isLeading (unit : Nat) : Bool := 0xD800 ≤ unit && unit < 0xDC00

/-- Whether a number is a trailing surrogate. -/
def isTrailing (unit : Nat) : Bool := 0xDC00 ≤ unit && unit < 0xE000

/-- Joins pairs of surrogates to characters; `none` if a surrogate has no partner. -/
def joinUnits? : List Nat → Option (List Char)
  | [] => some []
  | [unit] => if isLeading unit || isTrailing unit then none else some [Char.ofNat unit]
  | unit :: next :: rest =>
      if isLeading unit then
        if isTrailing next then do
          let chars ← joinUnits? rest
          some (Char.ofNat (0x10000 + (unit - 0xD800) * 0x400 + (next - 0xDC00)) :: chars)
        else none
      else if isTrailing unit then none
      else (joinUnits? (next :: rest)).map (Char.ofNat unit :: ·)

/-- Reads a string; `none` if it denotes no text. -/
def readString : Reader (Option String) := do
  expect '"'
  let units ← readUnits
  return (joinUnits? units).map String.ofList

/-! ### Values -/

/-- Consumes the given word, which stands for a value. -/
def readWord (word : String) (value : Value) : Reader Value := fun chars =>
  let letters := word.toList
  if letters.isPrefixOf chars then some (value, chars.drop letters.length) else none

section Containers

variable {α : Type}

/-- Reads up to `limit` further items of a container, each after a comma, and the bracket that
closes it. -/
def readMore (close : Char) (item : Reader α) : (limit : Nat) → Reader (List α)
  | 0 => failure
  | limit + 1 => do
      skipSpace
      if ← accept close then return []
      expect ','
      skipSpace
      let first ← item
      let others ← readMore close item limit
      return first :: others

/-- Reads the items of a container up to the bracket that closes it. -/
def readItems (close : Char) (item : Reader α) (limit : Nat) : Reader (List α) := do
  skipSpace
  if ← accept close then return []
  let first ← item
  let others ← readMore close item limit
  return first :: others

/-- Reads a field of an object: its key, a colon and its value. -/
def readField (value : Reader α) : Reader (Option String × α) := do
  let key ← readString
  skipSpace
  expect ':'
  skipSpace
  let value ← value
  return (key, value)

end Containers

/-- Reads a value that is nested less than `limit` levels deep and starts with no blank. -/
def readWithin : (limit : Nat) → Reader Value
  | 0 => failure
  | limit + 1 => do
      match (← get).head? with
      | some '"' => return .string (← readString)
      | some '[' => do
          expect '['
          return .array (← readItems ']' (readWithin limit) limit)
      | some '\x7b' => do
          expect '\x7b'
          return .object (← readItems '\x7d' (readField (readWithin limit)) limit)
      | some 't' => readWord "true" (.bool true)
      | some 'f' => readWord "false" (.bool false)
      | some 'n' => readWord "null" .null
      | _ => return .number (← readNumeral)

/-- Reads a value with blanks around it. -/
def readText : Reader Value := do
  skipSpace
  let value ← readWithin ((← get).length + 1)
  skipSpace
  return value

/-- The value that a JSON text denotes. -/
def parse? (text : String) : Option Value :=
  match readText text.toList with
  | some (value, []) => some value
  | _ => none

end FuelDuel.Json
