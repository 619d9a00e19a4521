import FuelDuel.Text.Decimal

/-!
Positions in a source text. A position is a byte offset into the text; for a reader it is shown as
a line and a column, both counted from one, where columns count characters. `Location.atOffset`
turns the first into the second.
-/

namespace FuelDuel.Text

/-- A line and a column, both counted from one. -/
structure Location where
  line : Nat
  column : Nat
  deriving DecidableEq, Repr

/-- The number of bytes that the characters take in UTF-8. -/
def byteLength : List Char → Nat
  | [] => 0
  | c :: rest => c.utf8Size + byteLength rest

/-- The longest part at the front of `chars` that fits into `bytes` bytes. -/
def takeBytes : Nat → List Char → List Char
  | _, [] => []
  | bytes, c :: rest =>
      if c.utf8Size ≤ bytes then c :: takeBytes (bytes - c.utf8Size) rest else []

namespace Location

/-- Where every text starts. -/
def start : Location := ⟨1, 1⟩

/-- The location after one more character: a line feed opens the next line. -/
def next (loc : Location) (c : Char) : Location :=
  if c = '\n' then ⟨loc.line + 1, 1⟩ else ⟨loc.line, loc.column + 1⟩

/-- The location right after the characters read so far. -/
def after (consumed : List Char) : Location := consumed.foldl next start

/-- The location of the character at a byte offset; offsets past the end mean the end. -/
def atOffset (source : String) (offset : Nat) : Location :=
  after (takeBytes offset source.toList)

/-- A location as it is written in messages. -/
def text (loc : Location) : String := ofNat loc.line ++ ":" ++ ofNat loc.column

end Location

end FuelDuel.Text
