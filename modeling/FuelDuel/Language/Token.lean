import FuelDuel.Text.Blank
import FuelDuel.Text.Location

/-!
Tokens of the robot language. White space separates tokens, and each of the six punctuation
characters is a token of its own; every other longest run of characters is one token. What a token
is (punctuation, numeral, variable or word) depends on its text alone.
-/

namespace FuelDuel.Language

open FuelDuel.Text

/-- The classes of tokens that the grammar tells apart. -/
inductive TokenKind where
  | punct
  | number
  | variableName
  | word
  deriving DecidableEq, Repr

/-- The characters that form a token on their own. -/
def punctuation : List Char := ['\x7b', '\x7d', '(', ')', ',', ';']

/-- Whether a character is punctuation. -/
def isPunct (c : Char) : Bool := punctuation.contains c

/-- A digit from one to nine and then any digits. -/
def isPositiveNumeral : List Char → Bool
  | [] => false
  | d :: digits => d.isDigit && d != '0' && digits.all Char.isDigit

/-- Zero, or a positive numeral with or without a minus sign. There are no leading zeros, no plus
sign and no negative zero. -/
def isNumeral : List Char → Bool
  | ['0'] => true
  | '-' :: digits => isPositiveNumeral digits
  | digits => isPositiveNumeral digits

/-- The names that variables can have in program text: a letter and then letters or digits, all
ASCII. -/
def isName : List Char → Bool
  | [] => false
  | c :: rest => c.isAlpha && rest.all Char.isAlphanum

/-- A dollar sign and then a name. -/
def isVariable : List Char → Bool
  | '$' :: name => isName name
  | _ => false

/-- The class of a token with the given characters. -/
def TokenKind.ofChars (chars : List Char) : TokenKind :=
  if chars.any isPunct then .punct
  else if isNumeral chars then .number
  else if isVariable chars then .variableName
  else .word

/-- A token: its text and the byte offset at which it starts in the source. -/
structure Token where
  text : String
  offset : Nat
  deriving DecidableEq, Repr

namespace Token

/-- The class of a token. -/
def kind (token : Token) : TokenKind := .ofChars token.text.toList

/-- The text of a token without its first character: the name of a variable. -/
def name (token : Token) : String := String.ofList token.text.toList.tail

/-- The token that ends at byte `stop` and whose characters are, in reverse, `word`. -/
def ofWord (stop : Nat) (word : List Char) : Token :=
  ⟨String.ofList word.reverse, stop - byteLength word⟩

/-- The token of one punctuation character. -/
def ofPunct (offset : Nat) (c : Char) : Token := ⟨String.ofList [c], offset⟩

/-- Puts the pending word, if there is one, in front of the later tokens. -/
def withWord (stop : Nat) (word : List Char) (later : List Token) : List Token :=
  if word.isEmpty then later else ofWord stop word :: later

/-- The tokens of the characters from byte `offset` on, where `word` holds, in reverse, the
characters of the word that is being read. -/
def scanFrom (offset : Nat) (word : List Char) : List Char → List Token
  | [] => withWord offset word []
  | c :: rest =>
      if isBlank c then withWord offset word (scanFrom (offset + c.utf8Size) [] rest)
      else if isPunct c then
        withWord offset word (ofPunct offset c :: scanFrom (offset + c.utf8Size) [] rest)
      else scanFrom (offset + c.utf8Size) (c :: word) rest

/-- The tokens of a source text, in order. -/
def scan (source : String) : List Token := scanFrom 0 [] source.toList

end Token

end FuelDuel.Language
