import FuelDuel.Language.Reader

/-!
A cursor on the tokens of one source text: what is left to read, with one token of lookahead, and
the location that has been reached.
-/

namespace FuelDuel.Language

open FuelDuel.Text

/-- A source text and the tokens of it that have not been consumed. -/
structure Cursor where
  source : String
  rest : List Token
  deriving DecidableEq, Repr

namespace Cursor

/-- The cursor before the first token. -/
def start (source : String) : Cursor := ⟨source, Token.scan source⟩

/-- Whether a token is left. -/
def hasNext (cursor : Cursor) : Bool := !cursor.rest.isEmpty

/-- The next token. -/
def peek (cursor : Cursor) : Option Token := cursor.rest.head?

/-- Consumes one token, if one is left. -/
def advance (cursor : Cursor) : Cursor := { cursor with rest := cursor.rest.tail }

/-- Whether the next token has the given text. -/
def nextIs (cursor : Cursor) (text : String) : Bool := Reader.nextIs text cursor.rest

/-- Whether the next token is of the given kind. -/
def nextIsKind (cursor : Cursor) (kind : TokenKind) : Bool :=
  cursor.peek.any (·.kind == kind)

/-- The outcome of reading at the cursor, and the cursor after it. -/
def apply {α : Type} (cursor : Cursor) (reader : Reader α) : Except SyntaxError α × Cursor :=
  (reader.result cursor.rest, { cursor with rest := reader.rest cursor.rest })

/-- Consumes the next token, which has to have the given text. -/
def expect (cursor : Cursor) (text : String) : Except SyntaxError Token × Cursor :=
  cursor.apply (Reader.expect text)

/-- Consumes the next token, which has to be of the given kind. -/
def expectKind (cursor : Cursor) (kind : TokenKind) (expected : String) :
    Except SyntaxError Token × Cursor :=
  cursor.apply (Reader.expectKind kind expected)

/-- The location of the next token, or of the end of the source. -/
def location (cursor : Cursor) : Location := SyntaxError.siteLocation cursor.source cursor.peek

/-- The error of an input that would have to go on at the cursor, and the location it is placed
at. -/
def endOfInput (cursor : Cursor) (expected : String) : SyntaxError × Location :=
  (.unexpectedEnd expected, cursor.location)

end Cursor

end FuelDuel.Language
