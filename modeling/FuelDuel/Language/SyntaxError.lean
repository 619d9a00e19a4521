import FuelDuel.Language.Keyword
import FuelDuel.Language.Token
import FuelDuel.Text.Lines

/-!
Syntax errors. An error keeps the token at which it was found, or no token if the input ended too
early, so its position in the source follows from the source text alone (`SyntaxError.location`).
-/

namespace FuelDuel.Language

open FuelDuel.Text

/-- Why a text is not a program. -/
inductive SyntaxError where
  /-- Another token had to stand here. -/
  | unexpectedToken (found : Token) (expected : String)
  /-- No alternative of the construct starts with this token. -/
  | unrecognized (found : Token) (construct : Construct)
  /-- The input ended where more had to follow. -/
  | unexpectedEnd (expected : String)
  /-- A closing brace stands right after its opening brace. -/
  | emptyBlock (brace : Token)
  /-- A numeral denotes a number outside of the 32-bit range. -/
  | invalidNumber (literal : Token)
  deriving DecidableEq, Repr

namespace SyntaxError

/-- The token at which the error was found; `none` means the end of the input. -/
def site : SyntaxError → Option Token
  | unexpectedToken found _ => some found
  | unrecognized found _ => some found
  | unexpectedEnd _ => none
  | emptyBlock brace => some brace
  | invalidNumber literal => some literal

/-- The location of a token in its source, or of the end of the source. -/
def siteLocation (source : String) : Option Token → Location
  | some token => Location.atOffset source token.offset
  | none => Location.after source.toList

/-- Where the error is in the source that was read. -/
def location (error : SyntaxError) (source : String) : Location :=
  siteLocation source error.site

/-- What is wrong, without the position. -/
def message : SyntaxError → String
  | unexpectedToken found expected =>
      "Unexpected token [" ++ found.text ++ "] Expected [" ++ expected ++ "]"
  | unrecognized found construct =>
      "Unexpected token [" ++ found.text ++ "] Expected " ++ construct.name ++ ", one of [" ++
        commaList construct.starts ++ "]"
  | unexpectedEnd expected => "Unexpected token [END OF INPUT] Expected [" ++ expected ++ "]"
  | emptyBlock _ => "Block needs a non empty list of statements"
  | invalidNumber literal => "Invalid number format: " ++ literal.text

/-- The line that quotes the source and the line with a caret under the column, each after a gutter
that holds the line number or is as wide. -/
def excerpt (loc : Location) (line : String) : String :=
  let gutter := ofNat loc.line
  "\n " ++ gutter ++ " | " ++ line ++
    "\n " ++ spaces gutter.length ++ " | " ++ spaces (loc.column - 1) ++ "^"

/-- The full report: position, message and, if the source has such a line, the quoted line. -/
def report (error : SyntaxError) (source : String) : String :=
  let loc := error.location source
  let heading := "Syntax error at " ++ loc.text ++ ": " ++ error.message
  match (lines source)[loc.line - 1]? with
  | some line => heading ++ excerpt loc line
  | none => heading

end SyntaxError

end FuelDuel.Language
