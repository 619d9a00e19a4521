import FuelDuel.Language.SyntaxError

/-!
Readers: computations that consume tokens from the front of a list. A reader ends with a value or
with a syntax error, and in both cases with the tokens that were not consumed. The readers here
build on any reader of an item and are shared by all constructs of the language.
-/

namespace FuelDuel.Language

/-- Consumes tokens and ends with an `α` or with a syntax error. -/
abbrev Reader (α : Type) : Type := EStateM SyntaxError (List Token) α

namespace Reader

variable {α : Type}

/-- What a reader makes of a list of tokens, without the tokens it leaves. -/
def result (reader : Reader α) (tokens : List Token) : Except SyntaxError α :=
  match reader tokens with
  | .ok value _ => .ok value
  | .error error _ => .error error

/-- The tokens that a reader leaves. -/
def rest (reader : Reader α) (tokens : List Token) : List Token :=
  match reader tokens with
  | .ok _ rest => rest
  | .error _ rest => rest

/-- Gives the next token and leaves it where it is; `expected` names it in errors. -/
def peek (expected : String) : Reader Token := fun tokens =>
  match tokens with
  | [] => .error (.unexpectedEnd expected) []
  | token :: rest => .ok token (token :: rest)

/-- Consumes one token, if one is left. -/
def skip : Reader Unit := modify List.tail

/-- Consumes the next token if it passes the test; `expected` names it in errors. -/
def expectThat (test : Token → Bool) (expected : String) : Reader Token := do
  let token ← peek expected
  if test token then
    skip
    return token
  else throw (.unexpectedToken token expected)

/-- Consumes the next token, which has to have the given text. -/
def expect (text : String) : Reader Token := expectThat (·.text == text) text

/-- Consumes the next token, which has to be of the given kind; `expected` names it in errors. -/
def expectKind (kind : TokenKind) (expected : String) : Reader Token :=
  expectThat (·.kind == kind) expected

/-- Whether the next token has the given text. -/
def nextIs (text : String) (tokens : List Token) : Bool := tokens.head?.any (·.text == text)

/-- Reads one item in parentheses. -/
def parenthesized (item : Reader α) : Reader α := do
  let _ ← expect "("
  let value ← item
  let _ ← expect ")"
  return value

/-- Reads two items in parentheses with a comma between them. -/
def pair (item : Reader α) : Reader (α × α) := do
  let _ ← expect "("
  let left ← item
  let _ ← expect ","
  let right ← item
  let _ ← expect ")"
  return (left, right)

/-- Reads one item in parentheses if the next token opens them, and nothing otherwise. -/
def optionalArgument (item : Reader α) : Reader (Option α) := do
  if nextIs "(" (← get) then
    let value ← parenthesized item
    return some value
  else return none

/-- Reads items until the tokens that are left pass the test `stop`, but no more than `limit`
items. -/
def manyUntil (stop : List Token → Bool) (item : Reader α) : (limit : Nat) → Reader (List α)
  | 0 => return []
  | limit + 1 => do
      if stop (← get) then return []
      else
        let first ← item
        let others ← manyUntil stop item limit
        return first :: others

end Reader

end FuelDuel.Language
