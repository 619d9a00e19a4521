import FuelDuel.Language.Reader

/-!
From tokens to trees. Every alternative of the grammar is chosen by its leading token, so nothing
is ever read twice, and each reader consumes exactly the tokens of its construct. `Program.parse`
reads a whole source text; `Expr.read`, `Cond.read` and `Block.read` read one construct and leave
the tokens after it.

The readers recurse on a limit to the depth of nesting. Every level of nesting takes a token of its
own, so a limit above the number of tokens is never reached.
-/

namespace FuelDuel.Language

open FuelDuel.Text
open Reader

/-- The integer that a numeral denotes. -/
def numeralValue : List Char → Int
  | '-' :: digits => -(digitsValue digits : Int)
  | digits => digitsValue digits

/-- The 32-bit number that a numeral denotes, if it is in range. -/
def literalValue? (text : String) : Option Int32 :=
  let value := numeralValue text.toList
  if Int32.minValue.toInt ≤ value ∧ value ≤ Int32.maxValue.toInt then some (Int32.ofInt value)
  else none

/-- Reads an expression that is nested less than `limit` levels deep. -/
def Expr.readWithin : (limit : Nat) → Reader Expr
  | 0 => throw (.unexpectedEnd Construct.expression.name)
  | limit + 1 => do
      let token ← peek Construct.expression.name
      match token.kind with
      | .number => do
          skip
          match literalValue? token.text with
          | some value => return .num value
          | none => throw (.invalidNumber token)
      | .variableName => do
          skip
          return .var token.name
      | .punct | .word =>
          match BinaryOp.ofKeyword? token.text, Sensor.ofKeyword? token.text with
          | some op, _ => do
              skip
              let (left, right) ← pair (readWithin limit)
              return .binary op left right
          | none, some (.barrel axis) => do
              skip
              match ← optionalArgument (readWithin limit) with
              | none => return .sensor (.barrel axis)
              | some index => return .barrelAt axis index
          | none, some gauge => do
              skip
              return .sensor gauge
          | none, none => throw (.unrecognized token .expression)

/-- Reads a condition that is nested less than `limit` levels deep. -/
def Cond.readWithin : (limit : Nat) → Reader Cond
  | 0 => throw (.unexpectedEnd Construct.condition.name)
  | limit + 1 => do
      let token ← peek Construct.condition.name
      match CompareOp.ofKeyword? token.text, Connective.ofKeyword? token.text with
      | some op, _ => do
          skip
          let (left, right) ← pair (Expr.readWithin limit)
          return .compare op left right
      | none, some op => do
          skip
          let (left, right) ← pair (readWithin limit)
          return .connect op left right
      | none, none =>
          if token.text = "not" then do
            skip
            let inner ← parenthesized (readWithin limit)
            return .not inner
          else throw (.unrecognized token .condition)

section Statements

variable (limit : Nat) (stmt : Reader Stmt)

/-- Reads a block, given a reader for its statements. -/
def Block.readWith : Reader Block := do
  let _ ← expect "\x7b"
  let token ← peek "statement or '\x7d'"
  if token.text = "\x7d" then throw (.emptyBlock token)
  else
    let first ← stmt
    let others ← manyUntil (fun left => left.isEmpty || nextIs "\x7d" left) stmt limit
    let _ ← expect "\x7d"
    return .ofCons first others

/-- Reads a condition in parentheses and a block. -/
def readGuarded : Reader (Cond × Block) := do
  let cond ← parenthesized (Cond.readWithin limit)
  let body ← Block.readWith limit stmt
  return (cond, body)

/-- Reads what may follow the first block of an `if`: an `else` block, or an `elif` branch, which
stands for an `else` block that holds just the `if` of the same condition and blocks. No more than
`branches` branches are read. -/
def readOtherwise : (branches : Nat) → Reader (Option Block)
  | 0 => return none
  | branches + 1 => do
      if nextIs "elif" (← get) then
        skip
        let (cond, body) ← readGuarded limit stmt
        let otherwise ← readOtherwise branches
        return some (.single (.branch cond body otherwise))
      else if nextIs "else" (← get) then
        skip
        let body ← Block.readWith limit stmt
        return some body
      else return none

/-- Reads the semicolon that ends a statement. -/
def endWith (stmt : Stmt) : Reader Stmt := do
  let _ ← expect ";"
  return stmt

/-- Reads the optional count and the semicolon of a counted action. -/
def readCounted (make : Option Expr → Stmt) : Reader Stmt := do
  let count ← optionalArgument (Expr.readWithin limit)
  endWith (make count)

/-- Reads the rest of an assignment to the given variable. -/
def readAssign (name : String) : Reader Stmt := do
  let _ ← expect "="
  let value ← Expr.readWithin limit
  endWith (.assign name value)

/-- The reader for the rest of a statement that starts with the word `word`, if there is one. -/
def readAfter? (word : String) : Option (Reader Stmt) :=
  match word with
  | "move" => some (readCounted limit .move)
  | "wait" => some (readCounted limit .wait)
  | "turnL" => some (endWith (.turn .left))
  | "turnR" => some (endWith (.turn .right))
  | "turnAround" => some (endWith (.turn .around))
  | "takeFuel" => some (endWith .takeFuel)
  | "shieldOn" => some (endWith (.shield true))
  | "shieldOff" => some (endWith (.shield false))
  | "loop" => some do
      let body ← Block.readWith limit stmt
      return .loop body
  | "if" => some do
      let (cond, body) ← readGuarded limit stmt
      let otherwise ← readOtherwise limit stmt limit
      return .branch cond body otherwise
  | "while" => some do
      let (cond, body) ← readGuarded limit stmt
      return .while cond body
  | _ => none

end Statements

/-- Reads a statement that is nested less than `limit` levels deep. -/
def Stmt.readWithin : (limit : Nat) → Reader Stmt
  | 0 => throw (.unexpectedEnd Construct.statement.name)
  | limit + 1 => do
      let token ← peek Construct.statement.name
      if token.kind = .variableName then
        skip
        readAssign limit token.name
      else if token.text = "\x7b" then
        let body ← Block.readWith limit (readWithin limit)
        return .block body
      else
        match readAfter? limit (readWithin limit) token.text with
        | some after => do
            skip
            after
        | none => throw (.unrecognized token .statement)

/-- Reads an expression. -/
def Expr.read : Reader Expr := do Expr.readWithin ((← get).length + 1)

/-- Reads a condition. -/
def Cond.read : Reader Cond := do Cond.readWithin ((← get).length + 1)

/-- Reads a block. -/
def Block.read : Reader Block := do
  let limit := (← get).length + 1
  Block.readWith limit (Stmt.readWithin limit)

/-- Reads statements up to the end of the tokens. -/
def Program.read : Reader Program := do
  let limit := (← get).length + 1
  let stmts ← manyUntil List.isEmpty (Stmt.readWithin limit) limit
  return ⟨stmts⟩

/-- The program that a source text stands for. -/
def Program.parse (source : String) : Except SyntaxError Program :=
  Program.read.result (Token.scan source)

end FuelDuel.Language
