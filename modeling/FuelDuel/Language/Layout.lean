import FuelDuel.Language.Keyword
import FuelDuel.Text.Decimal

/-!
Programs as source text: one statement to a line, four spaces for each level of nesting. The text
of a program whose variables have writable names reads back as that program.
-/

namespace FuelDuel.Language

open FuelDuel.Text

/-- A word and its arguments in parentheses. -/
def call (word : String) (arguments : List String) : String :=
  word ++ "(" ++ commaList arguments ++ ")"

/-- The source text of an expression. -/
def Expr.source : Expr → String
  | num value => ofInt value.toInt
  | var name => "$" ++ name
  | binary op left right => call op.keyword [left.source, right.source]
  | sensor gauge => gauge.keyword
  | barrelAt axis index => call (Sensor.barrel axis).keyword [index.source]

/-- The source text of a condition. -/
def Cond.source : Cond → String
  | compare op left right => call op.keyword [left.source, right.source]
  | connect op left right => call op.keyword [left.source, right.source]
  | not inner => call "not" [inner.source]

/-- The source text of an action with an optional count. -/
def countedSource (word : String) : Option Expr → String
  | none => word
  | some count => call word [count.source]

/-- The white space before a statement at the given depth of nesting. -/
def indent (depth : Nat) : String := spaces (4 * depth)

/-- A line that holds one simple statement. -/
def simpleLine (depth : Nat) (text : String) : String := indent depth ++ text ++ ";\n"

/-- Statement lines, which stand one level deeper, between braces. -/
def braced (depth : Nat) (statements : String) : String :=
  "\x7b\n" ++ statements ++ indent depth ++ "\x7d"

mutual

/-- The lines of a statement at the given depth of nesting. -/
def Stmt.sourceAt (depth : Nat) : Stmt → String
  | .turn way => simpleLine depth way.keyword
  | .takeFuel => simpleLine depth "takeFuel"
  | .shield true => simpleLine depth "shieldOn"
  | .shield false => simpleLine depth "shieldOff"
  | .move count => simpleLine depth (countedSource "move" count)
  | .wait count => simpleLine depth (countedSource "wait" count)
  | .assign name value => simpleLine depth ("$" ++ name ++ " = " ++ value.source)
  | .loop body => indent depth ++ "loop " ++ braced depth (body.sourceAt (depth + 1)) ++ "\n"
  | .ifThen cond body =>
      indent depth ++ "if (" ++ cond.source ++ ") " ++
        braced depth (body.sourceAt (depth + 1)) ++ "\n"
  | .ifElse cond body otherwise =>
      indent depth ++ "if (" ++ cond.source ++ ") " ++
        braced depth (body.sourceAt (depth + 1)) ++ " else " ++
        braced depth (otherwise.sourceAt (depth + 1)) ++ "\n"
  | .while cond body =>
      indent depth ++ "while (" ++ cond.source ++ ") " ++
        braced depth (body.sourceAt (depth + 1)) ++ "\n"
  | .block body => indent depth ++ braced depth (body.sourceAt (depth + 1)) ++ "\n"

/-- The lines of the statements of a block at the given depth of nesting. -/
def Block.sourceAt (depth : Nat) : Block → String
  | .single stmt => stmt.sourceAt depth
  | .cons stmt rest => stmt.sourceAt depth ++ rest.sourceAt depth

end

/-- The source text of a program. -/
def Program.source (program : Program) : String :=
  program.stmts.foldr (fun stmt later => stmt.sourceAt 0 ++ later) ""

end FuelDuel.Language
