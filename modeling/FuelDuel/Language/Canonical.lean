import FuelDuel.Language.Keyword
import FuelDuel.Text.Decimal

/-!
The canonical text of a tree: the name of each node and, in brackets, its parts. It shows the tree
itself, so nested blocks and optional parts can be told apart at a glance.
-/

namespace FuelDuel.Language

open FuelDuel.Text

/-- A node's name and its parts in brackets. -/
def node (name : String) (parts : List String) : String := name ++ "[" ++ commaList parts ++ "]"

/-- The name of an operator's node. -/
def BinaryOp.nodeName : BinaryOp → String
  | .add => "Add"
  | .sub => "Sub"
  | .mul => "Mul"
  | .div => "Div"

/-- The name of an operator's node. -/
def CompareOp.nodeName : CompareOp → String
  | .lt => "Lt"
  | .gt => "Gt"
  | .eq => "Eq"

/-- The name of a connective's node. -/
def Connective.nodeName : Connective → String
  | .and => "And"
  | .or => "Or"

/-- The name of a sensor's node. -/
def Sensor.nodeName : Sensor → String
  | .fuelLeft => "FuelLeft"
  | .opponent axis => "Opp" ++ axis.suffix
  | .numBarrels => "NumBarrels"
  | .barrel axis => "Barrel" ++ axis.suffix
  | .wallDist => "WallDist"

/-- The canonical text of an expression. -/
def Expr.canonical : Expr → String
  | num value => node "Num" [ofInt value.toInt]
  | var name => node "Var" ["$" ++ name]
  | binary op left right => node op.nodeName [left.canonical, right.canonical]
  | sensor gauge => gauge.nodeName
  | barrelAt axis index => node (Sensor.barrel axis).nodeName [index.canonical]

/-- The canonical text of a condition. -/
def Cond.canonical : Cond → String
  | compare op left right => node op.nodeName [left.canonical, right.canonical]
  | connect op left right => node op.nodeName [left.canonical, right.canonical]
  | not inner => node "Not" [inner.canonical]

/-- The canonical text of an action with an optional count. -/
def countedCanonical (name : String) : Option Expr → String
  | none => name
  | some count => node name [count.canonical]

mutual

/-- The canonical text of a statement. -/
def Stmt.canonical : Stmt → String
  | .turn way => way.title
  | .takeFuel => "TakeFuel"
  | .shield true => "ShieldOn"
  | .shield false => "ShieldOff"
  | .move count => countedCanonical "Move" count
  | .wait count => countedCanonical "Wait" count
  | .assign name value => node "Ass" ["$" ++ name ++ "= " ++ value.canonical]
  | .loop body => node "Loop" body.canonicals
  | .ifThen cond body => node "If" [cond.canonical, node "" body.canonicals]
  | .ifElse cond body otherwise =>
      node "If" [cond.canonical, node "" body.canonicals, node "" otherwise.canonicals]
  | .while cond body => node "While" [cond.canonical, node "" body.canonicals]
  | .block body => node "" body.canonicals

/-- The canonical texts of the statements of a block. -/
def Block.canonicals : Block → List String
  | .single stmt => [stmt.canonical]
  | .cons stmt rest => stmt.canonical :: rest.canonicals

end

/-- The canonical text of a block. -/
def Block.canonical (block : Block) : String := node "" block.canonicals

/-- The canonical text of a program. -/
def Program.canonical (program : Program) : String :=
  node "Program" (program.stmts.map Stmt.canonical)

end FuelDuel.Language
