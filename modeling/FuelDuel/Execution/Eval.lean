import FuelDuel.Execution.World

/-!
Evaluation of expressions and conditions. Arithmetic is that of 32-bit words, which wraps. Both
operands of every operator are evaluated, left before right, so that the sensors a formula reads do
not depend on their values.
-/

namespace FuelDuel.Execution

open FuelDuel.Language

variable {W : Type} [World W]

/-- Applies an operator to two values. Division truncates towards zero. -/
def evalBinary (op : BinaryOp) (left right : Int32) : Run W Int32 :=
  match op with
  | .add => pure (left + right)
  | .sub => pure (left - right)
  | .mul => pure (left * right)
  | .div => if right = 0 then throw .divisionByZero else pure (left / right)

/-- The barrel index that a value stands for: negative values mean the closest barrel. -/
def barrelIndex (value : Int32) : Nat := value.toInt.toNat

/-- The value of an expression. A variable that was never written is zero. -/
def evalExpr : Expr → Run W Int32
  | .num value => pure value
  | .var name => do return (World.stored (← get) name).getD 0
  | .binary op left right => do
      let leftValue ← evalExpr left
      let rightValue ← evalExpr right
      evalBinary op leftValue rightValue
  | .sensor gauge => World.sense gauge 0
  | .barrelAt axis index => do
      let value ← evalExpr index
      World.sense (.barrel axis) (barrelIndex value)

/-- Compares two values. -/
def evalCompare : CompareOp → Int32 → Int32 → Bool
  | .lt, left, right => left < right
  | .gt, left, right => right < left
  | .eq, left, right => left == right

/-- Joins two truth values. -/
def evalConnective : Connective → Bool → Bool → Bool
  | .and, left, right => left && right
  | .or, left, right => left || right

/-- The truth value of a condition. -/
def evalCond : Cond → Run W Bool
  | .compare op left right => do
      let leftValue ← evalExpr left
      let rightValue ← evalExpr right
      return evalCompare op leftValue rightValue
  | .connect op left right => do
      let leftValue ← evalCond left
      let rightValue ← evalCond right
      return evalConnective op leftValue rightValue
  | .not inner => do return !(← evalCond inner)

end FuelDuel.Execution
