import FuelDuel.Execution.Eval
import FuelDuel.Proofs.Lockstep

/-!
Words and integers. An expression has a second reading in which numbers have any size. For sums,
differences and products of literals, variables and sensors the two readings agree up to one wrap at
the end (`evalExpr_wraps`), since wrapping is a ring homomorphism. A division or a barrel
index looks at the size of a number, so both may tell a wrapped operand from an exact one.
-/

namespace FuelDuel.Language

/-- The expression adds, subtracts and multiplies literals, variables and sensors. It holds neither
a division nor a barrel index. -/
inductive Expr.Polynomial : Expr → Prop where
  | num (value : Int32) : Polynomial (.num value)
  | var (name : String) : Polynomial (.var name)
  | sensor (gauge : Sensor) : Polynomial (.sensor gauge)
  | binary {op : BinaryOp} {left right : Expr} (undivided : op ≠ .div)
      (first : Polynomial left) (second : Polynomial right) : Polynomial (.binary op left right)

end FuelDuel.Language

namespace FuelDuel.Execution

open FuelDuel.Language

variable {W : Type} [World W]

/-- Applies an operator to two integers. Division truncates towards zero. -/
def exactBinary (op : BinaryOp) (left right : Int) : Run W Int :=
  match op with
  | .add => pure (left + right)
  | .sub => pure (left - right)
  | .mul => pure (left * right)
  | .div => if right = 0 then throw .divisionByZero else pure (left.tdiv right)

/-- The value of an expression over the integers. Literals, variables and sensors hold words; all
else is computed without a bound. -/
def exactExpr : Expr → Run W Int
  | .num value => pure value.toInt
  | .var name => do return ((World.stored (← get) name).getD 0).toInt
  | .binary op left right => do
      let leftValue ← exactExpr left
      let rightValue ← exactExpr right
      exactBinary op leftValue rightValue
  | .sensor gauge => do return (← World.sense gauge 0).toInt
  | .barrelAt axis index => do
      let value ← exactExpr index
      return (← World.sense (.barrel axis) value.toNat).toInt

/-- The word is what is left of the integer modulo the number of words, with its sign. -/
def WrapOf (value : Int32) (exact : Int) : Prop := value.toInt = exact.bmod Int32.size

theorem wrapOf_iff {value : Int32} {exact : Int} :
    WrapOf value exact ↔ Int32.ofInt exact = value := by
  rw [WrapOf, ← Int32.toInt_ofInt, Int32.toInt_inj, eq_comm]

theorem wrapOf_toInt (value : Int32) : WrapOf value value.toInt :=
  wrapOf_iff.mpr (Int32.ofInt_toInt value)

omit [World W] in
/-- Wrapping commutes with every operator but division. -/
theorem evalBinary_wraps {op : BinaryOp} (undivided : op ≠ .div) {left right : Int32}
    {exactLeft exactRight : Int} (first : WrapOf left exactLeft) (second : WrapOf right exactRight)
    (world : W) :
    SameRun WrapOf (evalBinary op left right world)
      (exactBinary op exactLeft exactRight world) := by
  obtain rfl := wrapOf_iff.mp first
  obtain rfl := wrapOf_iff.mp second
  cases op with
  | add =>
      have sum : WrapOf (Int32.ofInt exactLeft + Int32.ofInt exactRight) (exactLeft + exactRight) :=
        wrapOf_iff.mpr (Int32.ofInt_add exactLeft exactRight)
      exact .ok sum world
  | sub =>
      have difference :
          WrapOf (Int32.ofInt exactLeft - Int32.ofInt exactRight) (exactLeft - exactRight) :=
        wrapOf_iff.mpr (Int32.ofInt_sub exactLeft exactRight)
      exact .ok difference world
  | mul =>
      have product :
          WrapOf (Int32.ofInt exactLeft * Int32.ofInt exactRight) (exactLeft * exactRight) :=
        wrapOf_iff.mpr (Int32.ofInt_mul exactLeft exactRight)
      exact .ok product world
  | div => exact absurd rfl undivided

/-- The value of a polynomial is its value over the integers, wrapped once at the end. Both are
computed from the same readings. -/
theorem evalExpr_wraps {expr : Expr} (polynomial : expr.Polynomial) (world : W) :
    SameRun WrapOf (evalExpr expr world) (exactExpr expr world) := by
  induction polynomial generalizing world with
  | num value => exact .ok (wrapOf_toInt value) world
  | var name => exact .ok (wrapOf_toInt _) world
  | sensor gauge =>
      rw [evalExpr, exactExpr, bind_apply]
      cases World.sense gauge 0 world with
      | ok value after => exact .ok (wrapOf_toInt value) after
      | error fault after => exact .error fault after
  | binary undivided first second ihFirst ihSecond =>
      apply (ihFirst world).bind
      intro left exactLeft wrapLeft middle
      apply (ihSecond middle).bind
      intro right exactRight wrapRight after
      exact evalBinary_wraps undivided wrapLeft wrapRight after

/-- Half of the largest word plus one: a division tells the wrapped dividend from the exact one. -/
example (world : W) :
    let half : Expr := .binary .div (.binary .add (.num Int32.maxValue) (.num 1)) (.num 2)
    evalExpr half world = .ok (-1073741824) world ∧ exactExpr half world = .ok 1073741824 world :=
  ⟨rfl, rfl⟩

end FuelDuel.Execution
