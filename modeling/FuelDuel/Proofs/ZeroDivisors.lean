import FuelDuel.Proofs.ExactValues
import FuelDuel.Proofs.SlotUse

/-!
Division by zero. Evaluation is strict: it gives no value as soon as one division has a zero
divisor, wherever that division stands, be it in an operand, in a barrel index or on the side of a
connective that does not matter for the truth value; and nothing else makes it fail at a division
(`arithmetic_wraps_and_divides_strictly`). An account of an evaluation says which divisions it has
met: all of them if it has given a value, and one with a zero divisor if it has not (`Account`).
-/

namespace FuelDuel.Language

/-- A division inside a term, by its operands. -/
structure Division where
  dividend : Expr
  divisor : Expr
  deriving DecidableEq, Repr

/-- The divisions in an expression, at every depth. -/
def Expr.divisions : Expr → List Division
  | .num _ => []
  | .var _ => []
  | .binary op left right =>
      left.divisions ++ (right.divisions ++ if op = .div then [⟨left, right⟩] else [])
  | .sensor _ => []
  | .barrelAt _ index => index.divisions

/-- The divisions in the expressions of a condition. -/
def Cond.divisions : Cond → List Division
  | .compare _ left right => left.divisions ++ right.divisions
  | .connect _ left right => left.divisions ++ right.divisions
  | .not inner => inner.divisions

theorem Expr.Polynomial.divisions_eq_nil {expr : Expr} (polynomial : expr.Polynomial) :
    expr.divisions = [] := by
  induction polynomial with
  | num value => rfl
  | var name => rfl
  | sensor gauge => rfl
  | binary undivided first second ihFirst ihSecond =>
      simp [Expr.divisions, undivided, ihFirst, ihSecond]

end FuelDuel.Language

namespace FuelDuel.Execution

open FuelDuel.Language
open FuelDuel.World

/-- No sensor fails at a division. -/
def PlainSensors (W : Type) [World W] : Prop :=
  ∀ gauge index (world after : W), World.sense gauge index world ≠ .error .divisionByZero after

theorem plainSensors_of_steady {W : Type} [SteadyWorld W] : PlainSensors W := by
  intro gauge index world after failed
  rw [SteadyWorld.sense_eq] at failed
  cases failed

theorem plainSensors_scripted : PlainSensors Scripted := by
  intro gauge index world after failed
  obtain ⟨outputs, log, vars, performed⟩ := world
  cases outputs with
  | nil => cases failed
  | cons output later => cases failed

section Meeting

variable {W : Type} [World W]

/-- The evaluation of an expression in a world meets a division, whose operands have these values.
What stands to the left of the division has been evaluated before, whatever its value. -/
inductive Meets : Expr → W → Division → Int32 → Int32 → Prop where
  | here {left right : Expr} {world middle after : W} {numerator denominator : Int32}
      (first : evalExpr left world = .ok numerator middle)
      (second : evalExpr right middle = .ok denominator after) :
      Meets (.binary .div left right) world ⟨left, right⟩ numerator denominator
  | left {op : BinaryOp} {left right : Expr} {world : W} {division : Division}
      {numerator denominator : Int32} (inside : Meets left world division numerator denominator) :
      Meets (.binary op left right) world division numerator denominator
  | right {op : BinaryOp} {left right : Expr} {world middle : W} {value : Int32}
      {division : Division} {numerator denominator : Int32}
      (first : evalExpr left world = .ok value middle)
      (inside : Meets right middle division numerator denominator) :
      Meets (.binary op left right) world division numerator denominator
  | index {axis : Axis} {index : Expr} {world : W} {division : Division}
      {numerator denominator : Int32} (inside : Meets index world division numerator denominator) :
      Meets (.barrelAt axis index) world division numerator denominator

/-- The evaluation of a condition in a world meets a division, whose operands have these values. -/
inductive CondMeets : Cond → W → Division → Int32 → Int32 → Prop where
  | compareLeft {op : CompareOp} {left right : Expr} {world : W} {division : Division}
      {numerator denominator : Int32} (inside : Meets left world division numerator denominator) :
      CondMeets (.compare op left right) world division numerator denominator
  | compareRight {op : CompareOp} {left right : Expr} {world middle : W} {value : Int32}
      {division : Division} {numerator denominator : Int32}
      (first : evalExpr left world = .ok value middle)
      (inside : Meets right middle division numerator denominator) :
      CondMeets (.compare op left right) world division numerator denominator
  | connectLeft {op : Connective} {left right : Cond} {world : W} {division : Division}
      {numerator denominator : Int32}
      (inside : CondMeets left world division numerator denominator) :
      CondMeets (.connect op left right) world division numerator denominator
  | connectRight {op : Connective} {left right : Cond} {world middle : W} {value : Bool}
      {division : Division} {numerator denominator : Int32}
      (first : evalCond left world = .ok value middle)
      (inside : CondMeets right middle division numerator denominator) :
      CondMeets (.connect op left right) world division numerator denominator
  | not {inner : Cond} {world : W} {division : Division} {numerator denominator : Int32}
      (inside : CondMeets inner world division numerator denominator) :
      CondMeets (.not inner) world division numerator denominator

/-- A division by zero that is met ends the evaluation. -/
theorem Meets.fails {expr : Expr} {world : W} {division : Division} {numerator denominator : Int32}
    (met : Meets expr world division numerator denominator) (zero : denominator = 0) :
    ∃ after, evalExpr expr world = .error .divisionByZero after := by
  induction met with
  | @here left right world middle after numerator denominator first second =>
      refine ⟨after, ?_⟩
      rw [evalExpr, bind_of_ok first, bind_of_ok second, evalBinary_settle, zero]
      rfl
  | left inside ih =>
      obtain ⟨after, failed⟩ := ih zero
      exact ⟨after, bind_of_error failed⟩
  | right first inside ih =>
      obtain ⟨after, failed⟩ := ih zero
      exact ⟨after, (bind_of_ok first).trans (bind_of_error failed)⟩
  | index inside ih =>
      obtain ⟨after, failed⟩ := ih zero
      exact ⟨after, bind_of_error failed⟩

theorem CondMeets.fails {cond : Cond} {world : W} {division : Division}
    {numerator denominator : Int32} (met : CondMeets cond world division numerator denominator)
    (zero : denominator = 0) : ∃ after, evalCond cond world = .error .divisionByZero after := by
  induction met with
  | compareLeft inside =>
      obtain ⟨after, failed⟩ := inside.fails zero
      exact ⟨after, bind_of_error failed⟩
  | compareRight first inside =>
      obtain ⟨after, failed⟩ := inside.fails zero
      exact ⟨after, (bind_of_ok first).trans (bind_of_error failed)⟩
  | connectLeft inside ih =>
      obtain ⟨after, failed⟩ := ih zero
      exact ⟨after, bind_of_error failed⟩
  | connectRight first inside ih =>
      obtain ⟨after, failed⟩ := ih zero
      exact ⟨after, (bind_of_ok first).trans (bind_of_error failed)⟩
  | not inside ih =>
      obtain ⟨after, failed⟩ := ih zero
      exact ⟨after, bind_of_error failed⟩

end Meeting

/-! ### Accounts -/

section Accounts

variable {W α β : Type} {met weaker : Division → Int32 → Int32 → Prop}
  {divisions first second : List Division}

/-- What the outcome of an evaluation says about the divisions in it: they have all been met, and
none had a zero divisor; or one that had has been met; or the fault has nothing to do with them. -/
inductive Account (divisions : List Division) (met : Division → Int32 → Int32 → Prop) :
    EStateM.Result Fault W α → Prop where
  | passed (all : ∀ division ∈ divisions, ∃ numerator denominator,
      met division numerator denominator ∧ denominator ≠ 0) (value : α) (after : W) :
      Account divisions met (.ok value after)
  | stopped {division : Division} {numerator : Int32} (inside : division ∈ divisions)
      (zero : met division numerator 0) (after : W) :
      Account divisions met (.error .divisionByZero after)
  | unrelated {fault : Fault} (other : fault ≠ .divisionByZero) (after : W) :
      Account divisions met (.error fault after)

namespace Account

theorem imp {result : EStateM.Result Fault W α} (account : Account divisions met result)
    (implies : ∀ {division numerator denominator}, met division numerator denominator →
      weaker division numerator denominator) : Account divisions weaker result := by
  cases account with
  | passed all value after =>
      refine .passed ?_ value after
      intro division inside
      obtain ⟨numerator, denominator, encountered, nonzero⟩ := all division inside
      exact ⟨numerator, denominator, implies encountered, nonzero⟩
  | stopped inside zero after => exact .stopped inside (implies zero) after
  | unrelated other after => exact .unrelated other after

theorem bind {run : Run W α} {next : α → Run W β} {world : W}
    (account : Account first met (run world))
    (later : ∀ {value after}, run world = .ok value after → Account second met (next value after)) :
    Account (first ++ second) met ((run >>= next) world) := by
  rw [bind_apply]
  generalize run world = result at account later
  cases account with
  | passed all value after =>
      have further := later rfl
      change Account (first ++ second) met (next value after)
      generalize next value after = outcome at further ⊢
      cases further with
      | passed others result reached =>
          exact .passed (List.forall_mem_append.mpr ⟨all, others⟩) result reached
      | stopped inside zero reached =>
          exact .stopped (List.mem_append_right first inside) zero reached
      | unrelated other reached => exact .unrelated other reached
  | stopped inside zero after => exact .stopped (List.mem_append_left second inside) zero after
  | unrelated other after => exact .unrelated other after

theorem map {run : Run W α} {world : W} (account : Account divisions met (run world)) (f : α → β) :
    Account divisions met ((do return f (← run)) world) := by
  rw [← List.append_nil divisions]
  exact account.bind fun _ => .passed (by simp) _ _

/-- An evaluation fails at a division if and only if it meets one with a zero divisor. -/
theorem stopped_iff {result : EStateM.Result Fault W α} (account : Account divisions met result)
    (fails : ∀ {division numerator}, met division numerator 0 →
      ∃ after, result = .error .divisionByZero after) :
    (∃ after, result = .error .divisionByZero after) ↔
      ∃ division ∈ divisions, ∃ numerator, met division numerator 0 := by
  constructor
  · rintro ⟨after, rfl⟩
    cases account with
    | stopped inside zero => exact ⟨_, inside, _, zero⟩
    | unrelated other => exact absurd rfl other
  · rintro ⟨division, -, numerator, zero⟩
    exact fails zero

end Account

end Accounts

section Evaluation

variable {W : Type} [World W]

theorem sense_account (plain : PlainSensors W) {met : Division → Int32 → Int32 → Prop}
    (gauge : Sensor) (index : Nat) (world : W) :
    Account [] met (World.sense gauge index world) := by
  cases shown : World.sense gauge index world with
  | ok value after => exact .passed (by simp) value after
  | error fault after =>
      refine .unrelated ?_ after
      rintro rfl
      exact plain gauge index world after shown

theorem evalBinary_account {op : BinaryOp} {left right : Expr} {world middle after : W}
    {leftValue rightValue : Int32} (first : evalExpr left world = .ok leftValue middle)
    (second : evalExpr right middle = .ok rightValue after) :
    Account (if op = .div then [⟨left, right⟩] else []) (Meets (.binary op left right) world)
      (evalBinary op leftValue rightValue after) := by
  cases op with
  | add => exact .passed (by simp) _ after
  | sub => exact .passed (by simp) _ after
  | mul => exact .passed (by simp) _ after
  | div =>
      rw [evalBinary_settle, binaryValue?, if_pos rfl]
      by_cases zero : rightValue = 0
      · subst zero
        rw [if_pos rfl]
        exact .stopped (List.mem_singleton_self _) (.here first second) after
      · rw [if_neg zero]
        refine .passed ?_ _ after
        rintro division inside
        rw [List.mem_singleton.mp inside]
        exact ⟨leftValue, rightValue, .here first second, zero⟩

theorem evalExpr_account (plain : PlainSensors W) (expr : Expr) (world : W) :
    Account expr.divisions (Meets expr world) (evalExpr expr world) := by
  induction expr generalizing world with
  | num value => exact .passed (by simp [Expr.divisions]) value world
  | var name => exact .passed (by simp [Expr.divisions]) _ world
  | binary op left right ihLeft ihRight =>
      apply ((ihLeft world).imp .left).bind
      intro leftValue middle first
      apply ((ihRight middle).imp (.right first)).bind
      intro rightValue after second
      exact evalBinary_account first second
  | sensor gauge => exact sense_account plain gauge 0 world
  | barrelAt axis index ih =>
      rw [Expr.divisions, ← List.append_nil index.divisions]
      apply ((ih world).imp .index).bind
      intro value after first
      exact sense_account plain (.barrel axis) (barrelIndex value) after

theorem evalCond_account (plain : PlainSensors W) (cond : Cond) (world : W) :
    Account cond.divisions (CondMeets cond world) (evalCond cond world) := by
  induction cond generalizing world with
  | compare op left right =>
      apply ((evalExpr_account plain left world).imp .compareLeft).bind
      intro leftValue middle first
      exact ((evalExpr_account plain right middle).imp (.compareRight first)).map _
  | connect op left right ihLeft ihRight =>
      apply ((ihLeft world).imp .connectLeft).bind
      intro leftValue middle first
      exact ((ihRight middle).imp (.connectRight first)).map _
  | not inner ih => exact ((ih world).imp .not).map _

end Evaluation

/-! ### Steady worlds -/

section Steady

variable {W α : Type} [SteadyWorld W] {world after : W} {division : Division}
  {numerator denominator : Int32}

theorem sense_world {gauge : Sensor} {index : Nat} {value : Int32}
    (shown : World.sense gauge index world = .ok value after) : after = world := by
  rw [SteadyWorld.sense_eq] at shown
  cases shown
  rfl

theorem evalExpr_world {expr : Expr} {value : Int32}
    (ran : evalExpr expr world = .ok value after) : after = world :=
  evalExpr_keeps (fun reached => reached = world)
    (fun shown same => (sense_world shown).trans same) ran rfl

theorem evalCond_world {cond : Cond} {value : Bool}
    (ran : evalCond cond world = .ok value after) : after = world :=
  evalCond_keeps (fun reached => reached = world)
    (fun shown same => (sense_world shown).trans same) ran rfl

/-- The operands have these values in the world. -/
def Operands (world : W) (division : Division) (numerator denominator : Int32) : Prop :=
  evalExpr division.dividend world = .ok numerator world ∧
    evalExpr division.divisor world = .ok denominator world

theorem Meets.operands {expr : Expr} (met : Meets expr world division numerator denominator) :
    Operands world division numerator denominator := by
  induction met with
  | here first second =>
      obtain rfl := evalExpr_world first
      obtain rfl := evalExpr_world second
      exact ⟨first, second⟩
  | left inside ih => exact ih
  | right first inside ih =>
      obtain rfl := evalExpr_world first
      exact ih
  | index inside ih => exact ih

theorem CondMeets.operands {cond : Cond}
    (met : CondMeets cond world division numerator denominator) :
    Operands world division numerator denominator := by
  induction met with
  | compareLeft inside => exact inside.operands
  | compareRight first inside =>
      obtain rfl := evalExpr_world first
      exact inside.operands
  | connectLeft inside ih => exact ih
  | connectRight first inside ih =>
      obtain rfl := evalCond_world first
      exact ih
  | not inside ih => exact ih

/-- In a steady world it does not matter which divisions an evaluation has met before it failed:
none of those that it has not come to could have made it succeed. -/
theorem Account.failed_iff {divisions : List Division}
    {met : Division → Int32 → Int32 → Prop} {run : Run W α} {value? : Option α}
    (account : Account divisions met (run world)) (computed : run world = settle value? world)
    (operands : ∀ {division numerator denominator}, met division numerator denominator →
      Operands world division numerator denominator) :
    run world = .error .divisionByZero world ↔
      ∃ division ∈ divisions, ∃ numerator, Operands world division numerator 0 := by
  rw [computed] at account ⊢
  cases value? with
  | none =>
      refine ⟨fun _ => ?_, fun _ => rfl⟩
      cases account with
      | stopped inside zero => exact ⟨_, inside, _, operands zero⟩
      | unrelated other => exact absurd rfl other
  | some value =>
      constructor
      · intro failed
        cases failed
      · rintro ⟨division, inside, numerator, -, zero⟩
        cases account with
        | passed all =>
            obtain ⟨_, denominator, encountered, nonzero⟩ := all division inside
            cases (operands encountered).2.symm.trans zero
            exact absurd rfl nonzero

/-- In a steady world a polynomial has a value. -/
theorem evalExpr_exact {expr : Expr} (polynomial : expr.Polynomial) (world : W) :
    ∃ value exact, evalExpr expr world = .ok value world ∧
      exactExpr expr world = .ok exact world ∧ WrapOf value exact := by
  have same := evalExpr_wraps polynomial world
  have account := evalExpr_account plainSensors_of_steady expr world
  rw [polynomial.divisions_eq_nil] at account
  have computed := evalExpr_steady expr world
  generalize exprValue? (SteadyWorld.readings world) (World.stored world) expr = value? at computed
  rw [computed] at same account ⊢
  cases value? with
  | none =>
      cases account with
      | stopped inside zero => cases inside
      | unrelated other => exact absurd rfl other
  | some value =>
      generalize exactExpr expr world = result at same ⊢
      cases same with
      | ok wrap => exact ⟨value, _, rfl, rfl, wrap⟩

end Steady

/-- A division whose divisor is not zero has the truncated quotient, wrapped. -/
theorem evalExpr_div {W : Type} [World W] {left right : Expr} {world middle after : W}
    {numerator denominator : Int32} (first : evalExpr left world = .ok numerator middle)
    (second : evalExpr right middle = .ok denominator after) (nonzero : denominator ≠ 0) :
    ∃ quotient, evalExpr (.binary .div left right) world = .ok quotient after ∧
      WrapOf quotient (numerator.toInt.tdiv denominator.toInt) := by
  refine ⟨numerator / denominator, ?_, Int32.toInt_div numerator denominator⟩
  rw [evalExpr, bind_of_ok first, bind_of_ok second, evalBinary_settle, binaryValue?,
    if_neg nonzero]
  rfl

/-- Arithmetic wraps once and divides strictly. The value of an expression without divisions and
barrel indices is its value over the integers, wrapped at the end: in a steady world it has one, and
on every world the two are computed from the same readings. A division by anything but zero has the
truncated quotient, wrapped. In a steady world the evaluation of an expression or a condition fails
at a division if and only if there is a division in it, anywhere, whose operands have values and
whose divisor is zero. On any other world whose sensors do not divide themselves this is so for the
divisions that the evaluation meets, with the values that their operands have there. -/
theorem arithmetic_wraps_and_divides_strictly :
    (∀ {W : Type} [SteadyWorld W] {expr : Expr}, expr.Polynomial → ∀ world : W,
      ∃ value exact, evalExpr expr world = .ok value world ∧
        exactExpr expr world = .ok exact world ∧ WrapOf value exact) ∧
    (∀ {W : Type} [World W] {expr : Expr}, expr.Polynomial → ∀ world : W,
      SameRun WrapOf (evalExpr expr world) (exactExpr expr world)) ∧
    (∀ {W : Type} [World W] {left right : Expr} {world middle after : W}
      {numerator denominator : Int32},
      evalExpr left world = .ok numerator middle → evalExpr right middle = .ok denominator after →
      denominator ≠ 0 → ∃ quotient, evalExpr (.binary .div left right) world = .ok quotient after ∧
        WrapOf quotient (numerator.toInt.tdiv denominator.toInt)) ∧
    (∀ {W : Type} [SteadyWorld W] (world : W),
      (∀ expr : Expr, evalExpr expr world = .error .divisionByZero world ↔
        ∃ division ∈ expr.divisions, ∃ numerator, Operands world division numerator 0) ∧
      ∀ cond : Cond, evalCond cond world = .error .divisionByZero world ↔
        ∃ division ∈ cond.divisions, ∃ numerator, Operands world division numerator 0) ∧
    ∀ {W : Type} [World W], PlainSensors W → ∀ world : W,
      (∀ expr : Expr, (∃ after, evalExpr expr world = .error .divisionByZero after) ↔
        ∃ division ∈ expr.divisions, ∃ numerator, Meets expr world division numerator 0) ∧
      ∀ cond : Cond, (∃ after, evalCond cond world = .error .divisionByZero after) ↔
        ∃ division ∈ cond.divisions, ∃ numerator, CondMeets cond world division numerator 0 := by
  refine ⟨?_, ?_, ?_, ?_, ?_⟩
  · intro W _ expr polynomial world
    exact evalExpr_exact polynomial world
  · intro W _ expr polynomial world
    exact evalExpr_wraps polynomial world
  · intro W _ left right world middle after numerator denominator first second nonzero
    exact evalExpr_div first second nonzero
  · intro W _ world
    constructor
    · intro expr
      exact (evalExpr_account plainSensors_of_steady expr world).failed_iff
        (evalExpr_steady expr world) Meets.operands
    · intro cond
      exact (evalCond_account plainSensors_of_steady cond world).failed_iff
        (evalCond_steady cond world) CondMeets.operands
  · intro W _ plain world
    constructor
    · intro expr
      exact (evalExpr_account plain expr world).stopped_iff fun zero => zero.fails rfl
    · intro cond
      exact (evalCond_account plain cond world).stopped_iff fun zero => zero.fails rfl

/-- The square of the largest word, less a sensor reading. -/
def overflowing : Expr :=
  .binary .sub (.binary .mul (.num Int32.maxValue) (.num Int32.maxValue)) (.sensor .fuelLeft)

theorem polynomial_overflowing : overflowing.Polynomial :=
  .binary (by decide) (.binary (by decide) (.num _) (.num _)) (.sensor .fuelLeft)

/-- It holds by its left side; on the right there is a division in a barrel index. -/
def idleDivision : Cond :=
  .connect .or (.compare .eq (.num 0) (.num 0))
    (.compare .lt (.barrelAt .leftRight (.binary .div (.num 1) (.var "n"))) (.num 2))

/-- One sensor reading divided by the next. -/
def gaugeRatio : Expr :=
  .binary .div (.sensor (.opponent .leftRight)) (.sensor (.opponent .frontBack))

/-- A world where the tank is full and no variable has been written. -/
def still : Rehearsal := { readings := {} }

/-- A square that overflows is wrapped once, the least word divided by minus one is itself, a
division by zero counts although nothing depends on its value, and so does one by the second of two
readings. -/
theorem arithmetic_wraps_and_divides_strictly_of_overflowing :
    (evalExpr overflowing still = .ok (-99) still ∧
      exactExpr overflowing still = .ok 4611686014132420509 still ∧
      WrapOf (-99) 4611686014132420509) ∧
    (evalExpr (.binary .div (.num Int32.minValue) (.num (-1))) still =
        .ok Int32.minValue still ∧ WrapOf Int32.minValue 2147483648) ∧
    evalCond idleDivision still = .error .divisionByZero still ∧
    ∃ division ∈ gaugeRatio.divisions, ∃ numerator,
      Meets gaugeRatio ({ outputs := [5, 0] } : Scripted) division numerator 0 := by
  obtain ⟨exactly, -, quotients, steady, scripted⟩ := arithmetic_wraps_and_divides_strictly
  refine ⟨⟨rfl, rfl, ?_⟩, ⟨rfl, ?_⟩, ?_, ?_⟩
  · obtain ⟨value, exact, computed, unbounded, wrap⟩ := exactly polynomial_overflowing still
    cases computed
    cases unbounded
    exact wrap
  · have first : evalExpr (.num Int32.minValue) still = .ok Int32.minValue still := rfl
    have second : evalExpr (.num (-1)) still = .ok (-1) still := rfl
    obtain ⟨quotient, computed, wrap⟩ := quotients first second (by decide)
    cases computed
    exact wrap
  · refine ((steady still).2 idleDivision).mpr ⟨⟨.num 1, .var "n"⟩, ?_, 1, rfl, rfl⟩
    simp [idleDivision, Cond.divisions, Expr.divisions]
  · exact ((scripted plainSensors_scripted _).1 gaugeRatio).mp ⟨_, rfl⟩

end FuelDuel.Execution
