import FuelDuel.Language.Tree

/-!
Prebuilt programs. `fallback` plays for a side that brings no program of its own.
-/

namespace FuelDuel.Language.Prebuilt

/-- The literal zero. -/
def zero : Expr := .num 0

/-- The offset of the closest barrel to the right. -/
def closestRight : Expr := .sensor (.barrel .leftRight)

/-- The offset of the closest barrel ahead. -/
def closestAhead : Expr := .sensor (.barrel .frontBack)

/-- Both conditions hold. -/
def both (left right : Cond) : Cond := .connect .and left right

/-- An `if` with two one-statement blocks. -/
def choose (cond : Cond) (first second : Stmt) : Stmt :=
  .ifElse cond (.single first) (.single second)

/-- Two turns that cancel each other, and a move. -/
def zigzagBlock : Block := .ofCons (.turn .left) [.turn .right, .move none]

/-- `turnL; turnR; move;` -/
def leftRightMove : Program := ⟨zigzagBlock.toList⟩

/-- The same in a loop. -/
def loopLeftRightMove : Program := ⟨[.loop zigzagBlock]⟩

/-- The same while zero equals zero. -/
def whileLeftRightMove : Program := ⟨[.while (.compare .eq zero zero) zigzagBlock]⟩

/-- The chain of tests that steers towards the offsets `right` and `ahead`: take fuel on the spot,
move towards what is straight ahead, turn around for what is straight behind, turn left for what is
to the left, and do `last` otherwise. -/
def steer (right ahead : Expr) (last : Stmt → Stmt) : Stmt :=
  choose (both (.compare .eq right zero) (.compare .eq ahead zero)) .takeFuel <|
  choose (both (.compare .eq right zero) (.compare .gt ahead zero)) (.move none) <|
  choose (both (.compare .eq right zero) (.compare .lt ahead zero)) (.turn .around) <|
  choose (.compare .lt right zero) (.turn .left) (last (.turn .right))

/-- Steers towards the closest barrel and takes it, reading the sensors afresh at every test. -/
def aimAndGo : Program :=
  ⟨[.loop (.single (steer closestRight closestAhead fun turn =>
    .ifThen (.compare .gt closestRight zero) (.single turn)))]⟩

/-- Steers towards the closest barrel and takes it, reading each sensor once per round. -/
def aimAndGoLocVar : Program :=
  ⟨[.loop (.ofCons (.assign "lr" closestRight)
    [.assign "fb" closestAhead, steer (.var "lr") (.var "fb") id])]⟩

/-- Turns towards a barrel at the offsets `$x` and `$y`, or moves, or takes it. -/
def approach : Stmt :=
  choose (both (.compare .eq (.var "x") zero) (.compare .eq (.var "y") zero)) .takeFuel <|
  choose (.compare .eq (.var "y") zero)
    (choose (.compare .gt (.var "x") zero) (.turn .left) (.turn .right))
    (choose (.compare .gt (.var "y") zero) (.move none) (.turn .around))

/-- Hunts barrels while fuel lasts; with no barrel in sight, tries to siphon fuel from whatever is
ahead. -/
def fallback : Program :=
  ⟨[.while (.compare .gt (.sensor .fuelLeft) zero) (.single
    (.ifElse (.compare .eq (.sensor .numBarrels) zero) (.single .takeFuel)
      (.ofCons (.assign "x" closestRight) [.assign "y" closestAhead, approach])))]⟩

/-- Every prebuilt program with its name. -/
def all : List (String × Program) :=
  [("leftRightMove", leftRightMove), ("loopLeftRightMove", loopLeftRightMove),
    ("whileLeftRightMove", whileLeftRightMove), ("aimAndGo", aimAndGo),
    ("aimAndGoLocVar", aimAndGoLocVar), ("default", fallback)]

/-- The prebuilt program of the given name. -/
def find? (name : String) : Option Program := all.lookup name

end FuelDuel.Language.Prebuilt
