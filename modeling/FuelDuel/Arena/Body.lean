import FuelDuel.Arena.Grid
import FuelDuel.Config.Basic

/-!
The body of a robot. Sensors see its current state; decisions write its target state, which becomes
current when the next tick starts. So nothing that a robot does in a tick can be seen in that tick.
-/

namespace FuelDuel.Arena

/-- Where a robot stands, which way it faces, its fuel, and whether its shield is up. -/
structure Stance where
  pos : Cell
  dir : Direction
  fuel : Int
  shield : Bool
  deriving DecidableEq, Repr

/-- The body of a robot. -/
structure Body where
  /-- The state that sensors see. -/
  current : Stance
  /-- The state that the robot wants. -/
  target : Stance
  /-- Where the robot will stand in the next tick. -/
  nextPos : Cell
  /-- The fuel that the opponent has siphoned off in this tick. -/
  stolen : Int
  deriving DecidableEq, Repr

namespace Body

/-- A robot at rest with its shield down. -/
def atRest (pos : Cell) (dir : Direction) (fuel : Int) : Body :=
  let stance : Stance := ⟨pos, dir, fuel, false⟩
  ⟨stance, stance, pos, 0⟩

/-- The fuel that the next tick starts with. -/
def settledFuel (body : Body) : Int := body.target.fuel - body.stolen

/-- The current state at the start of the next tick. -/
def settled (body : Body) : Stance :=
  { body.target with pos := body.nextPos, fuel := body.settledFuel }

/-- Starts the next tick. -/
def commit (body : Body) : Body := ⟨body.settled, body.settled, body.nextPos, 0⟩

/-- Whether the robot wants to leave its cell. -/
def isMoving (body : Body) : Bool := body.current.pos ≠ body.target.pos

/-- Whether the robot turns. -/
def isTurning (body : Body) : Bool := body.current.dir ≠ body.target.dir

/-- Whether the robot is out of fuel. -/
def isDead (body : Body) : Bool := body.settledFuel ≤ 0

/-- The fuel that an opponent can siphon off: at most a quarter of a full tank, at most half of
what is left, and never a negative amount. -/
def extractable (body : Body) (maxFuel : Int) : Int :=
  max (min (maxFuel.tdiv 4) (body.current.fuel.tdiv 2)) 0

/-- The price of this tick. -/
def tickCost (body : Body) (config : Config) : Int :=
  config.waitCost + (if body.current.shield then config.shieldCost else 0) +
    (if body.isMoving then config.moveCost else 0) +
    (if body.isTurning then config.turnCost else 0)

/-- Pays the price of this tick. -/
def charge (body : Body) (config : Config) : Body :=
  { body with target.fuel := body.target.fuel - body.tickCost config }

end Body

end FuelDuel.Arena
