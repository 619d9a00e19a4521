import FuelDuel.Arena.Body
import FuelDuel.Arena.CellSet

/-!
What a robot perceives at the start of a tick: its fuel, the opponent, the wall ahead, and the
barrels with the closest first. Barrels at equal distance keep their row-major order.
-/

namespace FuelDuel.Arena

open FuelDuel.World

/-- What a robot perceives. -/
structure Perception where
  fuel : Int
  opponent : Offset Int
  barrels : List (Offset Int)
  wallDistance : Int
  deriving DecidableEq, Repr

/-- The number of steps to a cell at an offset. -/
def stepsTo (offset : Offset Int) : Int := offset.right.natAbs + offset.ahead.natAbs

namespace Perception

/-- What `me` perceives. -/
def capture (grid : Grid) (barrels : CellSet) (me other : Body) : Perception :=
  let here := me.current.pos
  let facing := me.current.dir
  let seen (cell : Cell) := facing.relative (here.shiftTo cell)
  { fuel := me.current.fuel
    opponent := seen other.current.pos
    barrels := (barrels.cells.map seen).mergeSort fun a b => stepsTo a ≤ stepsTo b
    wallDistance := grid.wallDistance here facing }

/-- What the sensors show of it. -/
def readings (perception : Perception) : Readings :=
  { fuel := Int32.ofInt perception.fuel
    opponent := perception.opponent.map Int32.ofInt
    barrels := perception.barrels.map (·.map Int32.ofInt)
    wallDist := Int32.ofInt perception.wallDistance }

end Perception

end FuelDuel.Arena
