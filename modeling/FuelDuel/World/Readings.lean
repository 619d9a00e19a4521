import FuelDuel.Language.Tree

/-!
What the sensors of a robot show at one moment.
-/

namespace FuelDuel.World

open FuelDuel.Language

/-- A displacement as a robot sees it: how far to its right and how far ahead. -/
structure Offset (α : Type) where
  right : α
  ahead : α
  deriving DecidableEq, Repr

namespace Offset

variable {α β : Type}

/-- The component along an axis. -/
def along (offset : Offset α) : Axis → α
  | .leftRight => offset.right
  | .frontBack => offset.ahead

/-- Changes both components. -/
def map (f : α → β) (offset : Offset α) : Offset β := ⟨f offset.right, f offset.ahead⟩

end Offset

/-- The values of all sensors. Barrels are listed with the closest first. -/
structure Readings where
  fuel : Int32 := 100
  opponent : Offset Int32 := ⟨0, 0⟩
  barrels : List (Offset Int32) := []
  wallDist : Int32 := 0
  deriving DecidableEq, Repr

/-- What a barrel sensor shows for an index past the end of the list of barrels. -/
def noBarrel : Int32 := Int32.maxValue

/-- The value of one sensor; `index` says which barrel a barrel sensor is about. -/
def Readings.sense (readings : Readings) (gauge : Sensor) (index : Nat) : Int32 :=
  match gauge with
  | .fuelLeft => readings.fuel
  | .opponent axis => readings.opponent.along axis
  | .numBarrels => Int32.ofNat readings.barrels.length
  | .barrel axis => (readings.barrels[index]?.map (·.along axis)).getD noBarrel
  | .wallDist => readings.wallDist

end FuelDuel.World
