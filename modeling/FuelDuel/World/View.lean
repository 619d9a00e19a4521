import FuelDuel.Execution.World
import FuelDuel.World.Readings
import FuelDuel.World.Vars

/-!
The world that a program sees during one tick in the arena: readings taken before the tick, the
program's own variables, and the decision it has come to. The arena carries the decision out once
the program has run.
-/

namespace FuelDuel.World

open FuelDuel.Execution

/-- What a program has decided in one tick: an action, and a shield setting if it made one. -/
structure Decision where
  action : Option Action := none
  shield : Option Bool := none
  deriving DecidableEq, Repr

/-- One robot's view of the arena during one tick. -/
structure View where
  readings : Readings
  vars : Vars
  decision : Decision := {}
  deriving DecidableEq, Repr

instance : Execution.World View where
  performed view := view.decision.action
  stored view name := view.vars.get? name
  store name value view := { view with vars := view.vars.set name value }
  act action view := { view with decision.action := some action }
  setShield on view := { view with decision.shield := some on }
  sense gauge index := fun view => .ok (view.readings.sense gauge index) view

end FuelDuel.World
