import FuelDuel.Execution.Step
import FuelDuel.World.Readings
import FuelDuel.World.Vars

/-!
Rehearsals: a lone program runs for some ticks against readings that never change, and the actions
it performs are listed.
-/

namespace FuelDuel.World

open FuelDuel.Execution
open FuelDuel.Language

/-- The world of a rehearsal: constant readings, and what the program has done so far. -/
structure Rehearsal where
  readings : Readings
  vars : Vars := .empty
  performed : Option Action := none
  shield : Bool := false
  deriving DecidableEq, Repr

namespace Rehearsal

instance : Execution.World Rehearsal where
  performed world := world.performed
  stored world name := world.vars.get? name
  store name value world := { world with vars := world.vars.set name value }
  act action world := { world with performed := some action }
  setShield on world := { world with shield := on }
  sense gauge index := fun world => .ok (world.readings.sense gauge index) world

/-- Ends the tick, which frees the action slot. -/
def endTick (world : Rehearsal) : Rehearsal := { world with performed := none }

/-- The actions of a program in up to `ticks` ticks from a given world on. -/
def actionsFrom : Nat → Program → Rehearsal → Except Fault (List Action)
  | 0, _, _ => .ok []
  | ticks + 1, program, world =>
      if program.isFinished then .ok []
      else
        match execute program world with
        | .error fault _ => .error fault
        | .ok rest world =>
            (actionsFrom ticks rest world.endTick).map (world.performed.toList ++ ·)

/-- The actions that a program performs in up to `ticks` ticks against the given readings. -/
def actions (program : Program) (ticks : Nat) (readings : Readings) :
    Except Fault (List Action) :=
  actionsFrom ticks program { readings }

end Rehearsal

end FuelDuel.World
