import FuelDuel.Language.Keyword
import FuelDuel.Text.Decimal

/-!
The world of a running program: what a program can observe and do. A world has one action slot per
tick, a store of variables, a shield setting and sensors. Reading a sensor may change the world (a
scripted world uses up an answer) and may fail (it has none left); worlds of the arena do neither.
-/

namespace FuelDuel.Execution

open FuelDuel.Language
open FuelDuel.Text

/-- The actions of which a robot performs at most one per tick. -/
inductive Action where
  | move
  | turn (way : Turn)
  | takeFuel
  | wait
  deriving DecidableEq, Repr

namespace Action

/-- The word for an action in program text and reports. -/
def keyword : Action → String
  | move => "move"
  | turn way => way.keyword
  | takeFuel => "takeFuel"
  | wait => "wait"

/-- All actions. -/
def all : List Action :=
  [move, turn .left, turn .right, turn .around, takeFuel, wait]

/-- The action that a word stands for. -/
def ofKeyword? (word : String) : Option Action := all.find? (·.keyword == word)

/-- The name of an action in logs. -/
def title : Action → String
  | move => "Move"
  | turn way => way.title
  | takeFuel => "TakeFuel"
  | wait => "Wait"

end Action

/-- Why a program cannot go on. -/
inductive Fault where
  | divisionByZero
  /-- A second action in one tick. -/
  | slotUsed (attempted performed : Action)
  /-- So many statements ran in one tick that none of them seems to act. -/
  | stepLimit (limit : Nat)
  /-- The world has no answer to a sensor reading. -/
  | unanswered (reading : String)
  deriving DecidableEq, Repr

namespace Fault

/-- What is wrong, as reports say it. -/
def message : Fault → String
  | divisionByZero => "division by zero"
  | slotUsed attempted performed =>
      "action slot already used this tick (attempted " ++ attempted.keyword ++
        ", already performed " ++ performed.keyword ++ ")"
  | stepLimit limit => "no action performed after " ++ ofNat limit ++ " steps"
  | unanswered reading => "MockWorld ran out of scripted outputs at " ++ reading

end Fault

/-- A computation of a program on a world `W`. It keeps the world it has reached also when it ends
in a fault. -/
abbrev Run (W : Type) : Type → Type := EStateM Fault W

/-- What a program can observe and do. -/
class World (W : Type) where
  /-- The action that has been performed in the current tick. -/
  performed : W → Option Action
  /-- The value of a variable that has been written. -/
  stored : W → String → Option Int32
  /-- Writes a variable. -/
  store : String → Int32 → W → W
  /-- Records an action; the slot has to be free. -/
  act : Action → W → W
  /-- Sets the shield, which leaves the slot alone. -/
  setShield : Bool → W → W
  /-- Reads a sensor. The index says which barrel a barrel sensor is about. -/
  sense : Sensor → Nat → Run W Int32

variable {W : Type} [World W]

/-- Whether the action of this tick has been performed. -/
def World.used (world : W) : Bool := (World.performed world).isSome

/-- Performs an action, which uses the slot; if it is used already the world stays as it is. -/
def perform (action : Action) : Run W Unit := fun world =>
  match World.performed world with
  | some performed => .error (.slotUsed action performed) world
  | none => .ok () (World.act action world)

end FuelDuel.Execution
