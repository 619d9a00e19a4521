import FuelDuel.Decimal.Shortest
import FuelDuel.Text.Decimal

/-!
The configuration of a match, and which configurations can be played. The limits keep every amount
that a match computes within 32 bits.
-/

namespace FuelDuel

open FuelDuel.Text

/-- Everything about a match that is not fixed by the rules. -/
structure Config where
  /-- The number of cells along each side of the arena. -/
  gridSize : Int := 12
  /-- What a full tank holds, and what each robot starts with. -/
  maxFuel : Int := 100
  /-- The price of every tick. -/
  waitCost : Int := 3
  /-- The extra price of a tick in which a robot tries to leave its cell. -/
  moveCost : Int := 3
  /-- The extra price of a tick in which a robot turns. -/
  turnCost : Int := 2
  /-- The extra price of a tick at whose start the shield is up. -/
  shieldCost : Int := 2
  /-- The probability that a barrel appears in a tick. -/
  spawnChance : Float := 0.1
  /-- The number of barrels to start with. -/
  initialBarrels : Nat := 2
  /-- The seed of the random source. -/
  seed : UInt64 := 0
  /-- The number of ticks after which a match is over in any case. -/
  maxTicks : Nat := 1000
  deriving BEq, Repr

namespace Config

/-- The four prices of a tick. -/
inductive Cost where
  | wait
  | move
  | turn
  | shield
  deriving DecidableEq, Repr

/-- The field in which a price is configured. -/
def Cost.key : Cost → String
  | wait => "wait_cost"
  | move => "move_cost"
  | turn => "turn_cost"
  | shield => "shield_cost"

/-- All prices, in the order in which they are checked. -/
def Cost.all : List Cost := [wait, move, turn, shield]

/-- The configured price. -/
def cost (config : Config) : Cost → Int
  | .wait => config.waitCost
  | .move => config.moveCost
  | .turn => config.turnCost
  | .shield => config.shieldCost

/-- The largest arena. -/
def maxGridSize : Int := 256

/-- The largest tank. -/
def maxFuelLimit : Int := 1000000

/-- The number of cells of the arena. -/
def cellCount (config : Config) : Nat := (config.gridSize * config.gridSize).toNat

/-- Why a configuration cannot be played. -/
inductive Invalid where
  | gridSize (got : Int)
  | maxFuel (got : Int)
  | cost (price : Cost) (limit got : Int)
  | initialBarrels (cells got : Nat)
  | spawnChance (got : Float)
  deriving Repr

/-- What is wrong. -/
def Invalid.message : Invalid → String
  | gridSize got =>
      "grid_size must be within [2, " ++ ofInt maxGridSize ++ "], got " ++ ofInt got
  | maxFuel got => "max_fuel must be within [1, " ++ ofInt maxFuelLimit ++ "], got " ++ ofInt got
  | cost price limit got =>
      price.key ++ " must be within [0, max_fuel = " ++ ofInt limit ++ "], got " ++ ofInt got
  | initialBarrels cells got =>
      "initial_barrels must not exceed the " ++ ofNat cells ++ " arena cells, got " ++ ofNat got
  | spawnChance got =>
      "barrel_spawn_chance must be within [0, 1], got " ++ Decimal.floatText got

/-- The first price that is negative or exceeds a full tank. -/
def badCost? (config : Config) : Option Cost :=
  Cost.all.find? fun cost => !(0 ≤ config.cost cost && config.cost cost ≤ config.maxFuel)

/-- The first reason why a configuration cannot be played, if there is any. -/
def invalid? (config : Config) : Option Invalid :=
  if !(2 ≤ config.gridSize && config.gridSize ≤ maxGridSize) then
    some (.gridSize config.gridSize)
  else if !(1 ≤ config.maxFuel && config.maxFuel ≤ maxFuelLimit) then
    some (.maxFuel config.maxFuel)
  else match config.badCost? with
    | some cost => some (.cost cost config.maxFuel (config.cost cost))
    | none =>
        if config.cellCount < config.initialBarrels then
          some (.initialBarrels config.cellCount config.initialBarrels)
        else if !(0 ≤ config.spawnChance && config.spawnChance ≤ 1) then
          some (.spawnChance config.spawnChance)
        else none

/-- A configuration that can be played. -/
def Valid (config : Config) : Prop := config.invalid? = none

end Config

end FuelDuel
