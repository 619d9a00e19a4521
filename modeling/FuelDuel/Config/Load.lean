import FuelDuel.Config.Basic
import FuelDuel.Json.Numeral
import FuelDuel.Json.Pretty
import FuelDuel.Json.Read

/-!
Configurations as JSON text. An object gives fields by name and in any order; fields that are not
given have their default values, fields that are not known are ignored, and no known field may be
given twice. An array gives the fields in their declared order.
-/

namespace FuelDuel.Config

/-- Why a text gives no configuration. -/
inductive LoadError where
  /-- The text could not be read at all. -/
  | unreadable (reason : String)
  /-- The text is not JSON of the right shape. -/
  | malformed
  /-- The configuration cannot be played. -/
  | invalid (reason : Invalid)
  deriving Repr

/-- What is wrong. -/
def LoadError.message : LoadError → String
  | unreadable reason => "failed to read config: " ++ reason
  | malformed => "failed to parse config: not a JSON object or array of configuration fields"
  | invalid reason => "invalid config: " ++ reason.message

/-- The fields of a configuration. -/
inductive Field where
  | gridSize
  | maxFuel
  | cost (price : Cost)
  | spawnChance
  | initialBarrels
  | seed
  | maxTicks
  deriving DecidableEq, Repr

namespace Field

/-- All fields, in declared order. -/
def all : List Field :=
  [gridSize, maxFuel, cost .wait, cost .move, cost .turn, cost .shield, spawnChance,
    initialBarrels, seed, maxTicks]

/-- The name of a field in JSON. -/
def key : Field → String
  | gridSize => "grid_size"
  | maxFuel => "max_fuel"
  | cost price => price.key
  | spawnChance => "barrel_spawn_chance"
  | initialBarrels => "initial_barrels"
  | seed => "seed"
  | maxTicks => "max_ticks"

/-- The field of a given name. -/
def ofKey? (name : String) : Option Field := all.find? (·.key == name)

end Field

/-- An integer of 32 bits with sign. -/
def int32? : Json.Value → Option Int
  | .number numeral =>
      numeral.toInt?.filter fun n => Int32.minValue.toInt ≤ n && n ≤ Int32.maxValue.toInt
  | _ => none

/-- An integer of 64 bits without sign. -/
def word64? : Json.Value → Option Nat
  | .number numeral => (numeral.toInt?.bind Int.toNat?).filter (· < UInt64.size)
  | _ => none

/-- A floating-point number. -/
def float? : Json.Value → Option Float
  | .number numeral => numeral.toFloat?
  | _ => none

/-- Sets a price. -/
def setCost (config : Config) (cost : Cost) (price : Int) : Config :=
  match cost with
  | .wait => { config with waitCost := price }
  | .move => { config with moveCost := price }
  | .turn => { config with turnCost := price }
  | .shield => { config with shieldCost := price }

/-- Sets a field to a JSON value of the right type. -/
def setField? (config : Config) (field : Field) (value : Json.Value) : Option Config :=
  match field with
  | .gridSize => (int32? value).map fun n => { config with gridSize := n }
  | .maxFuel => (int32? value).map fun n => { config with maxFuel := n }
  | .cost cost => (int32? value).map (config.setCost cost)
  | .spawnChance => (float? value).map fun x => { config with spawnChance := x }
  | .initialBarrels => (word64? value).map fun n => { config with initialBarrels := n }
  | .seed => (word64? value).map fun n => { config with seed := UInt64.ofNat n }
  | .maxTicks => (word64? value).map fun n => { config with maxTicks := n }

/-- Sets the fields of an object one after the other; `seen` lists the known fields so far. -/
def ofFields? (config : Config) (seen : List Field) :
    List (Option String × Json.Value) → Option Config
  | [] => some config
  | (none, _) :: _ => none
  | (some name, value) :: rest =>
      match Field.ofKey? name with
      | none => ofFields? config seen rest
      | some field =>
          if seen.contains field then none
          else do ofFields? (← config.setField? field value) (field :: seen) rest

/-- Sets fields to items one after the other; there may be fewer items than fields. -/
def ofItems? (config : Config) : List Field → List Json.Value → Option Config
  | _, [] => some config
  | [], _ :: _ => none
  | field :: fields, value :: rest => do ofItems? (← config.setField? field value) fields rest

/-- The configuration that a JSON value stands for. -/
def ofJson? : Json.Value → Option Config
  | .object fields => ofFields? {} [] fields
  | .array items => ofItems? {} Field.all items
  | _ => none

/-- Reads a configuration and checks that it can be played. -/
def load (text : String) : Except LoadError Config :=
  match (Json.parse? text).bind ofJson? with
  | none => .error .malformed
  | some config =>
      match config.invalid? with
      | some reason => .error (.invalid reason)
      | none => .ok config

/-- The shortest numeral of a floating-point number. -/
def floatJson (x : Float) : Json.Value :=
  match Decimal.Parts.ofFloat x with
  | .finite negative 0 _ => .number ⟨negative, ['0'], [], none⟩
  | .finite negative significand exponent =>
      let decimal := Decimal.shortest significand exponent
      .number ⟨negative, Nat.toDigits 10 decimal.digits, [],
        some ⟨decimal.exponent < 0, Nat.toDigits 10 decimal.exponent.natAbs⟩⟩
  | _ => .null

/-- The JSON value of a field. -/
def fieldJson (config : Config) : Field → Json.Value
  | .gridSize => .int config.gridSize
  | .maxFuel => .int config.maxFuel
  | .cost cost => .int (config.cost cost)
  | .spawnChance => floatJson config.spawnChance
  | .initialBarrels => .int config.initialBarrels
  | .seed => .int config.seed.toNat
  | .maxTicks => .int config.maxTicks

/-- The JSON text of a configuration. -/
def save (config : Config) : String :=
  (Json.Value.record (Field.all.map fun field => (field.key, config.fieldJson field))).pretty

end FuelDuel.Config
