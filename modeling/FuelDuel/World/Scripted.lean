import FuelDuel.Execution.Step
import FuelDuel.Language.Canonical
import FuelDuel.Language.Parse
import FuelDuel.World.Vars

/-!
Scripted worlds: sensor readings are answered from a list of prepared values, one value for each
reading, and everything that a program reads and does is logged.
-/

namespace FuelDuel.World

open FuelDuel.Execution
open FuelDuel.Language
open FuelDuel.Text

/-- The name of a sensor reading in logs; readings of barrels show the index. -/
def readingTitle (gauge : Sensor) (index : Nat) : String :=
  match gauge with
  | .barrel _ => "read" ++ gauge.nodeName ++ ": " ++ ofNat index
  | _ => "read" ++ gauge.nodeName

/-- What a log tells about one thing that a program read or did. -/
inductive LogEntry where
  | acted (action : Action)
  | shielded (on : Bool)
  | sensed (gauge : Sensor) (index : Nat) (value : Int32)
  deriving DecidableEq, Repr

/-- A log entry as it is written. -/
def LogEntry.text : LogEntry → String
  | acted action => "do" ++ action.title
  | shielded on => "setShield: " ++ (if on then "true" else "false")
  | sensed gauge index value => readingTitle gauge index ++ "|output= " ++ ofInt value.toInt

/-- A scripted world. -/
structure Scripted where
  /-- The values that later readings will show. -/
  outputs : List Int32
  log : List LogEntry := []
  vars : Vars := .empty
  performed : Option Action := none
  deriving DecidableEq, Repr

namespace Scripted

/-- Adds an entry at the end of the log. -/
def record (entry : LogEntry) (world : Scripted) : Scripted :=
  { world with log := world.log ++ [entry] }

/-- Answers a reading with the next prepared value. Without one it is a fault, which leaves no
entry. -/
def read (gauge : Sensor) (index : Nat) : Run Scripted Int32 := fun world =>
  match world.outputs with
  | [] => .error (.unanswered (readingTitle gauge index)) world
  | value :: later => .ok value (record (.sensed gauge index value) { world with outputs := later })

instance : Execution.World Scripted where
  performed world := world.performed
  stored world name := world.vars.get? name
  store name value world := { world with vars := world.vars.set name value }
  act action world := record (.acted action) { world with performed := some action }
  setShield on world := record (.shielded on) world
  sense := read

/-- Frees the action slot and keeps the log. -/
def freeSlot (world : Scripted) : Scripted := { world with performed := none }

/-- Ends the tick, which frees the action slot and starts a new log. -/
def endTick (world : Scripted) : Scripted := { world.freeSlot with log := [] }

/-- Runs a program for some ticks and frees the slot after each. -/
def runTicks : Nat → Program → Run Scripted Program
  | 0, program => pure program
  | ticks + 1, program => do
      let rest ← execute program
      modify freeSlot
      runTicks ticks rest

end Scripted

/-- Why there is no log to compare. -/
inductive LogFailure where
  | unreadable (error : SyntaxError)
  | faulted (fault : Fault)
  deriving DecidableEq, Repr

/-- What is wrong. A reading without an answer speaks for itself. -/
def LogFailure.message : LogFailure → String
  | unreadable error => "parse failed: " ++ error.message
  | faulted (.unanswered reading) => (Fault.unanswered reading).message
  | faulted fault => "execution failed: " ++ fault.message

/-- The log of a program text that runs against prepared values for as many ticks as the expected
log has actions, and for one tick if it has none. -/
def executionLog (source : String) (outputs : List Int32) (expected : List String) :
    Except LogFailure (List String) :=
  match Program.parse source with
  | .error error => .error (.unreadable error)
  | .ok program =>
      let ticks := max 1 (expected.countP ("do".isPrefixOf ·))
      match Scripted.runTicks ticks program { outputs } with
      | .error fault _ => .error (.faulted fault)
      | .ok _ world => .ok (world.log.map LogEntry.text)

end FuelDuel.World
