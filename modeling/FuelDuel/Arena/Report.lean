import FuelDuel.Arena.Grid
import FuelDuel.Execution.World
import FuelDuel.Json.Value

/-!
Reports: what each robot did in a tick, as a line of text and as JSON.
-/

namespace FuelDuel.Arena

open FuelDuel.Execution
open FuelDuel.Text

/-- The two sides of a match. -/
inductive Side where
  | red
  | blue
  deriving DecidableEq, Repr

namespace Side

/-- The name of a side. -/
def name : Side → String
  | red => "red"
  | blue => "blue"

/-- The opponent's side. -/
def other : Side → Side
  | red => blue
  | blue => red

end Side

/-- How a match ended. -/
inductive Outcome where
  | redWins
  | blueWins
  /-- Both robots ran out of fuel in the same tick. -/
  | draw
  /-- The tick limit was reached first. -/
  | timeout
  deriving DecidableEq, Repr

namespace Outcome

/-- An outcome in words. -/
def text : Outcome → String
  | redWins => "Robot 2 (blue) ran out of fuel!"
  | blueWins => "Robot 1 (red) ran out of fuel!"
  | draw => "Both robots ran out of fuel!"
  | timeout => "Tick limit reached, both robots still running"

/-- An outcome in JSON. -/
def key : Outcome → String
  | redWins => "red_wins"
  | blueWins => "blue_wins"
  | draw => "draw"
  | timeout => "timeout"

end Outcome

/-- One robot's part of a tick. -/
structure RobotReport where
  action : Option Action
  shield : Bool
  start : Cell
  stop : Cell
  facing : Direction
  /-- The fuel that the next tick starts with. -/
  fuel : Int
  /-- The robot wanted to move and the opponent was in the way. -/
  blocked : Bool
  fault : Option String
  deriving DecidableEq, Repr

namespace RobotReport

/-- The report in words. -/
def text (report : RobotReport) : String :=
  padRight 10 ((report.action.map Action.keyword).getD "-") ++ " " ++ report.start.text ++
    " -> " ++ report.stop.text ++ " " ++ report.facing.letter ++ " fuel " ++
    padLeft 3 (ofInt report.fuel) ++
    (if report.shield then " shield" else "") ++
    (if report.blocked then " blocked" else "") ++
    (match report.fault with
      | some fault => " fault: " ++ fault
      | none => "")

end RobotReport

/-- What happened in one tick. -/
structure TickReport where
  tick : Nat
  red : RobotReport
  blue : RobotReport
  /-- The number of barrels after the tick. -/
  barrels : Nat
  deriving DecidableEq, Repr

namespace TickReport

/-- The report as one line. -/
def text (report : TickReport) : String :=
  "tick " ++ padLeft 4 (ofNat report.tick) ++ " | red " ++ report.red.text ++ " | blue " ++
    report.blue.text ++ " | barrels " ++ ofNat report.barrels

end TickReport

/-- The JSON of a cell. -/
def Cell.json (cell : Cell) : Json.Value := .array [.int cell.x, .int cell.y]

/-- The JSON of one robot's part of a tick. -/
def RobotReport.json (report : RobotReport) : Json.Value :=
  .record
    [("action", .optional (fun action => .text action.keyword) report.action),
      ("shield", .bool report.shield), ("from", report.start.json), ("to", report.stop.json),
      ("facing", .text report.facing.name), ("fuel", .int report.fuel),
      ("blocked", .bool report.blocked), ("fault", .optional .text report.fault)]

/-- The JSON of a tick. -/
def TickReport.json (report : TickReport) : Json.Value :=
  .record
    [("tick", .int report.tick), ("red", report.red.json), ("blue", report.blue.json),
      ("barrels", .int report.barrels)]

/-- What is worth logging while a match is played. -/
inductive Event where
  | barrelSpawned (cell : Cell)
  | moveBlocked (cell : Cell)
  | programFaulted (side : Side) (fault : String)
  | tickResolved (report : TickReport)
  | matchFinished (outcome : Outcome) (ticks : Nat)
  deriving DecidableEq, Repr

namespace Event

/-- The action of a report, or that there is none. -/
def actionText : Option Action → String
  | some action => "Some(" ++ action.title ++ ")"
  | none => "None"

/-- An event as one line: its level, what happened, and the details. -/
def text : Event → String
  | barrelSpawned cell => "TRACE barrel spawned cell=" ++ cell.text
  | moveBlocked cell => "TRACE move blocked cell=" ++ cell.text
  | programFaulted side fault =>
      "WARN program faulted, agent halted side=" ++ side.name ++ " error=" ++ fault
  | tickResolved report =>
      "DEBUG tick resolved tick=" ++ ofNat report.tick ++
        " red=" ++ actionText report.red.action ++ " blue=" ++ actionText report.blue.action ++
        " red_fuel=" ++ ofInt report.red.fuel ++ " blue_fuel=" ++ ofInt report.blue.fuel
  | matchFinished outcome ticks =>
      "INFO match finished outcome=" ++ outcome.text ++ " ticks=" ++ ofNat ticks

end Event

end FuelDuel.Arena
