import FuelDuel.Arena.Perception
import FuelDuel.Arena.Report
import FuelDuel.Execution.Step
import FuelDuel.World.View

/-!
Agents: a robot's body with the program that drives it. In every tick an agent thinks: its program
runs until it has decided on an action, on readings taken before anybody acted. A program that ends
in a fault is given up for good.
-/

namespace FuelDuel.Arena

open FuelDuel.Execution
open FuelDuel.Language
open FuelDuel.World

/-- Whether an agent's program is still in use. -/
inductive AgentStatus where
  | running
  /-- The program ended in a fault and was given up. -/
  | faulted (reason : String)
  deriving DecidableEq, Repr

/-- A body, what is left of its program, and the program's variables. -/
structure Agent where
  body : Body
  program : Program
  vars : Vars := .empty
  status : AgentStatus := .running
  deriving DecidableEq, Repr

/-- Why no tick was played. -/
inductive Refusal where
  /-- A program performed a second action in one tick. -/
  | slotReused (side : Side) (attempted performed : Action)
  | finished (outcome : Outcome)
  deriving DecidableEq, Repr

/-- What is wrong. -/
def Refusal.message : Refusal → String
  | slotReused side attempted performed =>
      side.name ++ " agent triggered a second action in one tick: " ++
        (Fault.slotUsed attempted performed).message
  | finished outcome => "match already finished: " ++ outcome.text

/-- What came of thinking: a decision, and the fault in which the program ended, if it did. -/
structure Thought where
  decision : Decision := {}
  fault : Option String := none
  deriving DecidableEq, Repr

/-- The log event of a thought. -/
def Thought.events (side : Side) (thought : Thought) : List Event :=
  (thought.fault.map (Event.programFaulted side)).toList

namespace Agent

/-- Starts the next tick. -/
def commit (agent : Agent) : Agent := { agent with body := agent.body.commit }

/-- The agent after a fault: without a program, but with the variables it has written. -/
def halted (agent : Agent) (vars : Vars) (reason : String) : Agent :=
  { agent with program := .empty, vars, status := .faulted reason }

/-- Runs the agent's program for one tick. A fault voids the decision. -/
def think (side : Side) (agent : Agent) (perception : Perception) :
    Except Refusal (Thought × Agent) :=
  match execute agent.program { readings := perception.readings, vars := agent.vars : View } with
  | .ok rest view =>
      .ok ({ decision := view.decision }, { agent with program := rest, vars := view.vars })
  | .error (.slotUsed attempted performed) _ => .error (.slotReused side attempted performed)
  | .error fault view =>
      .ok ({ fault := some fault.message }, agent.halted view.vars fault.message)

end Agent

end FuelDuel.Arena
