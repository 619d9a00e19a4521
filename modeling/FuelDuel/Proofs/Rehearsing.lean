import FuelDuel.Proofs.Chance
import FuelDuel.Proofs.Faults
import FuelDuel.Proofs.Independence

/-!
Rehearsals tell what happens in the arena. A rehearsal and a robot's view are two worlds of their
own: one keeps its shield setting and its action slot from tick to tick, the other starts every tick
with an empty decision. A program cannot tell them apart as long as they show the same readings
(`mirrors_simulation`), so one tick of a rehearsal is one thought of an agent (`rehearse_tick`).

Tick by tick, the actions of a rehearsal are therefore the ones that are noted of an agent that
perceives the same in every tick, and in a match they are the ones that stand in the reports
(`rehearsal_agrees_with_arena`). A rehearsal that fails names the fault for which the agent is given
up.
-/

namespace FuelDuel.Arena

open FuelDuel.Execution
open FuelDuel.Language
open FuelDuel.World

/-! ### One tick -/

/-- A view and a rehearsal that show the given readings, hold the same variables and have performed
the same action. The shield of the rehearsal is the one that the view has decided on, and the given
one as long as it has not. -/
structure Mirrors (readings : Readings) (shield : Bool) (view : View) (world : Rehearsal) :
    Prop where
  viewShows : view.readings = readings
  worldShows : world.readings = readings
  vars : view.vars = world.vars
  action : view.decision.action = world.performed
  shield : world.shield = view.decision.shield.getD shield

/-- Whatever a program does to both, they go on showing the same. -/
theorem mirrors_simulation (readings : Readings) (shield : Bool) :
    Simulation (Mirrors readings shield) where
  performed mirrors := mirrors.action
  stored mirrors name := by
    show (Vars.get? _ name).getD 0 = (Vars.get? _ name).getD 0
    rw [mirrors.vars]
  store mirrors name value :=
    { mirrors with vars := congrArg (Vars.set · name value) mirrors.vars }
  setShield mirrors on := { mirrors with shield := rfl }
  act mirrors action := { mirrors with action := rfl }
  sense := by
    intro view world mirrors gauge index
    show Agree _ (.ok (view.readings.sense gauge index) view)
      (.ok (world.readings.sense gauge index) world)
    rw [mirrors.viewShows, mirrors.worldShows]
    exact .ok _ mirrors

/-- A tick in the arena and a tick of a rehearsal come to the same. -/
theorem execute_mirrors (program : Program) (readings : Readings) (vars : Vars) (shield : Bool) :
    Agree (Mirrors readings shield) (execute program ({ readings, vars } : View))
      (execute program ({ readings, vars, shield } : Rehearsal)) :=
  (mirrors_simulation readings shield).execute program ⟨rfl, rfl, rfl, rfl, rfl⟩

/-! ### What is noted of an agent -/

/-- What is noted of one agent in one tick: the action that it has performed, and the reason for
which it was given up. -/
structure Note where
  action : Option Action
  fault : Option String

/-- What is noted of a thought. -/
def Thought.note (thought : Thought) : Note := ⟨thought.decision.action, thought.fault⟩

/-- What is noted in a report. -/
def RobotReport.note (report : RobotReport) : Note := ⟨report.action, report.fault⟩

/-- The actions of a tick and of later ones; there are no later ones after a fault. -/
def Note.before (note : Note) (later : Except String (List Action)) :
    Except String (List Action) :=
  match note.fault with
  | some reason => .error reason
  | none => later.map (note.action.toList ++ ·)

/-- The actions that are noted tick by tick, or the reason for which the agent was given up. -/
def notedActions : List Note → Except String (List Action)
  | [] => .ok []
  | note :: later => note.before (notedActions later)

/-- The thoughts of an agent that perceives the same in every tick. -/
def Agent.thoughts (side : Side) (perception : Perception) :
    Nat → Agent → Except Refusal (List Thought)
  | 0, _ => .ok []
  | ticks + 1, agent => do
      let (thought, next) ← agent.think side perception
      let later ← next.thoughts side perception ticks
      return thought :: later

theorem Agent.thoughts_succ {side : Side} {perception : Perception} {ticks : Nat} {agent : Agent}
    {later : List Thought}
    (thinks : (agent.thought perception).2.thoughts side perception ticks = .ok later) :
    agent.thoughts side perception (ticks + 1) = .ok ((agent.thought perception).1 :: later) := by
  rw [thoughts, think_eq]
  show (do
    let later ← (agent.thought perception).2.thoughts side perception ticks
    return (agent.thought perception).1 :: later) = _
  rw [thinks]
  rfl

/-! ### Many ticks -/

/-- The actions of a rehearsal from given variables and a given shield setting on, or what is wrong
with its program. -/
def rehearsed (ticks : Nat) (program : Program) (readings : Readings) (vars : Vars)
    (shield : Bool) : Except String (List Action) :=
  (Rehearsal.actionsFrom ticks program { readings, vars, shield }).mapError Fault.message

theorem rehearsed_of_finished {program : Program} (finished : program.isFinished = true)
    (ticks : Nat) (readings : Readings) (vars : Vars) (shield : Bool) :
    rehearsed ticks program readings vars shield = .ok [] := by
  cases ticks with
  | zero => rfl
  | succ ticks =>
      rw [rehearsed, Rehearsal.actionsFrom, if_pos finished]
      rfl

section Running

variable {program : Program} {readings : Readings} {vars : Vars} {shield : Bool} {world : Rehearsal}
  (going : program.isFinished = false)

include going

/-- After a tick a rehearsal goes on from where the tick has ended, with a free slot. -/
theorem rehearsed_of_ok {rest : Program} (shows : world.readings = readings)
    (ran : execute program ({ readings, vars, shield } : Rehearsal) = .ok rest world)
    (ticks : Nat) :
    rehearsed (ticks + 1) program readings vars shield =
      (rehearsed ticks rest readings world.vars world.shield).map
        (world.performed.toList ++ ·) := by
  have freed : world.endTick = { readings, vars := world.vars, shield := world.shield } := by
    rw [← shows]
    rfl
  rw [rehearsed, Rehearsal.actionsFrom, going, if_neg Bool.false_ne_true, ran]
  show ((Rehearsal.actionsFrom ticks rest world.endTick).map
    (world.performed.toList ++ ·)).mapError Fault.message = _
  rw [freed, rehearsed]
  cases Rehearsal.actionsFrom ticks rest _ with
  | ok actions => rfl
  | error fault => rfl

theorem rehearsed_of_error {fault : Fault}
    (ran : execute program ({ readings, vars, shield } : Rehearsal) = .error fault world)
    (ticks : Nat) :
    rehearsed (ticks + 1) program readings vars shield = .error fault.message := by
  rw [rehearsed, Rehearsal.actionsFrom, going, if_neg Bool.false_ne_true, ran]
  rfl

end Running

/-- One tick of a rehearsal is one thought of an agent. -/
theorem rehearse_tick (ticks : Nat) (agent : Agent) (perception : Perception) (shield : Bool) :
    ∃ left, rehearsed (ticks + 1) agent.program perception.readings agent.vars shield =
      (agent.thought perception).1.note.before
        (rehearsed ticks (agent.thought perception).2.program perception.readings
          (agent.thought perception).2.vars left) := by
  cases finished : agent.program.isFinished with
  | true =>
      have none : agent.program = .empty :=
        congrArg Program.mk (List.isEmpty_iff.mp finished)
      refine ⟨shield, ?_⟩
      rw [Agent.thought_of_empty none, rehearsed_of_finished finished,
        rehearsed_of_finished finished]
      rfl
  | false =>
      have same := execute_mirrors agent.program perception.readings agent.vars shield
      unfold Agent.thought
      generalize execute agent.program
        ({ readings := perception.readings, vars := agent.vars } : View) = viewed at same ⊢
      generalize ran : execute agent.program
        ({ readings := perception.readings, vars := agent.vars, shield } : Rehearsal) = rehearsal
        at same
      cases same with
      | @ok view world rest mirrors =>
          refine ⟨world.shield, ?_⟩
          rw [rehearsed_of_ok finished mirrors.worldShows ran, ← mirrors.vars, ← mirrors.action]
          rfl
      | error fault mirrors => exact ⟨shield, rehearsed_of_error finished ran ticks⟩

/-- An agent that perceives the same in every tick performs the actions of the rehearsal. -/
theorem rehearsed_thoughts (side : Side) (perception : Perception) (ticks : Nat) (agent : Agent)
    (shield : Bool) :
    ∃ thoughts, agent.thoughts side perception ticks = .ok thoughts ∧
      rehearsed ticks agent.program perception.readings agent.vars shield =
        notedActions (thoughts.map Thought.note) := by
  induction ticks generalizing agent shield with
  | zero => exact ⟨[], rfl, rfl⟩
  | succ ticks ih =>
      obtain ⟨left, tick⟩ := rehearse_tick ticks agent perception shield
      obtain ⟨later, thinks, noted⟩ := ih (agent.thought perception).2 left
      refine ⟨_, Agent.thoughts_succ thinks, ?_⟩
      rw [tick, noted]
      rfl

/-! ### Matches -/

/-- What a tick reports of a robot is what it has thought. -/
theorem note_resolve (arena : Arena) (side : Side) :
    ((arena.resolve arena.minds).report.robot side).note = (arena.mind side).1.note := by
  obtain ⟨action, fault⟩ := arena.thought_resolve side
  rw [RobotReport.note, action, fault]
  rfl

/-- In a match in which a side perceives the same in every tick, the reports show the actions of the
rehearsal. -/
theorem rehearsed_reports {side : Side} {readings : Readings} {reports : List TickReport}
    {arena : Arena} (logs : Match.Logs arena reports)
    (steady : ∀ index < reports.length,
      ((arena.afterTurns index).commit.perceived side).readings = readings) (shield : Bool) :
    rehearsed reports.length (arena.agent side).program readings (arena.agent side).vars shield =
      notedActions (reports.map fun report => (report.robot side).note) := by
  induction reports generalizing arena shield with
  | nil => rfl
  | cons report reports ih =>
      obtain ⟨played, turn, rfl, later⟩ := logs.of_cons
      have shown : (arena.commit.perceived side).readings = readings :=
        steady 0 (Nat.zero_lt_succ _)
      have steadyLater : ∀ index < reports.length,
          ((played.arena.afterTurns index).commit.perceived side).readings = readings := by
        intro index early
        rw [← advance_of_ok turn, afterTurns_advance]
        exact steady (index + 1) (Nat.succ_lt_succ early)
      obtain ⟨left, tick⟩ := rehearse_tick reports.length (arena.commit.agent side)
        (arena.commit.perceived side) shield
      have followed := ih later steadyLater left
      obtain ⟨-, rfl⟩ := nextTurn_eq_ok_iff.mp turn
      obtain ⟨body, -, agent⟩ := arena.commit.agent_resolve_shows side
      rw [agent] at followed
      rw [shown] at tick
      rw [List.map_cons, notedActions, note_resolve, ← followed]
      show rehearsed (reports.length + 1) (arena.agent side).commit.program readings
        (arena.agent side).commit.vars shield = _
      rw [← commit_agent]
      exact tick

/-- A rehearsal and the arena agree. In one tick a program comes to the same result or the same fault
in both, with the same action, the same variables and the same shield. Over any number of ticks a
rehearsal lists the actions of an agent that perceives the same in every tick, in thought and in the
reports of a match, and fails for the reason for which the agent is given up. -/
theorem rehearsal_agrees_with_arena :
    (∀ program (perception : Perception) vars shield,
      Agree (Mirrors perception.readings shield)
        (execute program ({ readings := perception.readings, vars } : View))
        (execute program ({ readings := perception.readings, vars, shield } : Rehearsal))) ∧
    (∀ side perception ticks body program, ∃ thoughts,
      Agent.thoughts side perception ticks { body, program } = .ok thoughts ∧
        (Rehearsal.actions program ticks perception.readings).mapError Fault.message =
          notedActions (thoughts.map Thought.note)) ∧
    ∀ side arena reports readings, Match.Logs arena reports → (arena.agent side).vars = .empty →
      (∀ index < reports.length,
        ((arena.afterTurns index).commit.perceived side).readings = readings) →
      (Rehearsal.actions (arena.agent side).program reports.length readings).mapError
          Fault.message =
        notedActions (reports.map fun report => (report.robot side).note) := by
  refine ⟨fun program perception => execute_mirrors program perception.readings, ?_, ?_⟩
  · intro side perception ticks body program
    exact rehearsed_thoughts side perception ticks { body, program } false
  · intro side arena reports readings logs fresh steady
    have noted := rehearsed_reports logs steady false
    rw [fresh] at noted
    exact noted

/-- A robot that stays where it is, at no cost and with nothing going on around it. -/
def vigil : Arena :=
  { config := { waitCost := 0, shieldCost := 0, spawnChance := 0, initialBarrels := 0 }
    barrels := .empty
    random := .ofSeed 5
    red := {
      body := .atRest ⟨3, 3⟩ .east 40
      program := ⟨[.takeFuel, .shield true, .wait (some (.sensor .fuelLeft))]⟩ }
    blue := { body := .atRest ⟨9, 7⟩ .west 70, program := .empty }
    tick := 17 }

theorem rehearsal_agrees_with_arena_of_vigil :
    ∃ reports readings, Match.Logs vigil reports ∧ reports.length = 2 ∧
      (∀ index < reports.length,
        ((vigil.afterTurns index).commit.perceived .red).readings = readings) ∧
      (Rehearsal.actions (vigil.agent .red).program 2 readings).mapError Fault.message =
        .ok [.takeFuel, .wait] ∧
      notedActions (reports.map fun report => (report.robot .red).note) =
        .ok [.takeFuel, .wait] := by
  have apart : vigil.cell .red ≠ vigil.cell .blue := by decide
  have undecided : vigil.outcome? = none := by decide
  have turn := nextTurn_of_undecided undecided
  generalize vigil.commit.resolve vigil.commit.minds = played at turn
  have zero : (vigil.config.spawnChance == 0) = true := by decide +kernel
  have bare := barrels_nextTurn_of_unlucky turn apart (Random.chance_of_zero zero _) rfl
  have red : played.arena.red = vigil.commit.agentAfter .red := agent_nextTurn turn apart .red
  have blue : played.arena.blue = vigil.commit.agentAfter .blue := agent_nextTurn turn apart .blue
  have going : played.arena.outcome? = none := by
    rw [outcome?, red, blue]
    rfl
  have nextTurn := nextTurn_of_undecided going
  have logs : Match.Logs vigil [played.report, _] := .cons turn (.cons nextTurn (.nil _))
  have steady : ∀ index < 2, ((vigil.afterTurns index).commit.perceived .red).readings =
      (vigil.commit.perceived .red).readings := by
    intro index early
    obtain rfl | rfl : index = 0 ∨ index = 1 := by omega
    · rfl
    · have same : played.arena.commit.perceived .red = vigil.commit.perceived .red := by
        show Perception.capture ⟨played.arena.config.gridSize⟩ played.arena.barrels
          played.arena.red.body.commit played.arena.blue.body.commit = _
        rw [config_nextTurn turn, bare, red, blue]
        rfl
      show (vigil.advance.commit.perceived .red).readings = _
      rw [advance_of_ok turn, same]
  have noted := rehearsal_agrees_with_arena.2.2 .red vigil _ _ logs rfl steady
  have listed : (Rehearsal.actions (vigil.agent .red).program 2
      (vigil.commit.perceived .red).readings).mapError Fault.message = .ok [.takeFuel, .wait] := by
    rfl
  exact ⟨_, _, logs, rfl, steady, listed, noted.symm.trans listed⟩

end FuelDuel.Arena
