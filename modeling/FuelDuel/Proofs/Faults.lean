import FuelDuel.Proofs.FuelLedger
import FuelDuel.Proofs.MatchLog
import FuelDuel.Proofs.TurnInPlace

/-!
Faults. A program that ends in a fault has decided nothing, whatever it had set before: its robot
rests in that tick (`rests_of_undecided`) and the opponent decides as if there had been no program
(`mind_withoutProgram`). The agent is left without a program, and an agent without one never decides
anything again, so it keeps everything but its fuel for the rest of the match
(`halted_afterTurns`, `fault_halts_agent`).
-/

namespace FuelDuel.Arena

open FuelDuel.Execution
open FuelDuel.Language
open FuelDuel.World

/-! ### Robots that do nothing -/

/-- The cell, the facing and the shield with which a robot starts the next tick. -/
def Body.pose (body : Body) : Cell × Direction × Bool :=
  (body.settled.pos, body.settled.dir, body.settled.shield)

namespace Part

variable (grid : Grid) (config : Config) {me : Part} (other : Part)

section Undecided

variable (undecided : me.decision = {})

include undecided

theorem takes_of_undecided : me.takes = false := by
  simp [takes, undecided]

theorem aim_of_undecided : me.aim grid config other = me.body.target := by
  have empty := takes_of_undecided undecided
  simp only [aim, goal, facing, fuel, filled, siphons, empty, undecided, Bool.false_and,
    Bool.false_eq_true, if_false, reduceCtorEq, Option.getD_none]

/-- A robot without a decision loses what the opponent siphons off, and changes nothing else. -/
theorem acted_of_undecided :
    me.acted grid config other = { me.body with stolen := me.loss grid config other } := by
  rw [acted, aim_of_undecided grid config other undecided]

theorem resolveMove_of_undecided (still : me.body.target.pos = me.body.current.pos) :
    resolveMove (me.acted grid config other) (other.acted grid config me) =
      (me.acted grid config other, false) := by
  have resting : (me.acted grid config other).isMoving = false := by
    rw [acted_of_undecided grid config other undecided]
    simp [Body.isMoving, still]
  simp [resolveMove, resting]

theorem after_of_undecided (still : me.body.target.pos = me.body.current.pos) :
    me.after grid config other =
      { me.body with
        stolen := me.loss grid config other
        target.fuel := me.body.target.fuel - me.body.tickCost config } := by
  rw [after, moved, resolveMove_of_undecided grid config other undecided still,
    acted_of_undecided grid config other undecided]
  rfl

theorem blocked_of_undecided (still : me.body.target.pos = me.body.current.pos) :
    me.blocked grid config other = false := by
  rw [blocked, resolveMove_of_undecided grid config other undecided still]

end Undecided

end Part

/-- A robot that has just been committed neither moves nor turns. -/
theorem Body.tickCost_commit (body : Body) (config : Config) :
    body.commit.tickCost config =
      config.waitCost + if body.settled.shield then config.shieldCost else 0 := by
  have still : body.commit.isMoving = false := by simp [isMoving, commit]
  have straight : body.commit.isTurning = false := by simp [isTurning, commit]
  simp only [tickCost, still, straight, Bool.false_eq_true, if_false, Int.add_zero]
  rfl

/-- What a robot loses to an opponent that takes fuel from it, if anything. -/
theorem loss_commit (arena : Arena) (side : Side) :
    (arena.commit.part side).loss arena.grid arena.config (arena.commit.part side.other) = 0 ∨
      ((arena.commit.mind side.other).1.decision.action = some .takeFuel ∧
        (arena.agent side).body.settled.shield = false ∧
        (arena.commit.part side).loss arena.grid arena.config (arena.commit.part side.other) =
          (arena.agent side).body.commit.extractable arena.config.maxFuel) := by
  unfold Part.loss
  split
  · rename_i siphoned
    simp only [Part.siphons, Part.takes, Bool.and_eq_true, decide_eq_true_eq, Bool.not_eq_true',
      body_commit] at siphoned
    obtain ⟨takes, down, -⟩ := siphoned
    exact .inr ⟨takes, down, by rw [body_commit]⟩
  · exact .inl (stolen_commit arena side)

/-- A tick in which the robot of a side rests. It performs no action and keeps its cell, its facing
and its shield. It pays for waiting and for a shield that was up, and loses what the opponent
siphons off. -/
structure Rests (arena : Arena) (side : Side) (played : Played) : Prop where
  action : (played.report.robot side).action = none
  notBlocked : (played.report.robot side).blocked = false
  pose : (played.arena.agent side).body.pose = (arena.agent side).body.pose
  reported : ((played.report.robot side).stop, (played.report.robot side).facing,
    (played.report.robot side).shield) = (arena.agent side).body.pose
  fuel : (played.arena.agent side).body.settledFuel =
    (arena.agent side).body.settledFuel - arena.config.waitCost -
      (if (arena.agent side).body.settled.shield then arena.config.shieldCost else 0) -
      (played.arena.agent side).body.stolen
  /-- Only an opponent that takes fuel siphons anything off, and only from a robot whose shield is
  down. -/
  stolen : (played.arena.agent side).body.stolen = 0 ∨
    ((played.report.robot side.other).action = some .takeFuel ∧
      (arena.agent side).body.settled.shield = false ∧
      (played.arena.agent side).body.stolen =
        (arena.agent side).body.commit.extractable arena.config.maxFuel)

/-- A side that has come to no decision rests. -/
theorem rests_of_undecided {arena : Arena} {played : Played} {side : Side}
    (turn : arena.nextTurn = .ok played) (apart : arena.cell .red ≠ arena.cell .blue)
    (undecided : (arena.commit.mind side).1.decision = {}) : Rests arena side played := by
  have still : (arena.commit.part side).body.target.pos =
      (arena.commit.part side).body.current.pos := by rw [target_commit, current_commit]
  have idle : (arena.commit.part side).decision = {} := undecided
  have after := Part.after_of_undecided arena.grid arena.config (arena.commit.part side.other)
    idle still
  rw [body_commit] at after
  have body := (body_nextTurn turn apart side).trans after
  have report := robot_nextTurn turn apart side
  have sameBody : (arena.commit.agentAfter side).body = (played.arena.agent side).body :=
    congrArg Agent.body (agent_nextTurn turn apart side).symm
  rw [reportAfter, sameBody, body] at report
  constructor
  · rw [report]
    exact congrArg Decision.action undecided
  · rw [report]
    exact Part.blocked_of_undecided arena.grid arena.config _ undecided still
  · rw [body]
    rfl
  · rw [report]
    rfl
  · rw [body, Body.tickCost_commit]
    show (arena.agent side).body.settledFuel - _ - _ = _
    omega
  · rw [body, robot_nextTurn turn apart side.other]
    exact loss_commit arena side

/-! ### Agents without a program -/

/-- Without a program an agent comes to no decision, and stays as it is. -/
theorem Agent.thought_of_empty {agent : Agent} (none : agent.program = .empty)
    (perception : Perception) : agent.thought perception = ({}, agent) := by
  obtain ⟨body, program, vars, status⟩ := agent
  obtain rfl : program = .empty := none
  have ran (view : View) : execute .empty view = .ok .empty view :=
    bind_of_ok (runSteps_nil maxSteps)
  unfold thought
  rw [ran]

theorem mind_of_empty {arena : Arena} {side : Side} (none : (arena.agent side).program = .empty) :
    arena.mind side = ({}, arena.agent side) :=
  Agent.thought_of_empty none _

/-- An agent that was given up: it has no program, and a status that says why. The other two are
what it has kept. -/
structure Halted (agent : Agent) (reason : String) (vars : Vars)
    (pose : Cell × Direction × Bool) : Prop where
  program : agent.program = .empty
  status : agent.status = .faulted reason
  vars : agent.vars = vars
  pose : agent.body.pose = pose

section Halt

variable {side : Side} {reason : String} {vars : Vars} {pose : Cell × Direction × Bool}

/-- One tick of an agent that was given up. -/
theorem Halted.nextTurn {arena : Arena} {played : Played}
    (halted : Halted (arena.agent side) reason vars pose) (turn : arena.nextTurn = .ok played)
    (apart : arena.cell .red ≠ arena.cell .blue) :
    Rests arena side played ∧ (played.report.robot side).fault = none ∧
      Halted (played.arena.agent side) reason vars pose := by
  have none : (arena.commit.agent side).program = .empty := by
    rw [commit_agent]
    exact halted.program
  have mind := mind_of_empty none
  have rests := rests_of_undecided turn apart (congrArg (fun mind => mind.1.decision) mind)
  have agent := agent_nextTurn turn apart side
  rw [agentAfter, mind, commit_agent] at agent
  refine ⟨rests, ?_, ?_⟩
  · rw [robot_nextTurn turn apart side, reportAfter, mind]
    rfl
  · refine ⟨?_, ?_, ?_, rests.pose.trans halted.pose⟩
    · rw [agent]
      exact halted.program
    · rw [agent]
      exact halted.status
    · rw [agent]
      exact halted.vars

/-- An agent that was given up stays so for the rest of the match. -/
theorem halted_afterTurns {arena : Arena} (placed : Placed arena)
    (sized : 1 ≤ arena.config.gridSize) (halted : Halted (arena.agent side) reason vars pose)
    (turns : Nat) : Halted ((arena.afterTurns turns).agent side) reason vars pose := by
  apply afterTurns_induction (fun later => Halted (later.agent side) reason vars pose) halted
  rintro earlier played - halted turn
  have apart := (placed_afterTurns placed sized earlier).next_apart
  exact (halted.nextTurn turn apart).2.2

end Halt

/-! ### Faults -/

/-- The view on which the program of a side runs. -/
def view (arena : Arena) (side : Side) : View :=
  { readings := (arena.perceived side).readings, vars := (arena.agent side).vars }

/-- The program of a side ends in a fault. -/
def Faults (arena : Arena) (side : Side) (fault : Fault) : Prop :=
  ∃ reached, execute (arena.agent side).program (arena.view side) = .error fault reached

/-- The variables after some effects. -/
def written (effects : List Effect) (vars : Vars) : Vars :=
  effects.foldl (fun vars effect =>
    match effect with
    | .wrote name value => vars.set name value
    | _ => vars) vars

theorem vars_replay (effects : List Effect) (view : View) :
    (replay effects view).vars = written effects view.vars := by
  induction effects generalizing view with
  | nil => rfl
  | cons effect effects ih =>
      show (replay effects (effect.apply view)).vars = _
      rw [ih]
      cases effect <;> rfl

/-- The variables that the program of a side has written, when it stops. -/
def writtenVars (arena : Arena) (side : Side) : Vars :=
  written (effects (arena.agent side).program (arena.view side)) (arena.agent side).vars

/-- Programs in the arena fail for two reasons only. -/
theorem Faults.cause {arena : Arena} {side : Side} {fault : Fault}
    (faults : arena.Faults side fault) :
    fault = .divisionByZero ∨ fault = .stepLimit maxSteps := by
  obtain ⟨reached, ran⟩ := faults
  have free : World.performed (arena.view side) = none := rfl
  rcases execute_outcome (arena.agent side).program free with
    ⟨quiet, action, rest, -, -, outcome⟩ | ⟨-, outcome⟩ | ⟨-, reason, cause, outcome⟩
  · cases outcome.symm.trans ran
  · cases outcome.symm.trans ran
  · cases outcome.symm.trans ran
    exact cause

/-- A fault voids whatever the program had decided. What it has written is kept. -/
theorem Faults.mind {arena : Arena} {side : Side} {fault : Fault}
    (faults : arena.Faults side fault) :
    arena.mind side =
      ({ fault := some fault.message },
        (arena.agent side).halted (arena.writtenVars side) fault.message) := by
  obtain ⟨reached, ran⟩ := faults
  have replayed : reached = replay _ _ :=
    ((slotRules_of_steady (arena.agent side).program (arena.view side)).fault rfl fault
      reached ran).1
  have vars : reached.vars = arena.writtenVars side := by
    rw [replayed]
    exact vars_replay _ _
  rw [← vars]
  unfold view perceived at ran
  unfold Arena.mind Agent.thought
  rw [ran]

/-- The tick in which a program ends in a fault. -/
theorem Faults.nextTurn {arena : Arena} {played : Played} {side : Side} {fault : Fault}
    (faults : arena.commit.Faults side fault) (turn : arena.nextTurn = .ok played)
    (apart : arena.cell .red ≠ arena.cell .blue) :
    Rests arena side played ∧ (played.report.robot side).fault = some fault.message ∧
      Halted (played.arena.agent side) fault.message (arena.commit.writtenVars side)
        (arena.agent side).body.pose := by
  have mind := faults.mind
  have rests := rests_of_undecided turn apart (congrArg (fun mind => mind.1.decision) mind)
  have agent := agent_nextTurn turn apart side
  rw [agentAfter, mind] at agent
  refine ⟨rests, ?_, ?_, ?_, ?_, rests.pose⟩
  · rw [robot_nextTurn turn apart side, reportAfter, mind]
    rfl
  · rw [agent]
    rfl
  · rw [agent]
    rfl
  · rw [agent]
    rfl

/-! ### The opponent -/

/-- The arena in which a side has no program. -/
def withoutProgram (arena : Arena) (side : Side) : Arena :=
  arena.setAgent side { arena.agent side with program := .empty }

section Opponent

variable (arena : Arena) (side : Side)

theorem body_withoutProgram (any : Side) :
    ((arena.withoutProgram side).agent any).body = (arena.agent any).body := by
  cases side <;> cases any <;> rfl

theorem agent_withoutProgram :
    (arena.withoutProgram side).agent side = { arena.agent side with program := .empty } := by
  cases side <;> rfl

theorem commit_withoutProgram :
    (arena.withoutProgram side).commit = arena.commit.withoutProgram side := by
  cases side <;> rfl

theorem outcome_withoutProgram :
    (arena.withoutProgram side).outcome? = arena.outcome? := by
  cases side <;> rfl

/-- A program is nothing that the opponent perceives. -/
theorem mind_withoutProgram :
    (arena.withoutProgram side).mind side.other = arena.mind side.other := by
  cases side <;> rfl

variable {arena side}

/-- Having no program comes to the same as having decided nothing. -/
theorem part_withoutProgram (undecided : (arena.mind side).1.decision = {}) (any : Side) :
    (arena.withoutProgram side).part any = arena.part any := by
  have none : ((arena.withoutProgram side).agent side).program = .empty := by
    rw [agent_withoutProgram]
  have idle := congrArg (fun mind => mind.1.decision) (mind_of_empty none)
  have decisions : ((arena.withoutProgram side).mind any).1.decision =
      (arena.mind any).1.decision := by
    by_cases same : any = side
    · rw [same, undecided]
      exact idle
    · rw [Side.eq_other_of_ne same, mind_withoutProgram]
  simp only [part, body_withoutProgram, decisions]
  cases side <;> rfl

/-- The opponent of a side that has decided nothing does what it does against a robot without a
program. -/
theorem opponent_nextTurn {played : Played}
    (undecided : (arena.commit.mind side).1.decision = {}) (turn : arena.nextTurn = .ok played)
    (apart : arena.cell .red ≠ arena.cell .blue) :
    ∃ spared, (arena.withoutProgram side).nextTurn = .ok spared ∧
      spared.report.robot side.other = played.report.robot side.other ∧
      spared.arena.agent side.other = played.arena.agent side.other := by
  have going := (nextTurn_eq_ok_iff.mp turn).1
  have undecidedMatch : (arena.withoutProgram side).outcome? = none := by
    rw [outcome_withoutProgram, going]
  have spared := nextTurn_of_undecided undecidedMatch
  have apart' : (arena.withoutProgram side).cell .red ≠ (arena.withoutProgram side).cell .blue := by
    simp only [cell, body_withoutProgram]
    exact apart
  have parts (any : Side) :
      (arena.withoutProgram side).commit.part any = arena.commit.part any := by
    rw [commit_withoutProgram]
    exact part_withoutProgram undecided any
  have mind : (arena.withoutProgram side).commit.mind side.other =
      arena.commit.mind side.other := by
    rw [commit_withoutProgram]
    exact mind_withoutProgram _ side
  have agent : (arena.withoutProgram side).commit.agentAfter side.other =
      arena.commit.agentAfter side.other := by
    simp only [agentAfter, parts, mind]
    cases side <;> rfl
  refine ⟨_, spared, ?_, ?_⟩
  · rw [robot_nextTurn spared apart', robot_nextTurn turn apart, reportAfter, reportAfter, agent,
      mind, parts, parts]
    cases side <;> rfl
  · rw [agent_nextTurn spared apart', agent_nextTurn turn apart, agent]

end Opponent

/-! ### Whole matches -/

/-- What a fault in a tick of a match means, for that tick and for all later ones. -/
structure HaltsAgent (arena : Arena) (side : Side) (fault : Fault) (played : Played) : Prop where
  cause : fault = .divisionByZero ∨ fault = .stepLimit maxSteps
  rests : Rests arena side played
  reported : (played.report.robot side).fault = some fault.message
  halted : Halted (played.arena.agent side) fault.message (arena.commit.writtenVars side)
    (arena.agent side).body.pose
  later : ∀ turns next, (played.arena.afterTurns turns).nextTurn = .ok next →
    Rests (played.arena.afterTurns turns) side next ∧ (next.report.robot side).fault = none ∧
      Halted (next.arena.agent side) fault.message (arena.commit.writtenVars side)
        (arena.agent side).body.pose
  /-- The opponent comes to the decision to which it comes if the side has no program, and does the
  same in the whole tick. -/
  opponent : ((arena.withoutProgram side).commit.mind side.other).1 =
      (arena.commit.mind side.other).1 ∧
    ∃ spared, (arena.withoutProgram side).nextTurn = .ok spared ∧
      spared.report.robot side.other = played.report.robot side.other ∧
      spared.arena.agent side.other = played.arena.agent side.other

theorem haltsAgent_of_faults {arena : Arena} (placed : Placed arena)
    (sized : 1 ≤ arena.config.gridSize) {side : Side} {fault : Fault} {played : Played}
    (faults : arena.commit.Faults side fault) (turn : arena.nextTurn = .ok played) :
    HaltsAgent arena side fault played := by
  have apart := placed.next_apart
  obtain ⟨rests, reported, halted⟩ := faults.nextTurn turn apart
  have sizedAfter : 1 ≤ played.arena.config.gridSize := by
    rw [config_nextTurn turn]
    exact sized
  have placedAfter := placed.nextTurn sized turn
  refine ⟨faults.cause, rests, reported, halted, ?_, ?_, ?_⟩
  · intro turns next nextTurn
    have stillHalted := halted_afterTurns placedAfter sizedAfter halted turns
    exact stillHalted.nextTurn nextTurn (placed_afterTurns placedAfter sizedAfter turns).next_apart
  · rw [commit_withoutProgram, mind_withoutProgram]
  · exact opponent_nextTurn (congrArg (fun mind => mind.1.decision) faults.mind) turn apart

/-- A fault voids the tick and halts the agent for good, in every tick of every match. -/
theorem fault_halts_agent {config : Config} (valid : config.Valid) (red blue : Program) :
    ∃ arena events, Arena.start config red blue = .ok (arena, events) ∧
      ∀ turns side fault played, (arena.afterTurns turns).commit.Faults side fault →
        (arena.afterTurns turns).nextTurn = .ok played →
          HaltsAgent (arena.afterTurns turns) side fault played := by
  obtain ⟨barrels, random, events, started⟩ := start_of_valid valid red blue
  refine ⟨_, events, started, ?_⟩
  intro turns side fault played faults turn
  have sized : 1 ≤ config.gridSize := valid.limits.one_le_gridSize
  have placed := placed_start valid red blue barrels random
  exact haltsAgent_of_faults (placed_afterTurns placed sized turns)
    (sized_afterTurns sized turns) faults turn

/-- A program that has written a variable and raised the shield when it divides by zero. -/
def overreach : Program :=
  ⟨[.assign "a" (.num 5), .shield true, .move (some (.binary .div (.num 1) (.num 0)))]⟩

theorem execute_overreach (readings : Readings) (vars : Vars) :
    execute overreach ({ readings, vars } : View) =
      .error .divisionByZero
        { readings, vars := vars.set "a" 5, decision := { shield := some true } } := by
  rfl

theorem fault_halts_agent_of_overreach :
    narrow.Valid ∧ ∃ arena events played,
      Arena.start narrow overreach Prebuilt.aimAndGo = .ok (arena, events) ∧
        arena.commit.Faults .red .divisionByZero ∧ arena.nextTurn = .ok played ∧
        HaltsAgent arena .red .divisionByZero played ∧
        (played.arena.agent .red).vars.get? "a" = some 5 := by
  obtain ⟨arena, events, started, halts⟩ :=
    fault_halts_agent valid_narrow overreach Prebuilt.aimAndGo
  obtain ⟨barrels, random, setUpEvents, same⟩ :=
    start_of_valid valid_narrow overreach Prebuilt.aimAndGo
  cases started.symm.trans same
  have faults : ({ setUp narrow overreach Prebuilt.aimAndGo with barrels, random } :
      Arena).commit.Faults .red .divisionByZero := ⟨_, execute_overreach _ _⟩
  have going : ({ setUp narrow overreach Prebuilt.aimAndGo with barrels, random } :
      Arena).outcome? = none := rfl
  have turn := nextTurn_of_undecided going
  have halted := halts 0 .red .divisionByZero _ faults turn
  refine ⟨valid_narrow, _, _, _, started, faults, turn, halted, ?_⟩
  rw [halted.halted.vars]
  rfl

end FuelDuel.Arena
