import FuelDuel.Proofs.Exchange
import FuelDuel.Proofs.MatchLog
import FuelDuel.Proofs.TurnInPlace

/-!
Minds are private. What a robot thinks in a tick, and what it wants to do, does not depend on the
program, the variables and the status of its opponent (`thinking_ignores_opponent_mind`). The
opponent has a say only in where the robot ends up, in its fuel and in the barrels.

Red acts before blue thinks, and may take a barrel or blue's fuel. But blue thinks on what it has
perceived before, and a decision overwrites nothing that the opponent wants: of the opponent's body
it changes only the fuel that was siphoned off (`Scene.other_carryOut`). So each body still shows
after the tick what its robot has decided (`Part.Shows`), wherever the two robots stand.
-/

namespace FuelDuel.Arena

open FuelDuel.Execution
open FuelDuel.Language
open FuelDuel.World

/-! ### What a body shows of a decision -/

/-- A body that shows what its robot has decided in a tick: it has kept the stance with which the
tick has started, and wants the cell, the facing and the shield that the decision asks for. -/
structure Part.Shows (grid : Grid) (part : Part) (body : Body) : Prop where
  current : body.current = part.body.current
  goal : body.target.pos = part.goal grid
  facing : body.target.dir = part.facing
  shield : body.target.shield = part.decision.shield.getD part.body.target.shield

namespace Part.Shows

variable {grid : Grid} {part : Part} {body : Body}

theorem withStolen (shows : part.Shows grid body) (stolen : Int) :
    part.Shows grid { body with stolen } :=
  ⟨shows.current, shows.goal, shows.facing, shows.shield⟩

theorem resolveMove (shows : part.Shows grid body) (other : Body) :
    part.Shows grid (Arena.resolveMove body other).1 := by
  obtain ⟨nextPos, moved⟩ := resolveMove_frame body other
  rw [moved]
  exact ⟨shows.current, shows.goal, shows.facing, shows.shield⟩

theorem charge (shows : part.Shows grid body) (config : Config) :
    part.Shows grid (body.charge config) :=
  ⟨shows.current, shows.goal, shows.facing, shows.shield⟩

end Part.Shows

namespace Scene

variable (grid : Grid) (config : Config) (barrels : CellSet) (part : Part) (other : Body)

theorem me_carryOut :
    part.Shows grid (carryOut grid config part.decision ⟨barrels, part.body, other⟩).me := by
  have acted := carryOut_eq grid config barrels
    { part with onBarrel := barrels.contains part.body.current.pos } ⟨other, {}, false⟩ rfl
  exact acted ▸ ⟨rfl, rfl, rfl, rfl⟩

/-- A decision does nothing to the opponent but siphon off its fuel. -/
theorem other_carryOut :
    ∃ stolen, (carryOut grid config part.decision ⟨barrels, part.body, other⟩).other =
      { other with stolen } := by
  have acted := carryOut_eq grid config barrels
    { part with onBarrel := barrels.contains part.body.current.pos } ⟨other, {}, false⟩ rfl
  exact acted ▸ ⟨_, rfl⟩

end Scene

/-! ### One tick -/

section Tick

variable (arena : Arena)

/-- Once both robots have acted, both bodies show what was decided for them. -/
theorem actBoth_shows :
    (arena.part .red).Shows arena.grid (arena.actBoth arena.minds).other ∧
      (arena.part .blue).Shows arena.grid (arena.actBoth arena.minds).me := by
  let red := arena.part .red
  let blue := arena.part .blue
  let redActed := Scene.carryOut arena.grid arena.config red.decision
    ⟨arena.barrels, red.body, blue.body⟩
  have redShows : red.Shows arena.grid redActed.me := Scene.me_carryOut _ _ _ _ _
  obtain ⟨stolen, blueHit⟩ : ∃ stolen, redActed.other = { blue.body with stolen } :=
    Scene.other_carryOut _ _ _ _ _
  -- Blue acts with the body that red has left of it.
  let hit : Part := { blue with body := { blue.body with stolen } }
  have both : arena.actBoth arena.minds =
      Scene.carryOut arena.grid arena.config hit.decision
        ⟨redActed.barrels, hit.body, redActed.me⟩ := by
    simp only [actBoth, minds, body_mind]
    exact congrArg (fun body => Scene.carryOut arena.grid arena.config blue.decision
      ⟨redActed.barrels, body, redActed.me⟩) blueHit
  rw [both]
  constructor
  · obtain ⟨lost, redHit⟩ := Scene.other_carryOut arena.grid arena.config redActed.barrels hit
      redActed.me
    rw [redHit]
    exact redShows.withStolen lost
  · obtain ⟨current, goal, facing, shield⟩ := Scene.me_carryOut arena.grid arena.config
      redActed.barrels hit redActed.me
    exact ⟨current, goal, facing, shield⟩

theorem agent_charged (side : Side) :
    ∃ body, (arena.part side).Shows arena.grid body ∧
      (arena.charged arena.minds).agent side = { (arena.mind side).2 with body } := by
  obtain ⟨red, blue⟩ := arena.actBoth_shows
  cases side with
  | red => exact ⟨_, (red.resolveMove _).charge arena.config, rfl⟩
  | blue => exact ⟨_, (blue.resolveMove _).charge arena.config, rfl⟩

/-- An agent is after a tick what thinking has made of it, with a body that shows its decision. -/
theorem agent_resolve_shows (side : Side) :
    ∃ body, (arena.part side).Shows arena.grid body ∧
      (arena.resolve arena.minds).arena.agent side = { (arena.mind side).2 with body } := by
  obtain ⟨body, shows, charged⟩ := arena.agent_charged side
  refine ⟨body, shows, ?_⟩
  obtain ⟨barrels, random, spawned⟩ := maybeSpawn_frame (arena.charged arena.minds)
  rw [← charged, arena_resolve, spawned]
  cases side <;> rfl

/-- The action and the fault of a report are those of the thought. -/
theorem thought_resolve (side : Side) :
    ((arena.resolve arena.minds).report.robot side).action =
        (arena.mind side).1.decision.action ∧
      ((arena.resolve arena.minds).report.robot side).fault = (arena.mind side).1.fault := by
  cases side with
  | red =>
      simp only [TickReport.robot, report_resolve_red]
      exact ⟨rfl, rfl⟩
  | blue =>
      simp only [TickReport.robot, report_resolve_blue]
      exact ⟨rfl, rfl⟩

end Tick

/-! ### Two arenas -/

/-- Two arenas that differ at most in the program, the variables and the status of the opponent of a
side. -/
structure AlikeFor (side : Side) (left right : Arena) : Prop where
  config : left.config = right.config
  barrels : left.barrels = right.barrels
  random : left.random = right.random
  tick : left.tick = right.tick
  agent : left.agent side = right.agent side
  opponentBody : (left.agent side.other).body = (right.agent side.other).body

/-- Two played ticks in which a side has thought and decided the same: its agent has the same program
left, the same variables and the same status, its robot has started from the same stance and wants
the same cell, facing and shield, and the same action and fault are reported. -/
structure DecidedAlike (side : Side) (leftReport : TickReport) (left : Arena)
    (rightReport : TickReport) (right : Arena) : Prop where
  program : (left.agent side).program = (right.agent side).program
  vars : (left.agent side).vars = (right.agent side).vars
  status : (left.agent side).status = (right.agent side).status
  current : (left.agent side).body.current = (right.agent side).body.current
  goal : (left.agent side).body.target.pos = (right.agent side).body.target.pos
  facing : (left.agent side).body.target.dir = (right.agent side).body.target.dir
  shield : (left.agent side).body.target.shield = (right.agent side).body.target.shield
  action : (leftReport.robot side).action = (rightReport.robot side).action
  fault : (leftReport.robot side).fault = (rightReport.robot side).fault

namespace AlikeFor

variable {side : Side} {left right : Arena} (alike : AlikeFor side left right)

include alike

theorem grid : left.grid = right.grid := by
  rw [Arena.grid, Arena.grid, alike.config]

theorem body (any : Side) : (left.agent any).body = (right.agent any).body := by
  by_cases same : any = side
  · rw [same, alike.agent]
  · rw [Side.eq_other_of_ne same]
    exact alike.opponentBody

theorem commit : AlikeFor side left.commit right.commit where
  config := alike.config
  barrels := alike.barrels
  random := alike.random
  tick := alike.tick
  agent := by rw [commit_agent, commit_agent, alike.agent]
  opponentBody := by
    rw [commit_agent, commit_agent]
    exact congrArg Body.commit alike.opponentBody

/-- A match is decided by the bodies. -/
theorem outcome : left.outcome? = right.outcome? := by
  have red : left.red.body = right.red.body := alike.body .red
  have blue : left.blue.body = right.blue.body := alike.body .blue
  rw [outcome?, outcome?, red, blue]

/-- What a side perceives shows nothing of the opponent's mind. -/
theorem mind : left.mind side = right.mind side := by
  rw [Arena.mind, Arena.mind, alike.grid, alike.barrels, alike.agent, alike.opponentBody]

theorem part : left.part side = right.part side := by
  rw [Arena.part, Arena.part, alike.mind, alike.barrels, alike.agent]

theorem resolve :
    DecidedAlike side (left.resolve left.minds).report (left.resolve left.minds).arena
      (right.resolve right.minds).report (right.resolve right.minds).arena := by
  obtain ⟨leftBody, leftShows, leftAgent⟩ := left.agent_resolve_shows side
  obtain ⟨rightBody, rightShows, rightAgent⟩ := right.agent_resolve_shows side
  obtain ⟨leftAction, leftFault⟩ := left.thought_resolve side
  obtain ⟨rightAction, rightFault⟩ := right.thought_resolve side
  rw [alike.part, alike.grid] at leftShows
  rw [alike.mind] at leftAgent leftAction leftFault
  constructor
  · rw [leftAgent, rightAgent]
  · rw [leftAgent, rightAgent]
  · rw [leftAgent, rightAgent]
  · rw [leftAgent, rightAgent]
    exact leftShows.current.trans rightShows.current.symm
  · rw [leftAgent, rightAgent]
    exact leftShows.goal.trans rightShows.goal.symm
  · rw [leftAgent, rightAgent]
    exact leftShows.facing.trans rightShows.facing.symm
  · rw [leftAgent, rightAgent]
    exact leftShows.shield.trans rightShows.shield.symm
  · exact leftAction.trans rightAction.symm
  · exact leftFault.trans rightFault.symm

theorem nextTurn {played : Played} (turn : left.nextTurn = .ok played) :
    ∃ other, right.nextTurn = .ok other ∧
      DecidedAlike side played.report played.arena other.report other.arena := by
  obtain ⟨undecided, rfl⟩ := nextTurn_eq_ok_iff.mp turn
  exact ⟨_, nextTurn_of_undecided (alike.outcome ▸ undecided), alike.commit.resolve⟩

end AlikeFor

/-- Whatever drives its opponent, a side thinks and decides the same. This holds of a tick as
`nextTurn` gives it, and also of one that is played in place, where red has already acted on the
barrels and on blue's robot when blue thinks. -/
theorem thinking_ignores_opponent_mind {side : Side} {left right : Arena}
    (alike : AlikeFor side left right) :
    (∀ played, left.nextTurn = .ok played → ∃ other, right.nextTurn = .ok other ∧
      DecidedAlike side played.report played.arena other.report other.arena) ∧
    ∀ report after, turnInPlace left = .ok report after →
      ∃ otherReport otherAfter, turnInPlace right = .ok otherReport otherAfter ∧
        DecidedAlike side report after otherReport otherAfter := by
  refine ⟨fun _ turn => alike.nextTurn turn, ?_⟩
  intro report after turn
  obtain ⟨events, played⟩ := turnInPlace_eq_ok_iff.mp turn
  obtain ⟨other, otherTurn, decided⟩ := alike.nextTurn played
  exact ⟨_, _, turnInPlace_eq_ok_iff.mpr ⟨other.events, otherTurn⟩, decided⟩

/-- The standoff with a red robot whose program fails where it reached for fuel. -/
def brokenStandoff : Arena :=
  { standoff with
    red := { standoff.red with
      program := ⟨[.shield true, .wait (some (.binary .div (.num 1) (.num 0)))]⟩
      vars := Vars.empty.set "a" 3 } }

/-- Blue thinks the same whether red siphons fuel from it or fails. -/
theorem thinking_ignores_opponent_mind_of_standoff :
    AlikeFor .blue standoff brokenStandoff ∧
      ∃ played other, standoff.nextTurn = .ok played ∧ brokenStandoff.nextTurn = .ok other ∧
        (played.report.robot .red).action = some .takeFuel ∧
        (other.report.robot .red).fault = some "division by zero" ∧
        DecidedAlike .blue played.report played.arena other.report other.arena := by
  have alike : AlikeFor .blue standoff brokenStandoff := ⟨rfl, rfl, rfl, rfl, rfl, rfl⟩
  have undecided : standoff.outcome? = none := by decide
  have turn := nextTurn_of_undecided undecided
  obtain ⟨other, otherTurn, decided⟩ := (thinking_ignores_opponent_mind alike).1 _ turn
  obtain ⟨-, rfl⟩ := nextTurn_eq_ok_iff.mp otherTurn
  refine ⟨alike, _, _, turn, otherTurn, ?_, ?_, decided⟩
  · rw [(thought_resolve _ .red).1]
    rfl
  · rw [(thought_resolve _ .red).2]
    rfl

end FuelDuel.Arena
