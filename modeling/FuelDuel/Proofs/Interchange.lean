import FuelDuel.Proofs.Faults
import FuelDuel.Proofs.Independence
import FuelDuel.Proofs.Steering

/-!
Interchangeable programs. A tick carries out what both robots have decided, and asks nothing else of
a program. So two arenas that differ in the mind of one side only stay so, and show the same, as
long as that side decides the same in both (`AlikeFor.resolve_same`).

The two programs that aim decide the same in every tick, on whatever they see. So an opponent cannot
tell which of the two it plays against.
-/

namespace FuelDuel.Arena

open FuelDuel.Execution
open FuelDuel.Language
open FuelDuel.World

/-! ### Arenas that differ in one mind -/

/-- What a turn shows: the report and what is logged, or why it is refused. -/
def shownTurn (arena : Arena) : Except Refusal (TickReport × List Event) :=
  arena.nextTurn.map fun played => (played.report, played.events)

/-- The report of a tick, from the arena in which the tick has ended. -/
theorem report_resolve_eq (arena : Arena) (thinking : Thinking) :
    (arena.resolve thinking).report =
      { tick := arena.tick + 1
        red := robotReport (arena.resolve thinking).arena.red.body thinking.redThought
          (arena.moveBoth thinking).red.2
        blue := robotReport (arena.resolve thinking).arena.blue.body thinking.blueThought
          (arena.moveBoth thinking).blue.2
        barrels := (arena.resolve thinking).arena.barrels.size } := by
  rw [resolve]

theorem events_resolve (arena : Arena) (thinking : Thinking) :
    (arena.resolve thinking).events =
      thinking.redThought.events .red ++ thinking.blueThought.events .blue ++
        blockEvents (arena.moveBoth thinking).red.1 (arena.moveBoth thinking).red.2 ++
        blockEvents (arena.moveBoth thinking).blue.1 (arena.moveBoth thinking).blue.2 ++
        (arena.charged thinking).maybeSpawn.2 ++
        [.tickResolved (arena.resolve thinking).report] := by
  rw [resolve]

namespace AlikeFor

variable {side : Side} {left right : Arena} (alike : AlikeFor side left right)

include alike

theorem bodies : left.red.body = right.red.body ∧ left.blue.body = right.blue.body :=
  ⟨alike.body .red, alike.body .blue⟩

theorem freeCells : left.freeCells = right.freeCells := by
  have robots : left.robotCells = right.robotCells := by
    rw [robotCells, robotCells, alike.bodies.1, alike.bodies.2]
  rw [Arena.freeCells, Arena.freeCells, takenCells, takenCells, alike.grid, robots, alike.barrels]

theorem restocked {barrels otherBarrels : CellSet} {random otherRandom : Random}
    (sameBarrels : barrels = otherBarrels) (sameRandom : random = otherRandom) :
    AlikeFor side { left with barrels, random }
      { right with barrels := otherBarrels, random := otherRandom } := by
  obtain ⟨config, -, -, tick, agent, opponentBody⟩ := alike
  cases side <;> exact ⟨config, sameBarrels, sameRandom, tick, agent, opponentBody⟩

theorem atTick (tick : Nat) : AlikeFor side (left.atTick tick) (right.atTick tick) := by
  obtain ⟨config, barrels, random, -, agent, opponentBody⟩ := alike
  cases side <;> exact ⟨config, barrels, random, rfl, agent, opponentBody⟩

/-- The same barrel appears. -/
theorem spawnBarrel :
    AlikeFor side left.spawnBarrel.1 right.spawnBarrel.1 ∧
      left.spawnBarrel.2 = right.spawnBarrel.2 := by
  unfold Arena.spawnBarrel
  rw [alike.freeCells, alike.random, alike.barrels]
  split
  · exact ⟨alike, rfl⟩
  · exact ⟨alike.restocked rfl rfl, rfl⟩

theorem maybeSpawn :
    AlikeFor side left.maybeSpawn.1 right.maybeSpawn.1 ∧
      left.maybeSpawn.2 = right.maybeSpawn.2 := by
  have advanced : AlikeFor side { left with random := left.random.advance }
      { right with random := right.random.advance } :=
    alike.restocked alike.barrels (congrArg Random.advance alike.random)
  cases drawn : (left.random.chance left.config.spawnChance).1 with
  | true =>
      have lucky : (right.random.chance right.config.spawnChance).1 = true := by
        rw [← alike.random, ← alike.config, drawn]
      rw [maybeSpawn_of_lucky drawn, maybeSpawn_of_lucky lucky]
      exact advanced.spawnBarrel
  | false =>
      have unlucky : (right.random.chance right.config.spawnChance).1 = false := by
        rw [← alike.random, ← alike.config, drawn]
      rw [maybeSpawn_of_unlucky drawn, maybeSpawn_of_unlucky unlucky]
      exact ⟨advanced, rfl⟩

section Resolution

variable (thoughts : (left.mind side.other).1 = (right.mind side.other).1)

include thoughts

theorem thought (any : Side) : (left.mind any).1 = (right.mind any).1 := by
  by_cases same : any = side
  · rw [same, alike.mind]
  · rw [Side.eq_other_of_ne same, thoughts]

theorem moveBoth : left.moveBoth left.minds = right.moveBoth right.minds := by
  have acted : left.actBoth left.minds = right.actBoth right.minds := by
    simp only [actBoth, minds, body_mind, alike.body, alike.thought thoughts, alike.grid,
      alike.config, alike.barrels]
  rw [Arena.moveBoth, Arena.moveBoth, acted]

theorem charged : AlikeFor side (left.charged left.minds) (right.charged right.minds) := by
  have mind := alike.mind
  unfold Arena.charged
  rw [alike.moveBoth thoughts, alike.config]
  cases side with
  | red =>
      have red : left.minds.red = right.minds.red := congrArg Prod.snd mind
      rw [red]
      exact ⟨rfl, rfl, alike.random, alike.tick, rfl, rfl⟩
  | blue =>
      have blue : left.minds.blue = right.minds.blue := congrArg Prod.snd mind
      rw [blue]
      exact ⟨rfl, rfl, alike.random, alike.tick, rfl, rfl⟩

/-- A tick shows the same in both arenas. -/
theorem resolve_same :
    (left.resolve left.minds).report = (right.resolve right.minds).report ∧
      (left.resolve left.minds).events = (right.resolve right.minds).events ∧
      AlikeFor side (left.resolve left.minds).arena (right.resolve right.minds).arena := by
  have moved := alike.moveBoth thoughts
  have redThought : left.minds.redThought = right.minds.redThought := alike.thought thoughts .red
  have blueThought : left.minds.blueThought = right.minds.blueThought :=
    alike.thought thoughts .blue
  obtain ⟨spawned, appeared⟩ := (alike.charged thoughts).maybeSpawn
  have after : AlikeFor side (left.resolve left.minds).arena (right.resolve right.minds).arena := by
    rw [arena_resolve, arena_resolve, alike.tick]
    exact spawned.atTick _
  have report : (left.resolve left.minds).report = (right.resolve right.minds).report := by
    rw [report_resolve_eq, report_resolve_eq, after.bodies.1, after.bodies.2, redThought,
      blueThought, moved, alike.tick, after.barrels]
  refine ⟨report, ?_, after⟩
  rw [events_resolve, events_resolve, redThought, blueThought, moved, appeared, report]

end Resolution

/-- If the side that is not alike decides the same, the turn shows the same. -/
theorem turn_same
    (thoughts : (left.commit.mind side.other).1 = (right.commit.mind side.other).1) :
    left.shownTurn = right.shownTurn ∧ AlikeFor side left.advance right.advance := by
  unfold shownTurn advance
  cases decided : right.outcome? with
  | some outcome =>
      rw [nextTurn_of_decided decided, nextTurn_of_decided (alike.outcome.trans decided)]
      exact ⟨rfl, alike⟩
  | none =>
      rw [nextTurn_of_undecided decided, nextTurn_of_undecided (alike.outcome.trans decided)]
      obtain ⟨report, events, after⟩ := alike.commit.resolve_same thoughts
      refine ⟨?_, after⟩
      show Except.ok (_, _) = Except.ok (_, _)
      rw [report, events]

end AlikeFor

/-! ### Programs that do a round in every tick -/

section Rounds

variable {arena : Arena} {side : Side} {writes : List (String × Int32)} {action : Action}

/-- What an agent decides whose program does a round. -/
theorem mind_of_rounds
    (rounds : Rounds (arena.agent side).program (arena.view side) writes action) :
    (arena.mind side).1 = { decision := { action := some action } } ∧
      (arena.mind side).2.program = (arena.agent side).program := by
  obtain ⟨-, after, ran, decision⟩ := rounds.ran
  unfold view perceived at ran
  unfold mind Agent.thought
  rw [ran]
  refine ⟨?_, rfl⟩
  show Thought.mk after.decision none = _
  rw [decision]
  rfl

/-- After its round a program starts the next tick as it has started this one. -/
theorem program_advance_of_rounds
    (rounds : Rounds (arena.commit.agent side).program (arena.commit.view side) writes action) :
    (arena.advance.agent side).program = (arena.agent side).program := by
  cases decided : arena.outcome? with
  | some outcome => rw [advance, nextTurn_of_decided decided]
  | none =>
      obtain ⟨body, -, after⟩ := arena.commit.agent_resolve_shows side
      rw [advance_of_ok (nextTurn_of_undecided decided), after]
      show (arena.commit.mind side).2.program = _
      rw [(mind_of_rounds rounds).2, commit_agent]
      rfl

end Rounds

/-! ### The programs that aim -/

/-- Two arenas in which a side plays one and the other of the programs that aim, whatever is stored
in its variables, and which differ in nothing else. -/
structure AimAlike (side : Side) (left right : Arena) : Prop where
  alike : AlikeFor side.other left right
  aimAndGo : (left.agent side).program = Prebuilt.aimAndGo
  aimAndGoLocVar : (right.agent side).program = Prebuilt.aimAndGoLocVar

namespace AimAlike

variable {side : Side} {left right : Arena} (aim : AimAlike side left right)

include aim

theorem perceived : left.perceived side = right.perceived side := by
  obtain ⟨alike, -, -⟩ := aim
  rw [Arena.perceived, Arena.perceived, alike.grid, alike.barrels, alike.body, alike.body]

theorem rounds :
    Rounds (left.agent side).program (left.view side) []
        (aimed (left.perceived side).readings.closest) ∧
      Rounds (right.agent side).program (right.view side)
        (noted "lr" "fb" (right.perceived side).readings)
        (aimed (left.perceived side).readings.closest) := by
  constructor
  · rw [aim.aimAndGo]
    exact rounds_aimAndGo rfl
  · rw [aim.aimAndGoLocVar, aim.perceived]
    exact rounds_aimAndGoLocVar rfl

theorem commit : AimAlike side left.commit right.commit := by
  refine ⟨aim.alike.commit, ?_, ?_⟩
  · rw [commit_agent]
    exact aim.aimAndGo
  · rw [commit_agent]
    exact aim.aimAndGoLocVar

theorem turn : left.shownTurn = right.shownTurn ∧ AimAlike side left.advance right.advance := by
  obtain ⟨leftRounds, rightRounds⟩ := aim.commit.rounds
  have thoughts :
      (left.commit.mind side.other.other).1 = (right.commit.mind side.other.other).1 := by
    rw [Side.other_other, (mind_of_rounds leftRounds).1, (mind_of_rounds rightRounds).1]
  obtain ⟨shown, after⟩ := aim.alike.turn_same thoughts
  refine ⟨shown, after, ?_, ?_⟩
  · rw [program_advance_of_rounds leftRounds, aim.aimAndGo]
  · rw [program_advance_of_rounds rightRounds, aim.aimAndGoLocVar]

theorem afterTurns (turns : Nat) :
    AimAlike side (left.afterTurns turns) (right.afterTurns turns) := by
  induction turns with
  | zero => exact aim
  | succ turns ih => exact ih.turn.2

end AimAlike

/-- The two programs that aim do the same. On any readings, tick by tick, and whatever is stored in
the variables, each of them performs the action that the closest barrel asks for, without a fault,
and is left as it was; the one notes the offset of the barrel, and the other one does nothing else.
So matches in which a side plays one or the other show the same in every turn, and its opponent
thinks and fares the same. -/
theorem aiming_programs_are_interchangeable :
    (∀ (snapshots : Nat → Readings) (count : Nat) (vars otherVars : Vars), ∃ ticks others,
      playTicks snapshots 0 count Prebuilt.aimAndGo vars = .ok ticks ∧
      playTicks snapshots 0 count Prebuilt.aimAndGoLocVar otherVars = .ok others ∧
      ticks.map (fun tick => (tick.effects, tick.rest)) =
        (List.range count).map (fun index =>
          (roundEffects [] (aimed (snapshots index).closest), Prebuilt.aimAndGo)) ∧
      others.map (fun tick => (tick.effects, tick.rest)) =
        (List.range count).map fun index =>
          (roundEffects (noted "lr" "fb" (snapshots index)) (aimed (snapshots index).closest),
            Prebuilt.aimAndGoLocVar)) ∧
    ∀ (side : Side) (left right : Arena), AimAlike side left right → ∀ turns,
      (left.afterTurns turns).shownTurn = (right.afterTurns turns).shownTurn ∧
        AimAlike side (left.afterTurns turns) (right.afterTurns turns) := by
  constructor
  · intro snapshots count vars otherVars
    let action (readings : Readings) : Action := aimed readings.closest
    obtain ⟨ticks, played, listed⟩ := playTicks_of_rounds (fun _ => []) action
      (fun _ free => rounds_aimAndGo free) snapshots 0 count vars
    obtain ⟨others, otherPlayed, otherListed⟩ := playTicks_of_rounds (noted "lr" "fb") action
      (fun _ free => rounds_aimAndGoLocVar free) snapshots 0 count otherVars
    rw [← List.range_eq_range'] at listed otherListed
    exact ⟨ticks, others, played, otherPlayed, listed, otherListed⟩
  · intro side left right aim turns
    exact ⟨(aim.afterTurns turns).turn.1, aim.afterTurns turns⟩

/-- The standoff with another program and other variables for red. -/
def standoffOf (program : Program) (vars : Vars) : Arena :=
  { standoff with red := { standoff.red with program, vars } }

theorem aiming_programs_are_interchangeable_of_standoff :
    let left := standoffOf Prebuilt.aimAndGo (Vars.empty.set "lr" 7)
    let right := standoffOf Prebuilt.aimAndGoLocVar .empty
    AimAlike .red left right ∧
      (left.afterTurns 3).shownTurn = (right.afterTurns 3).shownTurn := by
  intro left right
  have aim : AimAlike .red left right := ⟨⟨rfl, rfl, rfl, rfl, rfl, rfl⟩, rfl, rfl⟩
  exact ⟨aim, (aiming_programs_are_interchangeable.2 .red left right aim 3).1⟩

end FuelDuel.Arena
