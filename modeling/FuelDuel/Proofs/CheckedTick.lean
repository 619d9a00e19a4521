import FuelDuel.Language.Prebuilt
import FuelDuel.Proofs.CheckedArithmetic

/-!
Ticks in checked arithmetic. A tick is made of checked functions just as it is made of the functions
that they check. It does not give up if both robots stand inside the arena with no more than a full
tank, and then it is the same tick (`nextTurnChecked_eq`).
-/

namespace FuelDuel.Arena

open FuelDuel.Language

/-! ### Checked ticks -/

section Definitions

variable (arena : Arena)

/-- The outcome, once a robot is out of fuel. -/
def outcomeChecked : Option (Option Outcome) := do
  let redStops ← arena.red.body.isDeadChecked
  let blueStops ← arena.blue.body.isDeadChecked
  return match redStops, blueStops with
    | false, false => none
    | true, true => some .draw
    | false, true => some .redWins
    | true, false => some .blueWins

/-- Makes the targets of the last tick current. -/
def commitChecked : Option Arena := do
  let red ← arena.red.body.commitChecked
  let blue ← arena.blue.body.commitChecked
  return { arena with red.body := red, blue.body := blue }

/-- Lets both agents think on what they perceive now. -/
def thinkChecked : Option (Except Refusal Thinking) := do
  let perceive := Perception.captureChecked arena.grid arena.barrels
  let redSees ← perceive arena.red.body arena.blue.body
  let blueSees ← perceive arena.blue.body arena.red.body
  return do
    let (redThought, red) ← arena.red.think .red redSees
    let (blueThought, blue) ← arena.blue.think .blue blueSees
    return { red, redThought, blue, blueThought }

variable (thinking : Thinking)

/-- The barrels and both bodies once both agents have acted, red first. -/
def actBothChecked : Option Scene := do
  let redActed ← Scene.carryOutChecked arena.grid arena.config thinking.redThought.decision
    ⟨arena.barrels, thinking.red.body, thinking.blue.body⟩
  Scene.carryOutChecked arena.grid arena.config thinking.blueThought.decision
    ⟨redActed.barrels, redActed.other, redActed.me⟩

/-- Lets both robots act and move. -/
def moveBothChecked : Option Moved := do
  let acted ← arena.actBothChecked thinking
  let red := resolveMove acted.other acted.me
  return {
    barrels := acted.barrels
    red
    blue := resolveMove acted.me red.1 }

/-- The arena once both robots have acted, moved and paid. -/
def chargedChecked : Option Arena := do
  let moved ← arena.moveBothChecked thinking
  let red ← moved.red.1.chargeChecked arena.config
  let blue ← moved.blue.1.chargeChecked arena.config
  return { arena with
    barrels := moved.barrels
    red := { thinking.red with body := red }
    blue := { thinking.blue with body := blue } }

/-- One robot's part of the report. -/
def robotReportChecked (body : Body) (thought : Thought) (blocked : Bool) :
    Option RobotReport := do
  let fuel ← body.settledFuelChecked
  return {
    action := thought.decision.action
    shield := body.target.shield
    start := body.current.pos
    stop := body.nextPos
    facing := body.target.dir
    fuel
    blocked
    fault := thought.fault }

/-- Reports on a tick, once it is decided whether a barrel appears. -/
def finishChecked (tick : Nat) (moved : Moved) (spawned : Arena × List Event) :
    Option Played := do
  let after := spawned.1.atTick (tick + 1)
  let red ← robotReportChecked after.red.body thinking.redThought moved.red.2
  let blue ← robotReportChecked after.blue.body thinking.blueThought moved.blue.2
  let report : TickReport := { tick := after.tick, red, blue, barrels := after.barrels.size }
  return {
    report
    arena := after
    events := thinking.redThought.events .red ++ thinking.blueThought.events .blue ++
      blockEvents moved.red.1 moved.red.2 ++ blockEvents moved.blue.1 moved.blue.2 ++ spawned.2 ++
      [.tickResolved report] }

/-- Carries out what both agents have decided and resolves the tick. -/
def resolveChecked : Option Played := do
  let moved ← arena.moveBothChecked thinking
  let charged ← arena.chargedChecked thinking
  finishChecked thinking arena.tick moved charged.maybeSpawn

/-- Plays one tick, unless the match is decided. -/
def nextTurnChecked : Option (Except Refusal Played) := do
  match ← arena.outcomeChecked with
  | some outcome => return .error (.finished outcome)
  | none =>
      let current ← arena.commitChecked
      match ← current.thinkChecked with
      | .error refusal => return .error refusal
      | .ok thinking =>
          let played ← current.resolveChecked thinking
          return .ok played

end Definitions

/-! ### Reports -/

theorem robotReportChecked_eq {body : Body} (fits : Fits body.settledFuel) (thought : Thought)
    (blocked : Bool) :
    robotReportChecked body thought blocked = some (robotReport body thought blocked) := by
  rw [robotReportChecked, bind_of_some (Body.settledFuelChecked_eq fits)]
  rfl

/-- The report on a tick, once it is decided whether a barrel appears. -/
def finish (thinking : Thinking) (tick : Nat) (moved : Moved) (spawned : Arena × List Event) :
    Played :=
  let after := spawned.1.atTick (tick + 1)
  let report : TickReport :=
    { tick := after.tick
      red := robotReport after.red.body thinking.redThought moved.red.2
      blue := robotReport after.blue.body thinking.blueThought moved.blue.2
      barrels := after.barrels.size }
  { report
    arena := after
    events := thinking.redThought.events .red ++ thinking.blueThought.events .blue ++
      blockEvents moved.red.1 moved.red.2 ++ blockEvents moved.blue.1 moved.blue.2 ++ spawned.2 ++
      [.tickResolved report] }

theorem resolve_eq (arena : Arena) (thinking : Thinking) :
    arena.resolve thinking =
      finish thinking arena.tick (arena.moveBoth thinking) (arena.charged thinking).maybeSpawn := by
  rw [resolve]
  rfl

theorem finishChecked_eq {thinking : Thinking} {tick : Nat} {moved : Moved}
    {spawned : Arena × List Event} (red : Fits spawned.1.red.body.settledFuel)
    (blue : Fits spawned.1.blue.body.settledFuel) :
    finishChecked thinking tick moved spawned = some (finish thinking tick moved spawned) := by
  have redReport : robotReportChecked (spawned.1.atTick (tick + 1)).red.body thinking.redThought
      moved.red.2 = some _ := robotReportChecked_eq red _ _
  have blueReport : robotReportChecked (spawned.1.atTick (tick + 1)).blue.body thinking.blueThought
      moved.blue.2 = some _ := robotReportChecked_eq blue _ _
  rw [finishChecked, bind_of_some redReport, bind_of_some blueReport]
  rfl

/-! ### From thinking to the report -/

section Tick

variable {arena : Arena} (limits : arena.config.Limits)
  (ready : ∀ side, (arena.agent side).body.Ready arena.grid arena.config)

include limits ready

theorem thinkChecked_eq (barrelsInside : arena.barrels.Inside arena.grid) :
    arena.thinkChecked = some arena.think := by
  have red := (ready .red).inside
  have blue := (ready .blue).inside
  simp only [agent] at red blue
  have redSees := Perception.captureChecked_eq limits.gridSize_le barrelsInside red blue
  have blueSees := Perception.captureChecked_eq limits.gridSize_le barrelsInside blue red
  rw [thinkChecked, bind_of_some redSees, bind_of_some blueSees]
  rfl

theorem actBothChecked_eq :
    arena.actBothChecked arena.minds = some (arena.actBoth arena.minds) := by
  have red := ready .red
  have blue := ready .blue
  have redBody : arena.minds.red.body = arena.red.body := body_mind arena .red
  have blueBody : arena.minds.blue.body = arena.blue.body := body_mind arena .blue
  have redActed := Scene.carryOutChecked_eq limits limits.gridSize_le
    ⟨arena.barrels, arena.red.body, arena.blue.body⟩ red.inside red.target_inTank
    blue.current_inTank
    arena.minds.redThought.decision
  obtain ⟨redSame, blueSame, blueWants⟩ := Scene.carryOut_frame arena.grid arena.config
    arena.minds.redThought.decision ⟨arena.barrels, arena.red.body, arena.blue.body⟩
  rw [actBothChecked, redBody, blueBody, bind_of_some redActed, actBoth, redBody, blueBody]
  apply Scene.carryOutChecked_eq limits limits.gridSize_le
  · show arena.grid.contains (Scene.other _).current.pos = true
    rw [blueSame]
    exact blue.inside
  · show InTank arena.config (Scene.other _).target.fuel
    rw [blueWants]
    exact blue.target_inTank
  · show InTank arena.config (Scene.me _).current.fuel
    rw [redSame]
    exact red.current_inTank

theorem moveBothChecked_eq :
    arena.moveBothChecked arena.minds = some (arena.moveBoth arena.minds) := by
  rw [moveBothChecked, bind_of_some (actBothChecked_eq limits ready)]
  rfl

variable (apart : arena.red.body.current.pos ≠ arena.blue.body.current.pos)

include apart

theorem chargedChecked_eq :
    arena.chargedChecked arena.minds = some (arena.charged arena.minds) := by
  have moved := moveBoth_minds apart
  have red : InTank arena.config (arena.moveBoth arena.minds).red.1.target.fuel := by
    rw [moved, Part.moved_target_fuel]
    exact fuel_inTank ready .red
  have blue : InTank arena.config (arena.moveBoth arena.minds).blue.1.target.fuel := by
    rw [moved, Part.moved_target_fuel]
    exact fuel_inTank ready .blue
  rw [chargedChecked, bind_of_some (moveBothChecked_eq limits ready),
    bind_of_some (Body.chargeChecked_eq limits red),
    bind_of_some (Body.chargeChecked_eq limits blue)]
  rfl

theorem resolveChecked_eq :
    arena.resolveChecked arena.minds = some (arena.resolve arena.minds) := by
  obtain ⟨barrels, random, spawned⟩ := maybeSpawn_frame (arena.charged arena.minds)
  rw [charged_minds apart] at spawned
  rw [resolveChecked, bind_of_some (moveBothChecked_eq limits ready),
    bind_of_some (chargedChecked_eq limits ready apart), resolve_eq]
  apply finishChecked_eq
  · rw [charged_minds apart, spawned]
    exact (fuelled_after ready limits .red).fits limits
  · rw [charged_minds apart, spawned]
    exact (fuelled_after ready limits .blue).fits limits

end Tick

/-! ### Playing a tick -/

theorem outcomeChecked_eq {arena : Arena}
    (fits : ∀ side, Fits (arena.agent side).body.settledFuel) :
    arena.outcomeChecked = some arena.outcome? := by
  have stops (side : Side) : (arena.agent side).body.isDeadChecked =
      some (arena.agent side).body.isDead := by
    rw [Body.isDeadChecked, bind_of_some (Body.settledFuelChecked_eq (fits side))]
    rfl
  have red := stops .red
  have blue := stops .blue
  simp only [agent] at red blue
  rw [outcomeChecked, bind_of_some red, bind_of_some blue]
  rfl

theorem commitChecked_eq {arena : Arena}
    (fits : ∀ side, Fits (arena.agent side).body.settledFuel) :
    arena.commitChecked = some arena.commit := by
  have commits (side : Side) : (arena.agent side).body.commitChecked =
      some (arena.agent side).body.commit := by
    rw [Body.commitChecked, bind_of_some (Body.settledFuelChecked_eq (fits side))]
    rfl
  have red := commits .red
  have blue := commits .blue
  simp only [agent] at red blue
  rw [commitChecked, bind_of_some red, bind_of_some blue]
  rfl

/-- As long as the robots are placed and their fuel is in range, a tick can be played in checked
arithmetic. -/
theorem nextTurnChecked_eq {arena : Arena} (limits : arena.config.Limits) (placed : Placed arena)
    (barrelsInside : arena.barrels.Inside arena.grid)
    (fuelled : ∀ side, (arena.agent side).body.Fuelled arena.config) :
    arena.nextTurnChecked = some arena.nextTurn := by
  have fits (side : Side) := (fuelled side).fits limits
  rw [nextTurnChecked, bind_of_some (outcomeChecked_eq fits)]
  cases decided : arena.outcome? with
  | some outcome =>
      rw [nextTurn_of_decided decided]
      rfl
  | none =>
      have ready := ready_commit decided placed fuelled
      have thought : arena.commit.thinkChecked = some (.ok arena.commit.minds) := by
        rw [← think_eq]
        exact thinkChecked_eq limits ready barrelsInside
      have resolved : arena.commit.resolveChecked arena.commit.minds =
          some (arena.commit.resolve arena.commit.minds) :=
        resolveChecked_eq limits ready (apart_commit placed.next_apart)
      show (arena.commitChecked >>= _) = _
      rw [bind_of_some (commitChecked_eq fits), bind_of_some thought]
      show (arena.commit.resolveChecked arena.commit.minds >>= _) = _
      rw [bind_of_some resolved, nextTurn_of_undecided decided]
      rfl

/-! ### Whole matches -/

/-- Every number of a match fits: the number of its cells, and in each tick whatever is computed to
play it. Each tick starts with fuel in both tanks, and after it no tank holds more than a full tank
and no robot has lost more than half of what it had. -/
theorem arithmetic_stays_within_words {config : Config} (valid : config.Valid)
    (red blue : Program) :
    config.cellCountChecked = some config.cellCount ∧
      ∃ arena events, Arena.start config red blue = .ok (arena, events) ∧ ∀ turns,
        (∀ played, (arena.afterTurns turns).nextTurn = .ok played → ∀ side,
          1 ≤ ((arena.afterTurns turns).commit.agent side).body.current.fuel ∧
            ((arena.afterTurns turns).commit.agent side).body.current.fuel ≤ config.maxFuel) ∧
        (∀ side, ((arena.afterTurns turns).agent side).body.settledFuel ≤ config.maxFuel ∧
          0 ≤ ((arena.afterTurns turns).agent side).body.stolen ∧
            ((arena.afterTurns turns).agent side).body.stolen ≤
              ((arena.afterTurns turns).agent side).body.current.fuel.tdiv 2) ∧
        (arena.afterTurns turns).nextTurnChecked = some (arena.afterTurns turns).nextTurn := by
  refine ⟨Config.cellCountChecked_eq valid.limits, ?_⟩
  obtain ⟨barrels, random, events, started⟩ := start_of_valid valid red blue
  refine ⟨_, events, started, fun turns => ?_⟩
  have limits := valid.limits
  have sized : 1 ≤ config.gridSize := limits.one_le_gridSize
  have fuelledStart := fuelled_start valid started
  have insideStart := barrels_inside_start started
  obtain ⟨sameConfig, placedStart⟩ := placed_of_started valid started
  -- All that matters of the start from here on is what was just said about it.
  generalize ({ setUp config red blue with barrels, random } : Arena) = arena
    at started fuelledStart insideStart sameConfig placedStart
  subst sameConfig
  have placed := placed_afterTurns placedStart sized turns
  have fuelled := fuelled_afterTurns limits placedStart fuelledStart turns
  have inside := barrels_inside_afterTurns placedStart sized insideStart turns
  rw [← config_afterTurns arena turns] at limits fuelled ⊢
  rw [← grid_afterTurns arena turns] at inside
  refine ⟨fun played turn side => ?_, fun side => ?_,
    nextTurnChecked_eq limits placed inside fuelled⟩
  · have ready := ready_commit (nextTurn_eq_ok_iff.mp turn).1 placed fuelled side
    exact ⟨ready.one_le_current, ready.current_le⟩
  · exact ⟨(fuelled side).settledFuel_le, (fuelled side).stolen_nonneg, (fuelled side).stolen_le⟩

/-- The largest arena with the largest tanks, in which every price is a full tank and the arena is
as full of barrels as can be. -/
def utmost : Config :=
  { gridSize := 256, maxFuel := 1000000, waitCost := 1000000, moveCost := 1000000,
    turnCost := 1000000, shieldCost := 1000000, spawnChance := 1, initialBarrels := 65536 }

theorem arithmetic_stays_within_words_of_utmost :
    utmost.Valid ∧ utmost.cellCountChecked = some 65536 ∧
      ∃ arena events,
        Arena.start utmost Prebuilt.fallback Prebuilt.aimAndGo = .ok (arena, events) ∧ ∀ turns,
        (∀ played, (arena.afterTurns turns).nextTurn = .ok played → ∀ side,
          1 ≤ ((arena.afterTurns turns).commit.agent side).body.current.fuel ∧
            ((arena.afterTurns turns).commit.agent side).body.current.fuel ≤ 1000000) ∧
        (∀ side, ((arena.afterTurns turns).agent side).body.settledFuel ≤ 1000000 ∧
          0 ≤ ((arena.afterTurns turns).agent side).body.stolen ∧
            ((arena.afterTurns turns).agent side).body.stolen ≤
              ((arena.afterTurns turns).agent side).body.current.fuel.tdiv 2) ∧
        (arena.afterTurns turns).nextTurnChecked = some (arena.afterTurns turns).nextTurn := by
  have valid : utmost.Valid := by
    unfold Config.Valid
    decide +kernel
  exact ⟨valid, arithmetic_stays_within_words valid Prebuilt.fallback Prebuilt.aimAndGo⟩

end FuelDuel.Arena
