import FuelDuel.Proofs.Chance
import FuelDuel.Proofs.WholeMatch

/-!
Fairness between the corners. Turning the arena by 180 degrees takes one start corner to the other,
and what a robot perceives, decides and does is the same seen from either side: every reading is
relative to the robot's own facing, and every rule speaks of its own cell, the cell ahead and the
opponent's. So what a tick makes of two turned robots is what it makes of the robots, turned
(`Part.after_halfTurned`).

Only barrels tell the corners apart. Without them, two robots that run the same program stay turned
images of each other, so they run out of fuel in the same tick or not at all
(`same_program_never_wins`).
-/

namespace FuelDuel.Arena

open FuelDuel.Execution
open FuelDuel.Language
open FuelDuel.World

/-! ### Cells and facings -/

namespace Direction

theorem reverse_reverse (dir : Direction) : dir.reverse.reverse = dir := by
  cases dir <;> rfl

theorem turned_reverse (dir : Direction) (way : Turn) :
    dir.reverse.turned way = (dir.turned way).reverse := by
  cases dir <;> cases way <;> rfl

theorem reverse_inj {first second : Direction} :
    first.reverse = second.reverse ↔ first = second := by
  cases first <;> cases second <;> decide

end Direction

namespace Grid

variable (grid : Grid)

/-- Where a half turn of the arena takes a cell. -/
def halfTurn (cell : Cell) : Cell := ⟨grid.far - cell.x, grid.far - cell.y⟩

theorem halfTurn_halfTurn (cell : Cell) : grid.halfTurn (grid.halfTurn cell) = cell := by
  simp only [halfTurn]
  congr 1 <;> omega

theorem halfTurn_inj {first second : Cell} :
    grid.halfTurn first = grid.halfTurn second ↔ first = second := by
  constructor
  · intro same
    rw [← grid.halfTurn_halfTurn first, same, grid.halfTurn_halfTurn]
  · exact congrArg _

/-- Walls stop a robot at either end of a row or column alike. -/
theorem step_halfTurn (sized : 1 ≤ grid.size) (cell : Cell) (dir : Direction) :
    grid.step (grid.halfTurn cell) dir.reverse = grid.halfTurn (grid.step cell dir) := by
  cases dir <;>
    simp only [step, halfTurn, clamp, far, Cell.moved, Direction.delta, Direction.reverse,
      Direction.left, Cell.mk.injEq] <;> omega

theorem wallDistance_halfTurn (cell : Cell) (dir : Direction) :
    grid.wallDistance (grid.halfTurn cell) dir.reverse = grid.wallDistance cell dir := by
  cases dir <;> simp only [wallDistance, halfTurn, Direction.reverse, Direction.left] <;> omega

/-- Offsets look the same from the turned cell along the turned facing. -/
theorem relative_halfTurn (origin target : Cell) (dir : Direction) :
    dir.reverse.relative ((grid.halfTurn origin).shiftTo (grid.halfTurn target)) =
      dir.relative (origin.shiftTo target) := by
  cases dir <;>
    simp only [Direction.relative, Direction.reverse, Direction.left, halfTurn, Cell.shiftTo,
      Offset.mk.injEq] <;> omega

end Grid

/-! ### Robots -/

section Turned

variable (grid : Grid)

/-- The stance in the turned arena. -/
def Stance.halfTurned (stance : Stance) : Stance :=
  { stance with pos := grid.halfTurn stance.pos, dir := stance.dir.reverse }

/-- The body in the turned arena. -/
def Body.halfTurned (body : Body) : Body :=
  { body with
    current := body.current.halfTurned grid
    target := body.target.halfTurned grid
    nextPos := grid.halfTurn body.nextPos }

/-- The agent in the turned arena: only its body is turned. -/
def Agent.halfTurned (agent : Agent) : Agent := { agent with body := agent.body.halfTurned grid }

/-- The part in the tick of the turned arena. -/
def Part.halfTurned (part : Part) : Part := { part with body := part.body.halfTurned grid }

/-- The report from the turned arena. -/
def RobotReport.halfTurned (report : RobotReport) : RobotReport :=
  { report with
    start := grid.halfTurn report.start
    stop := grid.halfTurn report.stop
    facing := report.facing.reverse }

theorem Stance.halfTurned_halfTurned (stance : Stance) :
    (stance.halfTurned grid).halfTurned grid = stance := by
  simp only [Stance.halfTurned, Grid.halfTurn_halfTurn, Direction.reverse_reverse]

theorem Body.halfTurned_halfTurned (body : Body) :
    (body.halfTurned grid).halfTurned grid = body := by
  simp only [Body.halfTurned, Stance.halfTurned_halfTurned, Grid.halfTurn_halfTurn]

theorem Part.halfTurned_halfTurned (part : Part) :
    (part.halfTurned grid).halfTurned grid = part := by
  simp only [Part.halfTurned, Body.halfTurned_halfTurned]

/-- Without barrels, turned robots perceive the same. -/
theorem Perception.capture_halfTurned (me other : Body) :
    capture grid .empty (me.halfTurned grid) (other.halfTurned grid) =
      capture grid .empty me other := by
  simp only [capture, Body.halfTurned, Stance.halfTurned, Grid.relative_halfTurn,
    Grid.wallDistance_halfTurn, CellSet.empty, List.map_nil]

/-- Where a robot stands is no part of its thoughts. -/
theorem Agent.thought_halfTurned (agent : Agent) (perception : Perception) :
    (agent.halfTurned grid).thought perception =
      ((agent.thought perception).1, (agent.thought perception).2.halfTurned grid) := by
  unfold Agent.thought Agent.halfTurned
  dsimp only
  split <;> rfl

namespace Body

theorem isMoving_halfTurned (body : Body) : (body.halfTurned grid).isMoving = body.isMoving := by
  simp only [isMoving, halfTurned, Stance.halfTurned, ne_eq, Grid.halfTurn_inj]

theorem isTurning_halfTurned (body : Body) : (body.halfTurned grid).isTurning = body.isTurning := by
  simp only [isTurning, halfTurned, Stance.halfTurned, ne_eq, Direction.reverse_inj]

theorem charge_halfTurned (body : Body) (config : Config) :
    (body.halfTurned grid).charge config = (body.charge config).halfTurned grid := by
  simp only [charge, tickCost, isMoving_halfTurned, isTurning_halfTurned]
  rfl

end Body

theorem resolveMove_halfTurned (me other : Body) :
    resolveMove (me.halfTurned grid) (other.halfTurned grid) =
      ((resolveMove me other).1.halfTurned grid, (resolveMove me other).2) := by
  have target (first second : Body) :
      (first.halfTurned grid).target.pos = (second.halfTurned grid).target.pos ↔
        first.target.pos = second.target.pos := grid.halfTurn_inj
  have current (first second : Body) :
      (first.halfTurned grid).target.pos = (second.halfTurned grid).current.pos ↔
        first.target.pos = second.current.pos := grid.halfTurn_inj
  simp only [resolveMove, Body.isMoving_halfTurned, target, current]
  split
  · rfl
  · split <;> rfl

namespace Part

variable (sized : 1 ≤ grid.size) (config : Config) (me other : Part)

theorem filled_halfTurned : (me.halfTurned grid).filled config = me.filled config := rfl

theorem facing_halfTurned : (me.halfTurned grid).facing = me.facing.reverse := by
  unfold facing halfTurned
  dsimp only
  split
  · exact Direction.turned_reverse _ _
  · rfl

include sized

theorem ahead_halfTurned : (me.halfTurned grid).ahead grid = grid.halfTurn (me.ahead grid) :=
  grid.step_halfTurn sized _ _

theorem goal_halfTurned : (me.halfTurned grid).goal grid = grid.halfTurn (me.goal grid) := by
  unfold goal
  rw [ahead_halfTurned grid sized me]
  exact (apply_ite grid.halfTurn _ _ _).symm

theorem siphons_halfTurned :
    (me.halfTurned grid).siphons grid (other.halfTurned grid) = me.siphons grid other := by
  have meets : grid.halfTurn (me.ahead grid) = (other.halfTurned grid).body.current.pos ↔
      me.ahead grid = other.body.current.pos := grid.halfTurn_inj
  simp only [siphons, ahead_halfTurned grid sized me, meets]
  rfl

theorem aim_halfTurned :
    (me.halfTurned grid).aim grid config (other.halfTurned grid) =
      (me.aim grid config other).halfTurned grid := by
  simp only [aim, fuel, goal_halfTurned grid sized, facing_halfTurned,
    siphons_halfTurned grid sized, filled_halfTurned]
  rfl

theorem loss_halfTurned :
    (me.halfTurned grid).loss grid config (other.halfTurned grid) = me.loss grid config other := by
  simp only [loss, siphons_halfTurned grid sized]
  rfl

theorem acted_halfTurned :
    (me.halfTurned grid).acted grid config (other.halfTurned grid) =
      (me.acted grid config other).halfTurned grid := by
  simp only [acted, aim_halfTurned grid sized, loss_halfTurned grid sized]
  rfl

theorem blocked_halfTurned :
    (me.halfTurned grid).blocked grid config (other.halfTurned grid) =
      me.blocked grid config other := by
  simp only [blocked, acted_halfTurned grid sized, resolveMove_halfTurned]

/-- What a tick makes of two turned robots is what it makes of the robots, turned. -/
theorem after_halfTurned :
    (me.halfTurned grid).after grid config (other.halfTurned grid) =
      (me.after grid config other).halfTurned grid := by
  simp only [after, moved, acted_halfTurned grid sized, resolveMove_halfTurned,
    Body.charge_halfTurned]

end Part

end Turned

/-! ### One tick -/

/-- Blue is red, turned. -/
def Mirrored (arena : Arena) : Prop := arena.blue = arena.red.halfTurned arena.grid

theorem mirrored_iff {arena : Arena} :
    Mirrored arena ↔ arena.agent .blue = (arena.agent .red).halfTurned arena.grid :=
  Iff.rfl

theorem Mirrored.body {arena : Arena} (mirrored : Mirrored arena) :
    arena.blue.body = arena.red.body.halfTurned arena.grid :=
  congrArg Agent.body mirrored

section Resolution

variable {arena : Arena} (mirrored : Mirrored arena) (bare : arena.barrels = .empty)

include mirrored bare

theorem mind_blue :
    arena.mind .blue = ((arena.mind .red).1, (arena.mind .red).2.halfTurned arena.grid) := by
  have seen : Perception.capture arena.grid .empty arena.blue.body arena.red.body =
      Perception.capture arena.grid .empty arena.red.body arena.blue.body := by
    -- Turning both robots makes red of blue and blue of red.
    rw [mirrored.body, ← Perception.capture_halfTurned, Body.halfTurned_halfTurned]
  show arena.blue.thought (.capture arena.grid arena.barrels arena.blue.body arena.red.body) =
    ((arena.red.thought (.capture arena.grid arena.barrels arena.red.body arena.blue.body)).1,
      (arena.red.thought (.capture arena.grid arena.barrels arena.red.body
        arena.blue.body)).2.halfTurned arena.grid)
  rw [bare, seen, ← Agent.thought_halfTurned, ← mirrored]

theorem part_blue : arena.part .blue = (arena.part .red).halfTurned arena.grid := by
  simp only [part, mind_blue mirrored bare, bare]
  show Part.mk arena.blue.body _ false = _
  rw [mirrored.body]
  rfl

theorem part_red : arena.part .red = (arena.part .blue).halfTurned arena.grid := by
  rw [part_blue mirrored bare, Part.halfTurned_halfTurned]

variable (sized : 1 ≤ arena.config.gridSize)

include sized

theorem after_blue :
    (arena.part .blue).after arena.grid arena.config (arena.part .red) =
      ((arena.part .red).after arena.grid arena.config (arena.part .blue)).halfTurned
        arena.grid := by
  rw [← Part.after_halfTurned arena.grid sized, ← part_blue mirrored bare, ← part_red mirrored bare]

theorem blocked_blue :
    (arena.part .blue).blocked arena.grid arena.config (arena.part .red) =
      (arena.part .red).blocked arena.grid arena.config (arena.part .blue) := by
  rw [← Part.blocked_halfTurned arena.grid sized arena.config (arena.part .red),
    ← part_blue mirrored bare, ← part_red mirrored bare]

theorem agentAfter_blue :
    arena.agentAfter .blue = (arena.agentAfter .red).halfTurned arena.grid := by
  simp only [agentAfter, mind_blue mirrored bare, Side.other, after_blue mirrored bare sized]
  rfl

theorem reportAfter_blue :
    arena.reportAfter .blue = (arena.reportAfter .red).halfTurned arena.grid := by
  simp only [reportAfter, agentAfter_blue mirrored bare sized, mind_blue mirrored bare, Side.other,
    blocked_blue mirrored bare sized]
  rfl

end Resolution

theorem Mirrored.commit {arena : Arena} (mirrored : Mirrored arena) : Mirrored arena.commit := by
  show arena.blue.commit = arena.red.commit.halfTurned arena.grid
  rw [mirrored]
  rfl

section Step

variable {arena : Arena} {played : Played} (turn : arena.nextTurn = .ok played)
  (apart : arena.cell .red ≠ arena.cell .blue) (mirrored : Mirrored arena)
  (bare : arena.barrels = .empty) (sized : 1 ≤ arena.config.gridSize)

include turn apart mirrored bare sized

theorem mirrored_nextTurn : Mirrored played.arena := by
  have sameGrid := grid_nextTurn turn
  obtain ⟨-, rfl⟩ := nextTurn_eq_ok_iff.mp turn
  rw [mirrored_iff, sameGrid, agent_resolve (apart_commit apart),
    agent_resolve (apart_commit apart)]
  exact agentAfter_blue mirrored.commit bare sized

theorem report_nextTurn_blue :
    played.report.blue = played.report.red.halfTurned arena.grid := by
  obtain ⟨-, rfl⟩ := nextTurn_eq_ok_iff.mp turn
  rw [report_resolve (apart_commit apart)]
  exact reportAfter_blue mirrored.commit bare sized

end Step

/-! ### Whole matches -/

section Run

variable {arena : Arena} (placed : Placed arena) (sized : 1 ≤ arena.config.gridSize)
  (mirrored : Mirrored arena)

include placed sized mirrored

theorem mirrored_afterTurns {turns : Nat} (barren : BarrenFor arena turns) :
    Mirrored (arena.afterTurns turns) := by
  apply afterTurns_induction Mirrored mirrored
  intro earlier played early mirrored turn
  have apart := (placed_afterTurns placed sized earlier).next_apart
  have bare := barren earlier early
  exact mirrored_nextTurn turn apart mirrored bare (sized_afterTurns sized earlier)

theorem report_afterTurns_blue {turns : Nat} {played : Played}
    (barren : BarrenFor arena (turns + 1)) (turn : (arena.afterTurns turns).nextTurn = .ok played) :
    played.report.blue = played.report.red.halfTurned arena.grid := by
  have apart := (placed_afterTurns placed sized turns).next_apart
  have bare := barren turns (Nat.lt_succ_self turns)
  have mirrored := mirrored_afterTurns placed sized mirrored (barren.mono (Nat.le_succ turns))
  rw [← grid_afterTurns arena turns]
  exact report_nextTurn_blue turn apart mirrored bare (sized_afterTurns sized turns)

end Run

/-- Turned images of each other run out of fuel together. -/
theorem Mirrored.outcome {arena : Arena} {outcome : Outcome} (mirrored : Mirrored arena)
    (isOver : (Match.mk arena).outcome? = some outcome) : outcome = .draw ∨ outcome = .timeout := by
  have together : arena.blue.body.isDead = arena.red.body.isDead := by
    rw [mirrored.body]
    rfl
  unfold Match.outcome? Arena.outcome? at isOver
  simp only [together] at isOver
  cases dead : arena.red.body.isDead with
  | true =>
      simp only [dead, Option.some_or, Option.some.injEq] at isOver
      exact .inl isOver.symm
  | false =>
      simp only [dead, Option.none_or, Option.ite_none_right_eq_some, Option.some.injEq] at isOver
      exact .inr isOver.2.symm

theorem mirrored_start (config : Config) (program : Program) (barrels : CellSet)
    (random : Random) : Mirrored { setUp config program program with barrels, random } := by
  simp only [Mirrored, setUp, Agent.halfTurned, Body.halfTurned, Stance.halfTurned, Body.atRest,
    Grid.halfTurn, Int.sub_zero]
  rfl

/-- Two robots that run the same program stay turned images of each other as long as no barrel is on
the field, which is so if there is none at the start and every roll fails, as it does with
probability zero. If that lasts for the whole match, neither robot wins. -/
theorem same_program_never_wins {config : Config} (valid : config.Valid) (program : Program) :
    ∃ arena events, Arena.start config program program = .ok (arena, events) ∧
      (∀ turns, config.initialBarrels = 0 → UnluckyFor arena turns →
        BarrenFor arena (turns + 1)) ∧
      (∀ turns, (config.spawnChance == 0) = true → UnluckyFor arena turns) ∧
      (∀ turns, BarrenFor arena turns → Mirrored (arena.afterTurns turns)) ∧
      (∀ turns, BarrenFor arena (turns + 1) →
        ∀ played, (arena.afterTurns turns).nextTurn = .ok played →
          played.report.blue = played.report.red.halfTurned ⟨config.gridSize⟩) ∧
      (BarrenFor arena config.maxTicks →
        ∃ result events, (Match.mk arena).run = .ok (result, events) ∧
          (result.outcome = .draw ∨ result.outcome = .timeout)) := by
  obtain ⟨barrels, random, events, started⟩ := start_of_valid valid program program
  have placed := placed_start valid program program barrels random
  have mirrored := mirrored_start config program barrels random
  have sized : 1 ≤ config.gridSize := Int.le_trans (by decide) valid.two_le_gridSize
  -- All that matters of the start from here on is its configuration, its placement and its symmetry.
  have sameConfig : { setUp config program program with barrels, random }.config = config := rfl
  generalize ({ setUp config program program with barrels, random } : Arena) = arena
    at started placed mirrored sameConfig
  subst sameConfig
  refine ⟨arena, events, started, ?_, ?_, ?_, ?_, ?_⟩
  · intro turns none unlucky
    exact barrenFor_of_unluckyFor placed sized unlucky (barrels_start started none)
  · intro turns zero
    exact unluckyFor_of_spawnChance zero turns
  · intro turns barren
    exact mirrored_afterTurns placed sized mirrored barren
  · intro turns barren played turn
    exact report_afterTurns_blue placed sized mirrored barren turn
  · intro barren
    obtain ⟨turns, result, events, within, ran, isOver⟩ := Match.run_ends ⟨arena⟩
    have ended := mirrored_afterTurns placed sized mirrored
      (barren.mono (Nat.le_trans within (Nat.sub_le _ _)))
    exact ⟨result, events, ran, ended.outcome isOver⟩

/-- A short match without barrels around a centre cell. -/
def calm : Config := { gridSize := 5, spawnChance := 0, initialBarrels := 0, maxTicks := 25 }

theorem same_program_never_wins_of_calm :
    calm.Valid ∧ calm.initialBarrels = 0 ∧ (calm.spawnChance == 0) = true ∧
      ∃ arena events,
        Arena.start calm Prebuilt.fallback Prebuilt.fallback = .ok (arena, events) ∧
        BarrenFor arena calm.maxTicks ∧ Mirrored (arena.afterTurns calm.maxTicks) ∧
        ∃ result events, (Match.mk arena).run = .ok (result, events) ∧
          (result.outcome = .draw ∨ result.outcome = .timeout) := by
  have valid : calm.Valid := by
    unfold Config.Valid
    decide +kernel
  have zero : (calm.spawnChance == 0) = true := by decide +kernel
  obtain ⟨arena, events, started, barrenFor, unluckyFor, mirrored, -, fair⟩ :=
    same_program_never_wins valid Prebuilt.fallback
  have barren : BarrenFor arena calm.maxTicks :=
    (barrenFor calm.maxTicks rfl (unluckyFor calm.maxTicks zero)).mono (Nat.le_succ _)
  exact ⟨valid, rfl, zero, arena, events, started, barren, mirrored _ barren, fair barren⟩

end FuelDuel.Arena
