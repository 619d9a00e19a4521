import FuelDuel.Arena.Basic
import FuelDuel.Proofs.ActionSlot

/-!
One tick, robot by robot. Red's decision is carried out before blue's, but a decision reads nothing
that the other one writes: it reads both robots' current stances, and writes the target of its own
robot, the loss of the opponent and the barrel under its own robot. So what a tick makes of a robot
is the same function for both sides (`Part.after`), of the robot's part in the tick and of the
opponent's (`agent_resolve`).

Programs on their views never use the action slot twice, so thinking always comes to a thought
(`Agent.think_eq`), and a tick is played exactly if the match is undecided (`nextTurn_eq_ok_iff`).
Every playable configuration has a start (`start_of_valid`), and what each tick keeps holds after
any number of them (`afterTurns_induction`).
-/

namespace FuelDuel.Arena

open FuelDuel.Execution
open FuelDuel.Language
open FuelDuel.World

/-! ### Decisions -/

/-- One robot's part in a tick: its body before anybody has acted, its decision, and whether it
finds a barrel on its cell. -/
structure Part where
  body : Body
  decision : Decision
  onBarrel : Bool

namespace Part

section Intentions

variable (grid : Grid) (part : Part)

/-- The cell that the robot faces; its own cell if a wall is there. -/
def ahead : Cell := grid.step part.body.current.pos part.body.current.dir

/-- The cell that the robot wants. -/
def goal : Cell :=
  if part.decision.action = some .move then part.ahead grid else part.body.target.pos

/-- The facing that the robot wants. -/
def facing : Direction :=
  match part.decision.action with
  | some (.turn way) => part.body.current.dir.turned way
  | _ => part.body.target.dir

/-- Whether the robot reaches for fuel. -/
def takes : Bool := part.decision.action = some .takeFuel

end Intentions

variable (grid : Grid) (config : Config) (me other : Part)

/-- Whether the robot siphons fuel from its opponent. -/
def siphons : Bool :=
  me.takes && (!other.body.current.shield && me.ahead grid = other.body.current.pos)

/-- The fuel of the robot once it has taken the barrel on its cell. -/
def filled : Int := if me.takes && me.onBarrel then config.maxFuel else me.body.target.fuel

/-- The fuel of the robot once it has also siphoned fuel from its opponent. -/
def fuel : Int :=
  if me.siphons grid other then
    min (me.filled config + other.body.extractable config.maxFuel) config.maxFuel
  else me.filled config

/-- The stance that the robot wants. -/
def aim : Stance :=
  ⟨me.goal grid, me.facing, me.fuel grid config other,
    me.decision.shield.getD me.body.target.shield⟩

/-- The fuel that the robot loses to its opponent. -/
def loss : Int :=
  if other.siphons grid me then me.body.extractable config.maxFuel else me.body.stolen

/-- The body once both robots have acted. -/
def acted : Body :=
  { me.body with target := me.aim grid config other, stolen := me.loss grid config other }

/-- The body once the robot has moved, if it can. -/
def moved : Body := (resolveMove (me.acted grid config other) (other.acted grid config me)).1

/-- Whether the opponent is in the way of the robot. -/
def blocked : Bool := (resolveMove (me.acted grid config other) (other.acted grid config me)).2

/-- The body after the tick. -/
def after : Body := (me.moved grid config other).charge config

end Part

/-- The barrels once a robot has reached for fuel. -/
def CellSet.reachedBy (barrels : CellSet) (part : Part) : CellSet :=
  if part.takes then barrels.erase part.body.current.pos else barrels

theorem CellSet.erase_of_not_contains {barrels : CellSet} {cell : Cell}
    (absent : barrels.contains cell = false) : barrels.erase cell = barrels := by
  have missing : cell ∉ barrels.cells := by simpa [CellSet.contains] using absent
  simp [CellSet.erase, List.erase_of_not_mem missing]

theorem CellSet.contains_erase_of_ne {barrels : CellSet} {cell other : Cell}
    (apart : other ≠ cell) :
    (barrels.erase cell).contains other = barrels.contains other := by
  rw [Bool.eq_iff_iff]
  simp [CellSet.contains, CellSet.mem_erase, apart]

namespace Scene

variable (grid : Grid) (config : Config) (barrels : CellSet)

theorem takeBarrel_eq (me other : Body) :
    takeBarrel config ⟨barrels, me, other⟩ =
      ⟨barrels.erase me.current.pos,
        { me with
          target.fuel :=
            if barrels.contains me.current.pos then config.maxFuel else me.target.fuel },
        other⟩ := by
  unfold takeBarrel
  cases found : barrels.contains me.current.pos with
  | false => simp [found, CellSet.erase_of_not_contains]
  | true => simp

theorem siphon_eq (me other : Body) :
    siphon grid config ⟨barrels, me, other⟩ =
      let near := !other.current.shield &&
        decide (grid.step me.current.pos me.current.dir = other.current.pos)
      let amount := other.extractable config.maxFuel
      ⟨barrels,
        { me with
          target.fuel :=
            if near then min (me.target.fuel + amount) config.maxFuel else me.target.fuel },
        { other with stolen := if near then amount else other.stolen }⟩ := by
  simp only [siphon]
  split <;> rfl

/-- A decision writes the target of its robot, the loss of the opponent, and the barrel under the
robot. -/
theorem carryOut_eq (me other : Part)
    (found : me.onBarrel = barrels.contains me.body.current.pos) :
    carryOut grid config me.decision ⟨barrels, me.body, other.body⟩ =
      ⟨barrels.reachedBy me, { me.body with target := me.aim grid config other },
        { other.body with stolen := other.loss grid config me }⟩ := by
  obtain ⟨body, ⟨action, shield⟩, onBarrel⟩ := me
  obtain rfl : onBarrel = barrels.contains body.current.pos := found
  have shielded : (shield.map (Scene.setShield ⟨barrels, body, other.body⟩)).getD
      ⟨barrels, body, other.body⟩ =
        ⟨barrels, { body with target.shield := shield.getD body.target.shield }, other.body⟩ := by
    cases shield <;> rfl
  rw [carryOut, shielded]
  cases action with
  | none => rfl
  | some action =>
      cases action with
      | move => rfl
      | turn way => rfl
      | wait => rfl
      | takeFuel =>
          show siphon grid config (takeBarrel config _) = _
          rw [takeBarrel_eq, siphon_eq]
          rfl

end Scene

/-! ### Moves -/

/-- A robot that wants another cell gets it, unless the opponent stands there or wants it too. -/
theorem resolveMove_fst (me other : Body) :
    (resolveMove me other).1 =
      if me.target.pos = me.current.pos ∨ me.target.pos = other.target.pos ∨
          me.target.pos = other.current.pos then me
      else { me with nextPos := me.target.pos } := by
  by_cases still : me.target.pos = me.current.pos
  · simp [resolveMove, Body.isMoving, still]
  · have moving : me.isMoving = true := by simpa [Body.isMoving] using Ne.symm still
    simp only [resolveMove, moving, still, Bool.not_true, Bool.false_eq_true, if_false, false_or,
      Bool.or_eq_true, decide_eq_true_eq]
    split <;> rfl

/-- Moving changes nothing but the cell of the next tick. -/
theorem resolveMove_frame (me other : Body) :
    ∃ nextPos, (resolveMove me other).1 = { me with nextPos } := by
  unfold resolveMove
  split
  · exact ⟨_, rfl⟩
  · split
    · exact ⟨_, rfl⟩
    · exact ⟨_, rfl⟩

/-- Whether a robot can move does not depend on whether its opponent has moved. -/
theorem resolveMove_moved (me other third : Body) :
    resolveMove me (resolveMove other third).1 = resolveMove me other := by
  obtain ⟨nextPos, moved⟩ := resolveMove_frame other third
  rw [moved]
  rfl

namespace Part

variable (grid : Grid) (config : Config) (me other : Part)

theorem after_current : (me.after grid config other).current = me.body.current := by
  obtain ⟨nextPos, same⟩ :=
    resolveMove_frame (me.acted grid config other) (other.acted grid config me)
  rw [after, moved, same]
  rfl

theorem after_nextPos :
    (me.after grid config other).nextPos =
      if me.goal grid = me.body.current.pos ∨ me.goal grid = other.goal grid ∨
          me.goal grid = other.body.current.pos then me.body.nextPos
      else me.goal grid := by
  rw [after, moved, resolveMove_fst]
  exact apply_ite Body.nextPos _ _ _

end Part

/-! ### Thoughts -/

namespace Agent

/-- What comes of thinking, and the agent after it. -/
def thought (agent : Agent) (perception : Perception) : Thought × Agent :=
  match execute agent.program { readings := perception.readings, vars := agent.vars : View } with
  | .ok rest view =>
      ({ decision := view.decision }, { agent with program := rest, vars := view.vars })
  | .error fault view =>
      ({ fault := some fault.message }, agent.halted view.vars fault.message)

/-- Thinking comes to a thought, and the side for which an agent plays makes no difference. -/
theorem think_eq (side : Side) (agent : Agent) (perception : Perception) :
    agent.think side perception = .ok (agent.thought perception) := by
  unfold think thought
  cases ran : execute agent.program
      { readings := perception.readings, vars := agent.vars : View } with
  | ok rest view => rfl
  | error fault view =>
      have unused := ((slotRules_of_steady agent.program _).fault rfl fault view ran).2.2.2
      cases fault with
      | slotUsed attempted performed => exact absurd rfl (unused attempted performed)
      | divisionByZero => rfl
      | stepLimit limit => rfl
      | unanswered reading => rfl

theorem thought_body (agent : Agent) (perception : Perception) :
    (agent.thought perception).2.body = agent.body := by
  unfold thought
  split <;> rfl

end Agent

/-! ### The tick -/

theorem Side.eq_other_of_ne {any side : Side} (apart : any ≠ side) : any = side.other := by
  cases any with
  | red =>
      cases side with
      | red => exact absurd rfl apart
      | blue => rfl
  | blue =>
      cases side with
      | red => rfl
      | blue => exact absurd rfl apart

theorem Side.other_other (side : Side) : side.other.other = side := by
  cases side <;> rfl

/-- What comes of a side's thinking, and its agent after it. -/
def mind (arena : Arena) (side : Side) : Thought × Agent :=
  (arena.agent side).thought
    (.capture arena.grid arena.barrels (arena.agent side).body (arena.agent side.other).body)

/-- Both agents with their thoughts. -/
def minds (arena : Arena) : Thinking :=
  { red := (arena.mind .red).2
    redThought := (arena.mind .red).1
    blue := (arena.mind .blue).2
    blueThought := (arena.mind .blue).1 }

theorem think_eq (arena : Arena) : arena.think = .ok arena.minds := by
  unfold think
  simp only [Agent.think_eq]
  rfl

/-- A side's part in a tick. -/
def part (arena : Arena) (side : Side) : Part :=
  { body := (arena.agent side).body
    decision := (arena.mind side).1.decision
    onBarrel := arena.barrels.contains (arena.agent side).body.current.pos }

/-- The agent of a side after a tick. -/
def agentAfter (arena : Arena) (side : Side) : Agent :=
  { (arena.mind side).2 with
    body := (arena.part side).after arena.grid arena.config (arena.part side.other) }

/-- The report of a side on a tick. -/
def reportAfter (arena : Arena) (side : Side) : RobotReport :=
  robotReport (arena.agentAfter side).body (arena.mind side).1
    ((arena.part side).blocked arena.grid arena.config (arena.part side.other))

/-- The report on a tick that ended in the given arena. -/
def tickReport (arena after : Arena) : TickReport :=
  { tick := arena.tick + 1
    red := arena.reportAfter .red
    blue := arena.reportAfter .blue
    barrels := after.barrels.size }

/-- A barrel that appears changes the barrels and the random source only. -/
theorem spawnBarrel_frame (arena : Arena) :
    ∃ barrels random, arena.spawnBarrel.1 = { arena with barrels, random } := by
  unfold spawnBarrel
  split
  · exact ⟨_, _, rfl⟩
  · exact ⟨_, _, rfl⟩

theorem maybeSpawn_of_lucky {arena : Arena}
    (lucky : (arena.random.chance arena.config.spawnChance).1 = true) :
    arena.maybeSpawn = { arena with random := arena.random.advance }.spawnBarrel := by
  simp only [maybeSpawn, lucky, if_true]
  rfl

/-- A draw without success moves the random source on and changes nothing else. -/
theorem maybeSpawn_of_unlucky {arena : Arena}
    (unlucky : (arena.random.chance arena.config.spawnChance).1 = false) :
    arena.maybeSpawn = ({ arena with random := arena.random.advance }, []) := by
  simp only [maybeSpawn, unlucky, Bool.false_eq_true, if_false]
  rfl

theorem barrels_maybeSpawn_of_unlucky {arena : Arena}
    (unlucky : (arena.random.chance arena.config.spawnChance).1 = false) :
    arena.maybeSpawn.1.barrels = arena.barrels := by
  simp only [maybeSpawn_of_unlucky unlucky]

theorem maybeSpawn_frame (arena : Arena) :
    ∃ barrels random, arena.maybeSpawn.1 = { arena with barrels, random } := by
  cases lucky : (arena.random.chance arena.config.spawnChance).1 with
  | true =>
      rw [maybeSpawn_of_lucky lucky]
      exact spawnBarrel_frame _
  | false =>
      rw [maybeSpawn_of_unlucky lucky]
      exact ⟨_, _, rfl⟩

/-- The arena at another tick. It is named because a comparison of two updated arenas compares their
other fields first, random draws included. -/
def atTick (arena : Arena) (tick : Nat) : Arena := { arena with tick }

theorem barrels_atTick (arena : Arena) (tick : Nat) : (arena.atTick tick).barrels = arena.barrels :=
  rfl

theorem arena_resolve (arena : Arena) (thinking : Thinking) :
    (arena.resolve thinking).arena =
      (arena.charged thinking).maybeSpawn.1.atTick (arena.tick + 1) := by
  rw [resolve]
  rfl

theorem config_charged (arena : Arena) (thinking : Thinking) :
    (arena.charged thinking).config = arena.config := by
  rw [charged]

theorem random_charged (arena : Arena) (thinking : Thinking) :
    (arena.charged thinking).random = arena.random := by
  rw [charged]

theorem body_mind (arena : Arena) (side : Side) :
    (arena.mind side).2.body = (arena.agent side).body :=
  Agent.thought_body _ _

section Resolution

variable {arena : Arena} (apart : arena.red.body.current.pos ≠ arena.blue.body.current.pos)

include apart

theorem contains_reachedBy_red :
    (arena.barrels.reachedBy (arena.part .red)).contains arena.blue.body.current.pos =
      arena.barrels.contains arena.blue.body.current.pos := by
  unfold CellSet.reachedBy
  split
  · exact CellSet.contains_erase_of_ne apart.symm
  · rfl

/-- Whichever robot acts first, both act as if they were the first. -/
theorem actBoth_minds :
    arena.actBoth arena.minds =
      ⟨(arena.barrels.reachedBy (arena.part .red)).reachedBy (arena.part .blue),
        (arena.part .blue).acted arena.grid arena.config (arena.part .red),
        (arena.part .red).acted arena.grid arena.config (arena.part .blue)⟩ := by
  let red := arena.part .red
  let blue := arena.part .blue
  have redActed := Scene.carryOut_eq arena.grid arena.config arena.barrels red blue rfl
  have blueActed := Scene.carryOut_eq arena.grid arena.config (arena.barrels.reachedBy red)
    { blue with body.stolen := blue.loss arena.grid arena.config red }
    { red with body.target := red.aim arena.grid arena.config blue }
    (contains_reachedBy_red apart).symm
  simp only [actBoth, minds, body_mind]
  exact (congrArg (fun scene : Scene => Scene.carryOut arena.grid arena.config blue.decision
    ⟨scene.barrels, scene.other, scene.me⟩) redActed).trans blueActed

theorem moveBoth_minds :
    arena.moveBoth arena.minds =
      { barrels := (arena.barrels.reachedBy (arena.part .red)).reachedBy (arena.part .blue)
        red := ((arena.part .red).moved arena.grid arena.config (arena.part .blue),
          (arena.part .red).blocked arena.grid arena.config (arena.part .blue))
        blue := ((arena.part .blue).moved arena.grid arena.config (arena.part .red),
          (arena.part .blue).blocked arena.grid arena.config (arena.part .red)) } := by
  simp only [moveBoth, actBoth_minds apart, resolveMove_moved]
  rfl

theorem charged_minds :
    arena.charged arena.minds =
      { arena with
        barrels := (arena.barrels.reachedBy (arena.part .red)).reachedBy (arena.part .blue)
        red := arena.agentAfter .red
        blue := arena.agentAfter .blue } := by
  simp only [charged, moveBoth_minds apart]
  rfl

/-- What a tick makes of an agent is the same for both sides. -/
theorem agent_resolve (side : Side) :
    (arena.resolve arena.minds).arena.agent side = arena.agentAfter side := by
  obtain ⟨barrels, random, spawned⟩ := maybeSpawn_frame (arena.charged arena.minds)
  rw [arena_resolve, spawned, charged_minds apart]
  cases side <;> rfl

theorem report_resolve :
    (arena.resolve arena.minds).report =
      arena.tickReport (arena.resolve arena.minds).arena := by
  have frame := maybeSpawn_frame (arena.charged arena.minds)
  rw [resolve, moveBoth_minds apart]
  -- Whether a barrel appears is set aside: robots and reports are the same in both cases.
  generalize (arena.charged arena.minds).maybeSpawn = spawned at frame ⊢
  obtain ⟨barrels, random, same⟩ := frame
  rw [charged_minds apart] at same
  rw [same]
  rfl

end Resolution

/-! ### Playing a tick -/

theorem commit_agent (arena : Arena) (side : Side) :
    arena.commit.agent side = (arena.agent side).commit := by
  cases side <;> rfl

theorem apart_commit {arena : Arena}
    (apart : arena.red.body.nextPos ≠ arena.blue.body.nextPos) :
    arena.commit.red.body.current.pos ≠ arena.commit.blue.body.current.pos :=
  apart

theorem nextTurn_of_undecided {arena : Arena} (undecided : arena.outcome? = none) :
    arena.nextTurn = .ok (arena.commit.resolve arena.commit.minds) := by
  simp only [nextTurn, undecided, think_eq]
  rfl

theorem nextTurn_of_decided {arena : Arena} {outcome : Outcome}
    (decided : arena.outcome? = some outcome) : arena.nextTurn = .error (.finished outcome) := by
  simp only [nextTurn, decided]

/-- A tick is played on the arena with last tick's targets committed. -/
theorem nextTurn_eq_ok_iff {arena : Arena} {played : Played} :
    arena.nextTurn = .ok played ↔
      arena.outcome? = none ∧ played = arena.commit.resolve arena.commit.minds := by
  cases decided : arena.outcome? with
  | none => simp [nextTurn_of_undecided decided, eq_comm]
  | some outcome => simp [nextTurn_of_decided decided]

theorem nextTurn_eq_error_iff {arena : Arena} {refusal : Refusal} :
    arena.nextTurn = .error refusal ↔
      ∃ outcome, arena.outcome? = some outcome ∧ refusal = .finished outcome := by
  cases decided : arena.outcome? with
  | none => simp [nextTurn_of_undecided decided]
  | some outcome => simp [nextTurn_of_decided decided, eq_comm]

theorem config_nextTurn {arena : Arena} {played : Played} (turn : arena.nextTurn = .ok played) :
    played.arena.config = arena.config := by
  obtain ⟨-, rfl⟩ := nextTurn_eq_ok_iff.mp turn
  obtain ⟨barrels, random, spawned⟩ := maybeSpawn_frame (arena.commit.charged arena.commit.minds)
  rw [arena_resolve, spawned]
  rfl

theorem grid_nextTurn {arena : Arena} {played : Played} (turn : arena.nextTurn = .ok played) :
    played.arena.grid = arena.grid := by
  rw [grid, config_nextTurn turn]
  rfl

theorem tick_nextTurn {arena : Arena} {played : Played} (turn : arena.nextTurn = .ok played) :
    played.arena.tick = arena.tick + 1 := by
  obtain ⟨-, rfl⟩ := nextTurn_eq_ok_iff.mp turn
  rw [arena_resolve]
  rfl

/-! ### The start -/

/-- The barrels of the first tick leave everything else as it was set up. -/
theorem spawnBarrels_frame (count : Nat) (arena : Arena) :
    ∃ barrels random, (spawnBarrels count arena).1 = { arena with barrels, random } := by
  induction count generalizing arena with
  | zero => exact ⟨_, _, rfl⟩
  | succ count ih =>
      obtain ⟨barrels, random, spawned⟩ := spawnBarrel_frame arena
      obtain ⟨laterBarrels, laterRandom, later⟩ := ih arena.spawnBarrel.1
      refine ⟨laterBarrels, laterRandom, ?_⟩
      show (spawnBarrels count arena.spawnBarrel.1).1 = _
      rw [later, spawned]

theorem start_of_valid {config : Config} (valid : config.Valid) (red blue : Program) :
    ∃ barrels random events, Arena.start config red blue =
      .ok ({ setUp config red blue with barrels, random }, events) := by
  obtain ⟨barrels, random, spawned⟩ :=
    spawnBarrels_frame config.initialBarrels (setUp config red blue)
  have playable : config.invalid? = none := valid
  refine ⟨barrels, random, (spawnBarrels config.initialBarrels (setUp config red blue)).2, ?_⟩
  rw [start, playable, ← spawned]

theorem barrels_start {config : Config} {red blue : Program} {arena : Arena} {events : List Event}
    (started : Arena.start config red blue = .ok (arena, events))
    (none : config.initialBarrels = 0) : arena.barrels = .empty := by
  unfold start at started
  rw [none] at started
  split at started
  · cases started
  · cases started
    rfl

/-! ### Many ticks -/

/-- The arena after the next turn; a decided match stays as it is. -/
def advance (arena : Arena) : Arena :=
  match arena.nextTurn with
  | .ok played => played.arena
  | .error _ => arena

/-- The arena after a number of turns. -/
def afterTurns (arena : Arena) : (turns : Nat) → Arena
  | 0 => arena
  | turns + 1 => (arena.afterTurns turns).advance

theorem advance_of_ok {arena : Arena} {played : Played} (turn : arena.nextTurn = .ok played) :
    arena.advance = played.arena := by
  rw [advance, turn]

/-- The turns of a match, counted from its second turn on. -/
theorem afterTurns_advance (arena : Arena) (turns : Nat) :
    arena.advance.afterTurns turns = arena.afterTurns (turns + 1) := by
  induction turns with
  | zero => rfl
  | succ turns ih => rw [afterTurns, ih, ← afterTurns]

/-- What each of the first turns keeps holds after them. -/
theorem afterTurns_induction {arena : Arena} (holds : Arena → Prop) {turns : Nat}
    (start : holds arena)
    (keeps : ∀ {earlier : Nat} {played : Played}, earlier < turns →
      holds (arena.afterTurns earlier) → (arena.afterTurns earlier).nextTurn = .ok played →
        holds played.arena) : holds (arena.afterTurns turns) := by
  induction turns with
  | zero => exact start
  | succ turns ih =>
      have before := ih fun early => keeps (Nat.lt_succ_of_lt early)
      rw [afterTurns, advance]
      cases turn : (arena.afterTurns turns).nextTurn with
      | ok played => exact keeps (Nat.lt_succ_self turns) before turn
      | error refusal => exact before

theorem config_afterTurns (arena : Arena) (turns : Nat) :
    (arena.afterTurns turns).config = arena.config := by
  apply afterTurns_induction (fun later => later.config = arena.config) rfl
  rintro earlier played - same turn
  exact (config_nextTurn turn).trans same

theorem grid_afterTurns (arena : Arena) (turns : Nat) :
    (arena.afterTurns turns).grid = arena.grid := by
  rw [grid, config_afterTurns]
  rfl

end FuelDuel.Arena
