import FuelDuel.Arena.Agent
import FuelDuel.Arena.Random

/-!
The arena and its ticks. A tick starts by making last tick's targets current. Then both agents think
on what they perceive at that moment, red's decision and blue's decision are carried out, moves onto
a cell that the opponent holds or wants are blocked, both robots pay for the tick, and a barrel may
appear.
-/

namespace FuelDuel

open FuelDuel.Arena
open FuelDuel.Language
open FuelDuel.World

/-- Everything that a match consists of between two ticks. -/
structure Arena where
  config : Config
  barrels : CellSet
  random : Random
  red : Agent
  blue : Agent
  /-- The number of ticks that have been played. -/
  tick : Nat

namespace Arena

/-! ### Carrying out decisions -/

/-- The barrels, the robot that acts and its opponent. -/
structure Scene where
  barrels : CellSet
  me : Body
  other : Body
  deriving DecidableEq

namespace Scene

/-- Takes the barrel on the robot's own cell, which fills its tank. -/
def takeBarrel (config : Config) (scene : Scene) : Scene :=
  if scene.barrels.contains scene.me.current.pos then
    { scene with
      barrels := scene.barrels.erase scene.me.current.pos
      me.target.fuel := config.maxFuel }
  else scene

/-- Siphons fuel from an opponent on the cell ahead whose shield is down. The robot's tank holds no
more than a full tank; what does not fit is lost. -/
def siphon (grid : Grid) (config : Config) (scene : Scene) : Scene :=
  let ahead := grid.step scene.me.current.pos scene.me.current.dir
  if !scene.other.current.shield && ahead = scene.other.current.pos then
    let amount := scene.other.extractable config.maxFuel
    { scene with
      other.stolen := amount
      me.target.fuel := min (scene.me.target.fuel + amount) config.maxFuel }
  else scene

/-- Carries out an action. -/
def act (grid : Grid) (config : Config) (scene : Scene) : Execution.Action → Scene
  | .move =>
      { scene with me.target.pos := grid.step scene.me.current.pos scene.me.current.dir }
  | .turn way => { scene with me.target.dir := scene.me.current.dir.turned way }
  | .takeFuel => (scene.takeBarrel config).siphon grid config
  | .wait => scene

/-- Sets the shield. -/
def setShield (scene : Scene) (on : Bool) : Scene := { scene with me.target.shield := on }

/-- Carries out a decision. -/
def carryOut (grid : Grid) (config : Config) (decision : Decision) (scene : Scene) : Scene :=
  let shielded := (decision.shield.map scene.setShield).getD scene
  (decision.action.map (shielded.act grid config)).getD shielded

end Scene

/-- Lets a robot go to the cell it wants, unless that is the cell the opponent stands on or wants.
Gives whether the robot was blocked. -/
def resolveMove (me other : Body) : Body × Bool :=
  if !me.isMoving then (me, false)
  else if me.target.pos = other.target.pos || me.target.pos = other.current.pos then (me, true)
  else ({ me with nextPos := me.target.pos }, false)

/-- The log event of a blocked move. -/
def blockEvents (me : Body) (blocked : Bool) : List Event :=
  if blocked then [.moveBlocked me.target.pos] else []

/-! ### The arena -/

/-- The grid of the arena. -/
def grid (arena : Arena) : Grid := ⟨arena.config.gridSize⟩

/-- The agent of a side. -/
def agent (arena : Arena) : Side → Agent
  | .red => arena.red
  | .blue => arena.blue

/-- Replaces the agent of a side. -/
def setAgent (arena : Arena) (side : Side) (agent : Agent) : Arena :=
  match side with
  | .red => { arena with red := agent }
  | .blue => { arena with blue := agent }

/-- Puts a barrel on a cell by hand, if the cell lies in the arena and has none. Gives whether a
barrel was put there. -/
def placeBarrel (arena : Arena) (cell : Cell) : Bool × Arena :=
  if arena.grid.contains cell && !arena.barrels.contains cell then
    (true, { arena with barrels := arena.barrels.insert cell })
  else (false, arena)

/-- Takes all barrels away. -/
def clearBarrels (arena : Arena) : Arena := { arena with barrels := .empty }

/-- The outcome, once a robot is out of fuel. -/
def outcome? (arena : Arena) : Option Outcome :=
  match arena.red.body.isDead, arena.blue.body.isDead with
  | false, false => none
  | true, true => some .draw
  | false, true => some .redWins
  | true, false => some .blueWins

/-- The cells on which a robot stands or is about to stand. -/
def robotCells (arena : Arena) : List Cell :=
  [arena.red.body.current.pos, arena.red.body.nextPos, arena.blue.body.current.pos,
    arena.blue.body.nextPos]

/-- The cells with a barrel or a robot, row by row. -/
def takenCells (arena : Arena) : List Cell :=
  (arena.robotCells.foldl CellSet.insert arena.barrels).cells

/-- The cells with neither a barrel nor a robot, row by row. -/
def freeCells (arena : Arena) : List Cell := CellSet.without arena.grid.cells arena.takenCells

/-- Puts a barrel on a random free cell. Nothing is drawn if there is none. -/
def spawnBarrel (arena : Arena) : Arena × List Event :=
  match arena.freeCells with
  | [] => (arena, [])
  | first :: others =>
      let (index, random) := arena.random.below (others.length + 1)
      let cell := (first :: others).getD index first
      ({ arena with barrels := arena.barrels.insert cell, random }, [.barrelSpawned cell])

/-- Puts barrels on random free cells, one after the other. -/
def spawnBarrels : Nat → Arena → Arena × List Event
  | 0, arena => (arena, [])
  | count + 1, arena =>
      let (arena, events) := arena.spawnBarrel
      let (arena, later) := spawnBarrels count arena
      (arena, events ++ later)

/-- The arena before the first barrel: red in the north-west corner facing south, blue in the
south-east corner facing north, both with full tanks. -/
def setUp (config : Config) (red blue : Program) : Arena :=
  let far := (Grid.mk config.gridSize).far
  { config
    barrels := .empty
    random := .ofSeed config.seed
    red := { body := .atRest ⟨0, 0⟩ .south config.maxFuel, program := red }
    blue := { body := .atRest ⟨far, far⟩ .north config.maxFuel, program := blue }
    tick := 0 }

/-- The arena at the start of a match, if the configuration can be played. -/
def start (config : Config) (red blue : Program) :
    Except Config.Invalid (Arena × List Event) :=
  match config.invalid? with
  | some reason => .error reason
  | none => .ok (spawnBarrels config.initialBarrels (setUp config red blue))

/-! ### Ticks -/

/-- A tick that was played: its report, the arena after it, and what was logged. -/
structure Played where
  report : TickReport
  arena : Arena
  events : List Event

/-- Both agents with their thoughts. -/
structure Thinking where
  red : Agent
  redThought : Thought
  blue : Agent
  blueThought : Thought

/-- Makes the targets of the last tick current. -/
def commit (arena : Arena) : Arena :=
  { arena with red := arena.red.commit, blue := arena.blue.commit }

/-- Lets both agents think on what they perceive now. -/
def think (arena : Arena) : Except Refusal Thinking := do
  let perceive := Perception.capture arena.grid arena.barrels
  let (redThought, red) ← arena.red.think .red (perceive arena.red.body arena.blue.body)
  let (blueThought, blue) ← arena.blue.think .blue (perceive arena.blue.body arena.red.body)
  return { red, redThought, blue, blueThought }

/-- Lets a barrel appear with the configured probability. -/
def maybeSpawn (arena : Arena) : Arena × List Event :=
  let (lucky, random) := arena.random.chance arena.config.spawnChance
  let arena := { arena with random }
  if lucky then arena.spawnBarrel else (arena, [])

/-- One robot's part of the report. -/
def robotReport (body : Body) (thought : Thought) (blocked : Bool) : RobotReport :=
  { action := thought.decision.action
    shield := body.target.shield
    start := body.current.pos
    stop := body.nextPos
    facing := body.target.dir
    fuel := body.settledFuel
    blocked
    fault := thought.fault }

/-- The barrels and both bodies once both agents have acted, red first. Blue's robot is the one that
acted last. -/
def actBoth (arena : Arena) (thinking : Thinking) : Scene :=
  let redActed := Scene.carryOut arena.grid arena.config thinking.redThought.decision
    ⟨arena.barrels, thinking.red.body, thinking.blue.body⟩
  Scene.carryOut arena.grid arena.config thinking.blueThought.decision
    ⟨redActed.barrels, redActed.other, redActed.me⟩

/-- The barrels, and both bodies with whether they were blocked. -/
structure Moved where
  barrels : CellSet
  red : Body × Bool
  blue : Body × Bool

/-- Lets both robots act and move. -/
def moveBoth (arena : Arena) (thinking : Thinking) : Moved :=
  let acted := arena.actBoth thinking
  let red := resolveMove acted.other acted.me
  { barrels := acted.barrels
    red
    blue := resolveMove acted.me red.1 }

/-- The arena once both robots have acted, moved and paid. -/
def charged (arena : Arena) (thinking : Thinking) : Arena :=
  let moved := arena.moveBoth thinking
  { arena with
    barrels := moved.barrels
    red := { thinking.red with body := moved.red.1.charge arena.config }
    blue := { thinking.blue with body := moved.blue.1.charge arena.config } }

/-- Carries out what both agents have decided and resolves the tick. -/
def resolve (arena : Arena) (thinking : Thinking) : Played :=
  let moved := arena.moveBoth thinking
  let spawned := (arena.charged thinking).maybeSpawn
  let after := { spawned.1 with tick := arena.tick + 1 }
  let report : TickReport :=
    { tick := after.tick
      red := robotReport after.red.body thinking.redThought moved.red.2
      blue := robotReport after.blue.body thinking.blueThought moved.blue.2
      barrels := after.barrels.size }
  { report
    arena := after
    events := thinking.redThought.events .red ++ thinking.blueThought.events .blue ++
      blockEvents moved.red.1 moved.red.2 ++ blockEvents moved.blue.1 moved.blue.2 ++ spawned.2 ++
      [.tickResolved report] }

/-- Plays one tick, unless the match is decided. -/
def nextTurn (arena : Arena) : Except Refusal Played :=
  match arena.outcome? with
  | some outcome => .error (.finished outcome)
  | none =>
      let current := arena.commit
      current.think.map current.resolve

end Arena

end FuelDuel
