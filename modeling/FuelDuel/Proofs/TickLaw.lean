import FuelDuel.Proofs.BarrelLedger
import FuelDuel.Proofs.Reachable

/-!
The law of a tick, in terms of what is reported. A robot that has moved wants the cell ahead, if
that cell is inside the arena, and every other robot wants its own cell (`wish`). It gets the cell
unless the opponent stands there or wants it too. Its price depends on the shield that was up when
the tick started, on its wish, whether or not it came true, and on its action (`TickLaw`).

The tick itself never asks for the action when it moves and charges a robot. It compares the cell
and the facing that the robot aims at with those it has. So a move into a wall is no move, and for
turns it matters that each of them changes the facing (`Direction.turned_ne`).
-/

namespace FuelDuel.Arena

open FuelDuel.Execution
open FuelDuel.Language

/-- The stance with which a robot starts the next tick. -/
def stance (arena : Arena) (side : Side) : Stance := (arena.commit.agent side).body.current

/-- The cell one step along the facing of a robot, which may be outside of the arena. -/
def ahead (arena : Arena) (side : Side) : Cell :=
  (arena.stance side).pos.moved (arena.stance side).dir.delta

/-- The cell that a robot has wanted in a tick: the cell ahead, if it has moved and the cell is
inside the arena, and otherwise its own. -/
def wish (arena : Arena) (played : Played) (side : Side) : Cell :=
  if (played.report.robot side).action = some .move ∧
      arena.grid.contains (arena.ahead side) = true then arena.ahead side
  else (arena.stance side).pos

/-- The facing after an action. -/
def Direction.after (dir : Direction) : Option Action → Direction
  | some (.turn way) => dir.turned way
  | _ => dir

/-- The price of turning, if that is what the action does. -/
def turnPrice (config : Config) : Option Action → Int
  | some (.turn _) => config.turnCost
  | _ => 0

/-- What a tick has made of a robot. -/
structure TickLaw (arena : Arena) (played : Played) (side : Side) : Prop where
  /-- The robot ends the tick on the cell that it wants, if that is neither its own cell, nor the
  cell on which the opponent has started the tick, nor the cell that the opponent wants. -/
  stop : (played.report.robot side).stop =
    if arena.wish played side ≠ (arena.stance side).pos ∧
        arena.wish played side ≠ (arena.stance side.other).pos ∧
        arena.wish played side ≠ arena.wish played side.other then arena.wish played side
    else (arena.stance side).pos
  blocked : (played.report.robot side).blocked = true ↔
    arena.wish played side ≠ (arena.stance side).pos ∧
      (played.report.robot side).stop = (arena.stance side).pos
  facing : (played.report.robot side).facing =
    (arena.stance side).dir.after (played.report.robot side).action
  price : (played.arena.agent side).body.tickCost arena.config =
    arena.config.waitCost +
      (if (arena.stance side).shield then arena.config.shieldCost else 0) +
      (if arena.wish played side ≠ (arena.stance side).pos then arena.config.moveCost else 0) +
      turnPrice arena.config (played.report.robot side).action
  /-- The next tick starts with what is reported. -/
  onward : (played.arena.stance side).pos = (played.report.robot side).stop ∧
    (played.arena.stance side).dir = (played.report.robot side).facing

theorem Direction.turned_ne (dir : Direction) (way : Turn) : dir.turned way ≠ dir := by
  cases dir <;> cases way <;> decide

/-! ### One robot -/

/-- A robot is blocked if it wants another cell on which the opponent stands or which it wants. -/
theorem resolveMove_snd (me other : Body) :
    (resolveMove me other).2 = true ↔
      me.target.pos ≠ me.current.pos ∧
        (me.target.pos = other.target.pos ∨ me.target.pos = other.current.pos) := by
  by_cases still : me.target.pos = me.current.pos
  · simp [resolveMove, Body.isMoving, still]
  · have moving : me.isMoving = true := by simpa [Body.isMoving] using Ne.symm still
    simp only [resolveMove, moving, Bool.not_true, Bool.false_eq_true, if_false, Bool.or_eq_true,
      decide_eq_true_eq]
    split <;> simp_all

namespace Part

variable (grid : Grid) (config : Config) (me other : Part)

theorem blocked_iff :
    me.blocked grid config other = true ↔
      me.goal grid ≠ me.body.current.pos ∧
        (me.goal grid = other.goal grid ∨ me.goal grid = other.body.current.pos) :=
  resolveMove_snd (me.acted grid config other) (other.acted grid config me)

theorem after_target_dir : (me.after grid config other).target.dir = me.facing := by
  obtain ⟨nextPos, same⟩ := after_frame grid config me other
  rw [same]
  rfl

variable {me}

/-- A robot that is at rest when the tick starts faces where its action has turned it. -/
theorem facing_of_rest (rest : me.body.target.dir = me.body.current.dir) :
    me.facing = me.body.current.dir.after me.decision.action := by
  unfold facing Direction.after
  split <;> simp_all

/-- It pays for turning if its action is a turn. -/
theorem turnPrice_of_rest (rest : me.body.target.dir = me.body.current.dir) :
    (if me.body.current.dir ≠ me.facing then config.turnCost else 0) =
      turnPrice config me.decision.action := by
  rw [facing_of_rest rest]
  unfold Direction.after turnPrice
  split
  · rename_i way _
    rw [if_pos (Direction.turned_ne _ way).symm]
  · rw [if_neg (fun differs => differs rfl)]

end Part

/-! ### The tick -/

theorem pos_stance (arena : Arena) (side : Side) : (arena.stance side).pos = arena.cell side :=
  current_commit arena side

theorem dir_stance (arena : Arena) (side : Side) :
    (arena.stance side).dir = (arena.agent side).body.target.dir := by
  rw [stance, commit_agent]
  rfl

/-- A tick starts at rest. -/
theorem rest_commit (arena : Arena) (side : Side) :
    (arena.commit.part side).body.target.dir = (arena.commit.part side).body.current.dir := by
  rw [body_commit]
  rfl

section Turn

variable {arena : Arena} {played : Played} (turn : arena.nextTurn = .ok played)
  (apart : arena.cell .red ≠ arena.cell .blue)

include turn apart

theorem action_nextTurn (side : Side) :
    (played.report.robot side).action = (arena.commit.part side).decision.action := by
  rw [robot_nextTurn turn apart]
  rfl

theorem facing_nextTurn (side : Side) :
    (played.report.robot side).facing = (arena.stance side).dir.after
      (played.report.robot side).action := by
  rw [action_nextTurn turn apart, robot_nextTurn turn apart]
  exact (Part.after_target_dir _ _ _ _).trans (Part.facing_of_rest (rest_commit arena side))

/-- What a robot aims at is its wish. -/
theorem goal_eq_wish {side : Side} (inside : arena.grid.contains (arena.cell side) = true) :
    arena.goal side = arena.wish played side := by
  have step := Grid.step_eq inside (arena.stance side).dir
  rw [← pos_stance] at step
  unfold goal Part.goal wish
  rw [action_nextTurn turn apart, target_commit, ← pos_stance]
  by_cases moves : (arena.commit.part side).decision.action = some .move
  · simp only [moves, if_true, true_and]
    exact step
  · simp [moves]

variable (inside : ∀ side, arena.grid.contains (arena.cell side) = true)

include inside

theorem stop_nextTurn (side : Side) :
    (played.report.robot side).stop =
      if arena.wish played side ≠ (arena.stance side).pos ∧
          arena.wish played side ≠ (arena.stance side.other).pos ∧
          arena.wish played side ≠ arena.wish played side.other then arena.wish played side
      else (arena.stance side).pos := by
  rw [stop_report turn, cell_nextTurn turn apart, goal_eq_wish turn apart (inside side),
    goal_eq_wish turn apart (inside side.other), ← pos_stance, ← pos_stance]
  split <;> split <;> tauto

theorem blocked_nextTurn (side : Side) :
    (played.report.robot side).blocked = true ↔
      arena.wish played side ≠ (arena.stance side).pos ∧
        (played.report.robot side).stop = (arena.stance side).pos := by
  have blocked : (played.report.robot side).blocked = true ↔
      arena.wish played side ≠ (arena.stance side).pos ∧
        (arena.wish played side = arena.wish played side.other ∨
          arena.wish played side = (arena.stance side.other).pos) := by
    rw [robot_nextTurn turn apart, ← goal_eq_wish turn apart (inside side),
      ← goal_eq_wish turn apart (inside side.other)]
    exact Part.blocked_iff _ _ _ _
  rw [blocked, stop_nextTurn turn apart inside]
  split <;> tauto

theorem price_nextTurn (side : Side) :
    (played.arena.agent side).body.tickCost arena.config =
      arena.config.waitCost +
        (if (arena.stance side).shield then arena.config.shieldCost else 0) +
        (if arena.wish played side ≠ (arena.stance side).pos then arena.config.moveCost else 0) +
        turnPrice arena.config (played.report.robot side).action := by
  have leaves : arena.goal side ≠ (arena.stance side).pos ↔
      (arena.stance side).pos ≠ arena.goal side := ne_comm
  rw [action_nextTurn turn apart, ← Part.turnPrice_of_rest _ (rest_commit arena side),
    ← goal_eq_wish turn apart (inside side), body_nextTurn turn apart,
    ← Part.cost_eq_tickCost_after, Part.cost, Body.tickCost]
  simp only [leaves, Body.isMoving, Body.isTurning, decide_eq_true_eq]
  rfl

end Turn

/-- Every tick of a match obeys the law, for both robots. -/
theorem ticks_obey_law {arena : Arena} (reached : Reachable arena) {played : Played}
    (turn : arena.nextTurn = .ok played) (side : Side) : TickLaw arena played side := by
  have placed := reached.inPlay.placed
  have apart : arena.cell .red ≠ arena.cell .blue := placed.next_apart
  refine
    { stop := stop_nextTurn turn apart placed.next_inside side
      blocked := blocked_nextTurn turn apart placed.next_inside side
      facing := facing_nextTurn turn apart side
      price := price_nextTurn turn apart placed.next_inside side
      onward := ⟨?_, ?_⟩ }
  · rw [pos_stance, stop_report turn]
  · obtain ⟨thought, blocked, same⟩ := report_nextTurn turn side
    rw [dir_stance, same]
    rfl

/-- Red runs into blue. -/
theorem ticks_obey_law_of_meeting :
    ∃ arena played, Reachable arena ∧ arena.nextTurn = .ok played ∧
      (played.report.robot .red).action = some .move ∧
      (played.report.robot .red).blocked = true ∧ TickLaw arena played .red := by
  obtain ⟨arena, reached, undecided, config, agents⟩ := meeting_onward (.move none)
  have turn := nextTurn_of_undecided undecided
  have apart := reached.inPlay.placed.next_apart
  have narrow : arena.commit.grid = ⟨2⟩ := congrArg (fun config => Grid.mk config.gridSize) config
  refine ⟨arena, _, reached, turn, ?_, ?_, ticks_obey_law reached turn .red⟩
  · rw [action_nextTurn turn apart]
    simp only [part, mind, commit_agent, agents]
    rfl
  · rw [robot_nextTurn turn apart]
    simp only [reportAfter, robotReport, Part.blocked_iff, part, mind, commit_agent, agents, narrow]
    exact ⟨(by decide : (⟨1, 0⟩ : Cell) ≠ ⟨0, 0⟩), .inr rfl⟩

end FuelDuel.Arena
