import FuelDuel.Language.Prebuilt
import FuelDuel.Proofs.Limits
import FuelDuel.Proofs.Tick

/-!
Where the robots stand. A robot leaves its cell only for a cell inside the arena that its opponent
neither stands on nor wants (`cell_nextTurn`). So from tick to tick the two robots stay inside the
arena and on different cells, and not even the cell that the opponent leaves in a tick can be
entered in that tick (`cell_ne_left`): robots never pass through each other.
-/

namespace FuelDuel.Arena

open FuelDuel.Language

theorem Grid.contains_iff {grid : Grid} {cell : Cell} :
    grid.contains cell = true ↔
      (0 ≤ cell.x ∧ cell.x < grid.size) ∧ 0 ≤ cell.y ∧ cell.y < grid.size := by
  simp only [Grid.contains, Bool.and_eq_true, decide_eq_true_eq]
  omega

/-- A step along any facing stays inside. -/
theorem Grid.contains_step {grid : Grid} (sized : 1 ≤ grid.size) (cell : Cell) (dir : Direction) :
    grid.contains (grid.step cell dir) = true := by
  rw [Grid.contains_iff]
  simp only [Grid.step, Grid.clamp, Grid.far]
  omega

/-- From a cell inside the arena a step leads to the neighbouring cell if that is inside too, and
otherwise nowhere. -/
theorem Grid.step_eq {grid : Grid} {cell : Cell} (inside : grid.contains cell = true)
    (dir : Direction) :
    grid.step cell dir =
      if grid.contains (cell.moved dir.delta) = true then cell.moved dir.delta else cell := by
  rw [Grid.contains_iff] at inside
  split
  · rename_i free
    rw [Grid.contains_iff] at free
    simp only [Grid.step, Grid.clamp, Grid.far, Cell.moved, Cell.mk.injEq] at free ⊢
    omega
  · rename_i wall
    rw [Grid.contains_iff] at wall
    obtain ⟨x, y⟩ := cell
    cases dir <;>
      simp only [Grid.step, Grid.clamp, Grid.far, Cell.moved, Direction.delta, Cell.mk.injEq]
        at inside wall ⊢ <;> omega

/-! ### One tick -/

/-- The cell on which the robot of a side stands when the next tick starts. -/
def cell (arena : Arena) (side : Side) : Cell := (arena.agent side).body.nextPos

/-- The cell that the robot of a side wants in the next tick. -/
def goal (arena : Arena) (side : Side) : Cell := (arena.commit.part side).goal arena.grid

theorem current_commit (arena : Arena) (side : Side) :
    (arena.commit.part side).body.current.pos = arena.cell side := by
  cases side <;> rfl

theorem target_commit (arena : Arena) (side : Side) :
    (arena.commit.part side).body.target.pos = arena.cell side := by
  cases side <;> rfl

theorem nextPos_commit (arena : Arena) (side : Side) :
    (arena.commit.part side).body.nextPos = arena.cell side := by
  cases side <;> rfl

/-- A robot wants the cell ahead or its own. -/
theorem goal_inside {arena : Arena} (sized : 1 ≤ arena.config.gridSize) {side : Side}
    (inside : arena.grid.contains (arena.cell side) = true) :
    arena.grid.contains (arena.goal side) = true := by
  unfold goal Part.goal
  split
  · exact Grid.contains_step sized _ _
  · rw [target_commit]
    exact inside

section Step

variable {arena : Arena} {played : Played} (turn : arena.nextTurn = .ok played)
  (apart : arena.cell .red ≠ arena.cell .blue)

include turn apart

/-- A tick starts on the cells on which the last one has ended. -/
theorem current_nextTurn (side : Side) :
    (played.arena.agent side).body.current.pos = arena.cell side := by
  obtain ⟨-, rfl⟩ := nextTurn_eq_ok_iff.mp turn
  rw [agent_resolve (apart_commit apart), agentAfter, Part.after_current, current_commit]

/-- A robot gets the cell that it wants, unless the opponent stands there or wants it too. -/
theorem cell_nextTurn (side : Side) :
    played.arena.cell side =
      if arena.goal side = arena.cell side ∨ arena.goal side = arena.goal side.other ∨
          arena.goal side = arena.cell side.other then arena.cell side
      else arena.goal side := by
  obtain ⟨-, rfl⟩ := nextTurn_eq_ok_iff.mp turn
  rw [cell, agent_resolve (apart_commit apart), agentAfter, Part.after_nextPos, current_commit,
    current_commit, nextPos_commit]
  rfl

/-- A robot does not enter a cell on which the opponent stands when the tick starts, even if the
opponent leaves it. -/
theorem cell_ne_left (side : Side) : played.arena.cell side ≠ arena.cell side.other := by
  have distinct : arena.cell side ≠ arena.cell side.other := by
    cases side
    · exact apart
    · exact apart.symm
  rw [cell_nextTurn turn apart side]
  split
  · exact distinct
  · rename_i free
    exact fun entered => free (.inr (.inr entered))

/-- After a tick the robots stand on different cells. -/
theorem cells_apart : played.arena.cell .red ≠ played.arena.cell .blue := by
  have redFree := cell_ne_left turn apart .red
  rw [cell_nextTurn turn apart .blue]
  split
  · exact redFree
  · rename_i blueFree
    -- Blue has moved to its goal, so red neither stands there nor wants it.
    rw [cell_nextTurn turn apart .red]
    split
    · exact fun met => blueFree (.inr (.inr met.symm))
    · exact fun met => blueFree (.inr (.inl met.symm))

theorem cell_inside (sized : 1 ≤ arena.config.gridSize) {side : Side}
    (inside : arena.grid.contains (arena.cell side) = true) :
    arena.grid.contains (played.arena.cell side) = true := by
  rw [cell_nextTurn turn apart side]
  split
  · exact inside
  · exact goal_inside sized inside

end Step

/-! ### Whole matches -/

/-- Where the robots stand and where they will stand: inside the arena, and apart. -/
structure Placed (arena : Arena) : Prop where
  current_inside : ∀ side, arena.grid.contains (arena.agent side).body.current.pos = true
  next_inside : ∀ side, arena.grid.contains (arena.agent side).body.nextPos = true
  current_apart : arena.red.body.current.pos ≠ arena.blue.body.current.pos
  next_apart : arena.red.body.nextPos ≠ arena.blue.body.nextPos

theorem Placed.nextTurn {arena : Arena} {played : Played} (placed : Placed arena)
    (sized : 1 ≤ arena.config.gridSize) (turn : arena.nextTurn = .ok played) :
    Placed played.arena := by
  have sameGrid := grid_nextTurn turn
  have apart : arena.cell .red ≠ arena.cell .blue := placed.next_apart
  constructor
  · intro side
    rw [sameGrid, current_nextTurn turn apart]
    exact placed.next_inside side
  · intro side
    rw [sameGrid]
    exact cell_inside turn apart sized (placed.next_inside side)
  · have red := current_nextTurn turn apart .red
    have blue := current_nextTurn turn apart .blue
    exact fun met => apart (red.symm.trans (met.trans blue))
  · exact cells_apart turn apart

theorem placed_start {config : Config} (valid : config.Valid) (red blue : Program)
    (barrels : CellSet) (random : Random) :
    Placed { setUp config red blue with barrels, random } := by
  have sized := valid.two_le_gridSize
  have far_inside : (Grid.mk config.gridSize).contains
      ⟨config.gridSize - 1, config.gridSize - 1⟩ = true := by
    rw [Grid.contains_iff]
    dsimp only
    omega
  have origin_inside : (Grid.mk config.gridSize).contains ⟨0, 0⟩ = true := by
    rw [Grid.contains_iff]
    dsimp only
    omega
  have apart : (⟨0, 0⟩ : Cell) ≠ ⟨config.gridSize - 1, config.gridSize - 1⟩ := by
    rw [Ne, Cell.mk.injEq]
    omega
  constructor
  · rintro (_ | _)
    · exact origin_inside
    · exact far_inside
  · rintro (_ | _)
    · exact origin_inside
    · exact far_inside
  · exact apart
  · exact apart

/-- A match starts with its configuration, and with placed robots. -/
theorem placed_of_started {config : Config} (valid : config.Valid) {red blue : Program}
    {arena : Arena} {events : List Event}
    (started : Arena.start config red blue = .ok (arena, events)) :
    arena.config = config ∧ Placed arena := by
  obtain ⟨barrels, random, setUpEvents, same⟩ := start_of_valid valid red blue
  have placed := placed_start valid red blue barrels random
  cases started.symm.trans same
  exact ⟨rfl, placed⟩

theorem sized_afterTurns {arena : Arena} (sized : 1 ≤ arena.config.gridSize) (turns : Nat) :
    1 ≤ (arena.afterTurns turns).config.gridSize := by
  rw [config_afterTurns]
  exact sized

/-- Placed robots stay placed in an arena that has room for a step. -/
theorem placed_afterTurns {arena : Arena} (placed : Placed arena)
    (sized : 1 ≤ arena.config.gridSize) (turns : Nat) : Placed (arena.afterTurns turns) := by
  apply afterTurns_induction Placed placed
  rintro earlier played - placed turn
  exact placed.nextTurn (sized_afterTurns sized earlier) turn

/-- The robots of a match never share a cell and never leave the arena: neither where they stand nor
where they will stand, after any number of turns. In no tick do they exchange their cells. -/
theorem robots_never_share_cell {config : Config} (valid : config.Valid) (red blue : Program) :
    ∃ arena events, Arena.start config red blue = .ok (arena, events) ∧
      ∀ turns, Placed (arena.afterTurns turns) ∧
        ∀ played, (arena.afterTurns turns).nextTurn = .ok played →
          ¬(played.arena.red.body.nextPos = (arena.afterTurns turns).blue.body.nextPos ∧
            played.arena.blue.body.nextPos = (arena.afterTurns turns).red.body.nextPos) := by
  obtain ⟨barrels, random, events, started⟩ := start_of_valid valid red blue
  refine ⟨_, events, started, fun turns => ?_⟩
  have sized : 1 ≤ config.gridSize := Int.le_trans (by decide) valid.two_le_gridSize
  have placed := placed_afterTurns (placed_start valid red blue barrels random) sized turns
  refine ⟨placed, fun played turn exchanged => ?_⟩
  exact cell_ne_left turn placed.next_apart .red exchanged.1

/-- The smallest arena, where the robots are never more than two steps apart. -/
def narrow : Config := { gridSize := 2 }

theorem valid_narrow : narrow.Valid := by
  unfold Config.Valid
  decide +kernel

theorem robots_never_share_cell_of_narrow :
    narrow.Valid ∧
      ∃ arena events,
        Arena.start narrow Prebuilt.loopLeftRightMove Prebuilt.aimAndGo = .ok (arena, events) ∧
        ∀ turns, Placed (arena.afterTurns turns) ∧
          ∀ played, (arena.afterTurns turns).nextTurn = .ok played →
            ¬(played.arena.red.body.nextPos = (arena.afterTurns turns).blue.body.nextPos ∧
              played.arena.blue.body.nextPos = (arena.afterTurns turns).red.body.nextPos) :=
  ⟨valid_narrow, robots_never_share_cell valid_narrow _ _⟩

end FuelDuel.Arena
