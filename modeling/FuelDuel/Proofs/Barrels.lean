import FuelDuel.Proofs.Exchange
import FuelDuel.Proofs.Occupancy
import Mathlib.Data.List.Perm.Subperm

/-!
Where the barrels are. A barrel appears on a free cell (`spawnBarrel_cases`), and the free cells are
cells of the grid with neither a barrel nor a robot (`mem_freeCells`). So all barrels of a match are
inside the arena (`barrels_inside_afterTurns`), and there are never more of them than cells
(`CellSet.Inside.size_le`).
-/

namespace FuelDuel.Arena

open FuelDuel.Language

/-! ### The cells of a grid -/

namespace Grid

theorem mem_coordinates {grid : Grid} {coordinate : Int} :
    coordinate ∈ grid.coordinates ↔ 0 ≤ coordinate ∧ coordinate < grid.size := by
  simp only [coordinates, List.mem_map, List.mem_range]
  constructor
  · rintro ⟨index, early, rfl⟩
    exact ⟨Int.natCast_nonneg index, Int.lt_toNat.mp early⟩
  · rintro ⟨natural, small⟩
    exact ⟨coordinate.toNat, by omega, Int.toNat_of_nonneg natural⟩

/-- The listed cells are those inside the grid. -/
theorem mem_cells {grid : Grid} {cell : Cell} :
    cell ∈ grid.cells ↔ grid.contains cell = true := by
  simp only [cells, List.mem_flatMap, List.mem_map, mem_coordinates, contains_iff]
  constructor
  · rintro ⟨y, rowInside, x, columnInside, rfl⟩
    exact ⟨columnInside, rowInside⟩
  · rintro ⟨columnInside, rowInside⟩
    exact ⟨cell.y, rowInside, cell.x, columnInside, rfl⟩

theorem ordered_coordinates (grid : Grid) : grid.coordinates.Pairwise (· < ·) := by
  rw [coordinates, List.pairwise_map]
  exact List.pairwise_lt_range.imp Int.ofNat_lt.mpr

/-- The cells are listed row by row. -/
theorem ordered_cells (grid : Grid) : grid.cells.Pairwise (· < ·) := by
  rw [cells, List.pairwise_flatMap]
  constructor
  · intro y _
    rw [List.pairwise_map]
    exact grid.ordered_coordinates.imp fun less => .inr ⟨rfl, less⟩
  · refine grid.ordered_coordinates.imp fun less first inFirst second inSecond => ?_
    obtain ⟨_, -, rfl⟩ := List.mem_map.mp inFirst
    obtain ⟨_, -, rfl⟩ := List.mem_map.mp inSecond
    exact .inl less

theorem length_cells (grid : Grid) : grid.cells.length = grid.size.toNat * grid.size.toNat := by
  simp [cells, coordinates, List.length_flatMap, Function.comp_def]

end Grid

/-! ### Barrels that appear -/

/-- The free cells are the cells of the arena with neither a barrel nor a robot. -/
theorem mem_freeCells {arena : Arena} {cell : Cell} :
    cell ∈ arena.freeCells ↔
      arena.grid.contains cell = true ∧ cell ∉ arena.robotCells ∧ cell ∉ arena.barrels.cells := by
  rw [freeCells, takenCells,
    CellSet.mem_without arena.grid.ordered_cells (CellSet.ordered _), Grid.mem_cells,
    CellSet.mem_foldl_insert, not_or]

/-- A barrel appears on a free cell, if there is any. -/
theorem spawnBarrel_cases (arena : Arena) :
    (arena.freeCells = [] ∧ arena.spawnBarrel = (arena, [])) ∨
      ∃ cell ∈ arena.freeCells, ∃ random,
        arena.spawnBarrel =
          ({ arena with barrels := arena.barrels.insert cell, random },
            [.barrelSpawned cell]) := by
  unfold spawnBarrel
  split
  · rename_i none
    exact .inl ⟨none, rfl⟩
  · rename_i first others free
    let index := (arena.random.below (others.length + 1)).1
    have within : index < (first :: others).length := Nat.mod_lt _ (Nat.succ_pos _)
    refine .inr ⟨(first :: others).getD index first, ?_, _, rfl⟩
    rw [free, List.getD_eq_getElem?_getD, List.getElem?_eq_getElem within, Option.getD_some]
    exact List.getElem_mem within

/-! ### Whole matches -/

/-- All cells of the set are inside the grid. -/
def CellSet.Inside (set : CellSet) (grid : Grid) : Prop :=
  ∀ cell ∈ set.cells, grid.contains cell = true

/-- A set of cells of a grid has no more cells than the grid. -/
theorem CellSet.Inside.size_le {set : CellSet} {grid : Grid} (inside : set.Inside grid) :
    set.size ≤ grid.size.toNat * grid.size.toNat := by
  have listed : set.cells ⊆ grid.cells := fun cell member => Grid.mem_cells.mpr (inside cell member)
  rw [← grid.length_cells]
  exact (List.subperm_of_subset set.nodup listed).length_le

theorem CellSet.Inside.reachedBy {set : CellSet} {grid : Grid} (inside : set.Inside grid)
    (part : Part) : (set.reachedBy part).Inside grid := by
  intro cell left
  unfold CellSet.reachedBy at left
  split at left
  · exact inside cell (mem_erase.mp left).2
  · exact inside cell left

theorem barrels_spawnBarrel (arena : Arena) (inside : arena.barrels.Inside arena.grid) :
    arena.spawnBarrel.1.barrels.Inside arena.grid := by
  rcases spawnBarrel_cases arena with ⟨-, same⟩ | ⟨spot, free, random, spawned⟩
  · rw [same]
    exact inside
  · rw [spawned]
    intro cell member
    rcases CellSet.mem_insert.mp member with rfl | earlier
    · exact (mem_freeCells.mp free).1
    · exact inside cell earlier

theorem barrels_spawnBarrels (count : Nat) (arena : Arena)
    (inside : arena.barrels.Inside arena.grid) :
    (spawnBarrels count arena).1.barrels.Inside arena.grid := by
  induction count generalizing arena with
  | zero => exact inside
  | succ count ih =>
      obtain ⟨barrels, random, spawned⟩ := spawnBarrel_frame arena
      have sameGrid : arena.spawnBarrel.1.grid = arena.grid := by
        rw [spawned]
        rfl
      rw [← sameGrid]
      refine ih arena.spawnBarrel.1 ?_
      rw [sameGrid]
      exact barrels_spawnBarrel arena inside

theorem barrels_maybeSpawn (arena : Arena) (inside : arena.barrels.Inside arena.grid) :
    arena.maybeSpawn.1.barrels.Inside arena.grid := by
  cases lucky : (arena.random.chance arena.config.spawnChance).1 with
  | false =>
      rw [barrels_maybeSpawn_of_unlucky lucky]
      exact inside
  | true =>
      have sameGrid : { arena with random := arena.random.advance }.grid = arena.grid := by
        rw [grid, grid]
      rw [maybeSpawn_of_lucky lucky, ← sameGrid]
      refine barrels_spawnBarrel { arena with random := arena.random.advance } ?_
      rw [sameGrid]
      exact inside

/-- A tick brings no barrel out of the arena. -/
theorem barrels_nextTurn {arena : Arena} {played : Played} (turn : arena.nextTurn = .ok played)
    (apart : arena.cell .red ≠ arena.cell .blue) (inside : arena.barrels.Inside arena.grid) :
    played.arena.barrels.Inside arena.grid := by
  obtain ⟨-, rfl⟩ := nextTurn_eq_ok_iff.mp turn
  have charged : (arena.commit.charged arena.commit.minds).barrels.Inside arena.grid := by
    rw [charged_minds (apart_commit apart)]
    exact CellSet.Inside.reachedBy (CellSet.Inside.reachedBy inside _) _
  have sameGrid : (arena.commit.charged arena.commit.minds).grid = arena.grid := by
    rw [grid, config_charged]
    rfl
  rw [arena_resolve, barrels_atTick]
  rw [← sameGrid] at charged ⊢
  exact barrels_maybeSpawn _ charged

theorem barrels_inside_start {config : Config} {red blue : Program} {arena : Arena}
    {events : List Event} (started : Arena.start config red blue = .ok (arena, events)) :
    arena.barrels.Inside ⟨config.gridSize⟩ := by
  have none : (setUp config red blue).barrels.Inside (setUp config red blue).grid := by
    intro cell member
    cases member
  unfold start at started
  split at started
  · cases started
  · have same : (spawnBarrels config.initialBarrels (setUp config red blue)).1 = arena :=
      congrArg Prod.fst (Except.ok.inj started)
    rw [← same]
    exact barrels_spawnBarrels _ _ none

/-- The barrels of a match stay inside the arena. -/
theorem barrels_inside_afterTurns {arena : Arena} (placed : Placed arena)
    (sized : 1 ≤ arena.config.gridSize) (inside : arena.barrels.Inside arena.grid) (turns : Nat) :
    (arena.afterTurns turns).barrels.Inside arena.grid := by
  apply afterTurns_induction (fun later => later.barrels.Inside arena.grid) inside
  rintro earlier played - inside turn
  have apart := (placed_afterTurns placed sized earlier).next_apart
  rw [← grid_afterTurns arena earlier] at inside ⊢
  exact barrels_nextTurn turn apart inside

end FuelDuel.Arena
