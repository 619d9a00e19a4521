import FuelDuel.Proofs.Barrels
import FuelDuel.Proofs.Period

/-!
The barrels with which a match starts. They are put down one after the other: each draw is an index
of the list of free cells, and the cell that it picks is free no longer (`Stocking`). The free cells
become fewer by one with each barrel (`length_freeCells_withBarrel`), so either all barrels find a
cell or every free cell gets one (`spawnBarrels_stocking`). Of the cells of an arena all but the two
on which the robots stand are free at first (`length_freeCells_setUp`).
-/

namespace FuelDuel.Arena

open FuelDuel.Language

/-! ### Free cells -/

namespace CellSet

theorem size_erase {set : CellSet} {cell : Cell} (member : cell ∈ set.cells) :
    (set.erase cell).size = set.size - 1 :=
  List.length_erase_of_mem member

theorem without_sublist (all taken : List Cell) : (without all taken).Sublist all := by
  induction all generalizing taken with
  | nil => exact .slnil
  | cons first rest ih =>
      rw [without]
      split
      · exact (ih _).cons_cons first
      · split
        · exact (ih _).cons first
        · exact (ih _).cons_cons first

end CellSet

/-- The cells of a grid as a set. -/
def Grid.cellSet (grid : Grid) : CellSet := ⟨grid.cells, grid.ordered_cells⟩

/-- The free cells of an arena as a set: they are listed row by row, as all cells are. -/
def freeSet (arena : Arena) : CellSet :=
  ⟨arena.freeCells, arena.grid.ordered_cells.sublist (CellSet.without_sublist _ _)⟩

/-- The arena with one barrel more, for which one word was drawn. -/
def withBarrel (arena : Arena) (cell : Cell) : Arena :=
  { arena with barrels := arena.barrels.insert cell, random := arena.random.advance }

/-- A cell with a new barrel is free no longer, and all others stay as they are. -/
theorem mem_freeCells_withBarrel {arena : Arena} {spot cell : Cell} :
    cell ∈ (arena.withBarrel spot).freeCells ↔ cell ≠ spot ∧ cell ∈ arena.freeCells := by
  have sameGrid : (arena.withBarrel spot).grid = arena.grid := rfl
  have sameCells : (arena.withBarrel spot).robotCells = arena.robotCells := rfl
  have barrels : cell ∈ (arena.withBarrel spot).barrels.cells ↔
      cell = spot ∨ cell ∈ arena.barrels.cells := CellSet.mem_insert
  rw [mem_freeCells, mem_freeCells, sameGrid, sameCells, barrels]
  tauto

theorem length_freeCells_withBarrel {arena : Arena} {spot : Cell} (free : spot ∈ arena.freeCells) :
    (arena.withBarrel spot).freeCells.length = arena.freeCells.length - 1 := by
  have fewer : (arena.withBarrel spot).freeSet = arena.freeSet.erase spot := by
    apply CellSet.eq_of_mem_iff
    intro cell
    rw [CellSet.mem_erase]
    exact mem_freeCells_withBarrel
  exact (congrArg CellSet.size fewer).trans (CellSet.size_erase free)

/-! ### Barrels that are put down one after the other -/

/-- The barrels that are put on the cells, in this order, lead from the one arena to the other. Each
time a number is drawn, it is an index of the free cells, and the cell with this index gets the
barrel. -/
inductive Stocking : Arena → List Cell → Arena → Prop where
  | done (arena : Arena) : Stocking arena [] arena
  | put {arena last : Arena} {cell : Cell} {cells : List Cell}
      (drawn : arena.freeCells[(arena.random.below arena.freeCells.length).1]? = some cell)
      (later : Stocking (arena.withBarrel cell) cells last) : Stocking arena (cell :: cells) last

/-- A number that is drawn below a bound is below it. -/
theorem Random.fst_below_lt {bound : Nat} (positive : 0 < bound) (random : Random) :
    (random.below bound).1 < bound :=
  Nat.mod_lt _ positive

theorem Random.snd_below (bound : Nat) (random : Random) :
    (random.below bound).2 = random.advance :=
  rfl

/-- While there is a free cell, the number that is drawn is the index of one. -/
theorem spawnBarrel_of_free {arena : Arena} (room : arena.freeCells ≠ []) :
    ∃ cell, arena.freeCells[(arena.random.below arena.freeCells.length).1]? = some cell ∧
      arena.spawnBarrel = (arena.withBarrel cell, [.barrelSpawned cell]) := by
  unfold spawnBarrel withBarrel
  split
  · contradiction
  · rename_i first others free
    have within := Random.fst_below_lt (Nat.succ_pos others.length) arena.random
    have advanced := Random.snd_below (others.length + 1) arena.random
    rw [free, List.length_cons]
    -- With the draw in sight, comparing the two arenas would compare computed words.
    generalize arena.random.below (others.length + 1) = drawn at within advanced
    obtain ⟨index, random⟩ := drawn
    refine ⟨(first :: others).getD index first, ?_, ?_⟩
    · rw [List.getD_eq_getElem?_getD, List.getElem?_eq_getElem within]
      rfl
    · rw [← advanced]

theorem spawnBarrel_of_full {arena : Arena} (full : arena.freeCells = []) :
    arena.spawnBarrel = (arena, []) := by
  rcases spawnBarrel_cases arena with ⟨-, same⟩ | ⟨cell, free, -⟩
  · exact same
  · cases full ▸ free

/-- Barrels are put down until there are enough or no cell is free. -/
theorem spawnBarrels_stocking (count : Nat) (arena : Arena) :
    ∃ cells, Stocking arena cells (spawnBarrels count arena).1 ∧
      (spawnBarrels count arena).2 = cells.map .barrelSpawned ∧
      cells.length = min count arena.freeCells.length := by
  induction count generalizing arena with
  | zero => exact ⟨[], .done arena, rfl, (Nat.zero_min _).symm⟩
  | succ count ih =>
      rw [spawnBarrels]
      by_cases full : arena.freeCells = []
      · obtain ⟨cells, stocking, events, length⟩ := ih arena
        rw [spawnBarrel_of_full full]
        refine ⟨cells, stocking, events, ?_⟩
        rw [length, full, List.length_nil, Nat.min_zero, Nat.min_zero]
      · obtain ⟨cell, drawn, spawned⟩ := spawnBarrel_of_free full
        obtain ⟨cells, stocking, events, length⟩ := ih (arena.withBarrel cell)
        rw [spawned]
        refine ⟨cell :: cells, .put drawn stocking, ?_, ?_⟩
        · exact congrArg (_ :: ·) events
        · have some := List.length_pos_iff.mpr full
          rw [List.length_cons, length,
            length_freeCells_withBarrel (List.mem_of_getElem? drawn)]
          omega

namespace Stocking

variable {arena last : Arena} {cells : List Cell} (stocking : Stocking arena cells last)
include stocking

/-- Barrels are put on free cells only. -/
theorem free : ∀ cell ∈ cells, cell ∈ arena.freeCells := by
  induction stocking with
  | done => exact nofun
  | put drawn _ ih =>
      intro cell member
      rcases List.mem_cons.mp member with rfl | later
      · exact List.mem_of_getElem? drawn
      · exact (mem_freeCells_withBarrel.mp (ih cell later)).2

/-- No cell gets two barrels. -/
theorem nodup : cells.Nodup := by
  induction stocking with
  | done => exact .nil
  | put _ later ih =>
      refine List.nodup_cons.mpr ⟨fun again => ?_, ih⟩
      exact (mem_freeCells_withBarrel.mp (later.free _ again)).1 rfl

theorem mem_barrels {cell : Cell} :
    cell ∈ last.barrels.cells ↔ cell ∈ cells ∨ cell ∈ arena.barrels.cells := by
  induction stocking with
  | done => simp
  | @put arena last first cells _ _ ih =>
      have inserted : cell ∈ (arena.withBarrel first).barrels.cells ↔
          cell = first ∨ cell ∈ arena.barrels.cells := CellSet.mem_insert
      rw [ih, inserted, List.mem_cons]
      exact or_left_comm.trans or_assoc.symm

/-- One word is drawn for each barrel. -/
theorem random_eq : last.random = arena.random.after cells.length := by
  induction stocking with
  | done => rfl
  | @put arena _ cell _ _ _ ih =>
      have once : (arena.withBarrel cell).random = arena.random.advance := rfl
      rw [ih, once, List.length_cons, Random.after_advance]

end Stocking

/-! ### The start of a match -/

/-- The cell on which the robot of a side starts. -/
def startCell (config : Config) : Side → Cell
  | .red => ⟨0, 0⟩
  | .blue => ⟨config.gridSize - 1, config.gridSize - 1⟩

section Start

variable (config : Config) (red blue : Program)

/-- At first every cell is free on which no robot stands. -/
theorem mem_freeCells_setUp {cell : Cell} :
    cell ∈ (setUp config red blue).freeCells ↔
      (Grid.mk config.gridSize).contains cell = true ∧ ∀ side, cell ≠ startCell config side := by
  have robots : (setUp config red blue).robotCells =
      [startCell config .red, startCell config .red, startCell config .blue,
        startCell config .blue] := rfl
  have grid : (setUp config red blue).grid = ⟨config.gridSize⟩ := rfl
  have bare : (setUp config red blue).barrels.cells = [] := rfl
  rw [mem_freeCells, robots, grid, bare]
  refine and_congr_right fun _ => ⟨?_, ?_⟩
  · rintro ⟨apart, -⟩ (_ | _) rfl <;> simp at apart
  · intro apart
    simp [apart .red, apart .blue]

theorem freeSet_setUp :
    (setUp config red blue).freeSet =
      ((Grid.mk config.gridSize).cellSet.erase (startCell config .red)).erase
        (startCell config .blue) := by
  apply CellSet.eq_of_mem_iff
  intro cell
  rw [CellSet.mem_erase, CellSet.mem_erase, Grid.cellSet, Grid.mem_cells]
  refine (mem_freeCells_setUp config red blue).trans ⟨?_, ?_⟩
  · exact fun ⟨inside, apart⟩ => ⟨apart .blue, apart .red, inside⟩
  · rintro ⟨notBlue, notRed, inside⟩
    refine ⟨inside, ?_⟩
    rintro (_ | _)
    · exact notRed
    · exact notBlue

variable {config} (sized : 2 ≤ config.gridSize)
include sized

theorem startCell_mem_cellSet (side : Side) :
    startCell config side ∈ (Grid.mk config.gridSize).cellSet.cells := by
  rw [Grid.cellSet, Grid.mem_cells, Grid.contains_iff]
  cases side <;> simp only [startCell] <;> omega

theorem startCell_blue_ne_red : startCell config .blue ≠ startCell config .red := by
  simp only [startCell, ne_eq, Cell.mk.injEq]
  omega

/-- All cells but two are free at first. -/
theorem length_freeCells_setUp :
    ((setUp config red blue).freeCells.length : Int) = config.gridSize ^ 2 - 2 := by
  have redInside := startCell_mem_cellSet sized .red
  have blueInside := CellSet.mem_erase.mpr
    ⟨startCell_blue_ne_red sized, startCell_mem_cellSet sized .blue⟩
  have counted : (setUp config red blue).freeCells.length =
      config.gridSize.toNat * config.gridSize.toNat - 1 - 1 := by
    have size := congrArg CellSet.size (freeSet_setUp config red blue)
    rw [CellSet.size_erase blueInside, CellSet.size_erase redInside] at size
    rw [← Grid.length_cells ⟨config.gridSize⟩]
    exact size
  obtain ⟨size, same⟩ := Int.eq_ofNat_of_zero_le (Int.le_trans (by decide) sized)
  have squared : 2 * 2 ≤ size * size := Nat.mul_le_mul (by omega) (by omega)
  have square : (size : Int) ^ 2 = ((size * size : Nat) : Int) := by
    rw [Int.pow_succ, Int.pow_succ, Int.pow_zero, Int.one_mul, Int.natCast_mul]
  rw [counted, same, Int.toNat_natCast, square]
  omega

end Start

/-- The cells are those of the barrels with which a match starts: as many as configured, or as many
as there is room for beside the robots, all of them different, inside the arena and apart from the
robots. For each of them one word is drawn, and no others. -/
structure Furnishes (config : Config) (cells : List Cell) (arena : Arena) : Prop where
  count : (cells.length : Int) = min (config.initialBarrels : Int) (config.gridSize ^ 2 - 2)
  distinct : cells.Nodup
  barrels : ∀ cell, cell ∈ arena.barrels.cells ↔ cell ∈ cells
  size : arena.barrels.size = cells.length
  inside : ∀ cell ∈ cells, (Grid.mk config.gridSize).contains cell = true
  apart : ∀ side, startCell config side ∉ cells
  draws : arena.random = (Random.ofSeed config.seed).after cells.length

theorem Stocking.furnishes {config : Config} {red blue : Program} {cells : List Cell}
    {arena : Arena} (stocking : Stocking (setUp config red blue) cells arena)
    (count : (cells.length : Int) = min (config.initialBarrels : Int) (config.gridSize ^ 2 - 2)) :
    Furnishes config cells arena := by
  have barrels (cell : Cell) : cell ∈ arena.barrels.cells ↔ cell ∈ cells := by
    have bare : (setUp config red blue).barrels.cells = [] := rfl
    rw [stocking.mem_barrels, bare]
    simp
  have free (cell : Cell) (member : cell ∈ cells) :=
    (mem_freeCells_setUp config red blue).mp (stocking.free cell member)
  have permuted : arena.barrels.cells.Perm cells :=
    (List.perm_ext_iff_of_nodup arena.barrels.nodup stocking.nodup).mpr barrels
  exact
    { count
      distinct := stocking.nodup
      barrels
      size := permuted.length_eq
      inside := fun cell member => (free cell member).1
      apart := fun side member => (free _ member).2 side rfl
      draws := stocking.random_eq }

/-- Every match that can be played starts with as many barrels as configured, or as there is room
for, on cells that are drawn one after the other from the cells that are still free. The cells to
draw from are listed by the grid: just those inside it, each of them once, row by row. -/
theorem match_starts_furnished {config : Config} (valid : config.Valid) (red blue : Program) :
    (∃ arena cells, Arena.start config red blue = .ok (arena, cells.map .barrelSpawned) ∧
      Stocking (setUp config red blue) cells arena ∧ Furnishes config cells arena) ∧
    ∀ grid : Grid, (∀ cell, cell ∈ grid.cells ↔ grid.contains cell = true) ∧
      grid.cells.Nodup ∧ grid.cells.Pairwise (· < ·) := by
  constructor
  · obtain ⟨cells, stocking, events, length⟩ :=
      spawnBarrels_stocking config.initialBarrels (setUp config red blue)
    have playable : config.invalid? = none := valid
    have room := length_freeCells_setUp red blue valid.two_le_gridSize
    refine ⟨_, cells, ?_, stocking, stocking.furnishes (by omega)⟩
    rw [start, playable, ← events]
  · exact fun grid => ⟨fun _ => Grid.mem_cells, grid.cellSet.nodup, grid.ordered_cells⟩

/-- The smallest arena with as many barrels as the configuration may ask for: twice as many as there
are cells beside the robots. -/
def crammed : Config := { gridSize := 2, initialBarrels := 4 }

theorem match_starts_furnished_of_crammed :
    crammed.Valid ∧
      (∃ arena cells, Arena.start crammed Prebuilt.loopLeftRightMove Prebuilt.aimAndGo =
          .ok (arena, cells.map .barrelSpawned) ∧
        Stocking (setUp crammed Prebuilt.loopLeftRightMove Prebuilt.aimAndGo) cells arena ∧
        Furnishes crammed cells arena) ∧
      ∀ grid : Grid, (∀ cell, cell ∈ grid.cells ↔ grid.contains cell = true) ∧
        grid.cells.Nodup ∧ grid.cells.Pairwise (· < ·) := by
  have valid : crammed.Valid := by
    unfold Config.Valid
    decide +kernel
  exact ⟨valid, match_starts_furnished valid _ _⟩

end FuelDuel.Arena
