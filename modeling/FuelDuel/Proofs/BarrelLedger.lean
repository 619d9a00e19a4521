import FuelDuel.Proofs.Barrels
import FuelDuel.Proofs.FuelLedger
import FuelDuel.Proofs.MatchLog

/-!
The ledger of the barrels. In a tick three things happen to the barrels: red may take one, blue may
take one, and one may appear. The robots stand on different cells, so neither can take the other's
barrel, and what remains are the barrels on whose cells no robot has reached for fuel (`Remains`). A
barrel appears if the roll for it succeeds and there is a cell for it, and then on such a cell
(`Vacant`). A robot that takes a barrel has a full tank, from which the tick is paid.
-/

namespace FuelDuel.Arena

open FuelDuel.Language

/-- A barrel remains in a tick: no robot that stood on its cell has taken fuel. -/
def Remains (arena : Arena) (played : Played) (cell : Cell) : Prop :=
  cell ∈ arena.barrels.cells ∧
    ∀ side, (played.report.robot side).action = some .takeFuel → arena.cell side ≠ cell

/-- A cell of the arena on which no barrel remains, and on which no robot stands or is about to
stand. -/
def Vacant (arena : Arena) (played : Played) (cell : Cell) : Prop :=
  arena.grid.contains cell = true ∧ ¬Remains arena played cell ∧ cell ∉ played.arena.robotCells

/-- The roll for a barrel in the next tick. -/
def roll (arena : Arena) : Bool := (arena.random.chance arena.config.spawnChance).1

/-! ### Barrels that are taken -/

theorem CellSet.mem_reachedBy {barrels : CellSet} {part : Part} {cell : Cell} :
    cell ∈ (barrels.reachedBy part).cells ↔
      cell ∈ barrels.cells ∧ (part.takes = true → part.body.current.pos ≠ cell) := by
  unfold CellSet.reachedBy
  split
  · rename_i takes
    simp [CellSet.mem_erase, takes, and_comm, eq_comm]
  · rename_i leaves
    simp [leaves]

section Turn

variable {arena : Arena} {played : Played} (turn : arena.nextTurn = .ok played)
  (apart : arena.cell .red ≠ arena.cell .blue)

include turn apart

theorem takes_iff (side : Side) :
    (arena.commit.part side).takes = true ↔
      (played.report.robot side).action = some .takeFuel := by
  rw [robot_nextTurn turn apart]
  exact decide_eq_true_iff

/-- Red's action and blue's leave the barrels on whose cells nobody has taken fuel. -/
theorem mem_barrels_charged {cell : Cell} :
    cell ∈ (arena.commit.charged arena.commit.minds).barrels.cells ↔
      Remains arena played cell := by
  rw [charged_minds (apart_commit apart)]
  simp only [CellSet.mem_reachedBy, takes_iff turn apart, current_commit]
  constructor
  · rintro ⟨⟨present, red⟩, blue⟩
    refine ⟨present, ?_⟩
    rintro (_ | _)
    · exact red
    · exact blue
  · rintro ⟨present, left⟩
    exact ⟨⟨present, left .red⟩, left .blue⟩

omit apart in
theorem robotCells_charged :
    (arena.commit.charged arena.commit.minds).robotCells = played.arena.robotCells := by
  obtain ⟨-, rfl⟩ := nextTurn_eq_ok_iff.mp turn
  obtain ⟨barrels, random, spawned⟩ := maybeSpawn_frame (arena.commit.charged arena.commit.minds)
  rw [arena_resolve, spawned]
  rfl

theorem mem_freeCells_charged {cell : Cell} :
    cell ∈ (arena.commit.charged arena.commit.minds).freeCells ↔ Vacant arena played cell := by
  have sameGrid : (arena.commit.charged arena.commit.minds).grid = arena.grid := by
    rw [grid, config_charged]
    rfl
  rw [mem_freeCells, sameGrid, robotCells_charged turn, mem_barrels_charged turn apart]
  unfold Vacant
  tauto

end Turn

/-! ### Barrels that appear -/

theorem freeCells_withRandom (arena : Arena) (random : Random) :
    ({ arena with random } : Arena).freeCells = arena.freeCells := by
  rw [freeCells, freeCells, takenCells, takenCells]
  rfl

theorem spawnBarrel_barrels (arena : Arena) :
    (∃ cell ∈ arena.freeCells, arena.spawnBarrel.1.barrels = arena.barrels.insert cell) ∨
      (arena.freeCells = [] ∧ arena.spawnBarrel.1.barrels = arena.barrels) := by
  rcases spawnBarrel_cases arena with ⟨full, same⟩ | ⟨cell, free, random, spawned⟩
  · exact .inr ⟨full, by rw [same]⟩
  · exact .inl ⟨cell, free, by rw [spawned]⟩

/-- A barrel appears exactly if the roll for it succeeds and there is a free cell. -/
theorem maybeSpawn_barrels (arena : Arena) :
    (arena.roll = true ∧ ∃ cell ∈ arena.freeCells,
        arena.maybeSpawn.1.barrels = arena.barrels.insert cell) ∨
      (¬(arena.roll = true ∧ ∃ cell, cell ∈ arena.freeCells) ∧
        arena.maybeSpawn.1.barrels = arena.barrels) := by
  cases rolled : arena.roll with
  | false =>
      refine .inr ⟨?_, barrels_maybeSpawn_of_unlucky rolled⟩
      rintro ⟨lucky, -⟩
      cases lucky
  | true =>
      rw [maybeSpawn_of_lucky rolled]
      -- The random source is set aside: a comparison of two arenas would compare their draws.
      generalize arena.random.advance = random
      have spawned := spawnBarrel_barrels { arena with random }
      rw [freeCells_withRandom] at spawned
      rcases spawned with ⟨cell, free, inserted⟩ | ⟨full, same⟩
      · exact .inl ⟨rfl, cell, free, inserted⟩
      · refine .inr ⟨?_, same⟩
        rintro ⟨-, cell, free⟩
        rw [full] at free
        cases free

/-! ### Barrels that fill a tank -/

namespace Part

variable {grid : Grid} {config : Config} {me other : Part}

/-- What a robot siphons off does not fit into a full tank. -/
theorem fuel_of_barrel (takes : me.takes = true) (found : me.onBarrel = true) :
    me.fuel grid config other = config.maxFuel := by
  have filled : me.filled config = config.maxFuel := by simp [Part.filled, takes, found]
  have amount := other.body.extractable_nonneg config.maxFuel
  unfold fuel
  rw [filled]
  split
  · omega
  · rfl

theorem cost_eq_tickCost_after :
    me.cost grid config other = (me.after grid config other).tickCost config := by
  obtain ⟨nextPos, same⟩ := after_frame grid config me other
  rw [same]
  rfl

end Part

/-! ### The ledger -/

/-- The barrels before and after a tick, and the tanks that they fill. -/
structure BarrelLedger (arena : Arena) (played : Played) : Prop where
  /-- With a lucky roll and a vacant cell, there is one new barrel, on a vacant cell. -/
  spawned : arena.roll = true → (∃ cell, Vacant arena played cell) →
    ∃ spot, Vacant arena played spot ∧ spot ∉ arena.barrels.cells ∧
      ∀ cell, cell ∈ played.arena.barrels.cells ↔ cell = spot ∨ Remains arena played cell
  /-- Otherwise the barrels are those that remain. -/
  kept : ¬(arena.roll = true ∧ ∃ cell, Vacant arena played cell) →
    ∀ cell, cell ∈ played.arena.barrels.cells ↔ Remains arena played cell
  /-- A robot that has taken a barrel has a full tank, less its price and its loss. -/
  refuelled : ∀ side, (played.report.robot side).action = some .takeFuel →
    arena.cell side ∈ arena.barrels.cells →
      arena.cell side ∉ played.arena.barrels.cells ∧
      (played.arena.agent side).body.settledFuel =
        arena.config.maxFuel - (played.arena.agent side).body.tickCost arena.config -
          (played.arena.agent side).body.stolen

section Turn

variable {arena : Arena} {played : Played} (turn : arena.nextTurn = .ok played)
  (apart : arena.cell .red ≠ arena.cell .blue)

include turn apart

theorem cell_mem_robotCells (side : Side) : arena.cell side ∈ played.arena.robotCells := by
  rw [← current_nextTurn turn apart side]
  cases side <;> simp [robotCells, agent]

/-- A vacant cell has had no barrel before the tick either. -/
theorem Vacant.not_mem_barrels {cell : Cell} (vacant : Vacant arena played cell) :
    cell ∉ arena.barrels.cells := by
  intro present
  refine vacant.2.1 ⟨present, ?_⟩
  rintro side - rfl
  exact vacant.2.2 (cell_mem_robotCells turn apart side)

theorem settledFuel_of_barrel {side : Side}
    (takes : (played.report.robot side).action = some .takeFuel)
    (found : arena.cell side ∈ arena.barrels.cells) :
    (played.arena.agent side).body.settledFuel =
      arena.config.maxFuel - (played.arena.agent side).body.tickCost arena.config -
        (played.arena.agent side).body.stolen := by
  have onBarrel : (arena.commit.part side).onBarrel = true := by
    have here := current_commit arena side
    have present : arena.barrels.contains (arena.cell side) = true := by
      simpa [CellSet.contains] using found
    rw [← here] at present
    exact present
  rw [body_nextTurn turn apart side, Part.settledFuel_after, Part.after_stolen,
    ← Part.cost_eq_tickCost_after, Part.fuel_of_barrel ((takes_iff turn apart side).mpr takes)
      onBarrel]

end Turn

/-- The barrels after a tick: those that remain, and one more if the roll succeeds and a cell is
vacant. -/
theorem barrels_after {arena : Arena} {played : Played}
    (turn : arena.nextTurn = .ok played) (apart : arena.cell .red ≠ arena.cell .blue) :
    (arena.roll = true ∧ ∃ spot, Vacant arena played spot ∧
        ∀ cell, cell ∈ played.arena.barrels.cells ↔ cell = spot ∨ Remains arena played cell) ∨
      (¬(arena.roll = true ∧ ∃ spot, Vacant arena played spot) ∧
        ∀ cell, cell ∈ played.arena.barrels.cells ↔ Remains arena played cell) := by
  have after : played.arena.barrels =
      (arena.commit.charged arena.commit.minds).maybeSpawn.1.barrels := by
    obtain ⟨-, rfl⟩ := nextTurn_eq_ok_iff.mp turn
    rw [arena_resolve, barrels_atTick]
  have sameRoll : (arena.commit.charged arena.commit.minds).roll = arena.roll := by
    rw [roll, random_charged, config_charged]
    rfl
  have spawn := maybeSpawn_barrels (arena.commit.charged arena.commit.minds)
  simp only [sameRoll, mem_freeCells_charged turn apart] at spawn
  rw [after]
  rcases spawn with ⟨lucky, spot, vacant, inserted⟩ | ⟨unlucky, same⟩
  · refine .inl ⟨lucky, spot, vacant, ?_⟩
    intro cell
    rw [inserted, CellSet.mem_insert, mem_barrels_charged turn apart]
  · refine .inr ⟨unlucky, ?_⟩
    intro cell
    rw [same, mem_barrels_charged turn apart]

/-- Every tick keeps the ledger. -/
theorem barrelLedger_nextTurn {arena : Arena} {played : Played}
    (turn : arena.nextTurn = .ok played) (apart : arena.cell .red ≠ arena.cell .blue) :
    BarrelLedger arena played := by
  have after := barrels_after turn apart
  constructor
  · intro lucky vacant
    rcases after with ⟨-, spot, free, ledger⟩ | ⟨none, -⟩
    · exact ⟨spot, free, free.not_mem_barrels turn apart, ledger⟩
    · exact absurd ⟨lucky, vacant⟩ none
  · intro none
    rcases after with ⟨lucky, spot, free, -⟩ | ⟨-, ledger⟩
    · exact absurd ⟨lucky, spot, free⟩ none
    · exact ledger
  · intro side takes found
    refine ⟨?_, settledFuel_of_barrel turn apart takes found⟩
    have taken : ¬Remains arena played (arena.cell side) := fun remains =>
      remains.2 side takes rfl
    rcases after with ⟨-, spot, free, ledger⟩ | ⟨-, ledger⟩
    · rw [ledger]
      rintro (same | remains)
      · exact free.not_mem_barrels turn apart (same ▸ found)
      · exact taken remains
    · rw [ledger]
      exact taken

/-- All barrels of a match are inside the arena, and in every tick exactly those disappear that a
robot takes and at most one appears, on a vacant cell. -/
theorem barrels_are_accounted_for {config : Config} (valid : config.Valid) (red blue : Program) :
    ∃ arena events, Arena.start config red blue = .ok (arena, events) ∧
      ∀ turns, (arena.afterTurns turns).barrels.Inside ⟨config.gridSize⟩ ∧
        ∀ played, (arena.afterTurns turns).nextTurn = .ok played →
          BarrelLedger (arena.afterTurns turns) played := by
  obtain ⟨barrels, random, events, started⟩ := start_of_valid valid red blue
  refine ⟨_, events, started, ?_⟩
  intro turns
  have sized : 1 ≤ config.gridSize := valid.limits.one_le_gridSize
  have placed := placed_start valid red blue barrels random
  refine ⟨barrels_inside_afterTurns placed sized (barrels_inside_start started) turns, ?_⟩
  intro played turn
  exact barrelLedger_nextTurn turn (placed_afterTurns placed sized turns).next_apart

/-- The first tick of a match in a narrow arena. -/
theorem barrels_are_accounted_for_of_narrow :
    narrow.Valid ∧ ∃ arena events played,
      Arena.start narrow Prebuilt.loopLeftRightMove Prebuilt.aimAndGo = .ok (arena, events) ∧
        arena.barrels.Inside ⟨2⟩ ∧ arena.nextTurn = .ok played ∧ BarrelLedger arena played := by
  obtain ⟨arena, events, started, ledger⟩ :=
    barrels_are_accounted_for valid_narrow Prebuilt.loopLeftRightMove Prebuilt.aimAndGo
  obtain ⟨barrels, random, setUpEvents, same⟩ :=
    start_of_valid valid_narrow Prebuilt.loopLeftRightMove Prebuilt.aimAndGo
  cases started.symm.trans same
  have going : ({ setUp narrow Prebuilt.loopLeftRightMove Prebuilt.aimAndGo with
      barrels, random } : Arena).outcome? = none := rfl
  have turn := nextTurn_of_undecided going
  exact ⟨valid_narrow, _, _, _, started, (ledger 0).1, turn, (ledger 0).2 _ turn⟩

end FuelDuel.Arena
