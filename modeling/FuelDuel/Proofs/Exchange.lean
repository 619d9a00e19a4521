import FuelDuel.Proofs.Tick

/-!
The order of the sides. Red thinks and acts first, but exchanging the two agents before a tick comes
to the same as exchanging them after it (`tick_ignores_side_order`): acting first is no advantage.

What a tick makes of a robot is the same function for both sides, so only what the sides share is
left to look at. The barrels that two robots take are taken in either order
(`CellSet.reachedBy_comm`), and a barrel that appears is drawn from the free cells, which are the
same cells in the same order however the robots are named (`freeCells_exchanged`).
-/

namespace FuelDuel.Arena

/-! ### Sets of cells -/

namespace CellSet

/-- Sets with the same cells are equal: the order in which cells were added is not kept. -/
theorem eq_of_mem_iff {first second : CellSet}
    (same : ∀ cell, cell ∈ first.cells ↔ cell ∈ second.cells) : first = second := by
  have permuted : first.cells.Perm second.cells :=
    (List.perm_ext_iff_of_nodup first.nodup second.nodup).mpr same
  have listed : first.cells = second.cells :=
    permuted.eq_of_pairwise
      (fun _ _ _ _ less more => absurd (Cell.lt_trans less more) (Cell.not_lt_self _))
      first.ordered second.ordered
  cases first
  cases second
  cases listed
  rfl

theorem mem_foldl_insert {cells : List Cell} {set : CellSet} {cell : Cell} :
    cell ∈ (cells.foldl insert set).cells ↔ cell ∈ cells ∨ cell ∈ set.cells := by
  induction cells generalizing set with
  | nil => simp
  | cons first rest ih =>
      rw [List.foldl_cons, ih, mem_insert, List.mem_cons]
      exact or_left_comm.trans or_assoc.symm

theorem erase_comm (set : CellSet) (first second : Cell) :
    (set.erase first).erase second = (set.erase second).erase first := by
  simp only [erase, List.erase_comm first second]

theorem reachedBy_comm (barrels : CellSet) (first second : Part) :
    (barrels.reachedBy first).reachedBy second = (barrels.reachedBy second).reachedBy first := by
  unfold reachedBy
  by_cases firstTakes : first.takes
  · by_cases secondTakes : second.takes
    · simp only [firstTakes, secondTakes, if_true]
      exact barrels.erase_comm _ _
    · simp only [firstTakes, secondTakes, if_true, if_false, Bool.false_eq_true]
  · simp only [firstTakes, if_false, Bool.false_eq_true]

end CellSet

/-! ### Exchanging the sides -/

/-- The outcome for the exchanged sides. -/
def Outcome.exchanged : Outcome → Outcome
  | redWins => blueWins
  | blueWins => redWins
  | draw => draw
  | timeout => timeout

/-- The report with both robots' parts exchanged. -/
def TickReport.exchanged (report : TickReport) : TickReport :=
  { report with red := report.blue, blue := report.red }

/-- The arena in which each side plays the other side's agent. -/
def exchanged (arena : Arena) : Arena := { arena with red := arena.blue, blue := arena.red }

section Views

variable (arena : Arena)

theorem agent_exchanged (side : Side) : arena.exchanged.agent side = arena.agent side.other := by
  cases side <;> rfl

theorem commit_exchanged : arena.exchanged.commit = arena.commit.exchanged := rfl

theorem outcome_exchanged : arena.exchanged.outcome? = arena.outcome?.map Outcome.exchanged := by
  unfold outcome? exchanged
  cases arena.red.body.isDead <;> cases arena.blue.body.isDead <;> rfl

theorem mind_exchanged (side : Side) : arena.exchanged.mind side = arena.mind side.other := by
  simp only [mind, agent_exchanged]
  rfl

theorem part_exchanged (side : Side) : arena.exchanged.part side = arena.part side.other := by
  simp only [part, mind_exchanged, agent_exchanged]
  rfl

theorem agentAfter_exchanged (side : Side) :
    arena.exchanged.agentAfter side = arena.agentAfter side.other := by
  simp only [agentAfter, mind_exchanged, part_exchanged]
  rfl

theorem reportAfter_exchanged (side : Side) :
    arena.exchanged.reportAfter side = arena.reportAfter side.other := by
  simp only [reportAfter, agentAfter_exchanged, mind_exchanged, part_exchanged]
  rfl

theorem tickReport_exchanged (after : Arena) :
    arena.exchanged.tickReport after.exchanged = (arena.tickReport after).exchanged := by
  have red : arena.exchanged.reportAfter .red = arena.reportAfter .blue :=
    arena.reportAfter_exchanged .red
  have blue : arena.exchanged.reportAfter .blue = arena.reportAfter .red :=
    arena.reportAfter_exchanged .blue
  rw [tickReport, red, blue]
  rfl

theorem takenCells_exchanged : arena.exchanged.takenCells = arena.takenCells := by
  unfold takenCells
  congr 1
  apply CellSet.eq_of_mem_iff
  intro cell
  rw [CellSet.mem_foldl_insert, CellSet.mem_foldl_insert]
  simp only [robotCells, exchanged, List.mem_cons, List.not_mem_nil, or_false]
  grind

theorem freeCells_exchanged : arena.exchanged.freeCells = arena.freeCells := by
  rw [freeCells, takenCells_exchanged]
  rfl

/-- The same barrel appears. -/
theorem spawnBarrel_exchanged :
    arena.exchanged.spawnBarrel = (arena.spawnBarrel.1.exchanged, arena.spawnBarrel.2) := by
  simp only [spawnBarrel, freeCells_exchanged]
  split <;> rfl

theorem maybeSpawn_exchanged :
    arena.exchanged.maybeSpawn = (arena.maybeSpawn.1.exchanged, arena.maybeSpawn.2) := by
  cases drawn : (arena.random.chance arena.config.spawnChance).1 with
  | true =>
      have lucky : (arena.exchanged.random.chance arena.exchanged.config.spawnChance).1 = true :=
        drawn
      rw [maybeSpawn_of_lucky drawn, maybeSpawn_of_lucky lucky]
      exact spawnBarrel_exchanged { arena with random := arena.random.advance }
  | false =>
      have unlucky :
          (arena.exchanged.random.chance arena.exchanged.config.spawnChance).1 = false := drawn
      rw [maybeSpawn_of_unlucky drawn, maybeSpawn_of_unlucky unlucky]
      rfl

end Views

section Resolution

variable {arena : Arena} (apart : arena.red.body.current.pos ≠ arena.blue.body.current.pos)

include apart

theorem apart_exchanged :
    arena.exchanged.red.body.current.pos ≠ arena.exchanged.blue.body.current.pos :=
  apart.symm

theorem charged_exchanged :
    arena.exchanged.charged arena.exchanged.minds = (arena.charged arena.minds).exchanged := by
  rw [charged_minds apart, charged_minds (apart_exchanged apart), part_exchanged, part_exchanged,
    agentAfter_exchanged, agentAfter_exchanged, CellSet.reachedBy_comm]
  rfl

theorem arena_resolve_exchanged :
    (arena.exchanged.resolve arena.exchanged.minds).arena =
      (arena.resolve arena.minds).arena.exchanged := by
  rw [arena_resolve, arena_resolve, charged_exchanged apart, maybeSpawn_exchanged]
  generalize (arena.charged arena.minds).maybeSpawn = spawned
  rfl

theorem report_resolve_exchanged :
    (arena.exchanged.resolve arena.exchanged.minds).report =
      (arena.resolve arena.minds).report.exchanged := by
  rw [report_resolve apart, report_resolve (apart_exchanged apart), arena_resolve_exchanged apart,
    tickReport_exchanged]

end Resolution

/-! ### One tick -/

/-- Exchanging the agents and then playing a tick comes to the same as playing the tick and then
exchanging the agents, up to what is logged. -/
theorem tick_ignores_side_order {arena : Arena}
    (apart : arena.red.body.nextPos ≠ arena.blue.body.nextPos) :
    (∀ played, arena.nextTurn = .ok played →
      ∃ events, arena.exchanged.nextTurn =
        .ok ⟨played.report.exchanged, played.arena.exchanged, events⟩) ∧
      ∀ refusal, arena.nextTurn = .error refusal →
        ∃ outcome, refusal = .finished outcome ∧
          arena.exchanged.nextTurn = .error (.finished outcome.exchanged) := by
  constructor
  · intro played turn
    obtain ⟨undecided, rfl⟩ := nextTurn_eq_ok_iff.mp turn
    have undecided' : arena.exchanged.outcome? = none := by
      rw [outcome_exchanged, undecided]
      rfl
    refine ⟨(arena.commit.exchanged.resolve arena.commit.exchanged.minds).events, ?_⟩
    rw [nextTurn_of_undecided undecided', commit_exchanged,
      ← report_resolve_exchanged (apart_commit apart),
      ← arena_resolve_exchanged (apart_commit apart)]
  · intro refusal turn
    obtain ⟨outcome, decided, rfl⟩ := nextTurn_eq_error_iff.mp turn
    have decided' : arena.exchanged.outcome? = some outcome.exchanged := by
      rw [outcome_exchanged, decided]
      rfl
    exact ⟨outcome, rfl, nextTurn_of_decided decided'⟩

/-- Two robots face each other, each on a barrel, and both reach for fuel: each fills its own tank
and siphons from the other. -/
def standoff : Arena :=
  { config := {}
    barrels := .ofList [⟨3, 3⟩, ⟨4, 3⟩, ⟨9, 7⟩]
    random := .ofSeed 5
    red := { body := .atRest ⟨3, 3⟩ .east 40, program := ⟨[.takeFuel, .move none]⟩ }
    blue := { body := .atRest ⟨4, 3⟩ .west 70, program := ⟨[.shield true, .takeFuel]⟩ }
    tick := 17 }

theorem tick_ignores_side_order_of_standoff :
    standoff.red.body.nextPos ≠ standoff.blue.body.nextPos ∧
      ∃ played events, standoff.nextTurn = .ok played ∧
        standoff.exchanged.nextTurn =
          .ok ⟨played.report.exchanged, played.arena.exchanged, events⟩ := by
  have apart : standoff.red.body.nextPos ≠ standoff.blue.body.nextPos := by decide
  have undecided : standoff.outcome? = none := by decide
  have turn := nextTurn_of_undecided undecided
  obtain ⟨events, turn'⟩ := (tick_ignores_side_order apart).1 _ turn
  exact ⟨apart, _, events, turn, turn'⟩

end FuelDuel.Arena
