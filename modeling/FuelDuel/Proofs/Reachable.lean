import FuelDuel.Proofs.FuelRange

/-!
The arenas of a match. Between two ticks a match is in an arena that can be reached from a start: by
playing ticks, and by barrels that are put down or taken away by hand (`Reachable`). Whatever has
happened, its configuration can be played, the robots stand inside the arena and apart, and their
fuel is in its range (`Reachable.inPlay`).
-/

namespace FuelDuel.Arena

open FuelDuel.Language

/-- The arenas that a match can be in between two ticks. -/
inductive Reachable : Arena → Prop where
  | start {config : Config} {red blue : Program} {arena : Arena} {events : List Event}
      (started : Arena.start config red blue = .ok (arena, events)) : Reachable arena
  | turn {arena : Arena} {played : Played} (reached : Reachable arena)
      (turn : arena.nextTurn = .ok played) : Reachable played.arena
  | placeBarrel {arena : Arena} (reached : Reachable arena) (cell : Cell) :
      Reachable (arena.placeBarrel cell).2
  | clearBarrels {arena : Arena} (reached : Reachable arena) : Reachable arena.clearBarrels

/-- What is true of a match between any two ticks. -/
structure InPlay (arena : Arena) : Prop where
  limits : arena.config.Limits
  placed : Placed arena
  fuelled : ∀ side, (arena.agent side).body.Fuelled arena.config

theorem valid_of_started {config : Config} {red blue : Program} {arena : Arena}
    {events : List Event} (started : Arena.start config red blue = .ok (arena, events)) :
    config.Valid := by
  unfold Arena.start at started
  split at started
  · cases started
  · assumption

theorem inPlay_start {config : Config} {red blue : Program} {arena : Arena} {events : List Event}
    (started : Arena.start config red blue = .ok (arena, events)) : InPlay arena := by
  have valid := valid_of_started started
  obtain ⟨rfl, placed⟩ := placed_of_started valid started
  exact ⟨valid.limits, placed, fuelled_start valid started⟩

theorem InPlay.nextTurn {arena : Arena} {played : Played} (inPlay : InPlay arena)
    (turn : arena.nextTurn = .ok played) : InPlay played.arena where
  limits := config_nextTurn turn ▸ inPlay.limits
  placed := inPlay.placed.nextTurn inPlay.limits.one_le_gridSize turn
  fuelled := by
    rw [config_nextTurn turn]
    exact fuelled_nextTurn turn inPlay.limits inPlay.placed inPlay.fuelled

/-- Only the configuration and the agents matter. -/
theorem InPlay.congr {arena other : Arena} (inPlay : InPlay arena)
    (config : other.config = arena.config) (agents : ∀ side, other.agent side = arena.agent side) :
    InPlay other := by
  have grid : other.grid = arena.grid := by rw [Arena.grid, Arena.grid, config]
  have red : other.red = arena.red := agents .red
  have blue : other.blue = arena.blue := agents .blue
  obtain ⟨limits, placed, fuelled⟩ := inPlay
  refine ⟨config ▸ limits, ⟨?_, ?_, ?_, ?_⟩, ?_⟩
  · simpa only [grid, agents] using placed.current_inside
  · simpa only [grid, agents] using placed.next_inside
  · simpa only [red, blue] using placed.current_apart
  · simpa only [red, blue] using placed.next_apart
  · simpa only [config, agents] using fuelled

theorem agent_withBarrels (arena : Arena) (barrels : CellSet) (side : Side) :
    ({ arena with barrels } : Arena).agent side = arena.agent side := by
  cases side <;> rfl

theorem placeBarrel_frame (arena : Arena) (cell : Cell) :
    ∃ barrels, (arena.placeBarrel cell).2 = { arena with barrels } := by
  unfold placeBarrel
  split
  · exact ⟨_, rfl⟩
  · exact ⟨_, rfl⟩

theorem Reachable.inPlay {arena : Arena} (reached : Reachable arena) : InPlay arena := by
  induction reached with
  | start started => exact inPlay_start started
  | turn _ turn ih => exact ih.nextTurn turn
  | placeBarrel _ cell ih =>
      obtain ⟨barrels, same⟩ := placeBarrel_frame _ cell
      exact same ▸ ih.congr rfl (agent_withBarrels _ barrels)
  | clearBarrels _ ih => exact ih.congr rfl (agent_withBarrels _ .empty)

/-- Without barrels a match can be in the arena as it is set up. -/
theorem reachable_setUp {config : Config} (valid : config.Valid) (none : config.initialBarrels = 0)
    (red blue : Program) : Reachable (setUp config red blue) := by
  have started : Arena.start config red blue = .ok (setUp config red blue, []) := by
    have playable : config.invalid? = .none := valid
    rw [Arena.start, playable, none]
    rfl
  exact .start started

/-- A narrow arena without barrels, in which red turns to the cell that blue enters. Red does the
deed in the second tick, when blue is in front of it. -/
def meeting (deed : Stmt) : Arena :=
  setUp { gridSize := 2, initialBarrels := 0 } ⟨[.turn .left, deed]⟩ ⟨[.move none]⟩

theorem meeting_onward (deed : Stmt) :
    ∃ arena, Reachable arena ∧ arena.outcome? = none ∧ arena.config = (meeting deed).config ∧
      ∀ side, arena.agent side = (meeting deed).commit.agentAfter side := by
  have reached : Reachable (meeting deed) := by
    refine reachable_setUp ?_ rfl _ _
    unfold Config.Valid
    decide +kernel
  have undecided : (meeting deed).outcome? = none := rfl
  have turn := nextTurn_of_undecided undecided
  have agents := agent_nextTurn turn reached.inPlay.placed.next_apart
  refine ⟨_, reached.turn turn, ?_, config_nextTurn turn, agents⟩
  rw [outcome_eq_none_iff]
  intro side
  rw [agents]
  cases side
  · exact (by decide : (0 : Int) < 95)
  · exact (by decide : (0 : Int) < 94)

end FuelDuel.Arena
