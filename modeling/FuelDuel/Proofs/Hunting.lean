import FuelDuel.Proofs.Approach
import FuelDuel.Proofs.BarrelLedger
import FuelDuel.Proofs.Interchange
import FuelDuel.Proofs.Sight
import FuelDuel.Proofs.TickLaw

/-!
One turn of a hunt. One robot hunts the only barrel, and the other one has no program and is not in
its way (`Hunt`). As long as there is fuel the hunter's sensors show the barrel where it is, so its
program performs the action that its rule gives for the offset of the barrel (`Hunt.report`). A turn
of the hunter does to that offset what the action says, if moves are made only ahead
(`Hunt.heading_nextTurn`): the step leads towards the barrel, so it stays inside the rectangle that
hunter and barrel span, where neither a wall nor the opponent is in the way. So the hunt goes on
(`Hunt.onward`) until the hunter reaches for fuel.
-/

namespace FuelDuel.Arena

open FuelDuel.Execution
open FuelDuel.Language
open FuelDuel.World

/-! ### Turns -/

section Turn

variable {arena : Arena} {played : Played} (turn : arena.nextTurn = .ok played)
  (apart : arena.cell .red ≠ arena.cell .blue)

include turn apart

/-- A robot that does not move keeps its cell. -/
theorem cell_of_not_move {side : Side}
    (still : (played.report.robot side).action ≠ some .move) :
    played.arena.cell side = arena.cell side := by
  rw [action_nextTurn turn apart] at still
  have stays : arena.goal side = arena.cell side := by
    rw [goal, Part.goal, if_neg still, target_commit]
  rw [cell_nextTurn turn apart, if_pos (.inl stays)]

/-- A robot that moves gets to the cell ahead, if that is inside and the opponent neither stands
there nor moves. -/
theorem cell_of_move (inside : ∀ side, arena.grid.contains (arena.cell side) = true) {side : Side}
    (moves : (played.report.robot side).action = some .move)
    (free : arena.grid.contains (arena.ahead side) = true)
    (clear : arena.ahead side ≠ arena.cell side.other)
    (still : (played.report.robot side.other).action ≠ some .move) :
    played.arena.cell side = arena.ahead side := by
  have wish : arena.wish played side = arena.ahead side := if_pos ⟨moves, free⟩
  have otherWish : arena.wish played side.other = arena.cell side.other := by
    rw [Arena.wish, if_neg fun both => still both.1, pos_stance]
  have leaves : arena.ahead side ≠ (arena.stance side).pos := Cell.moved_ne _ _
  rw [← stop_report turn, stop_nextTurn turn apart inside, wish, otherWish,
    pos_stance arena side.other]
  exact if_pos ⟨leaves, clear, clear⟩

theorem dir_nextTurn (side : Side) :
    (played.arena.stance side).dir =
      (arena.stance side).dir.after (played.report.robot side).action := by
  rw [← facing_nextTurn turn apart, dir_stance]
  obtain ⟨thought, blocked, same⟩ := report_nextTurn turn side
  rw [same]
  rfl

/-- If nobody reaches for fuel, a robot pays the price of the tick, and that is all. -/
theorem settledFuel_of_not_takeFuel {side : Side}
    (mine : (played.report.robot side).action ≠ some .takeFuel)
    (theirs : (played.report.robot side.other).action ≠ some .takeFuel) :
    (played.arena.agent side).body.settledFuel =
      (arena.agent side).body.settledFuel -
        (played.arena.agent side).body.tickCost arena.config := by
  rw [action_nextTurn turn apart] at mine theirs
  have leaves : (arena.commit.part side).takes = false := by simpa [Part.takes] using mine
  have kept : (arena.commit.part side).fuel arena.grid arena.config (arena.commit.part side.other) =
      (arena.agent side).body.settledFuel := by
    rw [← (fuel_commit arena side).2]
    simp [Part.fuel, Part.filled, Part.siphons, leaves]
  have lost : (arena.commit.part side).loss arena.grid arena.config
      (arena.commit.part side.other) = 0 := by
    rcases loss_commit arena side with none | ⟨takes, -⟩
    · exact none
    · exact absurd takes theirs
  rw [body_nextTurn turn apart, Part.settledFuel_after, ← Part.cost_eq_tickCost_after, kept, lost]
  omega

/-- If no barrel appears, the barrels are those that remain. -/
theorem mem_barrels_of_spawnless
    (spawnless : ∀ cell ∈ played.arena.barrels.cells, cell ∈ arena.barrels.cells) (cell : Cell) :
    cell ∈ played.arena.barrels.cells ↔ Remains arena played cell := by
  rcases barrels_after turn apart with ⟨-, spot, vacant, ledger⟩ | ⟨-, ledger⟩
  · have appeared : spot ∈ played.arena.barrels.cells := (ledger spot).mpr (.inl rfl)
    exact absurd (spawnless spot appeared) (vacant.not_mem_barrels turn apart)
  · exact ledger cell

end Turn

/-! ### What a hunter decides -/

/-- In a tick with fuel in the tank and a barrel in sight the program does a round, with the action
that the rule gives for the closest barrel. -/
def Steers (program : Program) (rule : Offset Int → Action) : Prop :=
  ∀ view : View, World.performed view = none → 0 < view.readings.fuel.toInt →
    (Int32.ofNat view.readings.barrels.length).toInt ≠ 0 →
      ∃ writes, Rounds program view writes (rule view.readings.closest)

theorem steers_fallback : Steers Prebuilt.fallback approached :=
  fun _ free fuelled sighted => ⟨_, rounds_fallback free fuelled sighted⟩

theorem steers_aimAndGo : Steers Prebuilt.aimAndGo aimed :=
  fun _ free _ _ => ⟨_, rounds_aimAndGo free⟩

/-- The offset at which the robot of a side sees a cell when the next tick starts. -/
def heading (arena : Arena) (side : Side) (cell : Cell) : Offset Int :=
  (arena.stance side).dir.relative ((arena.stance side).pos.shiftTo cell)

/-- One robot hunts the only barrel. The other one has no program and is not in its way: it stands
outside the rectangle that the hunter and the barrel span. -/
structure Hunt (arena : Arena) (side : Side) (program : Program) (barrel : Cell) : Prop where
  valid : arena.config.Valid
  program : (arena.agent side).program = program
  opponent : (arena.agent side.other).program = .empty
  barrels : arena.barrels.cells = [barrel]
  barrelInside : arena.grid.contains barrel = true
  inside : ∀ any, arena.grid.contains (arena.cell any) = true
  clear : ¬Cell.Between (arena.cell side) barrel (arena.cell side.other)
  /-- The fuel fits into a word, so the gauge shows it. -/
  fuel : (arena.agent side).body.settledFuel ≤ Int32.maxValue.toInt

theorem Perception.barrels_of_single {grid : Grid} {barrels : CellSet} {barrel : Cell}
    (single : barrels.cells = [barrel]) (me other : Body) :
    (capture grid barrels me other).barrels = [me.sees barrel] := by
  rw [barrels_capture, Body.closest, single, List.mergeSort_singleton]
  rfl

namespace Hunt

variable {arena : Arena} {side : Side} {program : Program} {rule : Offset Int → Action}
  {barrel : Cell} (hunt : Hunt arena side program barrel)

include hunt

theorem apart : arena.cell .red ≠ arena.cell .blue := by
  have distinct : arena.cell side ≠ arena.cell side.other := fun met =>
    hunt.clear (met ▸ Cell.between_left _ _)
  cases side with
  | red => exact distinct
  | blue => exact distinct.symm

/-- The hunter sees one barrel. -/
theorem sights : (arena.commit.perceived side).barrels = [arena.heading side barrel] :=
  Perception.barrels_of_single hunt.barrels _ _

/-- The closest barrel is the one that is hunted. -/
theorem closest : (arena.commit.perceived side).readings.closest = arena.heading side barrel := by
  have small : arena.grid.size ≤ Config.maxGridSize := hunt.valid.limits.gridSize_le
  have here : arena.grid.contains (arena.stance side).pos = true := by
    rw [pos_stance]
    exact hunt.inside side
  have short := (arena.stance side).dir.seen_short small here hunt.barrelInside
  unfold Readings.closest
  rw [sense_barrel, sense_barrel, hunt.sights]
  exact congrArg₂ Offset.mk short.1.toInt_ofInt short.2.toInt_ofInt

/-- While the match is undecided, the program does a round. -/
theorem rounds (steers : Steers program rule) (undecided : arena.outcome? = none) :
    ∃ writes, Rounds (arena.commit.agent side).program (arena.commit.view side) writes
      (rule (arena.heading side barrel)) := by
  have fuelled := outcome_eq_none_iff.mp undecided side
  have most := hunt.fuel
  have gauge : (arena.commit.view side).readings.fuel.toInt =
      (arena.agent side).body.settledFuel := by
    show (Int32.ofInt (arena.commit.part side).body.current.fuel).toInt = _
    have limit : Int32.maxValue.toInt = 2147483647 := rfl
    rw [(fuel_commit arena side).1]
    exact Int32.toInt_ofInt_of_le (by omega) (by omega)
  have sighted : (Int32.ofNat (arena.commit.view side).readings.barrels.length).toInt ≠ 0 := by
    show (Int32.ofNat (arena.commit.perceived side).readings.barrels.length).toInt ≠ 0
    rw [Perception.readings, hunt.sights]
    exact (by decide : (Int32.ofNat 1).toInt ≠ 0)
  rw [commit_agent, ← hunt.closest]
  show ∃ writes, Rounds (arena.agent side).program _ _ _
  rw [hunt.program]
  exact steers _ rfl (by omega) sighted

/-! ### One turn of a hunt -/

/-- The opponent decides nothing. -/
theorem opponent_mind :
    arena.commit.mind side.other = ({}, arena.commit.agent side.other) := by
  apply mind_of_empty
  rw [commit_agent]
  exact hunt.opponent

variable (steers : Steers program rule) {played : Played} (turn : arena.nextTurn = .ok played)

include steers turn

/-- What is reported of the hunter: it performs the action that the rule gives, without a fault. -/
theorem report :
    (played.report.robot side).action = some (rule (arena.heading side barrel)) ∧
      (played.report.robot side).fault = none ∧
      (played.report.robot side).start = arena.cell side := by
  obtain ⟨writes, rounds⟩ := hunt.rounds steers (nextTurn_eq_ok_iff.mp turn).1
  have thought := (mind_of_rounds rounds).1
  refine ⟨?_, ?_, start_report turn hunt.apart side⟩
  · rw [action_nextTurn turn hunt.apart]
    exact congrArg (fun thought => thought.decision.action) thought
  · rw [robot_nextTurn turn hunt.apart]
    exact congrArg Thought.fault thought

omit steers in
theorem opponent_report : (played.report.robot side.other).action = none := by
  rw [action_nextTurn turn hunt.apart]
  exact congrArg (fun mind => mind.1.decision.action) hunt.opponent_mind

/-- The barrel remains unless the hunter takes it. -/
theorem remains_iff {cell : Cell} :
    Remains arena played cell ↔
      cell = barrel ∧
        ¬(rule (arena.heading side barrel) = .takeFuel ∧ arena.cell side = barrel) := by
  unfold Remains
  rw [hunt.barrels, List.mem_singleton]
  have mine := (hunt.report steers turn).1
  have theirs := hunt.opponent_report turn
  constructor
  · rintro ⟨rfl, left⟩
    refine ⟨rfl, fun ⟨takes, here⟩ => ?_⟩
    exact left side (by rw [mine, takes]) here
  · rintro ⟨rfl, left⟩
    refine ⟨rfl, fun any takes here => ?_⟩
    by_cases same : any = side
    · rw [same, mine, Option.some.injEq] at takes
      exact left ⟨takes, same ▸ here⟩
    · rw [Side.eq_other_of_ne same, theirs] at takes
      cases takes

/-- The step that a hunter makes is towards the barrel. -/
theorem cell_ahead (front : 0 < (arena.heading side barrel).ahead)
    (moves : rule (arena.heading side barrel) = .move) :
    played.arena.cell side = arena.ahead side := by
  have towards : Cell.Between (arena.cell side) barrel (arena.ahead side) := by
    rw [← pos_stance]
    exact Direction.between_moved front (Cell.between_left _ _)
  apply cell_of_move turn hunt.apart hunt.inside
  · rw [(hunt.report steers turn).1, moves]
  · exact towards.contains (hunt.inside side) hunt.barrelInside
  · exact fun met => hunt.clear (met ▸ towards)
  · simp [hunt.opponent_report turn]

/-- The barrel is seen as the action has changed its offset. -/
theorem heading_nextTurn
    (forward : rule (arena.heading side barrel) = .move → 0 < (arena.heading side barrel).ahead) :
    played.arena.heading side barrel =
      (arena.heading side barrel).after (rule (arena.heading side barrel)) := by
  have action := (hunt.report steers turn).1
  have dir := dir_nextTurn turn hunt.apart side
  rw [action] at dir
  rw [heading, dir, pos_stance]
  by_cases acts : rule (arena.heading side barrel) = .move
  · rw [acts, hunt.cell_ahead steers turn (forward acts) acts]
    exact Direction.relative_moved _ _ _
  · have stays : played.arena.cell side = arena.cell side := by
      apply cell_of_not_move turn hunt.apart
      rw [action, ne_eq, Option.some.injEq]
      exact acts
    rw [stays, ← pos_stance]
    cases turns : rule (arena.heading side barrel) with
    | move => exact absurd turns acts
    | turn way => exact Direction.relative_turned _ _ _
    | takeFuel => rfl
    | wait => rfl

/-- The hunt goes on after a turn in which the hunter has not reached for fuel. -/
theorem onward (leaves : rule (arena.heading side barrel) ≠ .takeFuel)
    (forward : rule (arena.heading side barrel) = .move → 0 < (arena.heading side barrel).ahead)
    (spawnless : ∀ cell ∈ played.arena.barrels.cells, cell ∈ arena.barrels.cells) :
    Hunt played.arena side program barrel := by
  obtain ⟨writes, rounds⟩ := hunt.rounds steers (nextTurn_eq_ok_iff.mp turn).1
  have apart := hunt.apart
  have limits := hunt.valid.limits
  have mine := (hunt.report steers turn).1
  have theirs := hunt.opponent_report turn
  have sameBarrels : played.arena.barrels = arena.barrels := by
    apply CellSet.eq_of_mem_iff
    intro cell
    rw [mem_barrels_of_spawnless turn apart spawnless, hunt.remains_iff steers turn, hunt.barrels,
      List.mem_singleton]
    exact and_iff_left fun taken => leaves taken.1
  have otherCell : played.arena.cell side.other = arena.cell side.other := by
    apply cell_of_not_move turn apart
    simp [theirs]
  constructor
  · rw [config_nextTurn turn]
    exact hunt.valid
  · rw [← advance_of_ok turn, program_advance_of_rounds rounds]
    exact hunt.program
  · rw [agent_nextTurn turn apart, agentAfter, hunt.opponent_mind, commit_agent]
    exact hunt.opponent
  · rw [sameBarrels]
    exact hunt.barrels
  · rw [grid_nextTurn turn]
    exact hunt.barrelInside
  · intro any
    rw [grid_nextTurn turn]
    exact cell_inside turn apart limits.one_le_gridSize (hunt.inside any)
  · rw [otherCell]
    by_cases moves : rule (arena.heading side barrel) = .move
    · rw [hunt.cell_ahead steers turn (forward moves) moves]
      intro between
      have wider := Direction.between_moved (forward moves) between
      rw [pos_stance] at wider
      exact hunt.clear wider
    · rw [cell_of_not_move turn apart (by simpa [mine] using moves)]
      exact hunt.clear
  · have price := Body.waitCost_le_tickCost limits (played.arena.agent side).body
    have free : 0 ≤ arena.config.waitCost := limits.cost_nonneg .wait
    have most := hunt.fuel
    rw [settledFuel_of_not_takeFuel turn apart (by simpa [mine] using leaves) (by simp [theirs])]
    omega

end Hunt

end FuelDuel.Arena
