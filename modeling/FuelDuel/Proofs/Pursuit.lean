import FuelDuel.Proofs.Endurance
import FuelDuel.Proofs.Hunting

/-!
Whole hunts. A program whose rule leads home takes the barrel within a known number of turns, unless
the match ends first (`Hunt.collects`).

The program that plays for a side without one does so from everywhere
(`fallback_collects_barrel`). The program that aims does so only if it starts on the row or on the
column of the barrel. Otherwise it turns left and right forever, and neither leaves its cell nor
reaches for fuel (`aimAndGo_collects_in_line`).
-/

namespace FuelDuel.Arena

open FuelDuel.Execution
open FuelDuel.Language
open FuelDuel.World

/-! ### Turns without new barrels -/

/-- No barrel appears in any of the first turns. -/
def SpawnlessFor (arena : Arena) (turns : Nat) : Prop :=
  ∀ earlier < turns, ∀ played, (arena.afterTurns earlier).nextTurn = .ok played →
    ∀ cell ∈ played.arena.barrels.cells, cell ∈ (arena.afterTurns earlier).barrels.cells

namespace SpawnlessFor

variable {arena : Arena} {turns : Nat}

theorem now (spawnless : SpawnlessFor arena (turns + 1)) {played : Played}
    (turn : arena.nextTurn = .ok played) :
    ∀ cell ∈ played.arena.barrels.cells, cell ∈ arena.barrels.cells :=
  spawnless 0 (Nat.succ_pos turns) played turn

theorem later (spawnless : SpawnlessFor arena (turns + 1)) {played : Played}
    (turn : arena.nextTurn = .ok played) : SpawnlessFor played.arena turns := by
  intro earlier early next laterTurn
  rw [← advance_of_ok turn, afterTurns_advance] at laterTurn ⊢
  exact spawnless (earlier + 1) (Nat.succ_lt_succ early) next laterTurn

theorem mono {more : Nat} (spawnless : SpawnlessFor arena more) (within : turns ≤ more) :
    SpawnlessFor arena turns :=
  fun earlier early => spawnless earlier (Nat.lt_of_lt_of_le early within)

end SpawnlessFor

/-- Robots on different cells stay on different cells. -/
theorem apart_afterTurns {arena : Arena} (apart : arena.cell .red ≠ arena.cell .blue)
    (turns : Nat) : (arena.afterTurns turns).cell .red ≠ (arena.afterTurns turns).cell .blue := by
  apply afterTurns_induction (fun later => later.cell .red ≠ later.cell .blue) apart
  rintro earlier played - apart turn
  exact cells_apart turn apart

/-- As long as the roll for a barrel fails, none appears. -/
theorem spawnlessFor_of_unluckyFor {arena : Arena} (apart : arena.cell .red ≠ arena.cell .blue)
    {turns : Nat} (unlucky : UnluckyFor arena turns) : SpawnlessFor arena turns := by
  intro earlier early played turn cell present
  have rolled : (arena.afterTurns earlier).roll = false := by
    rw [roll, config_afterTurns]
    exact unlucky earlier early played turn
  rcases barrels_after turn (apart_afterTurns apart earlier) with ⟨lucky, -⟩ | ⟨-, ledger⟩
  · rw [rolled] at lucky
    cases lucky
  · exact ((ledger cell).mp present).1

/-! ### Taking the barrel -/

/-- Within some turns the robot of a side takes the barrel on a cell, after which there is none
left, unless the match ends first. In each of these turns it performs an action, without a fault. -/
inductive Collects (side : Side) (barrel : Cell) : Nat → Arena → Prop
  | ended {turns : Nat} {arena : Arena} {outcome : Outcome}
      (decided : arena.outcome? = some outcome) : Collects side barrel turns arena
  | taken {turns : Nat} {arena : Arena} {played : Played} (turn : arena.nextTurn = .ok played)
      (takes : (played.report.robot side).action = some .takeFuel)
      (here : (played.report.robot side).start = barrel)
      (sound : (played.report.robot side).fault = none)
      (bare : played.arena.barrels = .empty) : Collects side barrel (turns + 1) arena
  | onward {turns : Nat} {arena : Arena} {played : Played} {action : Action}
      (turn : arena.nextTurn = .ok played)
      (acts : (played.report.robot side).action = some action)
      (sound : (played.report.robot side).fault = none)
      (later : Collects side barrel turns played.arena) : Collects side barrel (turns + 1) arena

section Hunts

variable {arena : Arena} {side : Side} {program : Program} {rule : Offset Int → Action}
  {barrel : Cell}

/-- What is seen on the spot is on the spot. -/
theorem cell_of_heading_eq_zero (here : arena.heading side barrel = ⟨0, 0⟩) :
    arena.cell side = barrel := by
  have back : (arena.commit.agent side).body.sighted (arena.heading side barrel) = barrel :=
    Body.sighted_sees _ barrel
  rw [here, Body.sighted_zero] at back
  rw [← pos_stance]
  exact back

/-- A program whose rule leads home takes the barrel. -/
theorem Hunt.collects {turns : Nat} (steers : Steers program rule)
    (home : LeadsHome rule turns (arena.heading side barrel))
    (hunt : Hunt arena side program barrel) (spawnless : SpawnlessFor arena turns) :
    Collects side barrel turns arena := by
  generalize same : arena.heading side barrel = offset at home
  induction home generalizing arena with
  | @take turns takes =>
      cases decided : arena.outcome? with
      | some outcome => exact .ended decided
      | none =>
          have turn := nextTurn_of_undecided decided
          obtain ⟨acts, sound, start⟩ := hunt.report steers turn
          rw [same, takes] at acts
          have here := cell_of_heading_eq_zero same
          refine .taken turn acts (start.trans here) sound ?_
          -- The barrel was the only one, and it does not remain.
          apply CellSet.eq_of_mem_iff
          intro cell
          rw [mem_barrels_of_spawnless turn hunt.apart (spawnless.now turn),
            hunt.remains_iff steers turn]
          refine iff_of_false (fun remains => remains.2 ⟨?_, here⟩) (List.not_mem_nil)
          rw [same, takes]
  | @onward turns offset leaves forward _ ih =>
      cases decided : arena.outcome? with
      | some outcome => exact .ended decided
      | none =>
          have turn := nextTurn_of_undecided decided
          obtain ⟨acts, sound, -⟩ := hunt.report steers turn
          subst same
          have next := hunt.onward steers turn leaves forward (spawnless.now turn)
          have seen := hunt.heading_nextTurn steers turn forward
          exact .onward turn acts sound (ih next (spawnless.later turn) seen)

theorem natAbs_heading (arena : Arena) (side : Side) (barrel : Cell) :
    (arena.heading side barrel).right.natAbs + (arena.heading side barrel).ahead.natAbs =
      (barrel.x - (arena.cell side).x).natAbs + (barrel.y - (arena.cell side).y).natAbs := by
  have steps : stepsTo (arena.heading side barrel) = (arena.stance side).pos.distance barrel :=
    Body.stepsTo_sees _ barrel
  rw [pos_stance] at steps
  unfold stepsTo Cell.distance at steps
  omega

/-- What is on the row or on the column of a robot is in line with it. -/
theorem inLine_heading (arena : Arena) (side : Side) (barrel : Cell) :
    InLine (arena.heading side barrel) ↔
      (arena.cell side).x = barrel.x ∨ (arena.cell side).y = barrel.y := by
  rw [heading, pos_stance]
  unfold InLine
  cases (arena.stance side).dir <;> simp only [Direction.relative, Cell.shiftTo] <;> omega

end Hunts

/-! ### Hunting over a known distance -/

/-- Red with a program in the north-west corner and facing south, blue without one in the south-east
corner, and one barrel. -/
def solo (program : Program) (barrel : Cell) : Arena :=
  { config := { spawnChance := 0 }
    barrels := CellSet.empty.insert barrel
    random := .ofSeed 0
    red := { body := .atRest ⟨0, 0⟩ .south 100, program }
    blue := { body := .atRest ⟨11, 11⟩ .north 100, program := .empty }
    tick := 0 }

theorem hunt_solo (program : Program) {barrel : Cell}
    (inside : (Grid.mk 12).contains barrel = true)
    (clear : ¬Cell.Between ⟨0, 0⟩ barrel ⟨11, 11⟩) :
    Hunt (solo program barrel) .red program barrel where
  valid := by
    show Config.invalid? { spawnChance := 0 } = none
    decide +kernel
  program := rfl
  opponent := rfl
  barrels := rfl
  barrelInside := inside
  inside := by
    rintro (_ | _)
    · exact (by decide : (Grid.mk 12).contains ⟨0, 0⟩ = true)
    · exact (by decide : (Grid.mk 12).contains ⟨11, 11⟩ = true)
  clear := clear
  fuel := (by decide : (100 - 0 : Int) ≤ Int32.maxValue.toInt)

theorem spawnlessFor_solo (program : Program) (barrel : Cell) (turns : Nat) :
    SpawnlessFor (solo program barrel) turns := by
  have apart : (solo program barrel).cell .red ≠ (solo program barrel).cell .blue := by
    show (⟨0, 0⟩ : Cell) ≠ ⟨11, 11⟩
    decide
  have zero : ((solo program barrel).config.spawnChance == 0) = true := by
    show ((0 : Float) == 0) = true
    decide +kernel
  exact spawnlessFor_of_unluckyFor apart (unluckyFor_of_spawnChance zero turns)

/-- The program that plays for a side without one takes the barrel: in as many turns as the barrel
is steps away, and at most four more. -/
theorem fallback_collects_barrel {arena : Arena} {side : Side} {barrel : Cell}
    (hunt : Hunt arena side Prebuilt.fallback barrel)
    (spawnless : SpawnlessFor arena ((barrel.x - (arena.cell side).x).natAbs +
      (barrel.y - (arena.cell side).y).natAbs + 4)) :
    Collects side barrel ((barrel.x - (arena.cell side).x).natAbs +
      (barrel.y - (arena.cell side).y).natAbs + 4) arena := by
  have enough : approachTurns (arena.heading side barrel) ≤
      (barrel.x - (arena.cell side).x).natAbs + (barrel.y - (arena.cell side).y).natAbs + 4 := by
    rw [← natAbs_heading]
    unfold approachTurns
    grind
  exact hunt.collects steers_fallback (approached_closes.leadsHome trivial enough) spawnless

theorem fallback_collects_barrel_of_solo :
    let arena := solo Prebuilt.fallback ⟨3, 0⟩
    Hunt arena .red Prebuilt.fallback ⟨3, 0⟩ ∧ SpawnlessFor arena 7 ∧
      Collects .red ⟨3, 0⟩ 7 arena := by
  intro arena
  have hunt : Hunt arena .red Prebuilt.fallback ⟨3, 0⟩ :=
    hunt_solo _ (by decide) (by decide)
  have spawnless : SpawnlessFor arena 7 := spawnlessFor_solo _ _ _
  exact ⟨hunt, spawnless, fallback_collects_barrel hunt spawnless⟩

/-! ### Aiming at what is out of line -/

/-- A hunter that aims at a barrel which is on neither the row nor the column of its cell. -/
structure Askew (arena : Arena) (side : Side) (barrel here : Cell) : Prop where
  hunt : Hunt arena side Prebuilt.aimAndGo barrel
  askew : ¬InLine (arena.heading side barrel)
  here : arena.cell side = here

namespace Askew

variable {arena : Arena} {side : Side} {barrel here : Cell} (askew : Askew arena side barrel here)

include askew

/-- Its rule gives a turn. -/
theorem turns : ∃ way, aimed (arena.heading side barrel) = .turn way := by
  rcases aimed_of_not_inLine askew.askew with left | right
  · exact ⟨.left, left⟩
  · exact ⟨.right, right⟩

/-- It turns left or right. -/
theorem action {played : Played} (turn : arena.nextTurn = .ok played) :
    (played.report.robot side).action = some (.turn .left) ∨
      (played.report.robot side).action = some (.turn .right) := by
  rw [(askew.hunt.report steers_aimAndGo turn).1, Option.some.injEq, Option.some.injEq]
  exact aimed_of_not_inLine askew.askew

/-- Nobody reaches for fuel. -/
theorem not_takeFuel {played : Played} (turn : arena.nextTurn = .ok played) (any : Side) :
    (played.report.robot any).action ≠ some .takeFuel := by
  by_cases same : any = side
  · obtain ⟨way, turns⟩ := askew.turns
    simp [same, (askew.hunt.report steers_aimAndGo turn).1, turns]
  · simp [Side.eq_other_of_ne same, askew.hunt.opponent_report turn]

/-- After a turn to the side the barrel is where it was, the hunter too, and still out of line. -/
theorem nextTurn {played : Played} (turn : arena.nextTurn = .ok played)
    (spawnless : ∀ cell ∈ played.arena.barrels.cells, cell ∈ arena.barrels.cells) :
    Askew played.arena side barrel here := by
  obtain ⟨way, turns⟩ := askew.turns
  obtain ⟨hunt, askew, same⟩ := askew
  have leaves : aimed (arena.heading side barrel) ≠ .takeFuel := by simp [turns]
  have still : aimed (arena.heading side barrel) ≠ .move := by simp [turns]
  have action := (hunt.report steers_aimAndGo turn).1
  refine ⟨hunt.onward steers_aimAndGo turn leaves (fun moves => absurd moves still) spawnless,
    ?_, ?_⟩
  · rw [hunt.heading_nextTurn steers_aimAndGo turn fun moves => absurd moves still, inLine_after]
    exact askew
  · rw [cell_of_not_move turn hunt.apart (by simpa [action] using still)]
    exact same

theorem afterTurns {turns : Nat} (spawnless : SpawnlessFor arena turns) :
    Askew (arena.afterTurns turns) side barrel here := by
  apply afterTurns_induction (fun later => Askew later side barrel here) askew
  intro earlier played early askew turn
  exact askew.nextTurn turn (spawnless earlier early played turn)

/-- The fuel after some turns. In each of them a robot pays for no more than everything. -/
theorem le_fuel_afterTurns {turns : Nat} (spawnless : SpawnlessFor arena turns) (any : Side) :
    (arena.agent any).body.settledFuel - turns * arena.config.toll ≤
      ((arena.afterTurns turns).agent any).body.settledFuel := by
  have limits := askew.hunt.valid.limits
  have nonneg := limits.toll_nonneg
  induction turns with
  | zero => simp [Arena.afterTurns]
  | succ turns ih =>
      have earlier := ih (spawnless.mono (Nat.le_succ turns))
      have reached := askew.afterTurns (spawnless.mono (Nat.le_succ turns))
      have toll : ((turns + 1 : Nat) : Int) * arena.config.toll =
          turns * arena.config.toll + arena.config.toll := by
        push_cast
        rw [Int.add_mul, Int.one_mul]
      rw [Arena.afterTurns, toll]
      cases decided : (arena.afterTurns turns).outcome? with
      | some outcome =>
          rw [advance_of_decided decided]
          omega
      | none =>
          have turn := nextTurn_of_undecided decided
          have price := Body.tickCost_le_toll limits
            (((arena.afterTurns turns).advance).agent any).body
          have paid := settledFuel_of_not_takeFuel turn reached.hunt.apart
            (reached.not_takeFuel turn any) (reached.not_takeFuel turn any.other)
          rw [config_afterTurns, ← advance_of_ok turn] at paid
          omega

end Askew

/-- The program that aims takes the barrel if it starts on the row or on the column of the barrel,
in as many turns as the barrel is steps away and at most two more. From anywhere else it never does:
in every turn it turns left or right, on the cell on which it has started. -/
theorem aimAndGo_collects_in_line {arena : Arena} {side : Side} {barrel : Cell}
    (hunt : Hunt arena side Prebuilt.aimAndGo barrel) :
    ((arena.cell side).x = barrel.x ∨ (arena.cell side).y = barrel.y →
      SpawnlessFor arena ((barrel.x - (arena.cell side).x).natAbs +
        (barrel.y - (arena.cell side).y).natAbs + 2) →
      Collects side barrel ((barrel.x - (arena.cell side).x).natAbs +
        (barrel.y - (arena.cell side).y).natAbs + 2) arena) ∧
    (¬((arena.cell side).x = barrel.x ∨ (arena.cell side).y = barrel.y) →
      ∀ turns, SpawnlessFor arena turns →
        (arena.afterTurns turns).barrels.cells = [barrel] ∧
        (arena.afterTurns turns).cell side = arena.cell side ∧
        ∀ played, (arena.afterTurns turns).nextTurn = .ok played →
          (played.report.robot side).action = some (.turn .left) ∨
            (played.report.robot side).action = some (.turn .right)) := by
  rw [← inLine_heading]
  constructor
  · intro inLine spawnless
    have enough : aimTurns (arena.heading side barrel) ≤
        (barrel.x - (arena.cell side).x).natAbs + (barrel.y - (arena.cell side).y).natAbs + 2 := by
      rw [← natAbs_heading]
      unfold aimTurns
      grind
    exact hunt.collects steers_aimAndGo (aimed_closes.leadsHome inLine enough) spawnless
  · intro outOfLine turns spawnless
    have askew : Askew (arena.afterTurns turns) side barrel (arena.cell side) :=
      Askew.afterTurns ⟨hunt, outOfLine, rfl⟩ spawnless
    exact ⟨askew.hunt.barrels, askew.here, fun played turn => askew.action turn⟩

/-- Red starts in the same column as one barrel, and on neither the row nor the column of another
one. -/
theorem aimAndGo_collects_in_line_of_solo :
    let below := solo Prebuilt.aimAndGo ⟨0, 3⟩
    let aside := solo Prebuilt.aimAndGo ⟨1, 1⟩
    Hunt below .red Prebuilt.aimAndGo ⟨0, 3⟩ ∧ Collects .red ⟨0, 3⟩ 5 below ∧
      Hunt aside .red Prebuilt.aimAndGo ⟨1, 1⟩ ∧
      ∀ turns, (aside.afterTurns turns).barrels.cells = [⟨1, 1⟩] := by
  intro below aside
  have hunt : Hunt below .red Prebuilt.aimAndGo ⟨0, 3⟩ := hunt_solo _ (by decide) (by decide)
  have otherHunt : Hunt aside .red Prebuilt.aimAndGo ⟨1, 1⟩ := hunt_solo _ (by decide) (by decide)
  have inLine : (below.cell .red).x = 0 ∨ (below.cell .red).y = 3 := .inl rfl
  have outOfLine : ¬((aside.cell .red).x = 1 ∨ (aside.cell .red).y = 1) := by
    show ¬((0 : Int) = 1 ∨ (0 : Int) = 1)
    decide
  refine ⟨hunt, (aimAndGo_collects_in_line hunt).1 inLine (spawnlessFor_solo _ _ _), otherHunt,
    fun turns => ?_⟩
  exact ((aimAndGo_collects_in_line otherHunt).2 outOfLine turns (spawnlessFor_solo _ _ _)).1

/-- A barrel two steps away that is not taken in six turns: the match goes on, the barrel stays, and
red does not reach for fuel. -/
theorem aimAndGo_misses_barrel :
    let arena := solo Prebuilt.aimAndGo ⟨1, 1⟩
    Hunt arena .red Prebuilt.aimAndGo ⟨1, 1⟩ ∧ SpawnlessFor arena 6 ∧
      ∀ turns ≤ 6, (arena.afterTurns turns).outcome? = none ∧
        (arena.afterTurns turns).barrels.cells = [⟨1, 1⟩] ∧
        ∀ played, (arena.afterTurns turns).nextTurn = .ok played →
          (played.report.robot .red).action ≠ some .takeFuel := by
  intro arena
  have hunt : Hunt arena .red Prebuilt.aimAndGo ⟨1, 1⟩ := hunt_solo _ (by decide) (by decide)
  have spawnless (turns : Nat) : SpawnlessFor arena turns := spawnlessFor_solo _ _ turns
  have outOfLine : ¬InLine (arena.heading .red ⟨1, 1⟩) := by
    rw [inLine_heading]
    show ¬((0 : Int) = 1 ∨ (0 : Int) = 1)
    decide
  have askew : Askew arena .red ⟨1, 1⟩ ⟨0, 0⟩ := ⟨hunt, outOfLine, rfl⟩
  refine ⟨hunt, spawnless 6, fun turns within => ?_⟩
  have reached := askew.afterTurns (spawnless turns)
  refine ⟨?_, reached.hunt.barrels, fun played turn => reached.not_takeFuel turn .red⟩
  rw [outcome_eq_none_iff]
  intro any
  have left := askew.le_fuel_afterTurns (spawnless turns) any
  have full : (arena.agent any).body.settledFuel = 100 := by cases any <;> rfl
  have toll : arena.config.toll = 10 := rfl
  rw [full, toll] at left
  omega

end FuelDuel.Arena
