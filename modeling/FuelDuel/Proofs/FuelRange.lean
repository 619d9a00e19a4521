import FuelDuel.Proofs.FuelLedger
import FuelDuel.Proofs.MatchLog

/-!
The range of the fuel. Barrels and siphoning raise the fuel of a robot, up to a full tank. Prices
and losses lower it, in one tick by no more than four and a half full tanks. A tick is played only
while both robots have fuel, so the debts of several ticks never add up: what is in a tank, what was
siphoned from it and what a robot owes after a tick stay in fixed ranges for the whole match
(`fuelled_afterTurns`).
-/

namespace FuelDuel.Arena

open FuelDuel.Language

/-- An amount of fuel that a tank can hold. -/
structure InTank (config : Config) (fuel : Int) : Prop where
  nonneg : 0 ≤ fuel
  le : fuel ≤ config.maxFuel

/-- A robot when a tick starts: it stands inside the arena, has fuel in its tank, and has lost
nothing yet. -/
structure Body.Ready (grid : Grid) (config : Config) (body : Body) : Prop where
  inside : grid.contains body.current.pos = true
  one_le_current : 1 ≤ body.current.fuel
  current_le : body.current.fuel ≤ config.maxFuel
  target : body.target.fuel = body.current.fuel
  stolen : body.stolen = 0

/-- A robot between two ticks: what it had when the last tick started, what it has lost, and what it
has gained and paid. -/
structure Body.Fuelled (config : Config) (body : Body) : Prop where
  one_le_current : 1 ≤ body.current.fuel
  current_le : body.current.fuel ≤ config.maxFuel
  stolen_nonneg : 0 ≤ body.stolen
  stolen_le : body.stolen ≤ body.current.fuel.tdiv 2
  le_target : -(4 * config.maxFuel) ≤ body.target.fuel
  target_le : body.target.fuel ≤ config.maxFuel

namespace Body

variable {grid : Grid} {config : Config} {body : Body}

theorem Ready.current_inTank (ready : body.Ready grid config) :
    InTank config body.current.fuel :=
  ⟨Int.le_trans Int.one_nonneg ready.one_le_current, ready.current_le⟩

theorem Ready.target_inTank (ready : body.Ready grid config) : InTank config body.target.fuel :=
  ready.target ▸ ready.current_inTank

theorem Fuelled.settledFuel_le (fuelled : body.Fuelled config) :
    body.settledFuel ≤ config.maxFuel :=
  Int.le_trans (Int.sub_le_self _ fuelled.stolen_nonneg) fuelled.target_le

theorem Fuelled.le_settledFuel (fuelled : body.Fuelled config) :
    -(5 * config.maxFuel) ≤ body.settledFuel := by
  have current := fuelled.current_le
  have half := Int.tdiv_le_self 2 (Int.le_trans Int.one_nonneg fuelled.one_le_current)
  have lost := fuelled.stolen_le
  have owed := fuelled.le_target
  unfold settledFuel
  omega

end Body

section Tick

variable {arena : Arena} (ready : ∀ side, (arena.agent side).body.Ready arena.grid arena.config)

include ready

/-- A tank is not overfilled, and nobody pays before having acted. -/
theorem fuel_inTank (side : Side) :
    InTank arena.config
      ((arena.part side).fuel arena.grid arena.config (arena.part side.other)) := by
  have target := (ready side).target_inTank
  constructor
  · exact Int.le_trans target.nonneg (Part.le_fuel _ _ _ _ target.le)
  · exact Part.fuel_le_maxFuel _ _ _ _ target.le

/-- What a tick leaves of the fuel of a robot that was ready for it. -/
theorem fuelled_after (limits : arena.config.Limits) (side : Side) :
    ((arena.part side).after arena.grid arena.config (arena.part side.other)).Fuelled
      arena.config := by
  have body := ready side
  have fuel := fuel_inTank ready side
  have loss := Part.loss_bounds arena.grid arena.config (arena.part side) (arena.part side.other)
    body.current_inTank.nonneg body.stolen
  have free : 0 ≤ arena.config.waitCost := limits.cost_nonneg .wait
  have price := Body.waitCost_le_tickCost limits
    ((arena.part side).acted arena.grid arena.config (arena.part side.other))
  have prices := Body.tickCost_le limits
    ((arena.part side).acted arena.grid arena.config (arena.part side.other))
  have nonneg := fuel.nonneg
  have most := fuel.le
  constructor
  · rw [Part.after_current]
    exact body.one_le_current
  · rw [Part.after_current]
    exact body.current_le
  · rw [Part.after_stolen]
    exact loss.1
  · rw [Part.after_stolen, Part.after_current]
    exact loss.2
  · rw [Part.after_target_fuel, Part.cost]
    omega
  · rw [Part.after_target_fuel, Part.cost]
    omega

end Tick

/-- Robots with fuel are ready for the next tick. -/
theorem ready_commit {arena : Arena} (undecided : arena.outcome? = none) (placed : Placed arena)
    (fuelled : ∀ side, (arena.agent side).body.Fuelled arena.config) (side : Side) :
    (arena.commit.agent side).body.Ready arena.commit.grid arena.commit.config := by
  have positive := outcome_eq_none_iff.mp undecided side
  have most := (fuelled side).settledFuel_le
  obtain ⟨current, target⟩ := fuel_commit arena side
  constructor
  · show arena.grid.contains (arena.commit.part side).body.current.pos = true
    rw [current_commit]
    exact placed.next_inside side
  · exact current ▸ positive
  · exact current ▸ most
  · exact target.trans current.symm
  · exact stolen_commit arena side

/-- A tick keeps the fuel in its range. -/
theorem fuelled_nextTurn {arena : Arena} {played : Played} (turn : arena.nextTurn = .ok played)
    (limits : arena.config.Limits) (placed : Placed arena)
    (fuelled : ∀ side, (arena.agent side).body.Fuelled arena.config) (side : Side) :
    (played.arena.agent side).body.Fuelled arena.config := by
  have undecided := (nextTurn_eq_ok_iff.mp turn).1
  rw [body_nextTurn turn placed.next_apart]
  exact fuelled_after (ready_commit undecided placed fuelled) limits side

theorem fuelled_start {config : Config} (valid : config.Valid) {red blue : Program} {arena : Arena}
    {events : List Event} (started : Arena.start config red blue = .ok (arena, events))
    (side : Side) : (arena.agent side).body.Fuelled config := by
  have full := valid.limits.one_le_maxFuel
  have rested (pos : Cell) (dir : Direction) :
      (Body.atRest pos dir config.maxFuel).Fuelled config := by
    have half := Int.tdiv_nonneg valid.limits.maxFuel_nonneg (show (0 : Int) ≤ 2 by decide)
    exact
      { one_le_current := full
        current_le := Int.le_refl _
        stolen_nonneg := Int.le_refl _
        stolen_le := half
        le_target := by
          show -(4 * config.maxFuel) ≤ config.maxFuel
          omega
        target_le := Int.le_refl _ }
  obtain ⟨barrels, random, setUpEvents, same⟩ := start_of_valid valid red blue
  cases started.symm.trans same
  cases side with
  | red => exact rested _ _
  | blue => exact rested _ _

/-- The fuel stays in its range for the whole match. -/
theorem fuelled_afterTurns {arena : Arena} (limits : arena.config.Limits) (placed : Placed arena)
    (fuelled : ∀ side, (arena.agent side).body.Fuelled arena.config) (turns : Nat) (side : Side) :
    ((arena.afterTurns turns).agent side).body.Fuelled arena.config := by
  have sized : 1 ≤ arena.config.gridSize := limits.one_le_gridSize
  revert side
  apply afterTurns_induction (fun later => ∀ side, (later.agent side).body.Fuelled arena.config)
    fuelled
  rintro earlier played - fuelled turn
  rw [← config_afterTurns arena earlier] at limits fuelled ⊢
  exact fuelled_nextTurn turn limits (placed_afterTurns placed sized earlier) fuelled

end FuelDuel.Arena
