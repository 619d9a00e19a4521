import FuelDuel.Proofs.BarrelLedger
import FuelDuel.Proofs.Reachable

/-!
The balance of the fuel. Only barrels bring fuel into a match. In a tick a robot gets what its
opponent loses, up to a full tank, loses what its opponent gets, and pays the price of the tick
(`FuelBalance.settled`). So without barrels both robots together have after a tick at most what they
had less both prices, and exactly that if everything that was siphoned off has found room in a tank.
A barrel adds at most what was missing in the tank that it fills.

Red siphons before blue acts. That what is siphoned does not depend on the order is due to the stances
from which it is computed: they are those with which the tick has started.
-/

namespace FuelDuel.Arena

open FuelDuel.Language

/-- The body of a robot after a tick. Its current stance is still the one with which the tick has
started. -/
def Played.body (played : Played) (side : Side) : Body := (played.arena.agent side).body

/-- The price that a robot has paid for a tick. -/
def Played.price (played : Played) (side : Side) : Int :=
  (played.body side).tickCost played.arena.config

/-- What a robot has had when the tick started. -/
def Played.fuelBefore (played : Played) (side : Side) : Int := (played.body side).current.fuel

/-- What is left to a robot when the tick is over. -/
def Played.fuelAfter (played : Played) (side : Side) : Int := (played.body side).settledFuel

/-- A robot takes a barrel if it reaches for fuel on a cell with a barrel. -/
def TakesBarrel (arena : Arena) (played : Played) (side : Side) : Prop :=
  (played.report.robot side).action = some .takeFuel ∧ arena.cell side ∈ arena.barrels.cells

instance (arena : Arena) (played : Played) (side : Side) :
    Decidable (TakesBarrel arena played side) :=
  inferInstanceAs (Decidable (_ ∧ _))

/-- What a barrel adds to the tank of a robot, if it takes one. -/
def refill (arena : Arena) (played : Played) (side : Side) : Int :=
  if TakesBarrel arena played side then arena.config.maxFuel - played.fuelBefore side else 0

/-- What a tick has done to the fuel of both robots. -/
structure FuelBalance (arena : Arena) (played : Played) : Prop where
  /-- The tick has started with what was committed. -/
  committed : ∀ side, played.fuelBefore side = (arena.commit.agent side).body.current.fuel
  settled : ∀ side, played.fuelAfter side =
    min (played.fuelBefore side + refill arena played side + (played.body side.other).stolen)
        arena.config.maxFuel -
      played.price side - (played.body side).stolen
  /-- Without barrels the robots have together no more than before, less the prices. -/
  combined_le : (∀ side, ¬TakesBarrel arena played side) →
    played.fuelAfter .red + played.fuelAfter .blue ≤
      played.fuelBefore .red + played.fuelBefore .blue - played.price .red - played.price .blue
  /-- They have exactly that if nothing that was siphoned off was cut off at a full tank. -/
  combined_eq : (∀ side, ¬TakesBarrel arena played side) →
    (∀ side : Side,
      played.fuelBefore side + (played.body side.other).stolen ≤ arena.config.maxFuel) →
    played.fuelAfter .red + played.fuelAfter .blue =
      played.fuelBefore .red + played.fuelBefore .blue - played.price .red - played.price .blue
  /-- Every barrel raises the bound by no more than what its taker has lacked. -/
  refilled_le : played.fuelAfter .red + played.fuelAfter .blue ≤
    played.fuelBefore .red + played.fuelBefore .blue - played.price .red - played.price .blue +
      refill arena played .red + refill arena played .blue
  shielded : ∀ side, (played.body side).current.shield = true → (played.body side).stolen = 0
  stolen_nonneg : ∀ side, 0 ≤ (played.body side).stolen
  stolen_le : ∀ side, (played.body side).stolen ≤
    min (arena.config.maxFuel / 4) (played.fuelBefore side / 2)

/-! ### One robot -/

/-- From a robot with fuel an opponent gets at most a quarter of a full tank, and at most half of
what the robot has. -/
theorem Body.extractable_le_min {body : Body} {maxFuel : Int} (fuelled : 0 ≤ body.current.fuel)
    (full : 0 ≤ maxFuel) :
    body.extractable maxFuel ≤ min (maxFuel / 4) (body.current.fuel / 2) := by
  have quarter := Int.tdiv_eq_ediv_of_nonneg full (b := 4)
  have half := Int.tdiv_eq_ediv_of_nonneg fuelled (b := 2)
  unfold extractable
  omega

namespace Part

variable (grid : Grid) (config : Config) {me other : Part}

/-- A robot gets what its opponent loses, as far as there is room in its tank. -/
theorem fuel_eq_min (within : me.filled config ≤ config.maxFuel)
    (settled : other.body.stolen = 0) :
    me.fuel grid config other =
      min (me.filled config + other.loss grid config me) config.maxFuel := by
  unfold fuel loss
  split
  · rfl
  · rw [settled]
    omega

theorem filled_le (within : me.body.target.fuel ≤ config.maxFuel) :
    me.filled config ≤ config.maxFuel := by
  unfold filled
  split <;> omega

theorem loss_of_shield (settled : me.body.stolen = 0) (shield : me.body.current.shield = true) :
    me.loss grid config other = 0 := by
  simp [loss, siphons, shield, settled]

theorem loss_le (settled : me.body.stolen = 0) (fuelled : 0 ≤ me.body.current.fuel)
    (full : 0 ≤ config.maxFuel) :
    me.loss grid config other ≤ min (config.maxFuel / 4) (me.body.current.fuel / 2) := by
  unfold loss
  split
  · exact Body.extractable_le_min fuelled full
  · rw [settled]
    omega

end Part

/-! ### One tick -/

section Turn

variable {arena : Arena} {played : Played} (turn : arena.nextTurn = .ok played)
  (apart : arena.cell .red ≠ arena.cell .blue)

include turn apart

theorem fuelBefore_nextTurn (side : Side) :
    played.fuelBefore side = (arena.commit.part side).body.current.fuel := by
  rw [Played.fuelBefore, Played.body, body_nextTurn turn apart, Part.after_current]

theorem stolen_nextTurn (side : Side) :
    (played.body side).stolen =
      (arena.commit.part side).loss arena.grid arena.config (arena.commit.part side.other) := by
  rw [Played.body, body_nextTurn turn apart, Part.after_stolen]

theorem cost_nextTurn (side : Side) :
    played.price side =
      (arena.commit.part side).cost arena.grid arena.config (arena.commit.part side.other) := by
  rw [Played.price, Played.body, config_nextTurn turn, body_nextTurn turn apart,
    Part.cost_eq_tickCost_after]

theorem takesBarrel_iff (side : Side) :
    TakesBarrel arena played side ↔
      ((arena.commit.part side).takes && (arena.commit.part side).onBarrel) = true := by
  have found : (arena.commit.part side).onBarrel = true ↔
      arena.cell side ∈ arena.barrels.cells := by
    rw [← current_commit]
    exact List.contains_iff_mem
  rw [Bool.and_eq_true, takes_iff turn apart, found, TakesBarrel]

variable (ready : ∀ side, (arena.commit.part side).body.Ready arena.grid arena.config)

include ready

theorem filled_nextTurn (side : Side) :
    (arena.commit.part side).filled arena.config =
      played.fuelBefore side + refill arena played side := by
  unfold Part.filled refill
  rw [fuelBefore_nextTurn turn apart, (ready side).target]
  simp only [takesBarrel_iff turn apart]
  split <;> omega

theorem fuelAfter_nextTurn (side : Side) :
    played.fuelAfter side =
      min (played.fuelBefore side + refill arena played side + (played.body side.other).stolen)
          arena.config.maxFuel -
        played.price side - (played.body side).stolen := by
  have within : (arena.commit.part side).filled arena.config ≤ arena.config.maxFuel :=
    Part.filled_le _ (ready side).target_inTank.le
  have gained := Part.fuel_eq_min arena.grid arena.config within (ready side.other).stolen
  have given := stolen_nextTurn turn apart side.other
  rw [Side.other_other] at given
  rw [filled_nextTurn turn apart ready, ← given] at gained
  rw [← gained, stolen_nextTurn turn apart, cost_nextTurn turn apart, Played.fuelAfter, Played.body,
    body_nextTurn turn apart, Part.settledFuel_after]

end Turn

/-- Fuel comes from barrels only: every tick of a match keeps the balance. -/
theorem fuel_comes_from_barrels {arena : Arena} (reached : Reachable arena) {played : Played}
    (turn : arena.nextTurn = .ok played) : FuelBalance arena played := by
  obtain ⟨limits, placed, fuelled⟩ := reached.inPlay
  have apart : arena.cell .red ≠ arena.cell .blue := placed.next_apart
  have undecided := (nextTurn_eq_ok_iff.mp turn).1
  have ready : ∀ side, (arena.commit.part side).body.Ready arena.grid arena.config :=
    ready_commit undecided placed fuelled
  have after := fuelAfter_nextTurn turn apart ready
  have red := after .red
  have blue := after .blue
  have unfilled {side : Side} (leaves : ¬TakesBarrel arena played side) :
      refill arena played side = 0 := if_neg leaves
  refine
    { committed := fuelBefore_nextTurn turn apart
      settled := after
      combined_le := fun noBarrel => ?_
      combined_eq := fun noBarrel roomy => ?_
      refilled_le := ?_
      shielded := fun side up => ?_
      stolen_nonneg := fun side => ?_
      stolen_le := fun side => ?_ }
  · rw [unfilled (noBarrel .red)] at red
    rw [unfilled (noBarrel .blue)] at blue
    simp only [Side.other] at red blue
    omega
  · have redRoom := roomy .red
    have blueRoom := roomy .blue
    rw [unfilled (noBarrel .red)] at red
    rw [unfilled (noBarrel .blue)] at blue
    simp only [Side.other] at red blue redRoom blueRoom
    omega
  · simp only [Side.other] at red blue
    omega
  · rw [Played.body, body_nextTurn turn apart, Part.after_current] at up
    rw [stolen_nextTurn turn apart]
    exact Part.loss_of_shield _ _ (ready side).stolen up
  · rw [stolen_nextTurn turn apart]
    exact (Part.loss_bounds _ _ _ _ (ready side).current_inTank.nonneg (ready side).stolen).1
  · rw [stolen_nextTurn turn apart, fuelBefore_nextTurn turn apart]
    exact Part.loss_le _ _ (ready side).stolen (ready side).current_inTank.nonneg
      limits.maxFuel_nonneg

/-- Red siphons off a quarter of a full tank from blue. -/
theorem fuel_comes_from_barrels_of_meeting :
    ∃ arena played, Reachable arena ∧ arena.nextTurn = .ok played ∧
      (played.body .blue).stolen = 25 ∧ FuelBalance arena played := by
  obtain ⟨arena, reached, undecided, config, agents⟩ := meeting_onward .takeFuel
  have turn := nextTurn_of_undecided undecided
  have apart := reached.inPlay.placed.next_apart
  have narrow : arena.grid = ⟨2⟩ := congrArg (fun config => Grid.mk config.gridSize) config
  refine ⟨arena, _, reached, turn, ?_, fuel_comes_from_barrels reached turn⟩
  rw [stolen_nextTurn turn apart, narrow, config]
  simp only [part, mind, commit_agent, agents]
  rfl

end FuelDuel.Arena
