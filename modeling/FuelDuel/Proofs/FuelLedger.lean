import FuelDuel.Proofs.Occupancy

/-!
The fuel of a tick. What a robot has after a tick is what it had, or a full tank if it took a
barrel, and what it siphoned from its opponent, less the price of the tick and what the opponent
siphoned from it (`Part.settledFuel_after`).

A robot never gets more out of its opponent than the opponent loses (`Part.fuel_le`), so siphoning
does not add to the fuel of both robots together: without barrels it falls by at least the prices
that the robots pay (`Part.combined_le`).
-/

namespace FuelDuel.Arena

/-! ### Prices -/

namespace Body

variable {config : Config} (limits : config.Limits) (body : Body)

include limits

/-- Every tick costs at least as much as waiting. -/
theorem waitCost_le_tickCost : config.waitCost ≤ body.tickCost config := by
  have shield : 0 ≤ config.shieldCost := limits.cost_nonneg .shield
  have move : 0 ≤ config.moveCost := limits.cost_nonneg .move
  have turn : 0 ≤ config.turnCost := limits.cost_nonneg .turn
  unfold tickCost
  split <;> split <;> split <;> omega

theorem tickCost_le_toll : body.tickCost config ≤ config.toll := by
  have shield : 0 ≤ config.shieldCost := limits.cost_nonneg .shield
  have move : 0 ≤ config.moveCost := limits.cost_nonneg .move
  have turn : 0 ≤ config.turnCost := limits.cost_nonneg .turn
  unfold tickCost Config.toll
  split <;> split <;> split <;> omega

theorem tickCost_le : body.tickCost config ≤ 4 * config.maxFuel :=
  Int.le_trans (body.tickCost_le_toll limits) limits.toll_le

end Body

theorem Body.extractable_nonneg (body : Body) (maxFuel : Int) : 0 ≤ body.extractable maxFuel :=
  Int.le_max_right _ _

/-- A robot with fuel keeps at least half of it. -/
theorem Body.extractable_le {body : Body} (fuelled : 0 ≤ body.current.fuel) (maxFuel : Int) :
    body.extractable maxFuel ≤ body.current.fuel.tdiv 2 := by
  have half : 0 ≤ body.current.fuel.tdiv 2 := Int.tdiv_nonneg fuelled (by decide)
  unfold extractable
  omega

/-! ### One robot -/

namespace Part

variable (grid : Grid) (config : Config) (me other : Part)

/-- The price of the tick for the robot. -/
def cost : Int := (me.acted grid config other).tickCost config

theorem moved_frame :
    ∃ nextPos, me.moved grid config other = { (me.acted grid config other) with nextPos } :=
  resolveMove_frame (me.acted grid config other) (other.acted grid config me)

theorem moved_target_fuel :
    (me.moved grid config other).target.fuel = me.fuel grid config other := by
  obtain ⟨nextPos, same⟩ := moved_frame grid config me other
  rw [same]
  rfl

theorem after_frame :
    ∃ nextPos, me.after grid config other =
      { (me.acted grid config other) with
        nextPos
        target.fuel := me.fuel grid config other - me.cost grid config other } := by
  obtain ⟨nextPos, same⟩ := moved_frame grid config me other
  refine ⟨nextPos, ?_⟩
  rw [after, same]
  rfl

theorem after_target_fuel :
    (me.after grid config other).target.fuel =
      me.fuel grid config other - me.cost grid config other := by
  obtain ⟨nextPos, same⟩ := after_frame grid config me other
  rw [same]

theorem after_stolen : (me.after grid config other).stolen = me.loss grid config other := by
  obtain ⟨nextPos, same⟩ := after_frame grid config me other
  rw [same]
  rfl

/-- The fuel after a tick: gains first, then the price and the loss. -/
theorem settledFuel_after :
    (me.after grid config other).settledFuel =
      me.fuel grid config other - me.cost grid config other - me.loss grid config other := by
  rw [Body.settledFuel, after_target_fuel, after_stolen]

/-- A tank never holds more than a full tank. -/
theorem fuel_le_maxFuel (within : me.body.target.fuel ≤ config.maxFuel) :
    me.fuel grid config other ≤ config.maxFuel := by
  unfold fuel filled
  split <;> split <;> omega

/-- A robot does not lose fuel by taking some. -/
theorem le_fuel (within : me.body.target.fuel ≤ config.maxFuel) :
    me.body.target.fuel ≤ me.fuel grid config other := by
  have amount := other.body.extractable_nonneg config.maxFuel
  unfold fuel filled
  split <;> split <;> omega

/-- Without a barrel a robot gains no more than its opponent loses. -/
theorem fuel_le (noBarrel : me.onBarrel = false) (settled : other.body.stolen = 0) :
    me.fuel grid config other ≤ me.body.target.fuel + other.loss grid config me := by
  unfold fuel filled loss
  simp only [noBarrel, Bool.and_false, Bool.false_eq_true, if_false, settled]
  split <;> omega

/-- The loss is no more than half of what the robot has. -/
theorem loss_bounds (fuelled : 0 ≤ me.body.current.fuel) (settled : me.body.stolen = 0) :
    0 ≤ me.loss grid config other ∧
      me.loss grid config other ≤ me.body.current.fuel.tdiv 2 := by
  unfold loss
  split
  · exact ⟨me.body.extractable_nonneg _, Body.extractable_le fuelled _⟩
  · rw [settled]
    exact ⟨Int.le_refl 0, Int.tdiv_nonneg fuelled (by decide)⟩

/-- Without barrels the fuel of both robots together falls by at least the prices they pay. -/
theorem combined_le (meNoBarrel : me.onBarrel = false) (otherNoBarrel : other.onBarrel = false)
    (meSettled : me.body.stolen = 0) (otherSettled : other.body.stolen = 0) :
    (me.after grid config other).settledFuel + (other.after grid config me).settledFuel +
        (me.cost grid config other + other.cost grid config me) ≤
      me.body.target.fuel + other.body.target.fuel := by
  have mine := fuel_le grid config me other meNoBarrel otherSettled
  have theirs := fuel_le grid config other me otherNoBarrel meSettled
  rw [settledFuel_after, settledFuel_after]
  omega

end Part

/-! ### One tick -/

theorem body_commit (arena : Arena) (side : Side) :
    (arena.commit.part side).body = (arena.agent side).body.commit := by
  cases side <;> rfl

theorem stolen_commit (arena : Arena) (side : Side) : (arena.commit.part side).body.stolen = 0 := by
  rw [body_commit]
  rfl

/-- A tick starts with what the last one has left in the tank. -/
theorem fuel_commit (arena : Arena) (side : Side) :
    (arena.commit.part side).body.current.fuel = (arena.agent side).body.settledFuel ∧
      (arena.commit.part side).body.target.fuel = (arena.agent side).body.settledFuel := by
  rw [body_commit]
  exact ⟨rfl, rfl⟩

/-- What a tick makes of the body of a robot. -/
theorem body_nextTurn {arena : Arena} {played : Played} (turn : arena.nextTurn = .ok played)
    (apart : arena.cell .red ≠ arena.cell .blue) (side : Side) :
    (played.arena.agent side).body =
      (arena.commit.part side).after arena.grid arena.config (arena.commit.part side.other) := by
  obtain ⟨-, rfl⟩ := nextTurn_eq_ok_iff.mp turn
  rw [agent_resolve (apart_commit apart)]
  rfl

end FuelDuel.Arena
