import FuelDuel.Config.Basic

/-!
The limits of a playable configuration. The checks of a configuration are made one after the other,
and a configuration that passes them all is within every limit (`Config.Valid.limits`).
-/

namespace FuelDuel.Config

/-- The limits on the numbers of a configuration. -/
structure Limits (config : Config) : Prop where
  two_le_gridSize : 2 ≤ config.gridSize
  gridSize_le : config.gridSize ≤ maxGridSize
  one_le_maxFuel : 1 ≤ config.maxFuel
  maxFuel_le : config.maxFuel ≤ maxFuelLimit
  cost_nonneg : ∀ price, 0 ≤ config.cost price
  cost_le : ∀ price, config.cost price ≤ config.maxFuel
  initialBarrels_le : config.initialBarrels ≤ config.cellCount

theorem Limits.one_le_gridSize {config : Config} (limits : config.Limits) :
    1 ≤ config.gridSize := by
  have two := limits.two_le_gridSize
  omega

theorem Limits.maxFuel_nonneg {config : Config} (limits : config.Limits) : 0 ≤ config.maxFuel :=
  Int.le_trans Int.one_nonneg limits.one_le_maxFuel

/-- The price of a tick in which everything has its price. -/
def toll (config : Config) : Int :=
  config.waitCost + config.shieldCost + config.moveCost + config.turnCost

theorem Limits.toll_nonneg {config : Config} (limits : config.Limits) : 0 ≤ config.toll := by
  have wait : 0 ≤ config.waitCost := limits.cost_nonneg .wait
  have shield : 0 ≤ config.shieldCost := limits.cost_nonneg .shield
  have move : 0 ≤ config.moveCost := limits.cost_nonneg .move
  have turn : 0 ≤ config.turnCost := limits.cost_nonneg .turn
  unfold toll
  omega

/-- No price exceeds a full tank, and there are four of them. -/
theorem Limits.toll_le {config : Config} (limits : config.Limits) :
    config.toll ≤ 4 * config.maxFuel := by
  have wait : config.waitCost ≤ config.maxFuel := limits.cost_le .wait
  have shield : config.shieldCost ≤ config.maxFuel := limits.cost_le .shield
  have move : config.moveCost ≤ config.maxFuel := limits.cost_le .move
  have turn : config.turnCost ≤ config.maxFuel := limits.cost_le .turn
  unfold toll
  omega

theorem cost_of_badCost_eq_none {config : Config} (good : config.badCost? = none) (price : Cost) :
    0 ≤ config.cost price ∧ config.cost price ≤ config.maxFuel := by
  have listed : price ∈ Cost.all := by
    cases price <;> simp [Cost.all]
  have passed := List.find?_eq_none.mp good price listed
  simpa using passed

/-- A playable configuration is within all limits. -/
theorem Valid.limits {config : Config} (valid : config.Valid) : config.Limits := by
  unfold Valid invalid? at valid
  split at valid
  · cases valid
  · rename_i sized
    split at valid
    · cases valid
    · rename_i fuelled
      split at valid
      · cases valid
      · rename_i good
        split at valid
        · cases valid
        · rename_i spacious
          simp only [Bool.not_eq_true', Bool.and_eq_false_imp, decide_eq_true_eq,
            decide_eq_false_iff_not] at sized fuelled
          have costs := cost_of_badCost_eq_none good
          exact
            { two_le_gridSize := by omega
              gridSize_le := by omega
              one_le_maxFuel := by omega
              maxFuel_le := by omega
              cost_nonneg := fun price => (costs price).1
              cost_le := fun price => (costs price).2
              initialBarrels_le := Nat.not_lt.mp spacious }

/-- The smallest arena that can be played has two cells along each side. -/
theorem Valid.two_le_gridSize {config : Config} (valid : config.Valid) : 2 ≤ config.gridSize :=
  valid.limits.two_le_gridSize

end FuelDuel.Config
