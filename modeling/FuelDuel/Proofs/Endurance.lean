import FuelDuel.Proofs.Chance
import FuelDuel.Proofs.FuelLedger
import FuelDuel.Proofs.MatchLog

/-!
Matches without barrels are short. A robot can live on the fuel of its opponent for a while, but
whatever the robots siphon from each other, the fuel of both together falls by twice the price of
waiting in every tick (`combinedFuel_nextTurn`). At the start it is two full tanks. So after as many
ticks as a full tank lasts a robot that only waits, at least one robot is out of fuel
(`barren_matches_are_short`).
-/

namespace FuelDuel

/-- The number of ticks that a full tank lasts a robot that only waits: a full tank divided by the
price of waiting, rounded up. -/
def Config.endurance (config : Config) : Nat :=
  ((config.maxFuel + config.waitCost - 1) / config.waitCost).toNat

/-- The endurance is the least number of ticks in which waiting costs a full tank. -/
theorem Config.endurance_le_iff {config : Config} (pays : 1 ≤ config.waitCost) {ticks : Nat} :
    config.endurance ≤ ticks ↔ config.maxFuel ≤ ticks * config.waitCost := by
  have next : (ticks + 1 : Int) * config.waitCost = ticks * config.waitCost + config.waitCost := by
    rw [Int.add_mul, Int.one_mul]
  rw [endurance, Int.toNat_le, ← Int.lt_add_one_iff, Int.ediv_lt_iff_lt_mul (by omega), next]
  omega

namespace Arena

open FuelDuel.Language

/-- The fuel of both robots together. -/
def combinedFuel (arena : Arena) : Int :=
  (arena.agent .red).body.settledFuel + (arena.agent .blue).body.settledFuel

/-- Without barrels, a tick takes twice the price of waiting from the robots. -/
theorem combinedFuel_nextTurn {arena : Arena} {played : Played}
    (turn : arena.nextTurn = .ok played) (apart : arena.cell .red ≠ arena.cell .blue)
    (limits : arena.config.Limits) (bare : arena.barrels = .empty) :
    played.arena.combinedFuel + 2 * arena.config.waitCost ≤ arena.combinedFuel := by
  have noBarrel (side : Side) : (arena.commit.part side).onBarrel = false := by
    show arena.barrels.contains _ = false
    rw [bare]
    rfl
  have combined := Part.combined_le arena.grid arena.config (arena.commit.part .red)
    (arena.commit.part .blue) (noBarrel .red) (noBarrel .blue) (stolen_commit arena .red)
    (stolen_commit arena .blue)
  have redPays := Body.waitCost_le_tickCost limits
    ((arena.commit.part .red).acted arena.grid arena.config (arena.commit.part .blue))
  have bluePays := Body.waitCost_le_tickCost limits
    ((arena.commit.part .blue).acted arena.grid arena.config (arena.commit.part .red))
  rw [(fuel_commit arena .red).2, (fuel_commit arena .blue).2] at combined
  rw [combinedFuel, combinedFuel, body_nextTurn turn apart .red, body_nextTurn turn apart .blue]
  simp only [Part.cost, Side.other] at combined ⊢
  omega

theorem advance_of_decided {arena : Arena} {outcome : Outcome}
    (decided : arena.outcome? = some outcome) : arena.advance = arena := by
  rw [advance, nextTurn_of_decided decided]

/-- As long as no robot is out of fuel, every turn has taken its price. -/
theorem combinedFuel_afterTurns {arena : Arena} (placed : Placed arena)
    (limits : arena.config.Limits) {turns : Nat} (barren : BarrenFor arena turns)
    (undecided : (arena.afterTurns turns).outcome? = none) :
    (arena.afterTurns turns).combinedFuel + 2 * (turns * arena.config.waitCost) ≤
      arena.combinedFuel := by
  have sized : 1 ≤ arena.config.gridSize := limits.one_le_gridSize
  induction turns with
  | zero => simp [afterTurns]
  | succ turns ih =>
      have before : (arena.afterTurns turns).outcome? = none := by
        cases decided : (arena.afterTurns turns).outcome? with
        | none => rfl
        | some outcome =>
            rw [afterTurns, advance_of_decided decided, decided] at undecided
            cases undecided
      have turn := nextTurn_of_undecided before
      have earlier := ih (barren.mono (Nat.le_succ turns)) before
      have apart := (placed_afterTurns placed sized turns).next_apart
      have sameConfig := config_afterTurns arena turns
      have taken := combinedFuel_nextTurn turn apart (sameConfig ▸ limits)
        (barren turns (Nat.lt_succ_self turns))
      rw [sameConfig] at taken
      rw [afterTurns, advance_of_ok turn]
      have next : ((turns + 1 : Nat) : Int) * arena.config.waitCost =
          turns * arena.config.waitCost + arena.config.waitCost := by
        rw [Int.natCast_add, Int.natCast_one, Int.add_mul, Int.one_mul]
      omega

/-- With two full tanks at the start, somebody is out of fuel when a full tank of waiting is
over. -/
theorem decided_of_endurance {arena : Arena} (placed : Placed arena) (limits : arena.config.Limits)
    (pays : 1 ≤ arena.config.waitCost) (full : arena.combinedFuel ≤ 2 * arena.config.maxFuel)
    {turns : Nat} (barren : BarrenFor arena turns) (enough : arena.config.endurance ≤ turns) :
    ∃ outcome, (arena.afterTurns turns).outcome? = some outcome := by
  cases decided : (arena.afterTurns turns).outcome? with
  | some outcome => exact ⟨outcome, rfl⟩
  | none =>
      have fallen := combinedFuel_afterTurns placed limits barren decided
      have spent := (Config.endurance_le_iff pays).mp enough
      have fuelled := outcome_eq_none_iff.mp decided
      have red := fuelled .red
      have blue := fuelled .blue
      rw [combinedFuel] at fallen
      omega

theorem outOfFuel_of_decided {arena : Arena} {outcome : Outcome}
    (decided : arena.outcome? = some outcome) :
    ∃ side, (arena.agent side).body.settledFuel ≤ 0 := by
  rcases (decides_of_outcome decided).stops with red | blue
  · exact ⟨.red, red⟩
  · exact ⟨.blue, blue⟩

/-- If a match has no barrel at the start and none can appear, there never is one. -/
theorem barrenFor_start {config : Config} (valid : config.Valid) {red blue : Program}
    {arena : Arena} {events : List Event}
    (started : Arena.start config red blue = .ok (arena, events))
    (none : config.initialBarrels = 0) (zero : (config.spawnChance == 0) = true) (turns : Nat) :
    BarrenFor arena turns := by
  have bare := barrels_start started none
  have sized : 1 ≤ config.gridSize := valid.limits.one_le_gridSize
  obtain ⟨rfl, placed⟩ := placed_of_started valid started
  have barren := barrenFor_of_unluckyFor placed sized (unluckyFor_of_spawnChance zero turns) bare
  exact barren.mono (Nat.le_succ turns)

end Arena

namespace Match

open FuelDuel.Arena
open FuelDuel.Language

section Result

variable {arena : Arena} {result : MatchResult} (ended : Ended arena result)
  (placed : Placed arena) (limits : arena.config.Limits) (pays : 1 ≤ arena.config.waitCost)
  (full : arena.combinedFuel ≤ 2 * arena.config.maxFuel)
  (barren : BarrenFor arena result.trace.length)

include ended placed limits pays full barren

/-- A match without barrels is over when a full tank of waiting is. -/
theorem Ended.length_le_endurance : result.trace.length ≤ arena.config.endurance := by
  apply Nat.le_of_not_lt
  intro late
  obtain ⟨outcome, decided⟩ := decided_of_endurance placed limits pays full
    (barren.mono (Nat.le_of_lt late)) (Nat.le_refl _)
  have undecided := ended.logs.undecided late
  cases undecided.symm.trans decided

/-- The tick limit does not end a match without barrels, unless it comes before a full tank of
waiting is over. -/
theorem Ended.ne_timeout (fresh : arena.tick = 0)
    (enough : arena.config.endurance ≤ arena.config.maxTicks) : result.outcome ≠ .timeout := by
  rcases outcome_cases ended.isOver with decided | ⟨going, -, late⟩
  · exact (decides_of_outcome decided).ne_timeout
  · rw [config_afterTurns, ended.logs.tick (Nat.le_refl _), fresh, Nat.zero_add] at late
    obtain ⟨outcome, decided⟩ :=
      decided_of_endurance placed limits pays full barren (Nat.le_trans enough late)
    cases going.symm.trans decided

end Result

/-- In a match without barrels some robot is out of fuel when a full tank of waiting is over,
whatever the robots siphon from each other. So the match is not longer than that, and the tick limit
ends it only if it comes earlier. -/
theorem barren_matches_are_short {config : Config} (valid : config.Valid)
    (pays : 1 ≤ config.waitCost) (red blue : Program) :
    ∃ arena setUp result events, Arena.start config red blue = .ok (arena, setUp) ∧
      (Match.mk arena).run = .ok (result, events) ∧
      (∀ redSource blueSource, loadProgram .red redSource = .ok red →
        loadProgram .blue blueSource = .ok blue →
        play redSource blueSource config = .ok (result, setUp ++ events)) ∧
      (BarrenFor arena config.endurance → ∃ turns ≤ config.endurance, ∃ side,
        ((arena.afterTurns turns).agent side).body.settledFuel ≤ 0) ∧
      (BarrenFor arena result.ticks → result.ticks ≤ config.endurance ∧
        (config.endurance ≤ config.maxTicks → result.outcome ≠ .timeout)) := by
  obtain ⟨arena, setUp, result, events, started, ran, ended, coherent⟩ :=
    run_coherent valid red blue
  refine ⟨arena, setUp, result, events, started, ran, ?_, ?_⟩
  · intro redSource blueSource redLoaded blueLoaded
    exact play_of_loaded redLoaded blueLoaded started ran
  obtain ⟨barrels, random, setUpEvents, same⟩ := start_of_valid valid red blue
  cases started.symm.trans same
  have placed := placed_start valid red blue barrels random
  have full : ({ Arena.setUp config red blue with barrels, random } : Arena).combinedFuel ≤
      2 * config.maxFuel := by
    show config.maxFuel - 0 + (config.maxFuel - 0) ≤ 2 * config.maxFuel
    omega
  constructor
  · intro barren
    obtain ⟨outcome, decided⟩ :=
      decided_of_endurance placed valid.limits pays full barren (Nat.le_refl _)
    exact ⟨config.endurance, Nat.le_refl _, outOfFuel_of_decided decided⟩
  · intro barren
    rw [← coherent.length] at barren ⊢
    exact ⟨ended.length_le_endurance placed valid.limits pays full barren,
      ended.ne_timeout placed valid.limits pays full barren rfl⟩

/-- A match without barrels, in which waiting uses up a full tank in 34 ticks. -/
def drought : Config := { spawnChance := 0, initialBarrels := 0 }

theorem barren_matches_are_short_of_drought :
    drought.Valid ∧ 1 ≤ drought.waitCost ∧ drought.endurance = 34 ∧
      ∃ result events, play none none drought = .ok (result, events) ∧ result.ticks ≤ 34 ∧
        result.outcome ≠ .timeout ∧
        ∃ arena setUp, Arena.start drought Prebuilt.fallback Prebuilt.fallback =
          .ok (arena, setUp) ∧ BarrenFor arena 34 ∧
          ∃ turns ≤ 34, ∃ side, ((arena.afterTurns turns).agent side).body.settledFuel ≤ 0 := by
  have valid : drought.Valid := by
    unfold Config.Valid
    decide +kernel
  have zero : (drought.spawnChance == 0) = true := by decide +kernel
  obtain ⟨arena, setUp, result, events, started, -, played, spent, short⟩ :=
    barren_matches_are_short valid (by decide) Prebuilt.fallback Prebuilt.fallback
  have barren := barrenFor_start valid started rfl zero
  obtain ⟨few, decided⟩ := short (barren _)
  exact ⟨valid, by decide, by decide, result, setUp ++ events, played none none rfl rfl, few,
    decided (by decide), arena, setUp, started, barren 34, spent (barren 34)⟩

end Match

end FuelDuel
