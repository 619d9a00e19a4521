import FuelDuel.Proofs.Barrels
import FuelDuel.Proofs.FuelRange

/-!
Checked arithmetic. The arena computes with integers of any size. Here each function that computes a
number for a robot is given a second time, in a form that gives up as soon as a sum, a difference, a
product, a quotient, a negation, an absolute value or a count is not strictly inside the range of
32-bit words.

For numbers in the ranges that occur in a match, a checked function does not give up, and it has the
result of the function that it checks.
-/

namespace FuelDuel

/-! ### Words -/

/-- Strictly inside the range of 32-bit words. -/
def Fits (value : Int) : Prop := Int32.minValue.toInt < value ∧ value < Int32.maxValue.toInt

instance (value : Int) : Decidable (Fits value) :=
  inferInstanceAs (Decidable (Int32.minValue.toInt < value ∧ value < Int32.maxValue.toInt))

theorem fits_iff {value : Int} : Fits value ↔ -2147483648 < value ∧ value < 2147483647 := Iff.rfl

/-- A number that is computed, if it fits. -/
def word? (value : Int) : Option Int := if Fits value then some value else none

theorem word_of_fits {value : Int} (fits : Fits value) : word? value = some value := if_pos fits

example : word? 2147483646 = some 2147483646 ∧ word? 2147483647 = none := by decide

/-- A computation that has come to a value goes on with it. -/
theorem bind_of_some {α β : Type} {checked : Option α} {value : α}
    (computed : checked = some value) (next : α → Option β) :
    (checked >>= next) = next value := by
  rw [computed]
  rfl

theorem mapM_of_forall {α β : Type} {checked : α → Option β} {plain : α → β} {items : List α}
    (each : ∀ item ∈ items, checked item = some (plain item)) :
    items.mapM checked = some (items.map plain) := by
  induction items with
  | nil => rfl
  | cons item items ih =>
      rw [List.mapM_cons, each item List.mem_cons_self,
        ih fun other member => each other (List.mem_cons_of_mem _ member)]
      rfl

/-- The number of cells of the arena. -/
def Config.cellCountChecked (config : Config) : Option Nat := do
  let square ← word? (config.gridSize * config.gridSize)
  return square.toNat

theorem Config.cellCountChecked_eq {config : Config} (limits : config.Limits) :
    config.cellCountChecked = some config.cellCount := by
  have nonneg : 0 ≤ config.gridSize := Int.le_trans Int.one_nonneg limits.one_le_gridSize
  have low := Int.mul_nonneg nonneg nonneg
  have high := Int.mul_le_mul limits.gridSize_le limits.gridSize_le nonneg (by decide)
  have fits : Fits (config.gridSize * config.gridSize) := by
    unfold maxGridSize at high
    rw [fits_iff]
    omega
  rw [cellCountChecked, bind_of_some (word_of_fits fits)]
  rfl

namespace Arena

open FuelDuel.Execution
open FuelDuel.World

/-! ### Grids -/

/-- The cell that a displacement leads to. -/
def Cell.movedChecked (cell : Cell) (shift : Shift) : Option Cell := do
  let x ← word? (cell.x + shift.dx)
  let y ← word? (cell.y + shift.dy)
  return ⟨x, y⟩

/-- The displacement from one cell to another. -/
def Cell.shiftToChecked (origin target : Cell) : Option Shift := do
  let dx ← word? (target.x - origin.x)
  let dy ← word? (target.y - origin.y)
  return ⟨dx, dy⟩

/-- A displacement as it is seen from a facing. -/
def Direction.relativeChecked : Direction → Shift → Option (Offset Int)
  | north, shift => do
      let ahead ← word? (-shift.dy)
      return ⟨shift.dx, ahead⟩
  | south, shift => do
      let right ← word? (-shift.dx)
      return ⟨right, shift.dy⟩
  | west, shift => do
      let right ← word? (-shift.dy)
      let ahead ← word? (-shift.dx)
      return ⟨right, ahead⟩
  | east, shift => some ⟨shift.dy, shift.dx⟩

/-- A cell as it is seen from another one along a facing. -/
def Direction.seenChecked (facing : Direction) (here cell : Cell) : Option (Offset Int) := do
  let shift ← here.shiftToChecked cell
  facing.relativeChecked shift

/-- The last row and column. -/
def Grid.farChecked (grid : Grid) : Option Int := word? (grid.size - 1)

/-- The neighbouring cell along a facing, or the cell itself if a wall is there. -/
def Grid.stepChecked (grid : Grid) (cell : Cell) (dir : Direction) : Option Cell := do
  let next ← cell.movedChecked dir.delta
  let far ← grid.farChecked
  return ⟨min (max next.x 0) far, min (max next.y 0) far⟩

/-- The number of cells between a cell and the wall along a facing. -/
def Grid.wallDistanceChecked (grid : Grid) (cell : Cell) (dir : Direction) : Option Int := do
  let far ← grid.farChecked
  match dir with
  | .north => some cell.y
  | .south => word? (far - cell.y)
  | .west => some cell.x
  | .east => word? (far - cell.x)

/-- Shorter than a side of the largest arena, in either direction. -/
def Short (distance : Int) : Prop :=
  -Config.maxGridSize < distance ∧ distance < Config.maxGridSize

theorem Short.fits {distance : Int} (short : Short distance) : Fits distance := by
  unfold Short Config.maxGridSize at short
  rw [fits_iff]
  omega

theorem Short.neg {distance : Int} (short : Short distance) : Short (-distance) := by
  unfold Short at short ⊢
  omega

theorem Direction.relative_short (facing : Direction) {shift : Shift} (columns : Short shift.dx)
    (rows : Short shift.dy) :
    Short (facing.relative shift).right ∧ Short (facing.relative shift).ahead := by
  cases facing with
  | north => exact ⟨columns, rows.neg⟩
  | east => exact ⟨rows, columns⟩
  | south => exact ⟨columns.neg, rows⟩
  | west => exact ⟨rows.neg, columns.neg⟩

theorem Direction.relativeChecked_eq (facing : Direction) {shift : Shift}
    (columns : Short shift.dx) (rows : Short shift.dy) :
    facing.relativeChecked shift = some (facing.relative shift) := by
  have negColumns := word_of_fits columns.neg.fits
  have negRows := word_of_fits rows.neg.fits
  cases facing with
  | north =>
      rw [relativeChecked, bind_of_some negRows]
      rfl
  | east => rfl
  | south =>
      rw [relativeChecked, bind_of_some negColumns]
      rfl
  | west =>
      rw [relativeChecked, bind_of_some negRows, bind_of_some negColumns]
      rfl

section Geometry

variable {grid : Grid} (small : grid.size ≤ Config.maxGridSize) {here cell : Cell}
  (hereInside : grid.contains here = true)

include small hereInside

theorem Grid.farChecked_eq : grid.farChecked = some grid.far := by
  rw [Grid.contains_iff] at hereInside
  unfold Config.maxGridSize at small
  have fits : Fits (grid.size - 1) := by
    rw [fits_iff]
    omega
  exact word_of_fits fits

theorem Cell.movedChecked_eq (dir : Direction) :
    here.movedChecked dir.delta = some (here.moved dir.delta) := by
  rw [Grid.contains_iff] at hereInside
  unfold Config.maxGridSize at small
  have fits : Fits (here.x + dir.delta.dx) ∧ Fits (here.y + dir.delta.dy) := by
    rw [fits_iff, fits_iff]
    cases dir <;> simp only [Direction.delta] <;> omega
  rw [movedChecked, bind_of_some (word_of_fits fits.1), bind_of_some (word_of_fits fits.2)]
  rfl

theorem Grid.stepChecked_eq (dir : Direction) :
    grid.stepChecked here dir = some (grid.step here dir) := by
  rw [stepChecked, bind_of_some (Cell.movedChecked_eq small hereInside dir),
    bind_of_some (farChecked_eq small hereInside)]
  rfl

theorem Grid.wallDistanceChecked_eq (dir : Direction) :
    grid.wallDistanceChecked here dir = some (grid.wallDistance here dir) := by
  rw [wallDistanceChecked, bind_of_some (farChecked_eq small hereInside)]
  rw [Grid.contains_iff] at hereInside
  unfold Config.maxGridSize at small
  have fits : Fits (grid.far - here.y) ∧ Fits (grid.far - here.x) := by
    rw [fits_iff, fits_iff, far]
    omega
  cases dir with
  | north => rfl
  | east => exact word_of_fits fits.2
  | south => exact word_of_fits fits.1
  | west => rfl

variable (cellInside : grid.contains cell = true)

include cellInside

theorem Cell.shiftTo_short : Short (here.shiftTo cell).dx ∧ Short (here.shiftTo cell).dy := by
  rw [Grid.contains_iff] at hereInside cellInside
  unfold Short shiftTo
  dsimp only
  omega

/-- Within an arena nothing is seen farther away than the arena is wide. -/
theorem Direction.seen_short (facing : Direction) :
    Short (facing.relative (here.shiftTo cell)).right ∧
      Short (facing.relative (here.shiftTo cell)).ahead :=
  have short := Cell.shiftTo_short small hereInside cellInside
  facing.relative_short short.1 short.2

theorem Direction.seenChecked_eq (facing : Direction) :
    facing.seenChecked here cell = some (facing.relative (here.shiftTo cell)) := by
  obtain ⟨columns, rows⟩ := Cell.shiftTo_short small hereInside cellInside
  have shifted : here.shiftToChecked cell = some (here.shiftTo cell) := by
    have dx : word? (cell.x - here.x) = some (cell.x - here.x) := word_of_fits columns.fits
    have dy : word? (cell.y - here.y) = some (cell.y - here.y) := word_of_fits rows.fits
    rw [Cell.shiftToChecked, bind_of_some dx, bind_of_some dy]
    rfl
  rw [seenChecked, bind_of_some shifted]
  exact facing.relativeChecked_eq columns rows

end Geometry

/-! ### Perception -/

/-- The number of steps to a cell at an offset. -/
def stepsToChecked (offset : Offset Int) : Option Int := do
  let right ← word? offset.right.natAbs
  let ahead ← word? offset.ahead.natAbs
  word? (right + ahead)

/-- An offset with the number of steps to it, which is the key for sorting. -/
def keyChecked (offset : Offset Int) : Option (Offset Int × Int) := do
  let steps ← stepsToChecked offset
  return (offset, steps)

/-- What `me` perceives. The number of barrels is read by a sensor. -/
def Perception.captureChecked (grid : Grid) (barrels : CellSet) (me other : Body) :
    Option Perception := do
  let seen := me.current.dir.seenChecked me.current.pos
  let opponent ← seen other.current.pos
  let offsets ← barrels.cells.mapM seen
  let keyed ← offsets.mapM keyChecked
  let wallDistance ← grid.wallDistanceChecked me.current.pos me.current.dir
  let _count ← word? offsets.length
  return {
    fuel := me.current.fuel
    opponent
    barrels := (keyed.mergeSort fun a b => a.2 ≤ b.2).map Prod.fst
    wallDistance }

theorem stepsToChecked_eq {offset : Offset Int} (right : Short offset.right)
    (ahead : Short offset.ahead) : stepsToChecked offset = some (stepsTo offset) := by
  unfold Short Config.maxGridSize at right ahead
  have rightFits : Fits offset.right.natAbs := by
    rw [fits_iff]
    omega
  have aheadFits : Fits offset.ahead.natAbs := by
    rw [fits_iff]
    omega
  have sumFits : Fits (offset.right.natAbs + offset.ahead.natAbs) := by
    rw [fits_iff]
    omega
  rw [stepsToChecked, bind_of_some (word_of_fits rightFits),
    bind_of_some (word_of_fits aheadFits), word_of_fits sumFits]
  rfl

/-- Sorting by keys that are computed first is sorting by the keys. -/
theorem map_fst_mergeSort_keyed (offsets : List (Offset Int)) :
    ((offsets.map fun offset => (offset, stepsTo offset)).mergeSort fun a b => a.2 ≤ b.2).map
        Prod.fst =
      offsets.mergeSort fun a b => stepsTo a ≤ stepsTo b := by
  have sameOrder : ∀ a ∈ offsets, ∀ b ∈ offsets,
      decide (stepsTo a ≤ stepsTo b) =
        decide ((a, stepsTo a).2 ≤ (b, stepsTo b).2) := fun _ _ _ _ => rfl
  rw [← List.map_mergeSort sameOrder, List.map_map]
  exact List.map_id _

theorem Perception.captureChecked_eq {grid : Grid} (small : grid.size ≤ Config.maxGridSize)
    {barrels : CellSet} (barrelsInside : barrels.Inside grid) {me other : Body}
    (meInside : grid.contains me.current.pos = true)
    (otherInside : grid.contains other.current.pos = true) :
    captureChecked grid barrels me other = some (capture grid barrels me other) := by
  let seen (cell : Cell) := me.current.dir.relative (me.current.pos.shiftTo cell)
  have opponent := me.current.dir.seenChecked_eq small meInside otherInside
  have offsets : barrels.cells.mapM (me.current.dir.seenChecked me.current.pos) =
      some (barrels.cells.map seen) := by
    apply mapM_of_forall
    intro cell member
    exact me.current.dir.seenChecked_eq small meInside (barrelsInside cell member)
  have keyed : (barrels.cells.map seen).mapM keyChecked =
      some ((barrels.cells.map seen).map fun offset => (offset, stepsTo offset)) := by
    apply mapM_of_forall
    intro offset member
    obtain ⟨cell, found, rfl⟩ := List.mem_map.mp member
    have short := me.current.dir.seen_short small meInside (barrelsInside cell found)
    rw [keyChecked, bind_of_some (stepsToChecked_eq short.1 short.2)]
    rfl
  have wall := grid.wallDistanceChecked_eq small meInside me.current.dir
  have count : word? (barrels.cells.map seen).length = some (barrels.cells.map seen).length := by
    have side : grid.size.toNat ≤ 256 := Int.toNat_le.mpr small
    have few : barrels.size ≤ 256 * 256 :=
      Nat.le_trans barrelsInside.size_le (Nat.mul_le_mul side side)
    apply word_of_fits
    rw [fits_iff, List.length_map]
    unfold CellSet.size at few
    omega
  rw [captureChecked, bind_of_some opponent, bind_of_some offsets, bind_of_some keyed,
    bind_of_some wall, bind_of_some count, map_fst_mergeSort_keyed]
  rfl

/-! ### Fuel -/

namespace Body

/-- The fuel that the next tick starts with. -/
def settledFuelChecked (body : Body) : Option Int := word? (body.target.fuel - body.stolen)

/-- Starts the next tick. -/
def commitChecked (body : Body) : Option Body := do
  let fuel ← body.settledFuelChecked
  let settled := { body.target with pos := body.nextPos, fuel }
  return ⟨settled, settled, body.nextPos, 0⟩

/-- Whether the robot is out of fuel. -/
def isDeadChecked (body : Body) : Option Bool := do
  let fuel ← body.settledFuelChecked
  return fuel ≤ 0

/-- The fuel that an opponent can siphon off. -/
def extractableChecked (body : Body) (maxFuel : Int) : Option Int := do
  let quarter ← word? (maxFuel.tdiv 4)
  let half ← word? (body.current.fuel.tdiv 2)
  return max (min quarter half) 0

/-- Adds a price that may be due. -/
def surcharge (cost : Int) (due : Bool) (price : Int) : Option Int :=
  if due then word? (cost + price) else some cost

/-- The price of this tick. -/
def tickCostChecked (body : Body) (config : Config) : Option Int := do
  let shielding ← surcharge config.waitCost body.current.shield config.shieldCost
  let moving ← surcharge shielding body.isMoving config.moveCost
  surcharge moving body.isTurning config.turnCost

/-- Pays the price of this tick. -/
def chargeChecked (body : Body) (config : Config) : Option Body := do
  let cost ← body.tickCostChecked config
  let fuel ← word? (body.target.fuel - cost)
  return { body with target.fuel := fuel }

end Body

theorem Body.settledFuelChecked_eq {body : Body} (fits : Fits body.settledFuel) :
    body.settledFuelChecked = some body.settledFuel :=
  word_of_fits fits

theorem Body.surcharge_eq {cost price : Int} (fits : Fits (cost + price)) (due : Bool) :
    surcharge cost due price = some (cost + if due then price else 0) := by
  cases due with
  | true => exact word_of_fits fits
  | false => exact congrArg some (Int.add_zero cost).symm

section Fuel

variable {config : Config} (limits : config.Limits)

include limits

/-- Amounts of a few full tanks fit. -/
theorem fits_of_tanks {value : Int} (low : -(5 * config.maxFuel) ≤ value)
    (high : value ≤ 5 * config.maxFuel) : Fits value := by
  have limit := limits.maxFuel_le
  unfold Config.maxFuelLimit at limit
  rw [fits_iff]
  omega

theorem Body.Fuelled.fits {body : Body} (fuelled : body.Fuelled config) :
    Fits body.settledFuel := by
  have low := fuelled.le_settledFuel
  have high := fuelled.settledFuel_le
  have full := limits.one_le_maxFuel
  apply fits_of_tanks limits <;> omega

theorem Body.extractableChecked_eq {body : Body} (tank : InTank config body.current.fuel) :
    body.extractableChecked config.maxFuel = some (body.extractable config.maxFuel) := by
  have full := limits.maxFuel_nonneg
  have most := tank.le
  have quarter : Fits (config.maxFuel.tdiv 4) := by
    have low := Int.tdiv_nonneg full (show (0 : Int) ≤ 4 by decide)
    have high := Int.tdiv_le_self 4 full
    apply fits_of_tanks limits <;> omega
  have half : Fits (body.current.fuel.tdiv 2) := by
    have low := Int.tdiv_nonneg tank.nonneg (show (0 : Int) ≤ 2 by decide)
    have high := Int.tdiv_le_self 2 tank.nonneg
    apply fits_of_tanks limits <;> omega
  rw [extractableChecked, bind_of_some (word_of_fits quarter), bind_of_some (word_of_fits half)]
  rfl

theorem Body.tickCostChecked_eq (body : Body) :
    body.tickCostChecked config = some (body.tickCost config) := by
  have wait : 0 ≤ config.waitCost ∧ config.waitCost ≤ config.maxFuel :=
    ⟨limits.cost_nonneg .wait, limits.cost_le .wait⟩
  have shield : 0 ≤ config.shieldCost ∧ config.shieldCost ≤ config.maxFuel :=
    ⟨limits.cost_nonneg .shield, limits.cost_le .shield⟩
  have move : 0 ≤ config.moveCost ∧ config.moveCost ≤ config.maxFuel :=
    ⟨limits.cost_nonneg .move, limits.cost_le .move⟩
  have turn : 0 ≤ config.turnCost ∧ config.turnCost ≤ config.maxFuel :=
    ⟨limits.cost_nonneg .turn, limits.cost_le .turn⟩
  have shielding : Fits (config.waitCost + config.shieldCost) := by
    apply fits_of_tanks limits <;> omega
  have moving : Fits (config.waitCost + (if body.current.shield then config.shieldCost else 0) +
      config.moveCost) := by
    apply fits_of_tanks limits <;> split <;> omega
  have turning : Fits (config.waitCost + (if body.current.shield then config.shieldCost else 0) +
      (if body.isMoving then config.moveCost else 0) + config.turnCost) := by
    apply fits_of_tanks limits <;> split <;> split <;> omega
  rw [tickCostChecked, bind_of_some (surcharge_eq shielding _),
    bind_of_some (surcharge_eq moving _), surcharge_eq turning]
  rfl

theorem Body.chargeChecked_eq {body : Body} (tank : InTank config body.target.fuel) :
    body.chargeChecked config = some (body.charge config) := by
  have free : 0 ≤ config.waitCost := limits.cost_nonneg .wait
  have low := body.waitCost_le_tickCost limits
  have high := body.tickCost_le limits
  have nonneg := tank.nonneg
  have most := tank.le
  have paid : Fits (body.target.fuel - body.tickCost config) := by
    apply fits_of_tanks limits <;> omega
  rw [chargeChecked, bind_of_some (body.tickCostChecked_eq limits),
    bind_of_some (word_of_fits paid)]
  rfl

end Fuel

/-! ### Decisions -/

namespace Scene

/-- Siphons fuel from an opponent on the cell ahead whose shield is down. -/
def siphonChecked (grid : Grid) (config : Config) (scene : Scene) : Option Scene := do
  let ahead ← grid.stepChecked scene.me.current.pos scene.me.current.dir
  if !scene.other.current.shield && ahead = scene.other.current.pos then
    let amount ← scene.other.extractableChecked config.maxFuel
    let fuel ← word? (scene.me.target.fuel + amount)
    return { scene with
      other.stolen := amount
      me.target.fuel := min fuel config.maxFuel }
  else
    return scene

/-- Carries out an action. -/
def actChecked (grid : Grid) (config : Config) (scene : Scene) : Action → Option Scene
  | .move => do
      let ahead ← grid.stepChecked scene.me.current.pos scene.me.current.dir
      return { scene with me.target.pos := ahead }
  | .turn way => some { scene with me.target.dir := scene.me.current.dir.turned way }
  | .takeFuel => (scene.takeBarrel config).siphonChecked grid config
  | .wait => some scene

/-- Carries out a decision. -/
def carryOutChecked (grid : Grid) (config : Config) (decision : Decision) (scene : Scene) :
    Option Scene :=
  let shielded := (decision.shield.map scene.setShield).getD scene
  match decision.action with
  | none => some shielded
  | some action => shielded.actChecked grid config action

end Scene

section Decisions

variable {config : Config} (limits : config.Limits) {grid : Grid}
  (small : grid.size ≤ Config.maxGridSize) (scene : Scene)
  (inside : grid.contains scene.me.current.pos = true)
  (mine : InTank config scene.me.target.fuel) (theirs : InTank config scene.other.current.fuel)

include limits small inside mine theirs

theorem Scene.siphonChecked_eq :
    scene.siphonChecked grid config = some (scene.siphon grid config) := by
  have amount := scene.other.extractable_nonneg config.maxFuel
  have half := Body.extractable_le theirs.nonneg config.maxFuel
  have whole := Int.tdiv_le_self 2 theirs.nonneg
  have gain : Fits (scene.me.target.fuel + scene.other.extractable config.maxFuel) := by
    have nonneg := mine.nonneg
    have most := mine.le
    have other := theirs.le
    apply fits_of_tanks limits <;> omega
  rw [siphonChecked, bind_of_some (grid.stepChecked_eq small inside _)]
  by_cases near : (!scene.other.current.shield && decide
      (grid.step scene.me.current.pos scene.me.current.dir = scene.other.current.pos)) = true
  · rw [if_pos near, bind_of_some (Body.extractableChecked_eq limits theirs),
      bind_of_some (word_of_fits gain), siphon, if_pos near]
    rfl
  · rw [if_neg near, siphon, if_neg near]
    rfl

theorem Scene.actChecked_eq (action : Action) :
    scene.actChecked grid config action = some (scene.act grid config action) := by
  cases action with
  | move =>
      rw [actChecked, bind_of_some (grid.stepChecked_eq small inside _)]
      rfl
  | turn way => rfl
  | wait => rfl
  | takeFuel =>
      obtain ⟨barrels, me, other⟩ := scene
      apply siphonChecked_eq limits small _
      · rw [takeBarrel_eq]
        exact inside
      · rw [takeBarrel_eq]
        show InTank config (if barrels.contains me.current.pos then _ else _)
        split
        · exact ⟨limits.maxFuel_nonneg, Int.le_refl _⟩
        · exact mine
      · rw [takeBarrel_eq]
        exact theirs

theorem Scene.carryOutChecked_eq (decision : Decision) :
    carryOutChecked grid config decision scene = some (carryOut grid config decision scene) := by
  obtain ⟨action, shield⟩ := decision
  cases action with
  | none => rfl
  | some action =>
      cases shield with
      | none => exact actChecked_eq limits small scene inside mine theirs action
      | some on => exact actChecked_eq limits small (scene.setShield on) inside mine theirs action

end Decisions

/-- A decision changes neither what the sensors see nor what the opponent wants. -/
theorem Scene.carryOut_frame (grid : Grid) (config : Config) (decision : Decision) (scene : Scene) :
    (carryOut grid config decision scene).me.current = scene.me.current ∧
      (carryOut grid config decision scene).other.current = scene.other.current ∧
      (carryOut grid config decision scene).other.target = scene.other.target := by
  obtain ⟨barrels, me, other⟩ := scene
  let mine : Part := ⟨me, decision, barrels.contains me.current.pos⟩
  let theirs : Part := ⟨other, decision, barrels.contains other.current.pos⟩
  have carriedOut : carryOut grid config decision ⟨barrels, me, other⟩ = _ :=
    carryOut_eq grid config barrels mine theirs rfl
  rw [carriedOut]
  exact ⟨rfl, rfl, rfl⟩

end Arena

end FuelDuel
