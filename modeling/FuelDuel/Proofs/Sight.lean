import FuelDuel.Proofs.CheckedArithmetic
import FuelDuel.Proofs.SteadyWorld

/-!
Sensors show the true arena. A robot sees a cell at an offset to the right of and along its facing,
and walking that offset from where it stands leads back to the cell (`Body.sighted_sees`). An
offset is as many steps long as the cell is away (`Body.stepsTo_sees`), so barrels that are sorted
by their offsets are sorted by their distances, whatever the facing.

The sort is stable and starts from a list in row-major order, so among barrels at the same distance
the row decides, and then the column (`pairwise_mergeSort_key`). In an arena of playable size all
that is perceived fits into words, and nothing is as far away as the value that stands for a missing
barrel (`Perception.Legible`).
-/

namespace FuelDuel.Arena

open FuelDuel.Execution
open FuelDuel.Language
open FuelDuel.World

/-! ### Offsets -/

/-- The cell at an offset: steps to the right of a facing, and steps along it. -/
def Cell.sighted (here : Cell) (facing : Direction) (offset : Offset Int) : Cell :=
  ⟨here.x + offset.right * facing.right.delta.dx + offset.ahead * facing.delta.dx,
    here.y + offset.right * facing.right.delta.dy + offset.ahead * facing.delta.dy⟩

/-- The number of steps from one cell to another. -/
def Cell.distance (here cell : Cell) : Int := (cell.x - here.x).natAbs + (cell.y - here.y).natAbs

/-- The offset at which a robot sees a cell. -/
def Body.sees (me : Body) (cell : Cell) : Offset Int :=
  me.current.dir.relative (me.current.pos.shiftTo cell)

/-- The cell that a robot sees at an offset. -/
def Body.sighted (me : Body) (offset : Offset Int) : Cell :=
  me.current.pos.sighted me.current.dir offset

/-- The first cell is closer, or as close and before the second one in row-major order. -/
def Cell.Precedes (here first second : Cell) : Prop :=
  here.distance first < here.distance second ∨
    here.distance first = here.distance second ∧ first < second

/-- A cell is where it is seen. -/
theorem Body.sighted_sees (me : Body) (cell : Cell) : me.sighted (me.sees cell) = cell := by
  obtain ⟨x, y⟩ := cell
  unfold sighted sees
  cases me.current.dir <;>
    simp only [Cell.sighted, Cell.shiftTo, Direction.relative, Direction.right, Direction.delta,
      Cell.mk.injEq] <;> omega

theorem Body.sighted_zero (me : Body) : me.sighted ⟨0, 0⟩ = me.current.pos := by
  simp [sighted, Cell.sighted]

/-- A cell is seen as many steps away as it is, whatever the facing. -/
theorem Body.stepsTo_sees (me : Body) (cell : Cell) :
    stepsTo (me.sees cell) = me.current.pos.distance cell := by
  unfold sees
  cases me.current.dir <;>
    simp only [stepsTo, Cell.distance, Cell.shiftTo, Direction.relative] <;> omega

/-! ### Sorting by distance -/

/-- Sorting by a key keeps the order of entries with the same key. -/
theorem pairwise_mergeSort_key {α : Type} (key : α → Int) {before : α → α → Prop} {items : List α}
    (ordered : items.Pairwise before) :
    (items.mergeSort fun first second => key first ≤ key second).Pairwise fun first second =>
      key first < key second ∨ key first = key second ∧ before first second := by
  have trans : ∀ a b c : α, decide (key a ≤ key b) = true → decide (key b ≤ key c) = true →
      decide (key a ≤ key c) = true := by
    simp only [decide_eq_true_eq]
    omega
  have total : ∀ a b : α, (decide (key a ≤ key b) || decide (key b ≤ key a)) = true := by
    simp only [Bool.or_eq_true, decide_eq_true_eq]
    omega
  induction ordered with
  | nil => simp
  | @cons item rest itemBefore restOrdered ih =>
      -- The item is put in behind the entries with a smaller key, all of which come later.
      obtain ⟨smaller, others, sorted, split, less⟩ := List.mergeSort_cons trans total item rest
      have ascending := List.pairwise_mergeSort trans total (item :: rest)
      rw [sorted, List.pairwise_append] at ascending
      have later : ∀ other ∈ others, other ∈ rest := by
        intro other member
        have listed : other ∈ smaller ++ others := List.mem_append_right _ member
        rw [← split] at listed
        exact List.mem_mergeSort.mp listed
      rw [split, List.pairwise_append] at ih
      rw [sorted, List.pairwise_append]
      refine ⟨ih.1, .cons ?_ ih.2.1, ?_⟩
      · intro other member
        have atMost := (List.pairwise_cons.mp ascending.2.1).1 other member
        rw [decide_eq_true_eq] at atMost
        rcases Int.lt_or_eq_of_le atMost with closer | same
        · exact .inl closer
        · exact .inr ⟨same, itemBefore other (later other member)⟩
      · intro first member second found
        rcases List.mem_cons.mp found with rfl | found
        · have above := less first member
          simp only [Bool.not_eq_true', decide_eq_false_iff_not] at above
          exact .inl (Int.not_le.mp above)
        · exact ih.2.2 first member second found

/-- The barrels of a set, the closest to a robot first. -/
def Body.closest (me : Body) (barrels : CellSet) : List Cell :=
  barrels.cells.mergeSort fun first second =>
    me.current.pos.distance first ≤ me.current.pos.distance second

/-- Sorting what is seen is seeing what is sorted. -/
theorem Perception.barrels_capture (grid : Grid) (barrels : CellSet) (me other : Body) :
    (capture grid barrels me other).barrels = (me.closest barrels).map me.sees := by
  have sameOrder : ∀ first ∈ barrels.cells, ∀ second ∈ barrels.cells,
      decide (me.current.pos.distance first ≤ me.current.pos.distance second) =
        (fun a b => decide (stepsTo a ≤ stepsTo b)) (me.sees first) (me.sees second) := by
    intro first _ second _
    simp only [Body.stepsTo_sees]
  exact (List.map_mergeSort sameOrder).symm

/-- What is perceived is where it is seen: the opponent on its cell, and each barrel just once, from
the closest to the farthest. -/
structure TrueSight (barrels : CellSet) (me other : Body) (perception : Perception) : Prop where
  opponent : me.sighted perception.opponent = other.current.pos
  count : perception.barrels.length = barrels.size
  listed : (perception.barrels.map me.sighted).Perm barrels.cells
  ordered : (perception.barrels.map me.sighted).Pairwise me.current.pos.Precedes

theorem trueSight_capture (grid : Grid) (barrels : CellSet) (me other : Body) :
    TrueSight barrels me other (.capture grid barrels me other) := by
  have back : me.sighted ∘ me.sees = id := funext me.sighted_sees
  have cells : (Perception.capture grid barrels me other).barrels.map me.sighted =
      me.closest barrels := by
    rw [Perception.barrels_capture, List.map_map, back, List.map_id]
  constructor
  · exact me.sighted_sees other.current.pos
  · rw [Perception.barrels_capture, List.length_map, Body.closest, List.length_mergeSort]
    rfl
  · rw [cells]
    exact List.mergeSort_perm _ _
  · rw [cells]
    exact pairwise_mergeSort_key _ barrels.ordered

/-! ### What the sensors show -/

/-- All that is perceived can be shown: it is nearer than the largest arena is wide, and there are
no more barrels than cells in the largest arena. -/
structure Perception.Legible (perception : Perception) : Prop where
  opponent : ∀ axis, Short (perception.opponent.along axis)
  barrel : ∀ offset ∈ perception.barrels, ∀ axis, Short (offset.along axis)
  count : perception.barrels.length ≤ 256 * 256

theorem legible_capture {grid : Grid} (small : grid.size ≤ Config.maxGridSize) {barrels : CellSet}
    (barrelsInside : barrels.Inside grid) {me other : Body}
    (meInside : grid.contains me.current.pos = true)
    (otherInside : grid.contains other.current.pos = true) :
    (Perception.capture grid barrels me other).Legible := by
  have seen {cell : Cell} (inside : grid.contains cell = true) (axis : Axis) :
      Short ((me.sees cell).along axis) := by
    have short := me.current.dir.seen_short small meInside inside
    cases axis with
    | leftRight => exact short.1
    | frontBack => exact short.2
  constructor
  · exact seen otherInside
  · intro offset member
    rw [Perception.barrels_capture, List.mem_map] at member
    obtain ⟨cell, listed, rfl⟩ := member
    exact seen (barrelsInside cell (List.mem_mergeSort.mp listed))
  · have side : grid.size.toNat ≤ 256 := Int.toNat_le.mpr small
    rw [(trueSight_capture grid barrels me other).count]
    exact Nat.le_trans barrelsInside.size_le (Nat.mul_le_mul side side)

/-- A short distance is shown as it is. -/
theorem Short.toInt_ofInt {distance : Int} (short : Short distance) :
    (Int32.ofInt distance).toInt = distance := by
  unfold Short Config.maxGridSize at short
  exact Int32.toInt_ofInt_of_le (by omega) (by omega)

/-- No short distance is shown as the value that stands for a missing barrel. -/
theorem Short.ofInt_ne_noBarrel {distance : Int} (short : Short distance) :
    Int32.ofInt distance ≠ noBarrel := by
  intro same
  have far : distance = noBarrel.toInt := by rw [← same, short.toInt_ofInt]
  have missing : noBarrel.toInt = 2147483647 := by decide
  unfold Short Config.maxGridSize at short
  omega

theorem along_map (offset : Offset Int) (axis : Axis) :
    (offset.map Int32.ofInt).along axis = Int32.ofInt (offset.along axis) := by
  cases axis <;> rfl

theorem barrelIndex_eq (value : Int32) : barrelIndex value = (max 0 value.toInt).toNat := by
  unfold barrelIndex
  omega

theorem sense_barrel (perception : Perception) (axis : Axis) (index : Nat) :
    perception.readings.sense (.barrel axis) index =
      (perception.barrels[index]?.map fun offset => Int32.ofInt (offset.along axis)).getD
        noBarrel := by
  simp only [Readings.sense, Perception.readings, List.getElem?_map, Option.map_map]
  congr 2
  funext offset
  exact along_map offset axis

/-- What the sensors show of the opponent and of the barrels, to a program that reads them. -/
structure SensorsShow (perception : Perception) (view : View) : Prop where
  opponent : ∀ axis, ∃ shown, evalExpr (.sensor (.opponent axis)) view = .ok shown view ∧
    shown.toInt = perception.opponent.along axis
  count : ∃ shown, evalExpr (.sensor .numBarrels) view = .ok shown view ∧
    shown.toInt = perception.barrels.length
  /-- The largest word is shown exactly if there is no barrel with that index. -/
  barrel : ∀ axis index value after, evalExpr index view = .ok value after →
    ∃ shown, evalExpr (.barrelAt axis index) view = .ok shown after ∧
      (∀ offset, perception.barrels[(max 0 value.toInt).toNat]? = some offset →
        shown.toInt = offset.along axis) ∧
      (shown = Int32.maxValue ↔ (perception.barrels.length : Int) ≤ max 0 value.toInt)

theorem Perception.Legible.sensorsShow {perception : Perception} (legible : perception.Legible)
    {view : View} (shows : view.readings = perception.readings) : SensorsShow perception view := by
  constructor
  · intro axis
    refine ⟨_, rfl, ?_⟩
    show (view.readings.opponent.along axis).toInt = _
    rw [shows]
    exact (congrArg Int32.toInt (along_map _ axis)).trans (legible.opponent axis).toInt_ofInt
  · have few := legible.count
    refine ⟨_, rfl, ?_⟩
    show (Int32.ofNat view.readings.barrels.length).toInt = _
    rw [shows, Perception.readings, List.length_map]
    exact Int32.toInt_ofNat_of_lt (by omega)
  · intro axis index value after computed
    have read : evalExpr (.barrelAt axis index) view =
        .ok (after.readings.sense (.barrel axis) (barrelIndex value)) after :=
      bind_of_ok computed
    have same : after = view := by
      rw [evalExpr_steady] at computed
      cases value? : exprValue? (SteadyWorld.readings view) (World.stored view) index with
      | none => rw [value?] at computed; cases computed
      | some value => rw [value?] at computed; cases computed; rfl
    refine ⟨_, read, ?_⟩
    rw [same, shows, sense_barrel, barrelIndex_eq]
    cases found : perception.barrels[(max 0 value.toInt).toNat]? with
    | some offset =>
        have early := (List.getElem?_eq_some_iff.mp found).1
        have short := legible.barrel offset (List.mem_of_getElem? found) axis
        refine ⟨?_, ?_⟩
        · rintro _ ⟨⟩
          exact short.toInt_ofInt
        · refine iff_of_false short.ofInt_ne_noBarrel ?_
          omega
    | none =>
        have past := List.getElem?_eq_none_iff.mp found
        refine ⟨?_, iff_of_true rfl ?_⟩
        · rintro _ ⟨⟩
        · omega

/-- In an arena of playable size the perception of a robot is true to the arena, and that is what
the sensors show. -/
theorem sensors_show_true_arena {config : Config} (valid : config.Valid) {barrels : CellSet}
    (barrelsInside : barrels.Inside ⟨config.gridSize⟩) {me other : Body}
    (meInside : (Grid.mk config.gridSize).contains me.current.pos = true)
    (otherInside : (Grid.mk config.gridSize).contains other.current.pos = true) :
    TrueSight barrels me other (.capture ⟨config.gridSize⟩ barrels me other) ∧
      ∀ view : View,
        view.readings = (Perception.capture ⟨config.gridSize⟩ barrels me other).readings →
          SensorsShow (.capture ⟨config.gridSize⟩ barrels me other) view := by
  have small : (Grid.mk config.gridSize).size ≤ Config.maxGridSize := valid.limits.gridSize_le
  have legible := legible_capture small barrelsInside meInside otherInside
  exact ⟨trueSight_capture _ _ _ _, fun _ shows => legible.sensorsShow shows⟩

/-- A robot on barrels to all sides, four of them equally far away. -/
theorem sensors_show_true_arena_of_ring :
    ∃ (config : Config) (barrels : CellSet) (me other : Body) (view : View),
      config.Valid ∧ barrels.Inside ⟨config.gridSize⟩ ∧
        (Grid.mk config.gridSize).contains me.current.pos = true ∧
        (Grid.mk config.gridSize).contains other.current.pos = true ∧
        barrels.size = 5 ∧ me.sees ⟨5, 3⟩ = ⟨2, 0⟩ ∧
        TrueSight barrels me other (.capture ⟨config.gridSize⟩ barrels me other) ∧
        SensorsShow (.capture ⟨config.gridSize⟩ barrels me other) view := by
  let ring : CellSet := .ofList [⟨7, 5⟩, ⟨5, 7⟩, ⟨5, 5⟩, ⟨3, 5⟩, ⟨5, 3⟩]
  let me : Body := .atRest ⟨5, 5⟩ .west 100
  let other : Body := .atRest ⟨0, 11⟩ .north 100
  have valid : Config.Valid {} := by
    unfold Config.Valid
    decide +kernel
  have inside : ring.Inside ⟨12⟩ := by
    unfold CellSet.Inside
    decide
  have meInside : (Grid.mk 12).contains me.current.pos = true := by decide
  have otherInside : (Grid.mk 12).contains other.current.pos = true := by decide
  have shown := sensors_show_true_arena valid inside meInside otherInside
  exact ⟨{}, ring, me, other, ⟨(Perception.capture ⟨12⟩ ring me other).readings, .empty, {}⟩, valid,
    inside, meInside, otherInside, by decide, by decide, shown.1, shown.2 _ rfl⟩

end FuelDuel.Arena
