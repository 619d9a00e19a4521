import FuelDuel.Proofs.Occupancy
import Mathlib.Logic.Function.Iterate

/-!
The wall ahead. The distance to the wall and the step are computed in different ways: the one by a
subtraction per facing, the other by moving both coordinates back between the walls. They agree: the
distance counts the steps that lead somewhere (`Grid.iterate_step`). The step lemma is
`Grid.step_eq_moved`, which says of one step what the theorem says of all of them.
-/

namespace FuelDuel.Arena

/-- A displacement made a number of times. -/
def Shift.times (count : Int) (shift : Shift) : Shift := ⟨count * shift.dx, count * shift.dy⟩

theorem Cell.moved_times_zero (cell : Cell) (shift : Shift) :
    cell.moved (shift.times 0) = cell := by
  simp [Cell.moved, Shift.times]

theorem Cell.moved_times_add (cell : Cell) (shift : Shift) (first second : Int) :
    (cell.moved (shift.times first)).moved (shift.times second) =
      cell.moved (shift.times (first + second)) := by
  simp only [Cell.moved, Shift.times, Int.add_mul, Int.add_assoc]

/-- Along a facing, different numbers of steps lead to different cells. -/
theorem Cell.moved_times_eq_self_iff {cell : Cell} {dir : Direction} {count : Int} :
    cell.moved (dir.delta.times count) = cell ↔ count = 0 := by
  obtain ⟨x, y⟩ := cell
  cases dir <;> simp only [Cell.moved, Shift.times, Direction.delta, Cell.mk.injEq] <;> omega

namespace Grid

variable {grid : Grid} {cell : Cell} (inside : grid.contains cell = true) (dir : Direction)

theorem wallDistance_moved (count : Int) :
    grid.wallDistance (cell.moved (dir.delta.times count)) dir =
      grid.wallDistance cell dir - count := by
  cases dir <;> simp only [wallDistance, Cell.moved, Shift.times, Direction.delta] <;> omega

/-- The distances to the wall ahead and to the wall behind make up the distance of the walls. -/
theorem wallDistance_add_reverse :
    grid.wallDistance cell dir + grid.wallDistance cell dir.reverse = grid.size - 1 := by
  cases dir <;> simp only [wallDistance, Direction.reverse, Direction.left, far] <;> omega

include inside

theorem wallDistance_nonneg : 0 ≤ grid.wallDistance cell dir := by
  rw [contains_iff] at inside
  cases dir <;> simp only [wallDistance, far] <;> omega

/-- The cells up to the wall are inside. -/
theorem contains_moved {count : Int} (natural : 0 ≤ count)
    (within : count ≤ grid.wallDistance cell dir) :
    grid.contains (cell.moved (dir.delta.times count)) = true := by
  rw [contains_iff] at inside ⊢
  cases dir <;>
    simp only [wallDistance, far, Cell.moved, Shift.times, Direction.delta] at within ⊢ <;> omega

/-- One step leads one cell on, unless the wall is there. -/
theorem step_eq_moved :
    grid.step cell dir = cell.moved (dir.delta.times (min 1 (grid.wallDistance cell dir))) := by
  rw [contains_iff] at inside
  cases dir <;>
    simp only [step, clamp, far, wallDistance, Cell.moved, Shift.times, Direction.delta,
      Cell.mk.injEq] <;> omega

/-- A step leads nowhere just where the wall is. -/
theorem step_eq_self_iff : grid.step cell dir = cell ↔ grid.wallDistance cell dir = 0 := by
  have natural := wallDistance_nonneg inside dir
  rw [step_eq_moved inside, Cell.moved_times_eq_self_iff]
  omega

/-- Steps along a facing lead as many cells on as there are steps, but no further than to the
wall. -/
theorem iterate_step (steps : Nat) :
    (grid.step · dir)^[steps] cell =
      cell.moved (dir.delta.times (min steps (grid.wallDistance cell dir))) := by
  have natural := wallDistance_nonneg inside dir
  induction steps with
  | zero =>
      have none : min 0 (grid.wallDistance cell dir) = 0 := by omega
      exact none ▸ (cell.moved_times_zero dir.delta).symm
  | succ steps ih =>
      have reached : grid.contains
          (cell.moved (dir.delta.times (min steps (grid.wallDistance cell dir)))) = true :=
        contains_moved inside dir (by omega) (by omega)
      rw [Function.iterate_succ_apply', ih, step_eq_moved reached, wallDistance_moved,
        Cell.moved_times_add]
      congr 2
      omega

theorem contains_iterate_step (steps : Nat) :
    grid.contains ((grid.step · dir)^[steps] cell) = true := by
  have natural := wallDistance_nonneg inside dir
  rw [iterate_step inside]
  exact contains_moved inside dir (by omega) (by omega)

end Grid

/-- The distance to the wall ahead counts the steps that are possible: so many steps lead one cell
on each, and none after that leads anywhere. -/
theorem wallDistance_counts_possible_steps {grid : Grid} {cell : Cell}
    (inside : grid.contains cell = true) (dir : Direction) :
    (∀ steps : Nat,
      (grid.step · dir)^[steps] cell =
          cell.moved (dir.delta.times (min steps (grid.wallDistance cell dir))) ∧
        grid.contains ((grid.step · dir)^[steps] cell) = true) ∧
      (grid.step cell dir = cell ↔ grid.wallDistance cell dir = 0) ∧
      grid.wallDistance cell dir + grid.wallDistance cell dir.reverse = grid.size - 1 :=
  ⟨fun steps => ⟨Grid.iterate_step inside dir steps, Grid.contains_iterate_step inside dir steps⟩,
    Grid.step_eq_self_iff inside dir, Grid.wallDistance_add_reverse dir⟩

/-- Three cells before the southern wall, five steps lead to the wall and no further. -/
theorem wallDistance_counts_possible_steps_of_southWall :
    (Grid.mk 12).contains ⟨3, 8⟩ = true ∧
      ((Grid.mk 12).step · .south)^[5] ⟨3, 8⟩ = Cell.moved ⟨3, 8⟩ (Shift.times 3 ⟨0, 1⟩) ∧
      (Grid.mk 12).contains (((Grid.mk 12).step · .south)^[5] ⟨3, 8⟩) = true ∧
      ((Grid.mk 12).step ⟨3, 8⟩ .south = ⟨3, 8⟩ ↔ (3 : Int) = 0) ∧
      (Grid.mk 12).wallDistance ⟨3, 8⟩ .south + (Grid.mk 12).wallDistance ⟨3, 8⟩ .north =
        12 - 1 := by
  have inside : (Grid.mk 12).contains ⟨3, 8⟩ = true := by decide
  obtain ⟨walked, stays, sum⟩ := wallDistance_counts_possible_steps inside .south
  exact ⟨inside, (walked 5).1, (walked 5).2, stays, sum⟩

end FuelDuel.Arena
