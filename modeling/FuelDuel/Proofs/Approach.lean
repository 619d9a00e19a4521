import FuelDuel.Proofs.Occupancy
import FuelDuel.Proofs.Steering

/-!
Rules that lead to a barrel. A robot that turns or moves sees what stays where it is at another
offset (`Direction.relative_turned`, `Direction.relative_moved`). So following a rule for offsets is
a walk through offsets, whatever the cells and the facing. A rule leads home if the walk comes to
the robot's own cell and never moves but ahead (`LeadsHome`). To show that it does, a distance that
every turn shortens is enough (`Closes.leadsHome`).

The rule of the program that approaches leads home from everywhere. The rule of the programs that
aim does so only for what is in line with the robot, that is, straight on or level with it. Turning
to the side of anything else keeps it out of line (`inLine_after`), so the next turn is another turn
to the side.
-/

namespace FuelDuel.World

open FuelDuel.Execution
open FuelDuel.Language

namespace Offset

/-- The offset of what stays where it is while the robot turns. -/
def turned (offset : Offset Int) : Turn → Offset Int
  | .left => ⟨offset.ahead, -offset.right⟩
  | .right => ⟨-offset.ahead, offset.right⟩
  | .around => ⟨-offset.right, -offset.ahead⟩

/-- The offset of what stays where it is while the robot acts, if nothing is in its way. -/
def after (offset : Offset Int) : Action → Offset Int
  | .turn way => offset.turned way
  | .move => ⟨offset.right, offset.ahead - 1⟩
  | .takeFuel | .wait => offset

end Offset

end FuelDuel.World

namespace FuelDuel.Arena

open FuelDuel.Execution
open FuelDuel.Language
open FuelDuel.World

/-! ### Rules that lead to a barrel -/

/-- Following the rule, a robot takes the barrel within some turns: it comes closer until the barrel
is on its cell, never moves but towards it, and does not reach for fuel anywhere else. -/
inductive LeadsHome (rule : Offset Int → Action) : Nat → Offset Int → Prop
  | take {turns : Nat} (takes : rule ⟨0, 0⟩ = .takeFuel) : LeadsHome rule (turns + 1) ⟨0, 0⟩
  | onward {turns : Nat} {offset : Offset Int} (leaves : rule offset ≠ .takeFuel)
      (forward : rule offset = .move → 0 < offset.ahead)
      (later : LeadsHome rule turns (offset.after (rule offset))) :
      LeadsHome rule (turns + 1) offset

/-- A rule that comes closer to a barrel in every turn, as long as the offset of the barrel is in
some region, from which the rule does not lead away. -/
structure Closes (rule : Offset Int → Action) (region : Offset Int → Prop)
    (distance : Offset Int → Nat) : Prop where
  takes : rule ⟨0, 0⟩ = .takeFuel
  positive : 0 < distance ⟨0, 0⟩
  leaves : ∀ {offset}, offset ≠ ⟨0, 0⟩ → rule offset ≠ .takeFuel
  forward : ∀ {offset}, rule offset = .move → 0 < offset.ahead
  keeps : ∀ {offset}, region offset → region (offset.after (rule offset))
  closer : ∀ {offset}, region offset → offset ≠ ⟨0, 0⟩ →
    distance (offset.after (rule offset)) < distance offset

theorem Closes.leadsHome {rule : Offset Int → Action} {region : Offset Int → Prop}
    {distance : Offset Int → Nat} (closes : Closes rule region distance) {turns : Nat}
    {offset : Offset Int} (inRegion : region offset) (enough : distance offset ≤ turns) :
    LeadsHome rule turns offset := by
  induction turns generalizing offset with
  | zero =>
      have positive := closes.positive
      by_cases here : offset = ⟨0, 0⟩
      · rw [here] at enough
        omega
      · have closer := closes.closer inRegion here
        omega
  | succ turns ih =>
      by_cases here : offset = ⟨0, 0⟩
      · rw [here]
        exact .take closes.takes
      · have closer := closes.closer inRegion here
        exact .onward (closes.leaves here) closes.forward (ih (closes.keeps inRegion) (by omega))

theorem approached_cases (offset : Offset Int) :
    (offset = ⟨0, 0⟩ ∧ approached offset = .takeFuel) ∨
      (0 < offset.right ∧ offset.ahead = 0 ∧ approached offset = .turn .left) ∨
      (offset.right < 0 ∧ offset.ahead = 0 ∧ approached offset = .turn .right) ∨
      (0 < offset.ahead ∧ approached offset = .move) ∨
      (offset.ahead < 0 ∧ approached offset = .turn .around) := by
  obtain ⟨right, ahead⟩ := offset
  by_cases here : right = 0 ∧ ahead = 0
  · obtain ⟨rfl, rfl⟩ := here
    exact .inl ⟨rfl, rfl⟩
  · rw [approached, if_neg here]
    dsimp only
    by_cases level : ahead = 0
    · rw [if_pos level]
      by_cases toRight : 0 < right
      · exact .inr (.inl ⟨toRight, level, if_pos toRight⟩)
      · exact .inr (.inr (.inl ⟨by omega, level, if_neg toRight⟩))
    · rw [if_neg level]
      by_cases front : 0 < ahead
      · exact .inr (.inr (.inr (.inl ⟨front, if_pos front⟩)))
      · exact .inr (.inr (.inr (.inr ⟨by omega, if_neg front⟩)))

theorem aimed_cases (offset : Offset Int) :
    (offset = ⟨0, 0⟩ ∧ aimed offset = .takeFuel) ∨
      (offset.right = 0 ∧ 0 < offset.ahead ∧ aimed offset = .move) ∨
      (offset.right = 0 ∧ offset.ahead < 0 ∧ aimed offset = .turn .around) ∨
      (offset.right < 0 ∧ aimed offset = .turn .left) ∨
      (0 < offset.right ∧ aimed offset = .turn .right) := by
  obtain ⟨right, ahead⟩ := offset
  by_cases here : right = 0 ∧ ahead = 0
  · obtain ⟨rfl, rfl⟩ := here
    exact .inl ⟨rfl, rfl⟩
  · rw [aimed, if_neg here]
    dsimp only
    by_cases front : right = 0 ∧ 0 < ahead
    · exact .inr (.inl ⟨front.1, front.2, if_pos front⟩)
    · rw [if_neg front]
      by_cases behind : right = 0 ∧ ahead < 0
      · exact .inr (.inr (.inl ⟨behind.1, behind.2, if_pos behind⟩))
      · rw [if_neg behind]
        by_cases toLeft : right < 0
        · exact .inr (.inr (.inr (.inl ⟨toLeft, if_pos toLeft⟩)))
        · exact .inr (.inr (.inr (.inr ⟨by omega, if_neg toLeft⟩)))

/-- The number of turns that approaching takes: two more for a barrel that is not straight on, one
more for a barrel behind, and one to take it. -/
def approachTurns (offset : Offset Int) : Nat :=
  offset.right.natAbs + offset.ahead.natAbs + (if offset.right = 0 then 0 else 2) +
    (if offset.ahead < 0 then 1 else 0) + 1

/-- A barrel is approached from everywhere. A robot that is level with it turns away, so that it is
behind, and then turns around. -/
theorem approached_closes : Closes approached (fun _ => True) approachTurns where
  takes := rfl
  positive := by decide
  leaves := by
    intro offset away
    rcases approached_cases offset with ⟨here, -⟩ | ⟨-, -, act⟩ | ⟨-, -, act⟩ | ⟨-, act⟩ | ⟨-, act⟩
    · exact absurd here away
    all_goals simp [act]
  forward := by
    intro offset moves
    rcases approached_cases offset with ⟨-, act⟩ | ⟨-, -, act⟩ | ⟨-, -, act⟩ | ⟨front, -⟩ | ⟨-, act⟩
    · simp [act] at moves
    · simp [act] at moves
    · simp [act] at moves
    · exact front
    · simp [act] at moves
  keeps := fun _ => trivial
  closer := by
    intro offset _ away
    rcases approached_cases offset with
      ⟨here, -⟩ | ⟨right, level, act⟩ | ⟨left, level, act⟩ | ⟨front, act⟩ | ⟨behind, act⟩
    · exact absurd here away
    all_goals
      simp only [act, Offset.after, Offset.turned, approachTurns]
      grind

/-- The number of turns that aiming takes at what is in line with the robot: one more for what is
not straight ahead, and one to take it. -/
def aimTurns (offset : Offset Int) : Nat :=
  offset.right.natAbs + offset.ahead.natAbs +
    (if offset.right = 0 ∧ 0 ≤ offset.ahead then 0 else 1) + 1

/-- In line with the robot: straight on or level with it. -/
def InLine (offset : Offset Int) : Prop := offset.right = 0 ∨ offset.ahead = 0

/-- Aiming brings nothing in line and takes nothing out of line. -/
theorem inLine_after (offset : Offset Int) :
    InLine (offset.after (aimed offset)) ↔ InLine offset := by
  unfold InLine
  rcases aimed_cases offset with
    ⟨-, act⟩ | ⟨level, front, act⟩ | ⟨level, behind, act⟩ | ⟨left, act⟩ | ⟨right, act⟩
  · simp only [act, Offset.after]
  all_goals
    simp only [act, Offset.after, Offset.turned]
    omega

/-- A barrel in line is straight ahead after one turn. -/
theorem aimed_closes : Closes aimed InLine aimTurns where
  takes := rfl
  positive := by decide
  leaves := by
    intro offset away
    rcases aimed_cases offset with
      ⟨here, -⟩ | ⟨-, -, act⟩ | ⟨-, -, act⟩ | ⟨-, act⟩ | ⟨-, act⟩
    · exact absurd here away
    all_goals simp [act]
  forward := by
    intro offset moves
    rcases aimed_cases offset with
      ⟨-, act⟩ | ⟨-, front, -⟩ | ⟨-, -, act⟩ | ⟨-, act⟩ | ⟨-, act⟩
    · simp [act] at moves
    · exact front
    all_goals simp [act] at moves
  keeps := (inLine_after _).mpr
  closer := by
    intro offset inLine away
    unfold InLine at inLine
    rcases aimed_cases offset with
      ⟨here, -⟩ | ⟨level, front, act⟩ | ⟨level, behind, act⟩ | ⟨left, act⟩ | ⟨right, act⟩
    · exact absurd here away
    all_goals
      simp only [act, Offset.after, Offset.turned, aimTurns]
      grind

/-- What is not in line is turned to, to the left or to the right. -/
theorem aimed_of_not_inLine {offset : Offset Int} (askew : ¬InLine offset) :
    aimed offset = .turn .left ∨ aimed offset = .turn .right := by
  unfold InLine at askew
  rcases aimed_cases offset with
    ⟨rfl, -⟩ | ⟨level, -, -⟩ | ⟨level, -, -⟩ | ⟨-, act⟩ | ⟨-, act⟩
  · exact absurd (.inl rfl) askew
  · exact absurd (.inl level) askew
  · exact absurd (.inl level) askew
  · exact .inl act
  · exact .inr act

/-! ### Offsets and facings -/

/-- The cell lies in the rectangle that two cells span. -/
def Cell.Between (first second cell : Cell) : Prop :=
  (min first.x second.x ≤ cell.x ∧ cell.x ≤ max first.x second.x) ∧
    min first.y second.y ≤ cell.y ∧ cell.y ≤ max first.y second.y

instance (first second cell : Cell) : Decidable (Cell.Between first second cell) :=
  inferInstanceAs (Decidable ((min first.x second.x ≤ cell.x ∧ cell.x ≤ max first.x second.x) ∧
    min first.y second.y ≤ cell.y ∧ cell.y ≤ max first.y second.y))

theorem Cell.between_left (first second : Cell) : Between first second first := by
  unfold Between
  omega

/-- The rectangle of two cells inside a grid is inside the grid. -/
theorem Cell.Between.contains {grid : Grid} {first second cell : Cell}
    (between : Between first second cell) (firstInside : grid.contains first = true)
    (secondInside : grid.contains second = true) : grid.contains cell = true := by
  rw [Grid.contains_iff] at *
  unfold Between at between
  omega

theorem Cell.moved_ne (cell : Cell) (dir : Direction) : cell.moved dir.delta ≠ cell := by
  obtain ⟨x, y⟩ := cell
  cases dir <;> simp only [moved, Direction.delta, ne_eq, Cell.mk.injEq] <;> omega

namespace Direction

variable (dir : Direction) (here barrel : Cell)

theorem relative_turned (way : Turn) (shift : Shift) :
    (dir.turned way).relative shift = (dir.relative shift).turned way := by
  cases dir <;> cases way <;> simp [relative, turned, left, right, reverse, Offset.turned]

theorem relative_moved :
    dir.relative ((here.moved dir.delta).shiftTo barrel) =
      (dir.relative (here.shiftTo barrel)).after .move := by
  cases dir <;>
    simp only [relative, delta, Cell.moved, Cell.shiftTo, Offset.after, Offset.mk.injEq] <;> omega

variable {dir here barrel}

/-- A step towards what is ahead stays in the rectangle, and the rectangle that is left is a part of
it. -/
theorem between_moved (front : 0 < (dir.relative (here.shiftTo barrel)).ahead) {cell : Cell}
    (between : Cell.Between (here.moved dir.delta) barrel cell) :
    Cell.Between here barrel cell := by
  unfold Cell.Between at *
  cases dir <;>
    simp only [relative, delta, Cell.moved, Cell.shiftTo] at front between ⊢ <;> omega

end Direction

end FuelDuel.Arena
