import FuelDuel.Language.Tree
import FuelDuel.Text.Decimal
import FuelDuel.World.Readings

/-!
The geometry of the arena: cells of a square grid, the four facings, and displacements as a robot
sees them. The second coordinate grows southwards, and cells are ordered row by row.
-/

namespace FuelDuel.Arena

open FuelDuel.Language
open FuelDuel.Text
open FuelDuel.World

/-- A cell: its column from the west and its row from the north. -/
structure Cell where
  x : Int
  y : Int
  deriving DecidableEq, Repr

/-- A displacement: columns eastwards and rows southwards. -/
structure Shift where
  dx : Int
  dy : Int
  deriving DecidableEq, Repr

namespace Cell

/-- A cell as it is written in reports. -/
def text (cell : Cell) : String := "(" ++ ofInt cell.x ++ ", " ++ ofInt cell.y ++ ")"

/-- The cell that a displacement leads to. -/
def moved (cell : Cell) (shift : Shift) : Cell := ⟨cell.x + shift.dx, cell.y + shift.dy⟩

/-- The displacement from one cell to another. -/
def shiftTo (origin target : Cell) : Shift := ⟨target.x - origin.x, target.y - origin.y⟩

/-- Row-major order: the row decides, and the column within a row. -/
instance : LT Cell where
  lt a b := a.y < b.y ∨ a.y = b.y ∧ a.x < b.x

instance (a b : Cell) : Decidable (a < b) :=
  inferInstanceAs (Decidable (a.y < b.y ∨ a.y = b.y ∧ a.x < b.x))

theorem lt_def {a b : Cell} : a < b ↔ a.y < b.y ∨ a.y = b.y ∧ a.x < b.x := Iff.rfl

theorem lt_trans {a b c : Cell} (hab : a < b) (hbc : b < c) : a < c := by
  rw [lt_def] at *; omega

theorem lt_of_not_lt_of_ne {a b : Cell} (h : ¬a < b) (hne : a ≠ b) : b < a := by
  have : ¬(a.x = b.x ∧ a.y = b.y) := fun h' => hne (by cases a; cases b; simp_all)
  rw [lt_def] at *; omega

theorem not_lt_self (a : Cell) : ¬a < a := by rw [lt_def]; omega

theorem ne_of_lt {a b : Cell} (h : a < b) : a ≠ b := fun hab => not_lt_self b (hab ▸ h)

end Cell

/-- The four facings. -/
inductive Direction where
  | north
  | east
  | south
  | west
  deriving DecidableEq, Repr

namespace Direction

/-- The facing after a quarter turn to the left. -/
def left : Direction → Direction
  | north => west
  | west => south
  | south => east
  | east => north

/-- The facing after a quarter turn to the right. -/
def right : Direction → Direction
  | north => east
  | east => south
  | south => west
  | west => north

/-- The opposite facing. -/
def reverse (dir : Direction) : Direction := dir.left.left

/-- The facing after a turn. -/
def turned (dir : Direction) : Turn → Direction
  | .left => dir.left
  | .right => dir.right
  | .around => dir.reverse

/-- The unit step along a facing. -/
def delta : Direction → Shift
  | north => ⟨0, -1⟩
  | east => ⟨1, 0⟩
  | south => ⟨0, 1⟩
  | west => ⟨-1, 0⟩

/-- A displacement as it is seen from a facing. -/
def relative : Direction → Shift → Offset Int
  | north, shift => ⟨shift.dx, -shift.dy⟩
  | south, shift => ⟨-shift.dx, shift.dy⟩
  | west, shift => ⟨-shift.dy, -shift.dx⟩
  | east, shift => ⟨shift.dy, shift.dx⟩

/-- The letter for a facing in reports. -/
def letter : Direction → String
  | north => "N"
  | east => "E"
  | south => "S"
  | west => "W"

/-- The name of a facing. -/
def name : Direction → String
  | north => "North"
  | east => "East"
  | south => "South"
  | west => "West"

/-- All facings. -/
def all : List Direction := [north, east, south, west]

end Direction

/-- A square grid with `size` cells along each side. -/
structure Grid where
  size : Int
  deriving DecidableEq, Repr

namespace Grid

/-- The last row and column. -/
def far (grid : Grid) : Int := grid.size - 1

/-- Whether a cell lies in the grid. -/
def contains (grid : Grid) (cell : Cell) : Bool :=
  0 ≤ cell.x && 0 ≤ cell.y && cell.x < grid.size && cell.y < grid.size

/-- Moves a coordinate that lies outside to the nearest wall. -/
def clamp (grid : Grid) (coordinate : Int) : Int := min (max coordinate 0) grid.far

/-- The neighbouring cell along a facing, or the cell itself if a wall is there. -/
def step (grid : Grid) (cell : Cell) (dir : Direction) : Cell :=
  let next := cell.moved dir.delta
  ⟨grid.clamp next.x, grid.clamp next.y⟩

/-- The number of cells between a cell and the wall along a facing. -/
def wallDistance (grid : Grid) (cell : Cell) : Direction → Int
  | .north => cell.y
  | .south => grid.far - cell.y
  | .west => cell.x
  | .east => grid.far - cell.x

/-- The coordinates of the grid in ascending order. -/
def coordinates (grid : Grid) : List Int := (List.range grid.size.toNat).map Int.ofNat

/-- All cells, row by row. -/
def cells (grid : Grid) : List Cell :=
  grid.coordinates.flatMap fun y => grid.coordinates.map fun x => ⟨x, y⟩

end Grid

end FuelDuel.Arena
