/-!
Syntax trees of robot programs. Blocks are non-empty by construction; a program may be empty, which
means that it has nothing left to run.
-/

namespace FuelDuel.Language

/-- The two directions in which a robot measures offsets, seen from its own facing. -/
inductive Axis where
  /-- Left to right, positive to the right. -/
  | leftRight
  /-- Front to back, positive ahead. -/
  | frontBack
  deriving DecidableEq, Repr

/-- Sensors that are read without an argument. `barrel` reads the closest barrel. -/
inductive Sensor where
  | fuelLeft
  | opponent (axis : Axis)
  | numBarrels
  | barrel (axis : Axis)
  | wallDist
  deriving DecidableEq, Repr

/-- Binary operators. -/
inductive BinaryOp where
  | add
  | sub
  | mul
  | div
  deriving DecidableEq, Repr

/-- Relational operators. -/
inductive CompareOp where
  | lt
  | gt
  | eq
  deriving DecidableEq, Repr

/-- Boolean connectives of two operands. -/
inductive Connective where
  | and
  | or
  deriving DecidableEq, Repr

/-- Integer expressions. Variables are named without their dollar sign. -/
inductive Expr where
  | num (value : Int32)
  | var (name : String)
  | binary (op : BinaryOp) (left right : Expr)
  | sensor (gauge : Sensor)
  /-- An offset of the barrel with the given index in the list of barrels, closest first. -/
  | barrelAt (axis : Axis) (index : Expr)
  deriving DecidableEq, Repr

/-- Conditions. -/
inductive Cond where
  | compare (op : CompareOp) (left right : Expr)
  | connect (op : Connective) (left right : Cond)
  | not (inner : Cond)
  deriving DecidableEq, Repr

/-- The turns that a robot can make on the spot. -/
inductive Turn where
  | left
  | right
  | around
  deriving DecidableEq, Repr

mutual

/-- Statements. A move or a wait may be counted: it is then repeated over as many ticks. -/
inductive Stmt where
  | turn (way : Turn)
  | takeFuel
  | shield (on : Bool)
  | move (count : Option Expr)
  | wait (count : Option Expr)
  | assign (name : String) (value : Expr)
  | loop (body : Block)
  | ifThen (cond : Cond) (body : Block)
  | ifElse (cond : Cond) (body otherwise : Block)
  | while (cond : Cond) (body : Block)
  | block (body : Block)
  deriving DecidableEq, Repr

/-- Non-empty sequences of statements. -/
inductive Block where
  | single (stmt : Stmt)
  | cons (stmt : Stmt) (rest : Block)
  deriving DecidableEq, Repr

end

namespace Block

/-- The statements of a block, in order. -/
def toList : Block → List Stmt
  | single stmt => [stmt]
  | cons stmt rest => stmt :: rest.toList

/-- The block of a first statement and any number of others. -/
def ofCons (first : Stmt) : List Stmt → Block
  | [] => single first
  | second :: others => cons first (ofCons second others)

/-- The block of the given statements, if there are any. -/
def ofList? : List Stmt → Option Block
  | [] => none
  | first :: others => some (ofCons first others)

/-- Why a block cannot be built. -/
def emptyMessage : String := "block needs a non empty list of statements"

/-- The first statement of a block. -/
def first : Block → Stmt
  | single stmt => stmt
  | cons stmt _ => stmt

/-- The number of statements of a block. -/
def length : Block → Nat
  | single _ => 1
  | cons _ rest => rest.length + 1

/-- The statements of `block` and then those of `after`. -/
def append : Block → Block → Block
  | single stmt, after => cons stmt after
  | cons stmt rest, after => cons stmt (rest.append after)

@[simp] theorem toList_ofCons (first : Stmt) (others : List Stmt) :
    (ofCons first others).toList = first :: others := by
  induction others generalizing first with
  | nil => rfl
  | cons second others ih => simp [ofCons, toList, ih]

@[simp] theorem toList_append (block after : Block) :
    (block.append after).toList = block.toList ++ after.toList := by
  match block with
  | single _ => rfl
  | cons _ rest => simp [append, toList, toList_append rest after]

/-- A block holds at least one statement. -/
theorem toList_ne_nil (block : Block) : block.toList ≠ [] := by
  cases block <;> simp [toList]

@[simp] theorem length_toList (block : Block) : block.toList.length = block.length := by
  match block with
  | single _ => rfl
  | cons _ rest => simp [toList, length, length_toList rest]

end Block

/-- A two-way branch, or a one-way branch if there is no second block. -/
def Stmt.branch (cond : Cond) (body : Block) : Option Block → Stmt
  | none => .ifThen cond body
  | some otherwise => .ifElse cond body otherwise

/-- A program: the statements that are still to run. -/
structure Program where
  stmts : List Stmt
  deriving DecidableEq, Repr

namespace Program

/-- The program with nothing to run. -/
def empty : Program := ⟨[]⟩

/-- Whether nothing is left to run. -/
def isFinished (program : Program) : Bool := program.stmts.isEmpty

end Program

end FuelDuel.Language
