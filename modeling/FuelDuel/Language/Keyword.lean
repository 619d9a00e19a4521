import FuelDuel.Language.Tree

/-!
The words of the language: how each operator and sensor is spelled in program text, how a word is
recognised, and what may stand at the start of each construct. Spelling and recognising are inverse
to each other (`ofKeyword?_keyword`).
-/

namespace FuelDuel.Language

namespace BinaryOp

/-- All binary operators. -/
def all : List BinaryOp := [add, sub, mul, div]

/-- The word for an operator in program text. -/
def keyword : BinaryOp → String
  | add => "add"
  | sub => "sub"
  | mul => "mul"
  | div => "div"

/-- The operator that a word stands for. -/
def ofKeyword? (word : String) : Option BinaryOp := all.find? (·.keyword == word)

@[simp] theorem ofKeyword?_keyword (op : BinaryOp) : ofKeyword? op.keyword = some op := by
  cases op <;> decide

end BinaryOp

namespace CompareOp

/-- All relational operators. -/
def all : List CompareOp := [lt, gt, eq]

/-- The word for an operator in program text. -/
def keyword : CompareOp → String
  | lt => "lt"
  | gt => "gt"
  | eq => "eq"

/-- The operator that a word stands for. -/
def ofKeyword? (word : String) : Option CompareOp := all.find? (·.keyword == word)

@[simp] theorem ofKeyword?_keyword (op : CompareOp) : ofKeyword? op.keyword = some op := by
  cases op <;> decide

end CompareOp

namespace Connective

/-- Both connectives. -/
def all : List Connective := [and, or]

/-- The word for a connective in program text. -/
def keyword : Connective → String
  | and => "and"
  | or => "or"

/-- The connective that a word stands for. -/
def ofKeyword? (word : String) : Option Connective := all.find? (·.keyword == word)

@[simp] theorem ofKeyword?_keyword (op : Connective) : ofKeyword? op.keyword = some op := by
  cases op <;> decide

end Connective

/-- The suffix that tells the two axes apart in the names of sensors. -/
def Axis.suffix : Axis → String
  | .leftRight => "LR"
  | .frontBack => "FB"

namespace Sensor

/-- All sensors. -/
def all : List Sensor :=
  [fuelLeft, opponent .leftRight, opponent .frontBack, numBarrels, barrel .leftRight,
    barrel .frontBack, wallDist]

/-- The word for a sensor in program text. -/
def keyword : Sensor → String
  | fuelLeft => "fuelLeft"
  | opponent axis => "opp" ++ axis.suffix
  | numBarrels => "numBarrels"
  | barrel axis => "barrel" ++ axis.suffix
  | wallDist => "wallDist"

/-- The sensor that a word stands for. -/
def ofKeyword? (word : String) : Option Sensor := all.find? (·.keyword == word)

@[simp] theorem ofKeyword?_keyword (sensor : Sensor) :
    ofKeyword? sensor.keyword = some sensor := by
  rcases sensor with _ | ⟨_ | _⟩ | _ | ⟨_ | _⟩ | _ <;> decide

end Sensor

namespace Turn

/-- The word for a turn in program text. -/
def keyword : Turn → String
  | left => "turnL"
  | right => "turnR"
  | around => "turnAround"

/-- The name of a turn in trees and logs. -/
def title : Turn → String
  | left => "TurnL"
  | right => "TurnR"
  | around => "TurnAround"

end Turn

/-- The constructs of which a token can be the first one. -/
inductive Construct where
  | statement
  | condition
  | expression
  deriving DecidableEq, Repr

namespace Construct

/-- What a construct is called in messages. -/
def name : Construct → String
  | statement => "statement"
  | condition => "condition"
  | expression => "expression"

/-- What may stand at the start of a construct, as messages list it. -/
def starts : Construct → List String
  | statement =>
      ["variable name", "loop", "if", "while", "move", "turnL", "turnR", "turnAround",
        "shieldOn", "shieldOff", "takeFuel", "wait", "\x7b"]
  | condition => ["lt", "gt", "eq", "and", "or", "not"]
  | expression =>
      ["number", "variable name", "fuelLeft", "oppLR", "oppFB", "numBarrels", "barrelLR",
        "barrelFB", "wallDist", "add", "sub", "mul", "div"]

end Construct

end FuelDuel.Language
