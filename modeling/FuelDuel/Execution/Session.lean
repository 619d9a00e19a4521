import FuelDuel.Execution.Step

/-!
Sessions: a program beside the world it runs on, advanced by hand. A statement, the whole program as
one block, or a tick can be run at a time; after a fault the program stays as it was and the world
is the one that was reached.
-/

namespace FuelDuel.Execution

open FuelDuel.Language

/-- A world and what is left of a program to run on it. -/
structure Session (W : Type) where
  world : W
  program : Program

namespace Session

variable {W : Type} {α : Type}

/-- Runs a computation on the world; a result replaces the program as `update` says. -/
def apply (session : Session W) (run : Run W α) (update : α → Program) :
    Except Fault α × Session W :=
  match run session.world with
  | .ok value world => (.ok value, ⟨world, update value⟩)
  | .error fault world => (.error fault, { session with world })

/-- Runs a computation on the world that leaves the program alone. -/
def query (session : Session W) (run : Run W α) : Except Fault α × Session W :=
  session.apply run fun _ => session.program

variable [World W]

/-- Whether the action of this tick has been performed. -/
def used (session : Session W) : Bool := World.used session.world

/-- Runs the program for one tick; the slot stays as it is afterwards. -/
def execute (session : Session W) : Except Fault Program × Session W :=
  session.apply (Execution.execute session.program) id

/-- Steps the first statement; what is left of it takes its place. `none` without a statement. -/
def stepFirst? (session : Session W) : Option (Except Fault (Option Stmt) × Session W) :=
  match session.program.stmts with
  | [] => none
  | first :: others =>
      some (session.apply (stepStmt first) fun residual => ⟨residual.toList ++ others⟩)

/-- Steps all statements as one block; what is left of it becomes the program. `none` without a
statement. -/
def stepAll? (session : Session W) : Option (Except Fault (Option Block) × Session W) :=
  (Block.ofList? session.program.stmts).map fun block =>
    session.apply (stepBlock block) fun residual => ⟨(residual.map Block.toList).getD []⟩

end Session

end FuelDuel.Execution
