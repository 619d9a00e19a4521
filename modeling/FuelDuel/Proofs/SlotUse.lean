import FuelDuel.Proofs.Watching
import FuelDuel.World.Scripted

/-!
What a step does to the action slot. In a lawful world an action uses the slot and nothing else
touches it, whatever the sensors show and whether or not they use up answers: views, rehearsals and
scripted worlds are lawful, and so is a lawful world that is watched. Inside nested blocks one
statement is stepped, the leading one, and the slot is used if and only if that one is an action
(`stepStmt_performed`).
-/

namespace FuelDuel.Language

open FuelDuel.Execution

/-- The action of an action statement; other statements do not act themselves. -/
def Stmt.action? : Stmt → Option Action
  | .turn way => some (.turn way)
  | .takeFuel => some .takeFuel
  | .move _ => some .move
  | .wait _ => some .wait
  | _ => none

mutual

/-- The statement that is stepped when a statement is: the first one inside nested blocks. -/
def Stmt.lead : Stmt → Stmt
  | .block body => body.lead
  | stmt => stmt

/-- The statement that is stepped when a block is. -/
def Block.lead : Block → Stmt
  | .single stmt => stmt.lead
  | .cons stmt _ => stmt.lead

end

end FuelDuel.Language

namespace FuelDuel.Execution

open FuelDuel.Language
open FuelDuel.World

/-! ### Lawful worlds -/

/-- A world in which an action uses the slot and nothing else touches it, and whose sensors know
nothing of steps. -/
class LawfulWorld (W : Type) [World W] : Prop where
  performed_act : ∀ action (world : W), World.performed (World.act action world) = some action
  performed_store : ∀ name value (world : W),
    World.performed (World.store name value world) = World.performed world
  performed_setShield : ∀ on (world : W),
    World.performed (World.setShield on world) = World.performed world
  performed_sense : ∀ {gauge index value} {world after : W},
    World.sense gauge index world = .ok value after →
      World.performed after = World.performed world
  sense_ne_stepLimit : ∀ {gauge index limit} {world after : W},
    World.sense gauge index world ≠ .error (.stepLimit limit) after

instance {W : Type} [SteadyWorld W] : LawfulWorld W where
  performed_act := SteadyWorld.performed_act
  performed_store := SteadyWorld.performed_store
  performed_setShield := SteadyWorld.performed_setShield
  performed_sense := by
    intro gauge index value world after shown
    rw [SteadyWorld.sense_eq] at shown
    cases shown
    rfl
  sense_ne_stepLimit := by
    intro gauge index limit world after failed
    rw [SteadyWorld.sense_eq] at failed
    cases failed

instance : LawfulWorld Scripted where
  performed_act _ _ := rfl
  performed_store _ _ _ := rfl
  performed_setShield _ _ := rfl
  performed_sense := by
    intro gauge index value world after shown
    obtain ⟨outputs, log, vars, performed⟩ := world
    cases outputs with
    | nil => cases shown
    | cons output later =>
        cases shown
        rfl
  sense_ne_stepLimit := by
    intro gauge index limit world after failed
    obtain ⟨outputs, log, vars, performed⟩ := world
    cases outputs with
    | nil => cases failed
    | cons output later => cases failed

instance {W : Type} [World W] [LawfulWorld W] : LawfulWorld (Watched W) where
  performed_act action watched := LawfulWorld.performed_act action watched.world
  performed_store name value watched := LawfulWorld.performed_store name value watched.world
  performed_setShield on watched := LawfulWorld.performed_setShield on watched.world
  performed_sense := by
    intro gauge index value watched after shown
    simp only [World.sense] at shown
    cases answered : World.sense gauge index watched.world with
    | ok answer reached =>
        rw [answered] at shown
        cases shown
        exact LawfulWorld.performed_sense (W := W) answered
    | error fault reached =>
        rw [answered] at shown
        cases shown
  sense_ne_stepLimit := by
    intro gauge index limit watched after failed
    simp only [World.sense] at failed
    cases answered : World.sense gauge index watched.world with
    | ok answer reached =>
        rw [answered] at failed
        cases failed
    | error fault reached =>
        rw [answered] at failed
        cases failed
        exact LawfulWorld.sense_ne_stepLimit (W := W) answered

/-! ### Evaluation -/

section Evaluation

variable {W : Type} [World W] {world after : W} (holds : W → Prop)
  (kept : ∀ {gauge index value} {world after : W},
    World.sense gauge index world = .ok value after → holds world → holds after)

include kept

/-- What every reading keeps, the evaluation of an expression keeps. -/
theorem evalExpr_keeps {expr : Expr} {value : Int32} (ran : evalExpr expr world = .ok value after)
    (before : holds world) : holds after := by
  induction expr generalizing world after value with
  | num literal =>
      cases ran
      exact before
  | var name =>
      cases ran
      exact before
  | binary op left right ihLeft ihRight =>
      obtain ⟨leftValue, middle, first, ran⟩ := bind_eq_ok_iff.mp ran
      obtain ⟨rightValue, reached, second, ran⟩ := bind_eq_ok_iff.mp ran
      have later := ihRight second (ihLeft first before)
      rw [evalBinary_settle] at ran
      cases computed : binaryValue? op leftValue rightValue with
      | none =>
          rw [computed] at ran
          cases ran
      | some result =>
          rw [computed] at ran
          cases ran
          exact later
  | sensor gauge => exact kept ran before
  | barrelAt axis index ih =>
      obtain ⟨position, middle, first, shown⟩ := bind_eq_ok_iff.mp ran
      exact kept shown (ih first before)

/-- What every reading keeps, the evaluation of a condition keeps. -/
theorem evalCond_keeps {cond : Cond} {value : Bool} (ran : evalCond cond world = .ok value after)
    (before : holds world) : holds after := by
  induction cond generalizing world after value with
  | compare op left right =>
      obtain ⟨leftValue, middle, first, ran⟩ := bind_eq_ok_iff.mp ran
      obtain ⟨rightValue, second, -⟩ := map_eq_ok_iff.mp ran
      exact evalExpr_keeps holds kept second (evalExpr_keeps holds kept first before)
  | connect op left right ihLeft ihRight =>
      obtain ⟨leftValue, middle, first, ran⟩ := bind_eq_ok_iff.mp ran
      obtain ⟨rightValue, second, -⟩ := map_eq_ok_iff.mp ran
      exact ihRight second (ihLeft first before)
  | not inner ih =>
      obtain ⟨innerValue, first, -⟩ := map_eq_ok_iff.mp ran
      exact ih first before

end Evaluation

section Slot

variable {W : Type} [World W] [LawfulWorld W] {world after : W}

/-- Evaluation leaves the slot alone. -/
theorem evalExpr_performed {expr : Expr} {value : Int32}
    (ran : evalExpr expr world = .ok value after) :
    World.performed after = World.performed world :=
  evalExpr_keeps (fun reached => World.performed reached = World.performed world)
    (fun shown same => (LawfulWorld.performed_sense shown).trans same) ran rfl

theorem evalCond_performed {cond : Cond} {value : Bool}
    (ran : evalCond cond world = .ok value after) :
    World.performed after = World.performed world :=
  evalCond_keeps (fun reached => World.performed reached = World.performed world)
    (fun shown same => (LawfulWorld.performed_sense shown).trans same) ran rfl

/-! ### Steps -/

theorem perform_performed {action : Action} (ran : perform action world = .ok () after) :
    World.performed after = some action := by
  cases slot : World.performed world with
  | none =>
      rw [perform_free slot] at ran
      cases ran
      exact LawfulWorld.performed_act action world
  | some earlier =>
      simp only [perform, slot] at ran
      cases ran

theorem performCounted_performed {action : Action} {count left : Option Expr}
    (ran : performCounted action count world = .ok left after) :
    World.performed after = some action := by
  cases count with
  | none =>
      obtain ⟨⟨⟩, performed, -⟩ := map_eq_ok_iff.mp ran
      exact perform_performed performed
  | some expr =>
      obtain ⟨remaining, middle, -, acted⟩ := bind_eq_ok_iff.mp ran
      obtain ⟨⟨⟩, performed, -⟩ := map_eq_ok_iff.mp acted
      exact perform_performed performed

end Slot

mutual

/-- After a step the slot holds the action of the leading statement, if it is one, and otherwise
what it held before. -/
theorem stepStmt_performed {W : Type} [World W] [LawfulWorld W] {world after : W} (stmt : Stmt)
    {residual : Option Stmt} (ran : stepStmt stmt world = .ok residual after) :
    World.performed after = stmt.lead.action?.or (World.performed world) := by
  match stmt with
  | .turn way =>
      obtain ⟨⟨⟩, performed, -⟩ := map_eq_ok_iff.mp ran
      exact perform_performed performed
  | .takeFuel =>
      obtain ⟨⟨⟩, performed, -⟩ := map_eq_ok_iff.mp ran
      exact perform_performed performed
  | .shield on =>
      cases ran
      exact LawfulWorld.performed_setShield on world
  | .move count =>
      obtain ⟨left, performed, -⟩ := map_eq_ok_iff.mp ran
      exact performCounted_performed performed
  | .wait count =>
      obtain ⟨left, performed, -⟩ := map_eq_ok_iff.mp ran
      exact performCounted_performed performed
  | .assign name value =>
      obtain ⟨result, middle, computed, stored⟩ := bind_eq_ok_iff.mp ran
      cases stored
      exact (LawfulWorld.performed_store name result middle).trans (evalExpr_performed computed)
  | .loop body =>
      cases ran
      rfl
  | .ifThen cond body =>
      obtain ⟨holds, tested, -⟩ := map_eq_ok_iff.mp ran
      exact evalCond_performed tested
  | .ifElse cond body otherwise =>
      obtain ⟨holds, tested, -⟩ := map_eq_ok_iff.mp ran
      exact evalCond_performed tested
  | .while cond body =>
      obtain ⟨holds, tested, -⟩ := map_eq_ok_iff.mp ran
      exact evalCond_performed tested
  | .block body =>
      obtain ⟨left, stepped, -⟩ := map_eq_ok_iff.mp ran
      exact stepBlock_performed body stepped

theorem stepBlock_performed {W : Type} [World W] [LawfulWorld W] {world after : W} (block : Block)
    {residual : Option Block} (ran : stepBlock block world = .ok residual after) :
    World.performed after = block.lead.action?.or (World.performed world) := by
  match block with
  | .single stmt =>
      obtain ⟨left, stepped, -⟩ := map_eq_ok_iff.mp ran
      exact stepStmt_performed stmt stepped
  | .cons stmt rest =>
      obtain ⟨left, stepped, -⟩ := map_eq_ok_iff.mp ran
      exact stepStmt_performed stmt stepped

end

end FuelDuel.Execution
