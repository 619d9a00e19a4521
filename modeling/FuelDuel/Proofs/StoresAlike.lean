import FuelDuel.Proofs.WrittenVars

/-!
Stores that programs cannot tell apart. A variable that was never written is read as zero, so two
stores are alike if all variables read alike in them. Worlds that are the same but for such stores
answer every question of a program alike (`storesAlike_simulation`), and then the program reads and
does the same in both, tick after tick, ends in the same faults and has the same left
(`SessionsRelated.afterTicks`).
-/

namespace FuelDuel.Execution

open FuelDuel.Language
open FuelDuel.World

/-! ### Sessions on related worlds -/

section Related

variable {W : Type} [World W] {related : W → W → Prop}

/-- Watched worlds with the same deeds are related as the worlds in them are. -/
theorem Simulation.watched (simulation : Simulation related) :
    Simulation fun left right : Watched W =>
      related left.world right.world ∧ left.deeds = right.deeds where
  performed same := simulation.performed same.1
  stored same := simulation.stored same.1
  store := by
    rintro left right ⟨same, deeds⟩ name value
    exact ⟨simulation.store same name value, congrArg (· ++ [_]) deeds⟩
  setShield := by
    rintro left right ⟨same, deeds⟩ on
    exact ⟨simulation.setShield same on, congrArg (· ++ [_]) deeds⟩
  act := by
    rintro left right ⟨same, deeds⟩ action
    exact ⟨simulation.act same action, congrArg (· ++ [_]) deeds⟩
  sense := by
    rintro ⟨left, leftDeeds⟩ ⟨right, rightDeeds⟩ ⟨same, rfl⟩ gauge index
    have shown := simulation.sense same gauge index
    simp only [World.sense]
    generalize World.sense gauge index left = leftResult at shown
    generalize World.sense gauge index right = rightResult at shown
    cases shown with
    | ok value after => exact .ok value ⟨after, rfl⟩
    | error fault after => exact .error fault ⟨after, rfl⟩

/-- A program reads and does the same on related worlds. -/
theorem Simulation.deeds (simulation : Simulation related) (program : Program) {left right : W}
    (same : related left right) : deeds program left = deeds program right := by
  have started : related (Watched.start left).world (Watched.start right).world ∧
      (Watched.start left).deeds = (Watched.start right).deeds := ⟨same, rfl⟩
  have watched := simulation.watched.execute program started
  unfold Execution.deeds
  generalize Execution.execute program (Watched.start left) = leftResult at watched
  generalize Execution.execute program (Watched.start right) = rightResult at watched
  cases watched with
  | ok rest after => exact after.2
  | error fault after => exact after.2

/-- Two sessions with the same program on related worlds. -/
structure SessionsRelated (related : W → W → Prop) (left right : Session W) : Prop where
  program : left.program = right.program
  world : related left.world right.world

/-- What two sessions come to in a tick is the same: what is read and done, and the fault or the
program that is left. -/
structure SameTick (left right : Session W) : Prop where
  deeds : deeds left.program left.world = deeds right.program right.world
  result : left.execute.1 = right.execute.1

theorem SessionsRelated.execute (simulation : Simulation related) {left right : Session W}
    (sessions : SessionsRelated related left right) :
    left.execute.1 = right.execute.1 ∧
      SessionsRelated related left.execute.2 right.execute.2 := by
  obtain ⟨leftWorld, program⟩ := left
  obtain ⟨rightWorld, _⟩ := right
  obtain ⟨rfl, same⟩ := sessions
  have ran := simulation.execute program same
  unfold Session.execute Session.apply
  dsimp only
  generalize Execution.execute program leftWorld = leftResult at ran
  generalize Execution.execute program rightWorld = rightResult at ran
  cases ran with
  | ok rest after => exact ⟨rfl, rfl, after⟩
  | error fault after => exact ⟨rfl, rfl, after⟩

theorem SessionsRelated.sameTick (simulation : Simulation related) {left right : Session W}
    (sessions : SessionsRelated related left right) : SameTick left right where
  deeds := by
    rw [sessions.program]
    exact simulation.deeds right.program sessions.world
  result := (sessions.execute simulation).1

theorem SessionsRelated.afterTicks (simulation : Simulation related) {renew : Nat → W → W}
    (renews : ∀ tick {left right}, related left right →
      related (renew tick left) (renew tick right))
    {left right : Session W} (sessions : SessionsRelated related left right) (ticks : Nat) :
    SessionsRelated related (left.afterTicks renew ticks) (right.afterTicks renew ticks) := by
  induction ticks with
  | zero => exact sessions
  | succ ticks ih =>
      obtain ⟨program, world⟩ := (ih.execute simulation).2
      exact ⟨program, renews ticks world⟩

end Related

/-! ### Stores that read alike -/

/-- All variables read the same: one that was never written reads as zero. -/
def SameReads (left right : Vars) : Prop :=
  ∀ name, (left.get? name).getD 0 = (right.get? name).getD 0

theorem SameReads.set {left right : Vars} (same : SameReads left right) (name : String)
    (value : Int32) : SameReads (left.set name value) (right.set name value) := by
  intro other
  by_cases written : other = name
  · simp [written]
  · simpa [written] using same other

section Stores

variable {W : Type} [World W] [StoreWorld W]

/-- Two worlds that are the same but for their stores, and in these all variables read the same. -/
structure StoresAlike (left right : W) : Prop where
  elsewhere : withVars .empty left = withVars .empty right
  reads : SameReads (vars left) (vars right)

theorem SameReads.storesAlike {store : Vars} {world : W} (same : SameReads (vars world) store) :
    StoresAlike world (withVars store world) where
  elsewhere := by rw [StoreWorld.withVars_withVars]
  reads := by rwa [StoreWorld.vars_withVars]

/-- What depends on nothing in the store does the same to worlds with stores that read alike. -/
theorem StoresAlike.change {left right : W} (alike : StoresAlike left right) {change : W → W}
    (blind : ∀ store world, change (withVars store world) = withVars store (change world)) :
    StoresAlike (change left) (change right) where
  elsewhere := by rw [← blind, ← blind, alike.elsewhere]
  reads := by
    rw [vars_of_blind (blind · left), vars_of_blind (blind · right)]
    exact alike.reads

/-- Outcomes that are the same but for the stores, and in these all variables read the same. -/
theorem agree_of_moveTo {α : Type} {first second : EStateM.Result Fault W α}
    (same : moveTo (withVars .empty) first = moveTo (withVars .empty) second)
    (reads : SameReads (vars (reached first)) (vars (reached second))) :
    Agree StoresAlike first second := by
  cases first with
  | ok value after =>
      cases second with
      | ok other later =>
          obtain ⟨rfl, elsewhere⟩ := EStateM.Result.ok.inj same
          exact .ok value ⟨elsewhere, reads⟩
      | error fault later => cases same
  | error fault after =>
      cases second with
      | ok other later => cases same
      | error otherFault later =>
          obtain ⟨rfl, elsewhere⟩ := EStateM.Result.error.inj same
          exact .error fault ⟨elsewhere, reads⟩

/-- A program cannot tell apart worlds whose stores read alike. -/
theorem storesAlike_simulation : Simulation (StoresAlike (W := W)) where
  performed := by
    intro left right alike
    rw [← StoreWorld.performed_withVars .empty left, alike.elsewhere,
      StoreWorld.performed_withVars]
  stored := by
    intro left right alike name
    rw [StoreWorld.stored_eq, StoreWorld.stored_eq]
    exact alike.reads name
  store := by
    intro left right alike name value
    constructor
    · rw [StoreWorld.store_eq, StoreWorld.store_eq, StoreWorld.withVars_withVars,
        StoreWorld.withVars_withVars, alike.elsewhere]
    · rw [vars_store, vars_store]
      exact alike.reads.set name value
  setShield alike on := alike.change (StoreWorld.setShield_withVars on)
  act alike action := alike.change (StoreWorld.act_withVars action)
  sense := by
    intro left right alike gauge index
    apply agree_of_moveTo
    · rw [← StoreWorld.sense_withVars, ← StoreWorld.sense_withVars, alike.elsewhere]
    · rw [vars_sense, vars_sense]
      exact alike.reads

end Stores

end FuelDuel.Execution
