import FuelDuel.Proofs.Recording

/-!
The action slot. On a free slot a tick performs at most one action, and nothing after it; a tick
that performs none has run the program to its end, or has failed. On a used slot a tick does
nothing. The steps of a tick are the loop behind this: each of them has at most one effect
(`stepStmt_outcome`), and an action ends the tick (`runSteps_outcome`).
-/

namespace FuelDuel.Execution

open FuelDuel.Language
open FuelDuel.World

/-- No effect in the list is an action. -/
def Quiet (effects : List Effect) : Prop := ∀ effect ∈ effects, effect.isAction = false

theorem Quiet.nil : Quiet [] := by simp [Quiet]

theorem Quiet.append {first second : List Effect} (quietFirst : Quiet first)
    (quietSecond : Quiet second) : Quiet (first ++ second) := by
  intro effect member
  rcases List.mem_append.mp member with early | late
  · exact quietFirst effect early
  · exact quietSecond effect late

theorem Quiet.countP_eq_zero {effects : List Effect} (quiet : Quiet effects) :
    effects.countP Effect.isAction = 0 := by
  rw [List.countP_eq_zero]
  intro effect member
  simp [quiet effect member]

section Ticks

variable {W : Type} [SteadyWorld W]

/-- Only an action uses the slot. -/
theorem performed_apply {effect : Effect} (silent : effect.isAction = false) (world : W) :
    World.performed (effect.apply world) = World.performed world := by
  cases effect with
  | wrote name value => exact SteadyWorld.performed_store name value world
  | shielded on => exact SteadyWorld.performed_setShield on world
  | acted action => simp [Effect.isAction] at silent

theorem performed_replay {effects : List Effect} (quiet : Quiet effects) (world : W) :
    World.performed (replay effects world) = World.performed world := by
  induction effects generalizing world with
  | nil => rfl
  | cons effect later ih =>
      have silent := quiet effect List.mem_cons_self
      have quietLater : Quiet later := fun other member =>
        quiet other (List.mem_cons_of_mem effect member)
      exact (ih quietLater (effect.apply world)).trans (performed_apply silent world)

theorem performed_replay_acted (quiet : List Effect) (action : Action) (world : W) :
    World.performed (replay (quiet ++ [.acted action]) world) = some action := by
  simp [replay, Effect.apply]

/-- The ways in which a tick on a free slot can end. -/
inductive TickOutcome (before : Recorded W) :
    EStateM.Result Fault (Recorded W) (List Stmt) → Prop where
  /-- An action was performed, as the last effect. -/
  | acted {quiet : List Effect} (isQuiet : Quiet quiet) (action : Action) (rest : List Stmt) :
      TickOutcome before (.ok rest (before.extend (quiet ++ [.acted action])))
  /-- The program has come to its end without an action. -/
  | finished {quiet : List Effect} (isQuiet : Quiet quiet) :
      TickOutcome before (.ok [] (before.extend quiet))
  /-- The program cannot go on, and no action was performed. -/
  | failed {quiet : List Effect} (isQuiet : Quiet quiet) {fault : Fault}
      (cause : fault = .divisionByZero ∨ fault = .stepLimit maxSteps) :
      TickOutcome before (.error fault (before.extend quiet))

theorem TickOutcome.finished_now {before : Recorded W} :
    TickOutcome before (.ok [] before) := by
  have outcome : TickOutcome before (.ok [] (before.extend [])) := .finished Quiet.nil
  rwa [Recorded.extend_nil] at outcome

theorem TickOutcome.failed_now {before : Recorded W} {fault : Fault}
    (cause : fault = .divisionByZero ∨ fault = .stepLimit maxSteps) :
    TickOutcome before (.error fault before) := by
  have outcome : TickOutcome before (.error fault (before.extend [])) := .failed Quiet.nil cause
  rwa [Recorded.extend_nil] at outcome

theorem TickOutcome.after_effect {before : Recorded W} {effect : Effect}
    {result : EStateM.Result Fault (Recorded W) (List Stmt)} (silent : effect.isAction = false)
    (outcome : TickOutcome (before.extend [effect]) result) : TickOutcome before result := by
  have single : Quiet [effect] := by simpa [Quiet] using silent
  cases outcome with
  | acted isQuiet action rest =>
      rw [Recorded.extend_extend, ← List.append_assoc]
      exact .acted (single.append isQuiet) action rest
  | finished isQuiet =>
      rw [Recorded.extend_extend]
      exact .finished (single.append isQuiet)
  | failed isQuiet cause =>
      rw [Recorded.extend_extend]
      exact .failed (single.append isQuiet) cause

/-- The steps of a tick: quiet steps go on, and the first action ends them. -/
theorem runSteps_outcome (steps : Nat) (stmts : List Stmt) {before : Recorded W}
    (free : World.performed before = none) :
    TickOutcome before (runSteps steps stmts before) := by
  induction steps generalizing stmts before with
  | zero =>
      cases stmts with
      | nil =>
          rw [runSteps_nil]
          exact .finished_now
      | cons stmt rest =>
          rw [runSteps_zero stmt rest free]
          exact .failed_now (.inr rfl)
  | succ steps ih =>
      cases stmts with
      | nil =>
          rw [runSteps_nil]
          exact .finished_now
      | cons stmt rest =>
          rw [runSteps_succ steps stmt rest free, bind_apply]
          have outcome := stepStmt_outcome stmt free
          generalize stepStmt stmt before = result at outcome
          cases outcome with
          | failed => exact .failed_now (.inl rfl)
          | silent residual => exact ih (splice residual rest) free
          | effective residual effect =>
              rw [Recorded.apply_eq_extend]
              cases kind : effect.isAction with
              | false =>
                  have stillFree : World.performed (before.extend [effect]) = none :=
                    (performed_apply kind before.world).trans free
                  exact (ih (splice residual rest) stillFree).after_effect kind
              | true =>
                  cases effect with
                  | acted action =>
                      have performed : World.performed (before.extend [.acted action]) =
                          some action := SteadyWorld.performed_act action before.world
                      have taken : World.performed (before.extend [.acted action]) ≠ none := by
                        simp [performed]
                      show TickOutcome before
                        (runSteps steps (splice residual rest) (before.extend [.acted action]))
                      rw [runSteps_used steps _ taken]
                      exact .acted Quiet.nil action _
                  | wrote name value => simp [Effect.isAction] at kind
                  | shielded on => simp [Effect.isAction] at kind

/-- A tick on a free slot ends with an action as its last effect, or without an action at the end
of the program, or without an action in a fault that is not about the slot. -/
theorem execute_outcome (program : Program) {world : W} (free : World.performed world = none) :
    (∃ quiet action rest, Quiet quiet ∧ effects program world = quiet ++ [.acted action] ∧
      execute program world = .ok rest (replay (effects program world) world)) ∨
    (Quiet (effects program world) ∧
      execute program world = .ok .empty (replay (effects program world) world)) ∨
    (Quiet (effects program world) ∧ ∃ fault,
      (fault = .divisionByZero ∨ fault = .stepLimit maxSteps) ∧
        execute program world = .error fault (replay (effects program world) world)) := by
  have freeStart : World.performed (Recorded.start world) = none := free
  have outcome := runSteps_outcome maxSteps program.stmts freeStart
  generalize computed : runSteps maxSteps program.stmts (Recorded.start world) = result at outcome
  cases outcome with
  | @acted quiet isQuiet action rest =>
      obtain ⟨ran, seen⟩ := of_recorded_ok (bind_of_ok computed)
      have same : effects program world = quiet ++ [.acted action] := seen
      refine .inl ⟨quiet, action, ⟨rest⟩, isQuiet, same, ?_⟩
      rw [ran, same]
      rfl
  | @finished quiet isQuiet =>
      obtain ⟨ran, seen⟩ := of_recorded_ok (bind_of_ok computed)
      have same : effects program world = quiet := seen
      refine .inr (.inl ⟨same ▸ isQuiet, ?_⟩)
      rw [ran, same]
      rfl
  | @failed quiet isQuiet fault cause =>
      obtain ⟨ran, seen⟩ := of_recorded_error (bind_of_error computed)
      have same : effects program world = quiet := seen
      refine .inr (.inr ⟨same ▸ isQuiet, fault, cause, ?_⟩)
      rw [ran, same]
      rfl

end Ticks

/-- The rules of the action slot, for one tick of a program on a world. -/
structure SlotRules {W : Type} [World W] (program : Program) (world : W) : Prop where
  /-- A tick on a free slot that gives a result has performed one action, as its last effect, or
  none, and then the program has come to its end. -/
  result : World.performed world = none → ∀ rest after,
    execute program world = .ok rest after →
      after = replay (effects program world) world ∧
        ((∃ quiet action, Quiet quiet ∧ effects program world = quiet ++ [.acted action] ∧
            World.performed after = some action) ∨
          (Quiet (effects program world) ∧ World.performed after = none ∧ rest = .empty))
  /-- A tick on a free slot that fails has performed no action, and a second action is never the
  reason. -/
  fault : World.performed world = none → ∀ fault after,
    execute program world = .error fault after →
      after = replay (effects program world) world ∧
        Quiet (effects program world) ∧ World.performed after = none ∧
          ∀ attempted performed, fault ≠ .slotUsed attempted performed
  /-- A tick on a used slot does nothing. -/
  used : World.performed world ≠ none → execute program world = .ok program world

/-- Every steady world keeps the rules of the action slot. -/
theorem slotRules_of_steady {W : Type} [SteadyWorld W] (program : Program) (world : W) :
    SlotRules program world where
  result free rest after ran := by
    rcases execute_outcome program free with
      ⟨quiet, action, left, isQuiet, same, outcome⟩ | ⟨isQuiet, outcome⟩ |
      ⟨isQuiet, fault, cause, outcome⟩
    · rw [outcome] at ran
      cases ran
      refine ⟨rfl, .inl ⟨quiet, action, isQuiet, same, ?_⟩⟩
      rw [same]
      exact performed_replay_acted quiet action world
    · rw [outcome] at ran
      cases ran
      exact ⟨rfl, .inr ⟨isQuiet, (performed_replay isQuiet world).trans free, rfl⟩⟩
    · rw [outcome] at ran
      cases ran
  fault free reason after ran := by
    rcases execute_outcome program free with
      ⟨quiet, action, left, isQuiet, same, outcome⟩ | ⟨isQuiet, outcome⟩ |
      ⟨isQuiet, fault, cause, outcome⟩
    · rw [outcome] at ran
      cases ran
    · rw [outcome] at ran
      cases ran
    · rw [outcome] at ran
      cases ran
      refine ⟨rfl, isQuiet, (performed_replay isQuiet world).trans free, ?_⟩
      rintro attempted performed rfl
      rcases cause with same | same
      · cases same
      · cases same
  used taken := bind_of_ok (runSteps_used maxSteps program.stmts taken)

/-- One action per tick, in the arena and in rehearsals: whatever the program, its steps and its
faults, a tick performs at most one action and nothing after it. -/
theorem one_action_per_tick (program : Program) :
    (∀ view : View, SlotRules program view) ∧ ∀ world : Rehearsal, SlotRules program world :=
  ⟨slotRules_of_steady program, slotRules_of_steady program⟩

end FuelDuel.Execution
