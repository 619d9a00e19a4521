import FuelDuel.Proofs.Counting
import Mathlib.Data.Stream.Init

/-!
Rounds of a loop. A maneuver is an action statement whose count, if it has one, is a literal, so
that its actions are known beforehand. A loop over maneuvers performs one round of them after the
other: the body that is unrolled in front of the loop is used up exactly at the end of the round,
and nothing but the loop is left then (`performs_round`). So the loop performs its round forever
(`loops_repeat_their_round`).
-/

namespace FuelDuel.Execution

open FuelDuel.Language
open FuelDuel.World

/-! ### Maneuvers -/

/-- An action statement that knows its count beforehand. -/
inductive Maneuver where
  | turn (way : Turn)
  | takeFuel
  | move (count : Option Int32)
  | wait (count : Option Int32)
  deriving DecidableEq, Repr

namespace Maneuver

/-- The statement of a maneuver. -/
def stmt : Maneuver → Stmt
  | turn way => .turn way
  | takeFuel => .takeFuel
  | move count => .move (count.map .num)
  | wait count => .wait (count.map .num)

/-- The actions of a maneuver, one for each tick. A missing count is one. -/
def actions : Maneuver → List Action
  | turn way => [.turn way]
  | takeFuel => [.takeFuel]
  | move count => .replicate (repetitions (count.getD 1)) .move
  | wait count => .replicate (repetitions (count.getD 1)) .wait

end Maneuver

/-- The actions of maneuvers that follow one another. -/
def actionsOf (maneuvers : List Maneuver) : List Action := maneuvers.flatMap Maneuver.actions

/-- A statement that performs the actions from its first step on. -/
def Starts (actions : List Action) (stmt : Stmt) : Prop :=
  ∃ first later residual, actions = first :: later ∧ StepActs first stmt residual ∧
    ∀ rest, Performs later ⟨splice residual rest⟩ ⟨rest⟩

theorem StepActs.starts {action : Action} {stmt : Stmt} (acts : StepActs action stmt none) :
    Starts [action] stmt :=
  ⟨action, [], none, rfl, acts, fun rest => .nil ⟨rest⟩⟩

theorem Starts.performs {actions : List Action} {stmt : Stmt} (starts : Starts actions stmt)
    (rest : List Stmt) : Performs actions ⟨stmt :: rest⟩ ⟨rest⟩ := by
  obtain ⟨first, later, residual, rfl, acts, performs⟩ := starts
  exact .cons (acts.actsNext rest) (performs rest)

theorem Counted.starts {action : Action} {make : Option Expr → Stmt}
    (counted : Counted action make) (count : Option Int32) :
    Starts (.replicate (repetitions (count.getD 1)) action) (make (count.map .num)) := by
  cases count with
  | none => exact counted.stepActs_single.starts
  | some value =>
      have positive : 1 ≤ repetitions value := Nat.le_max_left _ _
      obtain ⟨later, all⟩ : ∃ later, repetitions value = later + 1 :=
        ⟨repetitions value - 1, by omega⟩
      refine ⟨action, .replicate later action, countedLeft make value, ?_,
        counted.stepActs_literal value, ?_⟩
      · rw [Option.getD_some, all, List.replicate_succ]
      · intro rest
        have within : later < repetitions value := by omega
        obtain ⟨left, performs, -, last⟩ := counted.performs_left rest within
        rwa [last all.symm] at performs

theorem Maneuver.starts (maneuver : Maneuver) : Starts maneuver.actions maneuver.stmt := by
  cases maneuver with
  | turn way => exact StepActs.starts fun _ _ _ _ free => bind_of_ok (perform_free free)
  | takeFuel => exact StepActs.starts fun _ _ _ _ free => bind_of_ok (perform_free free)
  | move count => exact Counted.move.starts count
  | wait count => exact Counted.wait.starts count

theorem performs_maneuvers (maneuvers : List Maneuver) (rest : List Stmt) :
    Performs (actionsOf maneuvers) ⟨maneuvers.map Maneuver.stmt ++ rest⟩ ⟨rest⟩ := by
  induction maneuvers with
  | nil => exact .nil ⟨rest⟩
  | cons maneuver others ih =>
      exact (maneuver.starts.performs (others.map Maneuver.stmt ++ rest)).append ih

/-! ### Rounds -/

section Rounds

variable {body : Block} {round : List Maneuver}

/-- One round of a loop ends with the loop as it was. -/
theorem performs_round (spelled : body.toList = round.map Maneuver.stmt) :
    Performs (actionsOf round) ⟨[.loop body]⟩ ⟨[.loop body]⟩ := by
  cases round with
  | nil => exact absurd spelled body.toList_ne_nil
  | cons maneuver others =>
      -- The first tick unrolls the loop and acts; what is left of the body stands before the loop.
      obtain ⟨first, later, residual, same, acts, performs⟩ := maneuver.starts
      have whole := (performs (others.map Maneuver.stmt ++ [.loop body])).append
        (performs_maneuvers others [.loop body])
      rw [actionsOf, List.flatMap_cons, same]
      exact .cons (acts.actsNext_loop spelled []) whole

theorem performs_rounds (spelled : body.toList = round.map Maneuver.stmt) (rounds : Nat) :
    Performs (List.replicate rounds (actionsOf round)).flatten ⟨[.loop body]⟩ ⟨[.loop body]⟩ := by
  induction rounds with
  | zero => exact .nil _
  | succ rounds ih => exact (performs_round spelled).append ih

theorem actionsOf_ne_nil (spelled : body.toList = round.map Maneuver.stmt) :
    actionsOf round ≠ [] := by
  cases round with
  | nil => exact absurd spelled body.toList_ne_nil
  | cons maneuver others =>
      obtain ⟨first, later, residual, same, -⟩ := maneuver.starts
      simp [actionsOf, same]

end Rounds

/-- Some rounds and then all rounds are all rounds. -/
theorem rounds_append_cycle {α : Type} {round : List α} (nonempty : round ≠ []) (rounds : Nat) :
    (List.replicate rounds round).flatten ++ₛ Stream'.cycle round nonempty =
      Stream'.cycle round nonempty := by
  induction rounds with
  | zero => rfl
  | succ rounds ih =>
      rw [List.replicate_succ, List.flatten_cons, Stream'.append_append_stream, ih,
        ← Stream'.cycle_eq]

/-- As many rounds as there are ticks last for all the ticks. -/
theorem le_length_rounds {α : Type} (lead : List α) {round : List α} (nonempty : round ≠ [])
    (ticks : Nat) : ticks ≤ (lead ++ (List.replicate ticks round).flatten).length := by
  have positive : 1 ≤ round.length := List.length_pos_iff.mpr nonempty
  calc ticks
    _ = ticks * 1 := (Nat.mul_one ticks).symm
    _ ≤ ticks * round.length := Nat.mul_le_mul_left ticks positive
    _ ≤ lead.length + ticks * round.length := Nat.le_add_left _ _
    _ = (lead ++ (List.replicate ticks round).flatten).length := by simp

theorem take_cycle {α : Type} (lead : List α) {round : List α} (nonempty : round ≠ [])
    (ticks : Nat) :
    (lead ++ₛ Stream'.cycle round nonempty).take ticks =
      (lead ++ (List.replicate ticks round).flatten).take ticks := by
  rw [← rounds_append_cycle nonempty ticks, ← Stream'.append_append_stream,
    Stream'.take_append_of_le_length _ _ _ (le_length_rounds lead nonempty ticks)]

/-- Loops are fair to their bodies. A loop over maneuvers, behind other maneuvers, performs their
actions and then those of its body over and over, in order, for as many ticks as it is given. After
any number of whole rounds nothing else has been done, and just the loop is left. -/
theorem loops_repeat_their_round (lead : List Maneuver) {body : Block} {round : List Maneuver}
    (spelled : body.toList = round.map Maneuver.stmt) :
    let program : Program := ⟨lead.map Maneuver.stmt ++ [.loop body]⟩
    ∃ nonempty : actionsOf round ≠ [],
      (∀ readings ticks, Rehearsal.actions program ticks readings =
        .ok ((actionsOf lead ++ₛ Stream'.cycle (actionsOf round) nonempty).take ticks)) ∧
      ∀ {W : Type} [World W] [LawfulWorld W] {renew : Nat → W → W} {world : W} (rounds : Nat),
        (∀ tick reached, World.performed (renew tick reached) = none) →
        World.performed world = none →
        let performed := actionsOf lead ++ (List.replicate rounds (actionsOf round)).flatten
        course renew ((actionsOf lead).length + rounds * (actionsOf round).length) program world =
          ⟨performed.map fun action => [.did (.acted action)],
            .ok ⟨[.loop body]⟩ (actThrough renew performed world)⟩ := by
  intro program
  have performs (rounds : Nat) :
      Performs (actionsOf lead ++ (List.replicate rounds (actionsOf round)).flatten) program
        ⟨[.loop body]⟩ :=
    (performs_maneuvers lead [.loop body]).append (performs_rounds spelled rounds)
  have nonempty := actionsOf_ne_nil spelled
  refine ⟨nonempty, ?_, ?_⟩
  · intro readings ticks
    rw [take_cycle]
    exact (performs ticks).actionsFrom (le_length_rounds _ nonempty ticks) rfl
  · intro W _ _ renew world rounds frees free performed
    have length : performed.length =
        (actionsOf lead).length + rounds * (actionsOf round).length := by
      simp [performed]
    rw [← length]
    exact (performs rounds).course frees free

/-- Two steps ahead, a turn, and the tank if there is one: a round of four ticks. -/
def beat : List Maneuver := [.move (some 2), .turn .left, .takeFuel]

theorem loops_repeat_their_round_of_beat :
    let body : Block := .ofCons (.move (some (.num 2))) [.turn .left, .takeFuel]
    let program : Program := ⟨[.wait (some (.num (-3))), .loop body]⟩
    body.toList = beat.map Maneuver.stmt ∧
    (∀ readings, Rehearsal.actions program 7 readings =
      .ok [.wait, .move, .move, .turn .left, .takeFuel, .move, .move]) ∧
    ∃ world, (course (fun _ => Scripted.freeSlot) 9 program { outputs := [] }).ending =
      .ok ⟨[.loop body]⟩ world := by
  intro body program
  have spelled : body.toList = beat.map Maneuver.stmt := rfl
  obtain ⟨nonempty, listed, courses⟩ := loops_repeat_their_round [.wait (some (-3))] spelled
  have free : World.performed ({ outputs := [] } : Scripted) = none := rfl
  have frees : ∀ (tick : Nat) (world : Scripted), World.performed world.freeSlot = none :=
    fun _ _ => rfl
  have twoRounds := courses 2 frees free
  exact ⟨spelled, fun readings => listed readings 7, _, congrArg Course.ending twoRounds⟩

end FuelDuel.Execution
