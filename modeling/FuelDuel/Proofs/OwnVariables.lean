import FuelDuel.Proofs.Interchange
import FuelDuel.Proofs.StoresAlike

/-!
Programs write their own variables only, and it makes no difference to them whether a variable holds
zero or was never written. This holds of a program that runs tick after tick in any world with a
store, and of the agents of a match, whose programs are given up after a fault
(`programs_write_only_their_variables`).
-/

namespace FuelDuel.Arena

open FuelDuel.Execution
open FuelDuel.Language
open FuelDuel.World

/-! ### What an agent writes -/

/-- The agent does not assign to the variable, which has the value. -/
structure Agent.Keeps (name : String) (value? : Option Int32) (agent : Agent) : Prop where
  spares : Spares name agent.program.stmts
  holds : agent.vars.get? name = value?

namespace Agent

variable {name : String} {value? : Option Int32} {agent : Agent}

/-- Thinking keeps what the program does not assign to, and a fault gives up the program only. -/
theorem Keeps.thought (keeps : agent.Keeps name value?) (perception : Perception) :
    (agent.thought perception).2.Keeps name value? := by
  have holds := execute_keeps keeps.spares
    { readings := perception.readings, vars := agent.vars : View } keeps.holds
  unfold Agent.thought
  split
  · rename_i rest view ran
    rw [ran] at holds
    exact ⟨Spares.execute keeps.spares ran, holds⟩
  · rename_i fault view ran
    rw [ran] at holds
    exact ⟨everywhere_nil, holds⟩

end Agent

theorem keeps_afterTurns {arena : Arena} {side : Side} {name : String} {value? : Option Int32}
    (keeps : (arena.agent side).Keeps name value?) (turns : Nat) :
    ((arena.afterTurns turns).agent side).Keeps name value? := by
  apply afterTurns_induction (fun later => (later.agent side).Keeps name value?) keeps
  rintro earlier played - ⟨spares, holds⟩ turn
  obtain ⟨-, rfl⟩ := nextTurn_eq_ok_iff.mp turn
  obtain ⟨body, -, after⟩ := (arena.afterTurns earlier).commit.agent_resolve_shows side
  have committed : ((arena.afterTurns earlier).commit.agent side).Keeps name value? := by
    rw [commit_agent]
    exact ⟨spares, holds⟩
  obtain ⟨sparesAfter, holdsAfter⟩ := committed.thought _
  rw [after]
  exact ⟨sparesAfter, holdsAfter⟩

/-! ### Agents whose stores read alike -/

/-- Two agents that are the same but for their stores, and in these all variables read the same. -/
structure Agent.ReadsAlike (left right : Agent) : Prop where
  body : left.body = right.body
  program : left.program = right.program
  status : left.status = right.status
  reads : SameReads left.vars right.vars

/-- They think the same, and are alike after it. -/
theorem Agent.ReadsAlike.thought {left right : Agent} (alike : left.ReadsAlike right)
    (perception : Perception) :
    (left.thought perception).1 = (right.thought perception).1 ∧
      (left.thought perception).2.ReadsAlike (right.thought perception).2 := by
  obtain ⟨body, program, status, reads⟩ := alike
  let readings := perception.readings
  have views : StoresAlike ({ readings, vars := left.vars } : View)
      { readings, vars := right.vars } := ⟨rfl, reads⟩
  have ran := storesAlike_simulation.execute right.program views
  unfold Agent.thought
  rw [program]
  generalize execute right.program ({ readings, vars := left.vars } : View) = leftResult at ran ⊢
  generalize execute right.program ({ readings, vars := right.vars } : View) = rightResult at ran ⊢
  cases ran with
  | ok rest same =>
      have decision := congrArg View.decision same.elsewhere
      exact ⟨congrArg (Thought.mk · none) decision, body, rfl, status, same.reads⟩
  | error fault same => exact ⟨rfl, body, rfl, rfl, same.reads⟩

/-- Two arenas that differ in the store of one side only, and there all variables read the same. -/
structure StoresAlikeFor (side : Side) (left right : Arena) : Prop where
  alike : AlikeFor side.other left right
  agent : (left.agent side).ReadsAlike (right.agent side)

namespace StoresAlikeFor

variable {side : Side} {left right : Arena} (alike : StoresAlikeFor side left right)
include alike

theorem commit : StoresAlikeFor side left.commit right.commit where
  alike := alike.alike.commit
  agent := by
    obtain ⟨body, program, status, reads⟩ := alike.agent
    rw [commit_agent, commit_agent]
    exact ⟨congrArg Body.commit body, program, status, reads⟩

theorem mind :
    (left.mind side).1 = (right.mind side).1 ∧
      (left.mind side).2.ReadsAlike (right.mind side).2 := by
  have thought := alike.agent.thought
    (.capture right.grid right.barrels (right.agent side).body (right.agent side.other).body)
  unfold Arena.mind
  rw [alike.alike.grid, alike.alike.barrels, alike.alike.body, alike.alike.body]
  exact thought

theorem turn :
    left.shownTurn = right.shownTurn ∧ StoresAlikeFor side left.advance right.advance := by
  obtain ⟨thought, mind⟩ := alike.commit.mind
  have thoughts :
      (left.commit.mind side.other.other).1 = (right.commit.mind side.other.other).1 := by
    rw [Side.other_other, thought]
  obtain ⟨shown, after⟩ := alike.alike.turn_same thoughts
  refine ⟨shown, after, ?_⟩
  have bodies := after.body side
  unfold advance at bodies ⊢
  cases decided : right.outcome? with
  | some outcome =>
      rw [nextTurn_of_decided decided, nextTurn_of_decided (alike.alike.outcome.trans decided)]
      exact alike.agent
  | none =>
      rw [nextTurn_of_undecided decided,
        nextTurn_of_undecided (alike.alike.outcome.trans decided)] at bodies ⊢
      obtain ⟨leftBody, -, leftAfter⟩ := left.commit.agent_resolve_shows side
      obtain ⟨rightBody, -, rightAfter⟩ := right.commit.agent_resolve_shows side
      dsimp only at bodies ⊢
      rw [leftAfter, rightAfter] at bodies ⊢
      exact ⟨bodies, mind.program, mind.status, mind.reads⟩

theorem afterTurns (turns : Nat) :
    StoresAlikeFor side (left.afterTurns turns) (right.afterTurns turns) := by
  induction turns with
  | zero => exact alike
  | succ turns ih => exact ih.turn.2

end StoresAlikeFor

/-! ### Both kinds of runs -/

/-- Programs write their own variables only, and cannot tell a variable that was never written from
one that holds zero. In a world with a store, in which what happens between the ticks does not
depend on the store, a variable that the program assigns to nowhere has the same value, or none,
after any number of ticks, also where ticks end in faults. If two sessions with the same program
differ in the store only, and all variables read the same in both, then in every tick the program
reads and does the same, ends in the same fault or has the same left, and the stores read the same
afterwards. The same holds of the robots of a match, where the turns show the same too. -/
theorem programs_write_only_their_variables :
    (∀ {W : Type} [World W] [StoreWorld W] (renew : Nat → W → W),
      (∀ tick store world,
        renew tick (withVars store world) = withVars store (renew tick world)) →
      ∀ (left right : Session W) (ticks : Nat),
        (∀ name ∉ left.program.targets,
          World.stored (left.afterTicks renew ticks).world name = World.stored left.world name) ∧
        (SessionsRelated StoresAlike left right →
          SameTick (left.afterTicks renew ticks) (right.afterTicks renew ticks) ∧
            SessionsRelated StoresAlike (left.afterTicks renew ticks)
              (right.afterTicks renew ticks))) ∧
    ∀ (side : Side) (left right : Arena) (turns : Nat),
      (∀ name ∉ (left.agent side).program.targets,
        ((left.afterTurns turns).agent side).vars.get? name =
          (left.agent side).vars.get? name) ∧
      (StoresAlikeFor side left right →
        (left.afterTurns turns).shownTurn = (right.afterTurns turns).shownTurn ∧
          ((left.afterTurns turns).mind side).1 = ((right.afterTurns turns).mind side).1 ∧
          StoresAlikeFor side (left.afterTurns turns) (right.afterTurns turns)) := by
  constructor
  · intro W _ _ renew blind left right ticks
    constructor
    · intro name missing
      have keeps : left.Keeps name ((vars left.world).get? name) :=
        ⟨spares_of_not_mem_targets missing, rfl⟩
      rw [StoreWorld.stored_eq, StoreWorld.stored_eq]
      exact (keeps.afterTicks blind ticks).holds
    · intro sessions
      have after := sessions.afterTicks storesAlike_simulation
        (fun tick _ _ alike => alike.change (blind tick)) ticks
      exact ⟨after.sameTick storesAlike_simulation, after⟩
  · intro side left right turns
    constructor
    · intro name missing
      have keeps : (left.agent side).Keeps name ((left.agent side).vars.get? name) :=
        ⟨spares_of_not_mem_targets missing, rfl⟩
      exact (keeps_afterTurns keeps turns).holds
    · intro alike
      have after := alike.afterTurns turns
      exact ⟨after.turn.1, after.mind.1, after⟩

/-- Writes `b`, goes `b` cells, and then divides by `a`. -/
def dividing : Program :=
  ⟨[.assign "b" (.binary .add (.var "a") (.num 1)), .move (some (.var "b")),
    .wait (some (.binary .div (.num 1) (.var "a")))]⟩

theorem programs_write_only_their_variables_of_dividing :
    let zeroed := Vars.empty.set "a" 0
    let left : Session Rehearsal := ⟨{ readings := {} }, dividing⟩
    let right : Session Rehearsal := ⟨{ readings := {}, vars := zeroed }, dividing⟩
    let renew (_tick : Nat) : Rehearsal → Rehearsal := Rehearsal.endTick
    let leftArena := standoffOf dividing .empty
    let rightArena := standoffOf dividing zeroed
    SessionsRelated StoresAlike left right ∧ "a" ∉ dividing.targets ∧
      (left.afterTicks renew 1).execute.1 = .error .divisionByZero ∧
      World.stored (left.afterTicks renew 3).world "a" = none ∧
      World.stored (right.afterTicks renew 3).world "a" = some 0 ∧
      SameTick (left.afterTicks renew 3) (right.afterTicks renew 3) ∧
      StoresAlikeFor .red leftArena rightArena ∧
      (leftArena.afterTurns 3).shownTurn = (rightArena.afterTurns 3).shownTurn := by
  intro zeroed left right renew leftArena rightArena
  have reads : SameReads .empty zeroed := by
    intro name
    rw [Vars.get?_set]
    split <;> rfl
  have sessions : SessionsRelated StoresAlike left right := ⟨rfl, reads.storesAlike⟩
  have missing : "a" ∉ dividing.targets := by decide
  have blind : ∀ (tick : Nat) store world,
      renew tick (withVars store world) = withVars store (renew tick world) := fun _ _ _ => rfl
  have alike : StoresAlikeFor .red leftArena rightArena :=
    ⟨⟨rfl, rfl, rfl, rfl, rfl, rfl⟩, rfl, rfl, rfl, reads⟩
  obtain ⟨worlds, arenas⟩ := programs_write_only_their_variables
  obtain ⟨leftKeeps, same⟩ := worlds renew blind left right 3
  obtain ⟨rightKeeps, -⟩ := worlds renew blind right left 3
  obtain ⟨shown, -⟩ := (arenas .red leftArena rightArena 3).2 alike
  exact ⟨sessions, missing, rfl, leftKeeps "a" missing, rightKeeps "a" missing,
    (same sessions).1, alike, shown⟩

end FuelDuel.Arena
