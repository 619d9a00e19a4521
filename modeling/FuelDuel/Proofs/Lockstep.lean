import FuelDuel.Proofs.Watching

/-!
Programs that run in lockstep. If related sequences of statements come to the same in every step,
and what is left of them is related again, then they come to the same in every tick and over any
number of ticks: they read and do the same, take as many steps, end in the same fault, and what is
left of them is related (`Lockstep.course`). The relation only has to be checked on single steps.
-/

namespace FuelDuel.Execution

open FuelDuel.Language

/-! ### Runs that come to the same -/

section Runs

variable {W α β γ δ : Type}

/-- Two outcomes in the same world: the same fault, or two related results. -/
inductive SameRun (related : α → β → Prop) :
    EStateM.Result Fault W α → EStateM.Result Fault W β → Prop where
  | ok {left : α} {right : β} (same : related left right) (world : W) :
      SameRun related (.ok left world) (.ok right world)
  | error (fault : Fault) (world : W) : SameRun related (.error fault world) (.error fault world)

namespace SameRun

variable {related : α → β → Prop} {later : γ → δ → Prop}

theorem bind {run : Run W α} {other : Run W β} {next : α → Run W γ} {otherNext : β → Run W δ}
    {world : W} (first : SameRun related (run world) (other world))
    (second : ∀ {left right}, related left right → ∀ after,
      SameRun later (next left after) (otherNext right after)) :
    SameRun later ((run >>= next) world) ((other >>= otherNext) world) := by
  rw [bind_apply, bind_apply]
  generalize run world = result at first
  generalize other world = otherResult at first
  cases first with
  | ok same after => exact second same after
  | error fault after => exact .error fault after

theorem map {run : Run W α} {other : Run W β} {world : W} {f : α → γ} {g : β → δ}
    (first : SameRun related (run world) (other world))
    (second : ∀ {left right}, related left right → later (f left) (g right)) :
    SameRun later ((do return f (← run)) world) ((do return g (← other)) world) :=
  first.bind fun same after => .ok (second same) after

theorem mapLeft {run : Run W α} {result : EStateM.Result Fault W β} {world : W} {f : α → γ}
    {mapped : γ → β → Prop} (first : SameRun related (run world) result)
    (second : ∀ {left right}, related left right → mapped (f left) right) :
    SameRun mapped ((do return f (← run)) world) result := by
  rw [bind_apply]
  generalize run world = plain at first
  cases first with
  | ok same after => exact .ok (second same) after
  | error fault after => exact .error fault after

theorem refl (run : Run W α) (world : W) : SameRun Eq (run world) (run world) := by
  cases run world with
  | ok value after => exact .ok rfl after
  | error fault after => exact .error fault after

theorem imp {weaker : α → β → Prop} {result : EStateM.Result Fault W α}
    {other : EStateM.Result Fault W β} (run : SameRun related result other)
    (implies : ∀ {left right}, related left right → weaker left right) :
    SameRun weaker result other := by
  cases run with
  | ok same world => exact .ok (implies same) world
  | error fault world => exact .error fault world

/-- Two runs that come to the same as a third one. -/
theorem join {third : δ → β → Prop} {left : EStateM.Result Fault W α}
    {right : EStateM.Result Fault W δ} {middle : EStateM.Result Fault W β}
    (first : SameRun related left middle) (second : SameRun third right middle) :
    SameRun (fun l r => ∃ m, related l m ∧ third r m) left right := by
  cases first with
  | ok same world =>
      cases second with
      | ok other => exact .ok ⟨_, same, other⟩ world
  | error fault world =>
      cases second with
      | error => exact .error fault world

theorem reached_eq {result : EStateM.Result Fault W α} {other : EStateM.Result Fault W β}
    (run : SameRun related result other) : reached result = reached other := by
  cases run with
  | ok same world => rfl
  | error fault world => rfl

end SameRun

end Runs

/-! ### Relations that steps keep -/

/-- A relation between sequences of statements that every step keeps, on every world: of two related
sequences both have ended or neither has, and their first steps come to the same and leave related
sequences. -/
structure Lockstep (related : List Stmt → List Stmt → Prop) : Prop where
  nil_iff : ∀ {left right}, related left right → (left = [] ↔ right = [])
  step : ∀ {stmt other : Stmt} {rest otherRest : List Stmt},
    related (stmt :: rest) (other :: otherRest) → ∀ {W : Type} [World W] (world : W),
      SameRun (fun residual otherResidual =>
          related (splice residual rest) (splice otherResidual otherRest))
        (stepStmt stmt world) (stepStmt other world)

namespace Lockstep

variable {W : Type} [World W] {related : List Stmt → List Stmt → Prop}

theorem cases (lockstep : Lockstep related) {left right : List Stmt} (alike : related left right) :
    (left = [] ∧ right = []) ∨ ∃ stmt rest other otherRest,
      left = stmt :: rest ∧ right = other :: otherRest := by
  cases left with
  | nil => exact .inl ⟨rfl, (lockstep.nil_iff alike).mp rfl⟩
  | cons stmt rest =>
      cases right with
      | nil => cases (lockstep.nil_iff alike).mpr rfl
      | cons other otherRest => exact .inr ⟨stmt, rest, other, otherRest, rfl, rfl⟩

/-- The steps of a tick: they have the same effects, and there are as many of them. -/
theorem runSteps (lockstep : Lockstep related) {left right : List Stmt}
    (alike : related left right) (steps : Nat) (world : W) :
    SameRun related (runSteps steps left world) (runSteps steps right world) := by
  induction steps generalizing left right world with
  | zero =>
      by_cases free : World.performed world = none
      · rcases lockstep.cases alike with ⟨rfl, rfl⟩ | ⟨stmt, rest, other, otherRest, rfl, rfl⟩
        · rw [runSteps_nil]
          exact .ok alike world
        · rw [runSteps_zero stmt rest free, runSteps_zero other otherRest free]
          exact .error _ world
      · rw [runSteps_used 0 left free, runSteps_used 0 right free]
        exact .ok alike world
  | succ steps ih =>
      by_cases free : World.performed world = none
      · rcases lockstep.cases alike with ⟨rfl, rfl⟩ | ⟨stmt, rest, other, otherRest, rfl, rfl⟩
        · rw [runSteps_nil]
          exact .ok alike world
        · rw [runSteps_succ steps stmt rest free, runSteps_succ steps other otherRest free]
          exact (lockstep.step alike world).bind ih
      · rw [runSteps_used _ left free, runSteps_used _ right free]
        exact .ok alike world

/-- Related programs come to the same in one tick. -/
theorem execute (lockstep : Lockstep related) {left right : Program}
    (alike : related left.stmts right.stmts) (world : W) :
    SameRun (fun rest otherRest => related rest.stmts otherRest.stmts)
      (execute left world) (execute right world) :=
  (lockstep.runSteps alike maxSteps world).map id

/-- The deeds of a tick are the same, since watched worlds are worlds too. -/
theorem deeds (lockstep : Lockstep related) {left right : Program}
    (alike : related left.stmts right.stmts) (world : W) : deeds left world = deeds right world :=
  congrArg Watched.deeds (lockstep.execute alike (Watched.start world)).reached_eq

/-- What a tick keeps, any number of ticks keep. -/
theorem course (lockstep : Lockstep related) {left right : Program}
    (alike : related left.stmts right.stmts) (renew : Nat → W → W) (ticks : Nat) (world : W) :
    (course renew ticks left world).deeds = (course renew ticks right world).deeds ∧
      SameRun (fun rest otherRest => related rest.stmts otherRest.stmts)
        (course renew ticks left world).ending (course renew ticks right world).ending := by
  induction ticks generalizing renew left right world with
  | zero =>
      refine ⟨rfl, .ok ?_ world⟩
      exact alike
  | succ ticks ih =>
      have run := lockstep.execute alike world
      rw [Execution.course, Execution.course, lockstep.deeds alike world]
      generalize Execution.execute left world = result at run ⊢
      generalize Execution.execute right world = otherResult at run ⊢
      cases run with
      | ok alikeRest after =>
          obtain ⟨sameDeeds, sameEnding⟩ :=
            ih alikeRest (fun tick => renew (tick + 1)) (renew 0 after)
          exact ⟨congrArg (_ :: ·) sameDeeds, sameEnding⟩
      | error fault after => exact ⟨rfl, .error fault after⟩

end Lockstep

end FuelDuel.Execution
