import FuelDuel.Proofs.Delays

/-!
Steps before an action. A program that acts on every pass through every loop body cannot run out of
steps, as long as it is not too large for the limit (`driven_programs_never_stall`). Only the count
of steps ends a tick at the limit, not a step itself (`not_stalled_stepStmt`), and as many steps as
the delay says are enough (`not_stalled_runSteps`).
-/

namespace FuelDuel.Execution

open FuelDuel.Language
open FuelDuel.World

/-! ### Only a tick counts steps -/

section Stalling

variable {W α β : Type}

/-- The run has ended at the limit of steps. -/
def Stalled (result : EStateM.Result Fault W α) : Prop :=
  ∃ limit world, result = .error (.stepLimit limit) world

theorem not_stalled_ok (value : α) (world : W) :
    ¬Stalled (.ok value world : EStateM.Result Fault W α) := by
  rintro ⟨limit, after, same⟩
  cases same

theorem not_stalled_bind {run : Run W α} {next : α → Run W β} {world : W}
    (first : ¬Stalled (run world)) (second : ∀ value after, ¬Stalled (next value after)) :
    ¬Stalled ((run >>= next) world) := by
  rw [bind_apply]
  cases computed : run world with
  | ok value after => exact second value after
  | error fault after =>
      rintro ⟨limit, reached, same⟩
      cases same
      exact first ⟨limit, after, computed⟩

theorem not_stalled_map {run : Run W α} {world : W} (first : ¬Stalled (run world)) (f : α → β) :
    ¬Stalled ((do return f (← run)) world) :=
  not_stalled_bind first fun value after => not_stalled_ok (f value) after

end Stalling

section Steps

variable {W : Type} [World W] [LawfulWorld W]

theorem not_stalled_sense (gauge : Sensor) (index : Nat) (world : W) :
    ¬Stalled (World.sense gauge index world) := by
  rintro ⟨limit, after, same⟩
  exact LawfulWorld.sense_ne_stepLimit same

theorem not_stalled_evalExpr (expr : Expr) (world : W) : ¬Stalled (evalExpr expr world) := by
  induction expr generalizing world with
  | num value => exact not_stalled_ok value world
  | var name => exact not_stalled_ok _ world
  | binary op left right ihLeft ihRight =>
      apply not_stalled_bind (ihLeft world)
      intro leftValue middle
      apply not_stalled_bind (ihRight middle)
      intro rightValue after
      rw [evalBinary_settle]
      cases binaryValue? op leftValue rightValue with
      | some value => exact not_stalled_ok value after
      | none =>
          rintro ⟨limit, reached, same⟩
          cases same
  | sensor gauge => exact not_stalled_sense gauge 0 world
  | barrelAt axis index ih =>
      apply not_stalled_bind (ih world)
      intro value after
      exact not_stalled_sense (.barrel axis) (barrelIndex value) after

theorem not_stalled_evalCond (cond : Cond) (world : W) : ¬Stalled (evalCond cond world) := by
  induction cond generalizing world with
  | compare op left right =>
      apply not_stalled_bind (not_stalled_evalExpr left world)
      intro leftValue middle
      exact not_stalled_map (not_stalled_evalExpr right middle) _
  | connect op left right ihLeft ihRight =>
      apply not_stalled_bind (ihLeft world)
      intro leftValue middle
      exact not_stalled_map (ihRight middle) _
  | not inner ih => exact not_stalled_map (ih world) _

omit [LawfulWorld W] in
theorem not_stalled_perform (action : Action) (world : W) : ¬Stalled (perform action world) := by
  unfold perform
  rintro ⟨limit, after, same⟩
  cases slot : World.performed world with
  | none =>
      rw [slot] at same
      cases same
  | some earlier =>
      rw [slot] at same
      cases same

theorem not_stalled_performCounted (action : Action) (count : Option Expr) (world : W) :
    ¬Stalled (performCounted action count world) := by
  cases count with
  | none => exact not_stalled_map (not_stalled_perform action world) _
  | some expr =>
      apply not_stalled_bind (not_stalled_evalExpr expr world)
      intro remaining after
      exact not_stalled_map (not_stalled_perform action after) _

end Steps

mutual

/-- The steps of a statement are not limited; only a tick counts them. -/
theorem not_stalled_stepStmt {W : Type} [World W] [LawfulWorld W] (stmt : Stmt) (world : W) :
    ¬Stalled (stepStmt stmt world) := by
  match stmt with
  | .turn way => exact not_stalled_map (not_stalled_perform (.turn way) world) _
  | .takeFuel => exact not_stalled_map (not_stalled_perform .takeFuel world) _
  | .shield on => exact not_stalled_ok none _
  | .move count => exact not_stalled_map (not_stalled_performCounted .move count world) _
  | .wait count => exact not_stalled_map (not_stalled_performCounted .wait count world) _
  | .assign name value =>
      apply not_stalled_bind (not_stalled_evalExpr value world)
      intro result after
      exact not_stalled_ok none _
  | .loop body => exact not_stalled_ok _ world
  | .ifThen cond body => exact not_stalled_map (not_stalled_evalCond cond world) _
  | .ifElse cond body otherwise => exact not_stalled_map (not_stalled_evalCond cond world) _
  | .while cond body => exact not_stalled_map (not_stalled_evalCond cond world) _
  | .block body => exact not_stalled_map (not_stalled_stepBlock body world) _

theorem not_stalled_stepBlock {W : Type} [World W] [LawfulWorld W] (block : Block) (world : W) :
    ¬Stalled (stepBlock block world) := by
  match block with
  | .single stmt => exact not_stalled_map (not_stalled_stepStmt stmt world) _
  | .cons stmt rest => exact not_stalled_map (not_stalled_stepStmt stmt world) _

end

/-! ### Ticks -/

theorem driven_inherited : Inherited Driven where
  moved _ := by simp [Driven, Stmt.loopBody?]
  waited _ := by simp [Driven, Stmt.loopBody?]

/-- As many steps as the delay says are enough. -/
theorem not_stalled_runSteps {W : Type} [World W] [LawfulWorld W] {steps : Nat}
    {stmts : List Stmt} (driven : Everywhere Driven stmts) (budget : delay stmts ≤ steps)
    (world : W) : ¬Stalled (runSteps steps stmts world) := by
  induction steps generalizing stmts world with
  | zero =>
      cases stmts with
      | nil =>
          rw [runSteps_nil]
          exact not_stalled_ok [] world
      | cons stmt rest => exact absurd (delay_cons_pos stmt rest) (Nat.not_lt.mpr budget)
  | succ steps ih =>
      by_cases free : World.performed world = none
      · cases stmts with
        | nil =>
            rw [runSteps_nil]
            exact not_stalled_ok [] world
        | cons stmt rest =>
            rw [runSteps_succ steps stmt rest free, bind_apply]
            cases stepped : stepStmt stmt world with
            | error fault after =>
                rintro ⟨limit, reached, same⟩
                cases same
                exact not_stalled_stepStmt stmt world ⟨limit, after, stepped⟩
            | ok residual after =>
                by_cases stillFree : World.performed after = none
                · -- The slot is still free, so the statement did not act and the delay is less.
                  have slot := stepStmt_performed stmt stepped
                  have idle : stmt.lead.action? = none := by
                    rw [stillFree, free, Option.or_none] at slot
                    exact slot.symm
                  have rewrites := stepStmt_rewrites stmt stepped
                  obtain ⟨first, later⟩ := everywhere_cons_iff.mp driven
                  have less := rewrites.delay_lt idle first rest
                  have next := (Advances.first rewrites rest).everywhere driven_inherited driven
                  rw [← splice_append] at less next
                  exact ih next (by omega) after
                · show ¬Stalled (runSteps steps (splice residual rest) after)
                  rw [runSteps_used steps _ stillFree]
                  exact not_stalled_ok _ after
      · rw [runSteps_used _ stmts free]
        exact not_stalled_ok stmts world

/-- The limit of steps never stops a program that keeps acting. If every loop of either kind, at
every depth, has an action among the statements of its body, and the number of statements times one
more than the depth of loops is within the limit, then no tick ends at the limit, however many ticks
came before it and whatever the worlds were. -/
theorem driven_programs_never_stall {program residual : Program}
    (driven : ∀ node ∈ program.nodes, Driven node)
    (short : (loopDepth program.stmts + 1) * program.nodes.length ≤ maxSteps)
    (left : LeftOver program residual) {W : Type} [World W] [LawfulWorld W] (world after : W)
    (limit : Nat) : execute residual world ≠ .error (.stepLimit limit) after := by
  have everywhere : Everywhere Driven residual.stmts :=
    left.keeps (Everywhere Driven) (Advances.everywhere driven_inherited) everywhere_nil driven
  have bound : worst residual.stmts ≤ worst program.stmts :=
    left.keeps (fun stmts => worst stmts ≤ worst program.stmts)
      (fun advances lower => Nat.le_trans advances.worst_le lower) (Nat.zero_le _) (Nat.le_refl _)
  have budget : delay residual.stmts ≤ maxSteps := by
    calc delay residual.stmts
      _ ≤ worst residual.stmts := delay_le_worst _
      _ ≤ worst program.stmts := bound
      _ ≤ (loopDepth program.stmts + 1) * program.nodes.length :=
        worst_le_nodes program.stmts (Nat.le_refl _)
      _ ≤ maxSteps := short
  intro failed
  exact not_stalled_map (not_stalled_runSteps everywhere budget world) Program.mk
    ⟨limit, after, failed⟩

/-- Keeps watch for three ticks, shields if the tank is empty, turns, and starts over. -/
def sentry : Stmt :=
  .loop (.ofCons
    (.while (.compare .lt (.var "x") (.num 3))
      (.ofCons (.assign "x" (.binary .add (.var "x") (.num 1))) [.wait none]))
    [.ifThen (.compare .eq (.sensor .fuelLeft) (.num 0)) (.single (.shield true)), .turn .right])

/-- The second tick of a sentry starts in the middle of both of its loops. -/
theorem driven_programs_never_stall_of_sentry :
    let program : Program := ⟨[sentry]⟩
    let residual : Program :=
      ⟨[.while (.compare .lt (.var "x") (.num 3))
          (.ofCons (.assign "x" (.binary .add (.var "x") (.num 1))) [.wait none]),
        .ifThen (.compare .eq (.sensor .fuelLeft) (.num 0)) (.single (.shield true)),
        .turn .right, sentry]⟩
    (∀ node ∈ program.nodes, Driven node) ∧
    (loopDepth program.stmts + 1) * program.nodes.length = 21 ∧
    LeftOver program residual ∧
    ∀ (view after : View) limit, execute residual view ≠ .error (.stepLimit limit) after := by
  intro program residual
  have ran : execute program ({ readings := {} } : Rehearsal) =
      .ok residual { readings := {}, vars := ⟨[("x", 1)]⟩, performed := some .wait } := by rfl
  have left : LeftOver program residual := .tick .start ran
  have driven : ∀ node ∈ program.nodes, Driven node := by decide
  exact ⟨driven, by decide, left, driven_programs_never_stall driven (by decide) left⟩

end FuelDuel.Execution
