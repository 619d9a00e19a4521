import FuelDuel.Proofs.SteadyWorld

/-!
Structured runs: the meaning of programs as nested statements, without residual programs and
without ticks. The statements of a sequence run in order, a branch is picked by its condition, a
loop runs its body again and again, and a counted action evaluates its count once. The only clock
is the number of actions performed: a sensor that is read after `k` actions shows snapshot `k`.

A run may go on forever, so it is observed at two kinds of moments: at its end (`finished`) and
right after any one of its actions (`cut`). A program has at most one run: two observations at its
end, or two right after the same number of actions, are the same (`RunsAll.consistent`).
-/

namespace FuelDuel.Execution

open FuelDuel.Language
open FuelDuel.World

/-- What a run has come to: its variables, and everything that it has done so far. -/
structure Moment where
  vars : Vars
  trace : List Effect
  deriving DecidableEq, Repr

namespace Moment

/-- Nothing has been done yet. -/
def start (vars : Vars) : Moment := ⟨vars, []⟩

/-- The number of actions performed so far. -/
def actions (moment : Moment) : Nat := moment.trace.countP Effect.isAction

/-- Writes a variable. -/
def write (moment : Moment) (name : String) (value : Int32) : Moment :=
  ⟨moment.vars.set name value, moment.trace ++ [.wrote name value]⟩

/-- Sets the shield. -/
def shield (moment : Moment) (on : Bool) : Moment :=
  ⟨moment.vars, moment.trace ++ [.shielded on]⟩

/-- Performs an action. -/
def act (moment : Moment) (action : Action) : Moment :=
  ⟨moment.vars, moment.trace ++ [.acted action]⟩

@[simp] theorem actions_write (moment : Moment) (name : String) (value : Int32) :
    (moment.write name value).actions = moment.actions := by
  simp [actions, write, Effect.isAction]

@[simp] theorem actions_shield (moment : Moment) (on : Bool) :
    (moment.shield on).actions = moment.actions := by
  simp [actions, shield, Effect.isAction]

@[simp] theorem actions_act (moment : Moment) (action : Action) :
    (moment.act action).actions = moment.actions + 1 := by
  simp [actions, act, Effect.isAction]

end Moment

/-- Where a run is observed. -/
inductive Ending where
  /-- There is nothing left to run. -/
  | finished
  /-- An action has just been performed. -/
  | cut
  deriving DecidableEq, Repr

/-- Performs an action as many times as `count` says. -/
inductive Repeats (action : Action) : (count : Nat) → Moment → Ending → Moment → Prop where
  | zero {before} : Repeats action 0 before .finished before
  | cut {count before} : Repeats action (count + 1) before .cut (before.act action)
  | next {count before ending after} (later : Repeats action count (before.act action) ending after) :
      Repeats action (count + 1) before ending after

/-- How many times a counted action is performed if its count has the given value. -/
def repetitions (value : Int32) : Nat := max 1 value.toInt.toNat

theorem repetitions_of_one_lt {value : Int32} (more : 1 < value) :
    repetitions value = repetitions (value - 1) + 1 := by
  have above : (1 : Int) < value.toInt := Int32.lt_iff_toInt_lt.mp more
  have left := toInt_sub_one more
  unfold repetitions
  omega

theorem repetitions_of_not_one_lt {value : Int32} (single : ¬1 < value) :
    repetitions value = 1 := by
  have below : ¬(1 : Int) < value.toInt := fun above =>
    single (Int32.lt_iff_toInt_lt.mpr above)
  unfold repetitions
  omega

section Runs

variable (snapshots : Nat → Readings)

/-- The value of an expression at a moment. -/
def Moment.value? (moment : Moment) (expr : Expr) : Option Int32 :=
  exprValue? (snapshots moment.actions) moment.vars.get? expr

/-- The truth value of a condition at a moment. -/
def Moment.holds? (moment : Moment) (cond : Cond) : Option Bool :=
  condValue? (snapshots moment.actions) moment.vars.get? cond

/-- The value of an optional count at a moment; a missing count is one. -/
def Moment.count? (moment : Moment) : Option Expr → Option Int32
  | none => some 1
  | some expr => moment.value? snapshots expr

/-- The runs of a statement. A body runs as the block that it is. -/
inductive Runs : Stmt → Moment → Ending → Moment → Prop where
  | turn {way before ending after} (acts : Repeats (.turn way) 1 before ending after) :
      Runs (.turn way) before ending after
  | takeFuel {before ending after} (acts : Repeats .takeFuel 1 before ending after) :
      Runs .takeFuel before ending after
  | shield {on before} : Runs (.shield on) before .finished (before.shield on)
  | move {count before value ending after} (counted : before.count? snapshots count = some value)
      (acts : Repeats .move (repetitions value) before ending after) :
      Runs (.move count) before ending after
  | wait {count before value ending after} (counted : before.count? snapshots count = some value)
      (acts : Repeats .wait (repetitions value) before ending after) :
      Runs (.wait count) before ending after
  | assign {name expr before value} (computed : before.value? snapshots expr = some value) :
      Runs (.assign name expr) before .finished (before.write name value)
  | loopCut {body before after} (inside : Runs (.block body) before .cut after) :
      Runs (.loop body) before .cut after
  | loopNext {body before middle ending after}
      (first : Runs (.block body) before .finished middle)
      (again : Runs (.loop body) middle ending after) :
      Runs (.loop body) before ending after
  | ifThenTrue {cond body before ending after} (holds : before.holds? snapshots cond = some true)
      (inside : Runs (.block body) before ending after) :
      Runs (.ifThen cond body) before ending after
  | ifThenFalse {cond body before} (fails : before.holds? snapshots cond = some false) :
      Runs (.ifThen cond body) before .finished before
  | ifElseTrue {cond body otherwise before ending after}
      (holds : before.holds? snapshots cond = some true)
      (inside : Runs (.block body) before ending after) :
      Runs (.ifElse cond body otherwise) before ending after
  | ifElseFalse {cond body otherwise before ending after}
      (fails : before.holds? snapshots cond = some false)
      (inside : Runs (.block otherwise) before ending after) :
      Runs (.ifElse cond body otherwise) before ending after
  | whileFalse {cond body before} (fails : before.holds? snapshots cond = some false) :
      Runs (.while cond body) before .finished before
  | whileCut {cond body before after} (holds : before.holds? snapshots cond = some true)
      (inside : Runs (.block body) before .cut after) :
      Runs (.while cond body) before .cut after
  | whileNext {cond body before middle ending after}
      (holds : before.holds? snapshots cond = some true)
      (first : Runs (.block body) before .finished middle)
      (again : Runs (.while cond body) middle ending after) :
      Runs (.while cond body) before ending after
  | blockLast {stmt before ending after} (inside : Runs stmt before ending after) :
      Runs (.block (.single stmt)) before ending after
  | blockCut {stmt rest before after} (inside : Runs stmt before .cut after) :
      Runs (.block (.cons stmt rest)) before .cut after
  | blockNext {stmt rest before middle ending after} (first : Runs stmt before .finished middle)
      (later : Runs (.block rest) middle ending after) :
      Runs (.block (.cons stmt rest)) before ending after

/-- The runs of the statements of a program. -/
inductive RunsAll : List Stmt → Moment → Ending → Moment → Prop where
  | nil {before} : RunsAll [] before .finished before
  | cut {stmt rest before after} (inside : Runs snapshots stmt before .cut after) :
      RunsAll (stmt :: rest) before .cut after
  | next {stmt rest before middle ending after}
      (first : Runs snapshots stmt before .finished middle)
      (later : RunsAll rest middle ending after) :
      RunsAll (stmt :: rest) before ending after

end Runs

/-! ### Counted actions -/

section Counted

variable {snapshots : Nat → Readings} {before after : Moment} {ending : Ending}

theorem runs_move_iff {count : Option Expr} :
    Runs snapshots (.move count) before ending after ↔
      ∃ value, before.count? snapshots count = some value ∧
        Repeats .move (repetitions value) before ending after := by
  constructor
  · intro runs
    cases runs with
    | move counted acts => exact ⟨_, counted, acts⟩
  · rintro ⟨value, counted, acts⟩
    exact .move counted acts

theorem runs_wait_iff {count : Option Expr} :
    Runs snapshots (.wait count) before ending after ↔
      ∃ value, before.count? snapshots count = some value ∧
        Repeats .wait (repetitions value) before ending after := by
  constructor
  · intro runs
    cases runs with
    | wait counted acts => exact ⟨_, counted, acts⟩
  · rintro ⟨value, counted, acts⟩
    exact .wait counted acts

end Counted

/-! ### Sequences -/

section Sequences

variable {snapshots : Nat → Readings} {before after : Moment} {ending : Ending}

theorem runsAll_singleton_iff {stmt : Stmt} :
    RunsAll snapshots [stmt] before ending after ↔ Runs snapshots stmt before ending after := by
  constructor
  · intro runs
    cases runs with
    | cut inside => exact inside
    | next first later =>
        cases later
        exact first
  · intro runs
    cases ending with
    | finished => exact .next runs .nil
    | cut => exact .cut runs

/-- A sequence in two parts ends in its first part, or runs all of it and then its second part. -/
theorem runsAll_append_iff {first second : List Stmt} :
    RunsAll snapshots (first ++ second) before ending after ↔
      (∃ middle, RunsAll snapshots first before .finished middle ∧
        RunsAll snapshots second middle ending after) ∨
      (ending = .cut ∧ RunsAll snapshots first before .cut after) := by
  induction first generalizing before with
  | nil =>
      constructor
      · intro runs
        exact .inl ⟨before, .nil, runs⟩
      · rintro (⟨middle, early, late⟩ | ⟨-, early⟩)
        · cases early
          exact late
        · cases early
  | cons stmt rest ih =>
      constructor
      · intro runs
        cases runs with
        | cut inside => exact .inr ⟨rfl, .cut inside⟩
        | next head tail =>
            rcases ih.mp tail with ⟨middle, early, late⟩ | ⟨same, early⟩
            · exact .inl ⟨middle, .next head early, late⟩
            · exact .inr ⟨same, .next head early⟩
      · rintro (⟨middle, early, late⟩ | ⟨rfl, early⟩)
        · cases early with
          | next head tail => exact .next head (ih.mpr (.inl ⟨middle, tail, late⟩))
        · cases early with
          | cut inside => exact .cut inside
          | next head tail => exact .next head (ih.mpr (.inr ⟨rfl, tail⟩))

end Sequences

/-- A block runs as its statements do. -/
theorem runs_block_iff {snapshots : Nat → Readings} {block : Block} {before after : Moment}
    {ending : Ending} :
    Runs snapshots (.block block) before ending after ↔
      RunsAll snapshots block.toList before ending after := by
  cases block with
  | single stmt =>
      rw [Block.toList, runsAll_singleton_iff]
      constructor
      · intro runs
        cases runs with
        | blockLast inside => exact inside
      · exact .blockLast
  | cons stmt rest =>
      constructor
      · intro runs
        cases runs with
        | blockCut inside => exact .cut inside
        | blockNext first later => exact .next first (runs_block_iff.mp later)
      · intro runs
        cases runs with
        | cut inside => exact .blockCut inside
        | next first later => exact .blockNext first (runs_block_iff.mpr later)

/-! ### A program has one run -/

/-- A later observation of a run: the number of actions does not go down, and an observation right
after an action has seen one more. -/
def Progress (before : Moment) : Ending → Moment → Prop
  | .finished, after => before.actions ≤ after.actions
  | .cut, after => before.actions < after.actions

theorem Progress.trans {before middle after : Moment} {ending : Ending}
    (first : Progress before .finished middle) (second : Progress middle ending after) :
    Progress before ending after := by
  cases ending with
  | finished => exact Nat.le_trans first second
  | cut => exact Nat.lt_of_le_of_lt first second

theorem Repeats.progress {action : Action} {count : Nat} {before after : Moment} {ending : Ending}
    (repeats : Repeats action count before ending after) : Progress before ending after := by
  induction repeats with
  | zero => exact Nat.le_refl _
  | cut => simp [Progress]
  | @next count before ending after later ih =>
      have once : Progress before .finished (before.act action) := by simp [Progress]
      exact once.trans ih

theorem Runs.progress {snapshots : Nat → Readings} {stmt : Stmt} {before after : Moment}
    {ending : Ending} (runs : Runs snapshots stmt before ending after) :
    Progress before ending after := by
  induction runs with
  | turn acts => exact acts.progress
  | takeFuel acts => exact acts.progress
  | shield => simp [Progress]
  | move counted acts => exact acts.progress
  | wait counted acts => exact acts.progress
  | assign computed => simp [Progress]
  | loopCut inside ih => exact ih
  | loopNext first again ihFirst ihAgain => exact ihFirst.trans ihAgain
  | ifThenTrue holds inside ih => exact ih
  | ifThenFalse fails => exact Nat.le_refl _
  | ifElseTrue holds inside ih => exact ih
  | ifElseFalse fails inside ih => exact ih
  | whileFalse fails => exact Nat.le_refl _
  | whileCut holds inside ih => exact ih
  | whileNext holds first again ihFirst ihAgain => exact ihFirst.trans ihAgain
  | blockLast inside ih => exact ih
  | blockCut inside ih => exact ih
  | blockNext first later ihFirst ihLater => exact ihFirst.trans ihLater

theorem RunsAll.progress {snapshots : Nat → Readings} {stmts : List Stmt} {before after : Moment}
    {ending : Ending} (runs : RunsAll snapshots stmts before ending after) :
    Progress before ending after := by
  induction runs with
  | nil => exact Nat.le_refl _
  | cut inside => exact inside.progress
  | next first later ih => exact first.progress.trans ih

/-- Two observations that can be of one run: at its end it has come to one moment, right after the
same number of actions it has come to the same moment, and no action comes after its end. -/
def Consistent : Ending → Moment → Ending → Moment → Prop
  | .finished, left, .finished, right => left = right
  | .cut, left, .cut, right => left.actions = right.actions → left = right
  | .finished, left, .cut, right => right.actions ≤ left.actions
  | .cut, left, .finished, right => left.actions ≤ right.actions

theorem Consistent.cut_next {left middle right : Moment} {ending : Ending}
    (early : Consistent .cut left .finished middle) (later : Progress middle ending right) :
    Consistent .cut left ending right := by
  cases ending with
  | finished => exact Nat.le_trans early later
  | cut =>
      intro same
      exact absurd (Nat.lt_of_le_of_lt early later) (by omega)

theorem Consistent.next_cut {left middle right : Moment} {ending : Ending}
    (early : Consistent .finished middle .cut right) (later : Progress middle ending left) :
    Consistent ending left .cut right := by
  cases ending with
  | finished => exact Nat.le_trans early later
  | cut =>
      intro same
      exact absurd (Nat.lt_of_le_of_lt early later) (by omega)

theorem Repeats.consistent {action : Action} {count : Nat} {before left right : Moment}
    {leftEnding rightEnding : Ending} (first : Repeats action count before leftEnding left)
    (second : Repeats action count before rightEnding right) :
    Consistent leftEnding left rightEnding right := by
  induction first with
  | zero =>
      cases second
      exact rfl
  | cut =>
      cases second with
      | cut =>
          intro same
          rfl
      | next later => exact Consistent.cut_next (Nat.le_refl _) later.progress
  | next later ih =>
      cases second with
      | cut => exact Consistent.next_cut (Nat.le_refl _) later.progress
      | next other => exact ih other

/-- Statements are deterministic. -/
theorem Runs.consistent {snapshots : Nat → Readings} {stmt : Stmt} {before left right : Moment}
    {leftEnding rightEnding : Ending} (first : Runs snapshots stmt before leftEnding left)
    (second : Runs snapshots stmt before rightEnding right) :
    Consistent leftEnding left rightEnding right := by
  induction first generalizing rightEnding right with
  | turn acts =>
      cases second with
      | turn others => exact acts.consistent others
  | takeFuel acts =>
      cases second with
      | takeFuel others => exact acts.consistent others
  | shield =>
      cases second
      exact rfl
  | move counted acts =>
      cases second with
      | move otherCounted others =>
          cases counted.symm.trans otherCounted
          exact acts.consistent others
  | wait counted acts =>
      cases second with
      | wait otherCounted others =>
          cases counted.symm.trans otherCounted
          exact acts.consistent others
  | assign computed =>
      cases second with
      | assign otherComputed =>
          cases computed.symm.trans otherComputed
          exact rfl
  | loopCut inside ih =>
      cases second with
      | loopCut other => exact ih other
      | loopNext other again => exact (ih other).cut_next again.progress
  | loopNext early again ihEarly ihAgain =>
      cases second with
      | loopCut other => exact (ihEarly other).next_cut again.progress
      | loopNext other otherAgain =>
          cases ihEarly other
          exact ihAgain otherAgain
  | ifThenTrue holds inside ih =>
      cases second with
      | ifThenTrue _ other => exact ih other
      | ifThenFalse fails => cases holds.symm.trans fails
  | ifThenFalse fails =>
      cases second with
      | ifThenTrue holds other => cases holds.symm.trans fails
      | ifThenFalse _ => exact rfl
  | ifElseTrue holds inside ih =>
      cases second with
      | ifElseTrue _ other => exact ih other
      | ifElseFalse fails other => cases holds.symm.trans fails
  | ifElseFalse fails inside ih =>
      cases second with
      | ifElseTrue holds other => cases holds.symm.trans fails
      | ifElseFalse _ other => exact ih other
  | whileFalse fails =>
      cases second with
      | whileFalse _ => exact rfl
      | whileCut holds other => cases holds.symm.trans fails
      | whileNext holds other again => cases holds.symm.trans fails
  | whileCut holds inside ih =>
      cases second with
      | whileFalse fails => cases holds.symm.trans fails
      | whileCut _ other => exact ih other
      | whileNext _ other again => exact (ih other).cut_next again.progress
  | whileNext holds early again ihEarly ihAgain =>
      cases second with
      | whileFalse fails => cases holds.symm.trans fails
      | whileCut _ other => exact (ihEarly other).next_cut again.progress
      | whileNext _ other otherAgain =>
          cases ihEarly other
          exact ihAgain otherAgain
  | blockLast inside ih =>
      cases second with
      | blockLast other => exact ih other
  | blockCut inside ih =>
      cases second with
      | blockCut other => exact ih other
      | blockNext other later => exact (ih other).cut_next later.progress
  | blockNext early later ihEarly ihLater =>
      cases second with
      | blockCut other => exact (ihEarly other).next_cut later.progress
      | blockNext other otherLater =>
          cases ihEarly other
          exact ihLater otherLater

/-- Programs are deterministic. -/
theorem RunsAll.consistent {snapshots : Nat → Readings} {stmts : List Stmt}
    {before left right : Moment} {leftEnding rightEnding : Ending}
    (first : RunsAll snapshots stmts before leftEnding left)
    (second : RunsAll snapshots stmts before rightEnding right) :
    Consistent leftEnding left rightEnding right := by
  induction first with
  | nil =>
      cases second
      exact rfl
  | cut inside =>
      cases second with
      | cut other => exact inside.consistent other
      | next other later => exact (inside.consistent other).cut_next later.progress
  | next early later ih =>
      cases second with
      | cut other => exact (early.consistent other).next_cut later.progress
      | next other otherLater =>
          cases early.consistent other
          exact ih otherLater

end FuelDuel.Execution
