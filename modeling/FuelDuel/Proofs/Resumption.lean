import FuelDuel.Proofs.ActionSlot
import FuelDuel.Proofs.Structured

/-!
Resumed programs. `execute` has no program counter: at every step it rewrites the list of
statements that is left to run, and a tick leaves off wherever its action was. Nevertheless a
program that is run tick by tick does what its structured run does: the residual list after each
step is a continuation of the structured run (`stepStmt_refines`), so after any number of ticks the
effects so far are those of the structured run up to its last action (`ticks_cut_structured_run`).
-/

namespace FuelDuel.Execution

open FuelDuel.Language
open FuelDuel.World

/-! ### Residual programs as continuations -/

/-- Rewriting `stmts` to `residual` between two moments keeps to the structured run of `stmts`:
every run of the residual from the second moment completes one of `stmts` from the first, and if
an action was performed then the second moment is right after it. -/
structure Refines (snapshots : Nat → Readings) (stmts residual : List Stmt)
    (before after : Moment) (acted : Prop) : Prop where
  resume : ∀ {ending final}, RunsAll snapshots residual after ending final →
    RunsAll snapshots stmts before ending final
  cut : acted → RunsAll snapshots stmts before .cut after

namespace Refines

variable {snapshots : Nat → Readings} {stmts middle residual : List Stmt}
  {before between after : Moment} {acted : Prop}

theorem append (refines : Refines snapshots stmts residual before after acted)
    (rest : List Stmt) :
    Refines snapshots (stmts ++ rest) (residual ++ rest) before after acted where
  resume runs := by
    rcases runsAll_append_iff.mp runs with ⟨moment, early, late⟩ | ⟨same, early⟩
    · exact runsAll_append_iff.mpr (.inl ⟨moment, refines.resume early, late⟩)
    · exact runsAll_append_iff.mpr (.inr ⟨same, refines.resume early⟩)
  cut happened := runsAll_append_iff.mpr (.inr ⟨rfl, refines.cut happened⟩)

/-- Steps follow one another as long as no action has been performed. -/
theorem trans {early : Prop} (first : Refines snapshots stmts middle before between early)
    (second : Refines snapshots middle residual between after acted) :
    Refines snapshots stmts residual before after acted where
  resume runs := first.resume (second.resume runs)
  cut happened := first.resume (second.cut happened)

end Refines

/-! ### Recorded views as moments -/

/-- What a recorded view shows of a run that has already done `past` in earlier ticks. -/
def Moment.seen (past : List Effect) (recorded : Recorded View) : Moment :=
  ⟨recorded.world.vars, past ++ recorded.effects⟩

@[simp] theorem seen_wrote (past : List Effect) (recorded : Recorded View) (name : String)
    (value : Int32) :
    Moment.seen past (recorded.extend [.wrote name value]) =
      (Moment.seen past recorded).write name value := by
  simp [Moment.seen, Moment.write, Recorded.extend, replay, Effect.apply, World.store]

@[simp] theorem seen_shielded (past : List Effect) (recorded : Recorded View) (on : Bool) :
    Moment.seen past (recorded.extend [.shielded on]) =
      (Moment.seen past recorded).shield on := by
  simp [Moment.seen, Moment.shield, Recorded.extend, replay, Effect.apply, World.setShield]

@[simp] theorem seen_acted (past : List Effect) (recorded : Recorded View) (action : Action) :
    Moment.seen past (recorded.extend [.acted action]) =
      (Moment.seen past recorded).act action := by
  simp [Moment.seen, Moment.act, Recorded.extend, replay, Effect.apply, World.act]

section Steps

variable {snapshots : Nat → Readings} {past : List Effect} {before after : Recorded View}

/-- The readings of the view are the snapshot that belongs to the actions performed so far. -/
def Synced (snapshots : Nat → Readings) (past : List Effect) (recorded : Recorded View) : Prop :=
  recorded.world.readings = snapshots (Moment.seen past recorded).actions

theorem evalExpr_synced (synced : Synced snapshots past before) (expr : Expr) :
    evalExpr expr before = settle ((Moment.seen past before).value? snapshots expr) before := by
  rw [Moment.value?, ← synced]
  exact evalExpr_steady expr before

theorem evalCond_synced (synced : Synced snapshots past before) (cond : Cond) :
    evalCond cond before = settle ((Moment.seen past before).holds? snapshots cond) before := by
  rw [Moment.holds?, ← synced]
  exact evalCond_steady cond before

/-- A single action is the whole run of its statement. -/
theorem refines_of_repeats_once {stmt : Stmt} {moment : Moment} {action : Action} {acted : Prop}
    (runs : ∀ {ending final}, Repeats action 1 moment ending final →
      Runs snapshots stmt moment ending final) :
    Refines snapshots [stmt] [] moment (moment.act action) acted where
  resume done := by
    cases done
    exact runsAll_singleton_iff.mpr (runs (.next .zero))
  cut _ := runsAll_singleton_iff.mpr (runs .cut)

/-- Performing a counted action once evaluates its count and leaves a literal count if there is
more to do. -/
theorem performCounted_ok (free : World.performed before = none)
    (synced : Synced snapshots past before) {action : Action} {count left : Option Expr}
    (ran : performCounted action count before = .ok left after) :
    ∃ value, (Moment.seen past before).count? snapshots count = some value ∧
      left = (if 1 < value then some (.num (value - 1)) else none) ∧
      after = before.extend [.acted action] := by
  have acts : ∀ {result : Option Expr}, (do perform action; return result) before =
      .ok left after → left = result ∧ after = before.extend [.acted action] := by
    intro result ran
    rw [bind_of_ok (perform_free free)] at ran
    cases ran
    exact ⟨rfl, rfl⟩
  cases count with
  | none => exact ⟨1, rfl, acts ran⟩
  | some expr =>
      obtain ⟨value, computed, ran⟩ := of_bind_settle (evalExpr_synced synced expr) ran
      exact ⟨value, computed, acts ran⟩

/-- A counted statement that has acted once goes on with what is left of its count. -/
theorem counted_refines (free : World.performed before = none)
    (synced : Synced snapshots past before) {action : Action} {make : Option Expr → Stmt}
    (runs_iff : ∀ {count moment ending final}, Runs snapshots (make count) moment ending final ↔
      ∃ value, moment.count? snapshots count = some value ∧
        Repeats action (repetitions value) moment ending final)
    {count left : Option Expr} (ran : performCounted action count before = .ok left after)
    {acted : Prop} :
    Refines snapshots [make count] (left.map fun expr => make (some expr)).toList
      (Moment.seen past before) (Moment.seen past after) acted := by
  obtain ⟨value, counted, rfl, rfl⟩ := performCounted_ok free synced ran
  rw [seen_acted]
  by_cases more : 1 < value
  · have count_eq := repetitions_of_one_lt more
    rw [if_pos more]
    refine ⟨fun runs => ?_, fun _ => ?_⟩
    · obtain ⟨rest, same, acts⟩ := runs_iff.mp (runsAll_singleton_iff.mp runs)
      cases same
      exact runsAll_singleton_iff.mpr
        (runs_iff.mpr ⟨value, counted, by rw [count_eq]; exact .next acts⟩)
    · exact runsAll_singleton_iff.mpr
        (runs_iff.mpr ⟨value, counted, by rw [count_eq]; exact .cut⟩)
  · rw [if_neg more]
    exact refines_of_repeats_once fun acts =>
      runs_iff.mpr ⟨value, counted, repetitions_of_not_one_lt more ▸ acts⟩

end Steps

/-! ### One step -/

mutual

/-- One step of a statement: what is left of it continues its structured run. -/
theorem stepStmt_refines {snapshots : Nat → Readings} {past : List Effect}
    {before after : Recorded View} (free : World.performed before = none)
    (synced : Synced snapshots past before) (stmt : Stmt) {residual : Option Stmt}
    (ran : stepStmt stmt before = .ok residual after) :
    Refines snapshots [stmt] (splice residual []) (Moment.seen past before)
      (Moment.seen past after) (World.performed after ≠ none) := by
  match stmt with
  | .turn way =>
      rw [stepStmt, bind_of_ok (perform_free free)] at ran
      cases ran
      exact seen_acted past before (.turn way) ▸ refines_of_repeats_once .turn
  | .takeFuel =>
      rw [stepStmt, bind_of_ok (perform_free free)] at ran
      cases ran
      exact seen_acted past before .takeFuel ▸ refines_of_repeats_once .takeFuel
  | .shield on =>
      cases ran
      refine ⟨fun done => ?_, fun taken => absurd free taken⟩
      cases done
      exact runsAll_singleton_iff.mpr (seen_shielded past before on ▸ .shield)
  | .move count =>
      obtain ⟨left, performed, same⟩ := map_eq_ok_iff.mp ran
      rw [← same, splice_counted left (by simp)]
      exact counted_refines free synced runs_move_iff performed
  | .wait count =>
      obtain ⟨left, performed, same⟩ := map_eq_ok_iff.mp ran
      rw [← same, splice_counted left (by simp)]
      exact counted_refines free synced runs_wait_iff performed
  | .assign name value =>
      obtain ⟨result, computed, stored⟩ := of_bind_settle (evalExpr_synced synced value) ran
      cases stored
      refine ⟨fun done => ?_, fun taken => absurd free taken⟩
      cases done
      exact runsAll_singleton_iff.mpr (seen_wrote past before name result ▸ .assign computed)
  | .loop body =>
      cases ran
      refine ⟨fun runs => ?_, fun taken => absurd free taken⟩
      rw [splice, List.append_nil, Block.toList_append] at runs
      rcases runsAll_append_iff.mp runs with ⟨middle, first, again⟩ | ⟨rfl, inside⟩
      · exact runsAll_singleton_iff.mpr
          (.loopNext (runs_block_iff.mpr first) (runsAll_singleton_iff.mp again))
      · exact runsAll_singleton_iff.mpr (.loopCut (runs_block_iff.mpr inside))
  | .ifThen cond body =>
      obtain ⟨truth, tested, chosen⟩ := of_bind_settle (evalCond_synced synced cond) ran
      cases chosen
      refine ⟨fun runs => ?_, fun taken => absurd free taken⟩
      cases truth with
      | false =>
          cases runs
          exact runsAll_singleton_iff.mpr (.ifThenFalse tested)
      | true =>
          rw [if_pos rfl, splice, List.append_nil] at runs
          exact runsAll_singleton_iff.mpr (.ifThenTrue tested (runs_block_iff.mpr runs))
  | .ifElse cond body otherwise =>
      obtain ⟨truth, tested, chosen⟩ := of_bind_settle (evalCond_synced synced cond) ran
      cases chosen
      refine ⟨fun runs => ?_, fun taken => absurd free taken⟩
      rw [splice, List.append_nil] at runs
      cases truth with
      | false => exact runsAll_singleton_iff.mpr (.ifElseFalse tested (runs_block_iff.mpr runs))
      | true => exact runsAll_singleton_iff.mpr (.ifElseTrue tested (runs_block_iff.mpr runs))
  | .while cond body =>
      obtain ⟨truth, tested, chosen⟩ := of_bind_settle (evalCond_synced synced cond) ran
      cases chosen
      refine ⟨fun runs => ?_, fun taken => absurd free taken⟩
      cases truth with
      | false =>
          cases runs
          exact runsAll_singleton_iff.mpr (.whileFalse tested)
      | true =>
          rw [if_pos rfl, splice, List.append_nil, Block.toList_append] at runs
          rcases runsAll_append_iff.mp runs with ⟨middle, first, again⟩ | ⟨rfl, inside⟩
          · exact runsAll_singleton_iff.mpr
              (.whileNext tested (runs_block_iff.mpr first) (runsAll_singleton_iff.mp again))
          · exact runsAll_singleton_iff.mpr (.whileCut tested (runs_block_iff.mpr inside))
  | .block body =>
      obtain ⟨left, stepped, same⟩ := map_eq_ok_iff.mp ran
      have refines := stepBlock_refines free synced body stepped
      rw [← same]
      exact ⟨fun runs => runsAll_singleton_iff.mpr (runs_block_iff.mpr (refines.resume runs)),
        fun taken => runsAll_singleton_iff.mpr (runs_block_iff.mpr (refines.cut taken))⟩

/-- One step of a block: what is left of it continues its structured run. -/
theorem stepBlock_refines {snapshots : Nat → Readings} {past : List Effect}
    {before after : Recorded View} (free : World.performed before = none)
    (synced : Synced snapshots past before) (block : Block) {residual : Option Block}
    (ran : stepBlock block before = .ok residual after) :
    Refines snapshots block.toList (splice (residual.map .block) []) (Moment.seen past before)
      (Moment.seen past after) (World.performed after ≠ none) := by
  match block with
  | .single stmt =>
      obtain ⟨left, stepped, same⟩ := map_eq_ok_iff.mp ran
      rw [← same, splice_ofList]
      exact stepStmt_refines free synced stmt stepped
  | .cons stmt rest =>
      obtain ⟨left, stepped, same⟩ := map_eq_ok_iff.mp ran
      rw [← same, splice_ofList, splice_append]
      exact (stepStmt_refines free synced stmt stepped).append rest.toList

end

/-! ### Ticks -/

theorem Synced.extend {snapshots : Nat → Readings} {past : List Effect}
    {recorded : Recorded View} (synced : Synced snapshots past recorded) {effect : Effect}
    (silent : effect.isAction = false) :
    Synced snapshots past (recorded.extend [effect]) := by
  cases effect with
  | wrote name value =>
      rw [Synced, seen_wrote, Moment.actions_write]
      exact synced
  | shielded on =>
      rw [Synced, seen_shielded, Moment.actions_shield]
      exact synced
  | acted action => simp [Effect.isAction] at silent

/-- A step without an action leaves the view in step with the snapshots. -/
theorem stepStmt_synced {snapshots : Nat → Readings} {past : List Effect}
    {before after : Recorded View} (free : World.performed before = none)
    (synced : Synced snapshots past before) {stmt : Stmt} {residual : Option Stmt}
    (ran : stepStmt stmt before = .ok residual after) (stillFree : World.performed after = none) :
    Synced snapshots past after := by
  have outcome := stepStmt_outcome stmt free
  rw [ran] at outcome
  cases outcome with
  | silent => exact synced
  | effective residual effect =>
      rw [Recorded.apply_eq_extend] at stillFree ⊢
      cases effect with
      | wrote name value => exact synced.extend rfl
      | shielded on => exact synced.extend rfl
      | acted action => cases stillFree

/-- The steps of a tick: what is left after them continues the structured run, and if no action
was performed then nothing is left. -/
theorem runSteps_refines {snapshots : Nat → Readings} {past : List Effect}
    {before after : Recorded View} {steps : Nat} {stmts rest : List Stmt}
    (free : World.performed before = none) (synced : stmts ≠ [] → Synced snapshots past before)
    (ran : runSteps steps stmts before = .ok rest after) :
    Refines snapshots stmts rest (Moment.seen past before) (Moment.seen past after)
      (World.performed after ≠ none) ∧ (World.performed after = none → rest = []) := by
  induction steps generalizing stmts before with
  | zero =>
      cases stmts with
      | nil =>
          rw [runSteps_nil] at ran
          cases ran
          exact ⟨⟨id, fun taken => absurd free taken⟩, fun _ => rfl⟩
      | cons stmt others =>
          rw [runSteps_zero stmt others free] at ran
          cases ran
  | succ steps ih =>
      cases stmts with
      | nil =>
          rw [runSteps_nil] at ran
          cases ran
          exact ⟨⟨id, fun taken => absurd free taken⟩, fun _ => rfl⟩
      | cons stmt others =>
          have synced := synced (List.cons_ne_nil stmt others)
          rw [runSteps_succ steps stmt others free, bind_apply] at ran
          cases stepped : stepStmt stmt before with
          | error fault reached =>
              rw [stepped] at ran
              cases ran
          | ok residual reached =>
              rw [stepped] at ran
              have refines : Refines snapshots (stmt :: others) (splice residual others)
                  (Moment.seen past before) (Moment.seen past reached)
                  (World.performed reached ≠ none) := by
                rw [splice_append]
                exact (stepStmt_refines free synced stmt stepped).append others
              by_cases stillFree : World.performed reached = none
              · have synced := stepStmt_synced free synced stepped stillFree
                obtain ⟨later, finished⟩ := ih stillFree (fun _ => synced) ran
                exact ⟨refines.trans later, finished⟩
              · replace ran : runSteps steps (splice residual others) reached = .ok rest after := ran
                rw [runSteps_used steps _ stillFree] at ran
                cases ran
                exact ⟨refines, fun stillFree' => absurd stillFree' stillFree⟩

/-- What one tick of a program has shown: everything it did, what is left of it, and the view at
the end. -/
structure Tick where
  effects : List Effect
  rest : Program
  view : View

/-- Whether an action was performed in the tick. -/
def Tick.acted (tick : Tick) : Bool := tick.view.decision.action.isSome

/-- Runs a program tick by tick. Tick `first` sees snapshot `first`, on a view with a free slot;
each tick takes over the variables and what is left of the program. -/
def playTicks (snapshots : Nat → Readings) :
    (first count : Nat) → Program → Vars → Except Fault (List Tick)
  | _, 0, _, _ => .ok []
  | first, count + 1, program, vars =>
      let view : View := { readings := snapshots first, vars }
      match execute program view with
      | .error fault _ => .error fault
      | .ok rest after => do
          let later ← playTicks snapshots (first + 1) count rest after.vars
          return ⟨effects program view, rest, after⟩ :: later

section Ticks

variable {snapshots : Nat → Readings} {past : List Effect} {vars : Vars} {program rest : Program}
  {after : View} {first : Nat}

/-- One tick: what is left of the program continues its structured run, and if no action was
performed then nothing is left. -/
theorem execute_refines (synced : program.stmts ≠ [] → (Moment.mk vars past).actions = first)
    (ran : execute program ({ readings := snapshots first, vars } : View) = .ok rest after) :
    Refines snapshots program.stmts rest.stmts ⟨vars, past⟩
      ⟨after.vars, past ++ effects program ({ readings := snapshots first, vars } : View)⟩
      (after.decision.action ≠ none) ∧ (after.decision.action = none → rest = .empty) := by
  obtain ⟨recorded, recordedRun, rfl, seen⟩ := to_recorded_ok ran
  obtain ⟨left, steps, rfl⟩ := map_eq_ok_iff.mp recordedRun
  rw [seen]
  have start : Moment.seen past (Recorded.start { readings := snapshots first, vars }) =
      ⟨vars, past⟩ := by
    simp [Moment.seen, Recorded.start]
  have synced : program.stmts ≠ [] →
      Synced snapshots past (Recorded.start { readings := snapshots first, vars }) := by
    intro nonempty
    rw [Synced, start, synced nonempty]
    rfl
  obtain ⟨refines, finished⟩ := runSteps_refines rfl synced steps
  rw [start] at refines
  exact ⟨refines, fun free => congrArg Program.mk (finished free)⟩

/-- A tick adds one action to the run, or none. -/
theorem execute_actions
    (ran : execute program ({ readings := snapshots first, vars } : View) = .ok rest after) :
    (Moment.mk after.vars
      (past ++ effects program ({ readings := snapshots first, vars } : View))).actions =
      (Moment.mk vars past).actions + if after.decision.action.isSome then 1 else 0 := by
  obtain ⟨-, ⟨quiet, action, isQuiet, same, performed⟩ | ⟨isQuiet, performed, -⟩⟩ :=
    (slotRules_of_steady program _).result rfl rest after ran
  · have acted : after.decision.action = some action := performed
    simp [Moment.actions, same, acted, isQuiet.countP_eq_zero, Effect.isAction]
  · have idle : after.decision.action = none := performed
    simp [Moment.actions, idle, isQuiet.countP_eq_zero]

/-- A program with nothing left to run performs no action. -/
theorem stmts_ne_nil_of_acted
    (ran : execute program ({ readings := snapshots first, vars } : View) = .ok rest after)
    (acted : after.decision.action ≠ none) : program.stmts ≠ [] := by
  intro empty
  obtain ⟨left, steps, -⟩ := map_eq_ok_iff.mp ran
  rw [empty, runSteps_nil] at steps
  cases steps
  exact acted rfl

/-- After any number of ticks the effects so far are those of a structured run, observed right
after its last action or at its end. -/
theorem playTicks_refines {count : Nat} {ticks : List Tick}
    (synced : program.stmts ≠ [] → (Moment.mk vars past).actions = first)
    (played : playTicks snapshots first count program vars = .ok ticks) {index : Nat} {tick : Tick}
    (found : ticks[index]? = some tick) :
    let reached : Moment :=
      ⟨tick.view.vars, past ++ (ticks.take (index + 1)).flatMap Tick.effects⟩
    (tick.acted = true → RunsAll snapshots program.stmts ⟨vars, past⟩ .cut reached ∧
      reached.actions = first + index + 1) ∧
    (tick.acted = false → tick.rest = .empty ∧
      RunsAll snapshots program.stmts ⟨vars, past⟩ .finished reached) := by
  induction count generalizing first program vars past ticks index with
  | zero =>
      cases played
      simp at found
  | succ count ih =>
      rw [playTicks] at played
      cases ran : execute program ({ readings := snapshots first, vars } : View) with
      | error fault after => simp [ran] at played
      | ok rest after =>
          simp only [ran] at played
          cases continued : playTicks snapshots (first + 1) count rest after.vars with
          | error fault => simp [continued, bind, Except.bind] at played
          | ok later =>
              simp only [continued, bind, Except.bind, pure, Except.pure, Except.ok.injEq]
                at played
              subst played
              obtain ⟨refines, finished⟩ := execute_refines synced ran
              have counted : (Moment.mk after.vars (past ++ effects program
                  ({ readings := snapshots first, vars } : View))).actions = _ :=
                execute_actions ran
              cases index with
              | zero =>
                  simp only [List.getElem?_cons_zero, Option.some.injEq] at found
                  subst found
                  simp only [Tick.acted, Nat.zero_add, List.take_succ_cons, List.take_zero,
                    List.flatMap_cons, List.flatMap_nil, List.append_nil]
                  constructor
                  · intro acted
                    have performed : after.decision.action ≠ none :=
                      Option.isSome_iff_ne_none.mp acted
                    refine ⟨refines.cut performed, ?_⟩
                    rw [counted, if_pos acted, synced (stmts_ne_nil_of_acted ran performed)]
                  · intro idle
                    have empty := finished (by simpa using idle)
                    subst empty
                    exact ⟨rfl, refines.resume .nil⟩
              | succ index =>
                  have syncedLater : rest.stmts ≠ [] → (Moment.mk after.vars (past ++ effects program
                      ({ readings := snapshots first, vars } : View))).actions = first + 1 := by
                    intro nonempty
                    have performed : after.decision.action ≠ none := by
                      intro idle
                      exact nonempty (congrArg Program.stmts (finished idle))
                    rw [counted, if_pos (Option.isSome_iff_ne_none.mpr performed),
                      synced (stmts_ne_nil_of_acted ran performed)]
                  obtain ⟨whenActed, whenIdle⟩ := ih syncedLater continued found
                  simp only [List.append_assoc] at whenActed whenIdle
                  simp only [List.take_succ_cons, List.flatMap_cons]
                  constructor
                  · intro acted
                    obtain ⟨runs, same⟩ := whenActed acted
                    exact ⟨refines.resume runs, by omega⟩
                  · intro idle
                    obtain ⟨empty, runs⟩ := whenIdle idle
                    exact ⟨empty, refines.resume runs⟩

end Ticks

/-- Running a program tick by tick is its structured run, cut after each action. As long as no tick
fails, consider the effects of the ticks up to any one of them. If that tick performed an action,
they are what the structured run has done when it has performed as many actions; if it performed
none, they are all that the structured run does, and nothing is left of the program. -/
theorem ticks_cut_structured_run {snapshots : Nat → Readings} {program : Program} {vars : Vars}
    {count : Nat} {ticks : List Tick}
    (played : playTicks snapshots 0 count program vars = .ok ticks) {index : Nat} {tick : Tick}
    (found : ticks[index]? = some tick) :
    let reached : Moment := ⟨tick.view.vars, (ticks.take (index + 1)).flatMap Tick.effects⟩
    (tick.acted = true → ∀ moment,
      (RunsAll snapshots program.stmts (.start vars) .cut moment ∧ moment.actions = index + 1) ↔
        moment = reached) ∧
    (tick.acted = false → tick.rest = .empty ∧ ∀ moment,
      RunsAll snapshots program.stmts (.start vars) .finished moment ↔ moment = reached) := by
  have synced : program.stmts ≠ [] → (Moment.mk vars []).actions = 0 := fun _ => rfl
  obtain ⟨whenActed, whenIdle⟩ := playTicks_refines synced played found
  rw [List.nil_append] at whenActed whenIdle
  constructor
  · intro acted moment
    obtain ⟨runs, same⟩ := whenActed acted
    constructor
    · rintro ⟨other, otherSame⟩
      exact other.consistent runs (by omega)
    · rintro rfl
      exact ⟨runs, by omega⟩
  · intro idle
    obtain ⟨empty, runs⟩ := whenIdle idle
    refine ⟨empty, fun moment => ⟨fun other => other.consistent runs, ?_⟩⟩
    rintro rfl
    exact runs

/-- The round of a patrol: move `$x` times, then count up. -/
def patrolRound : Stmt :=
  .while (.compare .lt (.var "x") (.sensor .fuelLeft))
    (.ofCons (.move (some (.var "x"))) [.assign "x" (.binary .add (.var "x") (.num 1))])

/-- Goes on rounds while there is more fuel than `$x`, then raises the shield. -/
def patrol : Program := ⟨[.assign "x" (.num 2), patrolRound, .shield true]⟩

/-- A tank that is empty after two actions. -/
def draining (actions : Nat) : Readings := { fuel := if actions < 2 then 3 else 0 }

/-- The ticks of a patrol on a draining tank: the count of the first round lasts for two of them. -/
def patrolTicks : List Tick :=
  [⟨[.wrote "x" 2, .acted .move],
      ⟨[.move (some (.num 1)), .assign "x" (.binary .add (.var "x") (.num 1)), patrolRound,
        .shield true]⟩,
      ⟨draining 0, ⟨[("x", 2)]⟩, { action := some .move }⟩⟩,
    ⟨[.acted .move],
      ⟨[.assign "x" (.binary .add (.var "x") (.num 1)), patrolRound, .shield true]⟩,
      ⟨draining 1, ⟨[("x", 2)]⟩, { action := some .move }⟩⟩,
    ⟨[.wrote "x" 3, .shielded true], .empty,
      ⟨draining 2, ⟨[("x", 3)]⟩, { shield := some true }⟩⟩]

theorem patrolTicks_cut_structured_run :
    playTicks draining 0 3 patrol .empty = .ok patrolTicks ∧
    (∀ moment, (RunsAll draining patrol.stmts (.start .empty) .cut moment ∧ moment.actions = 2) ↔
      moment = ⟨⟨[("x", 2)]⟩, [.wrote "x" 2, .acted .move, .acted .move]⟩) ∧
    ∀ moment, RunsAll draining patrol.stmts (.start .empty) .finished moment ↔
      moment = ⟨⟨[("x", 3)]⟩,
        [.wrote "x" 2, .acted .move, .acted .move, .wrote "x" 3, .shielded true]⟩ := by
  have played : playTicks draining 0 3 patrol .empty = .ok patrolTicks := by rfl
  have second : patrolTicks[1]? = some _ := rfl
  have third : patrolTicks[2]? = some _ := rfl
  exact ⟨played, (ticks_cut_structured_run played second).1 rfl,
    ((ticks_cut_structured_run played third).2 rfl).2⟩

end FuelDuel.Execution
