import FuelDuel.Language.Prebuilt
import FuelDuel.Proofs.Resumption

/-!
What the prebuilt hunters do in a tick. Each of them reads where the closest barrel is, walks
through a chain of tests, performs one action and is back at its loop (`Rounds`). Which action that
is depends on the offset of the barrel alone, not on the variables with which the tick starts:
`aimed` for the two programs that aim at it, and `approached` for the one that plays for a side
without a program.

One of the programs that aim reads the sensors again at every test, and the other one keeps what it
has read in variables. The world holds still while a program runs, so both see the same offset.
-/

namespace FuelDuel.World

/-- Where the sensors show the closest barrel. -/
def Readings.closest (readings : Readings) : Offset Int :=
  ⟨(readings.sense (.barrel .leftRight) 0).toInt, (readings.sense (.barrel .frontBack) 0).toInt⟩

end FuelDuel.World

namespace FuelDuel.Execution

open FuelDuel.Language
open FuelDuel.Language.Prebuilt
open FuelDuel.World

/-! ### Rules -/

/-- Takes what is on the spot, moves towards what is straight ahead, turns around for what is
straight behind, and turns to the side of everything else. -/
def aimed (offset : Offset Int) : Action :=
  if offset.right = 0 ∧ offset.ahead = 0 then .takeFuel
  else if offset.right = 0 ∧ 0 < offset.ahead then .move
  else if offset.right = 0 ∧ offset.ahead < 0 then .turn .around
  else if offset.right < 0 then .turn .left
  else .turn .right

/-- Takes what is on the spot, turns away from what is beside, moves while there is something ahead,
and turns around for what is behind. -/
def approached (offset : Offset Int) : Action :=
  if offset.right = 0 ∧ offset.ahead = 0 then .takeFuel
  else if offset.ahead = 0 then if 0 < offset.right then .turn .left else .turn .right
  else if 0 < offset.ahead then .move
  else .turn .around

/-! ### Tests -/

/-- The condition has a truth value, which says whether the fact holds. -/
def Tells (readings : Readings) (stored : String → Option Int32) (cond : Cond) (fact : Prop) :
    Prop :=
  ∃ truth, condValue? readings stored cond = some truth ∧ (truth = true ↔ fact)

section Tests

variable {readings : Readings} {stored : String → Option Int32}

/-- A comparison of a known value with zero. -/
theorem tells_compare (op : CompareOp) {expr : Expr} {value : Int32}
    (known : exprValue? readings stored expr = some value) :
    Tells readings stored (.compare op expr zero)
      (match op with
        | .lt => value.toInt < 0
        | .gt => 0 < value.toInt
        | .eq => value.toInt = 0) := by
  refine ⟨evalCompare op value 0, ?_, ?_⟩
  · rw [condValue?, known]
    rfl
  · cases op with
    | lt => simp [evalCompare, Int32.lt_iff_toInt_lt]
    | gt => simp [evalCompare, Int32.lt_iff_toInt_lt]
    | eq => simp [evalCompare, ← Int32.toInt_inj]

theorem Tells.of_fact {cond : Cond} {fact : Prop} (tells : Tells readings stored cond fact)
    (holds : fact) : condValue? readings stored cond = some true := by
  obtain ⟨truth, told, iff⟩ := tells
  rw [told, iff.mpr holds]

theorem Tells.of_not_fact {cond : Cond} {fact : Prop} (tells : Tells readings stored cond fact)
    (fails : ¬fact) : condValue? readings stored cond = some false := by
  obtain ⟨truth, told, iff⟩ := tells
  rw [told, Bool.eq_false_iff.mpr fun true => fails (iff.mp true)]

theorem exprValue?_var {name : String} {value : Int32} (known : stored name = some value) :
    exprValue? readings stored (.var name) = some value := by
  simp [exprValue?, known]

theorem Tells.both {first second : Cond} {firstFact secondFact : Prop}
    (left : Tells readings stored first firstFact)
    (right : Tells readings stored second secondFact) :
    Tells readings stored (both first second) (firstFact ∧ secondFact) := by
  obtain ⟨truth, told, holds⟩ := left
  obtain ⟨otherTruth, otherTold, otherHolds⟩ := right
  refine ⟨truth && otherTruth, ?_, ?_⟩
  · rw [Prebuilt.both, condValue?, told, otherTold]
    rfl
  · rw [Bool.and_eq_true, holds, otherHolds]

end Tests

/-! ### Chains of tests -/

section Chains

variable {W : Type} [SteadyWorld W] {world : W}

/-- Within some steps the statement performs the action, and nothing is left of it. -/
def ComesTo (world : W) (steps : Nat) (stmt : Stmt) (action : Action) : Prop :=
  ∀ more rest, runSteps (steps + more) (stmt :: rest) world = .ok rest (World.act action world)

theorem ComesTo.mono {fewer steps : Nat} {stmt : Stmt} {action : Action}
    (comes : ComesTo world fewer stmt action) (within : fewer ≤ steps) :
    ComesTo world steps stmt action := by
  intro more rest
  have enough : steps + more = fewer + (steps - fewer + more) := by omega
  rw [enough]
  exact comes _ rest

theorem comesTo_of_stepStmt {stmt : Stmt} {action : Action} (free : World.performed world = none)
    (stepped : stepStmt stmt world = .ok none (World.act action world)) :
    ComesTo world 1 stmt action := by
  intro more rest
  rw [Nat.add_comm, runSteps_succ more stmt rest free, bind_of_ok stepped]
  exact runSteps_used more _ (by simp)

theorem comesTo_takeFuel (free : World.performed world = none) :
    ComesTo world 1 .takeFuel .takeFuel :=
  comesTo_of_stepStmt free (bind_of_ok (perform_free free))

theorem comesTo_turn (free : World.performed world = none) (way : Turn) :
    ComesTo world 1 (.turn way) (.turn way) :=
  comesTo_of_stepStmt free (bind_of_ok (perform_free free))

theorem comesTo_move (free : World.performed world = none) :
    ComesTo world 1 (.move none) .move := by
  apply comesTo_of_stepStmt free
  have counted : performCounted (W := W) .move none world = .ok none (World.act .move world) :=
    bind_of_ok (perform_free free)
  exact bind_of_ok counted

theorem evalExpr_of_known {expr : Expr} {value : Int32}
    (known : exprValue? (SteadyWorld.readings world) (World.stored world) expr = some value) :
    evalExpr expr world = .ok value world := by
  rw [evalExpr_steady, known]
  rfl

theorem evalCond_of_told {cond : Cond} {truth : Bool}
    (told : condValue? (SteadyWorld.readings world) (World.stored world) cond = some truth) :
    evalCond cond world = .ok truth world := by
  rw [evalCond_steady, told]
  rfl

/-- One step of a condition picks a branch. -/
theorem runSteps_ifElse {cond : Cond} {truth : Bool}
    (told : condValue? (SteadyWorld.readings world) (World.stored world) cond = some truth)
    (free : World.performed world = none) (steps : Nat) (body otherwise : Block)
    (rest : List Stmt) :
    runSteps (steps + 1) (.ifElse cond body otherwise :: rest) world =
      runSteps steps ((if truth then body else otherwise).toList ++ rest) world := by
  have stepped : stepStmt (.ifElse cond body otherwise) world =
      .ok (some (.block (if truth then body else otherwise))) world :=
    bind_of_ok (evalCond_of_told told)
  rw [runSteps_succ steps _ rest free, bind_of_ok stepped]
  rfl

variable {steps : Nat} {cond : Cond} {fact : Prop} {action : Action}

theorem comesTo_choose {first second : Stmt} {other : Action} [Decidable fact]
    (tells : Tells (SteadyWorld.readings world) (World.stored world) cond fact)
    (free : World.performed world = none)
    (holds : fact → ComesTo world steps first action)
    (fails : ¬fact → ComesTo world steps second other) :
    ComesTo world (steps + 1) (choose cond first second) (if fact then action else other) := by
  intro more rest
  rw [choose, Nat.add_right_comm]
  by_cases holding : fact
  · rw [runSteps_ifElse (tells.of_fact holding) free, if_pos holding]
    exact holds holding more rest
  · rw [runSteps_ifElse (tells.of_not_fact holding) free, if_neg holding]
    exact fails holding more rest

theorem comesTo_ifThen {stmt : Stmt}
    (tells : Tells (SteadyWorld.readings world) (World.stored world) cond fact)
    (free : World.performed world = none) (holds : fact)
    (comes : ComesTo world steps stmt action) :
    ComesTo world (steps + 1) (.ifThen cond (.single stmt)) action := by
  have stepped : stepStmt (.ifThen cond (.single stmt)) world =
      .ok (some (.block (.single stmt))) world :=
    bind_of_ok (evalCond_of_told (tells.of_fact holds))
  intro more rest
  rw [Nat.add_right_comm, runSteps_succ _ _ rest free, bind_of_ok stepped]
  exact comes more rest

/-- The chain of tests that aims, with offsets that may be read anew at every test. -/
theorem comesTo_steer {right ahead : Expr} {columns rows : Int32} {last : Stmt → Stmt}
    (free : World.performed world = none)
    (knownRight : exprValue? (SteadyWorld.readings world) (World.stored world) right = some columns)
    (knownAhead : exprValue? (SteadyWorld.readings world) (World.stored world) ahead = some rows)
    (turns : 0 < columns.toInt → ComesTo world 2 (last (.turn .right)) (.turn .right)) :
    ComesTo world 6 (steer right ahead last) (aimed ⟨columns.toInt, rows.toInt⟩) := by
  have onColumn := tells_compare .eq knownRight
  refine comesTo_choose (onColumn.both (tells_compare .eq knownAhead)) free
    (fun _ => (comesTo_takeFuel free).mono (by decide)) fun away => ?_
  refine comesTo_choose (onColumn.both (tells_compare .gt knownAhead)) free
    (fun _ => (comesTo_move free).mono (by decide)) fun notAhead => ?_
  refine comesTo_choose (onColumn.both (tells_compare .lt knownAhead)) free
    (fun _ => (comesTo_turn free .around).mono (by decide)) fun notBehind => ?_
  refine comesTo_choose (tells_compare .lt knownRight) free
    (fun _ => (comesTo_turn free .left).mono (by decide)) fun notLeft => ?_
  -- What is neither straight on nor to the left is to the right.
  apply turns
  dsimp only at away notAhead notBehind notLeft
  omega

/-- The tests of the program that approaches. -/
theorem comesTo_approach {columns rows : Int32} (free : World.performed world = none)
    (knownRight : exprValue? (SteadyWorld.readings world) (World.stored world) (.var "x") =
      some columns)
    (knownAhead : exprValue? (SteadyWorld.readings world) (World.stored world) (.var "y") =
      some rows) :
    ComesTo world 4 approach (approached ⟨columns.toInt, rows.toInt⟩) := by
  have beside := tells_compare .eq knownAhead
  refine comesTo_choose ((tells_compare .eq knownRight).both beside) free
    (fun _ => (comesTo_takeFuel free).mono (by decide)) fun _ => ?_
  refine comesTo_choose beside free (fun _ => ?_) fun _ => ?_
  · exact comesTo_choose (tells_compare .gt knownRight) free
      (fun _ => comesTo_turn free .left) fun _ => comesTo_turn free .right
  · exact comesTo_choose (tells_compare .gt knownAhead) free
      (fun _ => comesTo_move free) fun _ => comesTo_turn free .around

theorem runSteps_assign {expr : Expr} {value : Int32}
    (known : exprValue? (SteadyWorld.readings world) (World.stored world) expr = some value)
    (free : World.performed world = none) (name : String) (rest : List Stmt) :
    runSteps (steps + 1) (.assign name expr :: rest) world =
      runSteps steps rest (World.store name value world) := by
  have stepped : stepStmt (.assign name expr) world = .ok none (World.store name value world) :=
    bind_of_ok (evalExpr_of_known known)
  rw [runSteps_succ _ _ rest free, bind_of_ok stepped]
  rfl

/-- A while whose condition holds is unrolled in one step. -/
theorem runSteps_while
    (told : condValue? (SteadyWorld.readings world) (World.stored world) cond = some true)
    (free : World.performed world = none) (body : Block) (rest : List Stmt) :
    runSteps (steps + 1) (.while cond body :: rest) world =
      runSteps steps (body.toList ++ .while cond body :: rest) world := by
  have stepped : stepStmt (.while cond body) world =
      .ok (some (.block (body.append (.single (.while cond body))))) world :=
    bind_of_ok (evalCond_of_told told)
  rw [runSteps_succ _ _ rest free, bind_of_ok stepped]
  simp [splice, Block.toList]

end Chains

/-! ### Rounds -/

/-- What a round does: it writes some variables, and then performs one action. -/
def roundEffects (writes : List (String × Int32)) (action : Action) : List Effect :=
  writes.map (fun write => .wrote write.1 write.2) ++ [.acted action]

/-- In a tick on the view the program does a round, and what is left of it is the program itself. -/
def Rounds (program : Program) (view : View) (writes : List (String × Int32)) (action : Action) :
    Prop :=
  execute program (Recorded.start view) =
    .ok program ((Recorded.start view).extend (roundEffects writes action))

/-- The offset of the closest barrel, noted in two variables. -/
def noted (right ahead : String) (readings : Readings) : List (String × Int32) :=
  [(right, readings.sense (.barrel .leftRight) 0), (ahead, readings.sense (.barrel .frontBack) 0)]

section Hunters

variable {view : View} (free : World.performed view = none)

include free

theorem rounds_aimAndGo : Rounds aimAndGo view [] (aimed view.readings.closest) := by
  have start : World.performed (Recorded.start view) = none := free
  have comes : ComesTo (Recorded.start view) 6
      (steer closestRight closestAhead fun turn =>
        .ifThen (.compare .gt closestRight zero) (.single turn)) (aimed view.readings.closest) :=
    comesTo_steer start rfl rfl fun right =>
      comesTo_ifThen (tells_compare .gt rfl) start right (comesTo_turn start .right)
  refine bind_of_ok ?_
  show runSteps (6 + 9993 + 1) _ (Recorded.start view) = _
  rw [aimAndGo, runSteps_loop _ _ _ start]
  exact comes 9993 _

/-- Two assignments of what the sensors show, and then a statement that looks at the variables. -/
theorem runSteps_noted {right ahead : String} (apart : right ≠ ahead) {steps : Nat} {stmt : Stmt}
    {action : Action}
    (comes : ∀ {world : Recorded View}, World.performed world = none →
      exprValue? (SteadyWorld.readings world) (World.stored world) (.var right) =
        some (view.readings.sense (.barrel .leftRight) 0) →
      exprValue? (SteadyWorld.readings world) (World.stored world) (.var ahead) =
        some (view.readings.sense (.barrel .frontBack) 0) →
      ComesTo world steps stmt action) (more : Nat) (rest : List Stmt) :
    runSteps (steps + more + 2)
        (.assign right closestRight :: .assign ahead closestAhead :: stmt :: rest)
        (Recorded.start view) =
      .ok rest ((Recorded.start view).extend
        (roundEffects (noted right ahead view.readings) action)) := by
  let start : Recorded View := .start view
  let once := start.extend [.wrote right (view.readings.sense (.barrel .leftRight) 0)]
  let twice := once.extend [.wrote ahead (view.readings.sense (.barrel .frontBack) 0)]
  have startFree : World.performed start = none := free
  have onceFree : World.performed once = none := free
  have twiceFree : World.performed twice = none := free
  have readRight : World.stored twice right =
      some (view.readings.sense (.barrel .leftRight) 0) := by
    show ((view.vars.set right _).set ahead _).get? right = _
    rw [Vars.get?_set, if_neg apart, Vars.get?_set, if_pos rfl]
  have readAhead : World.stored twice ahead =
      some (view.readings.sense (.barrel .frontBack) 0) := by
    show ((view.vars.set right _).set ahead _).get? ahead = _
    rw [Vars.get?_set, if_pos rfl]
  rw [runSteps_assign rfl startFree]
  show runSteps _ _ once = _
  rw [runSteps_assign rfl onceFree]
  show runSteps _ _ twice = _
  rw [comes twiceFree (exprValue?_var readRight) (exprValue?_var readAhead)]
  show _ = EStateM.Result.ok rest (start.extend ([_] ++ [_] ++ [_]))
  rw [← Recorded.extend_extend, ← Recorded.extend_extend]
  rfl

/-- The sensors are read once, and all tests look at the variables. -/
theorem rounds_aimAndGoLocVar :
    Rounds aimAndGoLocVar view (noted "lr" "fb" view.readings) (aimed view.readings.closest) := by
  have start : World.performed (Recorded.start view) = none := free
  refine bind_of_ok ?_
  show runSteps (6 + 9991 + 2 + 1) _ (Recorded.start view) = _
  rw [aimAndGoLocVar, runSteps_loop _ _ _ start, Block.toList_ofCons]
  apply runSteps_noted free (by decide)
  intro world free knownRight knownAhead
  exact comesTo_steer free knownRight knownAhead fun _ =>
    (comesTo_turn free .right).mono (by decide)

/-- While there is fuel and a barrel in sight, the offset is noted and approached. -/
theorem rounds_fallback (fuelled : 0 < view.readings.fuel.toInt)
    (sighted : (Int32.ofNat view.readings.barrels.length).toInt ≠ 0) :
    Rounds fallback view (noted "x" "y" view.readings) (approached view.readings.closest) := by
  have start : World.performed (Recorded.start view) = none := free
  have hungry : Tells view.readings (World.stored (Recorded.start view))
      (.compare .gt (.sensor .fuelLeft) zero) (0 < view.readings.fuel.toInt) :=
    tells_compare .gt rfl
  have alone : Tells view.readings (World.stored (Recorded.start view))
      (.compare .eq (.sensor .numBarrels) zero)
      ((Int32.ofNat view.readings.barrels.length).toInt = 0) := tells_compare .eq rfl
  refine bind_of_ok ?_
  show runSteps (4 + 9992 + 2 + 1 + 1) _ (Recorded.start view) = _
  rw [fallback, runSteps_while (hungry.of_fact fuelled) start, Block.toList,
    List.singleton_append, runSteps_ifElse (alone.of_not_fact sighted) start]
  apply runSteps_noted free (by decide)
  intro world free knownRight knownAhead
  exact comesTo_approach free knownRight knownAhead

end Hunters

section Ticks

variable {program : Program} {view : View} {writes : List (String × Int32)} {action : Action}

theorem decision_replay_writes (writes : List (String × Int32)) (view : View) :
    (replay (writes.map fun write => .wrote write.1 write.2) view).decision = view.decision := by
  induction writes generalizing view with
  | nil => rfl
  | cons write writes ih => exact ih _

/-- What a round leaves behind, and what it has done. -/
theorem Rounds.ran (rounds : Rounds program view writes action) :
    effects program view = roundEffects writes action ∧
      ∃ after, execute program view = .ok program after ∧
        after.decision = { view.decision with action := some action } := by
  obtain ⟨plain, seen⟩ := of_recorded_ok rounds
  refine ⟨seen, _, plain, ?_⟩
  show (replay (roundEffects writes action) view).decision = _
  rw [replay, roundEffects, List.foldl_append]
  show { (replay _ view).decision with action := some action } = _
  rw [decision_replay_writes]

/-- A program that does a round in every tick goes on doing so, whatever the readings. -/
theorem playTicks_of_rounds (writes : Readings → List (String × Int32))
    (action : Readings → Action)
    (rounds : ∀ view : View, World.performed view = none →
      Rounds program view (writes view.readings) (action view.readings))
    (snapshots : Nat → Readings) (first count : Nat) (vars : Vars) :
    ∃ ticks, playTicks snapshots first count program vars = .ok ticks ∧
      ticks.map (fun tick => (tick.effects, tick.rest)) =
        (List.range' first count).map fun index =>
          (roundEffects (writes (snapshots index)) (action (snapshots index)), program) := by
  induction count generalizing first vars with
  | zero => exact ⟨[], rfl, rfl⟩
  | succ count ih =>
      obtain ⟨did, after, ran, -⟩ := (rounds { readings := snapshots first, vars } rfl).ran
      obtain ⟨later, played, listed⟩ := ih (first + 1) after.vars
      refine ⟨⟨effects program ({ readings := snapshots first, vars } : View), program, after⟩ ::
        later, ?_, ?_⟩
      · simp only [playTicks, ran, played]
        rfl
      · rw [List.map_cons, List.range'_succ, List.map_cons, listed, did]

end Ticks

end FuelDuel.Execution
