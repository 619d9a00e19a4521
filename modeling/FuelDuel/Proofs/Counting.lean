import FuelDuel.Proofs.Performing
import FuelDuel.Proofs.Structured

/-!
Counted actions. A counted move or wait evaluates its count in its first tick and acts once in it;
what is left of it is the same statement with a literal count that is one less, and nothing once
the count has come down to one (`Counted.stepStmt_apply`). The literal counts that follow read
nothing, so the ticks after the first one are a performance (`Counted.performs_some`,
`Counted.performs_all`).
-/

namespace FuelDuel.Execution

open FuelDuel.Language
open FuelDuel.World

/-- The statements that take a count, each with the action that it repeats. -/
inductive Counted : Action → (Option Expr → Stmt) → Prop where
  | move : Counted .move .move
  | wait : Counted .wait .wait

/-- What is left of a counted statement that has acted once. -/
def countedLeft (make : Option Expr → Stmt) (value : Int32) : Option Stmt :=
  if 1 < value then some (make (some (.num (value - 1)))) else none

theorem one_lt_of_repetitions {value : Int32} (more : 1 < repetitions value) : 1 < value := by
  by_cases above : 1 < value
  · exact above
  · rw [repetitions_of_not_one_lt above] at more
    exact absurd more (Nat.lt_irrefl 1)

namespace Counted

variable {action : Action} {make : Option Expr → Stmt}

/-! ### One step -/

theorem stepStmt_eq (counted : Counted action make) {W : Type} [World W] (count : Option Expr) :
    (stepStmt (make count) : Run W (Option Stmt)) =
      do return (← performCounted action count).map fun left => make (some left) := by
  cases counted with
  | move => rw [stepStmt]
  | wait => rw [stepStmt]

/-- The residual of a counted statement is spliced as it is. -/
theorem splice_left (counted : Counted action make) (value : Int32) (rest : List Stmt) :
    splice (countedLeft make value) rest =
      if 1 < value then make (some (.num (value - 1))) :: rest else rest := by
  unfold countedLeft
  split
  · cases counted with
    | move => rfl
    | wait => rfl
  · rfl

/-- A step of a counted statement evaluates the count, which leaves the slot free, and acts. -/
theorem stepStmt_apply (counted : Counted action make) {W : Type} [World W] {count : Expr}
    {world settled : W} {value : Int32} (evaluates : evalExpr count world = .ok value settled)
    (free : World.performed settled = none) :
    stepStmt (make (some count)) world =
      .ok (countedLeft make value) (World.act action settled) := by
  have acted : performCounted action (some count) world =
      .ok (if 1 < value then some (.num (value - 1)) else none) (World.act action settled) :=
    (bind_of_ok evaluates).trans (bind_of_ok (perform_free free))
  rw [counted.stepStmt_eq, bind_of_ok acted]
  unfold countedLeft
  split <;> rfl

/-- A literal count is not read off the world. -/
theorem stepActs_literal (counted : Counted action make) (value : Int32) :
    StepActs action (make (some (.num value))) (countedLeft make value) :=
  fun _ _ _ _ free => counted.stepStmt_apply rfl free

/-- Without a count there is one action. -/
theorem stepActs_single (counted : Counted action make) : StepActs action (make none) none := by
  intro W _ _ world free
  have acted : performCounted action none world = .ok none (World.act action world) :=
    (bind_of_ok rfl).trans (bind_of_ok (perform_free free))
  rw [counted.stepStmt_eq, bind_of_ok acted]
  rfl

/-! ### Literal counts -/

theorem actsNext_more (counted : Counted action make) {value : Int32} (more : 1 < value)
    (rest : List Stmt) :
    ActsNext action ⟨make (some (.num value)) :: rest⟩
      ⟨make (some (.num (value - 1))) :: rest⟩ := by
  have acts := (counted.stepActs_literal value).actsNext rest
  rwa [counted.splice_left, if_pos more] at acts

theorem actsNext_last (counted : Counted action make) {value : Int32} (last : ¬1 < value)
    (rest : List Stmt) : ActsNext action ⟨make (some (.num value)) :: rest⟩ ⟨rest⟩ := by
  have acts := (counted.stepActs_literal value).actsNext rest
  rwa [counted.splice_left, if_neg last] at acts

/-- Before its last repetition a literal count has gone down by one for each action. -/
theorem performs_some (counted : Counted action make) (rest : List Stmt) {value : Int32}
    {ticks : Nat} (within : ticks < repetitions value) :
    ∃ left : Int32, left.toInt = value.toInt - ticks ∧
      Performs (List.replicate ticks action) ⟨make (some (.num value)) :: rest⟩
        ⟨make (some (.num left)) :: rest⟩ := by
  induction ticks generalizing value with
  | zero => exact ⟨value, by simp, .nil _⟩
  | succ ticks ih =>
      have more : 1 < value := one_lt_of_repetitions (by omega)
      have fewer : ticks < repetitions (value - 1) := by
        have count := repetitions_of_one_lt more
        omega
      obtain ⟨left, same, performs⟩ := ih fewer
      refine ⟨left, ?_, .cons (counted.actsNext_more more rest) performs⟩
      rw [same, toInt_sub_one more]
      omega

/-- A literal count is performed as often as it says. -/
theorem performs_all (counted : Counted action make) (rest : List Stmt) (value : Int32) :
    Performs (List.replicate (repetitions value) action) ⟨make (some (.num value)) :: rest⟩
      ⟨rest⟩ := by
  have positive : 1 ≤ repetitions value := Nat.le_max_left _ _
  have within : repetitions value - 1 < repetitions value := by omega
  obtain ⟨left, same, performs⟩ := counted.performs_some rest within
  have last : ¬1 < left := by
    intro more
    have above : (1 : Int) < left.toInt := Int32.lt_iff_toInt_lt.mp more
    unfold repetitions at same
    omega
  have whole := performs.append (.cons (counted.actsNext_last last rest) (.nil _))
  rwa [← List.replicate_succ', Nat.sub_add_cancel positive] at whole

/-- What is left of a counted statement after its first tick and some more. -/
theorem performs_left (counted : Counted action make) (rest : List Stmt) {value : Int32}
    {later : Nat} (within : later < repetitions value) :
    ∃ left, Performs (List.replicate later action) ⟨splice (countedLeft make value) rest⟩ left ∧
      (later + 1 < repetitions value → ∃ remaining : Int32,
        remaining.toInt = value.toInt - (later + 1) ∧
          left = ⟨make (some (.num remaining)) :: rest⟩) ∧
      (later + 1 = repetitions value → left = ⟨rest⟩) := by
  rw [counted.splice_left]
  by_cases more : 1 < value
  · have count := repetitions_of_one_lt more
    rw [if_pos more]
    by_cases last : later + 1 = repetitions value
    · have same : later = repetitions (value - 1) := by omega
      rw [same]
      exact ⟨_, counted.performs_all rest (value - 1), by omega, fun _ => rfl⟩
    · have fewer : later < repetitions (value - 1) := by omega
      obtain ⟨remaining, same, performs⟩ := counted.performs_some rest fewer
      rw [toInt_sub_one more] at same
      exact ⟨_, performs, fun _ => ⟨remaining, by omega, rfl⟩, fun all => absurd all last⟩
  · have single := repetitions_of_not_one_lt more
    rw [if_neg more]
    obtain rfl : later = 0 := by omega
    exact ⟨_, .nil _, by omega, fun _ => rfl⟩

end Counted

/-! ### The first tick -/

/-- Whether a deed is the reading of a sensor. -/
def Deed.isReading : Deed → Bool
  | .sensed .. => true
  | .did _ => false

section Readings

variable {W : Type} [World W] {world settled : W} {expr : Expr} {value : Int32}

/-- What the evaluation of an expression reads, in order. -/
def glances (expr : Expr) (world : W) : List Deed :=
  (reached (evalExpr expr (Watched.start world))).deeds

theorem evalExpr_watched (evaluates : evalExpr expr world = .ok value settled) :
    evalExpr expr (Watched.start world) = .ok value ⟨settled, glances expr world⟩ := by
  have same : Agree (fun (watched : Watched W) world => watched.world = world)
      (evalExpr expr (Watched.start world)) (evalExpr expr world) :=
    watched_simulation.evalExpr expr rfl
  unfold glances
  generalize evalExpr expr (Watched.start world) = watched at same ⊢
  rw [evaluates] at same
  cases same with
  | ok value equal =>
      cases equal
      rfl

/-- Nothing has been noted of a watched world but readings. -/
def OnlyReadings (watched : Watched W) : Prop := ∀ deed ∈ watched.deeds, deed.isReading = true

omit [World W] in
theorem onlyReadings_start : OnlyReadings (Watched.start world) := by
  simp [OnlyReadings, Watched.start]

theorem OnlyReadings.sense {gauge : Sensor} {index : Nat} {watched after : Watched W}
    (shown : World.sense gauge index watched = .ok value after) (before : OnlyReadings watched) :
    OnlyReadings after := by
  simp only [World.sense] at shown
  cases answered : World.sense gauge index watched.world with
  | error fault reached =>
      rw [answered] at shown
      cases shown
  | ok answer reached =>
      rw [answered] at shown
      cases shown
      intro deed member
      rcases List.mem_append.mp member with early | last
      · exact before deed early
      · rw [List.mem_singleton.mp last]
        rfl

/-- Evaluation does nothing but read sensors. -/
theorem isReading_of_mem_glances (evaluates : evalExpr expr world = .ok value settled) :
    ∀ deed ∈ glances expr world, deed.isReading = true := by
  have read := evalExpr_watched evaluates
  show OnlyReadings (Watched.mk settled (glances expr world))
  exact evalExpr_keeps OnlyReadings OnlyReadings.sense read onlyReadings_start

end Readings

/-- Counted actions. If the count of a move or a wait evaluates to a value in a tick, the statement
acts in that tick and in all later ones up to as many as the value says, and in one if the value is
not positive. It does nothing else in them but read the sensors of its count, in the first of them.
Before the last of them a literal count is left that is less by the number of ticks, and after the
last of them what follows the statement is left. -/
theorem counted_actions_repeat {W : Type} [World W] [LawfulWorld W] {action : Action}
    {make : Option Expr → Stmt} (counted : Counted action make) {count : Expr} {world settled : W}
    {value : Int32} (free : World.performed world = none)
    (evaluates : evalExpr count world = .ok value settled) (rest : List Stmt)
    {renew : Nat → W → W} (frees : ∀ tick reached, World.performed (renew tick reached) = none)
    {ticks : Nat} (started : 1 ≤ ticks) (within : ticks ≤ repetitions value) :
    (course renew ticks ⟨make (some count) :: rest⟩ world).deeds =
      (glances count world ++ [.did (.acted action)]) ::
        List.replicate (ticks - 1) [.did (.acted action)] ∧
    (∀ deed ∈ glances count world, deed.isReading = true) ∧
    ∃ left, (course renew ticks ⟨make (some count) :: rest⟩ world).ending =
        .ok left (actThrough renew (List.replicate ticks action) settled) ∧
      (ticks < repetitions value → ∃ remaining : Int32,
        remaining.toInt = value.toInt - ticks ∧
          left = ⟨make (some (.num remaining)) :: rest⟩) ∧
      (ticks = repetitions value → left = ⟨rest⟩) := by
  obtain ⟨later, rfl⟩ : ∃ later, ticks = later + 1 := ⟨ticks - 1, by omega⟩
  have settledFree : World.performed settled = none :=
    (evalExpr_performed evaluates).trans free
  have ran := execute_of_stepStmt free (counted.stepStmt_apply evaluates settledFree)
    (performed_act_ne_none action settled) rest
  have watchedFree : World.performed (Watched.mk settled (glances count world)) = none :=
    settledFree
  have startFree : World.performed (Watched.start world) = none := free
  have watched := execute_of_stepStmt startFree
    (counted.stepStmt_apply (evalExpr_watched evaluates) watchedFree)
    (performed_act_ne_none action _) rest
  have first : deeds ⟨make (some count) :: rest⟩ world =
      glances count world ++ [.did (.acted action)] := by
    rw [deeds, watched]
    rfl
  obtain ⟨left, performs, remains⟩ := counted.performs_left rest within
  have next := performs.course (fun tick => frees (tick + 1))
    (frees 0 (World.act action settled))
  rw [List.length_replicate, List.map_replicate] at next
  rw [course_of_ok ran, first, next]
  exact ⟨rfl, isReading_of_mem_glances evaluates, left, rfl, remains⟩

/-- Three units of fuel and then nothing: a scripted world that can be asked once. -/
def onceAsked : Scripted := { outputs := [3] }

/-- The sensor of a count is read once, although there are five ticks. -/
theorem counted_actions_repeat_of_onceAsked :
    let program : Program :=
      ⟨[.wait (some (.binary .add (.sensor .fuelLeft) (.num 2))), .turn .left]⟩
    let renew : Nat → Scripted → Scripted := fun _ => Scripted.freeSlot
    repetitions 5 = 5 ∧
    (course renew 5 program onceAsked).deeds =
      [.sensed .fuelLeft 0 (some 3), .did (.acted .wait)] ::
        List.replicate 4 [.did (.acted .wait)] ∧
    ∃ world, (course renew 5 program onceAsked).ending = .ok ⟨[.turn .left]⟩ world := by
  intro program renew
  have evaluates : evalExpr (.binary .add (.sensor .fuelLeft) (.num 2)) onceAsked =
      .ok 5 { outputs := [], log := [.sensed .fuelLeft 0 3] } := by rfl
  have frees : ∀ tick world, World.performed (renew tick world) = none := fun _ _ => rfl
  have started : 1 ≤ 5 := by decide
  obtain ⟨told, -, left, ended, -, last⟩ :=
    counted_actions_repeat .wait rfl evaluates [.turn .left] frees started (by decide)
  rw [last (by decide)] at ended
  exact ⟨by decide, told, _, ended⟩

end FuelDuel.Execution
