import FuelDuel.Proofs.Simulation
import FuelDuel.Proofs.SteadyWorld
import FuelDuel.World.Scripted

/-!
The order of sensor readings. Where an expression or a condition reads its sensors can be told from
its tree (`looks`): from left to right, those in a barrel index before the barrel. A scripted world
makes the order visible, since each reading uses up an answer and leaves an entry in the log. With
an answer for every look, an evaluation uses up exactly as many answers as there are looks and
leaves their entries in their order, whatever the answers are; if it divides by zero, it leaves the
first of these entries (`sensors_are_read_left_to_right`).
-/

namespace FuelDuel.Language

/-- A place where a sensor is read, and the expression of the barrel index if it has one. -/
structure Look where
  gauge : Sensor
  index : Option Expr
  deriving DecidableEq, Repr

/-- The places where an expression reads a sensor, from left to right. Those in a barrel index stand
before the barrel itself. -/
def Expr.looks : Expr → List Look
  | .num _ => []
  | .var _ => []
  | .binary _ left right => left.looks ++ right.looks
  | .sensor gauge => [⟨gauge, none⟩]
  | .barrelAt axis index => index.looks ++ [⟨.barrel axis, some index⟩]

/-- The places where a condition reads a sensor, from left to right. -/
def Cond.looks : Cond → List Look
  | .compare _ left right => left.looks ++ right.looks
  | .connect _ left right => left.looks ++ right.looks
  | .not inner => inner.looks

end FuelDuel.Language

namespace FuelDuel.World

open FuelDuel.Execution
open FuelDuel.Language

namespace Scripted

/-- The world after `position` readings that have left the given entries. -/
def past (origin : Scripted) (position : Nat) (entries : List LogEntry) : Scripted :=
  { origin with outputs := origin.outputs.drop position, log := origin.log ++ entries }

/-- The barrel that the look at a position of the traversal is about. The expression of its index is
evaluated on the answers to its own looks, which are the ones just before; a negative value counts
as zero. -/
def shownIndex? (origin : Scripted) (position : Nat) : Option Expr → Option Nat
  | none => some 0
  | some index =>
      match evalExpr index (origin.past (position - index.looks.length) []) with
      | .ok value _ => some (max 0 value.toInt).toNat
      | .error _ _ => none

/-- The entry that the look at a position of the traversal leaves: it shows the answer at that
position. -/
def entry? (origin : Scripted) (position : Nat) (look : Look) : Option LogEntry := do
  let index ← origin.shownIndex? position look.index
  let answer ← origin.outputs[position]?
  return .sensed look.gauge index answer

/-- The entries that looks leave if the first of them is at the given position. -/
def entriesFrom (origin : Scripted) (position : Nat) (looks : List Look) :
    List (Option LogEntry) :=
  looks.mapIdx fun offset look => origin.entry? (position + offset) look

variable {origin : Scripted} {position : Nat} {entries : List LogEntry}

theorem past_zero (origin : Scripted) : origin.past 0 [] = origin := by
  simp [past]

@[simp] theorem length_entriesFrom (looks : List Look) :
    (origin.entriesFrom position looks).length = looks.length := by
  simp [entriesFrom]

theorem entriesFrom_append (front back : List Look) :
    origin.entriesFrom position (front ++ back) =
      origin.entriesFrom position front ++ origin.entriesFrom (position + front.length) back := by
  simp [entriesFrom, List.mapIdx_append, Nat.add_left_comm, Nat.add_comm]

/-- A reading uses up the answer at its position. -/
theorem read_past (gauge : Sensor) (index : Nat) {answer : Int32}
    (answered : origin.outputs[position]? = some answer) :
    read gauge index (origin.past position entries) =
      .ok answer (origin.past (position + 1) (entries ++ [.sensed gauge index answer])) := by
  obtain ⟨within, rfl⟩ := List.getElem?_eq_some_iff.mp answered
  have next : origin.outputs.drop position =
      origin.outputs[position] :: origin.outputs.drop (position + 1) :=
    List.drop_eq_getElem_cons within
  simp only [read, past, next, record, List.append_assoc]

/-- Programs cannot read the log. -/
theorem log_simulation :
    Simulation fun left right : Scripted => { left with log := right.log } = right where
  performed same := by rw [← same]; rfl
  stored same name := by rw [← same]; rfl
  store same name value := by rw [← same]; rfl
  setShield same on := by rw [← same]; rfl
  act same action := by rw [← same]; rfl
  sense := by
    rintro ⟨outputs, log, vars, performed⟩ ⟨_, otherLog, _, _⟩ same gauge index
    cases same
    cases outputs with
    | nil => exact .error _ rfl
    | cons answer later => exact .ok answer rfl

/-- The value of an expression is the same without the entries in the log. -/
theorem evalExpr_past {expr : Expr} {value : Int32} {after : Scripted}
    (ran : evalExpr expr (origin.past position entries) = .ok value after) :
    ∃ other, evalExpr expr (origin.past position []) = .ok value other := by
  have same := log_simulation.evalExpr expr
    (show { origin.past position entries with log := (origin.past position []).log } =
      origin.past position [] from rfl)
  rw [ran] at same
  generalize evalExpr expr (origin.past position []) = result at same ⊢
  cases same with
  | ok value equal => exact ⟨_, rfl⟩

end Scripted

end FuelDuel.World

namespace FuelDuel.Execution

open FuelDuel.Language
open FuelDuel.World

section Traversals

variable {α β : Type} {origin : Scripted} {start : Nat} {earlier : List LogEntry}
  {looks front back : List Look}

/-- What an evaluation whose first look is at position `start` comes to: a value, after all of its
looks, or a division by zero, after some of them. -/
inductive Traversal (origin : Scripted) (start : Nat) (earlier : List LogEntry)
    (looks : List Look) : EStateM.Result Fault Scripted α → Prop where
  | whole (value : α) (entries : List LogEntry) {after : Scripted}
      (same : entries.map some = origin.entriesFrom start looks)
      (reached : after = origin.past (start + looks.length) (earlier ++ entries)) :
      Traversal origin start earlier looks (.ok value after)
  | part (entries : List LogEntry) {after : Scripted}
      (cut : entries.map some <+: origin.entriesFrom start looks)
      (reached : after = origin.past (start + entries.length) (earlier ++ entries)) :
      Traversal origin start earlier looks (.error .divisionByZero after)

namespace Traversal

/-- Nothing is read. -/
theorem nil (value? : Option α) :
    Traversal origin start earlier [] (settle value? (origin.past start earlier)) := by
  have nothing : ([] : List LogEntry).map some = origin.entriesFrom start [] := rfl
  have here : origin.past start earlier =
      origin.past (start + ([] : List LogEntry).length) (earlier ++ []) := by
    rw [List.append_nil, List.length_nil, Nat.add_zero]
  cases value? with
  | none => exact .part [] (List.nil_prefix) here
  | some value => exact .whole value [] nothing here

/-- A reading of a sensor about the barrel that the look shows. -/
theorem single {look : Look} {index : Nat}
    (shown : origin.shownIndex? start look.index = some index)
    (enough : start < origin.outputs.length) :
    Traversal origin start earlier [look]
      (World.sense look.gauge index (origin.past start earlier)) := by
  have answered : origin.outputs[start]? = some origin.outputs[start] :=
    List.getElem?_eq_getElem enough
  have entry : origin.entry? start look =
      some (.sensed look.gauge index origin.outputs[start]) := by
    rw [Scripted.entry?, shown, answered]
    rfl
  have read : World.sense look.gauge index (origin.past start earlier) = _ :=
    Scripted.read_past look.gauge index answered
  rw [read]
  refine .whole _ [.sensed look.gauge index origin.outputs[start]] ?_ rfl
  exact congrArg (fun first => [first]) entry.symm

theorem bind {run : Run Scripted α} {next : α → Run Scripted β} {world : Scripted}
    (first : Traversal origin start earlier front (run world))
    (later : ∀ {value entries},
      run world = .ok value (origin.past (start + front.length) (earlier ++ entries)) →
      Traversal origin (start + front.length) (earlier ++ entries) back
        (next value (origin.past (start + front.length) (earlier ++ entries)))) :
    Traversal origin start earlier (front ++ back) ((run >>= next) world) := by
  rw [bind_apply]
  generalize run world = result at first later
  cases first with
  | whole value entries same reached =>
      subst reached
      have further := later rfl
      change Traversal origin start earlier (front ++ back) (next value _)
      generalize next value _ = outcome at further ⊢
      cases further with
      | whole result others sameOthers reached =>
          refine .whole result (entries ++ others) ?_ ?_
          · rw [List.map_append, same, sameOthers, Scripted.entriesFrom_append]
          · rw [reached, List.length_append, Nat.add_assoc, List.append_assoc]
      | part others cut reached =>
          refine .part (entries ++ others) ?_ ?_
          · rw [List.map_append, same, Scripted.entriesFrom_append, List.prefix_append_right_inj]
            exact cut
          · have length : entries.length = front.length := by
              simpa using congrArg List.length same
            rw [reached, List.length_append, Nat.add_assoc, List.append_assoc, length]
  | part entries cut reached =>
      refine .part entries ?_ reached
      rw [Scripted.entriesFrom_append]
      exact cut.trans (List.prefix_append _ _)

theorem map {run : Run Scripted α} {world : Scripted}
    (first : Traversal origin start earlier looks (run world)) (f : α → β) :
    Traversal origin start earlier looks ((do return f (← run)) world) := by
  rw [bind_apply]
  generalize run world = result at first
  cases first with
  | whole value entries same reached => exact .whole (f value) entries same reached
  | part entries cut reached => exact .part entries cut reached

end Traversal

/-- The index of a barrel is shown as it is evaluated just before. -/
theorem shownIndex?_of_ok {index : Expr} {value : Int32} {after : Scripted}
    (ran : evalExpr index (origin.past start earlier) = .ok value after) :
    origin.shownIndex? (start + index.looks.length) (some index) = some (barrelIndex value) := by
  obtain ⟨other, alone⟩ := Scripted.evalExpr_past ran
  have clamped : (max 0 value.toInt).toNat = barrelIndex value := by
    rw [barrelIndex]
    omega
  rw [Scripted.shownIndex?, Nat.add_sub_cancel, alone]
  exact congrArg some clamped

theorem evalExpr_traverses (origin : Scripted) (expr : Expr) (start : Nat)
    (earlier : List LogEntry) (enough : start + expr.looks.length ≤ origin.outputs.length) :
    Traversal origin start earlier expr.looks (evalExpr expr (origin.past start earlier)) := by
  induction expr generalizing start earlier with
  | num value => exact .nil (some value)
  | var name => exact .nil (some _)
  | binary op left right ihLeft ihRight =>
      rw [Expr.looks, List.length_append] at enough
      apply (ihLeft start earlier (by omega)).bind
      intro leftValue entries _
      rw [← List.append_nil right.looks]
      apply (ihRight _ _ (by omega)).bind
      intro rightValue others _
      rw [evalBinary_settle]
      exact .nil _
  | sensor gauge =>
      have shown : origin.shownIndex? start none = some 0 := rfl
      exact .single shown enough
  | barrelAt axis index ih =>
      rw [Expr.looks, List.length_append, List.length_singleton] at enough
      apply (ih start earlier (by omega)).bind
      intro value entries ran
      exact .single (shownIndex?_of_ok ran) (by omega)

theorem evalCond_traverses (origin : Scripted) (cond : Cond) (start : Nat)
    (earlier : List LogEntry) (enough : start + cond.looks.length ≤ origin.outputs.length) :
    Traversal origin start earlier cond.looks (evalCond cond (origin.past start earlier)) := by
  induction cond generalizing start earlier with
  | compare op left right =>
      rw [Cond.looks, List.length_append] at enough
      apply (evalExpr_traverses origin left start earlier (by omega)).bind
      intro leftValue entries _
      exact (evalExpr_traverses origin right _ _ (by omega)).map _
  | connect op left right ihLeft ihRight =>
      rw [Cond.looks, List.length_append] at enough
      apply (ihLeft start earlier (by omega)).bind
      intro leftValue entries _
      exact (ihRight _ _ (by omega)).map _
  | not inner ih => exact (ih start earlier enough).map _

/-- The evaluation has read the sensors at the given places, each of them once and in this order.
With a value it has used up as many answers as there are places and left the entry of each; with a
division by zero this is so for the first of them. Nothing else has changed. -/
def InOrder (world : Scripted) (looks : List Look) (result : EStateM.Result Fault Scripted α) :
    Prop :=
  (∃ value entries, result = .ok value (world.past looks.length entries) ∧
    entries.map some = world.entriesFrom 0 looks) ∨
  ∃ entries, result = .error .divisionByZero (world.past entries.length entries) ∧
    entries.map some <+: world.entriesFrom 0 looks

theorem Traversal.inOrder {result : EStateM.Result Fault Scripted α}
    (traversal : Traversal origin 0 [] looks result) : InOrder origin looks result := by
  cases traversal with
  | whole value entries same reached =>
      rw [Nat.zero_add, List.nil_append] at reached
      exact .inl ⟨value, entries, by rw [reached], same⟩
  | part entries cut reached =>
      rw [Nat.zero_add, List.nil_append] at reached
      exact .inr ⟨entries, by rw [reached], cut⟩

end Traversals

/-- Sensors are read from left to right. If a scripted world has an answer for every place where an
expression or a condition reads a sensor, then each of these places is read once, in their order in
the tree, the places in a barrel index before the barrel, whatever the answers are; and a barrel is
asked for by the value of its index, or by zero if that is negative. An evaluation that divides by
zero has read the first of these places. -/
theorem sensors_are_read_left_to_right {world : Scripted} :
    (∀ expr : Expr, expr.looks.length ≤ world.outputs.length →
      InOrder world expr.looks (evalExpr expr world)) ∧
    ∀ cond : Cond, cond.looks.length ≤ world.outputs.length →
      InOrder world cond.looks (evalCond cond world) := by
  constructor
  · intro expr enough
    have traversal := evalExpr_traverses world expr 0 [] (by omega)
    rw [world.past_zero] at traversal
    exact traversal.inOrder
  · intro cond enough
    have traversal := evalCond_traverses world cond 0 [] (by omega)
    rw [world.past_zero] at traversal
    exact traversal.inOrder

/-- Does not hold by its left side, and reads five sensors all the same. -/
def nestedLooks : Cond :=
  .connect .and
    (.compare .lt (.barrelAt .leftRight (.sensor (.opponent .frontBack))) (.num 0))
    (.compare .eq (.sensor .fuelLeft) (.barrelAt .frontBack (.barrelAt .leftRight (.num 2))))

/-- A world with one answer more than the condition asks for. -/
def sixAnswers : Scripted := { outputs := [-3, 7, 50, 2, 9, 11] }

/-- Five of six answers are used up. The negative one stands for the closest barrel. -/
theorem sensors_are_read_left_to_right_of_nestedLooks :
    nestedLooks.looks.length ≤ sixAnswers.outputs.length ∧
    ∃ entries, evalCond nestedLooks sixAnswers = .ok false (sixAnswers.past 5 entries) ∧
      entries.map LogEntry.text = ["readOppFB|output= -3", "readBarrelLR: 0|output= 7",
        "readFuelLeft|output= 50", "readBarrelLR: 2|output= 2", "readBarrelFB: 2|output= 9"] := by
  have enough : nestedLooks.looks.length ≤ sixAnswers.outputs.length := by decide
  refine ⟨enough, ?_⟩
  have listed : sixAnswers.entriesFrom 0 nestedLooks.looks =
      [.sensed (.opponent .frontBack) 0 (-3), .sensed (.barrel .leftRight) 0 7,
        .sensed .fuelLeft 0 50, .sensed (.barrel .leftRight) 2 2,
        .sensed (.barrel .frontBack) 2 9].map some := by rfl
  rcases sensors_are_read_left_to_right.2 nestedLooks enough with
    ⟨value, entries, computed, same⟩ | ⟨entries, failed, -⟩
  · cases (List.map_inj_right fun _ _ => Option.some.inj).mp (same.trans listed)
    obtain rfl : value = false := by
      cases computed
      rfl
    exact ⟨_, computed, by decide⟩
  · cases failed

end FuelDuel.Execution
