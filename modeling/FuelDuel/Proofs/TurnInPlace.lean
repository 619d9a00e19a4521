import FuelDuel.Proofs.Tick

/-!
A turn that changes the arena in place. Every phase of a tick overwrites its part of the arena:
first both robots are committed, then red thinks and acts, then blue, and so on. Such a turn has two
ways out in the middle, where a program uses its action slot a second time, and an arena that was
left there would have one robot that has acted and one that has not (`thinkInPlace`).

Neither way out is ever taken: programs keep the rules of the action slot whatever their variables
hold, so a turn in place comes to what `nextTurn` gives (`turnInPlace_eq`). It fails only if the
match is decided, and then it has changed nothing (`turn_fails_only_when_decided`).
-/

namespace FuelDuel.Arena

open FuelDuel.Execution
open FuelDuel.Language
open FuelDuel.World

/-- A computation that changes the arena. An error keeps the changes that were made before it. -/
abbrev InPlace (α : Type) : Type := EStateM Refusal Arena α

/-- Commits the robot of a side. -/
def commitInPlace (side : Side) : InPlace Unit :=
  modify fun arena => arena.setAgent side (arena.agent side).commit

/-- Lets a side think. Variables are written while the program runs, so they are kept whatever comes
of it. -/
def thinkInPlace (side : Side) (perception : Perception) : InPlace Thought := fun arena =>
  let agent := arena.agent side
  match execute agent.program { readings := perception.readings, vars := agent.vars : View } with
  | .ok rest view =>
      .ok { decision := view.decision }
        (arena.setAgent side { agent with program := rest, vars := view.vars })
  | .error (.slotUsed attempted performed) view =>
      .error (.slotReused side attempted performed)
        (arena.setAgent side { agent with vars := view.vars })
  | .error fault view =>
      .ok { fault := some fault.message }
        (arena.setAgent side (agent.halted view.vars fault.message))

/-- The arena with other barrels and other bodies of a side and its opponent. -/
def withScene (arena : Arena) (side : Side) (scene : Scene) : Arena :=
  let acted := { arena with barrels := scene.barrels }
  (acted.setAgent side { acted.agent side with body := scene.me }).setAgent side.other
    { acted.agent side.other with body := scene.other }

/-- Carries out the decision of a side. -/
def actInPlace (side : Side) (decision : Decision) : InPlace Unit :=
  modify fun arena => arena.withScene side (Scene.carryOut arena.grid arena.config decision
    ⟨arena.barrels, (arena.agent side).body, (arena.agent side.other).body⟩)

/-- Lets the robot of a side move, and gives whether it was blocked. -/
def moveInPlace (side : Side) : InPlace Bool := fun arena =>
  let agent := arena.agent side
  let moved := resolveMove agent.body (arena.agent side.other).body
  .ok moved.2 (arena.setAgent side { agent with body := moved.1 })

/-- Lets the robot of a side pay for the tick. -/
def chargeInPlace (side : Side) : InPlace Unit :=
  modify fun arena => arena.setAgent side
    { arena.agent side with body := (arena.agent side).body.charge arena.config }

/-- Lets both robots move and pay, and gives whether they were blocked. -/
def moveAndPayInPlace : InPlace (Bool × Bool) := do
  let redBlocked ← moveInPlace .red
  let blueBlocked ← moveInPlace .blue
  chargeInPlace .red
  chargeInPlace .blue
  return (redBlocked, blueBlocked)

/-- Lets a barrel appear with the configured probability, counts the tick, and reports on it. -/
def finishInPlace (redThought blueThought : Thought) (redBlocked blueBlocked : Bool) :
    InPlace TickReport := do
  modify fun arena => arena.maybeSpawn.1.atTick (arena.tick + 1)
  let after ← get
  return {
    tick := after.tick
    red := robotReport after.red.body redThought redBlocked
    blue := robotReport after.blue.body blueThought blueBlocked
    barrels := after.barrels.size }

/-- What a side perceives. -/
def perceived (arena : Arena) (side : Side) : Perception :=
  .capture arena.grid arena.barrels (arena.agent side).body (arena.agent side.other).body

/-- Lets a side think on what it has perceived, and then act. -/
def partInPlace (side : Side) (perception : Perception) : InPlace Thought := do
  let thought ← thinkInPlace side perception
  actInPlace side thought.decision
  return thought

/-- Plays one tick in place. Both sides perceive the arena as it is before either has acted. -/
def playInPlace : InPlace TickReport := do
  commitInPlace .red
  commitInPlace .blue
  let current ← get
  let redThought ← partInPlace .red (current.perceived .red)
  let blueThought ← partInPlace .blue (current.perceived .blue)
  let (redBlocked, blueBlocked) ← moveAndPayInPlace
  finishInPlace redThought blueThought redBlocked blueBlocked

/-- Plays one tick in place, unless the match is decided. -/
def turnInPlace : InPlace TickReport := do
  match (← get).outcome? with
  | some outcome => throw (.finished outcome)
  | none => playInPlace

/-! ### Thinking in place -/

/-- A program acts at most once in a tick, so thinking in place comes to a thought. -/
theorem thinkInPlace_apply (side : Side) (perception : Perception) (arena : Arena) :
    thinkInPlace side perception arena =
      .ok ((arena.agent side).thought perception).1
        (arena.setAgent side ((arena.agent side).thought perception).2) := by
  have thinks := Agent.think_eq side (arena.agent side) perception
  unfold Agent.think Agent.thought at thinks
  unfold thinkInPlace Agent.thought
  cases ran : execute (arena.agent side).program
      { readings := perception.readings, vars := (arena.agent side).vars : View } with
  | ok rest view => simp only [ran]
  | error fault view =>
      rw [ran] at thinks
      cases fault with
      | slotUsed attempted performed => cases thinks
      | divisionByZero | stepLimit limit | unanswered reading => simp only [ran]

/-- A body is neither read nor written by thinking. -/
theorem Agent.thought_withBody (agent : Agent) (body : Body) (perception : Perception) :
    ({ agent with body } : Agent).thought perception =
      ((agent.thought perception).1, { (agent.thought perception).2 with body }) := by
  unfold Agent.thought
  dsimp only
  split <;> rfl

/-- What a side's thinking and acting makes of the arena. -/
def afterPart (arena : Arena) (side : Side) (perception : Perception) : Arena :=
  let thought := (arena.agent side).thought perception
  (arena.setAgent side thought.2).withScene side
    (Scene.carryOut arena.grid arena.config thought.1.decision
      ⟨arena.barrels, (arena.agent side).body, (arena.agent side.other).body⟩)

theorem partInPlace_apply (side : Side) (perception : Perception) (arena : Arena) :
    partInPlace side perception arena =
      .ok ((arena.agent side).thought perception).1 (arena.afterPart side perception) := by
  have body := (arena.agent side).thought_body perception
  rw [partInPlace, bind_of_ok (thinkInPlace_apply side perception arena)]
  unfold afterPart
  generalize (arena.agent side).thought perception = thought at body
  rw [← body]
  cases side <;> rfl

/-- The arena once both robots have thought and acted. -/
def afterParts (arena : Arena) : Arena :=
  { arena with
    barrels := (arena.actBoth arena.minds).barrels
    red := { arena.minds.red with body := (arena.actBoth arena.minds).other }
    blue := { arena.minds.blue with body := (arena.actBoth arena.minds).me } }

/-- Red's part leaves blue's program and variables alone. -/
theorem agent_afterPart (arena : Arena) (perception : Perception) :
    (arena.afterPart .red perception).agent .blue =
      { arena.agent .blue with body := ((arena.afterPart .red perception).agent .blue).body } :=
  rfl

/-- Blue thinks after red has acted, possibly on blue's robot, and comes to the thought to which it
would have come before. -/
theorem thought_afterPart (arena : Arena) (perception seen : Perception) :
    (((arena.afterPart .red perception).agent .blue).thought seen).1 =
      ((arena.agent .blue).thought seen).1 := by
  rw [agent_afterPart, Agent.thought_withBody]

theorem afterPart_afterPart (arena : Arena) :
    (arena.afterPart .red (arena.perceived .red)).afterPart .blue (arena.perceived .blue) =
      arena.afterParts := by
  have redBody := arena.body_mind .red
  have blueBody := arena.body_mind .blue
  rw [afterPart, agent_afterPart, Agent.thought_withBody]
  unfold afterParts actBoth minds
  simp only [redBody, blueBody]
  rfl

/-! ### Turns in place -/

theorem moveAndPayInPlace_apply (arena : Arena) :
    moveAndPayInPlace arena.afterParts =
      .ok ((arena.moveBoth arena.minds).red.2, (arena.moveBoth arena.minds).blue.2)
        (arena.charged arena.minds) := by
  rw [moveAndPayInPlace]
  rfl

theorem finishInPlace_apply (arena : Arena) :
    finishInPlace arena.minds.redThought arena.minds.blueThought
        (arena.moveBoth arena.minds).red.2 (arena.moveBoth arena.minds).blue.2
        (arena.charged arena.minds) =
      .ok (arena.resolve arena.minds).report (arena.resolve arena.minds).arena := by
  rw [finishInPlace, bind_of_ok (modify_apply _ _), bind_of_ok (get_apply _), pure_apply, resolve]
  rfl

theorem playInPlace_apply (arena : Arena) :
    playInPlace arena =
      .ok (arena.commit.resolve arena.commit.minds).report
        (arena.commit.resolve arena.commit.minds).arena := by
  have committed : commitInPlace .red arena = .ok () (arena.setAgent .red arena.red.commit) := rfl
  have committed' : commitInPlace .blue (arena.setAgent .red arena.red.commit) =
      .ok () arena.commit := rfl
  rw [playInPlace, bind_of_ok committed, bind_of_ok committed', bind_of_ok (get_apply _),
    bind_of_ok (partInPlace_apply .red _ _), bind_of_ok (partInPlace_apply .blue _ _),
    afterPart_afterPart, bind_of_ok (moveAndPayInPlace_apply arena.commit), thought_afterPart]
  exact finishInPlace_apply arena.commit

/-- A turn in place comes to what `nextTurn` gives; a turn that fails has changed nothing. -/
theorem turnInPlace_eq (arena : Arena) :
    turnInPlace arena =
      match arena.nextTurn with
      | .ok played => .ok played.report played.arena
      | .error refusal => .error refusal arena := by
  rw [turnInPlace, bind_of_ok (get_apply arena)]
  cases decided : arena.outcome? with
  | none =>
      rw [nextTurn_of_undecided decided]
      exact playInPlace_apply arena
  | some outcome =>
      rw [nextTurn_of_decided decided]
      rfl

theorem turnInPlace_eq_error_iff {arena after : Arena} {refusal : Refusal} :
    turnInPlace arena = .error refusal after ↔ arena.nextTurn = .error refusal ∧ after = arena := by
  rw [turnInPlace_eq]
  cases arena.nextTurn with
  | ok played => simp
  | error reason => simp [eq_comm]

theorem turnInPlace_eq_ok_iff {arena after : Arena} {report : TickReport} :
    turnInPlace arena = .ok report after ↔
      ∃ events, arena.nextTurn = .ok ⟨report, after, events⟩ := by
  rw [turnInPlace_eq]
  cases arena.nextTurn with
  | ok played =>
      obtain ⟨reported, reached, events⟩ := played
      simp
  | error reason => simp

/-- In every arena whatsoever a turn fails exactly if the match is decided, with the outcome as the
reason. Played in place, a turn that fails leaves the whole arena as it was, and every other turn
reaches what `nextTurn` gives. No turn is given up because of a second action. -/
theorem turn_fails_only_when_decided (arena : Arena) :
    (∀ refusal, arena.nextTurn = .error refusal ↔
      ∃ outcome, arena.outcome? = some outcome ∧ refusal = .finished outcome) ∧
    (∀ refusal after, turnInPlace arena = .error refusal after ↔
      after = arena ∧ ∃ outcome, arena.outcome? = some outcome ∧ refusal = .finished outcome) ∧
    (∀ report after, turnInPlace arena = .ok report after ↔
      ∃ events, arena.nextTurn = .ok ⟨report, after, events⟩) ∧
    (∀ side attempted performed after,
      arena.nextTurn ≠ .error (.slotReused side attempted performed) ∧
        turnInPlace arena ≠ .error (.slotReused side attempted performed) after) := by
  have fails (refusal : Refusal) (after : Arena) : turnInPlace arena = .error refusal after ↔
      after = arena ∧ ∃ outcome, arena.outcome? = some outcome ∧ refusal = .finished outcome := by
    rw [turnInPlace_eq_error_iff, nextTurn_eq_error_iff, and_comm]
  refine ⟨fun _ => nextTurn_eq_error_iff, fails, fun _ _ => turnInPlace_eq_ok_iff, ?_⟩
  intro side attempted performed after
  constructor
  · intro refused
    obtain ⟨outcome, -, reason⟩ := nextTurn_eq_error_iff.mp refused
    cases reason
  · intro refused
    obtain ⟨-, outcome, -, reason⟩ := (fails _ _).mp refused
    cases reason

end FuelDuel.Arena
