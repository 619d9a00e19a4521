import FuelDuel.Proofs.Occupancy
import FuelDuel.Proofs.WholeMatch

/-!
The log of a match. A match fails only if a program cannot be read or the configuration cannot be
played. Otherwise it comes to a result, and the reports of its ticks fit together: each tick starts
where the last one has ended, and the fuel in the last report decides the outcome
(`match_result_is_coherent_log`).

A report shows the robots as the tick has left them (`report_nextTurn`), so what the reports of a
log say about each other is what the arenas between the ticks say.
-/

namespace FuelDuel.Arena

/-! ### Reports -/

/-- One robot's part of a report. -/
def TickReport.robot (report : TickReport) : Side → RobotReport
  | .red => report.red
  | .blue => report.blue

/-- A robot stays on its cell or makes one step along a row or a column. -/
def Cell.Near (start stop : Cell) : Prop :=
  stop = start ∨ ∃ dir : Direction, stop = start.moved dir.delta

theorem Grid.near_step {grid : Grid} {cell : Cell} (inside : grid.contains cell = true)
    (dir : Direction) : cell.Near (grid.step cell dir) := by
  rw [Grid.step_eq inside]
  split
  · exact .inr ⟨dir, rfl⟩
  · exact .inl rfl

theorem report_resolve_red (arena : Arena) (thinking : Thinking) :
    (arena.resolve thinking).report.red =
      robotReport (arena.resolve thinking).arena.red.body thinking.redThought
        (arena.moveBoth thinking).red.2 := by
  rw [resolve]

theorem report_resolve_blue (arena : Arena) (thinking : Thinking) :
    (arena.resolve thinking).report.blue =
      robotReport (arena.resolve thinking).arena.blue.body thinking.blueThought
        (arena.moveBoth thinking).blue.2 := by
  rw [resolve]

section Step

variable {arena : Arena} {played : Played} (turn : arena.nextTurn = .ok played)

include turn

theorem tick_report : played.report.tick = arena.tick + 1 := by
  obtain ⟨-, rfl⟩ := nextTurn_eq_ok_iff.mp turn
  rw [resolve]
  rfl

/-- A report shows the robot as the tick has left it. -/
theorem report_nextTurn (side : Side) :
    ∃ thought blocked,
      played.report.robot side = robotReport (played.arena.agent side).body thought blocked := by
  obtain ⟨-, same⟩ := nextTurn_eq_ok_iff.mp turn
  -- The sides are told apart before the tick is opened: a comparison of opened ticks would compare
  -- their random draws.
  have red : ∃ thought blocked,
      played.report.red = robotReport played.arena.red.body thought blocked :=
    same ▸ ⟨_, _, report_resolve_red _ _⟩
  have blue : ∃ thought blocked,
      played.report.blue = robotReport played.arena.blue.body thought blocked :=
    same ▸ ⟨_, _, report_resolve_blue _ _⟩
  cases side with
  | red => exact red
  | blue => exact blue

theorem fuel_report (side : Side) :
    (played.report.robot side).fuel = (played.arena.agent side).body.settledFuel := by
  obtain ⟨thought, blocked, same⟩ := report_nextTurn turn side
  rw [same]
  rfl

theorem stop_report (side : Side) :
    (played.report.robot side).stop = played.arena.cell side := by
  obtain ⟨thought, blocked, same⟩ := report_nextTurn turn side
  rw [same]
  rfl

variable (apart : arena.cell .red ≠ arena.cell .blue)

include apart

theorem agent_nextTurn (side : Side) : played.arena.agent side = arena.commit.agentAfter side := by
  obtain ⟨-, rfl⟩ := nextTurn_eq_ok_iff.mp turn
  exact agent_resolve (apart_commit apart) side

theorem robot_nextTurn (side : Side) :
    played.report.robot side = arena.commit.reportAfter side := by
  obtain ⟨-, rfl⟩ := nextTurn_eq_ok_iff.mp turn
  rw [report_resolve (apart_commit apart)]
  cases side <;> rfl

theorem start_report (side : Side) : (played.report.robot side).start = arena.cell side := by
  obtain ⟨thought, blocked, same⟩ := report_nextTurn turn side
  rw [same, ← current_nextTurn turn apart side]
  rfl

theorem near_nextTurn {side : Side} (inside : arena.grid.contains (arena.cell side) = true) :
    (arena.cell side).Near (played.arena.cell side) := by
  rw [cell_nextTurn turn apart side]
  split
  · exact .inl rfl
  · unfold goal Part.goal
    split
    · rw [Part.ahead, current_commit]
      exact Grid.near_step inside _
    · rw [target_commit]
      exact .inl rfl

end Step

/-! ### Outcomes -/

/-- How the fuel of both robots decides a match. -/
inductive Decides (red blue : Int) : Outcome → Prop where
  | redWins (redGoes : 0 < red) (blueStops : blue ≤ 0) : Decides red blue .redWins
  | blueWins (redStops : red ≤ 0) (blueGoes : 0 < blue) : Decides red blue .blueWins
  | draw (redStops : red ≤ 0) (blueStops : blue ≤ 0) : Decides red blue .draw

theorem Decides.ne_timeout {red blue : Int} {outcome : Outcome}
    (decides : Decides red blue outcome) : outcome ≠ .timeout := by
  cases decides <;> simp

theorem Decides.stops {red blue : Int} {outcome : Outcome}
    (decides : Decides red blue outcome) : red ≤ 0 ∨ blue ≤ 0 := by
  cases decides with
  | redWins _ blueStops => exact .inr blueStops
  | blueWins redStops _ => exact .inl redStops
  | draw redStops _ => exact .inl redStops

theorem isDead_iff {body : Body} : body.isDead = true ↔ body.settledFuel ≤ 0 := by
  simp [Body.isDead]

theorem isDead_eq_false_iff {body : Body} : body.isDead = false ↔ 0 < body.settledFuel := by
  simp [Body.isDead]

theorem outcome_eq_none_iff {arena : Arena} :
    arena.outcome? = none ↔ ∀ side, 0 < (arena.agent side).body.settledFuel := by
  constructor
  · intro undecided
    unfold outcome? at undecided
    split at undecided
    · rename_i redGoes blueGoes
      rintro (_ | _)
      · exact isDead_eq_false_iff.mp redGoes
      · exact isDead_eq_false_iff.mp blueGoes
    all_goals cases undecided
  · intro fuelled
    have redGoes := isDead_eq_false_iff.mpr (fuelled .red)
    have blueGoes := isDead_eq_false_iff.mpr (fuelled .blue)
    simp only [agent] at redGoes blueGoes
    simp only [outcome?, redGoes, blueGoes]

theorem decides_of_outcome {arena : Arena} {outcome : Outcome}
    (decided : arena.outcome? = some outcome) :
    Decides arena.red.body.settledFuel arena.blue.body.settledFuel outcome := by
  unfold outcome? at decided
  split at decided
  · cases decided
  · rename_i redStops blueStops
    cases decided
    exact .draw (isDead_iff.mp redStops) (isDead_iff.mp blueStops)
  · rename_i redGoes blueStops
    cases decided
    exact .redWins (isDead_eq_false_iff.mp redGoes) (isDead_iff.mp blueStops)
  · rename_i redStops blueGoes
    cases decided
    exact .blueWins (isDead_iff.mp redStops) (isDead_eq_false_iff.mp blueGoes)

end FuelDuel.Arena

namespace FuelDuel.Match

open FuelDuel.Arena
open FuelDuel.Language

/-- A match is over because a robot is out of fuel, or else because of the tick limit. -/
theorem outcome_cases {arena : Arena} {outcome : Outcome}
    (isOver : (Match.mk arena).outcome? = some outcome) :
    arena.outcome? = some outcome ∨
      (arena.outcome? = none ∧ outcome = .timeout ∧ arena.config.maxTicks ≤ arena.tick) := by
  unfold outcome? at isOver
  cases decided : arena.outcome? with
  | some earlier =>
      rw [decided] at isOver
      exact .inl isOver
  | none =>
      rw [decided, Option.none_or, Option.ite_none_right_eq_some] at isOver
      obtain ⟨late, same⟩ := isOver
      cases same
      exact .inr ⟨rfl, rfl, late⟩

/-! ### Logs -/

section Log

variable {arena : Arena} {reports : List TickReport} (logs : Logs arena reports)

include logs

/-- A report of a log belongs to a turn that was played. -/
theorem Logs.turn {index : Nat} {report : TickReport} (found : reports[index]? = some report) :
    ∃ played, (arena.afterTurns index).nextTurn = .ok played ∧ played.report = report ∧
      arena.afterTurns (index + 1) = played.arena := by
  obtain ⟨played, turn, same⟩ := logs index report found
  exact ⟨played, turn, same, advance_of_ok turn⟩

/-- While there are reports, the match is undecided. -/
theorem Logs.undecided {index : Nat} (early : index < reports.length) :
    (arena.afterTurns index).outcome? = none := by
  obtain ⟨played, turn, -⟩ := logs.turn (List.getElem?_eq_getElem early)
  exact (nextTurn_eq_ok_iff.mp turn).1

theorem Logs.tick {turns : Nat} (within : turns ≤ reports.length) :
    (arena.afterTurns turns).tick = arena.tick + turns := by
  induction turns with
  | zero => rfl
  | succ turns ih =>
      obtain ⟨played, turn, -, onward⟩ := logs.turn (List.getElem?_eq_getElem within)
      rw [onward, tick_nextTurn turn, ih (Nat.le_of_succ_le within)]
      omega

section Reports

variable {index : Nat} {report : TickReport} (found : reports[index]? = some report)

include found

theorem Logs.report_tick : report.tick = arena.tick + index + 1 := by
  have early := (List.getElem?_eq_some_iff.mp found).1
  obtain ⟨played, turn, rfl, -⟩ := logs.turn found
  rw [tick_report turn, logs.tick (Nat.le_of_lt early)]

theorem Logs.fuel (side : Side) :
    (report.robot side).fuel = ((arena.afterTurns (index + 1)).agent side).body.settledFuel := by
  obtain ⟨played, turn, rfl, onward⟩ := logs.turn found
  rw [onward, fuel_report turn]

theorem Logs.stop (side : Side) :
    (report.robot side).stop = (arena.afterTurns (index + 1)).cell side := by
  obtain ⟨played, turn, rfl, onward⟩ := logs.turn found
  rw [onward, stop_report turn]

variable (placed : Placed arena) (sized : 1 ≤ arena.config.gridSize)

include placed sized

theorem Logs.start (side : Side) :
    (report.robot side).start = (arena.afterTurns index).cell side := by
  obtain ⟨played, turn, rfl, -⟩ := logs.turn found
  exact start_report turn (placed_afterTurns placed sized index).next_apart side

theorem Logs.near (side : Side) : (report.robot side).start.Near (report.robot side).stop := by
  rw [logs.start found placed sized, logs.stop found]
  obtain ⟨played, turn, -, onward⟩ := logs.turn found
  have standing := placed_afterTurns placed sized index
  rw [onward]
  exact near_nextTurn turn standing.next_apart (standing.next_inside side)

end Reports

end Log

/-! ### Results -/

/-- The reports of a result fit together, and its outcome fits the reports. -/
structure Coherent (config : Config) (result : MatchResult) : Prop where
  length : result.trace.length = result.ticks
  limited : result.ticks ≤ config.maxTicks
  numbered : ∀ index report, result.trace[index]? = some report → report.tick = index + 1
  corners : ∀ report, result.trace[0]? = some report →
    report.red.start = ⟨0, 0⟩ ∧ report.blue.start = ⟨config.gridSize - 1, config.gridSize - 1⟩
  chained : ∀ index earlier later, result.trace[index]? = some earlier →
    result.trace[index + 1]? = some later → ∀ side,
      (later.robot side).start = (earlier.robot side).stop
  near : ∀ report ∈ result.trace, ∀ side, (report.robot side).start.Near (report.robot side).stop
  fuelled : ∀ index report, index + 1 < result.trace.length →
    result.trace[index]? = some report → ∀ side, 0 < (report.robot side).fuel
  timeout_iff : result.outcome = .timeout ↔
    ∀ report ∈ result.trace, ∀ side, 0 < (report.robot side).fuel
  timeout_ticks : result.outcome = .timeout → result.ticks = config.maxTicks
  decided : result.outcome ≠ .timeout → ∃ last, result.trace.getLast? = some last ∧
    Decides last.red.fuel last.blue.fuel result.outcome

section Result

variable {arena : Arena} {result : MatchResult} (ended : Ended arena result)

include ended

/-- A match that no robot decides shows fuel in all of its reports. -/
theorem Ended.fuelled (going : (arena.afterTurns result.trace.length).outcome? = none) :
    ∀ report ∈ result.trace, ∀ side, 0 < (report.robot side).fuel := by
  intro report member side
  obtain ⟨index, found⟩ := List.mem_iff_getElem?.mp member
  have early := (List.getElem?_eq_some_iff.mp found).1
  rw [ended.logs.fuel found]
  rcases Nat.lt_or_eq_of_le early with before | last
  · exact outcome_eq_none_iff.mp (ended.logs.undecided before) side
  · rw [← last] at going
    exact outcome_eq_none_iff.mp going side

variable (undecided : arena.outcome? = none)

include undecided

/-- A match that a robot decides has a last report, which shows why. -/
theorem Ended.decided
    (decided : (arena.afterTurns result.trace.length).outcome? = some result.outcome) :
    ∃ last, result.trace.getLast? = some last ∧
      Decides last.red.fuel last.blue.fuel result.outcome := by
  have played : result.trace ≠ [] := by
    intro empty
    rw [empty] at decided
    cases undecided.symm.trans decided
  have positive := List.length_pos_iff.mpr played
  have found : result.trace[result.trace.length - 1]? = some (result.trace.getLast played) := by
    rw [← List.getLast?_eq_getElem?, List.getLast?_eq_some_getLast played]
  refine ⟨result.trace.getLast played, List.getLast?_eq_some_getLast played, ?_⟩
  have red := ended.logs.fuel found .red
  have blue := ended.logs.fuel found .blue
  rw [Nat.sub_add_cancel positive] at red blue
  simp only [TickReport.robot, agent] at red blue
  rw [red, blue]
  exact decides_of_outcome decided

theorem Ended.timeout_iff :
    result.outcome = .timeout ↔ ∀ report ∈ result.trace, ∀ side, 0 < (report.robot side).fuel := by
  constructor
  · intro timeout
    rcases outcome_cases ended.isOver with decided | ⟨going, -, -⟩
    · exact absurd timeout (decides_of_outcome decided).ne_timeout
    · exact ended.fuelled going
  · intro fuelled
    rcases outcome_cases ended.isOver with decided | ⟨-, timeout, -⟩
    · obtain ⟨last, found, decides⟩ := ended.decided undecided decided
      have going := fuelled last (List.mem_of_getLast? found)
      rcases decides.stops with redStops | blueStops
      · exact absurd (going .red) (Int.not_lt.mpr redStops)
      · exact absurd (going .blue) (Int.not_lt.mpr blueStops)
    · exact timeout

/-- The result of a match is coherent. -/
theorem Ended.coherent (within : result.trace.length ≤ (Match.mk arena).remaining)
    (placed : Placed arena) (sized : 1 ≤ arena.config.gridSize) (fresh : arena.tick = 0)
    (redCorner : arena.cell .red = ⟨0, 0⟩)
    (blueCorner : arena.cell .blue = ⟨arena.config.gridSize - 1, arena.config.gridSize - 1⟩) :
    Coherent arena.config result := by
  have logs := ended.logs
  have length : result.trace.length = result.ticks := by
    rw [ended.ticks, logs.tick (Nat.le_refl _), fresh, Nat.zero_add]
  have limited : result.ticks ≤ arena.config.maxTicks := by
    rw [← length]
    exact Nat.le_trans within (Nat.sub_le _ _)
  refine
    { length
      limited
      numbered := fun index report found => ?_
      corners := fun report found => ?_
      chained := fun index earlier later foundEarlier foundLater side => ?_
      near := fun report member side => ?_
      fuelled := fun index report early found side => ?_
      timeout_iff := ended.timeout_iff undecided
      timeout_ticks := fun timeout => ?_
      decided := fun notTimeout => ?_ }
  · rw [logs.report_tick found, fresh, Nat.zero_add]
  · have red := logs.start found placed sized .red
    have blue := logs.start found placed sized .blue
    exact ⟨red.trans redCorner, blue.trans blueCorner⟩
  · rw [logs.start foundLater placed sized, logs.stop foundEarlier]
  · obtain ⟨index, found⟩ := List.mem_iff_getElem?.mp member
    exact logs.near found placed sized side
  · rw [logs.fuel found]
    exact outcome_eq_none_iff.mp (logs.undecided early) side
  · rcases outcome_cases ended.isOver with decided | ⟨-, -, late⟩
    · exact absurd timeout (decides_of_outcome decided).ne_timeout
    · rw [config_afterTurns, ← ended.ticks] at late
      exact Nat.le_antisymm limited late
  · rcases outcome_cases ended.isOver with decided | ⟨-, timeout, -⟩
    · exact ended.decided undecided decided
    · exact absurd timeout notTimeout

end Result

/-! ### Playing from sources -/

theorem loadProgram_eq_error {side : Side} {source : Option String} {error : MatchError}
    (failed : loadProgram side source = .error error) :
    ∃ text reason, source = some text ∧ Program.parse text = .error reason ∧
      error = .program side reason text := by
  cases source with
  | none => cases failed
  | some text =>
      cases parsed : Program.parse text with
      | ok program =>
          rw [loadProgram, parsed] at failed
          cases failed
      | error reason =>
          rw [loadProgram, parsed] at failed
          cases failed
          exact ⟨text, reason, rfl, parsed, rfl⟩

/-- Two programs that can be read are played if the configuration can be. -/
theorem play_of_loaded {redSource blueSource : Option String} {config : Config}
    {red blue : Program} {arena : Arena} {setUp events : List Event} {result : MatchResult}
    (redLoaded : loadProgram .red redSource = .ok red)
    (blueLoaded : loadProgram .blue blueSource = .ok blue)
    (started : Arena.start config red blue = .ok (arena, setUp))
    (ran : (Match.mk arena).run = .ok (result, events)) :
    play redSource blueSource config = .ok (result, setUp ++ events) := by
  have built : build redSource blueSource config = .ok (⟨arena⟩, setUp) := by
    simp only [build, redLoaded, blueLoaded]
    show ((Arena.start config red blue).mapError _ >>= _) = _
    rw [started]
    rfl
  simp only [play, built]
  show ((Match.mk arena).run >>= _) = _
  rw [ran]
  rfl

/-- A playable match comes to a coherent result. -/
theorem run_coherent {config : Config} (valid : config.Valid) (red blue : Program) :
    ∃ arena setUp result events, Arena.start config red blue = .ok (arena, setUp) ∧
      (Match.mk arena).run = .ok (result, events) ∧ Ended arena result ∧
      Coherent config result := by
  obtain ⟨barrels, random, setUp, started⟩ := start_of_valid valid red blue
  obtain ⟨result, events, ran, ended, within⟩ := run_logs ⟨_⟩
  have sized : 1 ≤ config.gridSize := valid.limits.one_le_gridSize
  have fuelled := valid.limits.one_le_maxFuel
  have undecided :
      ({ Arena.setUp config red blue with barrels, random } : Arena).outcome? = none := by
    rw [outcome_eq_none_iff]
    rintro (_ | _)
    · show 0 < config.maxFuel - 0
      omega
    · show 0 < config.maxFuel - 0
      omega
  exact ⟨_, setUp, result, events, started, ran, ended,
    ended.coherent undecided within (placed_start valid red blue barrels random) sized rfl rfl rfl⟩

/-- How playing two sources under a configuration can end. -/
inductive Ending (red blue : Option String) (config : Config) :
    Except MatchError (MatchResult × List Event) → Prop where
  /-- Red's program cannot be read. -/
  | redUnreadable {source : String} {error : SyntaxError} (given : red = some source)
      (unreadable : Program.parse source = .error error) :
      Ending red blue config (.error (.program .red error source))
  /-- Red's program can be read, and blue's cannot. -/
  | blueUnreadable {redProgram : Program} {source : String} {error : SyntaxError}
      (redLoaded : loadProgram .red red = .ok redProgram) (given : blue = some source)
      (unreadable : Program.parse source = .error error) :
      Ending red blue config (.error (.program .blue error source))
  /-- Both programs can be read, and the configuration cannot be played. -/
  | unplayable {redProgram blueProgram : Program} {reason : Config.Invalid}
      (redLoaded : loadProgram .red red = .ok redProgram)
      (blueLoaded : loadProgram .blue blue = .ok blueProgram)
      (invalid : config.invalid? = some reason) :
      Ending red blue config (.error (.config (.invalid reason)))
  /-- The match is played until it is over. -/
  | played {redProgram blueProgram : Program} {arena : Arena} {result : MatchResult}
      {setUp events : List Event} (redLoaded : loadProgram .red red = .ok redProgram)
      (blueLoaded : loadProgram .blue blue = .ok blueProgram)
      (started : Arena.start config redProgram blueProgram = .ok (arena, setUp))
      (isOver : (Match.mk (arena.afterTurns result.ticks)).outcome? = some result.outcome)
      (coherent : Coherent config result) :
      Ending red blue config (.ok (result, events))

/-- Playing two sources fails only because of a program or the configuration, in that order. All
other matches are played until they are over, and their results are coherent. -/
theorem match_result_is_coherent_log (red blue : Option String) (config : Config) :
    Ending red blue config (play red blue config) := by
  cases redLoaded : loadProgram .red red with
  | error error =>
      obtain ⟨source, reason, given, unreadable, rfl⟩ := loadProgram_eq_error redLoaded
      have failed : play red blue config = .error (.program .red reason source) := by
        simp only [play, build, redLoaded]
        rfl
      rw [failed]
      exact .redUnreadable given unreadable
  | ok redProgram =>
      cases blueLoaded : loadProgram .blue blue with
      | error error =>
          obtain ⟨source, reason, given, unreadable, rfl⟩ := loadProgram_eq_error blueLoaded
          have failed : play red blue config = .error (.program .blue reason source) := by
            simp only [play, build, redLoaded, blueLoaded]
            rfl
          rw [failed]
          exact .blueUnreadable redLoaded given unreadable
      | ok blueProgram =>
          cases checked : config.invalid? with
          | some reason =>
              have failed : play red blue config = .error (.config (.invalid reason)) := by
                simp only [play, build, redLoaded, blueLoaded, Arena.start, checked]
                rfl
              rw [failed]
              exact .unplayable redLoaded blueLoaded checked
          | none =>
              obtain ⟨arena, setUp, result, events, started, ran, ended, coherent⟩ :=
                run_coherent checked redProgram blueProgram
              have isOver := ended.isOver
              rw [coherent.length] at isOver
              rw [play_of_loaded redLoaded blueLoaded started ran]
              exact .played redLoaded blueLoaded started isOver coherent

end FuelDuel.Match
