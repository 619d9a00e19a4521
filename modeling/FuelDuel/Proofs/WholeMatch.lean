import FuelDuel.Match
import FuelDuel.Proofs.Tick

/-!
Matches from start to end. A match that is not over is played on, since a tick is refused only once
the match is decided, and every tick brings the tick limit closer. So playing a match always comes
to a result: the reports of its ticks in order, and the outcome of the arena which the ticks have
led to (`run_logs`).
-/

namespace FuelDuel.Match

open FuelDuel.Arena

theorem step_of_over {game : Match} {outcome : Outcome} (isOver : game.outcome? = some outcome) :
    game.step = .ok none := by
  simp [step, isOver]

/-- A match that is not over is played on. -/
theorem step_of_going {game : Match} (going : game.outcome? = none) :
    ∃ played, game.arena.nextTurn = .ok played ∧ game.step = .ok (some played) := by
  have undecided : game.arena.outcome? = none := (Option.or_eq_none_iff.mp going).1
  have turn := nextTurn_of_undecided undecided
  refine ⟨_, turn, ?_⟩
  rw [step, going, turn]
  rfl

theorem outcome_of_remaining_eq_zero {game : Match} (spent : game.remaining = 0) :
    ∃ outcome, game.outcome? = some outcome := by
  have late : game.arena.config.maxTicks ≤ game.arena.tick := Nat.sub_eq_zero_iff_le.mp spent
  cases decided : game.arena.outcome? with
  | none => exact ⟨.timeout, by simp [outcome?, decided, late]⟩
  | some outcome => exact ⟨outcome, by simp [outcome?, decided]⟩

/-- A tick brings the tick limit closer. -/
theorem remaining_nextTurn {game : Match} {played : Played} (going : game.outcome? = none)
    (turn : game.arena.nextTurn = .ok played) :
    (Match.mk played.arena).remaining + 1 = game.remaining := by
  have some_left : game.remaining ≠ 0 := by
    intro spent
    obtain ⟨outcome, isOver⟩ := outcome_of_remaining_eq_zero spent
    rw [going] at isOver
    cases isOver
  simp only [remaining, config_nextTurn turn, tick_nextTurn turn] at some_left ⊢
  omega

/-! ### The log -/

/-- The reports are those of the first turns of the arena, in order. -/
def Logs (arena : Arena) (reports : List TickReport) : Prop :=
  ∀ (index : Nat) (report : TickReport), reports[index]? = some report →
    ∃ played, (arena.afterTurns index).nextTurn = .ok played ∧ played.report = report

theorem Logs.nil (arena : Arena) : Logs arena [] := by
  intro index report found
  cases found

theorem Logs.cons {arena : Arena} {played : Played} {reports : List TickReport}
    (turn : arena.nextTurn = .ok played) (later : Logs played.arena reports) :
    Logs arena (played.report :: reports) := by
  intro index report found
  cases index with
  | zero =>
      cases found
      exact ⟨played, turn, rfl⟩
  | succ index =>
      rw [← afterTurns_advance, advance_of_ok turn]
      exact later index report found

/-- A log that is not empty starts with the report of the first turn. -/
theorem Logs.of_cons {arena : Arena} {report : TickReport} {reports : List TickReport}
    (logs : Logs arena (report :: reports)) :
    ∃ played, arena.nextTurn = .ok played ∧ played.report = report ∧
      Logs played.arena reports := by
  obtain ⟨played, turn, same⟩ := logs 0 report rfl
  refine ⟨played, turn, same, ?_⟩
  intro index later found
  rw [← advance_of_ok turn, afterTurns_advance]
  exact logs (index + 1) later found

/-- What a match has come to that started in the given arena: its trace is a log, and after the
ticks of the trace it is over, with the outcome of the result. -/
structure Ended (arena : Arena) (result : MatchResult) : Prop where
  logs : Logs arena result.trace
  ticks : result.ticks = (arena.afterTurns result.trace.length).tick
  isOver : (Match.mk (arena.afterTurns result.trace.length)).outcome? = some result.outcome

/-- Playing on for the ticks that remain leads to an arena in which the match is over. -/
theorem playOut_ends {remaining : Nat} {game : Match} (enough : game.remaining ≤ remaining) :
    ∃ reports events outcome, reports.length ≤ game.remaining ∧ Logs game.arena reports ∧
      playOut remaining game = .ok ⟨reports, ⟨game.arena.afterTurns reports.length⟩, events⟩ ∧
      (Match.mk (game.arena.afterTurns reports.length)).outcome? = some outcome := by
  induction remaining generalizing game with
  | zero =>
      obtain ⟨outcome, isOver⟩ := outcome_of_remaining_eq_zero (Nat.le_zero.mp enough)
      exact ⟨[], [], outcome, Nat.zero_le _, Logs.nil _, rfl, isOver⟩
  | succ remaining ih =>
      cases reached : game.outcome? with
      | some outcome =>
          refine ⟨[], [], outcome, Nat.zero_le _, Logs.nil _, ?_, reached⟩
          rw [playOut, step_of_over reached]
          rfl
      | none =>
          obtain ⟨played, turn, stepped⟩ := step_of_going reached
          have fewer := remaining_nextTurn reached turn
          obtain ⟨reports, events, outcome, within, logs, later, ended⟩ :=
            ih (show (Match.mk played.arena).remaining ≤ remaining by omega)
          have onward : played.arena.afterTurns reports.length =
              game.arena.afterTurns (reports.length + 1) := by
            rw [← advance_of_ok turn, afterTurns_advance]
          rw [onward] at later ended
          refine ⟨played.report :: reports, played.events ++ events, outcome, ?_, logs.cons turn,
            ?_, ended⟩
          · rw [List.length_cons]
            omega
          · rw [playOut, stepped]
            show (playOut remaining ⟨played.arena⟩ >>= _) = _
            rw [later]
            rfl

/-- Playing a match comes to a result within the ticks that remain. -/
theorem run_logs (game : Match) :
    ∃ result events, game.run = .ok (result, events) ∧ Ended game.arena result ∧
      result.trace.length ≤ game.remaining := by
  obtain ⟨reports, events, outcome, within, logs, played, isOver⟩ :=
    playOut_ends (Nat.le_refl game.remaining)
  let ticks := (game.arena.afterTurns reports.length).tick
  refine ⟨⟨outcome, ticks, reports⟩, events ++ [.matchFinished outcome ticks], ?_,
    ⟨logs, rfl, isOver⟩, within⟩
  have named :
      (Match.mk (game.arena.afterTurns reports.length)).outcome?.getD .timeout = outcome := by
    rw [isOver, Option.getD_some]
  rw [run, played, ← named]
  rfl

/-- Playing a match comes to a result within the ticks that remain. Its outcome is that of the arena
in which it ends. -/
theorem run_ends (game : Match) :
    ∃ turns result events, turns ≤ game.remaining ∧ game.run = .ok (result, events) ∧
      (Match.mk (game.arena.afterTurns turns)).outcome? = some result.outcome := by
  obtain ⟨result, events, ran, ended, within⟩ := run_logs game
  exact ⟨result.trace.length, result, events, within, ran, ended.isOver⟩

end FuelDuel.Match
