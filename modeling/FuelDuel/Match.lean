import FuelDuel.Arena.Basic
import FuelDuel.Config.Load
import FuelDuel.Language.Parse
import FuelDuel.Language.Prebuilt

/-!
Matches: an arena that is played tick by tick until a robot is out of fuel or the tick limit is
reached.
-/

namespace FuelDuel

open FuelDuel.Arena
open FuelDuel.Language

/-- A match in progress. -/
structure Match where
  arena : Arena

/-- Why a match cannot be played. -/
inductive MatchError where
  /-- A side's program text is no program. -/
  | program (side : Side) (error : SyntaxError) (source : String)
  | config (error : Config.LoadError)
  | refused (refusal : Refusal)

namespace MatchError

/-- What is wrong. -/
def message : MatchError → String
  | program side error source =>
      side.name ++ " program: syntax error at " ++ (error.location source).text ++ ": " ++
        error.message
  | config error => error.message
  | refused refusal => refusal.message

/-- What is wrong, as it is shown to a user. -/
def report (error : MatchError) : String := "Runtime error: " ++ error.message

end MatchError

/-- What a match came to. -/
structure MatchResult where
  outcome : Outcome
  ticks : Nat
  trace : List TickReport

/-- The JSON of a result. -/
def MatchResult.json (result : MatchResult) : Json.Value :=
  .record
    [("outcome", .text result.outcome.key), ("ticks", .int result.ticks),
      ("trace", .array (result.trace.map TickReport.json))]

namespace Match

/-- The program of a side. A side without a text plays the fallback program. -/
def loadProgram (side : Side) : Option String → Except MatchError Program
  | none => .ok Prebuilt.fallback
  | some source => (Program.parse source).mapError fun error => .program side error source

/-- The match at its start, and what was logged while it was set up. -/
def build (red blue : Option String) (config : Config) :
    Except MatchError (Match × List Event) := do
  let redProgram ← loadProgram .red red
  let blueProgram ← loadProgram .blue blue
  let (arena, events) ← (Arena.start config redProgram blueProgram).mapError fun reason =>
    .config (.invalid reason)
  return (⟨arena⟩, events)

/-- The outcome, once the match is over. A robot without fuel decides before the tick limit. -/
def outcome? (game : Match) : Option Outcome :=
  game.arena.outcome?.or
    (if game.arena.config.maxTicks ≤ game.arena.tick then some .timeout else none)

/-- Plays one tick; `none` once the match is over. -/
def step (game : Match) : Except MatchError (Option Played) :=
  if game.outcome?.isSome then .ok none
  else (game.arena.nextTurn.map some).mapError .refused

/-- A finished match: the reports of the ticks that were played, the match at its end, and what was
logged. -/
structure Finished where
  trace : List TickReport
  game : Match
  events : List Event

/-- Plays a match to its end, which is at most `remaining` ticks away. -/
def playOut : (remaining : Nat) → Match → Except MatchError Finished
  | 0, game => .ok ⟨[], game, []⟩
  | remaining + 1, game => do
      match ← game.step with
      | none => return ⟨[], game, []⟩
      | some played =>
          let later ← playOut remaining ⟨played.arena⟩
          return { later with
            trace := played.report :: later.trace
            events := played.events ++ later.events }

/-- The number of ticks until the tick limit. -/
def remaining (game : Match) : Nat := game.arena.config.maxTicks - game.arena.tick

/-- Plays a match to its end. -/
def run (game : Match) : Except MatchError (MatchResult × List Event) := do
  let finished ← playOut game.remaining game
  let outcome := finished.game.outcome?.getD .timeout
  let ticks := finished.game.arena.tick
  return ({ outcome, ticks, trace := finished.trace },
    finished.events ++ [.matchFinished outcome ticks])

/-- Builds a match and plays it to its end. -/
def play (red blue : Option String) (config : Config) :
    Except MatchError (MatchResult × List Event) := do
  let (game, setUp) ← build red blue config
  let (result, events) ← game.run
  return (result, setUp ++ events)

end Match

end FuelDuel
