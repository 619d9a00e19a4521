import FuelDuel.CommandLine.Arguments
import FuelDuel.Language.Canonical
import FuelDuel.Language.Layout
import FuelDuel.Match
import FuelDuel.World.Rehearsal

/-!
What a command prints, as a function of its arguments and of the files it names.
-/

namespace FuelDuel.CommandLine

open FuelDuel.Arena
open FuelDuel.Language
open FuelDuel.Text
open FuelDuel.World

/-- Why a file cannot be read. -/
inductive FileError where
  | notFound
  | isDirectory
  | notText
  | other (reason : String)
  deriving DecidableEq, Repr

/-- What is wrong. -/
def FileError.message : FileError → String
  | notFound => "No such file or directory (os error 2)"
  | isDirectory => "Is a directory (os error 21)"
  | notText => "stream did not contain valid UTF-8"
  | other reason => reason

/-- The contents of files by name. -/
abbrev Files : Type := String → Except FileError ByteArray

/-- The text of a file. -/
def Files.text (files : Files) (name : String) : Except FileError String := do
  match String.fromUTF8? (← files name) with
  | some text => return text
  | none => throw .notText

/-- What a command prints and its exit status. -/
structure Output where
  status : Nat := 0
  stdout : String := ""
  stderr : String := ""
  log : List Event := []

/-- A failed command says why. -/
def Output.failure (reason : String) : Output :=
  { status := 1, stderr := "Error: " ++ reason ++ "\n" }

/-- Wrong arguments. -/
def Output.misuse : Output := { status := 2 }

/-- The output of a result. -/
def Output.ofResult : Except String Output → Output
  | .ok output => output
  | .error reason => .failure reason

/-- A program from a file; errors in it are reported with the line they are in. -/
def loadProgram (files : Files) (name : String) : Except String Program := do
  let source ← (files.text name).mapError FileError.message
  (Program.parse source).mapError (·.report source)

/-- The configuration from a file, if one is named, with the options that override it. -/
def loadConfig (files : Files) (options : MatchOptions) : Except Config.LoadError Config := do
  let config ← match options.config with
    | none => pure {}
    | some name => do
        let text ← (files.text name).mapError fun error => .unreadable error.message
        Config.load text
  return { config with
    seed := (options.seed.map UInt64.ofNat).getD config.seed
    maxTicks := options.ticks.getD config.maxTicks }

/-- The text of a file, if one is named. -/
def optionalText (files : Files) : Option String → Except String (Option String)
  | none => .ok none
  | some name => ((files.text name).mapError FileError.message).map some

/-- Why a match cannot be played. Errors in a program are reported with the line they are in. -/
def matchFailure : MatchError → String
  | .program side error source => side.name ++ " program: " ++ error.report source
  | error => error.report

/-- The result of a match as it is printed. -/
def resultText (json : Bool) (result : MatchResult) : String :=
  if json then result.json.pretty ++ "\n"
  else
    String.join (result.trace.map fun report => report.text ++ "\n") ++ result.outcome.text ++
      " (after " ++ ofNat result.ticks ++ " ticks)\n"

/-- Plays a match. -/
def playMatch (files : Files) (options : MatchOptions) : Except String Output := do
  let config ← (loadConfig files options).mapError Config.LoadError.message
  let red ← optionalText files options.red
  let blue ← optionalText files options.blue
  let (result, log) ← (Match.play red blue config).mapError matchFailure
  return { stdout := resultText options.json result, log }

/-- Carries out a command. -/
def Command.run (files : Files) : Command → Output
  | parse file => .ofResult do
      let program ← loadProgram files file
      return { stdout := program.canonical ++ "\n" }
  | format file => .ofResult do
      let program ← loadProgram files file
      return { stdout := program.source }
  | trace file ticks => .ofResult do
      let program ← loadProgram files file
      let actions ← (Rehearsal.actions program ticks {}).mapError (·.message)
      return { stdout := commaList (actions.map (·.keyword)) ++ "\n" }
  | play options => .ofResult (playMatch files options)

/-- The files that a command names. -/
def Command.files : Command → List String
  | parse file => [file]
  | format file => [file]
  | trace file _ => [file]
  | play options => [options.config, options.red, options.blue].filterMap id

/-- Whether an event is shown: faults always, the course of a match on demand. -/
def isShown (verbose : Bool) : Event → Bool
  | .programFaulted .. => true
  | .tickResolved .. | .matchFinished .. => verbose
  | .barrelSpawned .. | .moveBlocked .. => false

/-- Carries out a command and keeps of its log what is shown. -/
def Invocation.run (files : Files) (invocation : Invocation) : Output :=
  let output := invocation.command.run files
  { output with log := output.log.filter (isShown invocation.verbose) }

/-- The files that the arguments name. -/
def namedFiles (arguments : List String) : List String :=
  match parseArguments? arguments with
  | none => []
  | some invocation => invocation.command.files

/-- Carries out what the arguments ask for. -/
def run (arguments : List String) (files : Files) : Output :=
  match parseArguments? arguments with
  | none => .misuse
  | some invocation => invocation.run files

end FuelDuel.CommandLine
