import FuelDuel.Text.Decimal

/-!
The command line: which arguments form a command. Options may stand anywhere after the command's
name and no option may be given twice; after a double dash every argument is a file.
-/

namespace FuelDuel.CommandLine

open FuelDuel.Text

/-- The options of a match. -/
structure MatchOptions where
  red : Option String := none
  blue : Option String := none
  config : Option String := none
  seed : Option Nat := none
  ticks : Option Nat := none
  json : Bool := false
  deriving DecidableEq, Repr

/-- What the program is asked to do. -/
inductive Command where
  /-- Print the canonical text of a program. -/
  | parse (file : String)
  /-- Print a program in normalized form. -/
  | format (file : String)
  /-- List the actions of a program that runs alone. -/
  | trace (file : String) (ticks : Nat)
  /-- Play a match. -/
  | play (options : MatchOptions)
  deriving DecidableEq, Repr

/-- A command and whether to log in detail. -/
structure Invocation where
  command : Command
  verbose : Bool
  deriving DecidableEq, Repr

/-! ### Arguments of one command -/

/-- The options that a command knows, with and without a value. -/
structure Options where
  valued : List String
  flags : List String
  deriving DecidableEq, Repr

/-- The arguments of one command, sorted by kind. -/
structure Arguments where
  files : List String := []
  values : List (String × String) := []
  flags : List String := []
  deriving DecidableEq, Repr

namespace Arguments

/-- Adds an option with its value, unless it was given before. -/
def addValue? (arguments : Arguments) (name value : String) : Option Arguments :=
  if (arguments.values.lookup name).isSome then none
  else some { arguments with values := (name, value) :: arguments.values }

/-- Adds an option without a value, unless it was given before. -/
def addFlag? (arguments : Arguments) (name : String) : Option Arguments :=
  if arguments.flags.contains name then none
  else some { arguments with flags := name :: arguments.flags }

/-- Adds files at the end. -/
def addFiles (arguments : Arguments) (files : List String) : Arguments :=
  { arguments with files := arguments.files ++ files }

end Arguments

/-- Whether an argument is written like an option. A dash alone is not. -/
def isOption (argument : String) : Bool := "-".isPrefixOf argument && argument != "-"

/-- The option to log in detail, which every command knows. -/
def verboseOption : String := "--verbose"

/-- The full name of an option, and the value after an equals sign. -/
def splitOption (argument : String) : String × Option String :=
  let chars := argument.toList
  let name := String.ofList (chars.takeWhile (· != '='))
  match chars.dropWhile (· != '=') with
  | _ :: value => (name, some (String.ofList value))
  | [] => (if name = "-v" then verboseOption else name, none)

/-- Sorts the arguments of a command; `none` if one is not known, has no value where it needs one
or has one where it takes none, or is given twice. -/
def sortArguments? (options : Options) (arguments : Arguments) : List String → Option Arguments
  | [] => some arguments
  | argument :: rest =>
      if argument = "--" then some (arguments.addFiles rest)
      else if !isOption argument then sortArguments? options (arguments.addFiles [argument]) rest
      else
        let (name, value?) := splitOption argument
        if options.flags.contains name && value?.isNone then do
          sortArguments? options (← arguments.addFlag? name) rest
        else if !options.valued.contains name then none
        else match value?, rest with
          | some value, rest => do
              sortArguments? options (← arguments.addValue? name value) rest
          | none, value :: rest =>
              if isOption value then none
              else do sortArguments? options (← arguments.addValue? name value) rest
          | none, [] => none

/-! ### Values -/

/-- A number of 64 bits in decimal digits, with or without a plus sign. -/
def number? (text : String) : Option Nat :=
  let digits := match text.toList with
    | '+' :: digits => digits
    | digits => digits
  if digits.isEmpty || !digits.all Char.isDigit then none
  else
    let value := digitsValue digits
    if value < UInt64.size then some value else none

/-- A file name, which is not empty. -/
def file? (text : String) : Option String := if text.isEmpty then none else some text

namespace Arguments

/-- The value of an option, read by `read?`; the outer `none` means that it cannot be read. -/
def option? {α : Type} (arguments : Arguments) (read? : String → Option α) (name : String) :
    Option (Option α) :=
  match arguments.values.lookup name with
  | none => some none
  | some text => (read? text).map some

/-- The only file. -/
def onlyFile? (arguments : Arguments) : Option String :=
  match arguments.files with
  | [name] => file? name
  | _ => none

/-- The options of a match; it takes no files besides. -/
def matchOptions? (arguments : Arguments) : Option MatchOptions := do
  if !arguments.files.isEmpty then none
  return {
    red := ← arguments.option? file? "--red"
    blue := ← arguments.option? file? "--blue"
    config := ← arguments.option? file? "--config"
    seed := ← arguments.option? number? "--seed"
    ticks := ← arguments.option? number? "--ticks"
    json := arguments.flags.contains "--json" }

end Arguments

/-! ### Commands -/

/-- The options of the command of a given name. -/
def commandOptions? : String → Option Options
  | "parse" => some ⟨[], [verboseOption]⟩
  | "fmt" => some ⟨[], [verboseOption]⟩
  | "trace" => some ⟨["--ticks"], [verboseOption]⟩
  | "run" => some ⟨["--red", "--blue", "--config", "--seed", "--ticks"], ["--json", verboseOption]⟩
  | _ => none

/-- The number of ticks that are traced unless another number is given. -/
def defaultTraceTicks : Nat := 20

/-- The command of a given name with its arguments. -/
def command? (name : String) (arguments : Arguments) : Option Command :=
  match name with
  | "parse" => arguments.onlyFile?.map .parse
  | "fmt" => arguments.onlyFile?.map .format
  | "trace" => do
      let file ← arguments.onlyFile?
      let ticks ← arguments.option? number? "--ticks"
      return .trace file (ticks.getD defaultTraceTicks)
  | "run" => arguments.matchOptions?.map .play
  | _ => none

/-- The invocation of a command, given its name and arguments. -/
def invocation? (verbose : Bool) : List String → Option Invocation
  | [] => none
  | name :: rest => do
      let options ← commandOptions? name
      let arguments ← sortArguments? options {} rest
      let command ← command? name arguments
      return ⟨command, verbose || arguments.flags.contains verboseOption⟩

/-- What the arguments of the program ask for; `none` if they are not used correctly. The option to
log in detail may also stand before the command's name. -/
def parseArguments? : List String → Option Invocation
  | [] => none
  | first :: rest =>
      if first = "-v" ∨ first = verboseOption then invocation? true rest
      else invocation? false (first :: rest)

end FuelDuel.CommandLine
