import FuelDuel.CommandLine.Run

/-!
The program: reads the files that the arguments name, carries the command out, and prints.
-/

namespace FuelDuel.CommandLine

/-- How the program is used. -/
def usage : String :=
  "usage: fuelduel [-v] parse FILE | fmt FILE | trace FILE [--ticks N] | " ++
    "run [--red FILE] [--blue FILE] [--config FILE] [--seed N] [--ticks N] [--json]"

/-- Reads a file, and names the reason if that fails. -/
def readFile (name : String) : IO (Except FileError ByteArray) := do
  try
    return .ok (← IO.FS.readBinFile name)
  catch
    | .noFileOrDirectory .. => return .error .notFound
    | .inappropriateType .. => return .error .isDirectory
    | error => return .error (.other error.toString)

end FuelDuel.CommandLine

open FuelDuel.CommandLine in
/-- Reads the files, runs the command, and prints its output. -/
def main (arguments : List String) : IO UInt32 := do
  let mut contents := []
  for name in namedFiles arguments do
    contents := (name, ← readFile name) :: contents
  let known := contents
  let output := run arguments fun name => (known.lookup name).getD (.error .notFound)
  if output.status = Output.misuse.status then IO.eprintln usage
  for event in output.log do
    IO.eprintln event.text
  IO.print output.stdout
  IO.eprint output.stderr
  return output.status.toUInt32
