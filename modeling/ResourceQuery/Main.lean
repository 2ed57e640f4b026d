import ResourceQuery.CommandLine
import ResourceQuery.Url

/-!
The program: it runs the command of its arguments and does what the outcome says.
-/
namespace ResourceQuery

/-- Do what an outcome says. -/
def CommandLine.Outcome.perform (outcome : Outcome) : IO UInt32 := do
  for (path, text) in outcome.files do
    IO.FS.writeFile path text
  IO.print outcome.stdout
  IO.eprint outcome.stderr
  return outcome.code.toUInt32

end ResourceQuery

/-- Run the command of the arguments. -/
def main (arguments : List String) : IO UInt32 := do
  let environment ← IO.getEnv "RQLMONGO_ID_FIELD"
  match ResourceQuery.CommandLine.run ResourceQuery.Url.queryOf environment arguments with
  | .ok outcome => outcome.perform
  | .error fault =>
    IO.eprintln (fault.message?.getD "The query cannot be handled.")
    return 1
