/-
The discovery tool as a program: it reads the configuration file and the
environment, and prints what `Discovery.run` says.
-/
import InstrumentBus.Discovery

namespace InstrumentBus

/-- What a file holds, if it can be read. -/
def contents? (path : String) : IO (Option String) := do
  try
    return some (← IO.FS.readFile path)
  catch _ => return none

/-- The variables in the environment of the program, in order. -/
def environment : IO Environment := do
  let text ← contents? "/proc/self/environ"
  return ((text.getD "").splitOn "\x00").filterMap fun entry =>
    match entry.splitOn "=" with
    | name :: value :: more => some (name, "=".intercalate (value :: more))
    | _ => none

end InstrumentBus

/-- Runs the discovery tool. -/
def main (arguments : List String) : IO UInt32 := do
  let path := match InstrumentBus.Discovery.Arguments.read arguments with
    | .ok (.run a) => a.configPath
    | _ => InstrumentBus.Discovery.Arguments.standardConfig
  let file ← InstrumentBus.contents? path
  let env ← InstrumentBus.environment
  let exit := InstrumentBus.Discovery.run arguments (fun _ => file) env
  IO.print exit.output
  IO.eprint exit.complaint
  return exit.code.toUInt32
