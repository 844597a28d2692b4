/-
The discovery tool, from its arguments to what it prints and how it
exits. It decides nothing about files and variables but is handed what
they hold.

A configuration has to make sense twice: as it was loaded, and with what
the command line put in its place. Where it does not, the tool prints
nothing but the complaint.
-/
import InstrumentBus.Config.Load
import InstrumentBus.Config.Rendered
import InstrumentBus.Discovery.Arguments
import InstrumentBus.Discovery.Survey

namespace InstrumentBus.Discovery

/-- How the tool ended. -/
structure Exit where
  code : UInt8
  output : String
  complaint : String
  deriving DecidableEq, Repr, Inhabited

/-- Why the tool could not do what it was asked to. -/
inductive Trouble where
  | load (path : String) (f : LoadFailure)
  | overrides (o : Configuration.Objection)
  | unwritable
  | noDriver
  | scan (f : Failure)
  deriving DecidableEq, Repr

-- =========================================================== complaints

/-- A text with each line after the first set in. -/
def indent (margin : String) (s : String) : String :=
  String.join (s.toList.map fun c => if c = '\n' then "\n" ++ margin else c.toString)

/-- A complaint and its causes, the nearest first. Several causes are
numbered. -/
def complain (what : String) (causes : List String) : String :=
  let listed := match causes with
    | [] => ""
    | [cause] => "\n\nCaused by:\n    " ++ indent "    " cause
    | causes =>
      "\n\nCaused by:" ++
        String.join (causes.zipIdx.map fun (cause, n) =>
          let number := toString n
          let margin := String.ofList (List.replicate (5 - number.length) ' ')
          "\n" ++ margin ++ number ++ ": " ++ indent "       " cause)
  "Error: " ++ what ++ listed ++ "\n"

/-- What is said of trouble. -/
def Trouble.message : Trouble → String
  | .load path f =>
    let causes := match f with
      | .mismatch m => [f.message, m.message]
      | f => [f.message]
    complain ("Failed to load configuration from " ++ path) causes
  | .overrides o => complain "Invalid command line overrides" [(LoadFailure.invalid o).message]
  | .unwritable => complain "out-of-range value for u64 type" []
  | .noDriver => complain "built without the `native` feature; rerun with --simulate" []
  | .scan f => complain "Bus scan failed" [f.message]

-- ============================================================= the tool

/-- What the tool prints, and the demonstration bus as it leaves it. -/
def perform (a : Arguments) (file : Option String) (env : Environment) :
    Except Trouble (String × Simulated) := do
  let loaded ← (Configuration.load a.configPath file env).mapError (.load a.configPath)
  let c := a.override loaded
  if let some o := c.objection? then throw (.overrides o)
  if a.printConfig then
    match c.render? with
    | some text => return (text, demonstrationBus)
    | none => throw .unwritable
  if ¬ a.simulate then throw .noDriver
  match survey c a.queryText demonstrationBus with
  | (bus, .ok findings) => return (report c findings, bus)
  | (_, .error f) => throw (.scan f)

/-- The exit of the tool when it was asked to do something. -/
def Arguments.exit (a : Arguments) (file : Option String) (env : Environment) :
    Exit :=
  match perform a file env with
  | .ok (output, _) => ⟨0, output, ""⟩
  | .error t => ⟨1, "", t.message⟩

/-- The exit of the tool. `file` tells what the file of a path holds. -/
def run (arguments : List String) (file : String → Option String)
    (env : Environment) : Exit :=
  match Arguments.read arguments with
  | .error f => ⟨2, "", line ("error: " ++ f.message)⟩
  | .ok .help => ⟨0, usage, ""⟩
  | .ok (.run a) => a.exit (file a.configPath) env

end InstrumentBus.Discovery
