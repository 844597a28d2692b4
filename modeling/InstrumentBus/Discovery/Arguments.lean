/-
The command line of the discovery tool. Arguments are taken from left to
right, and the first that cannot be taken ends the reading; so does a
request for help, whatever follows it. Nothing may be given twice. The
value of an option stands behind an equals sign or in the next argument,
where it may not start with a dash unless it is one.
-/
import InstrumentBus.Configuration

namespace InstrumentBus.Discovery

/-- What the tool was called with. -/
structure Arguments where
  config : Option String
  board : Option Int32
  lowest : Option UInt8
  highest : Option UInt8
  query : Option String
  simulate : Bool
  printConfig : Bool
  deriving DecidableEq, Repr, Inhabited

/-- What the tool is asked to do. -/
inductive Request where
  | help
  | run (a : Arguments)
  deriving DecidableEq, Repr

/-- An argument that cannot be taken. -/
inductive ArgumentFault where
  | unknown (argument : String)
  | repeated (name : String)
  | missingValue (name : String)
  | unexpectedValue (name value : String)
  | badValue (name value : String)
  deriving DecidableEq, Repr

/-- What is said of an argument that cannot be taken. -/
def ArgumentFault.message : ArgumentFault → String
  | .unknown argument => s!"unexpected argument '{argument}' found"
  | .repeated name => s!"the argument '--{name}' cannot be used multiple times"
  | .missingValue name => s!"a value is required for '--{name}' but none was supplied"
  | .unexpectedValue name value => s!"unexpected value '{value}' for '--{name}' found"
  | .badValue name value => s!"invalid value '{value}' for '--{name}'"

namespace Arguments

/-- Nothing given. -/
def none : Arguments := ⟨.none, .none, .none, .none, .none, false, false⟩

/-- The file that is read unless another is given. -/
def standardConfig : String := "config/gpib.toml"

/-- The command that is sent unless another is given. -/
def standardQuery : String := "*IDN?"

/-- The path of the configuration file. -/
def configPath (a : Arguments) : String := a.config.getD standardConfig

/-- The command sent to every instrument found. -/
def queryText (a : Arguments) : String := a.query.getD standardQuery

/-- A configuration with what was given in its place. -/
def override (a : Arguments) (c : Configuration) : Configuration :=
  { c with
    bus := { c.bus with board := a.board.getD c.bus.board }
    scan := ⟨a.lowest.getD c.scan.lowest, a.highest.getD c.scan.highest⟩ }

-- ============================================================ reading

/-- The options that take a value. -/
def valued : List String := ["config", "board", "min", "max", "query"]

/-- The options that take none. -/
def flags : List String := ["simulate", "print-config", "help"]

/-- A whole number of a type. A sign is read even where the type has
none. -/
def number? (k : IntKind) (s : String) : Option Int :=
  (Numeral.parse? true s.toList).filter k.holds

/-- An option given a value. -/
def give (a : Arguments) (name value : String) : Except ArgumentFault Arguments :=
  let number (k : IntKind) : Except ArgumentFault Int :=
    match number? k value with
    | some n => .ok n
    | .none => .error (.badValue name value)
  let once {α : Type} (x : Option α) : Except ArgumentFault Unit :=
    if x.isSome then .error (.repeated name) else .ok ()
  match name with
  | "config" => do once a.config; return { a with config := some value }
  | "board" => do
    once a.board
    let n ← number .i32
    return { a with board := some (.ofInt n) }
  | "min" => do
    once a.lowest
    let n ← number .u8
    return { a with lowest := some (.ofNat n.toNat) }
  | "max" => do
    once a.highest
    let n ← number .u8
    return { a with highest := some (.ofNat n.toNat) }
  | _ => do once a.query; return { a with query := some value }

/-- A flag given. -/
def raise (a : Arguments) (name : String) : Except ArgumentFault Arguments :=
  let once (b : Bool) : Except ArgumentFault Unit :=
    if b then .error (.repeated name) else .ok ()
  match name with
  | "simulate" => do once a.simulate; return { a with simulate := true }
  | _ => do once a.printConfig; return { a with printConfig := true }

/-- The name of a long option, and its value if it has one behind an
equals sign. -/
def split? (argument : String) : Option (String × Option String) :=
  match argument.toList with
  | '-' :: '-' :: body =>
    let name := String.ofList (body.takeWhile (· ≠ '='))
    match body.dropWhile (· ≠ '=') with
    | '=' :: value => some (name, some (String.ofList value))
    | _ => some (name, .none)
  | _ => .none

/-- An argument that cannot be the value of the option before it. -/
def isOption (argument : String) : Bool :=
  match argument.toList with
  | '-' :: _ :: _ => true
  | _ => false

/-- The rest of the arguments read, on top of those already taken. -/
def readFrom (a : Arguments) : List String → Except ArgumentFault Request
  | [] => .ok (.run a)
  | argument :: rest =>
    match split? argument with
    | .none =>
      if argument.toList.take 2 = ['-', 'h'] then .ok .help else .error (.unknown argument)
    | some ("", .none) =>
      match rest with
      | [] => .ok (.run a)
      | extra :: _ => .error (.unknown extra)
    | some (name, value) =>
      if name ∈ valued then
        match value, rest with
        | some value, rest => do readFrom (← a.give name value) rest
        | .none, value :: rest =>
          if isOption value then .error (.missingValue name)
          else do readFrom (← a.give name value) rest
        | .none, [] => .error (.missingValue name)
      else if name ∈ flags then
        match value with
        | some value => .error (.unexpectedValue name value)
        | .none =>
          if name = "help" then .ok .help
          else do readFrom (← a.raise name) rest
      else .error (.unknown argument)

/-- The arguments of the tool read. -/
def read (arguments : List String) : Except ArgumentFault Request := readFrom none arguments

end Arguments

/-- What the tool says about itself. -/
def usage : String :=
  "Find GPIB instruments and query each one\n\n" ++
  "Usage: gpib_discovery [OPTIONS]\n\n" ++
  "Options:\n" ++
  "      --config <CONFIG>  Configuration file [default: config/gpib.toml]\n" ++
  "      --board <BOARD>    Board index (overrides the configuration)\n" ++
  "      --min <MIN>        Lowest primary address to probe\n" ++
  "      --max <MAX>        Highest primary address to probe\n" ++
  "      --query <QUERY>    Command sent to every instrument found [default: *IDN?]\n" ++
  "      --simulate         Use a simulated bus with a few scripted instruments\n" ++
  "      --print-config     Print the effective configuration and exit\n" ++
  "  -h, --help             Print help\n"

end InstrumentBus.Discovery
