/-
The configuration of a program that uses the bus: how sessions are
opened, when they are given up, how waits are paced, and which addresses
are looked at. Every setting has a standard value.

Every configuration that fits the types below can be held; not every one
makes sense. `Configuration.objection?` is what is wrong with one, and it
looks for exactly what the users of a configuration would trip over.
-/
import InstrumentBus.Registry
import InstrumentBus.Scan

namespace InstrumentBus

/-- How sessions are opened. -/
structure BusSettings where
  board : Int32
  timeout : Timeout
  terminator : Terminator
  -- the last byte of each write asserts END
  assertEnd : Bool
  eosCharacter : UInt8
  eosFlags : UInt16
  deriving DecidableEq, Repr, Inhabited

/-- When sessions are given up. -/
structure RegistrySettings where
  -- how long a session may go unused, in seconds
  idleThreshold : UInt64
  -- how often unused sessions are looked for, in seconds
  sweepInterval : UInt64
  deriving DecidableEq, Repr, Inhabited

/-- How waits are paced. -/
structure PollingSettings where
  -- the time between two polls, in milliseconds
  interval : UInt64
  -- how long to wait in all, in milliseconds
  budget : UInt64
  deriving DecidableEq, Repr, Inhabited

/-- Which addresses are looked at. -/
structure ScanSettings where
  lowest : UInt8
  highest : UInt8
  deriving DecidableEq, Repr, Inhabited

/-- A configuration. -/
structure Configuration where
  logLevel : String
  bus : BusSettings
  registry : RegistrySettings
  polling : PollingSettings
  scan : ScanSettings
  deriving DecidableEq, Repr, Inhabited

/-- The standard way to open sessions. -/
def BusSettings.standard : BusSettings := ⟨0, .standard, .standard, true, 0, 0⟩

/-- Five minutes unused; looked at once a minute. -/
def RegistrySettings.standard : RegistrySettings := ⟨300, 60⟩

/-- Every fifty milliseconds, for five seconds. -/
def PollingSettings.standard : PollingSettings := ⟨50, 5000⟩

/-- All primary addresses a device can have. -/
def ScanSettings.standard : ScanSettings := ⟨Address.minPrimary, Address.maxPrimary⟩

namespace Configuration

/-- The standard configuration. -/
def standard : Configuration := ⟨"info", .standard, .standard, .standard, .standard⟩

-- ================================================= what is wrong with it

/-- The levels of logging. -/
def logLevels : List String := ["trace", "debug", "info", "warn", "error"]

/-- What can be wrong with a configuration. -/
inductive Objection where
  | logLevel (found : String)
  | board (found : Int32)
  | eosFlags (found : UInt16)
  | pollInterval
  | sweepInterval
  | scanRange (lowest highest : UInt8)
  deriving DecidableEq, Repr

/-- A flag word in hexadecimal, with at least four digits. -/
def Objection.flagWord (flags : UInt16) : String :=
  let digits := Flags.hex flags.toNat
  "0x" ++ String.ofList (List.replicate (4 - digits.length) '0') ++ digits

/-- What is said of a configuration that is objected to. -/
def Objection.message : Objection → String
  | .logLevel found =>
    let levels := ", ".intercalate logLevels
    s!"Invalid log_level '{found}'. Must be one of: {levels}"
  | .board found =>
    let n := toString found
    s!"Invalid board_index {n}. Must be >= 0"
  | .eosFlags found =>
    let w := flagWord found
    s!"Invalid eos_flags {w}. Only REOS (0x400), XEOS (0x800) and BIN (0x1000) are allowed"
  | .pollInterval => "Invalid polling.interval_ms 0. Must be > 0"
  | .sweepInterval => "Invalid registry.sweep_interval_secs 0. Must be > 0"
  | .scanRange lowest highest =>
    let a := toString lowest
    let b := toString highest
    s!"Invalid scan range {a}..={b}. Bounds must be within 1..=30 and min <= max"

/-- The first thing that is wrong with a configuration, if anything is. -/
def objection? (c : Configuration) : Option Objection :=
  if c.logLevel ∉ logLevels then some (.logLevel c.logLevel)
  else if c.bus.board < 0 then some (.board c.bus.board)
  else if ¬ EndOfString.FlagsKnown c.bus.eosFlags then some (.eosFlags c.bus.eosFlags)
  else if c.polling.interval = 0 then some .pollInterval
  else if c.registry.sweepInterval = 0 then some .sweepInterval
  else if ¬ Scan.ValidRange c.scan.lowest c.scan.highest then
    some (.scanRange c.scan.lowest c.scan.highest)
  else none

/-- The configuration makes sense. -/
def IsValid (c : Configuration) : Prop := c.objection? = none

instance (c : Configuration) : Decidable c.IsValid := inferInstanceAs (Decidable (_ = _))

-- ======================================================= what it is for

/-- What sessions are opened with. Flags without meaning are left out. -/
def sessionOptions (c : Configuration) : SessionOptions :=
  { board := c.bus.board
    timeout := c.bus.timeout
    terminator := c.bus.terminator
    assertEnd := c.bus.assertEnd
    endOfString := ⟨c.bus.eosCharacter, c.bus.eosFlags &&& EndOfString.known⟩ }

/-- When the registry gives sessions up. -/
def sweepPolicy (c : Configuration) : SweepPolicy :=
  ⟨.ofSecs c.registry.idleThreshold.toNat, .ofSecs c.registry.sweepInterval.toNat⟩

/-- The time between two polls of a wait. -/
def pollInterval (c : Configuration) : Duration := .ofMillis c.polling.interval.toNat

/-- How long a wait lasts at most. -/
def pollBudget (c : Configuration) : Duration := .ofMillis c.polling.budget.toNat

/-- A registry as the configuration wants it. -/
def newRegistry (c : Configuration) : Registry := .empty c.sessionOptions c.sweepPolicy

end Configuration

end InstrumentBus
