/-
A configuration written as a TOML document: one key per line, the parts
under headers with an empty line in front of each. Numbers that a reader
of such documents could not hold are refused, so what is written can be
read back.
-/
import InstrumentBus.Configuration
import InstrumentBus.Toml.Quoted.Printer

namespace InstrumentBus.Configuration

/-- The largest number a document can hold. -/
def largest : Nat := 0x7FFFFFFFFFFFFFFF

/-- Every number of a configuration can be held by a document. -/
def Writable (c : Configuration) : Prop :=
  c.registry.idleThreshold.toNat ≤ largest ∧ c.registry.sweepInterval.toNat ≤ largest ∧
    c.polling.interval.toNat ≤ largest ∧ c.polling.budget.toNat ≤ largest

instance (c : Configuration) : Decidable c.Writable := inferInstanceAs (Decidable (_ ∧ _))

/-- A line that sets a key. -/
def keyLine (key : String) (value : List Char) : List Char :=
  key.toList ++ " = ".toList ++ value ++ ['\n']

/-- A header, with an empty line in front of it. -/
def headerLine (key : String) : List Char := '\n' :: '[' :: key.toList ++ [']', '\n']

/-- A text as a value. -/
def textValue (s : String) : List Char := Toml.Quoted.write s.toList

/-- A whole number as a value. -/
def intValue (n : Int) : List Char := (toString n).toList

/-- A truth value. -/
def boolValue (b : Bool) : List Char := (if b then "true" else "false").toList

/-- The document that a configuration is written as. -/
def document (c : Configuration) : List Char :=
  keyLine "log_level" (textValue c.logLevel) ++
    headerLine "bus" ++
    keyLine "board_index" (intValue c.bus.board.toInt) ++
    keyLine "timeout" (textValue c.bus.timeout.name) ++
    keyLine "terminator" (textValue c.bus.terminator.name) ++
    keyLine "assert_eoi" (boolValue c.bus.assertEnd) ++
    keyLine "eos_char" (intValue c.bus.eosCharacter.toNat) ++
    keyLine "eos_flags" (intValue c.bus.eosFlags.toNat) ++
    headerLine "registry" ++
    keyLine "idle_threshold_secs" (intValue c.registry.idleThreshold.toNat) ++
    keyLine "sweep_interval_secs" (intValue c.registry.sweepInterval.toNat) ++
    headerLine "polling" ++
    keyLine "interval_ms" (intValue c.polling.interval.toNat) ++
    keyLine "timeout_ms" (intValue c.polling.budget.toNat) ++
    headerLine "scan" ++
    keyLine "min_primary" (intValue c.scan.lowest.toNat) ++
    keyLine "max_primary" (intValue c.scan.highest.toNat)

/-- A configuration as a TOML document, where it can be written as one. -/
def render? (c : Configuration) : Option String :=
  if c.Writable then some (String.ofList c.document) else none

end InstrumentBus.Configuration
