/-
The error codes a driver is known to report. The numbers have gaps: a
driver may also report a code that is not in this list, and then there is
nothing more to say about it than its number.
-/
namespace InstrumentBus

/-- A known driver error code. -/
inductive DriverCode where
  | edvr | ecic | enol | eadr | earg | esac | eabo | eneb
  | edma | eoip | ecap | efso | ebus | estb | esrq | etab
  deriving DecidableEq, Repr, Inhabited

namespace DriverCode

/-- Every known code, in ascending order. -/
def all : List DriverCode :=
  [.edvr, .ecic, .enol, .eadr, .earg, .esac, .eabo, .eneb, .edma, .eoip,
    .ecap, .efso, .ebus, .estb, .esrq, .etab]

/-- The number of a code. -/
def raw : DriverCode → Int
  | .edvr => 0
  | .ecic => 1
  | .enol => 2
  | .eadr => 3
  | .earg => 4
  | .esac => 5
  | .eabo => 6
  | .eneb => 7
  | .edma => 8
  | .eoip => 10
  | .ecap => 11
  | .efso => 12
  | .ebus => 14
  | .estb => 15
  | .esrq => 16
  | .etab => 20

/-- The known code with a number. -/
def ofRaw? (n : Int) : Option DriverCode := all.find? (fun c => c.raw == n)

/-- The conventional mnemonic of a code. -/
def mnemonic : DriverCode → String
  | .edvr => "EDVR"
  | .ecic => "ECIC"
  | .enol => "ENOL"
  | .eadr => "EADR"
  | .earg => "EARG"
  | .esac => "ESAC"
  | .eabo => "EABO"
  | .eneb => "ENEB"
  | .edma => "EDMA"
  | .eoip => "EOIP"
  | .ecap => "ECAP"
  | .efso => "EFSO"
  | .ebus => "EBUS"
  | .estb => "ESTB"
  | .esrq => "ESRQ"
  | .etab => "ETAB"

/-- What a code means, in a few words. -/
def description : DriverCode → String
  | .edvr => "system error"
  | .ecic => "function requires GPIB board to be CIC"
  | .enol => "no listeners on the GPIB"
  | .eadr => "GPIB board not addressed correctly"
  | .earg => "invalid argument to function call"
  | .esac => "GPIB board not system controller as required"
  | .eabo => "I/O operation aborted (timeout)"
  | .eneb => "non-existent GPIB board"
  | .edma => "DMA error"
  | .eoip => "asynchronous I/O in progress"
  | .ecap => "no capability for operation"
  | .efso => "file system error"
  | .ebus => "GPIB bus error"
  | .estb => "serial poll status byte queue overflow"
  | .esrq => "SRQ stuck in ON position"
  | .etab => "table problem"

/-- How a code is shown. -/
def text (c : DriverCode) : String := c.mnemonic ++ ": " ++ c.description

end DriverCode

end InstrumentBus
