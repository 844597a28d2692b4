/-
What a bench script can ask for, and what it is answered.

A script is a list of steps. Some act on the bus directly, as a
maintainer with a probe would; some act on a session of a name; and some
use a registry, at once or as tasks in the background. Each step has a
result; a step that is refused has the refusal as its result, and the
script goes on.
-/
import InstrumentBus.Bench.Bus
import InstrumentBus.Scan
import InstrumentBus.Session.Act

namespace InstrumentBus

/-- Something done to the bus without a session. -/
inductive BusStep where
  -- to a bus in memory
  | attach (a : Address) (i : Instrument)
  | pushOutput (a : Address) (bytes : List UInt8)
  | setStatus (a : Address) (status : StatusByte)
  | failOpen (refuse : Bool)
  | injectFault (f : Fault)
  | scriptDiscovery (words : List UInt16) (reported : Nat)
  | clearCalls
  | callCount
  | offlineCount (descriptor : Int)
  | totalOffline
  | onlineSessions
  | written (a : Address)
  -- to any bus
  | rawOpen (r : OpenRequest)
  | rawTakeOffline (descriptor value : Int)
  | rawWrite (descriptor : Int) (data : List UInt8)
  | rawClear (descriptor : Int)
  | rawSerialPoll (descriptor : Int)
  | rawRead (descriptor : Int) (capacity : Nat)
  | rawDiscover (board : Int32) (probes : List UInt16) (capacity : Nat)
  | errorText (code : Int)
  | version
  | validate (operation : String) (command : Option (List UInt8))
  | scan (board : Int32) (lo hi : UInt8)
  | discover (board : Int32) (lo hi : UInt8)
  deriving Repr

/-- A bus step that is due some time after the step it accompanies. -/
structure Timed where
  after : Duration
  step : BusStep
  deriving Repr

/-- A request to a session, and what is timed to happen beside it. -/
structure Accompanied where
  act : Act
  schedule : List Timed
  deriving Repr

/-- One use of the registry. -/
structure Use where
  address : Address
  acts : List Accompanied
  silent : Bool
  deriving Repr

/-- A step of a script. -/
inductive Step where
  | bus (s : BusStep)
  | sleep (length : Duration)
  -- a session opened under a name, in place of the one of that name
  | connect (name : String) (primary secondary : UInt8) (options : SessionOptions)
  | drop (name : String)
  | act (name : String) (a : Accompanied)
  -- the registry used, and waited for. The token of the use may be
  -- cancelled beforehand, or some time after the start
  | execute (use : Use) (cancelled : Bool) (cancelAfter : Option Duration)
      (schedule : List Timed)
  | spawn (name : String) (use : Use)
  | cancel (name : String)
  | abort (name : String)
  | join (name : String)
  | dispose
  | spawnDispose (name : String)
  | evictIdle
  | contains (a : Address)
  | dropRegistry
  deriving Repr

/-- How a use of the registry ended. -/
structure Outcome where
  entered : Option (Nat × Int)
  replies : List Reply
  silent : Bool
  result : Except Failure Unit

/-- The result of a step. -/
inductive StepResult where
  | nothing
  | failure (f : Failure)
  | reply (r : Reply)
  | number (n : Int)
  | flag (b : Bool)
  | text (s : String)
  | writes (l : List (List UInt8))
  -- the status word and buffer of a raw read
  | buffer (status : StatusWord) (bytes : List UInt8)
  | words (l : List UInt16)
  | scan (board : Int32) (o : ScanOutcome)
  | addresses (l : List Address)
  | noSession
  | outcome (o : Outcome)
  -- a task waited for has ended, or was dropped
  | joined (whole : Bool)

/-- How a task ended. -/
inductive Ending where
  | used (o : Outcome)
  | disposed

/-- A task that ended in the background. -/
structure Event where
  name : String
  -- when it ended, in milliseconds
  time : Nat
  ending : Ending

/-- What the registry shows. -/
structure RegistryView where
  count : Nat
  disposed : Bool
  created : Nat

/-- What is kept of a step. -/
structure Record where
  result : StepResult
  -- the time after it, in milliseconds
  time : Nat
  registers : Registers
  calls : List RawCall
  events : List Event
  registry : Option RegistryView

end InstrumentBus
