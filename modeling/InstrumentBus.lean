import InstrumentBus.Failure
import InstrumentBus.Timeout
import InstrumentBus.Terminator
import InstrumentBus.EndOfString
import InstrumentBus.Status.Byte
import InstrumentBus.Text.Latin
import InstrumentBus.Text.Trim
import InstrumentBus.Numeral
import InstrumentBus.Decimal.Shortest
import InstrumentBus.Response
import InstrumentBus.Keyed
import InstrumentBus.Bus.Recorded
import InstrumentBus.Bus.Scripted
import InstrumentBus.Bus.Simulated
import InstrumentBus.Session.Act
import InstrumentBus.Scan
import InstrumentBus.Registry.World
import InstrumentBus.Bench.Run
import InstrumentBus.Main
import InstrumentBus.Proofs.Run
import InstrumentBus.Proofs.Registry.View
import InstrumentBus.Proofs.Session.Stepwise
import InstrumentBus.Proofs.Session.Access
import InstrumentBus.Proofs.Session.Conduct
import InstrumentBus.Proofs.Registry.Ownership
import InstrumentBus.Proofs.Registry.Effect
import InstrumentBus.Proofs.Registry.Change
import InstrumentBus.Proofs.Registry.Exclusive
import InstrumentBus.Proofs.Registry.Retired
import InstrumentBus.Proofs.Isolation.Isolated
import InstrumentBus.Proofs.Registry.Standstill
import InstrumentBus.Proofs.Registry.Deeds
import InstrumentBus.Proofs.Registry.Refusal
import InstrumentBus.Proofs.Registry.OneCall
import InstrumentBus.Proofs.Registry.Swept
import InstrumentBus.Proofs.Registry.Stocked
import InstrumentBus.Proofs.Registry.LastUse
import InstrumentBus.Proofs.Registry.Shifted
import InstrumentBus.Proofs.Registry.Dropped
import InstrumentBus.Proofs.Registry.Overlap
import InstrumentBus.Proofs.Registry.Settled
import InstrumentBus.Proofs.Registry.Course
import InstrumentBus.Proofs.Registry.Order
import InstrumentBus.Proofs.Session.Lifetime
import InstrumentBus.Proofs.Session.Closed
import InstrumentBus.Proofs.Session.Meeting
import InstrumentBus.Proofs.Session.Channel
import InstrumentBus.Proofs.Session.Retry
import InstrumentBus.Proofs.Session.Alone
import InstrumentBus.Proofs.Session.Awaited
import InstrumentBus.Proofs.Session.Resync
import InstrumentBus.Proofs.Config.Consumers
import InstrumentBus.Proofs.Config.Fields
import InstrumentBus.Proofs.Config.Reading
import InstrumentBus.Proofs.Config.Items
import InstrumentBus.Proofs.Config.Layers
import InstrumentBus.Proofs.Numeral
import InstrumentBus.Proofs.Config.Variables
import InstrumentBus.Proofs.Config.Override
import InstrumentBus.Proofs.Toml.Plain
import InstrumentBus.Proofs.Toml.Quoted
import InstrumentBus.Proofs.Config.Sheet
import InstrumentBus.Proofs.Config.Rendered
import InstrumentBus.Proofs.Session.Message
import InstrumentBus.Proofs.Session.Drained
import InstrumentBus.Proofs.Bus.Stream
import InstrumentBus.Proofs.Registry.Uses
import InstrumentBus.Proofs.Registry.Judged
import InstrumentBus.Proofs.Registry.Evicted
import InstrumentBus.Proofs.Registry.Ticks
import InstrumentBus.Proofs.Registry.Idle
import InstrumentBus.Proofs.Registry.Expiry
import InstrumentBus.Proofs.Session.Timetable
import InstrumentBus.Proofs.Discovery.Scan
import InstrumentBus.Proofs.Discovery.Settle
import InstrumentBus.Proofs.Discovery.Inquiry
import InstrumentBus.Proofs.Discovery.Survey
import InstrumentBus.Proofs.Discovery.CommandLine
import InstrumentBus.Proofs.Discovery.Tool
import InstrumentBus.Proofs.Session.Reported
import InstrumentBus.Proofs.Discovery.Decoded
import InstrumentBus.Proofs.Response
import InstrumentBus.Proofs.Timeout
