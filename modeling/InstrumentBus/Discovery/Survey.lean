/-
A survey of a bus: look for listeners, then ask each of them one question
through the registry, one after the other, and let go of the registry.
Before the question is asked the instrument is cleared, so that what an
earlier user left unread is not taken for the answer.
-/
import InstrumentBus.Bus.Simulated
import InstrumentBus.Configuration
import InstrumentBus.Registry.World

namespace InstrumentBus.Discovery

/-- The instruments of the demonstration bus, with what they say they
are. -/
def demonstration : List (Address × String) :=
  [(⟨5, 0⟩, "ACME,DMM-100,SIM0005,1.02"), (⟨12, 0⟩, "ACME,PSU-30,SIM0012,2.10"),
    (⟨12, 3⟩, "ACME,SCANNER-8,SIM1203,0.9")]

/-- The question that every instrument of the demonstration bus answers. -/
def identify : String := "*IDN?"

/-- The demonstration bus. -/
def demonstrationBus : Simulated :=
  demonstration.foldl (fun b p => b.attach p.1 (Instrument.silent.respond identify p.2)) .empty

/-- What is done to an instrument. -/
def inquiry (question : String) : Program := [.clear, .write question, .read]

variable {β : Type} [RawBus β]

/-- The answer of an instrument, or what went wrong. -/
abbrev Answer := Except Failure String

/-- What a task that has asked its question has to say. -/
def answerOf : Option Task → Answer
  | some (.call c) =>
    match c.stage, c.replies.getLast? with
    | .ended (.error f), _ => .error f
    | _, some (.value (.text s)) => .ok s
    | _, _ => .ok ""
  | _ => .ok ""

/-- An instrument asked. -/
def ask (question : String) (w : World β) (a : Address) : World β × Answer :=
  let id := w.nextId
  let w := (w.start (.call (.new a (inquiry question)))).settle id
  (w, answerOf (w.task? id))

/-- Instruments asked, one after the other. -/
def askAll (question : String) (w : World β) :
    List Address → World β × List (Address × Answer)
  | [] => (w, [])
  | a :: rest =>
    let (w, answer) := ask question w a
    let (w, answers) := askAll question w rest
    (w, (a, answer) :: answers)

/-- The registry disposed of. -/
def dispose (w : World β) : World β := (w.start (.disposal .mark)).settle w.nextId

/-- What a survey found. -/
structure Findings where
  scan : ScanOutcome
  answers : List (Address × Answer)

/-- A survey of a bus, as a configuration wants it. -/
def survey (c : Configuration) (question : String) (bus : β) : β × Except Failure Findings :=
  let (result, bus) := (Scan.scan c.bus.board c.scan.lowest c.scan.highest).run bus
  match result with
  | .error f => (bus, .error f)
  | .ok scan =>
    let (w, answers) := askAll question (World.idle bus c.newRegistry) scan.addresses
    ((dispose w).site.bus, .ok ⟨scan, answers⟩)

-- ============================================================== report

/-- A line, with its line feed. -/
def line (s : String) : String := s ++ "\n"

/-- The first line of a report. -/
def header (c : Configuration) (found : Nat) : String :=
  let n := toString found
  let b := toString c.bus.board
  let lo := toString c.scan.lowest
  let hi := toString c.scan.highest
  line s!"Found {n} instrument(s) on board {b} (primary {lo}..={hi})"

/-- What is said when not all listeners are shown. -/
def cutNotice (scan : ScanOutcome) : String :=
  if scan.truncated then
    let r := toString scan.reported
    let n := toString scan.addresses.length
    line s!"  driver reported {r} listeners; only the first {n} are shown"
  else ""

/-- The line of an instrument. -/
def answerLine (p : Address × Answer) : String :=
  let a := p.1.text
  match p.2 with
  | .ok s => line s!"  {a}: {s}"
  | .error f =>
    let m := f.message
    line s!"  {a}: error: {m}"

/-- The report of a survey. -/
def report (c : Configuration) (f : Findings) : String :=
  header c f.scan.addresses.length ++ cutNotice f.scan ++ String.join (f.answers.map answerLine)

end InstrumentBus.Discovery
