/-
What is left of a session that has been closed: nothing can be done with
the instrument any more, and whoever tries is told so, without a call on
the bus.

Every operation looks at the `closed` flag before it makes its first raw
call, so an operation that is composed of others is stopped by the first
of them (`Refuses.bind`, `Refuses.map`). Two operations look at something
else before: a wait inspects the length of its interval when it is begun,
and its token before each poll, and the flag is looked at by the poll
alone. A wait with no interval, or with a token that is cancelled
already, is therefore refused for that, be its session closed or not;
`Act.earlyRefusal?` is that refusal. A query that waits for its answer is
not concerned, since the write that it begins with comes first.
-/
import InstrumentBus.Bus.Recorded
import InstrumentBus.Bus.Simulated
import InstrumentBus.Proofs.Session.Exchange

namespace InstrumentBus

/-- Why a wait is refused that has not polled yet, if it is: its interval
is looked at first, its token after that. -/
def Pace.refusal? (p : Pace) (c : Condition) : Option Failure :=
  if p.interval.isZero then some (.invalidArgument .zeroInterval)
  else if p.cancelled then some (.cancelled c.operation)
  else none

namespace Act

/-- The act is one that reaches the instrument when its session is open. -/
def doesIO : Act → Bool
  | .write _ | .writeBytes _ | .readBytes _ | .read | .readAs _ | .query .. | .queryAsync ..
  | .serialPoll | .messageAvailable | .serviceRequested | .await .. | .clear => true
  | .close | .version | .setTerminator _ | .info | .label | .sleep _ | .fail _ => false

/-- Why an act is refused before its session is looked at. -/
def earlyRefusal? : Act → Option Failure
  | .await condition pace => pace.refusal? condition
  | _ => none

end Act

-- ============================================ exchanges on a closed session

variable {β α γ : Type}

/-- The exchange is told that its session has been closed, and the driver
is left alone. -/
def Exchange.Refuses (x : Exchange β α) (b : β) : Prop :=
  x.run b = (.error Session.sessionClosed, b)

namespace Exchange.Refuses

variable {x : Exchange β α} {b : β}

theorem bind (h : x.Refuses b) (f : α → Exchange β γ) : (x >>= f).Refuses b :=
  Exchange.run_bind_error f h

theorem map (f : α → γ) (h : x.Refuses b) : (f <$> x).Refuses b := by
  unfold Exchange.Refuses at h ⊢
  rw [Exchange.run_map, h]
  rfl

end Exchange.Refuses

namespace Session

variable [RawBus β] {s : Session}

theorem refuses_write (hs : s.closed = true) (command : String) (b : β) :
    (s.write command).Refuses b := (run_write s command b).trans (if_pos hs)

theorem refuses_writeBytes (hs : s.closed = true) (data : List UInt8) (b : β) :
    (s.writeBytes data).Refuses b := (run_writeBytes s data b).trans (if_pos hs)

theorem refuses_readBytes (hs : s.closed = true) (capacity : Nat) (b : β) :
    (s.readBytes capacity).Refuses b := (run_readBytes s capacity b).trans (if_pos hs)

theorem refuses_read (hs : s.closed = true) (b : β) : s.read.Refuses b :=
  (run_read s b).trans (if_pos hs)

theorem refuses_readAs (hs : s.closed = true) (kind : ResponseKind) (b : β) :
    (s.readAs kind).Refuses b := (refuses_read hs b).bind _

theorem refuses_query (hs : s.closed = true) (command : String) (kind : ResponseKind) (b : β) :
    (s.query command kind).Refuses b := (refuses_write hs command b).bind _

theorem refuses_serialPoll (hs : s.closed = true) (b : β) : s.serialPoll.Refuses b :=
  (run_serialPoll s b).trans (if_pos hs)

theorem refuses_clear (hs : s.closed = true) (b : β) : s.clear.Refuses b :=
  (run_clear s b).trans (if_pos hs)

theorem refuses_condition (hs : s.closed = true) (c : Condition) (b : β) :
    (c.poll s).Refuses b := by
  cases c with
  | message => exact (refuses_serialPoll hs b).bind _
  | service => exact (refuses_serialPoll hs b).bind _

end Session

-- ================================================ acts on a closed session

namespace Act

variable {s : Session}

/-- An act that consists of one exchange ends with it, when the exchange is
told that the session has been closed. -/
theorem run_refused (x : Session → Exchange β α) (reply : α → Reply) {b : β}
    (h : (x s).Refuses b) :
    (exchange fun s => reply <$> x s).run (s, b) =
      (.done (.error Session.sessionClosed), (s, b)) := by
  rw [run_exchange, h.map reply]

variable [RawBus β]

/-- A wait on a closed session ends where it is begun, for the reason it
finds first. -/
theorem run_startWait_closed (hs : s.closed = true) (c : Condition) (p : Pace) (now : Instant)
    (thenRead : Option ResponseKind) (b : β) :
    (startWait c p now thenRead).run (s, b) =
      (.done (.error ((p.refusal? c).getD Session.sessionClosed)), (s, b)) := by
  by_cases hz : p.interval.isZero = true
  · have hbegin : Wait.begin? c p now = .error (.invalidArgument .zeroInterval) := if_pos hz
    have hearly : p.refusal? c = some (.invalidArgument .zeroInterval) := if_pos hz
    unfold startWait
    rw [hbegin, hearly]
    rfl
  · have hearly : p.refusal? c = if p.cancelled then some (.cancelled c.operation) else none :=
      if_neg hz
    -- the wait is begun and polls, and whichever way the poll goes it is the last
    have hw : Wait.begin? c p now = .ok
        { condition := c, interval := p.interval, budget := p.budget
          deadline := Clock.after? now p.budget, cancelled := p.cancelled
          cancelAt := p.cancelAfter.map fun d => now + d.nanos } := if_neg hz
    have hp : (c.poll s).run b = (.error Session.sessionClosed, b) :=
      Session.refuses_condition hs c b
    unfold startWait
    rw [hw]
    show (pollOnce _ now thenRead).run (s, b) = _
    rw [run_pollOnce, Wait.run_poll, hearly]
    cases p.cancelled with
    | true => rfl
    | false =>
        simp only [hp]
        rfl

/-- An act that is refused early is not told that its session has been
closed. -/
theorem getD_earlyRefusal? (a : Act) :
    a.earlyRefusal?.getD Session.sessionClosed = Session.sessionClosed ↔
      a.earlyRefusal? = none := by
  constructor
  · intro h
    cases ha : a.earlyRefusal? with
    | none => rfl
    | some f =>
        rw [ha] at h
        cases a with
        | await c p =>
            have hp : p.refusal? c = some f := ha
            unfold Pace.refusal? at hp
            split at hp
            · cases hp
              cases h
            · split at hp
              · cases hp
                cases h
              · cases hp
        | _ => cases ha
  · intro h
    rw [h]
    rfl

/-- An act that would reach the instrument is refused on a closed session:
it makes no call on the driver, whichever that is, and leaves the session
as it is. It is told that the session has been closed, unless it is
refused for something that is looked at before that, and then it is not
told so. -/
theorem closed_session_refuses (hs : s.closed = true) {a : Act} (ha : a.doesIO = true)
    (now : Instant) (b : β) :
    (a.start now).run (s, b) =
        (.done (.error (a.earlyRefusal?.getD Session.sessionClosed)), (s, b)) ∧
      (a.earlyRefusal?.getD Session.sessionClosed = Session.sessionClosed ↔
        a.earlyRefusal? = none) := by
  refine ⟨?_, getD_earlyRefusal? a⟩
  cases a with
  | write command => exact run_refused (·.write command) _ (Session.refuses_write hs command b)
  | writeBytes data =>
      exact run_refused (·.writeBytes data) _ (Session.refuses_writeBytes hs data b)
  | readBytes n => exact run_refused (·.readBytes n) _ (Session.refuses_readBytes hs n b)
  | read => exact run_refused Session.read _ (Session.refuses_read hs b)
  | readAs kind => exact run_refused (·.readAs kind) _ (Session.refuses_readAs hs kind b)
  | query command kind =>
      exact run_refused (·.query command kind) _ (Session.refuses_query hs command kind b)
  | queryAsync command kind pace =>
      -- the write is refused, and the wait is not begun
      exact stateful_bind _
        (run_refused (·.write command) _ (Session.refuses_write hs command b))
  | serialPoll => exact run_refused Session.serialPoll _ (Session.refuses_serialPoll hs b)
  | messageAvailable =>
      exact run_refused Session.messageAvailable _ (Session.refuses_condition hs .message b)
  | serviceRequested =>
      exact run_refused Session.serviceRequested _ (Session.refuses_condition hs .service b)
  | await c p => exact run_startWait_closed hs c p now none b
  | clear => exact run_refused Session.clear _ (Session.refuses_clear hs b)
  | _ => cases ha

/-- A session on a bus without instruments that has been opened and
closed. -/
def closedLine : Line (Recorded Simulated) :=
  let (opened, bus) :=
    (Session.connect ⟨5, 0⟩ .standard).run (Recorded.fresh Simulated.empty)
  match opened with
  | .ok s => s.close bus
  | .error _ => (default, bus)

/-- A query that is to wait without an interval is told that its session
has been closed. -/
theorem closed_session_refuses_query :
    closedLine.1.closed = true ∧
      (Act.queryAsync "*IDN?" .text ⟨.zero, .ofSecs 1, false, none⟩).doesIO = true ∧
      ((Act.queryAsync "*IDN?" .text ⟨.zero, .ofSecs 1, false, none⟩).start 0).run closedLine =
        (.done (.error Session.sessionClosed), closedLine) :=
  ⟨rfl, rfl, (closed_session_refuses rfl rfl 0 closedLine.2).1⟩

/-- A wait without an interval is not. -/
theorem closed_session_refuses_wait_otherwise :
    ¬ ∀ (s : Session) (a : Act) (now : Instant) (b : Recorded Simulated),
      s.closed = true → a.doesIO = true →
        (a.start now).run (s, b) = (.done (.error Session.sessionClosed), (s, b)) := by
  intro h
  have hwait := h closedLine.1 (.await .message ⟨.zero, .ofSecs 1, false, none⟩) 0 closedLine.2
    rfl rfl
  cases congrArg (fun r => r.1) hwait

end Act

end InstrumentBus
