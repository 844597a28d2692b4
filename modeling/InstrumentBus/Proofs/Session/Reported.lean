/-
How an act reports a raw call that failed, whatever the driver.

The registers are sticky, so a call that is not looked at before the next
one is lost, and a look that comes too late sees the wrong call. An act may
make any number of calls: a message is read chunk by chunk, a wait polls
again and again, and a query does several of these in turn. What is kept
to throughout is `Standing`: so far every call has gone well, or the last
one has not, and then the act is over and its failure tells of that call,
by the registers it left and under the name of the operation it was made
for.

It is shown for one call that is looked at at once (`Standing.of_call`).
What goes well can be followed by more (`Standing.after`), and what does
not is followed by nothing, which is all that chunks, queries and waits
rest on. Nothing is asked of the registers, of what others do to the driver
while an act pauses, or of the instants at which it goes on.

Operations are told apart here by more than their call: a command and bytes
are both written, and one message and one buffer are both read, but they
are reported under names of their own, and only a command is quoted.
-/
import InstrumentBus.Proofs.Session.Closed
import InstrumentBus.Proofs.Session.Message
import InstrumentBus.Proofs.Session.Retry

namespace InstrumentBus

variable {β α γ : Type}

-- ========================================================== operations

/-- What a raw call can be made for. -/
inductive Operation where
  | write (command : String)
  | writeBytes (data : List UInt8)
  | readBytes (capacity : Nat)
  | read
  | serialPoll
  | clear

namespace Operation

/-- The name it is reported under. -/
def name : Operation → String
  | .write _ => "Write"
  | .writeBytes _ => "WriteBytes"
  | .readBytes _ => "ReadBytes"
  | .read => "Read"
  | .serialPoll => "SerialPoll"
  | .clear => "Clear"

/-- The call it takes, be it again and again. -/
def call (s : Session) : Operation → RawCall
  | .write command => .write s.descriptor (s.payload command)
  | .writeBytes data => .write s.descriptor data
  | .readBytes capacity => .read s.descriptor capacity
  | .read => .read s.descriptor 1024
  | .serialPoll => .serialPoll s.descriptor
  | .clear => .clear s.descriptor

/-- The bytes that are quoted when it fails. -/
def sent? (s : Session) : Operation → Option (List UInt8)
  | .write command => some (s.payload command)
  | .writeBytes _ | .readBytes _ | .read | .serialPoll | .clear => none

/-- What is quoted: the bytes that were sent, a character for each. -/
def quoted? (s : Session) (o : Operation) : Option String :=
  (o.sent? s).map fun data => String.ofList (data.map fun byte => Char.ofNat byte.toNat)

end Operation

/-- What an act may make calls for. -/
def Act.operations : Act → List Operation
  | .write command => [.write command]
  | .writeBytes data => [.writeBytes data]
  | .readBytes capacity => [.readBytes capacity]
  | .read | .readAs _ => [.read]
  | .query command _ => [.write command, .read]
  | .queryAsync command _ _ => [.write command, .serialPoll, .read]
  | .serialPoll | .messageAvailable | .serviceRequested | .await .. => [.serialPoll]
  | .clear => [.clear]
  | .close | .version | .setTerminator _ | .info | .label | .sleep _ | .fail _ => []

/-- What may still be done after a wait. -/
def Act.followUp (thenRead : Option ResponseKind) : List Operation :=
  if thenRead.isSome then [.read] else []

/-- What is left of an act may make calls for no more than this. -/
def Pending.operations : Pending → List Operation
  | .sleep _ => []
  | .await _ _ thenRead => .serialPoll :: Act.followUp thenRead

-- ============================================================ standing

/-- A raw call that was made for an operation, and what it left in the
registers. -/
structure Performed where
  operation : Operation
  registers : Registers

/-- How it is recorded. -/
def Performed.record (s : Session) (m : Performed) : RawRecord :=
  ⟨m.operation.call s, none, m.registers⟩

variable {s : Session} {ops ops' : List Operation} {t t' t₁ : List RawRecord}

/-- From one record to a later one there are calls that went well, made for
some operations. -/
def Fine (s : Session) (ops : List Operation) (t t' : List RawRecord) : Prop :=
  ∃ made : List Performed, t' = (made.map (·.record s)).reverse ++ t ∧
    ∀ m ∈ made, m.operation ∈ ops ∧ m.registers.failing = false

namespace Fine

theorem refl (s : Session) (ops : List Operation) (t : List RawRecord) : Fine s ops t t :=
  ⟨[], rfl, nofun⟩

theorem trans (h : Fine s ops t t₁) (h' : Fine s ops t₁ t') : Fine s ops t t' := by
  obtain ⟨made, rfl, hmade⟩ := h
  obtain ⟨made', rfl, hmade'⟩ := h'
  refine ⟨made ++ made', ?_, fun m hm => ?_⟩
  · rw [List.map_append, List.reverse_append, List.append_assoc]
  · exact (List.mem_append.mp hm).elim (hmade m) (hmade' m)

theorem mono (h : Fine s ops t t') (hops : ops ⊆ ops') : Fine s ops' t t' := by
  obtain ⟨made, htrace, hmade⟩ := h
  exact ⟨made, htrace, fun m hm => ⟨hops (hmade m hm).1, (hmade m hm).2⟩⟩

/-- One call more. -/
theorem single {o : Operation} {r : Registers} (ho : o ∈ ops) (hr : r.failing = false)
    (t : List RawRecord) : Fine s ops t (⟨o.call s, none, r⟩ :: t) := by
  refine ⟨[⟨o, r⟩], rfl, fun m hm => ?_⟩
  cases List.mem_singleton.mp hm
  exact ⟨ho, hr⟩

end Fine

variable [RawBus β] {b b' : Recorded β} {f : Option Failure}

/-- What the calls since a record have come to, with a driver as they leave
it and the failure that is reported, if one is. -/
inductive Standing (s : Session) (ops : List Operation) (t : List RawRecord) (b' : Recorded β) :
    Option Failure → Prop where
  -- each of them went well, and nothing else is reported
  | fine {f : Option Failure} (h : Fine s ops t b'.trace) (hf : ∀ e ∈ f, e.ofCall = false) :
      Standing s ops t b' f
  -- the last of them did not, and that is reported
  | stopped {t₁ : List RawRecord} {o : Operation} {e : Failure} (h : Fine s ops t t₁)
      (ho : o ∈ ops) (hlast : b'.trace = ⟨o.call s, none, RawBus.registers b'⟩ :: t₁)
      (hv : Session.verdict b' o.name (o.sent? s) = .error e) : Standing s ops t b' (some e)

namespace Standing

/-- What is reported of calls comes to the same after others that went
well. -/
theorem after (h : Fine s ops t t₁) (h' : Standing s ops t₁ b' f) : Standing s ops t b' f := by
  cases h' with
  | fine h' hf => exact .fine (h.trans h') hf
  | stopped h' ho hlast hv => exact .stopped (h.trans h') ho hlast hv

theorem mono (h : Standing s ops t b' f) (hops : ops ⊆ ops') : Standing s ops' t b' f := by
  cases h with
  | fine h hf => exact .fine (h.mono hops) hf
  | stopped h ho hlast hv => exact .stopped (h.mono hops) (hops ho) hlast hv

/-- No call, and a failure that is not that of a call, if any. -/
theorem idle (s : Session) (ops : List Operation) (b : Recorded β)
    (hf : ∀ e ∈ f, e.ofCall = false) : Standing s ops b.trace b f :=
  .fine (.refl s ops b.trace) hf

/-- A failure of another kind, after calls that went well. -/
theorem ended {e : Failure} (h : Fine s ops t b'.trace) (he : e.ofCall = false) :
    Standing s ops t b' (some e) := by
  refine .fine h ?_
  rintro _ ⟨⟩
  exact he

/-- Where no failure is reported, each call went well. -/
theorem calm (h : Standing s ops t b' none) : Fine s ops t b'.trace := by
  cases h with
  | fine h _ => exact h

end Standing

/-- The failure that is reported, if one is. -/
def Failure.reported? : Except Failure α → Option Failure
  | .ok _ => none
  | .error e => some e

/-- A result is made something else of, and failures stay what they are. -/
theorem Failure.reported?_map (g : α → γ) (r : Except Failure α) :
    Failure.reported? (r.map g) = Failure.reported? r := by
  cases r <;> rfl

/-- One call that is looked at at once, whatever is made of its status word. -/
theorem Standing.of_call (o : Operation) (g : StatusWord → α)
    (hcall : b'.trace = ⟨o.call s, none, RawBus.registers b'⟩ :: t) :
    Standing s [o] t b'
      (Failure.reported? ((Session.verdict b' o.name (o.sent? s)).map g)) := by
  have ho : o ∈ [o] := List.mem_singleton_self o
  cases hv : Session.verdict b' o.name (o.sent? s) with
  | error e => exact .stopped (.refl s [o] t) ho hcall hv
  | ok status =>
      refine .fine ?_ nofun
      rw [hcall]
      exact .single ho (Session.verdict_eq_ok hv).1 t

/-- A call that is reported is one that failed. -/
theorem Session.failing_of_verdict {operation : String} {command : Option (List UInt8)}
    {e : Failure} (hv : verdict b' operation command = .error e) :
    (RawBus.registers b').failing = true := by
  rw [← Bool.not_eq_false]
  intro hgood
  cases hv.symm.trans (verdict_ok operation command hgood)

/-- The calls since a record, in order. Either they all went well, or the last
one did not and is what the registers tell of. -/
theorem Standing.exists_made (h : Standing s ops t b' f) : ∃ made : List Performed,
    b'.trace.reverse = t.reverse ++ made.map (·.record s) ∧
      (∀ m ∈ made, m.operation ∈ ops) ∧ (∀ m ∈ made.dropLast, m.registers.failing = false) ∧
      ((∀ m ∈ made, m.registers.failing = false) ∧ (∀ e ∈ f, e.ofCall = false) ∨
        ∃ m ∈ made.getLast?, m.registers = RawBus.registers b' ∧ m.registers.failing = true ∧
          f = Failure.reported?
            (Session.verdict b' m.operation.name (m.operation.sent? s))) := by
  cases h with
  | fine h hf =>
      obtain ⟨made, htrace, hmade⟩ := h
      have hgood : ∀ m ∈ made, m.registers.failing = false := fun m hm => (hmade m hm).2
      refine ⟨made, ?_, fun m hm => (hmade m hm).1,
        fun m hm => hgood m ((List.dropLast_sublist made).mem hm), .inl ⟨hgood, hf⟩⟩
      rw [htrace, List.reverse_append, List.reverse_reverse]
  | @stopped t₁ o e h ho hlast hv =>
      obtain ⟨made, rfl, hmade⟩ := h
      refine ⟨made ++ [⟨o, RawBus.registers b'⟩], ?_, fun m hm => ?_, fun m hm => ?_,
        .inr ⟨⟨o, RawBus.registers b'⟩, List.getLast?_concat, rfl,
          Session.failing_of_verdict hv, ?_⟩⟩
      · rw [hlast, List.reverse_cons, List.reverse_append, List.reverse_reverse, List.map_append,
          List.append_assoc]
        rfl
      · rcases List.mem_append.mp hm with hm | hm
        · exact (hmade m hm).1
        · cases List.mem_singleton.mp hm
          exact ho
      · rw [List.dropLast_concat] at hm
        exact (hmade m hm).2
      · rw [hv]
        rfl

-- ========================================================== exchanges

/-- An exchange is over with the first call that fails, and reports it. -/
def Exchange.Reports (s : Session) (ops : List Operation) (x : Exchange (Recorded β) α) : Prop :=
  ∀ b, Standing s ops b.trace (x.run b).2 (Failure.reported? (x.run b).1)

namespace Exchange.Reports

variable {x : Exchange (Recorded β) α}

theorem mono (h : Reports s ops x) (hops : ops ⊆ ops') : Reports s ops' x :=
  fun b => (h b).mono hops

theorem map (g : α → γ) (h : Reports s ops x) : Reports s ops (g <$> x) := by
  intro b
  rw [Exchange.run_map, Failure.reported?_map]
  exact h b

/-- What follows is begun only where nothing has failed. -/
theorem bind {y : α → Exchange (Recorded β) γ} (h : Reports s ops x)
    (hy : ∀ a, Reports s ops (y a)) : Reports s ops (x >>= y) := by
  intro b
  have hx := h b
  rcases hr : x.run b with ⟨r, b'⟩
  rw [hr] at hx
  cases r with
  | error e =>
      rw [Exchange.run_bind_error y hr]
      exact hx
  | ok a =>
      rw [Exchange.run_bind_ok y hr]
      exact Standing.after hx.calm (hy a b')

end Exchange.Reports

/-- What a message is read as is no matter of a call. -/
theorem Response.reported?_ofText (kind : ResponseKind) (text : List Char) :
    ∀ e ∈ Failure.reported? (ofText kind text), e.ofCall = false := by
  unfold ofText
  cases kind with
  | text => nofun
  | _ =>
      dsimp only
      split
      · nofun
      · rintro e ⟨⟩
        rfl

namespace Session

open Exchange

/-- How a raw read is recorded. -/
theorem trace_read (s : Session) (b : Recorded β) (buffer : List UInt8) :
    (RawBus.read b s.descriptor buffer).1.trace =
      ⟨.read s.descriptor buffer.length, none,
        RawBus.registers (RawBus.read b s.descriptor buffer).1⟩ :: b.trace := rfl

/-- The chunks of a message: a buffer keeps its length, so that each call asks
for as much as the first. -/
theorem reports_chunks (fuel : Nat) {buffer : List UInt8} (hb : buffer.length = chunkSize) :
    Reports s [.read] (s.chunks fuel buffer : Exchange (Recorded β) (List UInt8)) := by
  induction fuel generalizing buffer with
  | zero => exact fun b => .idle s _ b nofun
  | succ fuel ih =>
      intro b
      have ho : Operation.read ∈ [Operation.read] := List.mem_singleton_self _
      have hcall := trace_read s b buffer
      rw [hb] at hcall
      cases hv : verdict (RawBus.read b s.descriptor buffer).1 "Read" none with
      | error e =>
          rw [run_chunks_error fuel hv]
          exact .stopped (.refl s _ b.trace) ho hcall hv
      | ok status =>
          have hfine : Fine s [.read] b.trace (RawBus.read b s.descriptor buffer).1.trace := by
            rw [hcall]
            exact .single ho (verdict_eq_ok hv).1 b.trace
          rw [run_chunks_ok fuel hv]
          dsimp only
          split
          · exact .fine hfine nofun
          · rw [Failure.reported?_map]
            exact .after hfine (ih ((RawBus.length_read b s.descriptor buffer).trans hb) _)

variable (hs : s.closed = false)
include hs

theorem reports_write (command : String) :
    Reports s [.write command] (s.write command : Exchange (Recorded β) Unit) := by
  intro b
  rw [run_write, hs, if_neg Bool.false_ne_true]
  by_cases hc : command = ""
  · rw [if_pos hc]
    exact .ended (.refl s _ b.trace) rfl
  · rw [if_neg hc]
    exact .of_call (.write command) _ rfl

theorem reports_writeBytes (data : List UInt8) :
    Reports s [.writeBytes data] (s.writeBytes data : Exchange (Recorded β) Unit) := by
  intro b
  rw [run_writeBytes, hs, if_neg Bool.false_ne_true]
  by_cases hd : data = []
  · rw [if_pos hd]
    exact .idle s _ b nofun
  · rw [if_neg hd]
    exact .of_call (.writeBytes data) _ rfl

theorem reports_readBytes (capacity : Nat) : Reports s [.readBytes capacity]
    (s.readBytes capacity : Exchange (Recorded β) (Nat × List UInt8)) := by
  intro b
  rw [run_readBytes, hs, if_neg Bool.false_ne_true]
  by_cases hc : capacity = 0
  · rw [if_pos hc]
    exact .idle s _ b nofun
  · rw [if_neg hc]
    refine .of_call (.readBytes capacity) _ ?_
    rw [trace_read, List.length_replicate]
    rfl

theorem reports_read : Reports s [.read] (s.read : Exchange (Recorded β) String) := by
  intro b
  rw [run_read, hs, if_neg Bool.false_ne_true]
  dsimp only
  rw [Failure.reported?_map]
  exact reports_chunks _ List.length_replicate b

theorem reports_readAs (kind : ResponseKind) :
    Reports s [.read] (s.readAs kind : Exchange (Recorded β) Response) := by
  refine (reports_read hs).bind fun text b => ?_
  have hof : (ofExcept (Response.ofText kind text.toList) : Exchange (Recorded β) Response).run b =
      (Response.ofText kind text.toList, b) := by
    cases Response.ofText kind text.toList <;> rfl
  rw [hof]
  exact .idle s _ b (Response.reported?_ofText kind _)

theorem reports_query (command : String) (kind : ResponseKind) :
    Reports s [.write command, .read]
      (s.query command kind : Exchange (Recorded β) Response) := by
  refine .bind ((reports_write hs command).mono ?_) fun _ => (reports_readAs hs kind).mono ?_
  · exact List.cons_subset_cons _ (List.nil_subset _)
  · exact List.subset_cons_self _ _

theorem reports_serialPoll :
    Reports s [.serialPoll] (s.serialPoll : Exchange (Recorded β) StatusByte) := by
  intro b
  rw [run_serialPoll, hs, if_neg Bool.false_ne_true]
  exact .of_call .serialPoll _ rfl

theorem reports_condition (c : Condition) :
    Reports s [.serialPoll] (c.poll s : Exchange (Recorded β) Bool) := by
  cases c with
  | message => exact (reports_serialPoll hs).map _
  | service => exact (reports_serialPoll hs).map _

theorem reports_clear : Reports s [.clear] (s.clear : Exchange (Recorded β) Unit) := by
  intro b
  rw [run_clear, hs, if_neg Bool.false_ne_true]
  exact .of_call .clear _ rfl

end Session

-- =============================================================== acts

/-- The failure an act is over with, if it is. -/
def Progress.failure? : Progress → Option Failure
  | .done r => Failure.reported? r
  | .paused _ => none

theorem Progress.failure?_eq_some {progress : Progress} {e : Failure} :
    progress.failure? = some e ↔ progress = .done (.error e) := by
  constructor
  · intro h
    cases progress with
    | paused p => cases h
    | done r =>
        cases r with
        | ok r => cases h
        | error e' =>
            cases h
            rfl
  · rintro rfl
    rfl

/-- How far an act gets since a record: it leaves the session as it was and
reports the call that fails, and what is left of it makes calls for the
same operations. -/
structure Progress.Keeps (s : Session) (ops : List Operation) (t : List RawRecord)
    (r : Progress × Line (Recorded β)) : Prop where
  session : r.2.1 = s
  standing : Standing s ops t r.2.2 r.1.failure?
  left : ∀ p, r.1 = .paused p → p.operations ⊆ ops

namespace Progress.Keeps

variable {r : Progress × Line (Recorded β)}

theorem after (h : Fine s ops t t₁) (h' : Keeps s ops t₁ r) : Keeps s ops t r :=
  ⟨h'.session, .after h h'.standing, h'.left⟩

theorem mono (h : Keeps s ops t r) (hops : ops ⊆ ops') : Keeps s ops' t r :=
  ⟨h.session, h.standing.mono hops, fun p hp => List.Subset.trans (h.left p hp) hops⟩

/-- An act that is over. -/
theorem done {result : Except Failure Reply}
    (h : Standing s ops t b' (Failure.reported? result)) :
    Keeps s ops t (.done result, (s, b')) :=
  ⟨rfl, h, nofun⟩

end Progress.Keeps

namespace Act

open Progress

/-- A part of an act reports the first call that fails. -/
def Reports (s : Session) (ops : List Operation) (x : StateM (Line (Recorded β)) Progress) :
    Prop :=
  ∀ b, Keeps s ops b.trace (x.run (s, b))

/-- An act that consists of one exchange. -/
theorem Reports.exchange (x : Session → Exchange (Recorded β) α) (reply : α → Reply)
    (h : Exchange.Reports s ops (x s)) : Reports s ops (exchange fun s => reply <$> x s) :=
  fun b => .done (h.map reply b)

variable (hs : s.closed = false)
include hs

theorem reports_conclude (thenRead : Option ResponseKind) :
    Reports s (followUp thenRead) (conclude (β := Recorded β) thenRead) := by
  cases thenRead with
  | none => exact fun b => .done (.idle s _ b nofun)
  | some kind => exact .exchange (·.readAs kind) _ (Session.reports_readAs hs kind)

/-- One poll of a wait, and what follows it. A wait that is cancelled makes
none. -/
theorem reports_pollOnce (w : Wait) (now : Instant) (thenRead : Option ResponseKind) :
    Reports s (.serialPoll :: followUp thenRead)
      (pollOnce (β := Recorded β) w now thenRead) := by
  intro b
  rw [run_pollOnce, Wait.run_poll]
  cases w.cancelled with
  | true => exact .done (.ended (.refl s _ b.trace) rfl)
  | false =>
      have hpoll := (Session.reports_condition hs w.condition b).mono
        (List.cons_subset_cons .serialPoll (List.nil_subset (followUp thenRead)))
      rw [if_neg Bool.false_ne_true]
      generalize (w.condition.poll s).run b = r at hpoll ⊢
      obtain ⟨found, b'⟩ := r
      cases found with
      | error e => exact .done hpoll
      | ok found =>
          have hfine := hpoll.calm
          cases found with
          | true =>
              have hrest := reports_conclude hs thenRead b'
              exact .after hfine (hrest.mono (List.subset_cons_self _ _))
          | false =>
              unfold Wait.judge
              dsimp only
              split
              · exact .done (.ended hfine rfl)
              · refine ⟨rfl, .fine hfine nofun, ?_⟩
                rintro p ⟨⟩
                exact List.Subset.refl _

theorem reports_startWait (c : Condition) (p : Pace) (now : Instant)
    (thenRead : Option ResponseKind) :
    Reports s (.serialPoll :: followUp thenRead)
      (startWait (β := Recorded β) c p now thenRead) := by
  unfold startWait
  by_cases hz : p.interval.isZero = true
  · rw [show Wait.begin? c p now = .error (.invalidArgument .zeroInterval) from if_pos hz]
    exact fun b => .done (.ended (.refl s _ b.trace) rfl)
  · cases hw : Wait.begin? c p now with
    | ok w => exact reports_pollOnce hs w now thenRead
    | error e => cases (if_neg hz).symm.trans hw

/-- An act, from its beginning to where it pauses or is over. -/
theorem reports_start {a : Act} (ha : a.doesIO = true) (now : Instant) :
    Reports s a.operations (a.start (β := Recorded β) now) := by
  cases a with
  | write command => exact .exchange (·.write command) _ (Session.reports_write hs command)
  | writeBytes data => exact .exchange (·.writeBytes data) _ (Session.reports_writeBytes hs data)
  | readBytes capacity =>
      exact .exchange (·.readBytes capacity) _ (Session.reports_readBytes hs capacity)
  | read => exact .exchange Session.read _ (Session.reports_read hs)
  | readAs kind => exact .exchange (·.readAs kind) _ (Session.reports_readAs hs kind)
  | query command kind =>
      exact .exchange (·.query command kind) _ (Session.reports_query hs command kind)
  | queryAsync command kind pace =>
      intro b
      have hwrite := (Session.reports_write hs command b).mono
        (List.cons_subset_cons _ (List.nil_subset [Operation.serialPoll, .read]))
      rcases hw : (s.write command).run b with ⟨r, b'⟩
      rw [hw] at hwrite
      have hrun : (Act.exchange fun s => (fun _ => Reply.nothing) <$> s.write command).run (s, b) =
          (.done (r.map fun _ => .nothing), (s, b')) := by
        rw [run_exchange, Exchange.run_map, hw]
      refine (congrArg (Keeps s _ b.trace) (stateful_bind _ hrun)).mpr ?_
      cases r with
      | error e => exact .done hwrite
      | ok _ =>
          have hwait := reports_startWait hs .message pace now (some kind) b'
          exact .after hwrite.calm (hwait.mono (List.subset_cons_self _ _))
  | serialPoll => exact .exchange Session.serialPoll _ (Session.reports_serialPoll hs)
  | messageAvailable =>
      exact .exchange Session.messageAvailable _ (Session.reports_condition hs .message)
  | serviceRequested =>
      exact .exchange Session.serviceRequested _ (Session.reports_condition hs .service)
  | await condition pace => exact reports_startWait hs condition pace now none
  | clear => exact .exchange Session.clear _ (Session.reports_clear hs)
  | _ => cases ha

/-- An act that pauses, taken up again. -/
theorem reports_resume (p : Pending) (now : Instant) :
    Reports s p.operations (resume (β := Recorded β) p now) := by
  cases p with
  | sleep wake => exact fun b => .done (.idle s _ b nofun)
  | await w wake thenRead => exact reports_pollOnce hs (w.resumed now) now thenRead

/-- How far an act has got, and its line, when it has been begun and then taken
up again where it pauses, any number of times and at any instants. Others may
have used the driver meanwhile, and left it as they please. -/
inductive Reaches (a : Act) (l : Line (Recorded β)) : Progress → Line (Recorded β) → Prop where
  | begun (now : Instant) : a.Reaches l ((a.start now).run l).1 ((a.start now).run l).2
  | resumed {p : Pending} {s : Session} {b : Recorded β} (h : a.Reaches l (.paused p) (s, b))
      (bus : β) (now : Instant) :
      a.Reaches l ((resume p now).run (s, { b with bus })).1
        ((resume p now).run (s, { b with bus })).2

/-- As long as an act pauses, all its calls have gone well. -/
theorem Reaches.keeps {a : Act} {progress : Progress} {l : Line (Recorded β)}
    (ha : a.doesIO = true) (h : a.Reaches (s, b) progress l) :
    Keeps s a.operations b.trace (progress, l) := by
  induction h with
  | begun now => exact reports_start hs ha now b
  | @resumed p s' b' h bus now ih =>
      obtain ⟨rfl, hstanding, hleft⟩ := ih
      have hrest := reports_resume hs p now { b' with bus }
      exact .after hstanding.calm (hrest.mono (hleft p rfl))

end Act

-- ============================================================ scripts

/-- The calls between two states of a line leave the registers that a script
has for them, one after the other. -/
def Follows (p q : Line (Recorded Scripted)) : Prop :=
  ∃ n, q.2.bus.replies = p.2.bus.replies.drop n ∧
    q.2.trace.reverse.map (·.registers) = p.2.trace.reverse.map (·.registers) ++
      (List.range n).map fun k => (p.2.bus.replies.getD k .standard).registers

namespace Follows

theorem refl (p : Line (Recorded Scripted)) : Follows p p := ⟨0, rfl, (List.append_nil _).symm⟩

theorem trans {p q r : Line (Recorded Scripted)} (h : Follows p q) (h' : Follows q r) :
    Follows p r := by
  obtain ⟨n, hreplies, htrace⟩ := h
  obtain ⟨n', hreplies', htrace'⟩ := h'
  refine ⟨n + n', ?_, ?_⟩
  · rw [hreplies', hreplies, List.drop_drop]
  · rw [htrace', htrace, hreplies, List.range_add, List.map_append, List.map_map,
      List.append_assoc]
    simp only [List.getD_eq_getElem?_getD, List.getElem?_drop]
    rfl

theorem of_call (s : Session) (b : Recorded Scripted) (call : RawCall) :
    Follows (s, b) (s, b.note b.bus.next call none) := by
  refine ⟨1, List.drop_one.symm, ?_⟩
  show (⟨call, none, b.bus.reply.registers⟩ :: b.trace).reverse.map _ = _
  rw [List.reverse_cons, List.map_append]
  unfold Scripted.reply
  cases b.bus.replies <;> rfl

theorem stepwise : Stepwise Follows where
  refl := refl
  trans := trans
  write s b _ _ _ := of_call s b _
  read s b _ _ _ := of_call s b _
  clear s b _ := of_call s b _
  serialPoll s b _ := of_call s b _
  setTerminator _ _ _ := refl _

end Follows

-- ======================================================= the report

namespace Act

/-- Whatever registers calls are to leave, there is a driver on which those of
an act leave them. -/
theorem exists_script {a : Act} (ha : a.doesIO = true) (s : Session)
    (registers : List Registers) :
    ∃ b : Recorded Scripted, ∀ now, ∃ n,
      ((a.start now).run (s, b)).2.2.trace.reverse.map (·.registers) =
        (List.range n).map fun k => registers.getD k (.completed 0) := by
  refine ⟨.fresh (.ofReplies (registers.map fun r => { ScriptedReply.standard with
    registers := r })), fun now => ?_⟩
  have hclose : a ≠ .close := by
    rintro rfl
    cases ha
  obtain ⟨n, -, htrace⟩ := Follows.stepwise.start hclose now (s, _)
  refine ⟨n, htrace.trans (List.map_congr_left fun k _ => ?_)⟩
  simp only [List.getD_eq_getElem?_getD]
  show ((registers.map _)[k]?.getD ScriptedReply.standard).registers = _
  rw [List.getElem?_map]
  cases registers[k]? <;> rfl

/-- An act on an open session, whatever its driver leaves in the registers and
whatever others do to it while the act pauses. Its calls are made for its
operations. Each but the last goes well, and where the last times out or meets
with an error the act is over: it fails under the name of the operation, with
the registers that this call left, and with the command as it was sent. A
timeout comes before an error, which is in the driver's words. Where none of
them fails, neither of the two is reported. And calls may leave any registers
one after the other. -/
theorem reports_first_failed_call {a : Act} (ha : a.doesIO = true) {s : Session}
    (hs : s.closed = false) :
    (∀ {β : Type} [RawBus β] {b b' : Recorded β} {progress : Progress} {s' : Session},
      a.Reaches (s, b) progress (s', b') → s' = s ∧ ∃ made : List Performed,
        b'.trace.reverse = b.trace.reverse ++ made.map (·.record s) ∧
        (∀ m ∈ made, m.operation ∈ a.operations) ∧
        (∀ m ∈ made.dropLast, m.registers.failing = false) ∧
        (∀ m ∈ made.getLast?, let r := m.registers
          (r.status.timedOut = true → progress = .done (.error
            (.timeout m.operation.name (m.operation.quoted? s) r.status r.error))) ∧
          (r.status.timedOut = false → r.status.failed = true → progress = .done (.error
            (.hardware m.operation.name (m.operation.quoted? s) r.status r.error
              (RawBus.errorText b'.bus r.error))))) ∧
        ((∀ m ∈ made, m.registers.failing = false) →
          ∀ e, progress = .done (.error e) → e.ofCall = false)) ∧
    ∀ registers : List Registers, ∃ b : Recorded Scripted, ∀ now, ∃ n,
      ((a.start now).run (s, b)).2.2.trace.reverse.map (·.registers) =
        (List.range n).map fun k => registers.getD k (.completed 0) := by
  refine ⟨fun h => ?_, exists_script ha s⟩
  obtain ⟨hsame, hstanding, -⟩ := h.keeps hs ha
  obtain ⟨made, htrace, hops, hbefore, hcases⟩ := hstanding.exists_made
  refine ⟨hsame, made, htrace, hops, hbefore, fun m hm => ?_, fun hgood e he => ?_⟩
  · have hmem : m ∈ made := List.mem_of_getLast? hm
    rcases hcases with ⟨hgood, -⟩ | ⟨m', hm', hlast, -, hf⟩
    · obtain ⟨ht, hf⟩ := Bool.or_eq_false_iff.mp (hgood m hmem)
      exact ⟨fun h => absurd h (Bool.eq_false_iff.mp ht),
        fun _ h => absurd h (Bool.eq_false_iff.mp hf)⟩
    · cases Option.some.inj (hm.symm.trans hm')
      dsimp only
      refine ⟨fun ht => ?_, fun ht hfail => ?_⟩
      · rw [hlast] at ht ⊢
        rw [show Session.verdict _ _ _ = .error _ from if_pos ht] at hf
        exact Progress.failure?_eq_some.mp hf
      · rw [hlast] at ht hfail ⊢
        rw [show Session.verdict _ _ _ = .error _ from
          (if_neg (Bool.eq_false_iff.mp ht)).trans (if_pos hfail)] at hf
        exact Progress.failure?_eq_some.mp hf
  · rcases hcases with ⟨-, hf⟩ | ⟨m, hm, -, hbad, -⟩
    · exact hf e (Progress.failure?_eq_some.mpr he)
    · rw [hgood m (List.mem_of_getLast? hm)] at hbad
      cases hbad

/-- A query that waits for its answer, a tenth of a second between polls. -/
def measuring : Act := .queryAsync "MEAS?" .text ⟨.ofMillis 100, .ofSecs 1, false, none⟩

/-- A driver on which all goes well, with no message in sight, and one whose
next call times out and meets with an error besides. -/
def quiet : Recorded Scripted := .fresh (.ofReplies [])

def lost : Scripted :=
  .ofReplies [{ ScriptedReply.standard with
    registers := ⟨⟨StatusWord.timo ||| StatusWord.err⟩, 6, 0⟩ }]

/-- The command is written and the instrument polled; the query pauses, others
leave the driver as they do, and the second poll is the last call. -/
theorem reports_first_failed_call_lost :
    measuring.doesIO = true ∧ (Session.benched .lf).closed = false ∧
      ∃ progress b', measuring.Reaches (Session.benched .lf, quiet) progress
          (Session.benched .lf, b') ∧
        b'.calls = [.write 16 ((Session.benched .lf).payload "MEAS?"), .serialPoll 16,
          .serialPoll 16] ∧
        progress = .done (.error
          (.timeout "SerialPoll" none ⟨StatusWord.timo ||| StatusWord.err⟩ 6)) := by
  have hbegun : measuring.Reaches (Session.benched .lf, quiet) _ _ := .begun 0
  have hresumed := Reaches.resumed hbegun lost 100000000
  obtain ⟨-, made, htrace, -, -, hlast, -⟩ :=
    (reports_first_failed_call (a := measuring) (s := Session.benched .lf) rfl rfl).1 hresumed
  refine ⟨rfl, rfl, _, _, hresumed, rfl, ?_⟩
  have hrecord : (made.map (·.record (Session.benched .lf))).getLast? = some
      ⟨.serialPoll 16, none, ⟨⟨StatusWord.timo ||| StatusWord.err⟩, 6, 0⟩⟩ :=
    congrArg List.getLast? htrace.symm
  rw [List.getLast?_map, Option.map_eq_some_iff] at hrecord
  obtain ⟨⟨o, r⟩, hm, hcall⟩ := hrecord
  have hreport := (hlast _ hm).1
  obtain ⟨hcall, -, rfl⟩ := RawRecord.mk.inj hcall
  cases o with
  | serialPoll => exact hreport rfl
  | _ => cases hcall

end Act

end InstrumentBus
