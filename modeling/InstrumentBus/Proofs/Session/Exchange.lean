/-
What each operation of a session comes to, as one equation: the answer
and the driver it leaves behind, given the driver it was started on. An
operation makes a raw call and looks at the registers straight after it;
`Session.verdict` is that look. After this file no operation is taken
apart any more.
-/
import InstrumentBus.Session.Act

namespace InstrumentBus

variable {β α γ : Type}

namespace Exchange

-- ======================================================= the plumbing

theorem run_get (b : β) : (get : Exchange β β).run b = (.ok b, b) := rfl

theorem run_set (b b' : β) : (set b' : Exchange β PUnit).run b = (.ok ⟨⟩, b') := rfl

theorem run_modify (f : β → β) (b : β) :
    (modify f : Exchange β PUnit).run b = (.ok ⟨⟩, f b) := rfl

/-- An exchange after another takes up its answer and its driver. -/
theorem run_bind (x : Exchange β α) (f : α → Exchange β γ) (b : β) :
    (x >>= f).run b = (ExceptT.bindCont f (x.run b).1 : StateM β _) (x.run b).2 := rfl

/-- An exchange that went well, followed by another. -/
theorem run_bind_ok {x : Exchange β α} {b b' : β} {a : α} (f : α → Exchange β γ)
    (h : x.run b = (.ok a, b')) : (x >>= f).run b = (f a).run b' := by
  rw [run_bind, h]
  rfl

/-- An exchange that failed is followed by nothing. -/
theorem run_bind_error {x : Exchange β α} {b b' : β} {e : Failure} (f : α → Exchange β γ)
    (h : x.run b = (.error e, b')) : (x >>= f).run b = (.error e, b') := by
  rw [run_bind, h]
  rfl

theorem run_map (f : α → γ) (x : Exchange β α) (b : β) :
    (f <$> x).run b = ((x.run b).1.map f, (x.run b).2) := by
  show (x >>= fun a => pure (f a)).run b = _
  cases h : x.run b with
  | mk r b' =>
      cases r with
      | ok a => exact run_bind_ok _ h
      | error e => exact run_bind_error _ h

end Exchange

namespace Session

open Exchange

-- ================================================== the registers read

/-- What is said of a session that has been closed. -/
def sessionClosed : Failure := .useAfterClose "device session"

theorem run_ensureOpen (s : Session) (b : β) :
    s.ensureOpen.run b = (if s.closed then .error sessionClosed else .ok (), b) := by
  unfold ensureOpen
  cases s.closed <;> rfl

/-- An operation that wants an open session, on one that is closed or
not. -/
theorem run_ensureOpen_bind (s : Session) (x : Exchange β α) (b : β) :
    (s.ensureOpen >>= fun _ => x).run b =
      if s.closed then (.error sessionClosed, b) else x.run b := by
  have h := run_ensureOpen s b
  cases hc : s.closed with
  | true =>
      rw [hc] at h
      exact run_bind_error _ h
  | false =>
      rw [hc] at h
      exact run_bind_ok _ h

variable [RawBus β]

/-- What the registers say about the raw call just made. -/
def verdict (b : β) (operation : String) (command : Option (List UInt8)) :
    Except Failure StatusWord :=
  let r := RawBus.registers b
  let text := command.map fun data => String.ofList (Text.Latin.decode data)
  if r.status.timedOut then .error (.timeout operation text r.status r.error)
  else if r.status.failed then
    .error (.hardware operation text r.status r.error (RawBus.errorText b r.error))
  else .ok r.status

/-- Registers that tell of no failure. -/
theorem verdict_ok {b : β} (operation : String)
    (command : Option (List UInt8)) (h : (RawBus.registers b).failing = false) :
    verdict b operation command = .ok (RawBus.registers b).status := by
  unfold Registers.failing at h
  rw [Bool.or_eq_false_iff] at h
  unfold verdict
  simp only [h.1, h.2, Bool.false_eq_true, if_false]

theorem run_checked (operation : String) (command : Option (List UInt8)) (b : β) :
    (checked operation command).run b = (verdict b operation command, b) := by
  unfold checked verdict
  rw [run_bind_ok _ (run_get b)]
  by_cases ht : (RawBus.registers b).status.timedOut = true
  · simp only [ht]
    rfl
  · simp only [ht]
    by_cases hf : (RawBus.registers b).status.failed = true
    · simp only [hf]
      rfl
    · simp only [hf]
      rfl

/-- A look at the registers, and what becomes of the status word. -/
theorem run_checked_bind (operation : String) (command : Option (List UInt8))
    (f : StatusWord → α) (b : β) :
    (checked operation command >>= fun status => pure (f status)).run b =
      ((verdict b operation command).map f, b) := by
  have h := run_checked operation command b
  cases hv : verdict b operation command with
  | ok status =>
      rw [hv] at h
      exact run_bind_ok _ h
  | error e =>
      rw [hv] at h
      exact run_bind_error _ h

-- ======================================================== the operations

theorem run_write (s : Session) (command : String) (b : β) :
    (s.write command).run b =
      if s.closed then (.error sessionClosed, b)
      else if command = "" then (.error (.invalidArgument .emptyCommand), b)
      else
        let b' := RawBus.write b s.descriptor (s.payload command)
        ((verdict b' "Write" (some (s.payload command))).map fun _ => (), b') := by
  unfold write
  rw [run_ensureOpen_bind]
  by_cases hc : command = ""
  · simp only [hc, if_true]
    rfl
  · simp only [hc, if_false]
    rw [run_bind_ok _ (run_modify _ b), run_checked_bind]

theorem run_writeBytes (s : Session) (data : List UInt8) (b : β) :
    (s.writeBytes data).run b =
      if s.closed then (.error sessionClosed, b)
      else if data = [] then (.ok (), b)
      else
        let b' := RawBus.write b s.descriptor data
        ((verdict b' "WriteBytes" none).map fun _ => (), b') := by
  unfold writeBytes
  rw [run_ensureOpen_bind]
  cases data with
  | nil => rfl
  | cons x rest =>
      rw [if_neg (List.cons_ne_nil x rest)]
      show (if s.closed then _ else (modify _ >>= _ : Exchange β Unit).run b) = _
      rw [run_bind_ok _ (run_modify _ b), run_checked_bind]

/-- A raw read that went well. -/
theorem run_transfer_ok {s : Session} {operation : String} {buffer : List UInt8} {b : β}
    {status : StatusWord}
    (h : verdict (RawBus.read b s.descriptor buffer).1 operation none = .ok status) :
    (s.transfer operation buffer).run b =
      (.ok ((RawBus.read b s.descriptor buffer).2,
          (RawBus.registers (RawBus.read b s.descriptor buffer).1).count, status),
        (RawBus.read b s.descriptor buffer).1) := by
  unfold transfer
  rw [run_bind_ok _ (run_get b)]
  rcases hr : RawBus.read b s.descriptor buffer with ⟨b', buffer'⟩
  rw [hr] at h
  have hc := run_checked operation none b'
  rw [h] at hc
  show (set b' >>= fun _ => checked operation none >>= _ : Exchange β _).run b = _
  rw [run_bind_ok _ (run_set b b'), run_bind_ok _ hc]
  rfl

/-- A raw read that went wrong. -/
theorem run_transfer_error {s : Session} {operation : String} {buffer : List UInt8} {b : β}
    {e : Failure} (h : verdict (RawBus.read b s.descriptor buffer).1 operation none = .error e) :
    (s.transfer operation buffer).run b = (.error e, (RawBus.read b s.descriptor buffer).1) := by
  unfold transfer
  rw [run_bind_ok _ (run_get b)]
  rcases hr : RawBus.read b s.descriptor buffer with ⟨b', buffer'⟩
  rw [hr] at h
  have hc := run_checked operation none b'
  rw [h] at hc
  show (set b' >>= fun _ => checked operation none >>= _ : Exchange β _).run b = _
  rw [run_bind_ok _ (run_set b b'), run_bind_error _ hc]

theorem run_readBytes (s : Session) (capacity : Nat) (b : β) :
    (s.readBytes capacity).run b =
      if s.closed then (.error sessionClosed, b)
      else if capacity = 0 then (.ok (0, []), b)
      else
        let r := RawBus.read b s.descriptor (List.replicate capacity 0)
        ((verdict r.1 "ReadBytes" none).map fun _ => ((RawBus.registers r.1).count, r.2),
          r.1) := by
  unfold readBytes
  rw [run_ensureOpen_bind]
  by_cases hc : capacity = 0
  · simp only [hc, if_true]
    rfl
  · simp only [hc, if_false]
    cases hv : verdict (RawBus.read b s.descriptor (List.replicate capacity 0)).1 "ReadBytes"
        none with
    | ok status =>
        rw [run_bind_ok _ (run_transfer_ok hv)]
        rfl
    | error e =>
        rw [run_bind_error _ (run_transfer_error hv)]
        rfl

/-- A chunk that could not be had is the end of the message. -/
theorem run_chunks_error {s : Session} {buffer : List UInt8} {b : β} {e : Failure} (fuel : Nat)
    (h : verdict (RawBus.read b s.descriptor buffer).1 "Read" none = .error e) :
    (s.chunks (fuel + 1) buffer).run b = (.error e, (RawBus.read b s.descriptor buffer).1) :=
  run_bind_error _ (run_transfer_error h)

/-- A chunk that was had is the last one, or is followed by others. -/
theorem run_chunks_ok {s : Session} {buffer : List UInt8} {b : β} {status : StatusWord}
    (fuel : Nat) (h : verdict (RawBus.read b s.descriptor buffer).1 "Read" none = .ok status) :
    (s.chunks (fuel + 1) buffer).run b =
      let r := RawBus.read b s.descriptor buffer
      let count := (RawBus.registers r.1).count
      if status.ended || count == 0 then (.ok (r.2.take count), r.1)
      else
        let rest := (s.chunks fuel r.2).run r.1
        (rest.1.map (r.2.take count ++ ·), rest.2) := by
  conv => lhs; unfold chunks
  rw [run_bind_ok _ (run_transfer_ok h)]
  obtain ⟨b', buffer'⟩ := RawBus.read b s.descriptor buffer
  show (if (status.ended || (RawBus.registers b').count == 0) = true then _ else
    s.chunks fuel buffer' >>= _ : Exchange β _).run b' = _
  by_cases hlast : (status.ended || (RawBus.registers b').count == 0) = true
  · simp only [hlast, if_true]
    rfl
  · simp only [hlast]
    cases hr : (s.chunks fuel buffer').run b' with
    | mk rest b'' =>
        cases rest with
        | ok rest => exact run_bind_ok _ hr
        | error e => exact run_bind_error _ hr

/-- The text that the bytes of a message are. -/
def textOf (bytes : List UInt8) : String :=
  String.ofList (Text.trimEnd Text.isMessageEnd (Text.Latin.decode bytes))

theorem run_read (s : Session) (b : β) :
    s.read.run b =
      if s.closed then (.error sessionClosed, b)
      else
        let r := (s.chunks (RawBus.pending b + 1) (List.replicate chunkSize 0)).run b
        (r.1.map textOf, r.2) := by
  unfold read
  rw [run_ensureOpen_bind, run_bind_ok _ (run_get b)]
  cases hr : (s.chunks (RawBus.pending b + 1) (List.replicate chunkSize 0)).run b with
  | mk bytes b' =>
      cases bytes with
      | ok bytes => rw [run_bind_ok _ hr]; rfl
      | error e => rw [run_bind_error _ hr]; rfl

theorem run_readAs (s : Session) (kind : ResponseKind) (b : β) :
    (s.readAs kind).run b =
      ((s.read.run b).1.bind fun text => Response.ofText kind text.toList, (s.read.run b).2) := by
  unfold readAs
  cases hr : s.read.run b with
  | mk text b' =>
      cases text with
      | ok text =>
          rw [run_bind_ok _ hr]
          show (ofExcept (Response.ofText kind text.toList) : Exchange β Response).run b' =
            (Response.ofText kind text.toList, b')
          cases Response.ofText kind text.toList <;> rfl
      | error e =>
          rw [run_bind_error _ hr]
          rfl

/-- A query whose command could not be written. -/
theorem run_query_error {s : Session} {command : String} {kind : ResponseKind} {b b' : β}
    {e : Failure} (h : (s.write command).run b = (.error e, b')) :
    (s.query command kind).run b = (.error e, b') := run_bind_error _ h

/-- A query whose command was written. -/
theorem run_query_ok {s : Session} {command : String} {kind : ResponseKind} {b b' : β}
    (h : (s.write command).run b = (.ok (), b')) :
    (s.query command kind).run b = (s.readAs kind).run b' := run_bind_ok _ h

theorem run_serialPoll (s : Session) (b : β) :
    s.serialPoll.run b =
      if s.closed then (.error sessionClosed, b)
      else
        let r := RawBus.serialPoll b s.descriptor
        ((verdict r.1 "SerialPoll" none).map fun _ => ⟨r.2⟩, r.1) := by
  unfold serialPoll
  rw [run_ensureOpen_bind, run_bind_ok _ (run_get b)]
  obtain ⟨b', byte⟩ := RawBus.serialPoll b s.descriptor
  show (if s.closed then _ else (set b' >>= _ : Exchange β _).run b) = _
  rw [run_bind_ok _ (run_set b b'), run_checked_bind]

theorem run_messageAvailable (s : Session) (b : β) :
    s.messageAvailable.run b =
      ((s.serialPoll.run b).1.map (·.messageAvailable), (s.serialPoll.run b).2) :=
  run_map _ _ b

theorem run_serviceRequested (s : Session) (b : β) :
    s.serviceRequested.run b =
      ((s.serialPoll.run b).1.map (·.serviceRequested), (s.serialPoll.run b).2) :=
  run_map _ _ b

theorem run_clear (s : Session) (b : β) :
    s.clear.run b =
      if s.closed then (.error sessionClosed, b)
      else
        let b' := RawBus.clear b s.descriptor
        ((verdict b' "Clear" none).map fun _ => (), b') := by
  unfold clear
  rw [run_ensureOpen_bind, run_bind_ok _ (run_modify _ b), run_checked_bind]

theorem run_connect (a : Address) (o : SessionOptions) (b : β) :
    (connect a o).run b =
      let r := RawBus.openDevice b (request a o)
      if r.2 < 0 then (.error (.openRefused a o.board r.2), r.1)
      else (.ok ⟨r.2, a, o.board, o.timeout, o.terminator, false⟩, r.1) := by
  unfold connect
  rw [run_bind_ok _ (run_get b)]
  obtain ⟨b', d⟩ := RawBus.openDevice b (request a o)
  show (set b' >>= _ : Exchange β _).run b = _
  rw [run_bind_ok _ (run_set b b')]
  by_cases hd : d < 0
  · simp only [hd, if_true]
    rfl
  · simp only [hd, if_false]
    rfl

end Session

-- ============================================================ waits

/-- A stateful step after another takes up its answer and its state. -/
theorem stateful_bind {σ : Type} {x : StateM σ α} {p q : σ} {a : α} (f : α → StateM σ γ)
    (h : x.run p = (a, q)) : (x >>= f).run p = (f a).run q := by
  have hb : (x >>= f).run p = (f (x.run p).1).run (x.run p).2 := rfl
  rw [hb, h]

namespace Wait

/-- What a wait makes of the answer to a poll. -/
def judge (w : Wait) (now : Instant) : Except Failure Bool → Verdict
  | .error e => .done (.error e)
  | .ok true => .done (.ok ())
  | .ok false =>
    if w.expired now then .done (.error (.waitTimeout w.condition.operation w.budget))
    else .again (w.next now)

/-- A wait whose token has been cancelled does not poll; any other polls
once. -/
theorem run_poll [RawBus β] (w : Wait) (s : Session) (now : Instant) (b : β) :
    (w.poll s now).run b =
      if w.cancelled then (.done (.error (.cancelled w.condition.operation)), b)
      else
        (w.judge now ((w.condition.poll s).run b).1, ((w.condition.poll s).run b).2) := by
  unfold poll
  cases w.cancelled with
  | true => rfl
  | false =>
      rcases h : (w.condition.poll s).run b with ⟨r, b'⟩
      refine (stateful_bind (x := (w.condition.poll s).run) _ h).trans ?_
      cases r with
      | error e => rfl
      | ok found =>
          cases found with
          | true => rfl
          | false =>
              unfold judge
              cases w.expired now <;> rfl

end Wait

-- ============================================================= acts

namespace Act

theorem run_exchange (x : Session → Exchange β Reply) (s : Session) (b : β) :
    (exchange x).run (s, b) = (.done ((x s).run b).1, (s, ((x s).run b).2)) := rfl

variable [RawBus β]

/-- What follows a poll of a wait. -/
def afterPoll (w : Wait) (thenRead : Option ResponseKind) :
    Wait.Verdict → StateM (Line β) Progress
  | .done (.ok ()) => conclude thenRead
  | .done (.error e) => pure (.done (.error e))
  | .again wake => pure (.paused (.await w wake thenRead))

theorem run_pollOnce (w : Wait) (now : Instant) (thenRead : Option ResponseKind) (s : Session)
    (b : β) :
    (pollOnce w now thenRead).run (s, b) =
      (afterPoll w thenRead ((w.poll s now).run b).1).run (s, ((w.poll s now).run b).2) := by
  have hget : (get : StateM (Line β) (Line β)).run (s, b) = ((s, b), (s, b)) := rfl
  unfold pollOnce
  refine (stateful_bind _ hget).trans ?_
  simp only
  rcases h : (w.poll s now).run b with ⟨verdict, b'⟩
  cases verdict with
  | done result => cases result <;> rfl
  | again wake => rfl

end Act

-- ========================================================= programs

namespace Program

variable [RawBus β]

/-- What follows an act: the rest of the program, if the act went well. -/
def follow (now : Instant) (rest : Program) : Progress → StateM (Line β) Advance
  | .done (.ok r) => do return .after r (← run now rest)
  | .done (.error e) => return .done [] (.error e)
  | .paused pending => return .paused [] pending rest

theorem run_cons (now : Instant) (a : Act) (rest : Program) :
    (run now (a :: rest) : StateM (Line β) Advance) = a.start now >>= follow now rest := rfl

theorem resume_eq (now : Instant) (pending : Pending) (rest : Program) :
    (resume now pending rest : StateM (Line β) Advance) =
      Act.resume pending now >>= follow now rest := rfl

end Program

end InstrumentBus
