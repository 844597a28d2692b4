/-
An operation that fails on a bus in memory, and what it is worth to try it
again.

The operations with one thing to do — a write, a read of either kind, a
poll, a clear — are decided by their first raw call (`Decided`). A fault that
waits takes the place of that call, and so does a refusal where the
descriptor leads to no instrument. Either one ends the operation, since it
transfers nothing: the read of a message too goes on only after a chunk that
held something. If the first call reaches an instrument, then so do the
others, and the operation goes well; a message cannot be lost halfway.

So a failure leaves everything as it was, but for the registers and for the
one fault that was in the way. Every further try takes one more fault out of
the way, whether it fails by it or not, and no operation looks at the
registers it finds. When the faults are used up, a try comes to what it would
have come to without them.
-/
import InstrumentBus.Proofs.Session.Meeting

namespace InstrumentBus

/-- The failure is that of a raw call, which timed out or met with an
error. -/
def Failure.ofCall : Failure → Bool
  | .timeout .. | .hardware .. => true
  | .openRefused .. | .waitTimeout .. | .format .. | .invalidRange .. | .invalidArgument _
  | .useAfterClose _ | .cancelled _ => false

-- ======================================================= the operations

namespace Session

open Simulated

variable {α γ δ : Type} {s : Session} {b b' : Simulated}

/-- An exchange is decided by its first raw call: if that is kept from the
instruments nothing else happens, and if it reaches one the exchange goes
well. The registers it finds are nothing to it. -/
structure Decided (s : Session) (x : Exchange Simulated α) : Prop where
  turned : ∀ b b', b.Turned s.descriptor b' → (x.run b).2 = b'
  reached : ∀ b a i, b.access s.descriptor = .reached a i → ∃ r, (x.run b).1 = .ok r
  blind : ∀ b registers, x.run { b with registers } = x.run b

/-- An exchange makes no call, and is not told that one failed. -/
def Idle (x : Exchange Simulated α) : Prop :=
  ∃ r, (∀ b, x.run b = (r, b)) ∧ ∀ e, r = .error e → e.ofCall = false

theorem Decided.map {x : Exchange Simulated α} (f : α → γ) (h : s.Decided x) :
    s.Decided (f <$> x) where
  turned b b' ht := by
    rw [Exchange.run_map]
    exact h.turned b b' ht
  reached b a i hr := by
    obtain ⟨r, hok⟩ := h.reached b a i hr
    exact ⟨f r, by rw [Exchange.run_map, hok]; rfl⟩
  blind b registers := by
    rw [Exchange.run_map, Exchange.run_map, h.blind]

variable {call : Int → Simulated → Simulated × δ} {nothing : δ} {deed : Instrument → Deed δ}
  {a : Address} {i : Instrument}

/-- A call that reaches an instrument goes well. -/
theorem verdict_of_reached (h : Calls call nothing deed) {d : Int}
    (hr : b.access d = .reached a i) (operation : String) (command : Option (List UInt8)) :
    verdict (call d b).1 operation command = .ok (RawBus.registers (call d b).1).status := by
  refine verdict_ok operation command ?_
  rw [h.reached hr]
  exact h.completes i

/-- An exchange that makes one call and looks at the registers. -/
theorem decided_of_calls (h : Calls call nothing deed) {x : Exchange Simulated α}
    {operation : String} {command : Option (List UInt8)} (answer : Simulated × δ → α)
    (hx : ∀ b, x.run b =
      ((verdict (call s.descriptor b).1 operation command).map fun _ =>
        answer (call s.descriptor b), (call s.descriptor b).1)) :
    s.Decided x where
  turned b b' ht := by
    rw [hx, h.turned ht]
  reached b a i hr := by
    rw [hx, verdict_of_reached h hr]
    exact ⟨_, rfl⟩
  blind b registers := by
    rw [hx, hx, h.blind]

/-- No chunk fails once the first has been had. -/
theorem chunks_ok (fuel : Nat) (buffer : List UInt8)
    (h : b.access s.descriptor = .reached a i) :
    ∃ bytes, ((s.chunks fuel buffer).run b).1 = .ok bytes := by
  induction fuel generalizing b i buffer with
  | zero => exact ⟨[], rfl⟩
  | succ fuel ih =>
      have hagain := (calls_read buffer).reached_again h
      obtain ⟨rest, hrest⟩ := ih (b.read s.descriptor buffer).2 hagain
      rw [run_chunks_ok fuel (verdict_of_reached (calls_read buffer) h "Read" none)]
      dsimp only
      split
      · exact ⟨_, rfl⟩
      · exact ⟨_, congrArg (Except.map _) hrest⟩

/-- A chunk that is kept from the instrument is the last, since it holds
nothing. -/
theorem run_chunks_turned (h : b.Turned s.descriptor b') (fuel : Nat) (buffer : List UInt8) :
    (s.chunks (fuel + 1) buffer).run b = ((verdict b' "Read" none).map fun _ => [], b') := by
  have hread : RawBus.read b s.descriptor buffer = (b', buffer) :=
    (calls_read buffer).turned h
  have hcount : (RawBus.registers b').count = 0 := h.count
  cases hv : verdict (RawBus.read b s.descriptor buffer).1 "Read" none with
  | error e =>
      rw [run_chunks_error fuel hv]
      rw [hread] at hv ⊢
      rw [hv]
      rfl
  | ok status =>
      rw [run_chunks_ok fuel hv]
      rw [hread] at hv ⊢
      simp only [hcount, beq_self_eq_true, Bool.or_true, if_true, List.take_zero]
      rw [hv]
      rfl

/-- The chunks of a message are decided by the first of them: only a chunk
that held something is followed by another. -/
theorem decided_chunks (s : Session) (fuel : Nat) (buffer : List UInt8) :
    s.Decided (s.chunks (fuel + 1) buffer) where
  turned b b' h := by
    rw [run_chunks_turned h]
  reached b a i h := chunks_ok (fuel + 1) buffer h
  blind b registers := by
    have hread : RawBus.read { b with registers } s.descriptor buffer =
        RawBus.read b s.descriptor buffer := (calls_read buffer).blind s.descriptor b registers
    cases hv : verdict (RawBus.read b s.descriptor buffer).1 "Read" none with
    | error e =>
        have hv' := hv
        rw [← hread] at hv'
        rw [run_chunks_error fuel hv, run_chunks_error fuel hv', hread]
    | ok status =>
        have hv' := hv
        rw [← hread] at hv'
        rw [run_chunks_ok fuel hv, run_chunks_ok fuel hv', hread]

/-- A read that is kept from the instrument is told so by the registers, or
else its message is empty. -/
theorem run_read_turned (hs : s.closed = false) (h : b.Turned s.descriptor b') :
    s.read.run b = ((verdict b' "Read" none).map fun _ => textOf [], b') := by
  rw [run_read, hs, if_neg Bool.false_ne_true]
  simp only [run_chunks_turned h]
  cases verdict b' "Read" none <;> rfl

theorem Decided.read (hs : s.closed = false) : s.Decided s.read where
  turned b b' h := by
    rw [run_read_turned hs h]
  reached b a i h := by
    obtain ⟨bytes, hok⟩ := chunks_ok (RawBus.pending b + 1) (.replicate chunkSize 0) h
    refine ⟨textOf bytes, ?_⟩
    rw [run_read, hs, if_neg Bool.false_ne_true]
    exact congrArg (Except.map textOf) hok
  blind b registers := by
    have hchunks := (decided_chunks s (RawBus.pending b) (.replicate chunkSize 0)).blind b registers
    rw [run_read, run_read, hs, if_neg Bool.false_ne_true, if_neg Bool.false_ne_true]
    exact congrArg (fun r => (Except.map textOf r.1, r.2)) hchunks

-- ==================================== what makes no call, and what does

theorem Idle.map {x : Exchange Simulated α} (f : α → γ) (h : Idle x) : Idle (f <$> x) := by
  obtain ⟨r, hrun, hr⟩ := h
  refine ⟨r.map f, fun b => by rw [Exchange.run_map, hrun], fun e he => ?_⟩
  cases r with
  | ok r => cases he
  | error e' =>
      cases he
      exact hr e rfl

/-- An exchange has nothing to ask of the driver, or is decided by what it
asks first. -/
def Settles (s : Session) (x : Exchange Simulated α) : Prop := Idle x ∨ s.Decided x

namespace Settles

theorem map {x : Exchange Simulated α} (f : α → γ) (h : s.Settles x) : s.Settles (f <$> x) :=
  h.imp (.map f) (.map f)

/-- An operation looks at a condition before it goes on, and is over where
that turns it away. -/
theorem of_ite {x : Exchange Simulated α} {c : Prop} [Decidable c] {r : Except Failure α}
    {y : Simulated → Except Failure α × Simulated}
    (hx : ∀ b, x.run b = if c then (r, b) else y b) (hr : ∀ e, r = .error e → e.ofCall = false)
    (h : ¬c → (∀ b, x.run b = y b) → s.Settles x) : s.Settles x := by
  by_cases hc : c
  · exact .inl ⟨r, fun b => (hx b).trans (if_pos hc), hr⟩
  · exact h hc fun b => (hx b).trans (if_neg hc)

/-- An operation looks first whether the session is open. -/
theorem of_open {x : Exchange Simulated α} {y : Simulated → Except Failure α × Simulated}
    (hx : ∀ b, x.run b = if s.closed then (.error sessionClosed, b) else y b)
    (h : s.closed = false → (∀ b, x.run b = y b) → s.Settles x) : s.Settles x :=
  of_ite hx (fun e he => by cases he; rfl) fun hs => h (Bool.eq_false_iff.mpr hs)

end Settles

theorem settles_write (s : Session) (command : String) : s.Settles (s.write command) := by
  refine .of_open (s.run_write command) fun _ hx => ?_
  refine .of_ite hx (fun e he => by cases he; rfl) fun _ hx => ?_
  exact .inr (decided_of_calls (calls_write _) (fun _ => ()) hx)

theorem settles_writeBytes (s : Session) (data : List UInt8) : s.Settles (s.writeBytes data) := by
  refine .of_open (s.run_writeBytes data) fun _ hx => ?_
  refine .of_ite hx nofun fun _ hx => ?_
  exact .inr (decided_of_calls (calls_write _) (fun _ => ()) hx)

theorem settles_readBytes (s : Session) (capacity : Nat) : s.Settles (s.readBytes capacity) := by
  refine .of_open (s.run_readBytes capacity) fun _ hx => ?_
  refine .of_ite hx nofun fun _ hx => ?_
  exact .inr (decided_of_calls (calls_read _) (fun r => (r.1.registers.count, r.2)) hx)

theorem settles_read (s : Session) : s.Settles s.read :=
  .of_open s.run_read fun hs _ => .inr (.read hs)

theorem settles_serialPoll (s : Session) : s.Settles s.serialPoll :=
  .of_open s.run_serialPoll fun _ hx =>
    .inr (decided_of_calls calls_serialPoll (fun r => ⟨r.2⟩) hx)

theorem settles_clear (s : Session) : s.Settles s.clear :=
  .of_open s.run_clear fun _ hx => .inr (decided_of_calls calls_clear (fun _ => ()) hx)

/-- A failed call leaves the bus as it was, less the fault that was in the
way. -/
theorem Decided.failed {x : Exchange Simulated α} (h : s.Decided x) {e : Failure}
    (he : (x.run b).1 = .error e) :
    ∃ registers, (x.run b).2 = { b with faults := b.faults.tail, registers } := by
  cases hf : b.faults with
  | nil =>
      rcases turned_or_reached hf s.descriptor with ⟨registers, ht⟩ | ⟨a, i, hr⟩
      · refine ⟨registers, (h.turned b _ ht).trans ?_⟩
        rw [show ([] : List Fault).tail = b.faults from hf.symm]
      · obtain ⟨r, hok⟩ := h.reached b a i hr
        rw [hok] at he
        cases he
  | cons f rest => exact ⟨_, h.turned b _ (turned_of_faults hf s.descriptor)⟩

end Session

-- ============================================================== the acts

namespace Act

open Session

/-- The act is an operation with one thing to do. -/
def isBasic : Act → Bool
  | .write _ | .writeBytes _ | .readBytes _ | .read | .serialPoll | .clear => true
  | .readAs _ | .query .. | .queryAsync .. | .messageAvailable | .serviceRequested | .await ..
  | .close | .version | .setTerminator _ | .info | .label | .sleep _ | .fail _ => false

theorem exists_exchange_map {α : Type} {a : Act} {x : Session → Exchange Simulated α}
    {f : α → Reply} (h : ∀ s : Session, s.Settles (x s))
    (ha : ∀ now, a.start now = exchange fun s => f <$> x s) :
    ∃ y : Session → Exchange Simulated Reply, (∀ now, a.start now = exchange y) ∧
      ∀ s : Session, s.Settles (y s) := ⟨_, ha, fun s => (h s).map f⟩

theorem exists_exchange {a : Act} (ha : a.isBasic = true) :
    ∃ x : Session → Exchange Simulated Reply, (∀ now, a.start now = exchange x) ∧
      ∀ s : Session, s.Settles (x s) := by
  cases a with
  | write command => exact exists_exchange_map (·.settles_write command) fun _ => rfl
  | writeBytes data => exact exists_exchange_map (·.settles_writeBytes data) fun _ => rfl
  | readBytes n => exact exists_exchange_map (·.settles_readBytes n) fun _ => rfl
  | read => exact exists_exchange_map settles_read fun _ => rfl
  | serialPoll => exact exists_exchange_map settles_serialPoll fun _ => rfl
  | clear => exact exists_exchange_map settles_clear fun _ => rfl
  | _ => cases ha

/-- A line after an act has been tried at each of these instants, whatever
came of it. -/
def tried {β : Type} [RawBus β] (a : Act) (l : Line β) (nows : List Instant) : Line β :=
  nows.foldl (fun l now => ((a.start now).run l).2) l

variable {a : Act} {x : Session → Exchange Simulated Reply} {s s' : Session} {b b' : Simulated}
  {e : Failure} {now : Instant}

/-- Each try takes one fault out of the way, and changes nothing else. -/
theorem tried_of_decided (hx : ∀ now, a.start now = exchange x) (h : s.Decided (x s))
    (b : Simulated) (nows : List Instant) {faults : List Fault}
    (hn : nows.length ≤ faults.length) (registers : Registers) :
    ∃ registers', a.tried (s, { b with faults, registers }) nows =
      (s, { b with faults := faults.drop nows.length, registers := registers' }) := by
  induction nows generalizing faults registers with
  | nil => exact ⟨registers, rfl⟩
  | cons now nows ih =>
      cases faults with
      | nil => cases hn
      | cons f rest =>
          have hstep : ((a.start now).run (s, { b with faults := f :: rest, registers })).2 =
              (s, { b with faults := rest, registers := ⟨f.status, f.error, 0⟩ }) := by
            rw [hx, run_exchange]
            exact congrArg (s, ·) (h.turned _ _ (Simulated.turned_of_faults rfl s.descriptor))
          obtain ⟨registers', htried⟩ := ih (Nat.le_of_succ_le_succ hn) ⟨f.status, f.error, 0⟩
          refine ⟨registers', ?_⟩
          show a.tried ((a.start now).run _).2 nows = _
          rw [hstep, htried]
          rfl

/-- An operation whose raw call timed out or met with an error has changed
nothing, and has taken the oldest fault, if there was one, out of the way.
When it has been tried again for each fault that is left, whatever came of
that, a further try comes to just what the operation would have come to had
there been no fault. -/
theorem failure_changes_nothing (ha : a.isBasic = true) (he : e.ofCall = true)
    (hrun : (a.start now).run (s, b) = (.done (.error e), (s', b'))) :
    s' = s ∧ b' = { b with faults := b.faults.tail, registers := b'.registers } ∧
      ∀ nows : List Instant, nows.length = b'.faults.length → ∀ now',
        (a.start now').run (a.tried (s, b') nows) =
          (a.start now').run (s, { b with faults := [] }) := by
  obtain ⟨x, hx, hsettles⟩ := exists_exchange ha
  rw [hx, run_exchange] at hrun
  have hresult : ((x s).run b).1 = .error e := Progress.done.inj (Prod.mk.inj hrun).1
  obtain ⟨hs, hb⟩ := Prod.mk.inj (Prod.mk.inj hrun).2
  rcases hsettles s with ⟨r, hidle, hr⟩ | hdecided
  · rw [hidle] at hresult
    rw [hr e hresult] at he
    cases he
  · obtain ⟨registers, hafter⟩ := hdecided.failed hresult
    have hb' : b' = { b with faults := b.faults.tail, registers } := hb.symm.trans hafter
    subst hb'
    refine ⟨hs.symm, rfl, fun nows hn now' => ?_⟩
    obtain ⟨registers', htried⟩ := tried_of_decided hx hdecided b nows (Nat.le_of_eq hn) registers
    have hnone : b.faults.tail.drop nows.length = [] := by
      rw [hn]
      exact List.drop_length
    rw [htried, hnone, hx, run_exchange, run_exchange]
    have hblind := hdecided.blind { b with faults := [] } registers'
    show (Progress.done ((x s).run { { b with faults := [] } with registers := registers' }).1,
      (s, ((x s).run { { b with faults := [] } with registers := registers' }).2)) = _
    rw [hblind]

/-- A message of more than one chunk, with three faults in its way: one that
times out, one that does no harm, and one that fails. -/
def stalled : Simulated :=
  { Session.bench { Instrument.silent with output := List.replicate 1500 65 } with
    faults := [Simulated.timeoutFault, ⟨⟨StatusWord.cmpl⟩, 0⟩, Simulated.errorFault .enol] }

/-- The read times out, then returns an empty message, then fails; after
that it returns the message. -/
theorem failure_changes_nothing_stalled :
    (Act.read.start 0).run (benched .lf, stalled) =
        (.done (.error (.timeout "Read" none Simulated.timeoutFault.status 6)),
          (benched .lf, { stalled with
            faults := stalled.faults.tail
            registers := ⟨Simulated.timeoutFault.status, 6, 0⟩ })) ∧
      (Act.read.start 3).run (Act.read.tried (benched .lf, { stalled with
            faults := stalled.faults.tail
            registers := ⟨Simulated.timeoutFault.status, 6, 0⟩ }) [1, 2]) =
        (Act.read.start 3).run (benched .lf, { stalled with faults := [] }) := by
  have hrun : (Act.read.start 0).run (benched .lf, stalled) =
      (.done (.error (.timeout "Read" none Simulated.timeoutFault.status 6)),
        (benched .lf, { stalled with
          faults := stalled.faults.tail
          registers := ⟨Simulated.timeoutFault.status, 6, 0⟩ })) := by
    have hread := run_read_turned (s := benched .lf) rfl
      (Simulated.turned_of_faults (b := stalled) rfl 16)
    show (exchange fun s => (fun t => .value (.text t)) <$> s.read).run _ = _
    rw [run_exchange, Exchange.run_map, hread]
    rfl
  exact ⟨hrun, (failure_changes_nothing rfl rfl hrun).2.2 [1, 2] rfl 3⟩

end Act

end InstrumentBus
