/-
The stream of bytes through an instrument on a bus in memory.

Bytes get into the output queue of an instrument from outside, or as the
answer to a command, and get out of it through reads, in the order in
which they got in. So at any time the bytes that were read and those that
are still in the queue are the bytes that were put there, and nothing is
lost, made or put out of order (`Simulated.bytes_conserved`). The account
begins anew when an instrument is put in the place of another and when it
is cleared.

The account is kept of what happens on the bus, whoever does it: an
`Occurrence` is an operation together with the bus before it and after
it. A call is delivered to an instrument if no fault waits, its descriptor
is online and the instrument is there (`Simulated.receiver?`); any other
call moves no byte.
-/
import Mathlib.Data.List.DropRight
import InstrumentBus.Proofs.Session.Resync

namespace InstrumentBus

namespace Simulated

-- ======================================================= what is done

/-- Something done to a bus in memory, from outside or by a raw call. A
read is handed a buffer. -/
inductive Operation where
  | stimulate (s : Stimulus)
  | openDevice (r : OpenRequest)
  | takeOffline (d value : Int)
  | write (d : Int) (data : List UInt8)
  | read (d : Int) (buffer : List UInt8)
  | clear (d : Int)
  | serialPoll (d : Int)
  | discover (probes buffer : List UInt16)

/-- The descriptor on which an operation wants to reach an instrument. -/
def Operation.descriptor? : Operation → Option Int
  | .write d _ | .read d _ | .clear d | .serialPoll d => some d
  | .stimulate _ | .openDevice _ | .takeOffline _ _ | .discover _ _ => none

/-- The bus after an operation, and the buffer that a read hands back. -/
def operate (b : Simulated) : Operation → Simulated × List UInt8
  | .stimulate s => (b.stimulate s, [])
  | .openDevice r => ((b.openDevice r).1, [])
  | .takeOffline d value => (b.takeOffline d value, [])
  | .write d data => (b.write d data, [])
  | .read d buffer => b.read d buffer
  | .clear d => (b.clear d, [])
  | .serialPoll d => ((b.serialPoll d).1, [])
  | .discover probes buffer => ((b.discover probes buffer).1, [])

/-- The bus after operations, one after the other. -/
def operateAll (b : Simulated) (os : List Operation) : Simulated :=
  os.foldl (fun b o => (b.operate o).1) b

/-- An operation that has taken place. -/
structure Occurrence where
  operation : Operation
  before : Simulated
  after : Simulated
  -- the buffer that a read has handed back
  buffer : List UInt8

/-- What takes place when an operation is done. -/
def occurrence (b : Simulated) (o : Operation) : Occurrence :=
  ⟨o, b, (b.operate o).1, (b.operate o).2⟩

/-- What takes place when operations are done one after the other. -/
def history : Simulated → List Operation → List Occurrence
  | _, [] => []
  | b, o :: rest => b.occurrence o :: history (b.operate o).1 rest

theorem operateAll_concat (b : Simulated) (os : List Operation) (o : Operation) :
    b.operateAll (os ++ [o]) = ((b.operateAll os).operate o).1 :=
  List.foldl_append

theorem history_concat (b : Simulated) (os : List Operation) (o : Operation) :
    b.history (os ++ [o]) = b.history os ++ [(b.operateAll os).occurrence o] := by
  induction os generalizing b with
  | nil => rfl
  | cons p rest ih => exact congrArg (b.occurrence p :: ·) (ih (b.operate p).1)

theorem mem_history {b : Simulated} {os : List Operation} {x : Occurrence}
    (h : x ∈ b.history os) : ∃ b', ∃ o ∈ os, x = occurrence b' o := by
  induction os generalizing b with
  | nil => cases h
  | cons o rest ih =>
      rcases List.mem_cons.mp h with rfl | h
      · exact ⟨b, o, List.mem_cons_self, rfl⟩
      · obtain ⟨b', o', ho, hx⟩ := ih h
        exact ⟨b', o', List.mem_cons_of_mem _ ho, hx⟩

-- ========================================================= the account

/-- The instrument that a call on a descriptor is delivered to, with its
address: no fault waits, the descriptor is online, and the instrument is
there. -/
def receiver? (b : Simulated) (d : Int) : Option (Address × Instrument) :=
  match b.faults, b.link? d with
  | [], some ⟨a, true⟩ => (b.instrument? a).map fun i => (a, i)
  | _, _ => none

/-- The bytes in the queue of the instrument at an address. -/
def outputAt (b : Simulated) (a : Address) : List UInt8 :=
  (b.instrument? a).elim [] (·.output)

namespace Occurrence

/-- The bytes put into the queue of the instrument at an address: they are
pushed there, or they are the answer, with a line feed, to a write that is
a command the instrument knows. -/
def queuedAt (x : Occurrence) (a : Address) : List UInt8 :=
  match x.operation with
  | .stimulate (.pushOutput a' bytes) => if a' = a then bytes else []
  | .write d data =>
    match x.before.receiver? d with
    | some (a', i) => if a' = a then i.queued data else []
    | none => []
  | _ => []

/-- The bytes that a delivered read brings from the instrument at an
address: as many as it counts, from the front of its buffer. -/
def readAt (x : Occurrence) (a : Address) : List UInt8 :=
  match x.operation with
  | .read d _ =>
    match x.before.receiver? d with
    | some (a', _) => if a' = a then x.buffer.take x.after.registers.count else []
    | none => []
  | _ => []

/-- An instrument is put at an address, or the one there is cleared. -/
def restarts (a : Address) (x : Occurrence) : Bool :=
  match x.operation with
  | .stimulate (.attach a' _) => a' == a
  | .clear d => (x.before.receiver? d).any (·.1 == a)
  | _ => false

/-- The bytes in the queue of an instrument from the start. -/
def stock (x : Occurrence) : List UInt8 :=
  match x.operation with
  | .stimulate (.attach _ i) => i.output
  | _ => []

end Occurrence

/-- What has taken place since the instrument at an address was put there
or was last cleared. -/
def since (a : Address) (xs : List Occurrence) : List Occurrence :=
  xs.rtakeWhile fun x => !x.restarts a

/-- The bytes in its queue at that time. A bus that is not new may have
some from before. -/
def opening (b : Simulated) (a : Address) (xs : List Occurrence) : List UInt8 :=
  match xs.reverse.find? (·.restarts a) with
  | some x => x.stock
  | none => b.outputAt a

-- ================================================= calls that are delivered

section

variable {δ : Type} {call : Int → Simulated → Simulated × δ} {nothing : δ}
  {deed : Instrument → Deed δ} {b b' : Simulated} {d : Int} {a : Address} {i : Instrument}

theorem receiver?_eq_some : b.receiver? d = some (a, i) ↔ b.access d = .reached a i := by
  constructor
  · intro h
    unfold receiver? at h
    split at h
    next a' hf hl =>
      obtain ⟨j, hj, heq⟩ := Option.map_eq_some_iff.mp h
      cases heq
      exact reached_of hf hl hj
    next => cases h
  · intro h
    obtain ⟨hf, hl, hi⟩ := of_reached h
    unfold receiver?
    simp only [hf, hl, hi, Option.map_some]

theorem Turned.instruments (h : b.Turned d b') : b'.instruments = b.instruments := by
  rcases h.cause with ⟨f, rest, -, rfl⟩ | ⟨code, rfl⟩ <;> rfl

/-- A call that is not delivered moves nothing. -/
theorem Calls.undelivered (h : Calls call nothing deed) (hr : b.receiver? d = none) :
    (call d b).1.instruments = b.instruments ∧ (call d b).1.registers.count = 0 ∧
      (call d b).2 = nothing := by
  obtain ⟨b', ht⟩ : ∃ b', b.Turned d b' := by
    cases hacc : b.access d with
    | faulted b' => exact ⟨b', .inl hacc⟩
    | refused b' => exact ⟨b', .inr hacc⟩
    | reached a i =>
        rw [receiver?_eq_some.mpr hacc] at hr
        cases hr
  rw [h.turned ht]
  exact ⟨ht.instruments, ht.count, rfl⟩

/-- A call that is delivered does its deed at the instrument. -/
theorem Calls.delivered (h : Calls call nothing deed) (hr : b.receiver? d = some (a, i))
    (a' : Address) : (call d b).1.instrument? a' =
      if a = a' then some ((deed i).change i) else b.instrument? a' := by
  have hacc := receiver?_eq_some.mp hr
  rw [h.reached hacc]
  refine (instrument?_modify b a a' _).trans ?_
  split
  next heq =>
    subst heq
    rw [(of_reached hacc).2.2]
    rfl
  next => rfl

/-- The same, seen from the instrument at an address. -/
theorem Calls.seenAt (h : Calls call nothing deed) {j' : Instrument}
    (hj : (call d b).1.instrument? a = some j') :
    b.instrument? a = some j' ∧ (∀ i, b.receiver? d ≠ some (a, i)) ∨
      ∃ i, b.receiver? d = some (a, i) ∧ b.instrument? a = some i ∧ j' = (deed i).change i := by
  cases hr : b.receiver? d with
  | none =>
      have hsame : b.instrument? a = some j' := by
        rw [← hj]
        exact congrArg (Keyed.get? · a) (h.undelivered hr).1.symm
      exact .inl ⟨hsame, nofun⟩
  | some r =>
      obtain ⟨a', i⟩ := r
      rw [h.delivered hr] at hj
      by_cases ha : a' = a
      · subst ha
        rw [if_pos rfl] at hj
        exact .inr ⟨i, rfl, (of_reached (receiver?_eq_some.mp hr)).2.2, (Option.some.inj hj).symm⟩
      · rw [if_neg ha] at hj
        refine .inl ⟨hj, ?_⟩
        intro i' heq
        cases heq
        exact ha rfl

end

-- ===================================================== one operation

theorem outputAt_of {b : Simulated} {a : Address} {i : Instrument}
    (h : b.instrument? a = some i) : b.outputAt a = i.output := by
  unfold outputAt
  rw [h]
  rfl

/-- A delivered read brings the front of the queue, as much of it as the
buffer holds, puts it in the front of the buffer and leaves the rest of
both. It ends the message if it brings something and leaves nothing, and
END is not suppressed. -/
theorem read_delivered {b : Simulated} {d : Int} {a : Address} {i : Instrument}
    (hr : b.receiver? d = some (a, i)) (buffer : List UInt8) :
    let r := b.read d buffer
    let n := min buffer.length i.output.length
    r.1.registers.count = n ∧ r.2 = i.output.take n ++ buffer.drop n ∧
      r.1.instrument? a = some { i with output := i.output.drop n } ∧
      r.1.registers.failing = false ∧
      (r.1.registers.status.ended = true ↔
        0 < n ∧ i.output.drop n = [] ∧ i.suppressEnd = false) := by
  have hcall := calls_read buffer
  have hread := hcall.reached (receiver?_eq_some.mp hr)
  have hlength : (i.output.take (min buffer.length i.output.length)).length =
      min buffer.length i.output.length :=
    List.length_take_of_le (Nat.min_le_right _ _)
  refine ⟨?_, ?_, ?_, ?_, ?_⟩
  · rw [hread]
    rfl
  · rw [hread]
    show fillFront buffer (i.output.take (min buffer.length i.output.length)) = _
    unfold fillFront
    rw [hlength, List.take_of_length_le (by rw [hlength]; exact Nat.min_le_left _ _)]
  · rw [hcall.delivered hr, if_pos rfl]
    rfl
  · rw [hread]
    exact hcall.completes i
  · rw [hread]
    show StatusWord.ended ⟨StatusWord.cmpl ||| _⟩ = true ↔ _
    rw [ended_read]
    unfold Instrument.ends Instrument.transferCount
    simp only [Bool.and_eq_true, bne_iff_ne, beq_iff_eq, Bool.not_eq_true', List.drop_eq_nil_iff,
      and_assoc]
    refine and_congr (by omega) (and_congr_left fun _ => by omega)

section

variable {b : Simulated} {o : Operation} {a : Address} {i' : Instrument}

/-- Where the account begins anew, it begins with what is there. -/
theorem output_of_restarts (hi : (b.operate o).1.instrument? a = some i')
    (hr : (b.occurrence o).restarts a = true) : i'.output = (b.occurrence o).stock := by
  cases o with
  | stimulate s =>
      cases s with
      | attach a' i =>
          obtain rfl : a' = a := beq_iff_eq.mp hr
          change Keyed.get? (Keyed.set b.instruments a' i) a' = some i' at hi
          rw [Keyed.get?_set, if_pos rfl] at hi
          cases hi
          rfl
      | _ => cases hr
  | clear d =>
      obtain ⟨⟨a', i⟩, hreceiver, ha⟩ := (Option.any_eq_true _ _).mp hr
      obtain rfl : a' = a := beq_iff_eq.mp ha
      change b.receiver? d = _ at hreceiver
      rcases calls_clear.seenAt (d := d) (b := b) hi with ⟨-, hnone⟩ | ⟨i, -, -, rfl⟩
      · exact absurd hreceiver (hnone i)
      · rfl
  | _ => cases hr

/-- An operation other than a call on a descriptor puts something into the
queue, if it is pushed there, and takes nothing out. -/
theorem balance_beside (ho : o.descriptor? = none) (hi : (b.operate o).1.instrument? a = some i')
    (hr : (b.occurrence o).restarts a = false) :
    ∃ i, b.instrument? a = some i ∧
      i.output ++ (b.occurrence o).queuedAt a = (b.occurrence o).readAt a ++ i'.output := by
  have hstill : (b.operate o).1.instrument? a = b.instrument? a →
      ∃ i, b.instrument? a = some i ∧ i.output ++ [] = i'.output := by
    intro hsame
    exact ⟨i', hsame.symm.trans hi, List.append_nil _⟩
  cases o with
  | stimulate s =>
      cases s with
      | attach a' i =>
          refine hstill ((Keyed.get?_set _ _ _ _).trans (if_neg ?_))
          exact beq_eq_false_iff_ne.mp hr
      | pushOutput a' bytes =>
          change (b.modifyInstrument a' (·.queue bytes)).instrument? a = some i' at hi
          rw [instrument?_modify] at hi
          show ∃ i, _ ∧ _ ++ (if a' = a then bytes else []) = _
          by_cases ha : a' = a
          · rw [if_pos ha] at hi ⊢
            obtain ⟨i, hold, rfl⟩ := Option.map_eq_some_iff.mp hi
            exact ⟨i, hold, rfl⟩
          · rw [if_neg ha] at hi ⊢
            exact ⟨i', hi, List.append_nil _⟩
      | setStatus a' status =>
          change (b.modifyInstrument a' fun i => { i with status }).instrument? a = some i' at hi
          rw [instrument?_modify] at hi
          split at hi
          · obtain ⟨i, hold, rfl⟩ := Option.map_eq_some_iff.mp hi
            exact ⟨i, hold, List.append_nil _⟩
          · exact ⟨i', hi, List.append_nil _⟩
      | _ => exact hstill rfl
  | openDevice r =>
      refine hstill (congrArg (Keyed.get? · a) ?_)
      show (b.openDevice r).1.instruments = b.instruments
      unfold openDevice
      split
      · rfl
      · split <;> rfl
  | takeOffline d value =>
      exact hstill (congrArg (Keyed.get? · a) (takeOffline_frame b d value).2.1)
  | discover probes buffer => exact hstill rfl
  | _ => cases ho

/-- Of the calls on a descriptor, a write may put something into the queue, a
read may take something out, and a poll does neither. -/
theorem balance_call {d : Int} (ho : o.descriptor? = some d)
    (hi : (b.operate o).1.instrument? a = some i')
    (hr : (b.occurrence o).restarts a = false) :
    ∃ i, b.instrument? a = some i ∧
      i.output ++ (b.occurrence o).queuedAt a = (b.occurrence o).readAt a ++ i'.output := by
  -- what is not delivered to this instrument is not on its account
  have hapart : ∀ {γ : Type} (f : Instrument → List γ), (∀ i, b.receiver? d ≠ some (a, i)) →
      (match b.receiver? d with
        | some (a', i) => if a' = a then f i else []
        | none => []) = [] := by
    intro γ f hnone
    split
    next a' i hreceiver =>
      refine if_neg ?_
      rintro rfl
      exact hnone i hreceiver
    next => rfl
  cases o with
  | write d data =>
      cases ho
      rcases (calls_write data).seenAt hi with ⟨hold, hnone⟩ | ⟨i, hreceiver, hold, rfl⟩
      · have hnothing : (b.occurrence (.write d data)).queuedAt a = [] :=
          hapart (·.queued data) hnone
        refine ⟨i', hold, ?_⟩
        rw [hnothing]
        exact List.append_nil _
      · refine ⟨i, hold, ?_⟩
        unfold Occurrence.queuedAt occurrence
        simp only [hreceiver, if_true]
        exact (i.output_receive data).symm
  | read d buffer =>
      cases ho
      rcases (calls_read buffer).seenAt hi with ⟨hold, hnone⟩ | ⟨i, hreceiver, hold, rfl⟩
      · have hnothing : (b.occurrence (.read d buffer)).readAt a = [] :=
          hapart (fun _ => (b.read d buffer).2.take (b.read d buffer).1.registers.count) hnone
        refine ⟨i', hold, ?_⟩
        rw [hnothing]
        exact List.append_nil _
      · refine ⟨i, hold, ?_⟩
        obtain ⟨hcount, hbuffer, -⟩ := read_delivered hreceiver buffer
        unfold Occurrence.readAt occurrence
        simp only [hreceiver, if_true]
        show i.output ++ [] = (b.read d buffer).2.take (b.read d buffer).1.registers.count ++
          i.output.drop (min buffer.length i.output.length)
        rw [hcount, hbuffer, List.take_left' (List.length_take_of_le (Nat.min_le_right _ _)),
          List.take_append_drop, List.append_nil]
  | clear d =>
      cases ho
      rcases calls_clear.seenAt (d := d) (b := b) hi with ⟨hold, -⟩ | ⟨i, hreceiver, -, -⟩
      · exact ⟨i', hold, List.append_nil _⟩
      · change (b.receiver? d).any _ = false at hr
        rw [hreceiver] at hr
        simp at hr
  | serialPoll d =>
      cases ho
      rcases calls_serialPoll.seenAt hi with ⟨hold, -⟩ | ⟨i, -, hold, rfl⟩
      · exact ⟨i', hold, List.append_nil _⟩
      · exact ⟨i, hold, List.append_nil _⟩
  | _ => cases ho

/-- No operation loses a byte, makes one or puts one out of order. -/
theorem balance (hi : (b.operate o).1.instrument? a = some i')
    (hr : (b.occurrence o).restarts a = false) :
    ∃ i, b.instrument? a = some i ∧
      i.output ++ (b.occurrence o).queuedAt a = (b.occurrence o).readAt a ++ i'.output := by
  cases ho : o.descriptor? with
  | none => exact balance_beside ho hi hr
  | some d => exact balance_call ho hi hr

end

-- ====================================================== the whole account

section

variable {b : Simulated} {os : List Operation} {a : Address} {i : Instrument}

/-- The account of an instrument balances: what has been read since it began
and what is left in the queue is what was there at the beginning and what has
been put there since. -/
theorem account (hi : (b.operateAll os).instrument? a = some i) :
    (since a (b.history os)).flatMap (·.readAt a) ++ i.output =
      b.opening a (b.history os) ++ (since a (b.history os)).flatMap (·.queuedAt a) := by
  induction os using List.reverseRecOn generalizing i with
  | nil =>
      show i.output = b.outputAt a ++ []
      rw [List.append_nil, outputAt_of (b := b) hi]
  | append_singleton os o ih =>
      rw [operateAll_concat] at hi
      rw [history_concat]
      unfold since opening at ih ⊢
      rw [List.reverse_concat, List.find?_cons]
      cases hr : ((b.operateAll os).occurrence o).restarts a with
      | true =>
          rw [List.rtakeWhile_concat_neg _ _ _ (by simp [hr]), output_of_restarts hi hr]
          exact (List.append_nil _).symm
      | false =>
          obtain ⟨i₀, hold, hbalance⟩ := balance hi hr
          rw [List.rtakeWhile_concat_pos _ _ _ (by simp [hr]), List.flatMap_append,
            List.flatMap_append, List.flatMap_singleton, List.flatMap_singleton,
            List.append_assoc, ← hbalance, ← List.append_assoc, ih hold, List.append_assoc]

/-- Nothing is in the queue at the beginning of an account, if nothing is in
the queue of an instrument that is put on the bus. -/
theorem opening_eq_nil (hb : ∀ i, b.instrument? a = some i → i.output = [])
    (ho : ∀ i, .stimulate (.attach a i) ∈ os → i.output = []) :
    b.opening a (b.history os) = [] := by
  unfold opening
  split
  next x hx =>
    have hrestarts := List.find?_some hx
    obtain ⟨b', o, hmem, rfl⟩ := mem_history (List.mem_reverse.mp (List.mem_of_find?_eq_some hx))
    cases o with
    | stimulate s =>
        cases s with
        | attach a' i =>
            obtain rfl : a' = a := beq_iff_eq.mp hrestarts
            exact ho i hmem
        | _ => rfl
    | _ => rfl
  next =>
    unfold outputAt
    cases hi : b.instrument? a with
    | none => rfl
    | some i => exact hb i hi

/-- A call that is not delivered moves no byte, whether a fault was in its way
or it was refused. -/
theorem still_of_undelivered {d : Int} {o : Operation} (ho : o.descriptor? = some d)
    (hr : b.receiver? d = none) :
    (b.operate o).1.instruments = b.instruments ∧ (b.operate o).1.registers.count = 0 := by
  cases o with
  | write d data =>
      cases ho
      exact ⟨((calls_write data).undelivered hr).1, ((calls_write data).undelivered hr).2.1⟩
  | read d buffer =>
      cases ho
      exact ⟨((calls_read buffer).undelivered hr).1, ((calls_read buffer).undelivered hr).2.1⟩
  | clear d =>
      cases ho
      exact ⟨(calls_clear.undelivered hr).1, (calls_clear.undelivered hr).2.1⟩
  | serialPoll d =>
      cases ho
      exact ⟨(calls_serialPoll.undelivered hr).1, (calls_serialPoll.undelivered hr).2.1⟩
  | _ => cases ho

end

/-- The stream of bytes is conserved. Whatever is done to a bus, through
however many sessions: at each instrument, what has been read since it was
put there or was last cleared, followed by what is in its queue, is what has
been put into the queue since then, after what was in it at the time, which
is nothing if instruments come with empty queues. A call that is not
delivered moves no byte, and a read that is delivered transfers as much as
there is and as the buffer holds, and tells the end of the message if it
transfers something, leaves nothing and is not kept from it. -/
theorem bytes_conserved (b : Simulated) (os : List Operation) :
    (∀ a i, (b.operateAll os).instrument? a = some i →
      (since a (b.history os)).flatMap (·.readAt a) ++ i.output =
        b.opening a (b.history os) ++ (since a (b.history os)).flatMap (·.queuedAt a)) ∧
    (∀ a, (∀ i, b.instrument? a = some i → i.output = []) →
      (∀ i, .stimulate (.attach a i) ∈ os → i.output = []) →
        b.opening a (b.history os) = []) ∧
    (∀ x ∈ b.history os, ∀ d, x.operation.descriptor? = some d → x.before.receiver? d = none →
      x.after.instruments = x.before.instruments ∧ x.after.registers.count = 0) ∧
    ∀ x ∈ b.history os, ∀ d buffer a i, x.operation = .read d buffer →
      x.before.receiver? d = some (a, i) →
      let n := min buffer.length i.output.length
      x.after.registers.count = n ∧ x.buffer = i.output.take n ++ buffer.drop n ∧
        x.after.instrument? a = some { i with output := i.output.drop n } ∧
        x.after.registers.failing = false ∧
        (x.after.registers.status.ended = true ↔
          0 < n ∧ i.output.drop n = [] ∧ i.suppressEnd = false) := by
  refine ⟨fun a i hi => account hi, fun a hb ho => opening_eq_nil hb ho, ?_, ?_⟩
  · intro x hx d ho hr
    obtain ⟨b', o, -, rfl⟩ := mem_history hx
    exact still_of_undelivered ho hr
  · intro x hx d buffer a i ho hr
    obtain ⟨b', o, -, rfl⟩ := mem_history hx
    obtain rfl : o = .read d buffer := ho
    exact read_delivered hr buffer

/-- Two sessions on one instrument. The answer to a command is read in part
through one of them, and the rest of it, after a read that meets with a fault,
through the other, together with what has been pushed meanwhile. -/
def shared : List Operation :=
  [.stimulate (.attach ⟨5, 0⟩ (Instrument.silent.respond "*IDN?" "ACME")),
    .openDevice (Session.request ⟨5, 0⟩ .standard), .openDevice (Session.request ⟨5, 0⟩ .standard),
    .write 16 [42, 73, 68, 78, 63, 13, 10], .read 17 [0, 0, 0],
    .stimulate (.injectFault timeoutFault), .read 16 [0, 0, 0],
    .stimulate (.pushOutput ⟨5, 0⟩ [7, 8]), .read 16 [0, 0, 0]]

theorem bytes_conserved_shared :
    ∃ i, (Simulated.empty.operateAll shared).instrument? ⟨5, 0⟩ = some i ∧ i.output = [8] ∧
      (since ⟨5, 0⟩ (Simulated.empty.history shared)).flatMap (·.readAt ⟨5, 0⟩) =
        [65, 67, 77, 69, 10, 7] ∧
      [65, 67, 77, 69, 10, 7] ++ i.output =
        (since ⟨5, 0⟩ (Simulated.empty.history shared)).flatMap (·.queuedAt ⟨5, 0⟩) := by
  have hleft : ((Simulated.empty.operateAll shared).instrument? ⟨5, 0⟩).any
      (fun i => i.output == [8]) = true := by
    decide +kernel
  have hread : (since ⟨5, 0⟩ (Simulated.empty.history shared)).flatMap (·.readAt ⟨5, 0⟩) =
      [65, 67, 77, 69, 10, 7] := by
    decide +kernel
  obtain ⟨i, hi, hone⟩ := (Option.any_eq_true _ _).mp hleft
  obtain ⟨haccount, hopening, -⟩ := bytes_conserved .empty shared
  have hnone : Simulated.empty.opening ⟨5, 0⟩ (Simulated.empty.history shared) = [] := by
    refine hopening ⟨5, 0⟩ nofun ?_
    intro j hj
    unfold shared at hj
    simp only [List.mem_cons, Operation.stimulate.injEq, Stimulus.attach.injEq, true_and,
      reduceCtorEq, List.not_mem_nil, or_false] at hj
    rw [hj]
    rfl
  have hall := haccount ⟨5, 0⟩ i hi
  rw [hread, hnone, List.nil_append] at hall
  exact ⟨i, hi, beq_iff_eq.mp hone, hread, hall⟩

end Simulated

end InstrumentBus
