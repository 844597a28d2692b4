/-
A session that meets an instrument on a bus in memory.

`Session.Meets` says that an open session leads to an instrument and that
nothing is in its way. Then each operation comes to what it does to the
instrument: a write is received, a poll shows the status byte, and a
message that is read is all there is in the output queue, whatever its
length and whether or not the instrument asserts END. The session goes on
meeting the instrument, which is as the operation left it.

What is counted besides are the serial polls made.
-/
import InstrumentBus.Proofs.Session.Conduct

namespace InstrumentBus

/-- The serial polls made of a descriptor so far. -/
def Recorded.polls {β : Type} (r : Recorded β) (d : Int) : Nat :=
  r.trace.countP (·.call == .serialPoll d)

/-- A value counts no more than all of them together. -/
theorem Keyed.le_total {κ ν : Type} [DecidableEq κ] (f : ν → Nat) {l : List (κ × ν)} {key : κ}
    {v : ν} (h : get? l key = some v) : f v ≤ total f l := by
  induction l with
  | nil => cases h
  | cons p rest ih =>
      obtain ⟨k, w⟩ := p
      simp only [get?] at h
      show f v ≤ f w + total f rest
      split at h
      · cases h
        exact Nat.le_add_right _ _
      · exact Nat.le_trans (ih h) (Nat.le_add_left _ _)

-- ========================================================= the instrument

namespace Instrument

variable {i : Instrument}

/-- A terminator is no part of a command. -/
theorem commandOf_append (data : List UInt8) (t : Terminator) :
    commandOf (data ++ t.bytes) = commandOf data := by
  unfold commandOf Text.trimEnd
  rw [Text.Latin.decode_append, List.reverse_append]
  congr 2
  cases t <;> rfl

/-- A command it knows puts the answer and a line feed into the queue, and
the polls start anew. -/
theorem receive_of_answer {data : List UInt8} {response : String}
    (h : i.answer? data = some response) :
    i.receive data =
      { i with
        written := i.written ++ [data]
        output := i.output ++ (Text.Unicode.encode response.toList ++ [10])
        pollsRemaining := i.pollDelay } := by
  have h' : answer? { i with written := i.written ++ [data] } data = some response := h
  unfold receive
  simp only [h', queue, List.append_assoc]

/-- The extra status bits leave the message-available bit alone. -/
theorem mav_polled (hm : i.status.messageAvailable = false) :
    i.polled.status.messageAvailable = false := by
  unfold StatusByte.messageAvailable polled at *
  simp only [bne_eq_false_iff_eq] at hm ⊢
  rw [UInt8.and_assoc, UInt8.and_comm _ StatusByte.mav, ← UInt8.and_assoc, hm]
  exact UInt8.zero_and

/-- A poll shows that there is a message once it is not hidden any more. -/
theorem shown_messageAvailable (hm : i.status.messageAvailable = false) (ho : i.output ≠ []) :
    i.shown.messageAvailable = (i.pollsRemaining == 0) := by
  have hor : ∀ x : UInt8, (x ||| StatusByte.mav) &&& StatusByte.mav = StatusByte.mav := by
    intro x
    apply UInt8.eq_of_toBitVec_eq
    ext j hj
    simp
    intro h
    exact .inr h
  unfold shown
  by_cases hp : i.pollsRemaining = 0
  · rw [if_pos ⟨hp, ho⟩, hp]
    unfold StatusByte.messageAvailable
    rw [hor]
    rfl
  · rw [if_neg fun h => hp h.1, hm]
    exact (beq_eq_false_iff_ne.mpr hp).symm

end Instrument

-- ========================================================== the meeting

namespace Session

/-- An open session leads to an instrument, and nothing is in its way. -/
structure Meets (s : Session) (b : Recorded Simulated) (a : Address) (i : Instrument) : Prop where
  opened : s.closed = false
  calm : b.bus.faults = []
  online : b.bus.link? s.descriptor = some ⟨a, true⟩
  there : b.bus.instrument? a = some i

/-- A call that completed went well. -/
theorem verdict_complete (b : Recorded Simulated) (bus : Simulated) (count : Nat) (call : RawCall)
    (operation : String) (command : Option (List UInt8)) :
    verdict (b.note (bus.complete count) call none) operation command = .ok ⟨StatusWord.cmpl⟩ :=
  verdict_ok operation command (Registers.failing_completed count)

namespace Meets

variable {s : Session} {b : Recorded Simulated} {a : Address} {i : Instrument} {command : String}
  {buffer : List UInt8}

theorem access (h : s.Meets b a i) : b.bus.access s.descriptor = .reached a i :=
  Simulated.reached_of h.calm h.online h.there

/-- The instrument has gone on, and the session meets it as before. -/
theorem after (h : s.Meets b a i) (f : Instrument → Instrument) (registers : Registers)
    (call : RawCall) :
    s.Meets (b.note { b.bus.modifyInstrument a f with registers } call none) a (f i) where
  opened := h.opened
  calm := h.calm
  online := h.online
  there := by
    refine (Simulated.instrument?_modify b.bus a a f).trans ?_
    rw [if_pos rfl, h.there]
    rfl

/-- A command written is received. -/
theorem write (h : s.Meets b a i) (hne : command ≠ "") :
    ∃ b', (s.write command).run b = (.ok (), b') ∧
      s.Meets b' a (i.receive (s.payload command)) ∧
      b'.polls s.descriptor = b.polls s.descriptor := by
  have hnext := h.after (·.receive (s.payload command)) (.completed (s.payload command).length)
    (.write s.descriptor (s.payload command))
  refine ⟨_, ?_, hnext, rfl⟩
  have hwrite : RawBus.write b s.descriptor (s.payload command) =
      b.note ((b.bus.modifyInstrument a (·.receive (s.payload command))).complete
        (s.payload command).length) (.write s.descriptor (s.payload command)) none :=
    congrArg (fun r => b.note r.1 _ none) ((Simulated.calls_write _).reached h.access)
  rw [run_write, h.opened, if_neg Bool.false_ne_true, if_neg hne, hwrite]
  simp only [verdict_complete]
  rfl

/-- A poll shows the status byte. -/
theorem messageAvailable (h : s.Meets b a i) :
    ∃ b', s.messageAvailable.run b = (.ok i.shown.messageAvailable, b') ∧
      s.Meets b' a i.polled ∧ b'.polls s.descriptor = b.polls s.descriptor + 1 := by
  have hnext := h.after (·.polled) (.completed 0) (.serialPoll s.descriptor)
  refine ⟨_, ?_, hnext, ?_⟩
  · have hpoll : RawBus.serialPoll b s.descriptor =
        (b.note ((b.bus.modifyInstrument a (·.polled)).complete 0) (.serialPoll s.descriptor) none,
          i.shown.bits) :=
      congrArg (fun r => (b.note r.1 _ none, r.2)) (Simulated.calls_serialPoll.reached h.access)
    rw [run_messageAvailable, run_serialPoll, h.opened, if_neg Bool.false_ne_true, hpoll]
    simp only [verdict_complete]
    rfl
  · unfold Recorded.polls
    exact List.countP_cons_of_pos (beq_self_eq_true _)

/-- A raw read takes as much as fits into the buffer, and says whether it
was all there was. -/
theorem transfers (h : s.Meets b a i) (buffer : List UInt8) :
    ∃ b' status, RawBus.read b s.descriptor buffer =
        (b', fillFront buffer (i.output.take (i.transferCount buffer.length))) ∧
      verdict b' "Read" none = .ok status ∧ status.ended = i.ends buffer.length ∧
      (RawBus.registers b').count = i.transferCount buffer.length ∧
      s.Meets b' a (i.consume (i.transferCount buffer.length)) ∧
      b'.polls s.descriptor = b.polls s.descriptor := by
  let bit : UInt16 := if i.ends buffer.length then StatusWord.endBit else 0
  let registers : Registers := ⟨⟨StatusWord.cmpl ||| bit⟩, 0, i.transferCount buffer.length⟩
  have hread : RawBus.read b s.descriptor buffer =
      (b.note { b.bus.modifyInstrument a (·.consume (i.transferCount buffer.length)) with
          registers } (.read s.descriptor buffer.length) none,
        fillFront buffer (i.output.take (i.transferCount buffer.length))) :=
    congrArg (fun r => (b.note r.1 _ none, r.2)) ((Simulated.calls_read buffer).reached h.access)
  have hok : registers.failing = false := (Simulated.calls_read buffer).completes i
  have hended : registers.status.ended = i.ends buffer.length :=
    Simulated.ended_read i buffer.length
  exact ⟨_, _, hread, verdict_ok _ _ hok, hended, rfl,
    h.after _ registers (.read s.descriptor buffer.length), rfl⟩

/-- The chunks of a message are all there is in the queue. -/
theorem chunks (h : s.Meets b a i) (buffer : List UInt8) {fuel : Nat} (hb : 0 < buffer.length)
    (hf : i.output.length < fuel) :
    ∃ b', (s.chunks fuel buffer).run b = (.ok i.output, b') ∧
      s.Meets b' a { i with output := [] } ∧ b'.polls s.descriptor = b.polls s.descriptor := by
  induction fuel generalizing b i buffer with
  | zero => cases hf
  | succ fuel ih =>
      obtain ⟨b₁, status, hread, hv, hend, hcount, hmeets, hpolls⟩ := h.transfers buffer
      have hle : i.transferCount buffer.length ≤ buffer.length := Nat.min_le_left _ _
      have hle' : i.transferCount buffer.length ≤ i.output.length := Nat.min_le_right _ _
      have hpart : (fillFront buffer (i.output.take (i.transferCount buffer.length))).take
          (i.transferCount buffer.length) = i.output.take (i.transferCount buffer.length) := by
        unfold fillFront
        have hlen : (i.output.take (i.transferCount buffer.length)).length =
            i.transferCount buffer.length :=
          List.length_take_of_le hle'
        rw [List.take_of_length_le (Nat.le_trans (Nat.le_of_eq hlen) hle), List.take_left' hlen]
      have hverdict : verdict (RawBus.read b s.descriptor buffer).1 "Read" none = .ok status := by
        rw [hread]
        exact hv
      have hok := run_chunks_ok fuel hverdict
      simp only [hread, hcount, hend, hpart] at hok
      by_cases hlast : (i.ends buffer.length || i.transferCount buffer.length == 0) = true
      · -- the chunk that asserts END has the last byte, and an empty one none
        have hall : i.output.length ≤ i.transferCount buffer.length := by
          rw [Bool.or_eq_true] at hlast
          rcases hlast with hends | hnone
          · unfold Instrument.ends at hends
            simp only [Bool.and_eq_true, beq_iff_eq] at hends
            exact Nat.le_of_eq hends.1.2.symm
          · have hzero : min buffer.length i.output.length = 0 := beq_iff_eq.mp hnone
            omega
        rw [if_pos hlast, List.take_of_length_le hall] at hok
        refine ⟨b₁, hok, ?_, hpolls⟩
        have hempty : i.consume (i.transferCount buffer.length) = { i with output := [] } := by
          unfold Instrument.consume
          rw [List.drop_of_length_le hall]
        rwa [hempty] at hmeets
      · have hsome : i.transferCount buffer.length ≠ 0 := by
          intro hnone
          exact hlast (by rw [hnone, Bool.or_eq_true]; exact .inr rfl)
        have hfewer : (i.consume (i.transferCount buffer.length)).output.length < fuel := by
          show (i.output.drop _).length < fuel
          rw [List.length_drop]
          omega
        have hb₁ : 0 < (fillFront buffer
            (i.output.take (i.transferCount buffer.length))).length := by
          rwa [length_fillFront]
        obtain ⟨b₂, hrest, hmeets₂, hpolls₂⟩ := ih hmeets _ hb₁ hfewer
        rw [if_neg hlast, hrest] at hok
        refine ⟨b₂, hok.trans ?_, hmeets₂, hpolls₂.trans hpolls⟩
        show (Except.ok (i.output.take _ ++ i.output.drop _), b₂) = _
        rw [List.take_append_drop]

/-- A message that is read is all there is in the queue. -/
theorem read (h : s.Meets b a i) :
    ∃ b', s.read.run b = (.ok (textOf i.output), b') ∧
      s.Meets b' a { i with output := [] } ∧ b'.polls s.descriptor = b.polls s.descriptor := by
  have hfuel : i.output.length < RawBus.pending b + 1 :=
    Nat.lt_succ_of_le (Keyed.le_total (·.output.length) h.there)
  obtain ⟨b', hchunks, hmeets, hpolls⟩ := h.chunks
    (List.replicate chunkSize 0) (by rw [List.length_replicate]; decide) hfuel
  refine ⟨b', ?_, hmeets, hpolls⟩
  rw [run_read, h.opened, if_neg Bool.false_ne_true, hchunks]
  rfl

/-- And so is the answer to a request for a text. -/
theorem readAs (h : s.Meets b a i) :
    ∃ b', (s.readAs .text).run b = (.ok (.text (textOf i.output)), b') ∧
      s.Meets b' a { i with output := [] } ∧ b'.polls s.descriptor = b.polls s.descriptor := by
  obtain ⟨b', hread, hmeets, hpolls⟩ := h.read
  refine ⟨b', ?_, hmeets, hpolls⟩
  rw [run_readAs, hread]
  show (Except.ok (Response.text (String.ofList (textOf i.output).toList)), b') = _
  rw [String.ofList_toList]

end Meets

-- ============================================================ an example

/-- A bus with one instrument, and a session opened to it. -/
def bench (i : Instrument) : Simulated :=
  ((Simulated.empty.attach ⟨5, 0⟩ i).openDevice (request ⟨5, 0⟩ .standard)).1

def benched (t : Terminator) : Session := ⟨16, ⟨5, 0⟩, 0, .standard, t, false⟩

theorem benched_meets (t : Terminator) (i : Instrument) :
    (benched t).Meets (.fresh (bench i)) ⟨5, 0⟩ i where
  opened := rfl
  calm := rfl
  online := rfl
  there := rfl

end Session

end InstrumentBus
