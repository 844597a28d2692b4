/-
What a message is, reply by reply, whatever the driver.

A driver may answer a raw read with any status word, any count and any
bytes in the buffer, and it may do so again and again. `Session.reply` is
what it answers to the raw read of a number, if it is read on and on into
the same buffer; reading a message plays no part in that. A reply is final
if it tells of a failure, ends the message or is empty, and a message goes
up to the first final reply. There is always one, since a driver that is
read on and on becomes silent (`run_chunks`).

The buffer is not emptied between two reads, and a driver may report more
than it has stored. So the bytes of a reply are said to be those in front
of the buffer as the reply leaves it, as many as are reported, or as the
buffer has.

Drivers that come to an end are no fewer than others as far as one message
is concerned: any replies that begin a message are those of some driver
(`replyFrom_scripted`).
-/
import Mathlib.Logic.Function.Iterate
import InstrumentBus.Proofs.Session.Channel
import InstrumentBus.Proofs.Session.Lifetime

namespace InstrumentBus

-- =========================================================== the replies

/-- What a driver answers to a raw read. -/
structure ReadReply where
  registers : Registers
  -- the whole buffer, as the read leaves it
  buffer : List UInt8

namespace ReadReply

/-- Nothing is read after such a reply. -/
def Final (r : ReadReply) : Prop :=
  r.registers.status.timedOut = true ∨ r.registers.status.failed = true ∨
    r.registers.status.ended = true ∨ r.registers.count = 0

/-- The bytes that are taken out of the buffer. -/
def bytes (r : ReadReply) : List UInt8 := r.buffer.take (min r.registers.count Session.chunkSize)

theorem final_iff (r : ReadReply) : r.Final ↔ r.registers.unfinished = false := by
  unfold Final Registers.unfinished Registers.failing
  cases r.registers.status.timedOut <;> cases r.registers.status.failed <;>
    cases r.registers.status.ended <;> simp

/-- The count is all that bounds the bytes, where the buffer is as long as
it should be. -/
theorem bytes_eq {r : ReadReply} (h : r.buffer.length = Session.chunkSize) :
    r.bytes = r.buffer.take r.registers.count := by
  unfold bytes
  rw [← h, ← List.take_eq_take_min]

end ReadReply

namespace Session

variable {β : Type} [RawBus β]

/-- One raw read, into a buffer. -/
def readOn (s : Session) (p : β × List UInt8) : β × List UInt8 :=
  RawBus.read p.1 s.descriptor p.2

/-- The reply to the `k`th raw read, the first of which finds a driver and a
buffer. -/
def replyFrom (s : Session) (p : β × List UInt8) (k : Nat) : ReadReply :=
  ⟨RawBus.registers (s.readOn^[k + 1] p).1, (s.readOn^[k + 1] p).2⟩

/-- The bytes of the replies up to the `k`th. -/
def bytesFrom (s : Session) (p : β × List UInt8) (k : Nat) : List UInt8 :=
  (List.range (k + 1)).flatMap fun j => (s.replyFrom p j).bytes

/-- The reply of a driver to the `k`th of the raw reads for a message. -/
def reply (s : Session) (b : β) (k : Nat) : ReadReply :=
  s.replyFrom (b, List.replicate chunkSize 0) k

variable (s : Session) (p : β × List UInt8)

theorem length_buffer_replyFrom (k : Nat) : (s.replyFrom p k).buffer.length = p.2.length := by
  induction k generalizing p with
  | zero => exact RawBus.length_read p.1 s.descriptor p.2
  | succ k ih => exact (ih (s.readOn p)).trans (RawBus.length_read p.1 s.descriptor p.2)

theorem bytesFrom_zero : s.bytesFrom p 0 = (s.replyFrom p 0).bytes := List.append_nil _

theorem bytesFrom_succ (k : Nat) :
    s.bytesFrom p (k + 1) = (s.replyFrom p 0).bytes ++ s.bytesFrom (s.readOn p) k := by
  unfold bytesFrom
  rw [List.range_succ_eq_map, List.flatMap_cons, List.flatMap_map]
  rfl

-- ============================================================ the message

/-- A message goes up to the `k`th reply. -/
structure EndsWith (s : Session) (p : β × List UInt8) (k : Nat) : Prop where
  before : ∀ j < k, ¬ (s.replyFrom p j).Final
  final : (s.replyFrom p k).Final

namespace EndsWith

variable {s : Session} {p : β × List UInt8} {k k' : Nat}

theorem zero (h : (s.replyFrom p 0).Final) : s.EndsWith p 0 := ⟨nofun, h⟩

theorem succ (h : ¬ (s.replyFrom p 0).Final) (hk : s.EndsWith (s.readOn p) k) :
    s.EndsWith p (k + 1) where
  before j hj := by
    cases j with
    | zero => exact h
    | succ j => exact hk.before j (Nat.lt_of_succ_lt_succ hj)
  final := hk.final

theorem unique (h : s.EndsWith p k) (h' : s.EndsWith p k') : k = k' := by
  rcases Nat.lt_trichotomy k k' with hlt | heq | hlt
  · exact absurd h.final (h'.before k hlt)
  · exact heq
  · exact absurd h'.final (h.before k' hlt)

end EndsWith

/-- A reply that is not final leaves the driver with less to deliver. -/
theorem pending_readOn {s : Session} {p : β × List UInt8} (h : ¬ (s.replyFrom p 0).Final) :
    RawBus.pending (s.readOn p).1 < RawBus.pending p.1 := by
  rw [ReadReply.final_iff, Bool.not_eq_false] at h
  exact RawBus.pending_read p.1 s.descriptor p.2 h

/-- What is made of a message that goes up to the `k`th reply: its bytes,
unless the last of its replies tells of a failure. -/
def ending (s : Session) (p : β × List UInt8) (k : Nat) : Except Failure (List UInt8) :=
  (verdict (s.readOn^[k + 1] p).1 "Read" none).map fun _ => s.bytesFrom p k

/-- Registers that no failure is read from are those of a call that did not
fail. -/
theorem verdict_eq_ok {b : β} {operation : String} {command : Option (List UInt8)}
    {status : StatusWord} (h : verdict b operation command = .ok status) :
    (RawBus.registers b).failing = false ∧ status = (RawBus.registers b).status := by
  unfold verdict at h
  unfold Registers.failing
  cases ht : (RawBus.registers b).status.timedOut <;>
    cases hf : (RawBus.registers b).status.failed <;> simp_all

/-- A timeout is told from the registers, and a failure where there is none. -/
theorem verdict_timedOut {b : β} (operation : String)
    (h : (RawBus.registers b).status.timedOut = true) :
    verdict b operation none =
      .error (.timeout operation none (RawBus.registers b).status (RawBus.registers b).error) :=
  if_pos h

theorem verdict_failed {b : β} (operation : String)
    (ht : (RawBus.registers b).status.timedOut = false)
    (hf : (RawBus.registers b).status.failed = true) :
    verdict b operation none =
      .error (.hardware operation none (RawBus.registers b).status (RawBus.registers b).error
        (RawBus.errorText b (RawBus.registers b).error)) :=
  (if_neg (by simp [ht])).trans (if_pos hf)

/-- A final reply is the last one that is asked for. -/
theorem run_chunks_final {s : Session} {p : β × List UInt8} (hp : p.2.length = chunkSize)
    (h : (s.replyFrom p 0).Final) (fuel : Nat) :
    (s.chunks (fuel + 1) p.2).run p.1 = (s.ending p 0, (s.readOn p).1) := by
  have hbytes : s.bytesFrom p 0 = (s.readOn p).2.take (RawBus.registers (s.readOn p).1).count :=
    (s.bytesFrom_zero p).trans (ReadReply.bytes_eq ((s.length_buffer_replyFrom p 0).trans hp))
  rw [ReadReply.final_iff] at h
  have hdone : (RawBus.registers (s.readOn p).1).unfinished = false := h
  unfold ending
  show _ = (Except.map _ (verdict (s.readOn p).1 "Read" none), _)
  cases hv : verdict (s.readOn p).1 "Read" none with
  | error e => exact run_chunks_error fuel hv
  | ok status =>
      obtain ⟨hgood, rfl⟩ := verdict_eq_ok hv
      have hlast : ((RawBus.registers (s.readOn p).1).status.ended ||
          (RawBus.registers (s.readOn p).1).count == 0) = true := by
        unfold Registers.unfinished at hdone
        rw [hgood] at hdone
        cases hended : (RawBus.registers (s.readOn p).1).status.ended <;> simp_all
      rw [hbytes]
      exact (run_chunks_ok fuel hv).trans (if_pos hlast)

/-- Any other is followed by the rest of the message. -/
theorem run_chunks_more {s : Session} {p : β × List UInt8} {k : Nat}
    (hp : p.2.length = chunkSize) (h : ¬ (s.replyFrom p 0).Final) {fuel : Nat} {b : β}
    (hrest : (s.chunks fuel (s.readOn p).2).run (s.readOn p).1 = (s.ending (s.readOn p) k, b)) :
    (s.chunks (fuel + 1) p.2).run p.1 = (s.ending p (k + 1), b) := by
  have hbytes : (s.replyFrom p 0).bytes =
      (s.readOn p).2.take (RawBus.registers (s.readOn p).1).count :=
    ReadReply.bytes_eq ((s.length_buffer_replyFrom p 0).trans hp)
  have hmore : (RawBus.registers (s.readOn p).1).unfinished = true := by
    rw [ReadReply.final_iff, Bool.not_eq_false] at h
    exact h
  unfold Registers.unfinished at hmore
  simp only [Bool.and_eq_true, Bool.not_eq_true'] at hmore
  have hv := verdict_ok "Read" none hmore.1.1
  have hon : ¬ (((RawBus.registers (s.readOn p).1).status.ended ||
      (RawBus.registers (s.readOn p).1).count == 0) = true) := by
    simp_all
  refine (run_chunks_ok fuel hv).trans ((if_neg hon).trans ?_)
  rw [show RawBus.read p.1 s.descriptor p.2 = s.readOn p from rfl, hrest]
  unfold ending
  rw [bytesFrom_succ, hbytes]
  show _ = (Except.map _ (verdict (s.readOn^[k + 1] (s.readOn p)).1 "Read" none), b)
  cases verdict (s.readOn^[k + 1] (s.readOn p)).1 "Read" none <;> rfl

/-- The chunks of a message are its replies, up to the first final one. -/
theorem run_chunks {s : Session} {p : β × List UInt8} {fuel : Nat}
    (hp : p.2.length = chunkSize) (hf : RawBus.pending p.1 < fuel) :
    ∃ k, s.EndsWith p k ∧
      (s.chunks fuel p.2).run p.1 = (s.ending p k, (s.readOn^[k + 1] p).1) := by
  induction fuel generalizing p with
  | zero => cases hf
  | succ fuel ih =>
      by_cases hfinal : (s.replyFrom p 0).Final
      · exact ⟨0, .zero hfinal, run_chunks_final hp hfinal fuel⟩
      · have hfewer := pending_readOn hfinal
        obtain ⟨k, hk, hrun⟩ := ih (p := s.readOn p)
          ((RawBus.length_read p.1 s.descriptor p.2).trans hp) (by omega)
        exact ⟨k + 1, hk.succ hfinal, run_chunks_more hp hfinal hrun⟩

/-- To read on is to make raw reads of the same capacity, and nothing else. -/
theorem calls_readOn (s : Session) (p : Recorded β × List UInt8) (k : Nat) :
    (s.readOn^[k] p).1.calls =
      p.1.calls ++ List.replicate k (.read s.descriptor p.2.length) := by
  induction k generalizing p with
  | zero => exact (List.append_nil _).symm
  | succ k ih =>
      have hone : (s.readOn p).1.calls = p.1.calls ++ [.read s.descriptor p.2.length] :=
        p.1.calls_note _ _ none
      have hlength : (s.readOn p).2.length = p.2.length :=
        RawBus.length_read p.1 s.descriptor p.2
      rw [Function.iterate_succ_apply, ih, hone, hlength, List.append_assoc,
        List.replicate_succ, List.singleton_append]

/-- A driver that gives these replies to raw reads, one after the other. -/
def scripted (replies : List ReadReply) : Scripted :=
  .ofReplies (replies.map fun r => { ScriptedReply.standard with
    registers := r.registers, data := r.buffer })

/-- It gives them whatever has been recorded and is in the buffer. -/
theorem replyFrom_scripted (s : Session) {replies : List ReadReply} {size : Nat}
    (hsize : ∀ r ∈ replies, r.buffer.length = size) {p : Recorded Scripted × List UInt8}
    (hp : p.2.length = size) (hb : p.1.bus.replies = (scripted replies).replies) {j : Nat}
    (hj : j < replies.length) : s.replyFrom p j = replies[j] := by
  induction replies generalizing p j with
  | nil => cases hj
  | cons r rest ih =>
      have hr := hsize r List.mem_cons_self
      have hreply : p.1.bus.reply = { ScriptedReply.standard with
          registers := r.registers, data := r.buffer } := by
        unfold Scripted.reply
        rw [hb]
        rfl
      have hbuffer : (s.readOn p).2 = r.buffer := by
        show fillFront p.2 p.1.bus.reply.data = _
        have hlength : p.2.length = r.buffer.length := hp.trans hr.symm
        rw [hreply]
        unfold fillFront
        simp only [hlength, List.take_length]
        rw [List.drop_of_length_le (Nat.le_of_eq hlength), List.append_nil]
      cases j with
      | zero =>
          show ReadReply.mk p.1.bus.reply.registers (s.readOn p).2 = r
          rw [hreply, hbuffer]
      | succ j =>
          refine ih (fun r' hr' => hsize r' (List.mem_cons_of_mem _ hr')) (p := s.readOn p)
            (by rw [hbuffer, hr]) ?_ (Nat.lt_of_succ_lt_succ hj)
          show p.1.bus.replies.tail = _
          rw [hb]
          rfl

/-- Whatever the driver, a message is read with one raw read for each of its
replies, up to the first that is final, each into a buffer of the same size.
Where that one tells of a timeout or of a failure, so does the read, by its
registers; otherwise the text has a character for each byte of the replies, of
the same code, without the CR, LF and NUL they end with. And any replies that
a driver might give are given by some driver. -/
theorem read_reply_by_reply {s : Session} (hs : s.closed = false) :
    (∀ {β : Type} [RawBus β] (b : Recorded β), ∃ k result b',
      (∀ j < k, ¬ (s.reply b j).Final) ∧ (s.reply b k).Final ∧ s.read.run b = (result, b') ∧
      b'.calls = b.calls ++ List.replicate (k + 1) (.read s.descriptor 1024) ∧
      (∀ j, (s.reply b j).buffer.length = 1024) ∧
      let r := (s.reply b k).registers
      (r.status.timedOut = true → result = .error (.timeout "Read" none r.status r.error)) ∧
      (r.status.timedOut = false → r.status.failed = true → result =
        .error (.hardware "Read" none r.status r.error (RawBus.errorText b' r.error))) ∧
      (r.status.timedOut = false → r.status.failed = false → ∃ text tail, result = .ok text ∧
        ((List.range (k + 1)).flatMap fun j =>
            (s.reply b j).buffer.take (min (s.reply b j).registers.count 1024)).map (·.toNat) =
          text.toList.map (·.toNat) ++ tail ∧
        (∀ n ∈ tail, n ∈ [13, 10, 0]) ∧ ∀ c ∈ text.toList.getLast?, c.toNat ∉ [13, 10, 0])) ∧
    ∀ replies : List ReadReply, (∀ r ∈ replies, r.buffer.length = 1024) →
      ∃ b : Recorded Scripted, ∀ (j : Nat) (hj : j < replies.length),
        s.reply b j = replies[j] := by
  refine ⟨fun {β} _ b => ?_, fun replies hsize => ?_⟩
  · have hbuffer : (List.replicate chunkSize (0 : UInt8)).length = chunkSize :=
      List.length_replicate
    obtain ⟨k, hk, hrun⟩ := run_chunks (s := s) (p := (b, List.replicate chunkSize 0)) hbuffer
      (Nat.lt_succ_self _)
    have hread := run_read s b
    rw [hs, if_neg Bool.false_ne_true] at hread
    simp only [hrun] at hread
    refine ⟨k, _, _, hk.before, hk.final, hread, ?_, fun j => ?_, ?_, ?_, ?_⟩
    · rw [calls_readOn, hbuffer]
      rfl
    · exact (s.length_buffer_replyFrom _ j).trans hbuffer
    · intro ht
      unfold ending
      rw [verdict_timedOut "Read" ht]
      rfl
    · intro ht hf
      unfold ending
      rw [verdict_failed "Read" ht hf]
      rfl
    · intro ht hf
      have hv := verdict_ok "Read" none (b := (s.readOn^[k + 1] (b, List.replicate chunkSize 0)).1)
        ((Bool.or_eq_false_iff).mpr ⟨ht, hf⟩)
      obtain ⟨tail, hcodes, htail⟩ := exists_codes (s.bytesFrom (b, List.replicate chunkSize 0) k)
      refine ⟨_, tail, ?_, hcodes, htail, textOf_last _⟩
      unfold ending
      rw [hv]
      rfl
  · refine ⟨.fresh (scripted replies), fun j hj => ?_⟩
    exact replyFrom_scripted s hsize List.length_replicate rfl hj

/-- A driver that first reports more than there was room for, and then times
out. -/
def faltering : Recorded Scripted :=
  .fresh (scripted [⟨.completed 2000, List.replicate 1024 65⟩,
    ⟨⟨⟨StatusWord.timo ||| StatusWord.err⟩, 6, 5⟩, List.replicate 1024 66⟩])

theorem read_reply_by_reply_faltering :
    (benched .lf).closed = false ∧ ∃ b', (benched .lf).read.run faltering =
        (.error (.timeout "Read" none ⟨StatusWord.timo ||| StatusWord.err⟩ 6), b') ∧
      b'.calls = [.read 16 1024, .read 16 1024] := by
  obtain ⟨k, result, b', hbefore, hfinal, hread, hcalls, -, htimedOut, -⟩ :=
    (read_reply_by_reply (s := benched .lf) rfl).1 faltering
  have hmore : ¬ ((benched .lf).reply faltering 0).Final := by
    rw [ReadReply.final_iff, Bool.not_eq_false]
    rfl
  have hlast : ((benched .lf).reply faltering 1).Final := .inl rfl
  have hk : k = 1 := EndsWith.unique ⟨hbefore, hfinal⟩
    (.succ hmore (.zero hlast))
  subst hk
  rw [htimedOut rfl] at hread
  exact ⟨rfl, b', hread, hcalls⟩

end Session

end InstrumentBus
