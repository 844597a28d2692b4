/-
How many raw reads it takes to empty the output queue of an instrument.

The loop that reads a message has no bound of its own. It goes on for as
long as the replies of the driver are not final, and that there is a final
one is the driver's doing. On a bus in memory it is known which: each raw
read takes as many bytes from the queue as the buffer holds, so the queue
is the measure, and the last bytes come with END if the instrument asserts
it. An instrument that does not is asked once more, and the empty reply is
the final one; so is the only reply of a queue that is empty from the
start (`Instrument.readsNeeded`).
-/
import InstrumentBus.Proofs.Session.Message

namespace InstrumentBus

-- ======================================================== the instrument

namespace Instrument

variable {i : Instrument}

/-- The raw reads it takes to empty the queue: one for each chunk, and
where END is not to be had one more, that finds nothing. -/
def readsNeeded (i : Instrument) : Nat :=
  if i.suppressEnd then (i.output.length + 1023) / 1024 + 1
  else max 1 ((i.output.length + 1023) / 1024)

/-- Nothing follows a read that leaves nothing, if END comes with it or if it
has found nothing. -/
theorem ends_or_empty (h : i.readsNeeded = 1) :
    i.output.length ≤ 1024 ∧ (i.ends 1024 = true ∨ i.transferCount 1024 = 0) := by
  unfold readsNeeded at h
  unfold ends transferCount
  cases hs : i.suppressEnd with
  | true =>
      rw [hs, if_pos rfl] at h
      exact ⟨by omega, .inr (by omega)⟩
  | false =>
      rw [hs, if_neg Bool.false_ne_true] at h
      refine ⟨by omega, ?_⟩
      by_cases hnone : i.output.length = 0
      · exact .inr (by omega)
      · refine .inl ?_
        simp only [Bool.not_false, Bool.and_true, Bool.and_eq_true, bne_iff_ne, beq_iff_eq]
        omega

/-- Otherwise a read takes something and does not end the message, and what it
leaves needs one read less. -/
theorem consume_readsNeeded {n : Nat} (h : i.readsNeeded = n + 2) :
    i.ends 1024 = false ∧ i.transferCount 1024 ≠ 0 ∧
      (i.consume (i.transferCount 1024)).readsNeeded = n + 1 := by
  unfold readsNeeded at h ⊢
  unfold ends transferCount
  have hleft : (i.consume (min 1024 i.output.length)).output.length =
      i.output.length - min 1024 i.output.length :=
    List.length_drop
  have hend : (i.consume (min 1024 i.output.length)).suppressEnd = i.suppressEnd := rfl
  rw [hend, hleft]
  cases hs : i.suppressEnd with
  | true =>
      rw [hs, if_pos rfl] at h
      refine ⟨by simp, by omega, ?_⟩
      rw [if_pos rfl]
      omega
  | false =>
      rw [hs, if_neg Bool.false_ne_true] at h
      refine ⟨?_, by omega, ?_⟩
      · have hmore : min 1024 i.output.length ≠ i.output.length := by omega
        simp [hmore]
      · rw [if_neg Bool.false_ne_true]
        omega

end Instrument

-- ============================================================ the replies

namespace Session

namespace Meets

variable {s : Session} {b : Recorded Simulated} {a : Address} {i : Instrument}
  {p : Recorded Simulated × List UInt8}

/-- What the instrument says to a raw read: it is no failure, and it brings
the front of the queue. -/
theorem readOn (h : s.Meets p.1 a i) (hp : p.2.length = 1024) :
    ((s.replyFrom p 0).Final ↔ i.ends 1024 = true ∨ i.transferCount 1024 = 0) ∧
      (s.replyFrom p 0).bytes = i.output.take 1024 ∧
      s.Meets (s.readOn p).1 a (i.consume (i.transferCount 1024)) := by
  obtain ⟨b', status, hread, hv, hend, hcount, hmeets, -⟩ := h.transfers p.2
  rw [hp] at hend hcount hmeets hread
  have hon : s.readOn p = (b', fillFront p.2 (i.output.take (i.transferCount 1024))) := hread
  obtain ⟨hgood, hstatus⟩ := verdict_eq_ok hv
  have hreply : s.replyFrom p 0 =
      ⟨RawBus.registers b', fillFront p.2 (i.output.take (i.transferCount 1024))⟩ := by
    show (⟨RawBus.registers (s.readOn p).1, (s.readOn p).2⟩ : ReadReply) = _
    rw [hon]
  have htake : i.output.take (i.transferCount 1024) = i.output.take 1024 :=
    (List.take_eq_take_min ..).symm
  refine ⟨?_, ?_, by rw [hon]; exact hmeets⟩
  · rw [hreply, ReadReply.final_iff]
    unfold Registers.unfinished
    rw [hgood, hcount, ← hstatus, hend]
    cases i.ends 1024 <;> simp
  · have hbuffer : (s.replyFrom p 0).buffer.length = chunkSize :=
      (s.length_buffer_replyFrom p 0).trans hp
    rw [ReadReply.bytes_eq hbuffer, hreply, htake]
    show (fillFront p.2 (i.output.take 1024)).take (RawBus.registers b').count = _
    rw [hcount]
    unfold fillFront Instrument.transferCount
    rw [hp, List.take_take, Nat.min_self]
    exact List.take_left' List.length_take

/-- The replies to the reads it takes are the queue, in order, and the last of
them is the first that is final. -/
theorem drains {k : Nat} (h : s.Meets p.1 a i) (hp : p.2.length = 1024)
    (hk : i.readsNeeded = k + 1) :
    s.EndsWith p k ∧ s.bytesFrom p k = i.output ∧
      s.Meets (s.readOn^[k + 1] p).1 a { i with output := [] } := by
  induction k generalizing p i with
  | zero =>
      obtain ⟨hfinal, hbytes, hmeets⟩ := h.readOn hp
      obtain ⟨hlength, hlast⟩ := Instrument.ends_or_empty hk
      refine ⟨.zero (hfinal.mpr hlast), ?_, ?_⟩
      · rw [bytesFrom_zero, hbytes, List.take_of_length_le hlength]
      · have hempty : i.consume (i.transferCount 1024) = { i with output := [] } := by
          unfold Instrument.consume Instrument.transferCount
          rw [List.drop_of_length_le (by omega)]
        rwa [hempty] at hmeets
  | succ k ih =>
      obtain ⟨hfinal, hbytes, hmeets⟩ := h.readOn hp
      obtain ⟨hends, hsome, hless⟩ := Instrument.consume_readsNeeded hk
      have hmore : ¬ (s.replyFrom p 0).Final := by
        rw [hfinal, hends]
        simpa using hsome
      have hlength : (s.readOn p).2.length = 1024 :=
        (RawBus.length_read p.1 s.descriptor p.2).trans hp
      obtain ⟨hrest, hbytes', hmeets'⟩ := ih hmeets hlength hless
      refine ⟨hrest.succ hmore, ?_, hmeets'⟩
      rw [bytesFrom_succ, hbytes, hbytes']
      show i.output.take 1024 ++ i.output.drop (min 1024 i.output.length) = i.output
      rw [← List.drop_eq_drop_min, List.take_append_drop]

end Meets

variable {s : Session} {b : Recorded Simulated} {a : Address} {i : Instrument}

/-- A read comes to an end on a bus in memory. However many bytes are in the
queue of the instrument, read on and on into one buffer the driver comes to a
final reply, the replies up to it are the bytes of the queue, in order, and the
read makes just these raw reads, gives the text of the bytes and leaves the
queue empty. There are as many of them as there are chunks, and one if there
is none; where END is suppressed, there is one more than there are chunks. -/
theorem read_drains (h : s.Meets b a i) :
    ∃ k b', k + 1 = (if i.suppressEnd then (i.output.length + 1023) / 1024 + 1
        else max 1 ((i.output.length + 1023) / 1024)) ∧
      (∀ j < k, ¬ (s.reply b j).Final) ∧ (s.reply b k).Final ∧
      ((List.range (k + 1)).flatMap fun j =>
        (s.reply b j).buffer.take (min (s.reply b j).registers.count 1024)) = i.output ∧
      s.read.run b = (.ok (textOf i.output), b') ∧
      b'.calls = b.calls ++ List.replicate (k + 1) (.read s.descriptor 1024) ∧
      s.Meets b' a { i with output := [] } := by
  have hbuffer : (List.replicate chunkSize (0 : UInt8)).length = 1024 := List.length_replicate
  obtain ⟨k, hk⟩ : ∃ k, i.readsNeeded = k + 1 := by
    refine Nat.exists_eq_succ_of_ne_zero ?_
    unfold Instrument.readsNeeded
    split <;> omega
  obtain ⟨hends, hbytes, hmeets⟩ :=
    Meets.drains (p := (b, List.replicate chunkSize 0)) h hbuffer hk
  obtain ⟨k', hends', hrun⟩ := run_chunks (s := s) (p := (b, List.replicate chunkSize 0)) hbuffer
    (Nat.lt_succ_self _)
  obtain rfl := hends.unique hends'
  -- what is read is known; what is new is where the loop leaves off
  obtain ⟨b', hread, -⟩ := h.read
  have hlast : b' = (s.readOn^[k + 1] (b, List.replicate chunkSize 0)).1 := by
    have hread' := run_read s b
    rw [h.opened, if_neg Bool.false_ne_true] at hread'
    simp only [hrun] at hread'
    exact congrArg Prod.snd (hread.symm.trans hread')
  refine ⟨k, b', hk.symm, hends.before, hends.final, hbytes, hread, ?_, hlast ▸ hmeets⟩
  rw [hlast, calls_readOn, hbuffer]

/-- A queue that two chunks empty to the last byte. -/
def brimful (suppressEnd : Bool) : Instrument :=
  { Instrument.silent with output := List.replicate 2048 65, suppressEnd }

/-- A bus with the instrument, on which nothing has been called yet. -/
def laden (suppressEnd : Bool) : Recorded Simulated := .fresh (bench (brimful suppressEnd))

/-- Two raw reads with END, and three without. -/
theorem read_drains_brimful :
    (benched .lf).Meets (laden false) ⟨5, 0⟩ (brimful false) ∧
    (benched .lf).Meets (laden true) ⟨5, 0⟩ (brimful true) ∧
    (∃ b', (benched .lf).read.run (laden false) =
        (.ok (textOf (List.replicate 2048 65)), b') ∧
      b'.calls = [.read 16 1024, .read 16 1024]) ∧
    ∃ b', (benched .lf).read.run (laden true) =
        (.ok (textOf (List.replicate 2048 65)), b') ∧
      b'.calls = [.read 16 1024, .read 16 1024, .read 16 1024] := by
  have hlength : ∀ e, (brimful e).output.length = 2048 := fun _ => List.length_replicate
  refine ⟨benched_meets _ _, benched_meets _ _, ?_, ?_⟩
  · obtain ⟨k, b', hk, -, -, -, hread, hcalls, -⟩ :=
      read_drains (benched_meets .lf (brimful false))
    rw [hlength] at hk
    obtain rfl : k = 1 := Nat.succ.inj hk
    exact ⟨b', hread, hcalls⟩
  · obtain ⟨k, b', hk, -, -, -, hread, hcalls, -⟩ :=
      read_drains (benched_meets .lf (brimful true))
    rw [hlength] at hk
    obtain rfl : k = 2 := Nat.succ.inj hk
    exact ⟨b', hread, hcalls⟩

end Session

end InstrumentBus
