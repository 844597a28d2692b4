/-
An inquiry, on a bus that is not recorded.

What is known about sessions that meet an instrument is known of recorded
buses. A record is only looked at from outside, so an exchange comes to
the same with it and without it (`Exchange.Unrecorded`), and what is known
carries over.

The rest of the bus is another matter: an inquiry leaves alone the links,
the counts of what was taken offline, and the instruments that its session
does not lead to (`Simulated.Apart`), whatever it is answered.
-/
import InstrumentBus.Proofs.Session.Resync
import InstrumentBus.Proofs.Session.Stepwise

namespace InstrumentBus

variable {β α : Type}

-- ================================================== without the record

/-- An exchange on a recorded driver comes to what another one comes to on
the driver itself. -/
def Exchange.Unrecorded (x : Exchange (Recorded β) α) (y : Exchange β α) : Prop :=
  ∀ b, y.run b.bus = ((x.run b).1, (x.run b).2.bus)

theorem Exchange.Unrecorded.run {x : Exchange (Recorded β) α} {y : Exchange β α}
    (h : x.Unrecorded y) {r : Except Failure α} {b b' : Recorded β} (hx : x.run b = (r, b')) :
    y.run b.bus = (r, b'.bus) := by
  rw [h b, hx]

/-- Conditions are the same on both. -/
theorem Exchange.unrecorded_ite {c : Prop} [Decidable c] {x y : Except Failure α × Recorded β}
    {x' y' : Except Failure α × β} (hx : x' = (x.1, x.2.bus)) (hy : y' = (y.1, y.2.bus)) :
    (if c then x' else y') = ((if c then x else y).1, (if c then x else y).2.bus) := by
  split <;> assumption

namespace Session

open Exchange

variable [RawBus β] (s : Session)

theorem unrecorded_clear : (s.clear : Exchange (Recorded β) Unit).Unrecorded s.clear := by
  intro b
  rw [run_clear, run_clear]
  exact unrecorded_ite rfl rfl

theorem unrecorded_write (command : String) :
    (s.write command : Exchange (Recorded β) Unit).Unrecorded (s.write command) := by
  intro b
  rw [run_write, run_write]
  exact unrecorded_ite rfl (unrecorded_ite rfl rfl)

theorem unrecorded_chunks (fuel : Nat) (buffer : List UInt8) :
    (s.chunks fuel buffer : Exchange (Recorded β) (List UInt8)).Unrecorded
      (s.chunks fuel buffer) := by
  induction fuel generalizing buffer with
  | zero => exact fun _ => rfl
  | succ fuel ih =>
      intro b
      cases hv : verdict (RawBus.read b s.descriptor buffer).1 "Read" none with
      | error e =>
          have hv' : verdict (RawBus.read b.bus s.descriptor buffer).1 "Read" none = .error e := hv
          rw [run_chunks_error fuel hv, run_chunks_error fuel hv']
          rfl
      | ok status =>
          have hv' : verdict (RawBus.read b.bus s.descriptor buffer).1 "Read" none = .ok status :=
            hv
          rw [run_chunks_ok fuel hv, run_chunks_ok fuel hv']
          have hread : RawBus.read b s.descriptor buffer =
              (b.note (RawBus.read b.bus s.descriptor buffer).1
                (.read s.descriptor buffer.length) none,
              (RawBus.read b.bus s.descriptor buffer).2) := rfl
          rw [hread]
          rcases RawBus.read b.bus s.descriptor buffer with ⟨bus, buffer'⟩
          have hrest := ih buffer' (b.note bus (.read s.descriptor buffer.length) none)
          change (s.chunks fuel buffer').run bus = _ at hrest
          refine unrecorded_ite rfl ?_
          rw [hrest]
          rfl

theorem unrecorded_read : (s.read : Exchange (Recorded β) String).Unrecorded s.read := by
  intro b
  have hchunks := s.unrecorded_chunks (RawBus.pending b.bus + 1) (List.replicate chunkSize 0) b
  rw [run_read, run_read]
  refine unrecorded_ite rfl ?_
  rw [hchunks]
  rfl

end Session

-- ================================================== the rest of the bus

namespace Simulated

variable {d : Int} {b b' b'' : Simulated}

/-- Nothing was opened or taken offline, and no instrument was reached but
the one that a descriptor leads to. -/
structure Apart (d : Int) (b b' : Simulated) : Prop where
  frame : Local d b b'
  counts : b'.offlineCounts = b.offlineCounts

theorem Apart.refl (d : Int) (b : Simulated) : Apart d b b :=
  ⟨⟨⟨rfl, rfl⟩, fun _ _ _ _ => rfl, id, rfl⟩, rfl⟩

theorem Apart.trans (h : Apart d b b') (h' : Apart d b' b'') : Apart d b b'' where
  frame :=
    { links := ⟨h'.frame.links.1.trans h.frame.links.1, h'.frame.links.2.trans h.frame.links.2⟩
      elsewhere := fun l a hl hne => by
        have hl' : b'.link? d = some l := by
          unfold link?
          rw [h.frame.links.1]
          exact hl
        rw [h'.frame.elsewhere l a hl' hne, h.frame.elsewhere l a hl hne]
      faults := fun hf => h'.frame.faults (h.frame.faults hf)
      failOpen := h'.frame.failOpen.trans h.frame.failOpen }
  counts := h'.counts.trans h.counts

/-- A raw call on a descriptor takes nothing offline, however it starts. -/
theorem Calls.apart {δ : Type} {call : Int → Simulated → Simulated × δ} {nothing : δ}
    {deed : Instrument → Deed δ} (h : Calls call nothing deed) (d : Int) (b : Simulated) :
    Apart d b (call d b).1 where
  frame := h.spares d b
  counts := by
    have hturned : ∀ {b'}, b.Turned d b' → (call d b).1.offlineCounts = b.offlineCounts := by
      intro b' ht
      rw [h.turned ht]
      rcases ht.cause with ⟨f, rest, -, rfl⟩ | ⟨code, rfl⟩ <;> rfl
    cases hacc : b.access d with
    | faulted b' => exact hturned (.inl hacc)
    | refused b' => exact hturned (.inr hacc)
    | reached a i =>
        rw [h.reached hacc]
        rfl

theorem Apart.stepwise : Stepwise fun p q : Line Simulated =>
    q.1.descriptor = p.1.descriptor ∧ Apart p.1.descriptor p.2 q.2 where
  refl _ := ⟨rfl, .refl _ _⟩
  trans h h' := ⟨h'.1.trans h.1, h.2.trans (h.1 ▸ h'.2)⟩
  write s b data _ _ := ⟨rfl, (calls_write data).apart s.descriptor b⟩
  read s b buffer _ _ := ⟨rfl, (calls_read buffer).apart s.descriptor b⟩
  clear s b _ := ⟨rfl, calls_clear.apart s.descriptor b⟩
  serialPoll s b _ := ⟨rfl, calls_serialPoll.apart s.descriptor b⟩
  setTerminator _ _ _ := ⟨rfl, .refl _ _⟩

end Simulated

-- ========================================================= the inquiry

/-- An act that consists of one exchange, which fails. -/
theorem Act.run_failed (x : Session → Exchange β α) (reply : α → Reply) {s : Session} {b b' : β}
    {e : Failure} (h : (x s).run b = (.error e, b')) :
    (exchange fun s => reply <$> x s).run (s, b) = (.done (.error e), (s, b')) := by
  rw [run_exchange, Exchange.run_map, h]
  rfl

/-- A program whose first act fails. -/
theorem Program.run_failed [RawBus β] {now : Instant} {act : Act} {p q : Line β} {e : Failure}
    {rest : Program} (h : (act.start now).run p = (.done (.error e), q)) :
    (Program.run now (act :: rest)).run p = (.done [] (.error e), q) := by
  rw [run_cons, stateful_bind _ h]
  rfl

namespace Discovery

/-- What an instrument says to a question that has nothing else to say, or
what is wrong with the question. -/
def saying (t : Terminator) (i : Instrument) (question : String) : Answer :=
  if question = "" then .error (.invalidArgument .emptyCommand)
  else .ok (Session.textOf (i.queued (Text.Latin.encode question.toList ++ t.bytes)))

/-- An inquiry on an open session to an instrument. -/
theorem run_inquiry {s : Session} {b : Simulated} {a : Address} {i : Instrument}
    (hs : s.closed = false) (hf : b.faults = []) (hl : b.link? s.descriptor = some ⟨a, true⟩)
    (hi : b.instrument? a = some i) (question : String) (now : Instant) :
    ∃ replies result b', ((inquiry question).run now).run (s, b) =
        (.done replies result, (s, b')) ∧
      (∀ entered, answerOf (some (.call
        ⟨a, inquiry question, false, entered, replies, .ended result⟩)) =
          saying s.terminator i question) ∧
      b.Apart s.descriptor b' := by
  have hmeets : s.Meets (.fresh b) a i := ⟨hs, hf, hl, hi⟩
  obtain ⟨c₁, hclear, hmeets₁⟩ := hmeets.clear
  have hclear' : s.clear.run b = (.ok (), c₁.bus) := s.unrecorded_clear.run hclear
  have hfirst : (Act.clear.start now).run (s, b) = (.done (.ok .nothing), (s, c₁.bus)) :=
    Act.run_good (·.clear) _ hclear'
  have hapart : b.Apart s.descriptor c₁.bus := by
    have h := (Simulated.Apart.stepwise.along_clear s b).2
    rwa [hclear'] at h
  unfold saying inquiry
  by_cases hq : question = ""
  · have hrefused : (s.write question).run c₁.bus =
        (.error (.invalidArgument .emptyCommand), c₁.bus) := by
      rw [Session.run_write, hs, if_neg Bool.false_ne_true, if_pos hq]
    have hsecond : ((Act.write question).start now).run (s, c₁.bus) =
        (.done (.error (.invalidArgument .emptyCommand)), (s, c₁.bus)) :=
      Act.run_failed (·.write question) (fun _ => .nothing) hrefused
    refine ⟨[.nothing], .error (.invalidArgument .emptyCommand), c₁.bus, ?_, ?_, hapart⟩
    · rw [Program.run_good hfirst, Program.run_failed hsecond]
      rfl
    · intro entered
      rw [if_pos hq]
      rfl
  · obtain ⟨c₂, c₃, j, hwrite, hread, -⟩ := hmeets₁.writeRead rfl hq
    have hwrite' := (s.unrecorded_write question).run hwrite
    have hread' := s.unrecorded_read.run hread
    have hsecond : ((Act.write question).start now).run (s, c₁.bus) =
        (.done (.ok .nothing), (s, c₂.bus)) := Act.run_good (·.write question) _ hwrite'
    have hthird : (Act.read.start now).run (s, c₂.bus) =
        (.done (.ok (.value (.text (Session.textOf (i.queued (s.payload question)))))),
          (s, c₃.bus)) := Act.run_good (·.read) _ hread'
    refine ⟨[.nothing, .nothing,
      .value (.text (Session.textOf (i.queued (s.payload question))))], .ok (), c₃.bus, ?_, ?_,
      hapart.trans ?_⟩
    · rw [Program.run_good hfirst, Program.run_good hsecond, Program.run_good hthird]
      rfl
    · intro entered
      rw [if_neg hq]
      rfl
    · have h := (Simulated.Apart.stepwise.along_write s question c₁.bus).2
      have h' := (Simulated.Apart.stepwise.along_read s c₂.bus).2
      rw [hwrite'] at h
      rw [hread'] at h'
      exact h.trans h'

end Discovery

end InstrumentBus
