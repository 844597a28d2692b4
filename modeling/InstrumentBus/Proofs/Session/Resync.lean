/-
A device clear, and a query after it.

An instrument may have any past: answers that nobody read, or read in
part, polls that were still to come, a request for service. A clear
empties its output queue, and what else is left of its past — its status
byte, its polls, the writes it has received — is nothing that a query
asks for. So the answer to a query right after a clear depends on the
table of the instrument and on what is sent, and on nothing more
(`Instrument.queued`, `Session.afresh`). Two instruments with the same
table answer alike then, on two buses that need have nothing else in
common.

The survey of a bus asks each instrument in this way
(`Discovery.inquiry`).
-/
import InstrumentBus.Discovery.Survey
import InstrumentBus.Proofs.Session.Meeting

namespace InstrumentBus

/-- An act that consists of one exchange, which goes well. -/
theorem Act.run_good {β α : Type} (x : Session → Exchange β α) (reply : α → Reply) {s : Session}
    {b b' : β} {r : α} (h : (x s).run b = (.ok r, b')) :
    (exchange fun s => reply <$> x s).run (s, b) = (.done (.ok (reply r)), (s, b')) := by
  rw [run_exchange, Exchange.run_map, h]
  rfl

/-- A program whose first act goes well. -/
theorem Program.run_good {β : Type} [RawBus β] {now : Instant} {act : Act} {p q : Line β}
    {r : Reply} {rest : Program} (h : (act.start now).run p = (.done (.ok r), q)) :
    (Program.run now (act :: rest)).run p =
      (.after r ((Program.run now rest).run q).1, ((Program.run now rest).run q).2) := by
  rw [run_cons, stateful_bind _ h]
  rfl

-- ======================================================= the instrument

namespace Instrument

/-- What a write puts into the output queue. -/
def queued (i : Instrument) (data : List UInt8) : List UInt8 :=
  match i.answer? data with
  | some response => Text.Unicode.encode response.toList ++ [10]
  | none => []

theorem output_receive (i : Instrument) (data : List UInt8) :
    (i.receive data).output = i.output ++ i.queued data := by
  cases h : i.answer? data with
  | some response =>
      unfold queued
      rw [receive_of_answer h, h]
  | none =>
      have h' : answer? { i with written := i.written ++ [data] } data = none := h
      unfold receive queued
      simp only [h, h', List.append_nil]

/-- What a write puts into the queue is found in the table. -/
theorem queued_congr {i j : Instrument}
    (h : ∀ c, Keyed.get? i.responses c = Keyed.get? j.responses c) (data : List UInt8) :
    i.queued data = j.queued data := by
  unfold queued answer?
  rw [h]

end Instrument

-- ================================================== a query after a clear

namespace Session

/-- A device clear, and a query after it. -/
def clearAndQuery {β : Type} [RawBus β] (s : Session) (command : String) (kind : ResponseKind) :
    Exchange β Response := do
  s.clear
  s.query command kind

/-- The answer of an instrument that has nothing else to say. -/
def afresh (s : Session) (i : Instrument) (command : String) (kind : ResponseKind) :
    Except Failure Response :=
  if command = "" then .error (.invalidArgument .emptyCommand)
  else Response.ofText kind (textOf (i.queued (s.payload command))).toList

/-- The answer depends on the table and the terminator alone. -/
theorem afresh_congr {s s' : Session} {i i' : Instrument} (ht : s.terminator = s'.terminator)
    (hr : ∀ c, Keyed.get? i.responses c = Keyed.get? i'.responses c) (command : String)
    (kind : ResponseKind) : s.afresh i command kind = s'.afresh i' command kind := by
  have hp : s.payload command = s'.payload command := by
    unfold payload
    rw [ht]
  unfold afresh
  rw [hp, Instrument.queued_congr hr]

namespace Meets

variable {s : Session} {b : Recorded Simulated} {a : Address} {i : Instrument} {command : String}

theorem clear (h : s.Meets b a i) :
    ∃ b', s.clear.run b = (.ok (), b') ∧ s.Meets b' a i.reset := by
  refine ⟨_, ?_, h.after (·.reset) (.completed 0) (.clear s.descriptor)⟩
  have hclear : RawBus.clear b s.descriptor =
      b.note ((b.bus.modifyInstrument a (·.reset)).complete 0) (.clear s.descriptor) none :=
    congrArg (fun r => b.note r.1 _ none) (Simulated.calls_clear.reached h.access)
  rw [run_clear, h.opened, if_neg Bool.false_ne_true, hclear]
  simp only [verdict_complete]
  rfl

/-- A command written and the message read that is then in the queue. -/
theorem writeRead (h : s.Meets b a i) (ho : i.output = []) (hne : command ≠ "") :
    ∃ b₁ b₂ j, (s.write command).run b = (.ok (), b₁) ∧
      s.read.run b₁ = (.ok (textOf (i.queued (s.payload command))), b₂) ∧
      s.Meets b₂ a j ∧ j.output = [] := by
  obtain ⟨b₁, hwrite, hmeets, -⟩ := h.write hne
  obtain ⟨b₂, hread, hmeets₂, -⟩ := hmeets.read
  rw [Instrument.output_receive, ho, List.nil_append] at hread
  exact ⟨b₁, b₂, _, hwrite, hread, hmeets₂, rfl⟩

/-- Whatever is in the queue of an instrument, and whatever its status and
its polls: a clear and a query after it bring the answer afresh, and leave
nothing in the queue. -/
theorem clearAndQuery (h : s.Meets b a i) (command : String) (kind : ResponseKind) :
    ∃ b' j, (s.clearAndQuery command kind).run b = (s.afresh i command kind, b') ∧
      s.Meets b' a j ∧ j.output = [] := by
  obtain ⟨b₁, hclear, hmeets⟩ := h.clear
  have hrun : (s.clearAndQuery command kind).run b = (s.query command kind).run b₁ :=
    Exchange.run_bind_ok _ hclear
  unfold afresh
  by_cases hne : command = ""
  · rw [if_pos hne, hrun]
    refine ⟨b₁, i.reset, run_query_error ?_, hmeets, rfl⟩
    rw [run_write, h.opened, if_neg Bool.false_ne_true, if_pos hne]
  · rw [if_neg hne, hrun]
    obtain ⟨b₂, b₃, j, hwrite, hread, hmeets₃, hj⟩ := hmeets.writeRead rfl hne
    refine ⟨b₃, j, ?_, hmeets₃, hj⟩
    rw [run_query_ok hwrite, run_readAs, hread]
    rfl

/-- So it is when the survey asks. -/
theorem inquiry (h : s.Meets b a i) (hne : command ≠ "") (now : Instant) :
    ∃ b', ((Discovery.inquiry command).run now).run (s, b) =
      (.done [.nothing, .nothing, .value (.text (textOf (i.queued (s.payload command))))] (.ok ()),
        (s, b')) := by
  obtain ⟨b₁, hclear, hmeets⟩ := h.clear
  obtain ⟨b₂, b₃, j, hwrite, hread, -⟩ := hmeets.writeRead rfl hne
  have hclear' : (Act.clear.start now).run (s, b) = (.done (.ok .nothing), (s, b₁)) :=
    Act.run_good (·.clear) _ hclear
  have hwrite' : ((Act.write command).start now).run (s, b₁) = (.done (.ok .nothing), (s, b₂)) :=
    Act.run_good (·.write command) _ hwrite
  have hread' : (Act.read.start now).run (s, b₂) =
      (.done (.ok (.value (.text (textOf (i.queued (s.payload command)))))), (s, b₃)) :=
    Act.run_good (·.read) _ hread
  refine ⟨b₃, ?_⟩
  show (Program.run now [.clear, .write command, .read]).run (s, b) = _
  rw [Program.run_good hclear', Program.run_good hwrite', Program.run_good hread']
  rfl

end Meets

variable {s s' : Session} {b b' : Recorded Simulated} {a a' : Address} {i i' : Instrument}

/-- Two sessions with the same terminator, to instruments with the same
table. Whatever has happened on the two buses, a clear and a query after it
have the same result on both, which is what an instrument with this table
says that has nothing else to say; and nothing is left in the queues. The
inquiry of a survey is answered alike, too. -/
theorem clear_resynchronises (h : s.Meets b a i) (h' : s'.Meets b' a' i')
    (ht : s.terminator = s'.terminator)
    (hr : ∀ c, Keyed.get? i.responses c = Keyed.get? i'.responses c) (command : String)
    (kind : ResponseKind) :
    (∃ r e e' j j', (s.clearAndQuery command kind).run b = (r, e) ∧
      (s'.clearAndQuery command kind).run b' = (r, e') ∧ r = s.afresh i command kind ∧
      s.Meets e a j ∧ j.output = [] ∧ s'.Meets e' a' j' ∧ j'.output = []) ∧
    (command ≠ "" → ∀ now now', ∃ text e e',
      ((Discovery.inquiry command).run now).run (s, b) =
        (.done [.nothing, .nothing, .value (.text text)] (.ok ()), (s, e)) ∧
      ((Discovery.inquiry command).run now').run (s', b') =
        (.done [.nothing, .nothing, .value (.text text)] (.ok ()), (s', e'))) := by
  constructor
  · obtain ⟨e, j, hrun, hmeets, hj⟩ := h.clearAndQuery command kind
    obtain ⟨e', j', hrun', hmeets', hj'⟩ := h'.clearAndQuery command kind
    rw [← afresh_congr ht hr] at hrun'
    exact ⟨_, e, e', j, j', hrun, hrun', rfl, hmeets, hj, hmeets', hj'⟩
  · intro hne now now'
    have hp : s.payload command = s'.payload command := by
      unfold payload
      rw [ht]
    obtain ⟨e, hrun⟩ := h.inquiry hne now
    obtain ⟨e', hrun'⟩ := h'.inquiry hne now'
    rw [← hp, ← Instrument.queued_congr hr] at hrun'
    exact ⟨_, e, e', hrun, hrun'⟩

/-- An instrument that knows one command and has most of a long message
unread; and one that hides its answers, requests service, and never asserts
END. -/
def unread : Instrument :=
  { Instrument.silent.respond "*IDN?" "ACME 1" with
    output := List.replicate 1976 65, written := [[42, 73, 68, 78, 63, 10]] }

def unsettled : Instrument :=
  { Instrument.silent.respond "*IDN?" "ACME 1" with
    output := [66, 10], status := ⟨StatusByte.rqs⟩, pollDelay := 9, pollsRemaining := 4
    suppressEnd := true, written := [[63]] }

theorem same_table (c : String) :
    Keyed.get? unread.responses c = Keyed.get? unsettled.responses c :=
  congrArg (Keyed.get? · c) (show unread.responses = unsettled.responses from rfl)

theorem clear_resynchronises_unread :
    (benched .crlf).Meets (.fresh (bench unread)) ⟨5, 0⟩ unread ∧
      (benched .crlf).Meets (.fresh (bench unsettled)) ⟨5, 0⟩ unsettled ∧
      ∃ r e e' j j', ((benched .crlf).clearAndQuery "*IDN?" .text).run (.fresh (bench unread)) =
          (r, e) ∧
        ((benched .crlf).clearAndQuery "*IDN?" .text).run (.fresh (bench unsettled)) = (r, e') ∧
        r = (benched .crlf).afresh unread "*IDN?" .text ∧
        (benched .crlf).Meets e ⟨5, 0⟩ j ∧ j.output = [] ∧
        (benched .crlf).Meets e' ⟨5, 0⟩ j' ∧ j'.output = [] :=
  ⟨benched_meets _ _, benched_meets _ _,
    (clear_resynchronises (benched_meets _ _) (benched_meets _ _) rfl same_table "*IDN?" .text).1⟩

end Session

end InstrumentBus
