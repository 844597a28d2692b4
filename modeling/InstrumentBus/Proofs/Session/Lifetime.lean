/-
The life of a session, from its opening to its drop, as its driver sees it:
one open, then work, then one call that takes the descriptor offline, and
nothing after that. Nothing is ever written or read that is of no length. An
open that is refused is the only call there is.

# What may happen to a session

A session has one owner, who begins acts on it, takes them up again where
they pause, gives them up, and in the end drops the session. `Holding.Event` is one
such thing, and any list of them is a life. Between any two of them the
driver may be in the hands of others, so it may be found in any state
whatever. What is recorded are the calls of this session only.

A driver is asked to have an end to what a read is to deliver. This takes
nothing away: an operation that comes to an end has had finitely many
answers, and a scripted driver gives any finite list of answers.

# Where the descriptor is taken offline

The acts before the first close keep the session open and are stepwise
(`Works`), so they add work and nothing else. The first close adds the call
that takes the descriptor offline, and from then on nothing is added by
anything, a second close and the drop included.
-/
import InstrumentBus.Bus.Recorded
import InstrumentBus.Bus.Scripted
import InstrumentBus.Proofs.Session.Stepwise

namespace InstrumentBus

variable {β : Type}

-- ============================================================ the calls

/-- A call by which a session works on its descriptor: it writes something,
reads into a buffer with room, clears or polls. -/
def RawCall.isWorkOn (d : Int) : RawCall → Bool
  | .write d' data => d' == d && !data.isEmpty
  | .read d' capacity => d' == d && capacity != 0
  | .clear d' | .serialPoll d' => d' == d
  | .openDevice _ | .takeOffline _ _ | .discover _ _ _ => false

theorem Recorded.calls_note [RawBus β] (r : Recorded β) (bus : β) (call : RawCall)
    (answer : Option Int) : (r.note bus call answer).calls = r.calls ++ [call] := by
  unfold Recorded.calls Recorded.note
  rw [List.map_cons, List.reverse_cons]

/-- What a session does without closing or being closed: it stays on its
descriptor, and the calls it makes are work, or none where it is closed. -/
structure Works (p q : Line (Recorded β)) : Prop where
  descriptor : q.1.descriptor = p.1.descriptor
  closed : q.1.closed = p.1.closed
  made : ∃ io, q.2.calls = p.2.calls ++ io ∧
    ∀ c ∈ io, p.1.closed = false ∧ c.isWorkOn p.1.descriptor = true

namespace Works

variable {p q r : Line (Recorded β)}

theorem refl (p : Line (Recorded β)) : Works p p :=
  ⟨rfl, rfl, [], (List.append_nil _).symm, nofun⟩

theorem trans (h : Works p q) (h' : Works q r) : Works p r := by
  obtain ⟨io, hcalls, hio⟩ := h.made
  obtain ⟨io', hcalls', hio'⟩ := h'.made
  refine ⟨h'.descriptor.trans h.descriptor, h'.closed.trans h.closed, io ++ io', ?_, fun c hc => ?_⟩
  · rw [hcalls', hcalls, List.append_assoc]
  · rcases List.mem_append.mp hc with hc | hc
    · exact hio c hc
    · have hw := hio' c hc
      rwa [h.descriptor, h.closed] at hw

/-- One call of an open session. -/
theorem of_call [RawBus β] {s : Session} {b : Recorded β} {bus : β} {call : RawCall}
    (hs : s.closed = false) (hc : call.isWorkOn s.descriptor = true) :
    Works (s, b) (s, b.note bus call none) := by
  refine ⟨rfl, rfl, [call], b.calls_note bus call none, fun c hmem => ?_⟩
  cases List.mem_singleton.mp hmem
  exact ⟨hs, hc⟩

theorem stepwise [RawBus β] : Stepwise (Works (β := β)) where
  refl := refl
  trans := trans
  write s b data hs hd := by
    refine of_call hs ?_
    simp only [RawCall.isWorkOn, beq_self_eq_true, Bool.true_and]
    rw [Bool.not_eq_true', List.isEmpty_eq_false_iff]
    exact hd
  read s b buffer hs hb := by
    refine of_call hs ?_
    simp only [RawCall.isWorkOn, beq_self_eq_true, Bool.true_and]
    rw [bne_iff_ne]
    exact mt List.eq_nil_of_length_eq_zero hb
  clear _ _ hs := of_call hs (beq_self_eq_true _)
  serialPoll _ _ hs := of_call hs (beq_self_eq_true _)
  setTerminator _ _ _ := ⟨rfl, rfl, [], (List.append_nil _).symm, nofun⟩

/-- A closed session makes no calls. -/
theorem silent (h : Works p q) (hp : p.1.closed = true) : q.2.calls = p.2.calls := by
  obtain ⟨io, hcalls, hio⟩ := h.made
  cases io with
  | nil => rw [hcalls, List.append_nil]
  | cons c rest =>
      have hopen := (hio c List.mem_cons_self).1
      rw [hp] at hopen
      cases hopen

end Works

-- ============================================================ the owner

/-- What is left of an act, if it pauses. -/
def Progress.pending? : Progress → Option Pending
  | .paused p => some p
  | .done _ => none

/-- A session in the hands of its owner, with the act that pauses, if one
does. -/
structure Holding (β : Type) where
  line : Line (Recorded β)
  pending : Option Pending

namespace Holding

/-- What happens to a session, one thing at a time. -/
inductive Event (β : Type) where
  -- an act is begun; one that pauses is given up for it
  | act (a : Act) (now : Instant)
  -- the act that pauses is taken up again
  | resume (now : Instant)
  -- others have used the driver, and left it as they please
  | others (b : β)

/-- The session is asked to close. -/
def Event.closes : Event β → Bool
  | .act .close _ => true
  | .act _ _ | .resume _ | .others _ => false

/-- Events up to the first that closes the session, and the rest. -/
theorem exists_before_close (es : List (Event β)) :
    (∀ e ∈ es.takeWhile (!·.closes), e.closes = false) ∧
      (es.any (·.closes) = false ∧ es = es.takeWhile (!·.closes) ∨
        es.any (·.closes) = true ∧
          ∃ e rest, e.closes = true ∧ es = es.takeWhile (!·.closes) ++ e :: rest) := by
  have hcalm : ∀ e ∈ es.takeWhile (!·.closes), e.closes = false := fun e he =>
    (Bool.not_eq_true' _).mp (List.all_eq_true.mp List.all_takeWhile e he)
  have hsplit := List.takeWhile_append_dropWhile (p := fun e : Event β => !e.closes) (l := es)
  refine ⟨hcalm, ?_⟩
  cases hrest : es.dropWhile (!·.closes) with
  | nil =>
      rw [hrest, List.append_nil] at hsplit
      refine .inl ⟨List.any_eq_false.mpr fun e he => ?_, hsplit.symm⟩
      rw [← hsplit] at he
      exact Bool.eq_false_iff.mp (hcalm e he)
  | cons e rest =>
      rw [hrest] at hsplit
      have he : e.closes = true := by
        have hhead := List.head?_dropWhile_not (fun e : Event β => !e.closes) es
        rw [hrest] at hhead
        exact (Bool.not_eq_false' _).mp hhead
      refine .inr ⟨List.any_eq_true.mpr ⟨e, ?_, he⟩, e, rest, he, hsplit.symm⟩
      rw [← hsplit]
      exact List.mem_append_right _ List.mem_cons_self

/-- A session just opened. -/
def opened (s : Session) (r : Recorded β) : Holding β := ⟨(s, r), none⟩

/-- What its driver has seen of the session so far. -/
def calls (h : Holding β) : List RawCall := h.line.2.calls

variable [RawBus β]

/-- The session dropped: what is left to do is to close it. -/
def dropped (h : Holding β) : Recorded β := (h.line.1.close h.line.2).2

/-- The session after a part of an act. -/
def afterPart (x : StateM (Line (Recorded β)) Progress) (l : Line (Recorded β)) : Holding β :=
  ⟨(x.run l).2, (x.run l).1.pending?⟩

def step (h : Holding β) : Event β → Holding β
  | .act a now => afterPart (a.start now) h.line
  | .resume now =>
    match h.pending with
    | some p => afterPart (Act.resume p now) h.line
    | none => h
  | .others b => { h with line := (h.line.1, { h.line.2 with bus := b }) }

/-- The session after all that has happened to it. -/
def run (h : Holding β) (es : List (Event β)) : Holding β := es.foldl step h

variable {h : Holding β} {e : Event β} {es : List (Event β)}

theorem run_append (h : Holding β) (es fs : List (Event β)) :
    h.run (es ++ fs) = (h.run es).run fs := List.foldl_append

/-- Whatever happens to a session that is not asked to close. -/
theorem works_step (h : Holding β) (he : e.closes = false) : Works h.line (h.step e).line := by
  cases e with
  | act a now =>
      refine Works.stepwise.start (fun hclose => ?_) now h.line
      subst hclose
      cases he
  | resume now =>
      unfold step
      cases h.pending with
      | none => exact .refl _
      | some p => exact Works.stepwise.resume p now h.line
  | others b => exact ⟨rfl, rfl, [], (List.append_nil _).symm, nofun⟩

theorem works_run (h : Holding β) (hes : ∀ e ∈ es, e.closes = false) :
    Works h.line (h.run es).line := by
  induction es generalizing h with
  | nil => exact .refl _
  | cons e es ih =>
      have hfirst := h.works_step (hes e List.mem_cons_self)
      exact hfirst.trans (ih (h.step e) fun f hf => hes f (List.mem_cons_of_mem e hf))

/-- A session that is asked to close. -/
theorem line_of_closes (h : Holding β) (he : e.closes = true) :
    (h.step e).line = h.line.1.close h.line.2 := by
  cases e with
  | act a now =>
      cases a with
      | close => rfl
      | _ => cases he
  | _ => cases he

/-- A closed session is left as it is by closing it again. -/
theorem close_of_closed {s : Session} (hs : s.closed = true) (b : Recorded β) :
    s.close b = (s, b) := by
  unfold Session.close
  rw [if_pos hs]

/-- An open session that is closed takes its descriptor offline. -/
theorem close_of_open {s : Session} (hs : s.closed = false) (b : Recorded β) :
    (s.close b).1.closed = true ∧
      (s.close b).2.calls = b.calls ++ [.takeOffline s.descriptor 0] := by
  unfold Session.close
  rw [if_neg (Bool.eq_false_iff.mp hs)]
  exact ⟨rfl, b.calls_note _ _ none⟩

/-- A session that has been closed makes no calls any more. -/
theorem calls_run_of_closed (hc : h.line.1.closed = true) (es : List (Event β)) :
    (h.run es).line.1.closed = true ∧ (h.run es).calls = h.calls := by
  induction es generalizing h with
  | nil => exact ⟨hc, rfl⟩
  | cons e es ih =>
      have hstep : (h.step e).line.1.closed = true ∧ (h.step e).calls = h.calls := by
        cases he : e.closes with
        | false =>
            have hw := h.works_step he
            exact ⟨hw.closed.trans hc, hw.silent hc⟩
        | true =>
            have hline : (h.step e).line = h.line :=
              (h.line_of_closes he).trans (close_of_closed hc _)
            exact ⟨(congrArg (·.1.closed) hline).trans hc, congrArg (·.2.calls) hline⟩
      obtain ⟨hclosed, hcalls⟩ := ih hstep.1
      exact ⟨hclosed, hcalls.trans hstep.2⟩

/-- The drop of a session that has been closed makes no call. -/
theorem calls_dropped_of_closed (hc : h.line.1.closed = true) : h.dropped.calls = h.calls :=
  congrArg (·.2.calls) (close_of_closed hc h.line.2)

/-- The first close of an open session, and then whatever else happens to
it. -/
theorem calls_run_of_closes (hopen : h.line.1.closed = false) (he : e.closes = true)
    (rest : List (Event β)) :
    (h.run (e :: rest)).line.1.closed = true ∧
      (h.run (e :: rest)).calls = h.calls ++ [.takeOffline h.line.1.descriptor 0] := by
  obtain ⟨hclosed, hoff⟩ := close_of_open hopen h.line.2
  have hline := h.line_of_closes he
  obtain ⟨hend, hlast⟩ := calls_run_of_closed ((congrArg (·.1.closed) hline).trans hclosed) rest
  exact ⟨hend, hlast.trans ((congrArg (·.2.calls) hline).trans hoff)⟩

/-- What becomes of an open session: work up to the first close, then the
call that takes the descriptor offline, then nothing; and where there is no
close, the drop makes that call. -/
theorem calls_run (h : Holding β) (hopen : h.line.1.closed = false) (es : List (Event β)) :
    ∃ io : List RawCall, (∀ c ∈ io, c.isWorkOn h.line.1.descriptor = true) ∧
      (h.run (es.takeWhile (!·.closes))).calls = h.calls ++ io ∧
      (h.run es).calls = h.calls ++ io ++
        (if es.any (·.closes) then [.takeOffline h.line.1.descriptor 0] else []) ∧
      (h.run es).dropped.calls = h.calls ++ io ++ [.takeOffline h.line.1.descriptor 0] := by
  obtain ⟨hcalm, hcases⟩ := exists_before_close es
  generalize es.takeWhile (!·.closes) = before at hcalm hcases ⊢
  have hw := h.works_run hcalm
  obtain ⟨io, hcalls, hio⟩ := hw.made
  have hstill : (h.run before).line.1.closed = false := hw.closed.trans hopen
  refine ⟨io, fun c hc => (hio c hc).2, hcalls, ?_⟩
  rcases hcases with ⟨hnone, rfl⟩ | ⟨hsome, e, rest, he, rfl⟩
  · obtain ⟨-, hoff⟩ := close_of_open hstill (h.run es).line.2
    rw [hw.descriptor, hcalls] at hoff
    rw [hnone]
    exact ⟨hcalls.trans (List.append_nil _).symm, hoff⟩
  · obtain ⟨hclosed, hall⟩ := calls_run_of_closes hstill he rest
    rw [hw.descriptor, show (h.run before).calls = h.calls ++ io from hcalls,
      ← run_append] at hall
    rw [← run_append] at hclosed
    rw [hsome, if_pos rfl]
    exact ⟨hall, (calls_dropped_of_closed hclosed).trans hall⟩

end Holding

-- ============================================================= the life

namespace Session

variable [RawBus β]

/-- The raw calls of a session, whatever its driver answers and whatever
happens to it. A refused open is the only call. A granted one is followed by
work on the descriptor, and then by one call that takes it offline: the
first close makes it, or else the drop, and there is none after it. -/
theorem raw_call_discipline (b : β) (a : Address) (o : SessionOptions) :
    ((RawBus.openDevice b (request a o)).2 < 0 →
      ∃ r, (connect a o).run (Recorded.fresh b) =
          (.error (.openRefused a o.board (RawBus.openDevice b (request a o)).2), r) ∧
        r.calls = [.openDevice (request a o)]) ∧
    (0 ≤ (RawBus.openDevice b (request a o)).2 →
      ∃ s r, (connect a o).run (Recorded.fresh b) = (.ok s, r) ∧
        s.descriptor = (RawBus.openDevice b (request a o)).2 ∧
        ∀ es : List (Holding.Event β), ∃ io : List RawCall,
          (∀ c ∈ io, c.isWorkOn s.descriptor = true) ∧
          ((Holding.opened s r).run (es.takeWhile (!·.closes))).calls =
            .openDevice (request a o) :: io ∧
          ((Holding.opened s r).run es).calls =
            .openDevice (request a o) :: io ++
              (if es.any (·.closes) then [.takeOffline s.descriptor 0] else []) ∧
          ((Holding.opened s r).run es).dropped.calls =
            .openDevice (request a o) :: io ++ [.takeOffline s.descriptor 0]) := by
  have hconnect := run_connect a o (Recorded.fresh b)
  have hopen : RawBus.openDevice (Recorded.fresh b) (request a o) =
      ((Recorded.fresh b).note (RawBus.openDevice b (request a o)).1 (.openDevice (request a o))
          (some (RawBus.openDevice b (request a o)).2),
        (RawBus.openDevice b (request a o)).2) := rfl
  have hfirst : ((Recorded.fresh b).note (RawBus.openDevice b (request a o)).1
      (.openDevice (request a o)) (some (RawBus.openDevice b (request a o)).2)).calls =
        [.openDevice (request a o)] := rfl
  rw [hopen] at hconnect
  refine ⟨fun hd => ?_, fun hd => ?_⟩
  · exact ⟨_, hconnect.trans (if_pos hd), hfirst⟩
  · have hnot : ¬(RawBus.openDevice b (request a o)).2 < 0 := Int.not_lt.mpr hd
    refine ⟨_, _, hconnect.trans (if_neg hnot), rfl, fun es => ?_⟩
    exact (Holding.opened _ _).calls_run rfl es

/-- A driver that refuses the open with a descriptor of -7, and one that
grants it and then has each call time out. -/
def refusing : Scripted := .ofReplies [{ ScriptedReply.standard with descriptor := -7 }]

def timingOut : Scripted :=
  .ofReplies (.standard ::
    List.replicate 5 { ScriptedReply.standard with registers := ⟨⟨StatusWord.timo⟩, 6, 0⟩ })

/-- The session is closed twice and used in between and afterwards. -/
theorem raw_call_discipline_closed_twice :
    (∃ r, (connect ⟨5, 0⟩ .standard).run (Recorded.fresh refusing) =
        (.error (.openRefused ⟨5, 0⟩ 0 (-7)), r) ∧
      r.calls = [.openDevice (request ⟨5, 0⟩ .standard)]) ∧
    ∃ s r, (connect ⟨5, 0⟩ .standard).run (Recorded.fresh timingOut) = (.ok s, r) ∧
      s.descriptor = 1 ∧ ∃ io : List RawCall, (∀ c ∈ io, c.isWorkOn 1 = true) ∧
        ((Holding.opened s r).run [.act (.write "*RST") 0, .others timingOut, .act .read 0,
          .act .close 0, .act .clear 0, .act .close 0]).dropped.calls =
            .openDevice (request ⟨5, 0⟩ .standard) :: io ++ [.takeOffline 1 0] := by
  refine ⟨(raw_call_discipline refusing ⟨5, 0⟩ .standard).1 (by decide), ?_⟩
  obtain ⟨s, r, hconnect, hd, hlife⟩ :=
    (raw_call_discipline timingOut ⟨5, 0⟩ .standard).2 (by decide)
  obtain ⟨io, hio, -, -, hdropped⟩ := hlife [.act (.write "*RST") 0, .others timingOut,
    .act .read 0, .act .close 0, .act .clear 0, .act .close 0]
  rw [show s.descriptor = 1 from hd] at hio hdropped
  exact ⟨s, r, hconnect, hd, io, hio, hdropped⟩

end Session

end InstrumentBus
