/-
An induction over what an act does.

Whatever an act does, it does by raw calls on the descriptor of its own
session, one after the other, and only while the session is open; it never
writes nothing, and it never reads into a buffer that holds nothing. So a
relation between the line before and the line after holds of every act as
soon as it holds of each such call, of doing nothing, of one thing after
another, and of a terminator that is set. `Stepwise` says that of a
relation. Closing the session is the one act that is not covered, since
that is where relations differ most; a relation that holds of it as well
holds of whole programs.

What a driver answers plays no part here: an operation may stop early or
go on, and every one of its parts is related all the same. In particular
the chunks of a message are covered whatever their number is.
-/
import InstrumentBus.Proofs.Session.Exchange

namespace InstrumentBus

variable {β α γ : Type}

/-- A relation between two states of a line that holds of whatever an open
session does raw call by raw call. -/
structure Stepwise [RawBus β] (R : Line β → Line β → Prop) : Prop where
  refl : ∀ p, R p p
  trans : ∀ {p q r}, R p q → R q r → R p r
  write : ∀ (s : Session) (b : β) (data : List UInt8), s.closed = false → data ≠ [] →
    R (s, b) (s, RawBus.write b s.descriptor data)
  read : ∀ (s : Session) (b : β) (buffer : List UInt8), s.closed = false → buffer ≠ [] →
    R (s, b) (s, (RawBus.read b s.descriptor buffer).1)
  clear : ∀ (s : Session) (b : β), s.closed = false →
    R (s, b) (s, RawBus.clear b s.descriptor)
  serialPoll : ∀ (s : Session) (b : β), s.closed = false →
    R (s, b) (s, (RawBus.serialPoll b s.descriptor).1)
  setTerminator : ∀ (s : Session) (b : β) (t : Terminator), R (s, b) (s.setTerminator t, b)

variable {R : Line β → Line β → Prop}

/-- An exchange on a session keeps to a relation, whatever the driver. -/
def Session.Along (R : Line β → Line β → Prop) (s : Session) (x : Exchange β α) : Prop :=
  ∀ b, R (s, b) (s, (x.run b).2)

/-- A part of a program keeps to a relation. -/
def Along (R : Line β → Line β → Prop) (x : StateM (Line β) α) : Prop := ∀ p, R p (x.run p).2

/-- Each operation looks at a condition before it goes on, and does nothing
where that turns it away. -/
theorem related_ite {p : Line β} {s : Session} {c : Prop} [Decidable c] {x y : Except Failure α × β}
    (hx : c → R p (s, x.2)) (hy : ¬c → R p (s, y.2)) : R p (s, (if c then x else y).2) := by
  by_cases hc : c
  · rw [if_pos hc]
    exact hx hc
  · rw [if_neg hc]
    exact hy hc

theorem Session.Along.map {s : Session} {x : Exchange β α} (f : α → γ) (hx : s.Along R x) :
    s.Along R (f <$> x) := by
  intro b
  rw [Exchange.run_map]
  exact hx b

theorem Along.exchange {x : Session → Exchange β Reply} (hx : ∀ s : Session, s.Along R (x s)) :
    Along R (Act.exchange x) := fun p => hx p.1 p.2

/-- What is sent for a command is never nothing. -/
theorem Session.payload_ne_nil (s : Session) {command : String} (h : command ≠ "") :
    s.payload command ≠ [] := by
  refine List.append_ne_nil_of_left_ne_nil (fun hnil => h ?_) _
  have hlist : command.toList = [] := List.map_eq_nil_iff.mp hnil
  exact String.toList_eq_nil_iff.mp hlist

variable [RawBus β]

namespace Stepwise

-- ======================================================= the operations

section Operations

variable (h : Stepwise R) (s : Session)
include h

theorem along_write (command : String) : s.Along R (s.write command) := by
  intro b
  rw [Session.run_write]
  refine related_ite (fun _ => h.refl _) fun hs => related_ite (fun _ => h.refl _) fun hc => ?_
  exact h.write s b _ (Bool.eq_false_iff.mpr hs) (s.payload_ne_nil hc)

theorem along_writeBytes (data : List UInt8) : s.Along R (s.writeBytes data) := by
  intro b
  rw [Session.run_writeBytes]
  refine related_ite (fun _ => h.refl _) fun hs => related_ite (fun _ => h.refl _) fun hd => ?_
  exact h.write s b data (Bool.eq_false_iff.mpr hs) hd

theorem along_readBytes (capacity : Nat) : s.Along R (s.readBytes capacity) := by
  intro b
  rw [Session.run_readBytes]
  refine related_ite (fun _ => h.refl _) fun hs => related_ite (fun _ => h.refl _) fun hc => ?_
  refine h.read s b _ (Bool.eq_false_iff.mpr hs) fun hnil => hc ?_
  rw [← List.length_replicate (n := capacity) (a := (0 : UInt8)), hnil]
  rfl

/-- The chunks of a message, one by one: a buffer keeps its length, so the
next chunk has room as well. -/
theorem along_chunks (hs : s.closed = false) (fuel : Nat) {buffer : List UInt8}
    (hb : buffer ≠ []) : s.Along R (s.chunks fuel buffer) := by
  induction fuel generalizing buffer with
  | zero => exact fun b => h.refl _
  | succ fuel ih =>
      intro b
      have hread := h.read s b buffer hs hb
      cases hv : Session.verdict (RawBus.read b s.descriptor buffer).1 "Read" none with
      | error e =>
          rw [Session.run_chunks_error fuel hv]
          exact hread
      | ok status =>
          have hb' : (RawBus.read b s.descriptor buffer).2 ≠ [] := by
            rw [← List.length_pos_iff, RawBus.length_read, List.length_pos_iff]
            exact hb
          rw [Session.run_chunks_ok fuel hv]
          exact related_ite (fun _ => hread) fun _ => h.trans hread (ih hb' _)

theorem along_read : s.Along R s.read := by
  intro b
  rw [Session.run_read]
  refine related_ite (fun _ => h.refl _) fun hs => ?_
  exact h.along_chunks s (Bool.eq_false_iff.mpr hs) _ (List.cons_ne_nil _ _) b

theorem along_readAs (kind : ResponseKind) : s.Along R (s.readAs kind) := by
  intro b
  rw [Session.run_readAs]
  exact h.along_read s b

theorem along_query (command : String) (kind : ResponseKind) :
    s.Along R (s.query command kind) := by
  intro b
  have hw := h.along_write s command b
  cases hr : (s.write command).run b with
  | mk r b' =>
      rw [hr] at hw
      cases r with
      | ok _ =>
          rw [Session.run_query_ok hr]
          exact h.trans hw (h.along_readAs s kind b')
      | error e =>
          rw [Session.run_query_error hr]
          exact hw

theorem along_serialPoll : s.Along R s.serialPoll := by
  intro b
  rw [Session.run_serialPoll]
  exact related_ite (fun _ => h.refl _) fun hs => h.serialPoll s b (Bool.eq_false_iff.mpr hs)

theorem along_condition (c : Condition) : s.Along R (c.poll s) := by
  cases c with
  | message => exact (h.along_serialPoll s).map _
  | service => exact (h.along_serialPoll s).map _

theorem along_clear : s.Along R s.clear := by
  intro b
  rw [Session.run_clear]
  exact related_ite (fun _ => h.refl _) fun hs => h.clear s b (Bool.eq_false_iff.mpr hs)

end Operations

-- ============================================================= the acts

section Acts

variable (h : Stepwise R)
include h

theorem pure (a : α) : Along R (Pure.pure a : StateM (Line β) α) := fun p => h.refl p

theorem bind {x : StateM (Line β) α} {f : α → StateM (Line β) γ} (hx : Along R x)
    (hf : ∀ a, Along R (f a)) : Along R (x >>= f) := fun p => h.trans (hx p) (hf _ _)

theorem conclude (thenRead : Option ResponseKind) : Along R (Act.conclude (β := β) thenRead) := by
  cases thenRead with
  | none => exact h.pure _
  | some kind => exact .exchange fun s => (h.along_readAs s kind).map _

theorem afterPoll (w : Wait) (thenRead : Option ResponseKind) (v : Wait.Verdict) :
    Along R (Act.afterPoll (β := β) w thenRead v) := by
  cases v with
  | done result =>
      cases result with
      | ok _ => exact h.conclude thenRead
      | error e => exact h.pure _
  | again wake => exact h.pure _

/-- One poll of a wait; one that has been cancelled makes none. -/
theorem poll (w : Wait) (now : Instant) (s : Session) (b : β) :
    R (s, b) (s, ((w.poll s now).run b).2) := by
  rw [Wait.run_poll]
  split
  · exact h.refl _
  · exact h.along_condition s w.condition b

theorem pollOnce (w : Wait) (now : Instant) (thenRead : Option ResponseKind) :
    Along R (Act.pollOnce (β := β) w now thenRead) := by
  intro p
  rw [Act.run_pollOnce]
  exact h.trans (h.poll w now p.1 p.2) (h.afterPoll w thenRead _ _)

theorem startWait (c : Condition) (p : Pace) (now : Instant) (thenRead : Option ResponseKind) :
    Along R (Act.startWait (β := β) c p now thenRead) := by
  unfold Act.startWait
  cases Wait.begin? c p now with
  | ok w => exact h.pollOnce w now thenRead
  | error e => exact h.pure _

/-- An act that closes nothing, from its beginning to where it pauses or is
over. -/
theorem start {a : Act} (ha : a ≠ .close) (now : Instant) : Along R (a.start (β := β) now) := by
  cases a with
  | write command => exact .exchange fun s => (h.along_write s command).map _
  | writeBytes data => exact .exchange fun s => (h.along_writeBytes s data).map _
  | readBytes capacity => exact .exchange fun s => (h.along_readBytes s capacity).map _
  | read => exact .exchange fun s => (h.along_read s).map _
  | readAs kind => exact .exchange fun s => (h.along_readAs s kind).map _
  | query command kind => exact .exchange fun s => (h.along_query s command kind).map _
  | queryAsync command kind pace =>
      refine h.bind (.exchange fun s => (h.along_write s command).map _) fun r => ?_
      cases r with
      | done result =>
          cases result with
          | ok _ => exact h.startWait .message pace now (some kind)
          | error e => exact h.pure _
      | paused pending => exact h.pure _
  | serialPoll => exact .exchange fun s => (h.along_serialPoll s).map _
  | messageAvailable => exact .exchange fun s => (h.along_condition s .message).map _
  | serviceRequested => exact .exchange fun s => (h.along_condition s .service).map _
  | await condition pace => exact h.startWait condition pace now none
  | clear => exact .exchange fun s => (h.along_clear s).map _
  | close => exact absurd rfl ha
  | version => exact fun p => h.refl p
  | setTerminator t => exact fun p => h.setTerminator p.1 p.2 t
  | info => exact fun p => h.refl p
  | label => exact fun p => h.refl p
  | sleep d =>
      show Along R (if d.isZero then Pure.pure _ else Pure.pure _)
      split
      · exact h.pure _
      · exact h.pure _
  | fail text => exact h.pure _

/-- An act that pauses, taken up again. -/
theorem resume (p : Pending) (now : Instant) : Along R (Act.resume (β := β) p now) := by
  cases p with
  | sleep wake => exact h.pure _
  | await w wake thenRead => exact h.pollOnce (w.resumed now) now thenRead

end Acts

-- ========================================================= the programs

section Programs

variable (h : Stepwise R) (hclose : ∀ (s : Session) (b : β), R (s, b) (s.close b))
include h hclose

theorem startAny (a : Act) (now : Instant) : Along R (a.start (β := β) now) := by
  by_cases ha : a = .close
  · subst ha
    exact fun p => hclose p.1 p.2
  · exact h.start ha now

/-- A program, from its beginning to where it pauses or is over. -/
theorem run (now : Instant) (p : Program) : Along R (p.run (β := β) now) := by
  induction p with
  | nil => exact h.pure _
  | cons a rest ih =>
      refine h.bind (h.startAny hclose a now) fun r => ?_
      cases r with
      | done result =>
          cases result with
          | ok r => exact h.bind ih fun _ => h.pure _
          | error e => exact h.pure _
      | paused pending => exact h.pure _

/-- A program that pauses, taken up again. -/
theorem resumeProgram (now : Instant) (pending : Pending) (rest : Program) :
    Along R (Program.resume (β := β) now pending rest) := by
  refine h.bind (h.resume pending now) fun r => ?_
  cases r with
  | done result =>
      cases result with
      | ok r => exact h.bind (h.run hclose now rest) fun _ => h.pure _
      | error e => exact h.pure _
  | paused pending => exact h.pure _

end Programs

end Stepwise

end InstrumentBus
