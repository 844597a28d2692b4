/-
One session on two buses.

What a session does depends on the instrument that its descriptor leads
to, and on nothing else that a bus holds: not on the other instruments,
not on the other descriptors, and not on what the registers held before,
since an operation looks at them only after a call of its own. So the
same session on another bus, under another descriptor that leads to an
instrument in the same state, gives the same answers, makes the same
calls, and finds the same registers after each.

`Twins` is the relation between two lines that this comes down to. It is
kept by every raw call, so by every operation, act and program. Reading
is the one place where the two sides do not go through the same motions:
how many chunks a read may ask for is computed from all that the bus has
pending, which is not the same on both. Neither bound is ever reached, so
the lemma about `chunks` is about any two bounds that are large enough.
-/
import Mathlib.Data.List.Forall2
import InstrumentBus.Proofs.Session.Conduct

namespace InstrumentBus

-- ================================================= descriptors renamed

/-- The session on another descriptor. -/
def Session.on (s : Session) (d : Int) : Session := { s with descriptor := d }

@[simp] theorem Session.descriptor_on (s : Session) (d : Int) : (s.on d).descriptor = d := rfl

/-- A call made on another descriptor. -/
def RawCall.renamed (name : Int → Int) : RawCall → RawCall
  | .takeOffline d value => .takeOffline (name d) value
  | .write d data => .write (name d) data
  | .read d capacity => .read (name d) capacity
  | .clear d => .clear (name d)
  | .serialPoll d => .serialPoll (name d)
  | .openDevice request => .openDevice request
  | .discover board probes capacity => .discover board probes capacity

/-- A record with its descriptors renamed. The registers are what they
were. -/
def RawRecord.renamed (name : Int → Int) (r : RawRecord) : RawRecord :=
  ⟨r.call.renamed name, r.answer.map name, r.registers⟩

/-- The session that an answer shows, if it shows one. -/
def Reply.session? : Reply → Option Session
  | .session s => some s
  | _ => none

/-- The same answer, but for the descriptor where it shows one. -/
inductive Reply.Alike (R : Int → Int → Prop) : Reply → Reply → Prop where
  | same (r : Reply) (h : r.session? = none) : Alike R r r
  | session (s : Session) {d : Int} (h : R s.descriptor d) :
      Alike R (.session s) (.session (s.on d))
  | label (s : Session) {d : Int} (h : R s.descriptor d) :
      Alike R (.text s.label) (.text (s.on d).label)

/-- The same progress, but for descriptors. -/
inductive Progress.Alike (R : Int → Int → Prop) : Progress → Progress → Prop where
  | done {r r' : Reply} (h : r.Alike R r') : Alike R (.done (.ok r)) (.done (.ok r'))
  | failed (e : Failure) : Alike R (.done (.error e)) (.done (.error e))
  | paused (pending : Pending) : Alike R (.paused pending) (.paused pending)

/-- The same advance, but for descriptors. -/
inductive Advance.Alike (R : Int → Int → Prop) : Advance → Advance → Prop where
  | done {l l' : List Reply} (h : List.Forall₂ (Reply.Alike R) l l')
      (result : Except Failure Unit) :
      Alike R (.done l result) (.done l' result)
  | paused {l l' : List Reply} (h : List.Forall₂ (Reply.Alike R) l l') (pending : Pending)
      (rest : Program) : Alike R (.paused l pending rest) (.paused l' pending rest)

theorem Reply.Alike.mono {R R' : Int → Int → Prop} {r r' : Reply} (h : r.Alike R r')
    (hR : ∀ d d', R d d' → R' d d') : r.Alike R' r' := by
  cases h with
  | same r h => exact .same r h
  | session s h => exact .session s (hR _ _ h)
  | label s h => exact .label s (hR _ _ h)

theorem Advance.Alike.after {R : Int → Int → Prop} {a a' : Advance} {r r' : Reply}
    (h : a.Alike R a') (hr : r.Alike R r') : (a.after r).Alike R (a'.after r') := by
  cases h with
  | done hl result => exact .done (.cons hr hl) result
  | paused hl pending rest => exact .paused (.cons hr hl) pending rest

-- ===================================================== the two buses

namespace Simulated

/-- The descriptor `d` leads on one bus where `d'` leads on the other, to
an instrument in the same state, and there are no faults in the way. -/
structure Parallel (d d' : Int) (b b' : Simulated) : Prop where
  faults : b.faults = [] ∧ b'.faults = []
  link : b'.link? d' = b.link? d
  instrument : ∀ l, b.link? d = some l → b'.instrument? l.address = b.instrument? l.address

variable {d d' : Int} {b b' : Simulated}

/-- A call gets as far on one bus as it does on the other. -/
theorem Parallel.access (h : Parallel d d' b b') :
    (∃ code, b.access d = .refused (b.refuse code) ∧ b'.access d' = .refused (b'.refuse code)) ∨
      ∃ a i, b.access d = .reached a i ∧ b'.access d' = .reached a i := by
  obtain ⟨hf, hf'⟩ := h.faults
  have hreach : b'.reach d' = b.reach d := by
    have hl := h.link
    unfold link? at hl
    unfold reach
    rw [hl]
    cases hd : Keyed.get? b.links d with
    | none => rfl
    | some l =>
        have hi := h.instrument l hd
        unfold instrument? at hi
        simp only [hi]
  unfold Simulated.access
  rw [hf, hf', hreach]
  cases b.reach d with
  | error code => exact .inl ⟨code, rfl, rfl⟩
  | ok p => exact .inr ⟨p.1, p.2, rfl, rfl⟩

/-- Two buses on which the registers have changed. -/
theorem Parallel.registers (h : Parallel d d' b b') (r r' : Registers) :
    Parallel d d' { b with registers := r } { b' with registers := r' } :=
  ⟨h.faults, h.link, h.instrument⟩

/-- Two buses on which the same has happened to the instruments. -/
theorem Parallel.modify (h : Parallel d d' b b') (a : Address) (f : Instrument → Instrument) :
    Parallel d d' (b.modifyInstrument a f) (b'.modifyInstrument a f) := by
  refine ⟨h.faults, h.link, fun l hl => ?_⟩
  rw [instrument?_modify, instrument?_modify, h.instrument l hl]

/-- The same call on both buses brings the same. -/
theorem Parallel.calls {δ : Type} {call : Int → Simulated → Simulated × δ} {nothing : δ}
    {deed : Instrument → Deed δ} (h : Parallel d d' b b') (hc : Calls call nothing deed) :
    Parallel d d' (call d b).1 (call d' b').1 ∧
      (call d' b').1.registers = (call d b).1.registers ∧ (call d' b').2 = (call d b).2 := by
  rcases h.access with ⟨code, hb, hb'⟩ | ⟨a, i, hb, hb'⟩
  · rw [hc.turned (.inr hb), hc.turned (.inr hb')]
    exact ⟨h.registers _ _, rfl, rfl⟩
  · rw [hc.reached hb, hc.reached hb']
    exact ⟨(h.modify a _).registers _ _, rfl, rfl⟩

theorem Parallel.takeOffline (h : Parallel d d' b b') :
    Parallel d d' (b.takeOffline d 0) (b'.takeOffline d' 0) ∧
      (b'.takeOffline d' 0).registers = (b.takeOffline d 0).registers := by
  obtain ⟨-, hinst, hfaults, -⟩ := takeOffline_frame b d 0
  obtain ⟨-, hinst', hfaults', -⟩ := takeOffline_frame b' d' 0
  have hlink : (b'.takeOffline d' 0).link? d' = (b.takeOffline d 0).link? d := by
    rw [link?_takeOffline, link?_takeOffline, if_pos rfl, if_pos rfl, h.link]
  refine ⟨⟨⟨hfaults.trans h.faults.1, hfaults'.trans h.faults.2⟩, hlink, fun l hl => ?_⟩, ?_⟩
  · rw [link?_takeOffline, if_pos rfl] at hl
    obtain ⟨l₀, hl₀, hl⟩ := Option.map_eq_some_iff.mp hl
    subst hl
    unfold instrument?
    rw [hinst, hinst']
    exact h.instrument l₀ hl₀
  · have hl := h.link
    unfold link? at hl
    unfold Simulated.takeOffline
    simp only [hl]
    cases Keyed.get? b.links d with
    | none => rfl
    | some l => rfl

end Simulated

-- ===================================================== the two lines

/-- Two lines with the same session, on `d` here and on `d'` there, and
with the same done on them since the records `T` and `T'`. -/
structure Twins (d d' : Int) (T T' : List RawRecord) (p p' : Line (Recorded Simulated)) : Prop where
  own : p.1.descriptor = d
  session : p'.1 = p.1.on d'
  bus : p.2.bus.Parallel d d' p'.2.bus
  made : ∃ new, p.2.trace = new ++ T ∧ p'.2.trace = new.map (·.renamed fun _ => d') ++ T'

section Operations

variable {α γ : Type} {s : Session} {d' : Int} {T T' : List RawRecord} {b b' : Recorded Simulated}

/-- The same call on both sides. -/
theorem Twins.note (h : Twins s.descriptor d' T T' (s, b) (s.on d', b')) {bus bus' : Simulated}
    (call : RawCall) (hb : bus.Parallel s.descriptor d' bus')
    (hr : bus'.registers = bus.registers) :
    Twins s.descriptor d' T T' (s, b.note bus call none)
      (s.on d', b'.note bus' (call.renamed fun _ => d') none) := by
  obtain ⟨new, hnew, hnew'⟩ := h.made
  refine ⟨rfl, rfl, hb, ⟨call, none, bus.registers⟩ :: new, ?_, ?_⟩
  · exact congrArg _ hnew
  · have hregisters : RawBus.registers bus' = bus.registers := hr
    unfold Recorded.note
    rw [hregisters]
    exact congrArg _ hnew'

/-- The registers say the same on both sides. -/
theorem verdict_eq (hr : RawBus.registers b' = RawBus.registers b) (operation : String)
    (command : Option (List UInt8)) :
    Session.verdict b' operation command = Session.verdict b operation command := by
  unfold Session.verdict
  rw [hr]
  rfl

/-- The same answer on both sides, and twins. -/
structure Echoes (s : Session) (d' : Int) (T T' : List RawRecord)
    (r r' : Except Failure α × Recorded Simulated) : Prop where
  answer : r'.1 = r.1
  twins : Twins s.descriptor d' T T' (s, r.2) (s.on d', r'.2)

namespace Echoes

variable {x x' y y' : Except Failure α × Recorded Simulated}

/-- Nothing is done. -/
theorem still (h : Twins s.descriptor d' T T' (s, b) (s.on d', b')) (r : Except Failure α) :
    Echoes s d' T T' (r, b) (r, b') := ⟨rfl, h⟩

theorem ite {c : Prop} [Decidable c] (hx : Echoes s d' T T' x x') (hy : Echoes s d' T T' y y') :
    Echoes s d' T T' (if c then x else y) (if c then x' else y') := by
  split
  · exact hx
  · exact hy

theorem map (f : α → γ) (h : Echoes s d' T T' x x') :
    Echoes s d' T T' (x.1.map f, x.2) (x'.1.map f, x'.2) :=
  ⟨congrArg (Except.map f) h.answer, h.twins⟩

/-- The registers are looked at after a call. -/
theorem checked (h : Twins s.descriptor d' T T' (s, b) (s.on d', b'))
    (hr : RawBus.registers b' = RawBus.registers b) (operation : String)
    (command : Option (List UInt8)) {f f' : StatusWord → α} (hf : f' = f) :
    Echoes s d' T T' ((Session.verdict b operation command).map f, b)
      ((Session.verdict b' operation command).map f', b') := by
  refine ⟨?_, h⟩
  rw [hf, verdict_eq hr]

end Echoes

namespace Session

/-- An operation gives the same answer on both sides, and leaves twins. -/
def Echoed (s : Session) (x : Session → Exchange (Recorded Simulated) α) : Prop :=
  ∀ d' T T' b b', Twins s.descriptor d' T T' (s, b) (s.on d', b') →
    Echoes s d' T T' ((x s).run b) ((x (s.on d')).run b')

variable (s)

theorem echoed_map {x : Session → Exchange (Recorded Simulated) α} (f : α → γ)
    (h : s.Echoed x) : s.Echoed fun s => f <$> x s := by
  intro d' T T' b b' ht
  simp only [Exchange.run_map]
  exact (h d' T T' b b' ht).map f

theorem echoed_write (command : String) : s.Echoed fun s => s.write command := by
  intro d' T T' b b' ht
  obtain ⟨hb, hr, -⟩ := ht.bus.calls (Simulated.calls_write (s.payload command))
  simp only [run_write]
  exact (Echoes.still ht _).ite ((Echoes.still ht _).ite (.checked (ht.note _ hb hr) hr _ _ rfl))

theorem echoed_writeBytes (data : List UInt8) : s.Echoed fun s => s.writeBytes data := by
  intro d' T T' b b' ht
  obtain ⟨hb, hr, -⟩ := ht.bus.calls (Simulated.calls_write data)
  simp only [run_writeBytes]
  exact (Echoes.still ht _).ite ((Echoes.still ht _).ite (.checked (ht.note _ hb hr) hr _ _ rfl))

theorem echoed_clear : s.Echoed fun s => s.clear := by
  intro d' T T' b b' ht
  obtain ⟨hb, hr, -⟩ := ht.bus.calls Simulated.calls_clear
  simp only [run_clear]
  exact (Echoes.still ht _).ite (.checked (ht.note _ hb hr) hr _ _ rfl)

theorem echoed_serialPoll : s.Echoed fun s => s.serialPoll := by
  intro d' T T' b b' ht
  obtain ⟨hb, hr, hbyte⟩ := ht.bus.calls Simulated.calls_serialPoll
  simp only [run_serialPoll]
  refine (Echoes.still ht _).ite (.checked (ht.note _ hb hr) hr _ _ (funext fun _ => ?_))
  exact congrArg StatusByte.mk hbyte

/-- A raw read on both sides. -/
theorem twins_read {s : Session} (ht : Twins s.descriptor d' T T' (s, b) (s.on d', b'))
    (buffer : List UInt8) :
    Twins s.descriptor d' T T' (s, (RawBus.read b s.descriptor buffer).1)
        (s.on d', (RawBus.read b' (s.on d').descriptor buffer).1) ∧
      RawBus.registers (RawBus.read b' (s.on d').descriptor buffer).1 =
        RawBus.registers (RawBus.read b s.descriptor buffer).1 ∧
      (RawBus.read b' (s.on d').descriptor buffer).2 = (RawBus.read b s.descriptor buffer).2 := by
  obtain ⟨hb, hr, hbuffer⟩ := ht.bus.calls (Simulated.calls_read buffer)
  exact ⟨ht.note _ hb hr, hr, hbuffer⟩

theorem echoed_readBytes (capacity : Nat) : s.Echoed fun s => s.readBytes capacity := by
  intro d' T T' b b' ht
  obtain ⟨ht', hr, hbuffer⟩ := twins_read ht (List.replicate capacity 0)
  simp only [run_readBytes]
  refine (Echoes.still ht _).ite ((Echoes.still ht _).ite (.checked ht' hr _ _ ?_))
  rw [hr, hbuffer]

/-- A chunk after which there is reason to read on has brought something,
so that less is pending. -/
theorem pending_lt {s : Session} {buffer : List UInt8} {status : StatusWord}
    (hv : verdict (RawBus.read b s.descriptor buffer).1 "Read" none = .ok status)
    (hmore : ¬ (status.ended || (RawBus.registers (RawBus.read b s.descriptor buffer).1).count == 0)
      = true) :
    RawBus.pending (RawBus.read b s.descriptor buffer).1 < RawBus.pending b := by
  apply RawBus.pending_read
  unfold verdict at hv
  simp only at hv
  split at hv
  · cases hv
  next htime =>
    split at hv
    · cases hv
    next hfail =>
      cases hv
      simp only [Bool.or_eq_true, not_or, Bool.not_eq_true] at htime hfail hmore
      simp [Registers.unfinished, Registers.failing, htime, hfail, hmore, bne]

/-- The chunks of a message, whatever bounds are put on their number. -/
theorem echoed_chunks {s : Session} (fuel fuel' : Nat) (buffer : List UInt8)
    (ht : Twins s.descriptor d' T T' (s, b) (s.on d', b')) (hf : RawBus.pending b < fuel)
    (hf' : RawBus.pending b' < fuel') :
    Echoes s d' T T' ((s.chunks fuel buffer).run b) (((s.on d').chunks fuel' buffer).run b') := by
  induction fuel generalizing fuel' buffer b b' with
  | zero => exact absurd hf (Nat.not_lt_zero _)
  | succ fuel ih =>
      obtain ⟨fuel', rfl⟩ : ∃ n, fuel' = n + 1 := ⟨fuel' - 1, by omega⟩
      obtain ⟨ht', hr, hbuffer⟩ := twins_read ht buffer
      have hv := verdict_eq hr "Read" none
      cases hs : verdict (RawBus.read b s.descriptor buffer).1 "Read" none with
      | error e =>
          rw [run_chunks_error fuel hs, run_chunks_error fuel' (hv.trans hs)]
          exact .still ht' _
      | ok status =>
          rw [run_chunks_ok fuel hs, run_chunks_ok fuel' (hv.trans hs)]
          simp only [hr, hbuffer]
          by_cases hlast : (status.ended ||
              (RawBus.registers (RawBus.read b s.descriptor buffer).1).count == 0) = true
          · rw [if_pos hlast, if_pos hlast]
            exact .still ht' _
          · rw [if_neg hlast, if_neg hlast]
            have hlt := pending_lt hs hlast
            have hlt' := pending_lt (s := s.on d') (hv.trans hs) (hr ▸ hlast)
            exact (ih fuel' (RawBus.read b s.descriptor buffer).2 ht' (by omega) (by omega)).map _

theorem echoed_read : s.Echoed fun s => s.read := by
  intro d' T T' b b' ht
  simp only [run_read]
  refine (Echoes.still ht _).ite (Echoes.map textOf ?_)
  exact echoed_chunks _ _ _ ht (Nat.lt_succ_self _) (Nat.lt_succ_self _)

theorem echoed_readAs (kind : ResponseKind) : s.Echoed fun s => s.readAs kind := by
  intro d' T T' b b' ht
  have hread := echoed_read s d' T T' b b' ht
  simp only [run_readAs]
  exact ⟨congrArg (Except.bind · fun text => Response.ofText kind text.toList) hread.answer,
    hread.twins⟩

theorem echoed_query (command : String) (kind : ResponseKind) :
    s.Echoed fun s => s.query command kind := by
  intro d' T T' b b' ht
  obtain ⟨hres, ht'⟩ := echoed_write s command d' T T' b b' ht
  rcases hw : (s.write command).run b with ⟨r, b₁⟩
  rcases hw' : ((s.on d').write command).run b' with ⟨r', b₁'⟩
  rw [hw, hw'] at hres ht'
  obtain rfl : r' = r := hres
  cases r' with
  | error e =>
      simp only [run_query_error hw, run_query_error hw']
      exact .still ht' _
  | ok _ =>
      simp only [run_query_ok hw, run_query_ok hw']
      exact echoed_readAs s kind d' T T' b₁ b₁' ht'

end Session

theorem Condition.echoed_poll (c : Condition) (s : Session) : s.Echoed fun s => c.poll s := by
  cases c with
  | message => exact s.echoed_map _ s.echoed_serialPoll
  | service => exact s.echoed_map _ s.echoed_serialPoll

/-- A session closed on both sides. -/
theorem Twins.close (h : Twins s.descriptor d' T T' (s, b) (s.on d', b')) :
    Twins s.descriptor d' T T' (s.close b) ((s.on d').close b') := by
  obtain ⟨hb, hr⟩ := h.bus.takeOffline
  have hnote := h.note (.takeOffline s.descriptor 0) hb hr
  have hclosed : (s.on d').closed = s.closed := rfl
  unfold Session.close
  rw [hclosed]
  cases s.closed with
  | true => exact h
  | false => exact ⟨rfl, rfl, hnote.bus, hnote.made⟩

end Operations

-- ================================================= acts and programs

/-- A part of a program gives the same on both sides, as far as `R` looks
at it, and leaves twins. -/
def Matched {α : Type} (d d' : Int) (R : α → α → Prop)
    (x : StateM (Line (Recorded Simulated)) α) : Prop :=
  ∀ T T' p p', Twins d d' T T' p p' →
    R (x.run p).1 (x.run p').1 ∧ Twins d d' T T' (x.run p).2 (x.run p').2

namespace Matched

variable {α γ : Type} {d d' : Int} {R : α → α → Prop} {R' : γ → γ → Prop}

/-- The descriptor on one side, and the one on the other. -/
abbrev Pair (d d' : Int) : Int → Int → Prop := fun x y => x = d ∧ y = d'

theorem pure {a : α} (h : R a a) :
    Matched d d' R (Pure.pure a : StateM (Line (Recorded Simulated)) α) := fun _ _ _ _ ht => ⟨h, ht⟩

theorem bind {x : StateM (Line (Recorded Simulated)) α}
    {f : α → StateM (Line (Recorded Simulated)) γ} (hx : Matched d d' R x)
    (hf : ∀ a a', R a a' → ∀ T T' p p', Twins d d' T T' p p' →
      R' ((f a).run p).1 ((f a').run p').1 ∧ Twins d d' T T' ((f a).run p).2 ((f a').run p').2) :
    Matched d d' R' (x >>= f) := by
  intro T T' p p' ht
  obtain ⟨hr, ht'⟩ := hx T T' p p' ht
  exact hf _ _ hr T T' _ _ ht'

/-- An operation whose answer shows no descriptor. -/
theorem exchange {x : Session → Exchange (Recorded Simulated) α} (f : α → Reply)
    (hf : ∀ a, (f a).session? = none) (h : ∀ s : Session, s.Echoed x) :
    Matched d d' (Progress.Alike (Pair d d')) (Act.exchange fun s => f <$> x s) := by
  rintro T T' ⟨s, b⟩ ⟨s', b'⟩ ⟨rfl, rfl, hb, hm⟩
  obtain ⟨hres, ht⟩ := Session.echoed_map s f (h s) d' T T' b b' ⟨rfl, rfl, hb, hm⟩
  simp only [Act.run_exchange]
  refine ⟨?_, ht⟩
  rw [hres, Exchange.run_map]
  cases ((x s).run b).1 with
  | ok a => exact .done (.same _ (hf a))
  | error e => exact .failed e

theorem conclude (thenRead : Option ResponseKind) :
    Matched d d' (Progress.Alike (Pair d d')) (Act.conclude thenRead) := by
  cases thenRead with
  | none => exact pure (.done (.same _ rfl))
  | some kind => exact exchange _ (fun _ => rfl) fun s => s.echoed_readAs kind

theorem afterPoll (w : Wait) (thenRead : Option ResponseKind) (v : Wait.Verdict) :
    Matched d d' (Progress.Alike (Pair d d')) (Act.afterPoll w thenRead v) := by
  cases v with
  | done result =>
      cases result with
      | ok _ => exact conclude thenRead
      | error e => exact pure (.failed e)
  | again wake => exact pure (.paused _)

theorem pollOnce (w : Wait) (now : Instant) (thenRead : Option ResponseKind) :
    Matched d d' (Progress.Alike (Pair d d')) (Act.pollOnce w now thenRead) := by
  rintro T T' ⟨s, b⟩ ⟨s', b'⟩ ⟨rfl, rfl, hb, hm⟩
  have ht : Twins s.descriptor d' T T' (s, b) (s.on d', b') := ⟨rfl, rfl, hb, hm⟩
  have hpoll : ((w.poll (s.on d') now).run b').1 = ((w.poll s now).run b).1 ∧
      Twins s.descriptor d' T T' (s, ((w.poll s now).run b).2)
        (s.on d', ((w.poll (s.on d') now).run b').2) := by
    obtain ⟨hres, ht'⟩ := w.condition.echoed_poll s d' T T' b b' ht
    simp only [Wait.run_poll]
    cases w.cancelled with
    | true => exact ⟨rfl, ht⟩
    | false => exact ⟨congrArg (w.judge now) hres, ht'⟩
  simp only [Act.run_pollOnce]
  rw [hpoll.1]
  exact afterPoll w thenRead _ T T' _ _ hpoll.2

theorem startWait (c : Condition) (p : Pace) (now : Instant) (thenRead : Option ResponseKind) :
    Matched d d' (Progress.Alike (Pair d d')) (Act.startWait c p now thenRead) := by
  unfold Act.startWait
  cases Wait.begin? c p now with
  | ok w => exact pollOnce w now thenRead
  | error e => exact pure (.failed e)

/-- An act, from its beginning to where it pauses or is over. -/
theorem start (a : Act) (now : Instant) :
    Matched d d' (Progress.Alike (Pair d d')) (a.start now) := by
  cases a with
  | write command => exact exchange _ (fun _ => rfl) fun s => s.echoed_write command
  | writeBytes data => exact exchange _ (fun _ => rfl) fun s => s.echoed_writeBytes data
  | readBytes capacity => exact exchange _ (fun _ => rfl) fun s => s.echoed_readBytes capacity
  | read => exact exchange _ (fun _ => rfl) fun s => s.echoed_read
  | readAs kind => exact exchange _ (fun _ => rfl) fun s => s.echoed_readAs kind
  | query command kind => exact exchange _ (fun _ => rfl) fun s => s.echoed_query command kind
  | queryAsync command kind pace =>
      refine bind (exchange _ (fun _ => rfl) fun s => s.echoed_write command) fun r r' hr => ?_
      cases hr with
      | done h => exact startWait .message pace now (some kind)
      | failed e => exact pure (.failed e)
      | paused pending => exact pure (.paused pending)
  | serialPoll => exact exchange _ (fun _ => rfl) fun s => s.echoed_serialPoll
  | messageAvailable => exact exchange _ (fun _ => rfl) (Condition.echoed_poll .message)
  | serviceRequested => exact exchange _ (fun _ => rfl) (Condition.echoed_poll .service)
  | await condition pace => exact startWait condition pace now none
  | clear => exact exchange _ (fun _ => rfl) fun s => s.echoed_clear
  | close =>
      rintro T T' ⟨s, b⟩ ⟨s', b'⟩ ⟨rfl, rfl, hb, hm⟩
      exact ⟨.done (.same _ rfl), Twins.close ⟨rfl, rfl, hb, hm⟩⟩
  | version => exact fun T T' p p' ht => ⟨.done (.same _ rfl), ht⟩
  | setTerminator t =>
      rintro T T' ⟨s, b⟩ ⟨s', b'⟩ ⟨rfl, rfl, hb, hm⟩
      exact ⟨.done (.same _ rfl), rfl, rfl, hb, hm⟩
  | info =>
      rintro T T' ⟨s, b⟩ ⟨s', b'⟩ ⟨rfl, rfl, hb, hm⟩
      exact ⟨.done (.session s ⟨rfl, rfl⟩), rfl, rfl, hb, hm⟩
  | label =>
      rintro T T' ⟨s, b⟩ ⟨s', b'⟩ ⟨rfl, rfl, hb, hm⟩
      exact ⟨.done (.label s ⟨rfl, rfl⟩), rfl, rfl, hb, hm⟩
  | sleep length =>
      show Matched d d' _ (if length.isZero then Pure.pure _ else Pure.pure _)
      split
      · exact pure (.done (.same _ rfl))
      · exact pure (.paused _)
  | fail text => exact pure (.failed _)

theorem resume (pending : Pending) (now : Instant) :
    Matched d d' (Progress.Alike (Pair d d')) (Act.resume pending now) := by
  cases pending with
  | sleep wake => exact pure (.done (.same _ rfl))
  | await w wake thenRead => exact pollOnce (w.resumed now) now thenRead

/-- What follows an act: the rest of the program, if the act went well. -/
theorem follow {now : Instant} {rest : Program}
    (hrest : Matched d d' (Advance.Alike (Pair d d')) (rest.run now)) {g g' : Progress}
    (hg : g.Alike (Pair d d') g') {T T' : List RawRecord} {p p' : Line (Recorded Simulated)}
    (ht : Twins d d' T T' p p') :
    ((rest.follow now g).run p).1.Alike (Pair d d') ((rest.follow now g').run p').1 ∧
      Twins d d' T T' ((rest.follow now g).run p).2 ((rest.follow now g').run p').2 := by
  cases hg with
  | failed e => exact ⟨.done .nil _, ht⟩
  | paused pending => exact ⟨.paused .nil _ _, ht⟩
  | done h =>
      obtain ⟨hadv, ht'⟩ := hrest T T' p p' ht
      exact ⟨hadv.after h, ht'⟩

/-- A program, from its beginning to where it pauses or is over. -/
theorem run (now : Instant) (program : Program) :
    Matched d d' (Advance.Alike (Pair d d')) (program.run now) := by
  induction program with
  | nil => exact pure (.done .nil _)
  | cons a rest ih =>
      rw [Program.run_cons]
      exact bind (start a now) fun _ _ hg _ _ _ _ => follow ih hg

theorem resumeProgram (now : Instant) (pending : Pending) (rest : Program) :
    Matched d d' (Advance.Alike (Pair d d')) (Program.resume now pending rest) := by
  rw [Program.resume_eq]
  exact bind (resume pending now) fun _ _ hg _ _ _ _ => follow (run now rest) hg

end Matched

end InstrumentBus
