/-
What a raw call on a descriptor of a bus in memory does.

A write, a read, a clear and a poll all start in the same way (`access`): a
fault may take the place of the call, the call may be refused, or it reaches
the instrument that the descriptor leads to. There it does its `Deed`, which
changes that instrument and the registers and nothing else. `Calls` says so
of a call, and the rest is said of all four at once: what a call leaves
alone, and that it does not look at the registers it finds.

To take a descriptor offline is another kind of call, which no fault
touches, and it stands at the end.
-/
import InstrumentBus.Proofs.Run

namespace InstrumentBus

namespace Simulated

-- ======================================================= what is spared

/-- The same descriptors, each with the same link. -/
def SameLinks (b b' : Simulated) : Prop :=
  b'.links = b.links ∧ b'.nextDescriptor = b.nextDescriptor

/-- What a call on a descriptor leaves as it is: the descriptors, and every
instrument but the one it leads to. It puts no fault in anybody's way,
and an open is granted or refused as before. -/
structure Local (d : Int) (b b' : Simulated) : Prop where
  links : SameLinks b b'
  elsewhere : ∀ l a, b.link? d = some l → l.address ≠ a → b'.instrument? a = b.instrument? a
  faults : b.faults = [] → b'.faults = []
  failOpen : b'.failOpen = b.failOpen

/-- A call is let through to the instrument that the descriptor leads to. -/
theorem of_reached {b : Simulated} {d : Int} {a : Address} {i : Instrument}
    (h : b.access d = .reached a i) :
    b.faults = [] ∧ b.link? d = some ⟨a, true⟩ ∧ b.instrument? a = some i := by
  unfold access at h
  split at h
  · cases h
  next hf =>
    split at h
    next a' i' hr =>
      cases h
      unfold reach at hr
      split at hr
      next l hl =>
        obtain ⟨home, online⟩ := l
        cases online with
        | false => cases hr
        | true =>
            cases hi : Keyed.get? b.instruments home with
            | none =>
                simp only [hi, if_true] at hr
                cases hr
            | some j =>
                simp only [hi, if_true] at hr
                cases hr
                exact ⟨hf, hl, hi⟩
      next => cases hr
    · cases h

/-- And it is let through when nothing is in the way. -/
theorem reached_of {b : Simulated} {d : Int} {a : Address} {i : Instrument}
    (hf : b.faults = []) (hl : b.link? d = some ⟨a, true⟩) (hi : b.instrument? a = some i) :
    b.access d = .reached a i := by
  unfold link? at hl
  unfold instrument? at hi
  unfold access reach
  simp only [hf, hl, hi, if_true]

/-- A call is kept from the instruments, and this is the bus after it. -/
def Turned (b : Simulated) (d : Int) (b' : Simulated) : Prop :=
  b.access d = .faulted b' ∨ b.access d = .refused b'

/-- It has met with a fault that waited, or with a refusal. -/
theorem Turned.cause {b b' : Simulated} {d : Int} (h : b.Turned d b') :
    (∃ f rest, b.faults = f :: rest ∧
      b' = { b with faults := rest, registers := ⟨f.status, f.error, 0⟩ }) ∨
    ∃ code, b' = b.refuse code := by
  unfold Turned access at h
  split at h
  next f rest hf =>
    rcases h with h | h
    · cases h
      exact .inl ⟨f, rest, hf, rfl⟩
    · cases h
  next =>
    split at h
    · rcases h with h | h <;> cases h
    next code _ =>
      rcases h with h | h
      · cases h
      · cases h
        exact .inr ⟨code, rfl⟩

theorem Turned.spares {b b' : Simulated} {d : Int} (h : b.Turned d b') : Local d b b' := by
  rcases h.cause with ⟨f, rest, hf, rfl⟩ | ⟨code, rfl⟩
  · refine ⟨⟨rfl, rfl⟩, fun _ _ _ _ => rfl, fun hnil => ?_, rfl⟩
    rw [hf] at hnil
    cases hnil
  · exact ⟨⟨rfl, rfl⟩, fun _ _ _ _ => rfl, id, rfl⟩

/-- A call that is kept from the instruments transfers nothing. -/
theorem Turned.count {b b' : Simulated} {d : Int} (h : b.Turned d b') :
    b'.registers.count = 0 := by
  rcases h.cause with ⟨f, rest, -, rfl⟩ | ⟨code, rfl⟩ <;> rfl

theorem instrument?_modify (b : Simulated) (a a' : Address) (f : Instrument → Instrument) :
    (b.modifyInstrument a f).instrument? a' =
      if a = a' then (b.instrument? a').map f else b.instrument? a' :=
  Keyed.get?_modify f b.instruments a a'

/-- A call that is let through to an instrument. -/
theorem local_reached {b : Simulated} {d : Int} {a : Address} {i : Instrument}
    (h : b.access d = .reached a i) (f : Instrument → Instrument) (registers : Registers) :
    Local d b { b.modifyInstrument a f with registers } := by
  obtain ⟨-, hl, -⟩ := of_reached h
  refine ⟨⟨rfl, rfl⟩, fun l a' hl' hne => ?_, id, rfl⟩
  rw [hl] at hl'
  cases hl'
  exact (instrument?_modify b a a' f).trans (if_neg hne)

-- ============================================================ the calls

/-- A call does not look at the registers it finds. -/
theorem access_registers (b : Simulated) (d : Int) (registers : Registers) :
    { b with registers }.access d = b.access d := rfl

/-- A fault that waits is in the way of any call. -/
theorem turned_of_faults {b : Simulated} {f : Fault} {rest : List Fault} (h : b.faults = f :: rest)
    (d : Int) : b.Turned d { b with faults := rest, registers := ⟨f.status, f.error, 0⟩ } := by
  refine .inl ?_
  unfold access
  rw [h]

/-- With no fault in its way a call is refused, or reaches an instrument. -/
theorem turned_or_reached {b : Simulated} (h : b.faults = []) (d : Int) :
    (∃ registers, b.Turned d { b with registers }) ∨ ∃ a i, b.access d = .reached a i := by
  cases hr : b.reach d with
  | ok r =>
      refine .inr ⟨r.1, r.2, ?_⟩
      unfold access
      rw [h, hr]
  | error code =>
      have hrefused : b.access d = .refused (b.refuse code) := by
        unfold access
        rw [h, hr]
      exact .inl ⟨_, .inr hrefused⟩

/-- What a call does at an instrument, and what it brings. -/
structure Deed (δ : Type) where
  change : Instrument → Instrument
  registers : Registers
  answer : δ

variable {δ : Type}

/-- What comes of a call, given how it starts. -/
def Access.outcome (b : Simulated) (nothing : δ) (deed : Instrument → Deed δ) :
    Access → Simulated × δ
  | .faulted b' | .refused b' => (b', nothing)
  | .reached a i =>
    ({ b.modifyInstrument a (deed i).change with registers := (deed i).registers }, (deed i).answer)

/-- A raw call brings nothing where it is kept from the instruments, and at
an instrument it does its deed, which goes well. -/
structure Calls (call : Int → Simulated → Simulated × δ) (nothing : δ)
    (deed : Instrument → Deed δ) : Prop where
  outcome : ∀ d b, call d b = (b.access d).outcome b nothing deed
  completes : ∀ i, (deed i).registers.failing = false

theorem calls_write (data : List UInt8) :
    Calls (fun d b => (b.write d data, ())) ()
      fun _ => ⟨(·.receive data), .completed data.length, ()⟩ where
  outcome d b := by
    unfold Simulated.write
    cases b.access d <;> rfl
  completes _ := Registers.failing_completed data.length

theorem calls_read (buffer : List UInt8) :
    Calls (fun d b => b.read d buffer) buffer fun i =>
      ⟨(·.consume (i.transferCount buffer.length)),
        ⟨⟨StatusWord.cmpl ||| if i.ends buffer.length then StatusWord.endBit else 0⟩, 0,
          i.transferCount buffer.length⟩,
        fillFront buffer (i.output.take (i.transferCount buffer.length))⟩ where
  outcome d b := by
    unfold Simulated.read
    cases b.access d <;> rfl
  completes i := by
    show (StatusWord.timedOut ⟨StatusWord.cmpl ||| _⟩ ||
      StatusWord.failed ⟨StatusWord.cmpl ||| _⟩) = false
    split <;> decide

/-- The END bit tells whether the read ends the message. -/
theorem ended_read (i : Instrument) (capacity : Nat) :
    StatusWord.ended ⟨StatusWord.cmpl ||| if i.ends capacity then StatusWord.endBit else 0⟩ =
      i.ends capacity := by
  cases i.ends capacity <;> decide

theorem calls_clear :
    Calls (fun d b => (b.clear d, ())) () fun _ => ⟨(·.reset), .completed 0, ()⟩ where
  outcome d b := by
    unfold Simulated.clear
    cases b.access d <;> rfl
  completes _ := Registers.failing_completed 0

theorem calls_serialPoll :
    Calls (fun d b => b.serialPoll d) 0 fun i => ⟨(·.polled), .completed 0, i.shown.bits⟩ where
  outcome d b := by
    unfold Simulated.serialPoll
    cases b.access d <;> rfl
  completes _ := Registers.failing_completed 0

namespace Calls

variable {call : Int → Simulated → Simulated × δ} {nothing : δ} {deed : Instrument → Deed δ}
  {b b' : Simulated} {d : Int} {a : Address} {i : Instrument}

theorem turned (h : Calls call nothing deed) (ht : b.Turned d b') : call d b = (b', nothing) := by
  rw [h.outcome]
  rcases ht with ht | ht <;> rw [ht] <;> rfl

theorem reached (h : Calls call nothing deed) (hr : b.access d = .reached a i) :
    call d b =
      ({ b.modifyInstrument a (deed i).change with registers := (deed i).registers },
        (deed i).answer) := by
  rw [h.outcome, hr]
  rfl

theorem blind (h : Calls call nothing deed) (d : Int) (b : Simulated) (registers : Registers) :
    call d { b with registers } = call d b := by
  rw [h.outcome, h.outcome, access_registers]
  cases b.access d <;> rfl

/-- A call at an instrument finds the next one at it too. -/
theorem reached_again (h : Calls call nothing deed) (hr : b.access d = .reached a i) :
    (call d b).1.access d = .reached a ((deed i).change i) := by
  obtain ⟨hf, hl, hi⟩ := of_reached hr
  rw [h.reached hr]
  refine reached_of hf hl ?_
  refine (instrument?_modify b a a _).trans ?_
  rw [if_pos rfl, hi]
  rfl

/-- What a call leaves alone, however it starts. -/
theorem spares (h : Calls call nothing deed) (d : Int) (b : Simulated) :
    Local d b (call d b).1 := by
  cases hacc : b.access d with
  | faulted b' =>
      rw [h.turned (.inl hacc)]
      exact Turned.spares (.inl hacc)
  | refused b' =>
      rw [h.turned (.inr hacc)]
      exact Turned.spares (.inr hacc)
  | reached a i =>
      rw [h.reached hacc]
      exact local_reached hacc _ _

end Calls

-- ========================================================= taken offline

theorem sameLinks_stimulate (b : Simulated) (s : Stimulus) : SameLinks b (b.stimulate s) := by
  cases s <;> exact ⟨rfl, rfl⟩

/-- Taking a descriptor offline leaves everything but links, counts and
registers. -/
theorem takeOffline_frame (b : Simulated) (d v : Int) :
    (b.takeOffline d v).nextDescriptor = b.nextDescriptor ∧
      (b.takeOffline d v).instruments = b.instruments ∧
      (b.takeOffline d v).faults = b.faults ∧ (b.takeOffline d v).failOpen = b.failOpen := by
  unfold takeOffline
  simp only
  split <;> exact ⟨rfl, rfl, rfl, rfl⟩

/-- Taking a descriptor offline changes the link of that descriptor and
no other. -/
theorem link?_takeOffline (b : Simulated) (d d' : Int) :
    (b.takeOffline d 0).link? d' =
      if d = d' then (b.link? d').map fun l => { l with online := false } else b.link? d' := by
  unfold takeOffline link?
  simp only
  cases h : Keyed.get? b.links d with
  | some l => exact Keyed.get?_modify _ b.links d d'
  | none =>
      show Keyed.get? b.links d' = _
      by_cases hd : d = d'
      · rw [if_pos hd, ← hd, h]
        rfl
      · rw [if_neg hd]

/-- Descriptors taken offline, one after the other. -/
theorem link?_takeOffline_all (ds : List Int) (b : Simulated) (d : Int) :
    (ds.foldl (fun b d => b.takeOffline d 0) b).link? d =
      if d ∈ ds then (b.link? d).map fun l => { l with online := false } else b.link? d := by
  induction ds generalizing b with
  | nil => simp
  | cons d' rest ih =>
      refine (ih (b.takeOffline d' 0)).trans ?_
      rw [link?_takeOffline]
      by_cases hd : d' = d
      · subst hd
        cases b.link? d' <;> simp
      · simp [hd, Ne.symm hd]

end Simulated

end InstrumentBus
