/-
What the acts of a program do to a bus in memory, seen from the rest of
the bus: they make calls on the descriptor of their own session and on no
other, they open nothing, they take nothing offline but that descriptor,
once, when they close the session, and they reach no instrument but the
one it leads to.

`Conducts p q` says all of this of a line before and after. It is shown for
one raw call of each kind, and of closing a session, and `Stepwise` makes
of that what a program does. The count of offline calls is kept as an
equation between the two `closed` flags, which is what makes it add up
along a run.
-/
import InstrumentBus.Proofs.Session.Access
import InstrumentBus.Proofs.Session.Stepwise

namespace InstrumentBus

-- ==================================================== the conduct of acts

/-- What may become of a line while its session is at work. -/
structure Conducts (p q : Line (Recorded Simulated)) : Prop where
  -- the session stays on its descriptor
  descriptor : q.1.descriptor = p.1.descriptor
  -- the session stays at its address
  address : q.1.address = p.1.address
  -- nothing is opened
  next : q.2.bus.nextDescriptor = p.2.bus.nextDescriptor
  -- the other descriptors are left alone
  others : ∀ d, d ≠ p.1.descriptor → q.2.bus.link? d = p.2.bus.link? d
  -- the descriptor is online as long as the session is open
  own : ∀ a, p.2.bus.link? p.1.descriptor = some ⟨a, !p.1.closed⟩ →
    q.2.bus.link? p.1.descriptor = some ⟨a, !q.1.closed⟩
  -- the instruments it does not lead to are left alone
  elsewhere : ∀ a a', p.2.bus.link? p.1.descriptor = some ⟨a, !p.1.closed⟩ → a ≠ a' →
    q.2.bus.instrument? a' = p.2.bus.instrument? a'
  -- no fault is put in the way
  faults : p.2.bus.faults = [] → q.2.bus.faults = []
  -- opens are granted or refused as before
  failOpen : q.2.bus.failOpen = p.2.bus.failOpen
  -- the calls made are on the descriptor, and take it offline when the
  -- session is closed
  made : ∃ new, q.2.trace = new ++ p.2.trace ∧
    (∀ r ∈ new, r.call.descriptor? = some p.1.descriptor ∧ r.answer = none) ∧
    p.1.closed.toNat + new.countP (·.isOfflineOf p.1.descriptor) = q.1.closed.toNat

namespace Conducts

theorem refl (p : Line (Recorded Simulated)) : Conducts p p :=
  ⟨rfl, rfl, rfl, fun _ _ => rfl, fun _ h => h, fun _ _ _ _ => rfl, id, rfl, [], rfl, nofun, rfl⟩

theorem trans {p q r : Line (Recorded Simulated)} (h : Conducts p q) (h' : Conducts q r) :
    Conducts p r := by
  obtain ⟨new, htrace, hnew, hcount⟩ := h.made
  obtain ⟨new', htrace', hnew', hcount'⟩ := h'.made
  have hd := h.descriptor
  refine
    { descriptor := h'.descriptor.trans hd
      address := h'.address.trans h.address
      next := h'.next.trans h.next
      others := fun d hne => ?_
      own := fun a hl => ?_
      elsewhere := fun a a' hl hne => ?_
      faults := fun hf => h'.faults (h.faults hf)
      failOpen := h'.failOpen.trans h.failOpen
      made := ⟨new' ++ new, ?_, ?_, ?_⟩ }
  · rw [h'.others d (hd ▸ hne), h.others d hne]
  · have := h'.own a (hd ▸ h.own a hl)
    rwa [hd] at this
  · have hown := h.own a hl
    rw [h'.elsewhere a a' (hd ▸ hown) hne, h.elsewhere a a' hl hne]
  · rw [htrace', htrace, List.append_assoc]
  · intro r hr
    rcases List.mem_append.mp hr with hr | hr
    · exact hd ▸ hnew' r hr
    · exact hnew r hr
  · rw [List.countP_append]
    rw [hd] at hcount'
    omega

/-- One raw call on the descriptor, other than taking it offline. -/
theorem of_call {s : Session} {b : Recorded Simulated} {bus : Simulated} {call : RawCall}
    (hl : b.bus.Local s.descriptor bus) (hd : call.descriptor? = some s.descriptor)
    (ho : ∀ d v, call ≠ .takeOffline d v) :
    Conducts (s, b) (s, b.note bus call none) := by
  have hlink : ∀ d, bus.link? d = b.bus.link? d := by
    intro d
    unfold Simulated.link?
    rw [hl.links.1]
  refine ⟨rfl, rfl, hl.links.2, fun d _ => hlink d, fun a h => (hlink _).trans h,
    fun a a' h => hl.elsewhere _ a' h, hl.faults, hl.failOpen, [_], rfl, fun r hr => ?_, ?_⟩
  · cases List.mem_singleton.mp hr
    exact ⟨hd, rfl⟩
  · rw [List.countP_singleton]
    unfold RawRecord.isOfflineOf
    rw [if_neg]
    · rfl
    · rw [beq_iff_eq]
      exact ho _ _

/-- A session closed takes its descriptor offline, unless that has been
done before. -/
theorem of_close (s : Session) (b : Recorded Simulated) : Conducts (s, b) (s.close b) := by
  unfold Session.close
  cases hc : s.closed with
  | true => exact refl _
  | false =>
      obtain ⟨hnext, hinst, hfaults, hfail⟩ := Simulated.takeOffline_frame b.bus s.descriptor 0
      refine ⟨rfl, rfl, hnext, fun d hne => ?_, fun a hl => ?_,
        fun _ a' _ _ => congrArg (Keyed.get? · a') hinst, hfaults.trans, hfail, [_], rfl,
        fun r hr => ?_, ?_⟩
      · exact (Simulated.link?_takeOffline b.bus s.descriptor d).trans (if_neg (Ne.symm hne))
      · refine (Simulated.link?_takeOffline b.bus s.descriptor s.descriptor).trans ?_
        rw [if_pos rfl]
        show (b.bus.link? s.descriptor).map _ = _
        rw [show b.bus.link? s.descriptor = some ⟨a, !s.closed⟩ from hl]
        rfl
      · cases List.mem_singleton.mp hr
        exact ⟨rfl, rfl⟩
      · simp [RawRecord.isOfflineOf, hc]

end Conducts

-- ================================================ acts and programs

/-- What the acts of an open session do, raw call by raw call. -/
theorem Conducts.stepwise : Stepwise Conducts where
  refl := refl
  trans := trans
  write s b data _ _ :=
    of_call ((Simulated.calls_write data).spares s.descriptor b.bus) rfl nofun
  read s b buffer _ _ :=
    of_call ((Simulated.calls_read buffer).spares s.descriptor b.bus) rfl nofun
  clear s b _ := of_call (Simulated.calls_clear.spares s.descriptor b.bus) rfl nofun
  serialPoll s b _ := of_call (Simulated.calls_serialPoll.spares s.descriptor b.bus) rfl nofun
  setTerminator _ _ _ :=
    ⟨rfl, rfl, rfl, fun _ _ => rfl, fun _ h => h, fun _ _ _ _ => rfl, id, rfl, [], rfl, nofun, rfl⟩

/-- A part of a program keeps to the descriptor of its session. -/
def Orderly {α : Type} (x : StateM (Line (Recorded Simulated)) α) : Prop :=
  ∀ p, Conducts p (x.run p).2

namespace Orderly

theorem pure {α : Type} (a : α) : Orderly (Pure.pure a : StateM (Line (Recorded Simulated)) α) :=
  Conducts.stepwise.pure a

/-- A program, from its beginning to where it pauses or is over. -/
theorem run (now : Instant) (p : Program) : Orderly (p.run now) :=
  Conducts.stepwise.run Conducts.of_close now p

theorem resumeProgram (now : Instant) (pending : Pending) (rest : Program) :
    Orderly (Program.resume now pending rest) :=
  Conducts.stepwise.resumeProgram Conducts.of_close now pending rest

end Orderly

end InstrumentBus
