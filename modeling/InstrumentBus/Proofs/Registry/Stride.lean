/-
The strides of a call, and the address an entry belongs to.

`Call.Stride` lists the steps of a call, one constructor each, with what
the call finds, where it stands afterwards and what becomes of the site.
It is the step function turned inside out: whoever has to go through the
steps of a call takes the strides apart and has no branch of the function
before him. The constructors leave out what a call that relies on its
entry never meets: a program to be carried out and no session to carry it
out on.

An entry is made for one address and never serves another
(`World.Sound.homed`). The cache alone does not say so once the entry has
left it; that it does not come back under another name is due to numbers
not being used twice.
-/
import InstrumentBus.Proofs.Registry.TurnedAway

namespace InstrumentBus

-- ======================================================== the strides

namespace Call

/-- The steps of a call. -/
inductive Stride (id : TaskId) (c : Call) (x : BusSite) : Call → BusSite → Prop where
  | closed (hs : c.stage = .check) (hd : x.registry.disposed = true) :
      Stride id c x { c with stage := .ended (.error registryClosed) } x
  | checked (hs : c.stage = .check) (hd : x.registry.disposed = false) :
      Stride id c x { c with stage := .find } x
  | found (hs : c.stage = .find) :
      Stride id c x { c with stage := .request (x.registry.resolve c.address x.clock).2 }
        { x with registry := (x.registry.resolve c.address x.clock).1 }
  -- the token was cancelled before the lock was asked for
  | refused (e : EntryId) (hs : c.stage = .request e) (hc : c.cancelled = true) :
      Stride id c x { c with stage := .ended (.error (lockCancelled c.address)) } x
  | granted (e : EntryId) (hs : c.stage = .request e) (hc : c.cancelled = false)
      (hg : (x.registry.modifyLock e (·.request id)).holder? e = some id) :
      Stride id c x { c with stage := .recheck e }
        (x.modifyRegistry (·.modifyLock e (·.request id)))
  | lined (e : EntryId) (hs : c.stage = .request e) (hc : c.cancelled = false)
      (hg : (x.registry.modifyLock e (·.request id)).holder? e ≠ some id) :
      Stride id c x { c with stage := .queued e }
        (x.modifyRegistry (·.modifyLock e (·.request id)))
  -- the token was cancelled in the queue
  | withdrawn (e : EntryId) (hs : c.stage = .queued e) (hc : c.cancelled = true) :
      Stride id c x { c with stage := .ended (.error (lockCancelled c.address)) }
        (x.modifyRegistry (·.modifyLock e (·.withdraw id)))
  | noticed (e : EntryId) (hs : c.stage = .queued e) (hc : c.cancelled = false)
      (hg : x.registry.holder? e = some id) : Stride id c x { c with stage := .recheck e } x
  | barred (e : EntryId) (hs : c.stage = .recheck e) (hd : x.registry.disposed = true) :
      Stride id c x { c with stage := .vacate e registryClosed } x
  | rechecked (e : EntryId) (hs : c.stage = .recheck e) (hd : x.registry.disposed = false) :
      Stride id c x { c with stage := .confirm e } x
  | confirmed (e : EntryId) (hs : c.stage = .confirm e)
      (hcur : x.registry.current? c.address = some e) :
      Stride id c x { c with stage := .fill e } x
  -- the entry has left the cache
  | stale (e : EntryId) (hs : c.stage = .confirm e)
      (hcur : x.registry.current? c.address ≠ some e) :
      Stride id c x { c with stage := .check } (x.modifyRegistry (·.modifyLock e (·.release)))
  -- there is an open session
  | reused (e : EntryId) (s : Session) (hs : c.stage = .fill e)
      (hslot : x.registry.slot? e = some s) (hopen : s.closed = false) :
      Stride id c x { c with stage := .enter e } x
  -- a session is asked for and granted
  | opened (e : EntryId) (s : Session) (bus : Recorded Simulated) (hs : c.stage = .fill e)
      (hv : ∀ s, x.registry.slot? e = some s → s.closed = true)
      (hrun : (Session.connect c.address x.registry.options).run x.bus = (.ok s, bus)) :
      Stride id c x { c with stage := .enter e }
        { x with
          bus := bus
          registry :=
            { x.registry with created := x.registry.created + 1 }.setSlot e (some s) }
  -- a session is asked for and not granted
  | failed (e : EntryId) (f : Failure) (bus : Recorded Simulated) (hs : c.stage = .fill e)
      (hv : ∀ s, x.registry.slot? e = some s → s.closed = true)
      (hrun : (Session.connect c.address x.registry.options).run x.bus = (.error f, bus)) :
      Stride id c x { c with stage := .abandon e f }
        { x with
          bus := bus
          registry := { x.registry with created := x.registry.created + 1 }.setSlot e none }
  | started (e : EntryId) (s : Session) (hs : c.stage = .enter e)
      (hslot : x.registry.slot? e = some s) :
      Stride id c x
        ({ c with entered := some (x.clock, s.descriptor) }.act e s
          (x.modifyRegistry (·.touch e x.clock)) (Program.run x.clock c.program)).1
        ({ c with entered := some (x.clock, s.descriptor) }.act e s
          (x.modifyRegistry (·.touch e x.clock)) (Program.run x.clock c.program)).2
  | resumed (e : EntryId) (pending : Pending) (rest : Program) (s : Session)
      (hs : c.stage = .acting e pending rest) (hdue : pending.due x.clock = true)
      (hslot : x.registry.slot? e = some s) :
      Stride id c x (c.act e s x (Program.resume x.clock pending rest)).1
        (c.act e s x (Program.resume x.clock pending rest)).2
  | vacated (e : EntryId) (f : Failure) (hs : c.stage = .vacate e f) :
      Stride id c x { c with stage := .abandon e f } (x.closeSlot e)
  | abandoned (e : EntryId) (f : Failure) (hs : c.stage = .abandon e f) :
      Stride id c x { c with stage := .leave e (.error f) }
        (x.modifyRegistry (·.forget c.address e))
  | left (e : EntryId) (result : Except Failure Unit) (hs : c.stage = .leave e result) :
      Stride id c x { c with stage := .ended result }
        (x.modifyRegistry (·.modifyLock e (·.release)))

variable {id : TaskId} {c c' : Call} {x x' : BusSite}

/-- A call that has what it relies on takes one of its strides. -/
theorem step_stride (h : c.step id x = some (c', x')) (hsound : c.Sound x.registry) :
    c.Stride id x c' x' := by
  obtain ⟨address, program, cancelled, entered, replies, stage⟩ := c
  cases stage with
  | check =>
      simp only [step] at h
      split at h
      next hd =>
        cases h
        exact .closed rfl hd
      next hd =>
        cases h
        exact .checked rfl (Bool.eq_false_iff.mpr hd)
  | find =>
      cases h
      exact .found rfl
  | request e =>
      simp only [step] at h
      split at h
      next hc =>
        cases h
        exact .refused e rfl hc
      next hc =>
        have hc' : cancelled = false := Bool.eq_false_iff.mpr hc
        by_cases hg : (x.registry.modifyLock e (·.request id)).holder? e = some id
        · simp only [Site.modifyRegistry, Registry.holds_iff.mpr hg, if_true] at h
          cases h
          exact .granted e rfl hc' hg
        · have hno := Bool.eq_false_iff.mpr fun hh => hg (Registry.holds_iff.mp hh)
          simp only [Site.modifyRegistry, hno, Bool.false_eq_true, if_false] at h
          cases h
          exact .lined e rfl hc' hg
  | queued e =>
      simp only [step] at h
      split at h
      next hc =>
        cases h
        exact .withdrawn e rfl hc
      next hc =>
        split at h
        next hg =>
          cases h
          exact .noticed e rfl (Bool.eq_false_iff.mpr hc) (Registry.holds_iff.mp hg)
        next => cases h
  | recheck e =>
      simp only [step] at h
      split at h
      next hd =>
        cases h
        exact .barred e rfl hd
      next hd =>
        cases h
        exact .rechecked e rfl (Bool.eq_false_iff.mpr hd)
  | confirm e =>
      simp only [step] at h
      split at h
      next hcur =>
        cases h
        exact .confirmed e rfl (Registry.isCurrent_iff.mp hcur)
      next hcur =>
        cases h
        exact .stale e rfl fun hc => hcur (Registry.isCurrent_iff.mpr hc)
  | fill e =>
      simp only [step] at h
      rcases Site.vacant_or_open x.registry e with ⟨s, hslot, hopen⟩ | hv
      · rw [Site.fillSlot_of_open hslot hopen] at h
        cases h
        exact .reused e s rfl hslot hopen
      · rw [Site.fillSlot_of_vacant address hv] at h
        rcases hrun : (Session.connect address x.registry.options).run x.bus with ⟨r, bus⟩
        rw [hrun] at h
        cases r with
        | ok s =>
            cases h
            exact .opened e s bus rfl hv hrun
        | error f =>
            cases h
            exact .failed e f bus rfl hv hrun
  | enter e =>
      obtain ⟨-, s, hslot, -⟩ := hsound
      have hslot' : (x.registry.touch e x.clock).slot? e = some s :=
        (Registry.slot?_touch _ _ _ _).trans hslot
      simp only [step, Site.modifyRegistry, hslot'] at h
      obtain rfl := congrArg Prod.fst (Option.some.inj h)
      obtain rfl := congrArg Prod.snd (Option.some.inj h)
      exact .started e s rfl hslot
  | acting e pending rest =>
      obtain ⟨-, s, -, hslot, -⟩ := hsound
      simp only [step, hslot] at h
      split at h
      next hdue =>
        obtain rfl := congrArg Prod.fst (Option.some.inj h)
        obtain rfl := congrArg Prod.snd (Option.some.inj h)
        exact .resumed e pending rest s rfl hdue hslot
      next => cases h
  | vacate e f =>
      cases h
      exact .vacated e f rfl
  | abandon e f =>
      cases h
      exact .abandoned e f rfl
  | leave e result =>
      cases h
      exact .left e result rfl
  | ended result => cases h
  | dropped => cases h

-- ================================================ the entry of a call

/-- The entry a call has looked up, going by its stage. -/
def entry? : CallStage → Option EntryId
  | .request e | .queued e | .recheck e | .confirm e | .fill e | .enter e | .acting e _ _
  | .vacate e _ | .abandon e _ | .leave e _ => some e
  | .check | .find | .ended _ | .dropped => none

/-- A call that has its program before it or behind it keeps its entry. -/
theorem entry?_act {c : Call} {e : EntryId} {s : Session} {x : BusSite}
    {run : StateM (Line (Recorded Simulated)) Advance} :
    entry? (c.act e s x run).1.stage = some e := by
  obtain ⟨replies, stage, hcall, ⟨pending, rest, rfl⟩ | ⟨result, rfl⟩⟩ := act_call c e s x run
  · rw [hcall]
    rfl
  · rw [hcall]
    rfl

/-- A call comes by an entry where it looks up its address, and in no
other way. -/
theorem Stride.entry {e : EntryId} (h : c.Stride id x c' x') (he : entry? c'.stage = some e) :
    entry? c.stage = some e ∨ x'.registry.current? c.address = some e := by
  cases h with
  | closed => cases he
  | checked => cases he
  | found =>
      cases he
      refine .inr ?_
      show (x.registry.resolve c.address x.clock).1.current? c.address = _
      cases hcur : x.registry.current? c.address with
      | some e =>
          rw [Registry.resolve_of_some hcur]
          exact hcur
      | none =>
          rw [Registry.resolve_of_none hcur]
          exact (Keyed.get?_set _ _ _ _).trans (if_pos rfl)
  | refused => cases he
  | withdrawn => cases he
  | stale => cases he
  | started e' s hs hslot =>
      rw [entry?_act] at he
      rw [hs]
      exact .inl he
  | resumed e' pending rest s hs hdue hslot =>
      rw [entry?_act] at he
      rw [hs]
      exact .inl he
  | left => cases he
  | granted e' hs => rw [hs]; exact .inl he
  | lined e' hs => rw [hs]; exact .inl he
  | noticed e' hs => rw [hs]; exact .inl he
  | barred e' hs => rw [hs]; exact .inl he
  | rechecked e' hs => rw [hs]; exact .inl he
  | confirmed e' hs => rw [hs]; exact .inl he
  | reused e' s hs => rw [hs]; exact .inl he
  | opened e' s bus hs => rw [hs]; exact .inl he
  | failed e' f bus hs => rw [hs]; exact .inl he
  | vacated e' f hs => rw [hs]; exact .inl he
  | abandoned e' f hs => rw [hs]; exact .inl he

end Call

-- ============================================ the address of an entry

namespace World

variable {w w' : BusWorld} {id : TaskId} {c : Call} {e : EntryId} {a : Address}

/-- An entry that a call has looked up is current for no other address. -/
def Homed (w : BusWorld) : Prop :=
  ∀ id c e a, w.call? id = some c → Call.entry? c.stage = some e →
    w.site.registry.current? a = some e → a = c.address

/-- The entry a call has looked up exists. -/
theorem Sound.entry_lt (hw : w.Sound) (hc : w.call? id = some c)
    (he : Call.entry? c.stage = some e) : e < w.site.registry.entries.length := by
  have ht := call?_eq_some.mp hc
  have hs := hw.tasks id _ ht
  obtain ⟨address, program, cancelled, entered, replies, stage⟩ := c
  cases stage with
  | request e' =>
      cases he
      exact hs
  | queued e' =>
      cases he
      exact Registry.lt_of_mem_line ((hw.inLine.stands id e).mpr ⟨_, ht, .inr rfl⟩)
  | check => cases he
  | find => cases he
  | ended result => cases he
  | dropped => cases he
  | _ =>
      cases he
      exact hw.lt ht rfl

/-- An entry that was there before is current only if it was. -/
theorem Change.old {who : Option TaskId} (hc : Change who w w')
    (hcur : w'.site.registry.current? a = some e) (he : e < w.site.registry.entries.length) :
    w.site.registry.current? a = some e := by
  cases hc with
  | task id t t' hid ht hw heff hs hp hf => exact heff.cache.old hcur he
  | begun t hf hw hb hr =>
      unfold Registry.current? at hcur
      rwa [hr.cache] at hcur
  | beside hw hl ht hr => exact hr ▸ hcur

theorem Homed.perform (hm : w.Homed) (hw : w.Sound) {h : Happening}
    (hp : w.perform h = some w') : w'.Homed := by
  have hch := hw.perform_change hp
  intro id c' e a hc' he hcur
  cases cameOf_perform hp hc' with
  | begun h hs _ =>
      rw [hs] at he
      cases he
  | kept h => exact hm id c' e a h he (hch.old hcur (hw.entry_lt h he))
  | cancelled c h hc =>
      subst hc
      exact hm id c e a h he (hch.old hcur (hw.entry_lt h he))
  | stepped c h hstep =>
      have haddr : c'.address = c.address := by
        cases Call.step_follows hstep with
        | call ha _ _ => exact ha
      rw [haddr]
      rcases (Call.step_stride hstep (hw.tasks id _ (call?_eq_some.mp h))).entry he with he | hnew
      · exact hm id c e a h he (hch.old hcur (hw.entry_lt h he))
      · exact (hw.change hch).coherent.inj _ _ e hcur hnew
  | dropped c h hc =>
      subst hc
      obtain ⟨address, program, cancelled, entered, replies, stage⟩ := c
      cases stage <;> cases he

theorem homed_unused (b : Simulated) (options : SessionOptions) (policy : SweepPolicy) :
    (World.unused b options policy).Homed := fun _ _ _ _ hc => nomatch hc

/-- An entry that a call has looked up belongs to the call's address,
wherever a run may lead. -/
theorem Reaches.homed (hr : w.Reaches w') (hw : w.Sound) (hm : w.Homed) : w'.Homed :=
  hw.induct hr hm fun _ _ _ hv hm hp => hm.perform hv hp

/-- An entry is never current for an address that it was not current for
when it was there already. -/
theorem Sound.current?_old (hw : w.Sound) (hr : w.Reaches w')
    (hcur : w'.site.registry.current? a = some e) (he : e < w.site.registry.entries.length) :
    w.site.registry.current? a = some e := by
  obtain ⟨hs, hrun⟩ := hr
  induction hs generalizing w with
  | nil =>
      cases hrun
      exact hcur
  | cons h rest ih =>
      obtain ⟨w₁, hp, hrest⟩ := Option.bind_eq_some_iff.mp hrun
      have hch := hw.perform_change hp
      refine hch.old (ih (hw.change hch) ?_ hrest) he
      cases hch with
      | task id t t' hid ht hw heff hs hp hf => exact Nat.lt_of_lt_of_le he heff.cache.length_le
      | begun t hf hw hb hr => exact hr.length ▸ he
      | beside hw hl ht hr => exact hr ▸ he

end World

end InstrumentBus
