/-
An address at which no program is started.

Two things are followed there, each through every step that anybody may
take. The first is a session that lies in its slot unused (`World.Kept`):
its entry stays current, it stays open, and the instant of its last use
stays what it is. Nobody holds its lock for longer than a turn, for
whoever gets the lock finds an open session and goes on to start a
program. The second is what is left when the session is gone
(`World.Bare`): there may be an entry, but no open session in it, until a
call asks for one; and a call that is granted one goes on to start its
program.

In both cases a step that would break the matter off is a step towards a
program, and the program is started before the turn is over. So it is
enough to look at what is so between the turns (`World.Idle`).
-/
import InstrumentBus.Proofs.Registry.Ticks

namespace InstrumentBus

-- ========================================================= the strides

/-- A sweep fills no slot. -/
theorem Sweep.Stride.slot_from {id : TaskId} {s s' : Sweep} {x x' : BusSite} {e : EntryId}
    {held : Session} (h : s.Stride id x s' x') (hslot : x'.registry.slot? e = some held) :
    x.registry.slot? e = some held := by
  cases h with
  | took a e' rest lock hs ht hl => exact (Registry.slot?_modifyLock _ _ _ _).symm.trans hslot
  | unlocked e' hs => exact (Registry.slot?_modifyLock _ _ _ _).symm.trans hslot
  | unlinked a e' hs => exact (Registry.slot?_forget _ _ _ _).symm.trans hslot
  | closed e' hs =>
      by_cases he : e = e'
      · subst he
        cases (Site.slot?_closeSlot x e).symm.trans hslot
      · exact (Site.slot?_closeSlot_ne x he).symm.trans hslot
  | _ => exact hslot

namespace Call

variable {id : TaskId} {c c' : Call} {x x' : BusSite} {e : EntryId} {s : Session}

/-- The entry whose lock a call holds that is on its way to its program. -/
def nearing : CallStage → Option EntryId
  | .recheck e | .confirm e | .fill e | .enter e => some e
  | _ => none

theorem not_nearing_of_atRest (h : (Task.call c).atRest = true) : nearing c.stage = none := by
  obtain ⟨address, program, cancelled, entered, replies, stage⟩ := c
  cases stage <;> first | rfl | cases h

/-- The lock a call holds is that of its entry. -/
theorem entry?_of_lockHeld {s : CallStage} (h : lockHeld s = some e) : entry? s = some e := by
  cases s <;> first | exact h | cases h

theorem queued_of_queuedOn (h : (Task.call c).queuedOn = some e) : c.stage = .queued e := by
  obtain ⟨address, program, cancelled, entered, replies, stage⟩ := c
  cases stage <;> cases h
  rfl

/-- A call that comes by a lock is on its way to its program. -/
theorem Stride.nears (h : c.Stride id x c' x') (hl : lockHeld c'.stage = some e) :
    lockHeld c.stage = some e ∨ nearing c'.stage = some e := by
  have hact : ∀ (c₀ : Call) (e₀ : EntryId) (s : Session) (y : BusSite)
      (run : StateM (Line (Recorded Simulated)) Advance),
      lockHeld (c₀.act e₀ s y run).1.stage = some e → e₀ = e := by
    intro c₀ e₀ s y run hl
    rcases stage_act c₀ e₀ s y run with ⟨pending, rest, hs, -⟩ | ⟨result, hs, -⟩
    · rw [hs] at hl
      exact Option.some.inj hl
    · rw [hs] at hl
      exact Option.some.inj hl
  cases h with
  | closed hs | checked hs | found hs | refused e' hs | lined e' hs | withdrawn e' hs
  | stale e' hs | left e' result hs => cases hl
  | granted e' hs | noticed e' hs | rechecked e' hs | confirmed e' hs | reused e' s hs
  | opened e' s bus hs => exact .inr hl
  | barred e' hs | failed e' f bus hs | vacated e' f hs | abandoned e' f hs =>
      rw [hs]
      exact .inl hl
  | started e' s hs hslot =>
      rw [hs]
      exact .inl (congrArg some (hact _ e' s _ _ hl))
  | resumed e' pending rest s hs hdue hslot =>
      rw [hs]
      exact .inl (congrArg some (hact _ e' s _ _ hl))

/-- A call gets in line where it has asked for a lock and not got it. -/
theorem Stride.queues (h : c.Stride id x c' x') (hq : c'.stage = .queued e) :
    c.stage = .request e ∧ (x.registry.modifyLock e (·.request id)).holder? e ≠ some id := by
  cases h with
  | lined e' hs hc hg =>
      cases hq
      exact ⟨hs, hg⟩
  | started e' s hs hslot | resumed e' pending rest s hs hdue hslot =>
      rcases stage_act _ e' s _ _ with ⟨p, r, hstage, -⟩ | ⟨r, hstage, -⟩ <;>
        cases hstage.symm.trans hq
  | _ => cases hq

/-- A call comes to have a session before it where it has found or been
granted one. -/
theorem Stride.engages (h : c.Stride id x c' x') (he : engaged c'.stage = some e) :
    engaged c.stage = some e ∨ c'.stage = .enter e := by
  have hact : ∀ (c₀ : Call) (e₀ : EntryId) (s : Session) (y : BusSite)
      (run : StateM (Line (Recorded Simulated)) Advance),
      engaged (c₀.act e₀ s y run).1.stage = some e → e₀ = e := by
    intro c₀ e₀ s y run he
    rcases stage_act c₀ e₀ s y run with ⟨pending, rest, hs, -⟩ | ⟨result, hs, -⟩
    · rw [hs] at he
      exact Option.some.inj he
    · rw [hs] at he
      cases he
  cases h with
  | reused e' s hs | opened e' s bus hs =>
      cases he
      exact .inr rfl
  | started e' s hs hslot =>
      rw [hs]
      exact .inl (congrArg some (hact _ e' s _ _ he))
  | resumed e' pending rest s hs hdue hslot =>
      rw [hs]
      exact .inl (congrArg some (hact _ e' s _ _ he))
  | _ => cases he

/-- A program that is carried out opens nothing. -/
theorem act_closed {run : StateM (Line (Recorded Simulated)) Advance} (hrun : Orderly run)
    (hc : s.closed = true) (b : Recorded Simulated) : (run.run (s, b)).2.1.closed = true := by
  obtain ⟨new, -, -, hcount⟩ := (hrun (s, b)).made
  cases hout : (run.run (s, b)).2.1.closed with
  | true => rfl
  | false =>
      change s.closed.toNat + _ = (run.run (s, b)).2.1.closed.toNat at hcount
      rw [hc, hout] at hcount
      exact absurd hcount (by simp)

/-- An open session was there before, or it is that of a call which goes
on to its program. -/
theorem Stride.slot_from (h : c.Stride id x c' x') (hslot : x'.registry.slot? e = some s)
    (hopen : s.closed = false) : (∃ s₀, x.registry.slot? e = some s₀ ∧ s₀.closed = false) ∨
      c.stage = .fill e ∧ c'.stage = .enter e := by
  have hsame : x'.registry.slot? e = x.registry.slot? e →
      ∃ s₀, x.registry.slot? e = some s₀ ∧ s₀.closed = false :=
    fun heq => ⟨s, heq.symm.trans hslot, hopen⟩
  -- a session at work is open only if it was
  have hact : ∀ (c₀ : Call) (e₀ : EntryId) (s₁ : Session) (y : BusSite)
      (run : StateM (Line (Recorded Simulated)) Advance), Orderly run →
      y.registry.slot? e₀ = some s₁ → (c₀.act e₀ s₁ y run).2.registry.slot? e = some s →
      ∃ s₀, y.registry.slot? e = some s₀ ∧ s₀.closed = false := by
    intro c₀ e₀ s₁ y run hrun hy hout
    obtain ⟨hself, hothers⟩ := slot?_act c₀ e₀ s₁ y run hy
    by_cases he : e = e₀
    · subst he
      rw [hself] at hout
      refine ⟨s₁, hy, Bool.eq_false_iff.mpr fun hc => ?_⟩
      have hstill := act_closed hrun hc y.bus
      rw [Option.some.inj hout, hopen] at hstill
      cases hstill
    · exact ⟨s, (hothers e he).symm.trans hout, hopen⟩
  cases h with
  | granted e' hs | lined e' hs | withdrawn e' hs | stale e' hs | left e' result hs =>
      exact .inl (hsame (Registry.slot?_modifyLock _ _ _ _))
  | found hs => exact .inl (hsame (Registry.slot?_resolve _ _ _ _))
  | abandoned e' f hs => exact .inl (hsame (Registry.slot?_forget _ _ _ _))
  | opened e' s' bus hs hv hrun =>
      by_cases he : e = e'
      · subst he
        exact .inr ⟨hs, rfl⟩
      · exact .inl (hsame (Registry.slot?_setSlot_ne _ _ (Ne.symm he)))
  | failed e' f bus hs hv hrun =>
      by_cases he : e = e'
      · subst he
        obtain hlt := Registry.lt_of_slot? hslot
        rw [Registry.length_setSlot] at hlt
        rw [Registry.slot?_setSlot none hlt] at hslot
        cases hslot
      · exact .inl (hsame (Registry.slot?_setSlot_ne _ _ (Ne.symm he)))
  | started e' s' hs hs' =>
      obtain ⟨s₀, hs₀, ho⟩ := hact _ e' s' _ _ (.run _ _)
        ((Registry.slot?_touch _ _ _ _).trans hs') hslot
      exact .inl ⟨s₀, (Registry.slot?_touch _ _ _ _).symm.trans hs₀, ho⟩
  | resumed e' pending rest s' hs hdue hs' =>
      exact .inl (hact _ e' s' _ _ (.resumeProgram _ _ _) hs' hslot)
  | vacated e' f hs =>
      by_cases he : e = e'
      · subst he
        cases (Site.slot?_closeSlot x e).symm.trans hslot
      · exact .inl (hsame (Site.slot?_closeSlot_ne x he))
  | _ => exact .inl ⟨s, hslot, hopen⟩

/-- A program that was started stays so. -/
theorem Stride.entered_stays (h : c.Stride id x c' x') (he : c.entered ≠ none) :
    c'.entered ≠ none := by
  cases h with
  | started e' s hs hslot =>
      obtain ⟨replies, stage, hcall, -⟩ := act_call
        { c with entered := some (x.clock, s.descriptor) } e' s
        (x.modifyRegistry (·.touch e' x.clock)) (Program.run x.clock c.program)
      rw [hcall]
      exact Option.some_ne_none _
  | resumed e' pending rest s hs hdue hslot =>
      obtain ⟨replies, stage, hcall, -⟩ := act_call c e' s x (Program.resume x.clock pending rest)
      rw [hcall]
      exact he
  | _ => exact he

end Call

namespace World

variable {w w' v v' : BusWorld} {h : Happening} {id : TaskId} {c : Call} {a : Address}
  {e : EntryId} {d : Int} {u : Instant}

-- ============================================ a program that is started

/-- No program is started at an address. -/
def Idle (a : Address) (w w' : BusWorld) : Prop := ∀ j, w'.started? a j = w.started? a j

instance (a : Address) (w w' : BusWorld) : Decidable (Idle a w w') :=
  decidable_of_iff (∀ j < max w.tasks.length w'.tasks.length, w'.started? a j = w.started? a j) <| by
    refine ⟨fun h j => ?_, fun h j _ => h j⟩
    by_cases hj : j < max w.tasks.length w'.tasks.length
    · exact h j hj
    · -- nobody is there to start a program
      have hnone : ∀ v : BusWorld, v.tasks.length ≤ j → v.started? a j = none := by
        intro v hv
        unfold started? call? task?
        rw [List.getElem?_eq_none hv]
        rfl
      obtain ⟨h₀, h₁⟩ := Nat.max_le.mp (Nat.not_lt.mp hj)
      rw [hnone w h₀, hnone w' h₁]

theorem started?_of_call (hc : w.call? id = some c) (ha : c.address = a) :
    w.started? a id = c.entered := by
  unfold started?
  rw [hc]
  exact if_pos ha

/-- A program that was started stays so, whatever its call goes on to
do. -/
theorem Sound.started_stays (hw : w.Sound) (hs : w.started? a id ≠ none)
    (hp : w.step? id = some w') : w'.started? a id ≠ none := by
  obtain ⟨p, hstarted⟩ := Option.ne_none_iff_exists'.mp hs
  obtain ⟨c, hc, hif⟩ := Option.bind_eq_some_iff.mp hstarted
  split at hif
  next ha =>
    obtain ⟨c', hstep, hc'⟩ := step?_call_eq_some hc hp
    have hst := Call.step_stride hstep (hw.tasks id _ (call?_eq_some.mp hc))
    rw [started?_of_call hc' (hst.address.trans ha)]
    exact hst.entered_stays (by rw [hif]; exact Option.some_ne_none _)
  next => cases hif

/-- A call that is about to start its program starts it. -/
theorem Sound.enters (hw : w.Sound) (hc : w.call? id = some c) (ha : c.address = a)
    (hs : c.stage = .enter e) (hp : w.step? id = some w') : w'.started? a id ≠ none := by
  obtain ⟨c', hstep, hc'⟩ := step?_call_eq_some hc hp
  have hst := Call.step_stride hstep (hw.tasks id _ (call?_eq_some.mp hc))
  rw [started?_of_call hc' (hst.address.trans ha)]
  exact hst.enters hs

-- ====================================================== a session unused

/-- A call holds the lock of an entry and is on its way to its program. -/
def Nears (w : BusWorld) (i : TaskId) (e : EntryId) : Prop :=
  ∃ c, w.call? i = some c ∧ Call.nearing c.stage = some e

/-- The open session of an address, on a certain descriptor, has not been
used since an instant. -/
structure Kept (a : Address) (e : EntryId) (d : Int) (u : Instant) (w : BusWorld) : Prop where
  current : w.site.registry.current? a = some e
  session : ∃ s, w.site.registry.slot? e = some s ∧ s.descriptor = d ∧ s.closed = false
  used : w.site.registry.lastUsed? e = some u
  past : u ≤ w.site.clock
  -- whoever holds the lock is about to start a program
  held : ∀ i t, w.task? i = some t → t.lockHeld = some e → w.Nears i e
  -- nobody waits for it, but for those who waited for the last program
  line : ∀ i ∈ w.site.registry.line e, w.site.clock = u ∨ w.Nears i e

theorem AtRest.not_nears (ha : w.AtRest) (i : TaskId) : ¬ w.Nears i e := by
  rintro ⟨c, hc, hn⟩
  rw [Call.not_nearing_of_atRest (ha i _ (call?_eq_some.mp hc))] at hn
  cases hn

/-- Where everybody is at rest nobody holds the lock. -/
theorem Kept.unheld (hk : w.Kept a e d u) (ha : w.AtRest) {i : TaskId} {t : Task}
    (ht : w.task? i = some t) : t.lockHeld ≠ some e := fun hl => ha.not_nears i (hk.held i t ht hl)

/-- The session is online. -/
theorem Kept.online (hk : w.Kept a e d u) (hw : w.Sound) : w.Online d a := by
  obtain ⟨s, hslot, rfl, hopen⟩ := hk.session
  obtain ⟨hmem, hlink⟩ := hw.owned.slot e s hslot
  rw [hw.seated a e s hk.current hslot, hopen] at hlink
  exact ⟨hmem, hlink⟩

/-- No call of the address has its program before it. -/
theorem Kept.not_acting (hk : w.Kept a e d u) (hw : w.Sound) (ha : w.AtRest)
    (hc : w.call? id = some c) (haddr : c.address = a) (e' : EntryId) :
    Call.engaged c.stage ≠ some e' := by
  intro he
  obtain ⟨hcur, -⟩ := hw.engaged hc he
  rw [haddr, hk.current] at hcur
  cases hcur
  exact hk.unheld ha (call?_eq_some.mp hc) (Call.lockHeld_of_engaged he)

/-- A step of a task that does not hold the lock leaves a session that is
not used, and a task that does holds it on its way to its program. -/
theorem Kept.of_stands (hk : w.Kept a e d u) (id : TaskId)
    (hcur : w'.site.registry.current? a = some e)
    (hslot : w'.site.registry.slot? e = w.site.registry.slot? e)
    (hused : w'.site.registry.lastUsed? e = w.site.registry.lastUsed? e)
    (hclock : w'.site.clock = w.site.clock) (hothers : ∀ j, j ≠ id → w'.task? j = w.task? j)
    (hheld : ∀ t, w'.task? id = some t → t.lockHeld = some e → w'.Nears id e)
    (hline : ∀ i ∈ w'.site.registry.line e, i ≠ id → i ∈ w.site.registry.line e)
    (hself : id ∈ w'.site.registry.line e → w'.site.clock = u ∨ w'.Nears id e) :
    w'.Kept a e d u := by
  have hstill : ∀ i, i ≠ id → w.Nears i e → w'.Nears i e := by
    rintro i hi ⟨c, hc, hn⟩
    exact ⟨c, (call?_congr (hothers i hi)).trans hc, hn⟩
  refine
    { current := hcur
      session := by rw [hslot]; exact hk.session
      used := hused.trans hk.used
      past := hclock ▸ hk.past
      held := fun i t ht hl => ?_
      line := fun i hi => ?_ }
  · by_cases hid : i = id
    · subst hid
      exact hheld t ht hl
    · exact hstill i hid (hk.held i t ((hothers i hid).symm.trans ht) hl)
  · by_cases hid : i = id
    · subst hid
      exact hself hi
    · rw [hclock]
      exact (hk.line i (hline i hi hid)).imp_right (hstill i hid)

/-- A call that gets in line waits behind somebody who was there already,
so the clock has not gone on since the last program. -/
theorem Kept.queues {c' : Call} {x' : BusSite} (hk : w.Kept a e d u) (ha : w.AtRestBut id)
    (hcall : w.call? id = some c) (hst : c.Stride id w.site c' x')
    (hq : (Task.call c').queuedOn = some e) : w.site.clock = u := by
  obtain ⟨hs, hg⟩ := hst.queues (Call.queued_of_queuedOn hq)
  rw [Registry.holder?_request (Registry.lt_of_lastUsed? hk.used)] at hg
  cases hholder : w.site.registry.holder? e with
  | none =>
      rw [hholder] at hg
      exact absurd rfl hg
  | some i =>
      refine (hk.line i (Registry.mem_line_of_holder? hholder)).resolve_right ?_
      rintro ⟨c₀, hc₀, hn⟩
      by_cases hid : i = id
      · subst hid
        cases hcall.symm.trans hc₀
        rw [hs] at hn
        cases hn
      · rw [Call.not_nearing_of_atRest (ha i _ hid (call?_eq_some.mp hc₀))] at hn
        cases hn

/-- A step of whoever holds the lock leaves a session unused, or starts a
program on it: the call is on its way to its program, and finds all as it
has to be. -/
theorem Kept.step_held (hk : w.Kept a e d u) (hc : w.Calm) (hcall : w.call? id = some c)
    (hheld : Call.lockHeld c.stage = some e) (hp : w.step? id = some w') :
    w'.Kept a e d u ∨ w'.started? a id ≠ none := by
  have hw := hc.orderly.sound
  have ht := call?_eq_some.mp hcall
  obtain ⟨c', hstep, hc'⟩ := step?_call_eq_some hcall hp
  have hst := Call.step_stride hstep (hw.tasks id _ ht)
  obtain ⟨hclock, hothers⟩ := hw.step_aside hp
  obtain ⟨c₀, hc₀, hn⟩ := hk.held id _ ht hheld
  cases hcall.symm.trans hc₀
  have haddr : c.address = a :=
    (hc.homed id c e a hcall (Call.entry?_of_lockHeld hheld) hk.current).symm
  obtain ⟨s, hslot, -, hopen⟩ := hk.session
  have hquiet : w'.site = w.site → Call.nearing c'.stage = some e → w'.Kept a e d u := by
    intro hx hn'
    refine hk.of_stands id ?_ ?_ ?_ hclock hothers (fun _ _ _ => ⟨c', hc', hn'⟩) ?_
      (fun _ => .inr ⟨c', hc', hn'⟩)
    · rw [hx]
      exact hk.current
    · rw [hx]
    · rw [hx]
    · rw [hx]
      exact fun _ hi _ => hi
  generalize hx : w'.site = x' at hst hquiet
  cases hst with
  | barred e' hs hd =>
      rw [hc.inUse] at hd
      cases hd
  | rechecked e' hs hd | confirmed e' hs | reused e' s' hs =>
      rw [hs] at hn
      exact .inl (hquiet rfl hn)
  | stale e' hs hcur =>
      rw [hs] at hn
      cases hn
      exact absurd (haddr.symm ▸ hk.current) hcur
  | opened e' s' bus hs hv | failed e' f bus hs hv =>
      rw [hs] at hn
      cases hn
      rw [hv s hslot] at hopen
      cases hopen
  | started e' s' hs => exact .inr (hw.enters hcall haddr hs hp)
  | _ =>
      rw [show c.stage = _ by assumption] at hn
      cases hn

/-- A step of any other call leaves a session unused. -/
theorem Kept.step_free (hk : w.Kept a e d u) (hc : w.Calm) (ha : w.AtRestBut id)
    (hcall : w.call? id = some c) (hfree : Call.lockHeld c.stage ≠ some e)
    (hp : w.step? id = some w') : w'.Kept a e d u := by
  have hw := hc.orderly.sound
  have ht := call?_eq_some.mp hcall
  obtain ⟨c', hstep, hc'⟩ := step?_call_eq_some hcall hp
  have hst := Call.step_stride hstep (hw.tasks id _ ht)
  have ht' := call?_eq_some.mp hc'
  obtain ⟨hclock, hothers⟩ := hw.step_aside hp
  obtain ⟨t₂, ht₂, hreline⟩ := hw.reline (h := .step id) rfl ht hp
  cases ht'.symm.trans ht₂
  have heff := (Call.step_effect hstep (hw.tasks id _ ht) hw.coherent
    (fun e => hw.inLine.front id _ e ht)).1
  -- if it holds the lock now, it has come by it and goes on to its program
  have hnears : Call.lockHeld c'.stage = some e → w'.Nears id e := fun hl =>
    ⟨c', hc', (hst.nears hl).resolve_left hfree⟩
  refine hk.of_stands id ?_ (heff.slots.slot_ne hfree) ?_ hclock hothers ?_
    (fun i hi hne => ((hreline e).mem_ne hne).mp hi) ?_
  · rcases heff.cache.stays hk.current with hcur | ⟨hl, -⟩ | hclear
    · exact hcur
    · exact absurd hl hfree
    · cases hclear
  · rcases hw.lastUsed_perform (h := .step id) hp hk.used with hsame | ⟨k, t, hid, hk', hl, -⟩
    · exact hsame.trans hk.used.symm
    · cases hid
      cases ht.symm.trans hk'
      exact absurd hl hfree
  · intro t htask hl
    cases ht'.symm.trans htask
    exact hnears hl
  · intro hmem
    obtain ⟨t, htask, hstands⟩ := ((hw.perform (h := .step id) hp).inLine.stands id e).mp hmem
    cases ht'.symm.trans htask
    rcases hstands with hl | hq
    · exact .inr (hnears hl)
    · exact .inl (hclock.trans (hk.queues ha hcall hst hq))

/-- A step of a call leaves a session unused, or starts a program on it. -/
theorem Kept.step (hk : w.Kept a e d u) (hc : w.Calm) (ha : w.AtRestBut id)
    (hcall : w.call? id = some c) (hp : w.step? id = some w') :
    w'.Kept a e d u ∨ w'.started? a id ≠ none := by
  by_cases hheld : Call.lockHeld c.stage = some e
  · exact hk.step_held hc hcall hheld hp
  · exact .inl (hk.step_free hc ha hcall hheld hp)

/-- Whoever stands in a line when something has happened beside the steps
stood there before. -/
theorem Calm.stands_beside {i : TaskId} {t' : Task} (hc : w.Calm) (hu : w.Unattended h)
    (hne : ∀ id, h ≠ .step id) (hp : w.perform h = some w') (ht' : w'.task? i = some t')
    (hs : t'.StandsIn e) :
    ∃ t, w.task? i = some t ∧ t.lockHeld = t'.lockHeld ∧ t.queuedOn = t'.queuedOn := by
  rcases hc.before hu hne hp ht' with hf | ⟨t, ht, rfl | rfl | ⟨c, rfl, rfl⟩⟩
  · rcases hs with hs | hs
    · cases hf.lockHeld.symm.trans hs
    · cases hf.queuedOn.symm.trans hs
  · exact ⟨t', ht, rfl, rfl⟩
  · refine ⟨t, ht, ?_⟩
    cases t <;> exact ⟨rfl, rfl⟩
  · -- a call that was dropped has left its line
    obtain ⟨address, program, cancelled, entered, replies, stage⟩ := c
    cases stage <;> rcases hs with hs | hs <;> cases hs

/-- Whatever happens beside the steps leaves a session that is not used.
Time passes only when those who waited for the last program have gone. -/
theorem Kept.beside (hk : w.Kept a e d u) (hc : w.Calm) (ha : w.AtRest)
    (hne : ∀ id, h ≠ .step id) (hpunct : w.Punctual h) (hu : w.Unattended h)
    (hp : w.perform h = some w') : w'.Kept a e d u := by
  have hw := hc.orderly.sound
  obtain ⟨hcache, hslots⟩ := perform_quiet hp hne
  refine
    { current := (congrArg (Keyed.get? · a) hcache).trans hk.current
      session := by rw [hslots]; exact hk.session
      used := ?_
      past := Nat.le_trans hk.past (hw.clock_le hp)
      held := fun i t' ht' hl => ?_
      line := fun i hi => .inl ?_ }
  · rcases hw.lastUsed_perform hp hk.used with hsame | ⟨k, t, hstep, -⟩
    · exact hsame
    · exact absurd hstep (hne k)
  · obtain ⟨t, ht, hlock, -⟩ := hc.stands_beside hu hne hp ht' (.inl hl)
    exact absurd (hlock.trans hl) (hk.unheld ha ht)
  · obtain ⟨t', ht', hs'⟩ := ((hw.perform hp).inLine.stands i e).mp hi
    obtain ⟨t, ht, hlock, hqueue⟩ := hc.stands_beside hu hne hp ht' hs'
    have hi₀ : i ∈ w.site.registry.line e :=
      (hw.inLine.stands i e).mpr ⟨t, ht, hs'.imp hlock.trans hqueue.trans⟩
    have hnow : w.site.clock = u := (hk.line i hi₀).resolve_right (ha.not_nears i)
    rcases clock_beside hne hp with hsame | ⟨length, rfl, -⟩
    · exact hsame.trans hnow
    · -- whoever is at the head of the line could go on
      obtain ⟨j, -, ⟨v, hv⟩ | ⟨c, pending, rest, hj, hstage⟩⟩ := hw.head_moves hi₀
      · cases (hpunct.1 j).symm.trans hv
      · refine absurd ?_ (hk.unheld ha (call?_eq_some.mp hj))
        exact congrArg Call.lockHeld hstage

/-- A call at rest that goes on has not started its program, unless it
carries it out. -/
theorem Calm.unstarted_of_step (hc : w.Calm) (ha : w.AtRest) (hcall : w.call? id = some c)
    (hno : c.address = a → ∀ e, Call.engaged c.stage ≠ some e) (hp : w.step? id = some w') :
    w.started? a id = none := by
  unfold started?
  rw [hcall]
  show (if c.address = a then c.entered else none) = none
  split
  next haddr =>
    have hrest := ha id _ (call?_eq_some.mp hcall)
    have hgoes : c.isOver = false := by
      cases hover : c.isOver with
      | false => rfl
      | true => cases (step?_of_isOver hcall hover).symm.trans hp
    refine hc.unstarted id c hcall ?_
    have hno := hno haddr
    obtain ⟨address, program, cancelled, entered, replies, stage⟩ := c
    cases stage with
    | acting e pending rest => exact absurd rfl (hno e)
    | ended result => cases hgoes
    | dropped => cases hgoes
    | _ => first | rfl | cases hrest
  next => rfl

/-- The turn of a call leaves a session unused where no program is
started. -/
theorem Kept.call (hk : w.Kept a e d u) (hc : w.Calm) (ha : w.AtRest)
    (hcall : w.call? id = some c) (ht : w.Turn id w') (hidle : Idle a w w') :
    w'.Kept a e d u := by
  obtain ⟨w₁, hfirst⟩ := ht.first
  have hnone : w.started? a id = none :=
    hc.unstarted_of_step ha hcall (hk.not_acting hc.orderly.sound ha hcall) hfirst
  have hend := (hc.turn (Q := fun v => (∃ c, v.call? id = some c) ∧
    (v.Kept a e d u ∨ v.started? a id ≠ none)) ha ht ⟨⟨c, hcall⟩, .inl hk⟩ ?_).2.2.2
  · refine hend.resolve_right fun hs => hs ?_
    rw [hidle, hnone]
  · rintro v v' hv hrest ⟨⟨c₁, hc₁⟩, hq⟩ hp
    obtain ⟨c₂, -, hc₂⟩ := step?_call_eq_some hc₁ hp
    refine ⟨⟨c₂, hc₂⟩, ?_⟩
    rcases hq with hk₁ | hs
    · exact hk₁.step hv hrest hc₁ hp
    · exact .inr (hv.orderly.sound.started_stays hs hp)

-- ================================================= the ticker goes by

/-- A ticker at rest stands in no line. -/
theorem Sound.ticker_apart {k : TickerStage} (hw : w.Sound)
    (ht : w.task? id = some (.ticker k)) (hrest : (Task.ticker k).atRest = true) :
    id ∉ w.site.registry.line e := by
  intro hmem
  obtain ⟨t, ht', hs⟩ := (hw.inLine.stands id e).mp hmem
  cases ht.symm.trans ht'
  cases k with
  | sweeping s mark => cases hrest
  | _ => rcases hs with hs | hs <;> cases hs

/-- A ticker that sets out uses no session. -/
theorem Kept.setsOut (hk : w.Kept a e d u) (hc : w.Calm)
    (hp : 0 < w.site.registry.policy.sweepInterval.nanos)
    (ht : w.task? id = some (.ticker .fresh)) (hturn : w.Turn id w') : w'.Kept a e d u := by
  cases hc.setsOut hp ht hturn
  have hline : id ∉ w.site.registry.line e := hc.orderly.sound.ticker_apart ht rfl
  refine hk.of_stands id hk.current rfl rfl rfl (fun j hj => ?_) (fun t htask hl => ?_)
    (fun _ hi _ => hi) (fun hi => absurd hi hline)
  · exact (task?_set ht _ _ j).trans (if_neg hj)
  · cases (task?_set_self ht _ _).symm.trans htask
    cases hl

/-- A sweep that comes too early spares the session. -/
theorem Kept.spared (hk : w.Kept a e d u) (hc : w.Calm) (ha : w.AtRest)
    (hp : 0 < w.site.registry.policy.sweepInterval.nanos)
    (ht : w.task? id = some (.ticker (.sleeping w.site.clock))) (hturn : w.Turn id w')
    (hearly : w.site.clock < u + w.site.registry.policy.idleThreshold.nanos) :
    w'.Kept a e d u := by
  have hw := hc.orderly.sound
  have hswept := hc.orderly.swept (w.tasks.set id (.ticker (.sleeping (Ticker.next w.site.clock
    w.site.clock w.site.registry.policy.sweepInterval))))
  have hline : id ∉ w.site.registry.line e := hw.ticker_apart ht rfl
  have hnot : ∀ q ∈ w.condemned, q.2 ≠ e := by
    rintro q hq rfl
    have hlapsed := (List.mem_filter.mp hq).2
    unfold Site.lapsed at hlapsed
    rw [Bool.and_eq_true, decide_eq_true_iff, Registry.idle_eq hk.used] at hlapsed
    have hle : w.site.registry.policy.idleThreshold.nanos ≤ w.site.clock - u := hlapsed.2
    have hlate := Nat.add_le_of_le_sub hk.past hle
    rw [Nat.add_comm] at hlate
    exact Nat.not_lt.mpr hlate hearly
  have hcalm' : w'.Calm := (hc.occurs (h := .step id) ha True.intro hturn).1
  cases hc.ticks ha hp ht hturn
  have hentry := hswept.kept e hnot
  have hread : ∀ {γ : Type} (d : γ) (f : Entry → γ),
      (w.site.sweptOver w.site.registry.cache).registry.readOff e d f =
        w.site.registry.readOff e d f := fun d f => congrArg (Option.elim · d f) hentry
  refine hk.of_stands id ?_ ?_ (hread _ _) hswept.clock (fun j hj => ?_)
    (fun t htask hl => ?_) (fun i hi _ => ?_) (fun hi => absurd ?_ hline)
  · have hmem : (a, e) ∈ w.site.registry.cache := Keyed.mem_of_get? hk.current
    have hin : (a, e) ∈ (w.site.sweptOver w.site.registry.cache).registry.cache := by
      have hcache : (w.site.sweptOver w.site.registry.cache).registry.cache = _ := hswept.cache
      rw [hcache]
      exact List.mem_filter.mpr ⟨hmem, decide_eq_true fun hq => hnot _ hq rfl⟩
    exact hcalm'.orderly.sound.coherent.listed _ hin
  · exact (Registry.slot?_eq _ _).trans ((hread _ _).trans (Registry.slot?_eq _ _).symm)
  · exact (task?_set ht _ _ j).trans (if_neg hj)
  · cases (task?_set_self ht _ _).symm.trans htask
    cases hl
  · rwa [Registry.line_congr ⟨hread _ _, hread _ _⟩] at hi
  · rwa [Registry.line_congr ⟨hread _ _, hread _ _⟩] at hi

-- ====================================================== a session gone

/-- What happens to a registry is written down, and nothing is struck
out. -/
theorem Change.trace {who : Option TaskId} (hc : Change who w w') :
    ∃ new, w'.site.bus.trace = new ++ w.site.bus.trace := by
  cases hc with
  | begun t hf htasks hb hr => exact ⟨[], congrArg Recorded.trace hb⟩
  | beside htasks hl ht hr => exact ⟨[], ht⟩
  | task j t t' hid ht htasks heff hs hp hf =>
      cases heff.slots with
      | idle hl htrace hslots => exact ⟨[], htrace⟩
      | acted e s s' kept hh hk h h' hslots hc =>
          obtain ⟨new, htrace, -⟩ := hc.made
          exact ⟨new, htrace⟩
      | asked e a o r hh ha h h' hslots hc =>
          obtain ⟨bus, d, -, hrun⟩ := Site.run_connect_recorded a o w.site.bus
          rw [hrun] at hc
          refine ⟨[⟨.openDevice (Session.request a o), some d, RawBus.registers bus⟩], ?_⟩
          split at hc <;> exact congrArg (fun p => p.2.trace) hc.symm

/-- A descriptor that was opened has been opened. -/
theorem Sound.opened_reaches (hw : w.Sound) (hr : w.Reaches w') (hd : d ∈ w.site.bus.opened) :
    d ∈ w'.site.bus.opened := by
  refine hw.induct (P := fun v => d ∈ v.site.bus.opened) hr hd fun v h v' hv hmem hp => ?_
  obtain ⟨new, htrace⟩ := (hv.perform_change hp).trace
  unfold Recorded.opened
  rw [htrace, List.filterMap_append]
  exact List.mem_append_right _ hmem

/-- A descriptor was opened and has been taken offline, once. -/
def Offline (w : BusWorld) (d : Int) : Prop :=
  d ∈ w.site.bus.opened ∧ w.site.bus.offlineCalls d = 1

theorem Offline.not_online (ho : w.Offline d) (hw : w.Sound) : ¬ w.Online d a := by
  rintro ⟨hmem, hlink⟩
  obtain ⟨a', online, hlink', hcount⟩ := hw.owned.linked d hmem
  rw [hlink] at hlink'
  cases hlink'
  cases ho.2.symm.trans hcount

theorem Sound.offline_of_link (hw : w.Sound) (hmem : d ∈ w.site.bus.opened)
    (hlink : w.site.bus.bus.link? d = some ⟨a, false⟩) : w.Offline d := by
  obtain ⟨a', online, hlink', hcount⟩ := hw.owned.linked d hmem
  rw [hlink] at hlink'
  cases hlink'
  exact ⟨hmem, hcount⟩

/-- A descriptor that was taken offline stays offline. -/
theorem Offline.reaches (ho : w.Offline d) (hw : w.Sound) (hr : w.Reaches w') :
    w'.Offline d := by
  refine hw.induct (P := fun v => v.Offline d) hr ho fun v h v' hv hoff hp => ?_
  have hmem := hv.opened_reaches (.perform hp) hoff.1
  obtain ⟨new, htrace⟩ := (hv.perform_change hp).trace
  have hle := Site.offlineCalls_append htrace d
  rw [hoff.2] at hle
  obtain ⟨a, online, -, hcount⟩ := (hv.perform hp).owned.linked d hmem
  refine ⟨hmem, ?_⟩
  cases online with
  | false => exact hcount
  | true =>
      rw [hcount] at hle
      exact absurd hle (by simp)

/-- There is no open session at an address, and no call has one before
it. -/
structure Bare (a : Address) (w : BusWorld) : Prop where
  vacant : ∀ e s, w.site.registry.current? a = some e → w.site.registry.slot? e = some s →
    s.closed = true
  idle : ∀ i c e, w.call? i = some c → c.address = a → Call.engaged c.stage ≠ some e

/-- A step leaves an address without a session, or it is that of a call
which goes on to its program. -/
theorem Bare.step (hb : Bare a w) (hc : w.Calm) (hcall : w.call? id = some c)
    (hp : w.step? id = some w') : Bare a w' ∨
      ∃ c' e, w'.call? id = some c' ∧ c'.address = a ∧ c'.stage = .enter e := by
  have hw := hc.orderly.sound
  obtain ⟨c', hstep, hc'⟩ := step?_call_eq_some hcall hp
  have hst := Call.step_stride hstep (hw.tasks id _ (call?_eq_some.mp hcall))
  by_cases henter : c.address = a ∧ ∃ e, c'.stage = .enter e
  · obtain ⟨haddr, e, hs⟩ := henter
    exact .inr ⟨c', e, hc', hst.address.trans haddr, hs⟩
  · refine .inl ⟨fun e s hcur hslot => ?_, fun i c₁ e hc₁ haddr he => ?_⟩
    · cases hopen : s.closed with
      | true => rfl
      | false =>
          exfalso
          have hold : ∀ {e}, e < w.site.registry.entries.length →
              w'.site.registry.current? a = some e → w.site.registry.current? a = some e :=
            fun hlt hcur => (hw.perform_change (h := .step id) hp).old hcur hlt
          rcases hst.slot_from hslot hopen with ⟨s₀, hs₀, hopen₀⟩ | ⟨hs, hs'⟩
          · rw [hb.vacant e s₀ (hold (Registry.lt_of_slot? hs₀) hcur) hs₀] at hopen₀
            cases hopen₀
          · have hentry : Call.entry? c.stage = some e := by rw [hs]; rfl
            exact henter ⟨(hc.homed id c e a hcall hentry
              (hold (hw.entry_lt hcall hentry) hcur)).symm, e, hs'⟩
    · by_cases hid : i = id
      · subst hid
        cases hc'.symm.trans hc₁
        have haddr₀ : c.address = a := hst.address.symm.trans haddr
        rcases hst.engages he with hbefore | hs
        · exact hb.idle i c e hcall haddr₀ hbefore
        · exact henter ⟨haddr₀, e, hs⟩
      · have hsame := call?_other (h := .step id) rfl hp hid
        exact hb.idle i c₁ e (hsame.symm.trans hc₁) haddr he

/-- The turn of a call leaves an address without a session where no
program is started. -/
theorem Bare.call (hb : Bare a w) (hc : w.Calm) (ha : w.AtRest) (hcall : w.call? id = some c)
    (ht : w.Turn id w') (hidle : Idle a w w') : Bare a w' := by
  obtain ⟨w₁, hfirst⟩ := ht.first
  have hnone : w.started? a id = none :=
    hc.unstarted_of_step ha hcall (fun haddr e => hb.idle id c e hcall haddr) hfirst
  obtain ⟨-, hrest', ⟨c₁, hc₁⟩, hend⟩ := hc.turn (Q := fun v => (∃ c, v.call? id = some c) ∧
    (Bare a v ∨ (∃ c e, v.call? id = some c ∧ c.address = a ∧ c.stage = .enter e) ∨
      v.started? a id ≠ none)) ha ht ⟨⟨c, hcall⟩, .inl hb⟩ (by
    rintro v v' hv - ⟨⟨c₁, hc₁⟩, hq⟩ hp
    obtain ⟨c₂, -, hc₂⟩ := step?_call_eq_some hc₁ hp
    refine ⟨⟨c₂, hc₂⟩, ?_⟩
    rcases hq with hbare | ⟨c₃, e, hc₃, haddr, hs⟩ | hs
    · exact (hbare.step hv hc₁ hp).imp_right .inl
    · exact .inr (.inr (hv.orderly.sound.enters hc₃ haddr hs hp))
    · exact .inr (.inr (hv.orderly.sound.started_stays hs hp)))
  rcases hend with hbare | ⟨c₂, e, hc₂, -, hs⟩ | hs
  · exact hbare
  · -- nobody rests who is about to start a program
    have hrest := hrest' id _ (call?_eq_some.mp hc₂)
    obtain ⟨address, program, cancelled, entered, replies, stage⟩ := c₂
    cases hs
    cases hrest
  · exact absurd ((hidle id).trans hnone) hs

/-- A sweep opens nothing. -/
theorem Bare.sweeps {k : TickerStage} (hb : Bare a w) (hw : w.Sound)
    (ht : w.task? id = some (.ticker k)) (hp : w.step? id = some w') : Bare a w' := by
  have hothers := (hw.step_aside hp).2
  have hch := hw.perform_change (h := .step id) hp
  have hslots : ∀ e s, w'.site.registry.slot? e = some s → w.site.registry.slot? e = some s := by
    obtain ⟨t, t', x', ht', hstep, rfl⟩ := step?_eq_some hp
    cases ht.symm.trans ht'
    obtain ⟨q, hk, heq⟩ := Option.map_eq_some_iff.mp hstep
    cases heq
    have hcases : q.2 = w.site ∨ ∃ s s' mark, k = .sweeping s mark ∧
        s.Stride id w.site s' q.2 := Ticker.step_cases hk
    rcases hcases with hx | ⟨s, s', mark, -, hst⟩
    · intro e s hslot
      change q.2.registry.slot? e = some s at hslot
      rwa [hx] at hslot
    · exact fun e s hslot => hst.slot_from hslot
  refine ⟨fun e s hcur hslot => ?_, fun i c e hc haddr => ?_⟩
  · have hold := hslots e s hslot
    exact hb.vacant e s (hch.old hcur (Registry.lt_of_slot? hold)) hold
  · by_cases hid : i = id
    · subst hid
      cases hch.came hc with
      | inl hnone => cases hnone.1.symm.trans ht
      | inr hcame =>
          obtain ⟨c₀, hc₀⟩ := hcame
          cases ht.symm.trans (call?_eq_some.mp hc₀)
    · exact hb.idle i c e ((call?_congr (hothers i hid)).symm.trans hc) haddr

/-- Whatever happens beside the steps leaves an address without a
session. -/
theorem Bare.beside (hb : Bare a w) (hc : w.Calm) (hne : ∀ id, h ≠ .step id)
    (hu : w.Unattended h) (hp : w.perform h = some w') : Bare a w' := by
  obtain ⟨hcache, hslots⟩ := perform_quiet hp hne
  refine ⟨fun e s hcur hslot => ?_, fun i c e hcall haddr he => ?_⟩
  · rw [hslots] at hslot
    exact hb.vacant e s ((congrArg (Keyed.get? · a) hcache).symm.trans hcur) hslot
  · rcases hc.before hu hne hp (call?_eq_some.mp hcall) with hf | ⟨t, ht, rfl | hcancel | hdrop⟩
    · cases hf with
      | call hs =>
          rw [hs] at he
          cases he
    · exact hb.idle i c e (call?_eq_some.mpr ht) haddr he
    · cases t with
      | call c₀ =>
          cases hcancel
          exact hb.idle i c₀ e (call?_eq_some.mpr ht) haddr he
      | _ => cases hcancel
    · obtain ⟨⟨address, program, cancelled, entered, replies, stage⟩, rfl, hdrop⟩ := hdrop
      cases hdrop
      cases stage <;> cases he

/-- An address without a session stays without one as long as no program
is started. -/
theorem Bare.occurs (hb : Bare a w) (hc : w.Calm) (ha : w.AtRest) (hu : w.Unattended h)
    (ho : w.Occurs h w') (hidle : Idle a w w') : Bare a w' := by
  rcases ho.turn_or_beside with ⟨id, rfl, hturn⟩ | ⟨hne, hp⟩
  · obtain ⟨w₁, hfirst⟩ := hturn.first
    obtain ⟨t, -, -, ht, -⟩ := step?_eq_some hfirst
    rcases hc.kinds id t ht with ⟨c, rfl⟩ | ⟨k, rfl, -⟩
    · exact hb.call hc ha (call?_eq_some.mpr ht) hturn hidle
    · refine (hc.turn (Q := fun v => (∃ k, v.task? id = some (.ticker k)) ∧ Bare a v) ha hturn
        ⟨⟨k, ht⟩, hb⟩ ?_).2.2.2
      rintro v v' hv - ⟨⟨k₁, ht₁⟩, hbare⟩ hp
      refine ⟨?_, hbare.sweeps hv.orderly.sound ht₁ hp⟩
      obtain ⟨t₂, t₃, x', ht₂, hgoes, rfl⟩ := step?_eq_some hp
      cases ht₁.symm.trans ht₂
      obtain ⟨q, -, heq⟩ := Option.map_eq_some_iff.mp hgoes
      cases heq
      exact ⟨q.1, task?_set_self ht₁ _ _⟩
  · exact hb.beside hc hne hu hp

end World

end InstrumentBus
