/-
One program at a time on the session of an address.

A call is engaged from the moment it is about to start its program until
the program is over or the call is dropped (`Call.engaged`).
`exclusive_access` says of an engaged call that no other call of its
address is engaged, that the session it finds is open when the program
starts and is at its address, and that until the call itself goes on
nothing touches that session: whatever else happens — other calls, sweeps,
disposals, cancellations, stimuli — the slot is left as it is, no call is
made on the descriptor, and no program is started at the address. As the
call's own steps carry the program out on the very session in the slot,
all calls on the descriptor from the start of the program to its end are
the program's own.

The lock explains only half of it. That two engaged calls of an address
hold the same lock is due to both having found their entry current; and
that a sweep or a disposal with an old list of entries does no harm is
due to their closing nothing without the lock.
-/
import InstrumentBus.Proofs.Registry.Sound

namespace InstrumentBus

-- ===================================================== what is undisturbed

/-- The entry on whose session the program of a call is about to be, or is
being, carried out. -/
def Call.engaged : CallStage → Option EntryId
  | .enter e | .acting e _ _ => some e
  | _ => none

/-- What an engaged call carries out in its next step. -/
def Call.portion (c : Call) (now : Instant) : StateM (Line (Recorded Simulated)) Advance :=
  match c.stage with
  | .acting _ pending rest => Program.resume now pending rest
  | _ => Program.run now c.program

/-- When the program of a call was started that goes on now, and on which
descriptor. -/
def Call.start? (c : Call) (s : Session) (now : Instant) : Option (Instant × Int) :=
  match c.stage with
  | .enter _ => some (now, s.descriptor)
  | _ => c.entered

/-- The calls made on a descriptor, the latest first. -/
def Recorded.callsOn {β : Type} (r : Recorded β) (d : Int) : List RawRecord :=
  r.trace.filter (·.call.descriptor? = some d)

/-- A task neither takes a step nor is dropped. -/
def Happening.Spares (id : TaskId) (h : Happening) : Prop := h ≠ .step id ∧ h ≠ .drop id

/-- When a call of an address started its program, and on which descriptor. -/
def World.started? (w : BusWorld) (a : Address) (j : TaskId) : Option (Instant × Int) :=
  (w.call? j).bind fun c => if c.address = a then c.entered else none

/-- What an engaged call is entitled to between its own steps. -/
structure World.Undisturbed (id : TaskId) (c : Call) (e : EntryId) (s : Session) (w w' : BusWorld) :
    Prop where
  -- the call stands where it stood; its token may have been cancelled
  call : ∃ cancelled, w'.call? id = some { c with cancelled }
  -- its session is in the slot as it was
  slot : w'.site.registry.slot? e = some s
  -- nobody has made a call on the session's descriptor
  calls : w'.site.bus.callsOn s.descriptor = w.site.bus.callsOn s.descriptor
  -- nobody has taken the descriptor offline
  link : w'.site.bus.bus.link? s.descriptor = w.site.bus.bus.link? s.descriptor
  -- no other call of the address has started its program
  others : ∀ j, j ≠ id → w'.started? c.address j = w.started? c.address j

theorem Call.lockHeld_of_engaged {stage : CallStage} {e : EntryId}
    (h : engaged stage = some e) : lockHeld stage = some e := by
  cases stage <;> first | exact h | cases h

variable {id : TaskId} {c : Call} {e : EntryId} {s : Session}

-- ================================================= what the steps leave alone

namespace Site

variable {x x' : BusSite} {held : Option EntryId}

theorem callsOn_append {b b' : Recorded Simulated} {new : List RawRecord} {d d' : Int}
    (ht : b'.trace = new ++ b.trace) (hn : ∀ r ∈ new, r.call.descriptor? = some d) (hne : d ≠ d') :
    b'.callsOn d' = b.callsOn d' := by
  unfold Recorded.callsOn
  rw [ht, List.filter_append]
  rw [List.filter_eq_nil_iff.mpr fun r hr hd => hne ?_]
  · rfl
  · exact Option.some.inj ((hn r hr).symm.trans (of_decide_eq_true hd))

/-- A step leaves the session in a slot alone unless the task that takes
it holds the lock. -/
theorem Turnover.spared (ho : x.Owned) (h : Turnover held x x') (hne : held ≠ some e)
    (hs : x.registry.slot? e = some s) :
    x'.registry.slot? e = some s ∧ x'.bus.callsOn s.descriptor = x.bus.callsOn s.descriptor ∧
      x'.bus.bus.link? s.descriptor = x.bus.bus.link? s.descriptor := by
  refine ⟨(h.slot_ne hne).trans hs, ?_⟩
  cases h with
  | idle hl ht hslots => exact ⟨congrArg (List.filter _) ht, congrArg (Keyed.get? · _) hl.1⟩
  | acted e₀ s₀ s₁ kept hh hk h h' hslots hc =>
      have hd : s₀.descriptor ≠ s.descriptor := fun hd =>
        hne (hh.trans (congrArg some (ho.unique e₀ e s₀ s h hs hd)))
      obtain ⟨new, ht, hn, -⟩ := hc.made
      exact ⟨callsOn_append ht (fun r hr => (hn r hr).1) hd, hc.others _ (Ne.symm hd)⟩
  | asked e₀ a o r hh ha h h' hslots hc =>
      have hmem := (ho.slot e s hs).1
      obtain ⟨bus, d, hopen, hrun⟩ := run_connect_recorded a o x.bus
      rw [hrun] at hc
      have hb : x'.bus = x.bus.note bus (.openDevice (Session.request a o)) (some d) := by
        split at hc <;> exact (Prod.mk.inj hc).2.symm
      rw [hb]
      refine ⟨List.filter_cons_of_neg (by simp [RawCall.descriptor?]), ?_⟩
      show bus.link? s.descriptor = _
      by_cases hd : d < 0
      · exact congrArg (Keyed.get? · _) (openDevice_refused ho.nonneg hopen hd).1
      · obtain ⟨hnext, -, hlinks⟩ := openDevice_granted hopen hd
        rw [hlinks, if_neg]
        intro heq
        have := ho.below _ hmem
        omega

end Site

namespace World

variable {w w' : BusWorld}

-- ======================================================== engaged calls

/-- An engaged call is on the current entry of its address, with a session
of that address in the slot. -/
theorem Sound.engaged (hw : w.Sound) (hc : w.call? id = some c)
    (he : Call.engaged c.stage = some e) :
    w.site.registry.current? c.address = some e ∧
      ∃ s, w.site.registry.slot? e = some s ∧ s.address = c.address := by
  have hs := hw.tasks id _ (call?_eq_some.mp hc)
  obtain ⟨address, program, cancelled, entered, replies, stage⟩ := c
  cases stage with
  | enter e' =>
      cases he
      obtain ⟨hcur, s, hslot, -⟩ := hs
      exact ⟨hcur, s, hslot, hw.seated _ _ _ hcur hslot⟩
  | acting e' pending rest =>
      cases he
      obtain ⟨hcur, s, -, hslot, -⟩ := hs
      exact ⟨hcur, s, hslot, hw.seated _ _ _ hcur hslot⟩
  | _ => cases he

/-- A program is started with an open session. -/
theorem Sound.starts_open (hw : w.Sound) (hc : w.call? id = some c) (he : c.stage = .enter e)
    (hs : w.site.registry.slot? e = some s) :
    s.closed = false ∧ w.site.bus.bus.link? s.descriptor = some ⟨s.address, true⟩ := by
  have hsound := hw.tasks id _ (call?_eq_some.mp hc)
  obtain ⟨address, program, cancelled, entered, replies, stage⟩ := c
  cases he
  obtain ⟨-, s', hslot, hopen⟩ := hsound
  rw [hs] at hslot
  cases hslot
  refine ⟨hopen, ?_⟩
  have hlink := (hw.owned.slot e s hs).2
  rwa [hopen] at hlink

/-- A program that pauses was started on the session that is in the slot. -/
theorem Sound.pauses_on (hw : w.Sound) (hc : w.call? id = some c) {pending : Pending}
    {rest : Program} (he : c.stage = .acting e pending rest)
    (hs : w.site.registry.slot? e = some s) : ∃ t, c.entered = some (t, s.descriptor) := by
  have hsound := hw.tasks id _ (call?_eq_some.mp hc)
  obtain ⟨address, program, cancelled, entered, replies, stage⟩ := c
  cases he
  obtain ⟨-, s', t, hslot, hent⟩ := hsound
  rw [hs] at hslot
  cases hslot
  exact ⟨t, hent⟩

/-- At most one call of an address is engaged. -/
theorem Sound.engaged_inj (hw : w.Sound) {j : TaskId} {c' : Call} {e' : EntryId}
    (hc : w.call? id = some c) (he : Call.engaged c.stage = some e)
    (hc' : w.call? j = some c') (he' : Call.engaged c'.stage = some e')
    (ha : c'.address = c.address) : j = id := by
  have hcur := (hw.engaged hc he).1
  have hcur' := (hw.engaged hc' he').1
  rw [ha, hcur] at hcur'
  cases hcur'
  exact hw.lock_inj (call?_eq_some.mp hc') (call?_eq_some.mp hc) (Call.lockHeld_of_engaged he')
    (Call.lockHeld_of_engaged he)

theorem call?_congr {i : TaskId} (h : w'.task? i = w.task? i) : w'.call? i = w.call? i := by
  unfold call?
  rw [h]

/-- While a call is engaged, a step of another task starts no program at
its address. -/
theorem Sound.started_same (hw : w.Sound) (hc : w.call? id = some c)
    (he : Call.engaged c.stage = some e) {j : TaskId} {t t' : Task} (hj : w.task? j = some t)
    (hj' : w'.task? j = some t') (hne : j ≠ id) (hf : t.Follows t') :
    w'.started? c.address j = w.started? c.address j := by
  unfold started?
  cases hf with
  | @call u u' haddr hprog hent =>
      have hu := call?_eq_some.mpr hj
      rw [hu, call?_eq_some.mpr hj']
      show (if u'.address = c.address then u'.entered else none) =
        if u.address = c.address then u.entered else none
      rw [haddr]
      split
      next ha =>
        rcases hent with hent | ⟨e', hstage⟩
        · exact hent
        · exact absurd (hw.engaged_inj hc he hu (by rw [hstage]; rfl) ha) hne
      next => rfl
  | _ =>
      unfold call?
      rw [hj, hj']

/-- Nothing that concerns another task disturbs an engaged call. -/
theorem Sound.undisturbed_change (hw : w.Sound) {who : Option TaskId} (hch : Change who w w')
    (hwho : who ≠ some id) (hc : w.call? id = some c) (he : Call.engaged c.stage = some e)
    (hs : w.site.registry.slot? e = some s) : Undisturbed id c e s w w' := by
  have ht := call?_eq_some.mp hc
  cases hch with
  | task j t t' hid hj hw' heff hs' hp hf =>
      have hne : j ≠ id := fun heq => hwho (heq ▸ hid)
      have hheld : t.lockHeld ≠ some e := fun hl =>
        hne (hw.lock_inj hj ht hl (Call.lockHeld_of_engaged he))
      obtain ⟨hslot, hcalls, hlink⟩ := heff.slots.spared hw.owned hheld hs
      refine ⟨⟨c.cancelled, call?_eq_some.mpr ?_⟩, hslot, hcalls, hlink, fun i hi => ?_⟩
      · exact (hw' id).trans ((if_neg (Ne.symm hne)).trans ht)
      · by_cases hij : i = j
        · subst hij
          exact hw.started_same hc he hj ((hw' i).trans (if_pos rfl)) hi hf
        · unfold started?
          rw [call?_congr ((hw' i).trans (if_neg hij))]
  | begun t hf hw' hb hr =>
      have hkept : ∀ i, i ≠ w.nextId → w'.call? i = w.call? i := fun i hi =>
        call?_congr ((hw' i).trans (if_neg hi))
      have hid : id ≠ w.nextId := by
        intro heq
        rw [heq, task?_nextId] at ht
        cases ht
      refine ⟨⟨c.cancelled, (hkept id hid).trans hc⟩, (hr.slot e).trans hs, by rw [hb], by rw [hb],
        fun i hi => ?_⟩
      unfold started?
      by_cases hnew : i = w.nextId
      · subst hnew
        unfold call?
        rw [hw', if_pos rfl, task?_nextId]
        cases hf with
        | @call c' h he' =>
            show (if c'.address = c.address then c'.entered else none) = none
            rw [he', ite_self]
        | _ => rfl
      · rw [hkept i hnew]
  | beside hw' hl htrace hr =>
      refine ⟨⟨c.cancelled, (call?_congr (hw' id)).trans hc⟩, by rw [hr]; exact hs,
        congrArg (List.filter _) htrace, congrArg (Keyed.get? · _) hl.1, fun i hi => ?_⟩
      unfold started?
      rw [call?_congr (hw' i)]

/-- Nothing disturbs an engaged call between its own steps. -/
theorem Sound.undisturbed_perform (hw : w.Sound) {h : Happening} (hp : w.perform h = some w')
    (hh : h.Spares id) (hc : w.call? id = some c) (he : Call.engaged c.stage = some e)
    (hs : w.site.registry.slot? e = some s) : Undisturbed id c e s w w' := by
  by_cases hcancel : h = .cancel id
  · subst hcancel
    cases hp
    have htask := task?_cancel w id
    refine ⟨⟨true, call?_eq_some.mpr ?_⟩, hs, rfl, rfl, fun j hj => ?_⟩
    · rw [htask, if_pos rfl, call?_eq_some.mp hc]
      rfl
    · unfold started?
      rw [call?_congr ((htask j).trans (if_neg hj))]
  · refine hw.undisturbed_change (hw.perform_change hp) (fun hsub => ?_) hc he hs
    cases h with
    | step j => exact hh.1 (congrArg _ (Option.some.inj hsub))
    | drop j => exact hh.2 (congrArg _ (Option.some.inj hsub))
    | cancel j => exact hcancel (congrArg _ (Option.some.inj hsub))
    | _ => cases hsub

theorem Undisturbed.refl (hc : w.call? id = some c) (hs : w.site.registry.slot? e = some s) :
    Undisturbed id c e s w w := ⟨⟨c.cancelled, hc⟩, hs, rfl, rfl, fun _ _ => rfl⟩

theorem Undisturbed.trans {w₁ w₂ w₃ : BusWorld} {cancelled : Bool}
    (hw : Undisturbed id c e s w₁ w₂) (hw' : Undisturbed id { c with cancelled } e s w₂ w₃) :
    Undisturbed id c e s w₁ w₃ :=
  ⟨hw'.call, hw'.slot, hw'.calls.trans hw.calls, hw'.link.trans hw.link,
    fun j hj => (hw'.others j hj).trans (hw.others j hj)⟩

/-- Nor does any number of happenings. -/
theorem Sound.undisturbed (hw : w.Sound) {hs : List Happening} (hspare : ∀ h ∈ hs, h.Spares id)
    (hrun : w.run hs = some w') (hc : w.call? id = some c) (he : Call.engaged c.stage = some e)
    (hslot : w.site.registry.slot? e = some s) : Undisturbed id c e s w w' := by
  induction hs generalizing w c with
  | nil =>
      cases hrun
      exact .refl hc hslot
  | cons h rest ih =>
      obtain ⟨w₁, hp, hrest⟩ := Option.bind_eq_some_iff.mp hrun
      have hund := hw.undisturbed_perform hp (hspare h List.mem_cons_self) hc he hslot
      obtain ⟨cancelled, hc₁⟩ := hund.call
      have hw₁ := hw.change (hw.perform_change hp)
      exact hund.trans
        (ih hw₁ (fun h' hmem => hspare h' (List.mem_cons_of_mem h hmem)) hrest hc₁ he hund.slot)

-- ===================================================== the program at work

/-- What an engaged call does in a step of its own: it carries out a
portion of its program on the session in the slot, and then either pauses
or is about to let go of the session. -/
structure Proceeds (id : TaskId) (c : Call) (e : EntryId) (s : Session) (w w' : BusWorld) :
    Prop where
  bus : w'.site.bus = ((c.portion w.site.clock).run (s, w.site.bus)).2.2
  slot : w'.site.registry.slot? e = some ((c.portion w.site.clock).run (s, w.site.bus)).2.1
  call : ∃ c', w'.call? id = some c' ∧ c'.address = c.address ∧
    c'.entered = c.start? s w.site.clock ∧
    ((∃ pending rest, c'.stage = .acting e pending rest) ∨ ∃ result, c'.stage = .leave e result)

theorem Proceeds.of_act {c₀ : Call} {x : BusSite}
    {run : StateM (Line (Recorded Simulated)) Advance} (ht : w.task? id = some (.call c))
    (hw : w' = ⟨(c₀.act e s x run).2, w.tasks.set id (.call (c₀.act e s x run).1)⟩)
    (hslot : x.registry.slot? e = some s) (hbus : x.bus = w.site.bus)
    (hrun : c.portion w.site.clock = run) (ha : c₀.address = c.address)
    (hent : c₀.entered = c.start? s w.site.clock) : Proceeds id c e s w w' := by
  obtain ⟨replies, stage, hcall, hstage⟩ := Call.act_call c₀ e s x run
  subst hw
  refine ⟨?_, ?_, _, call?_eq_some.mpr ((task?_set ht _ _ id).trans (if_pos rfl)), ?_⟩
  · rw [hrun, ← hbus]
    exact Call.bus_act c₀ e s x run
  · rw [hrun, ← hbus]
    exact (Call.slot?_act c₀ e s x run hslot).1
  · rw [hcall]
    exact ⟨ha, hent, hstage⟩

theorem step_engaged (hc : w.call? id = some c) (he : Call.engaged c.stage = some e)
    (hs : w.site.registry.slot? e = some s) (hstep : w.step? id = some w') :
    Proceeds id c e s w w' := by
  have ht := call?_eq_some.mp hc
  unfold step? at hstep
  rw [ht] at hstep
  obtain ⟨⟨t', x'⟩, htask, heq⟩ := Option.map_eq_some_iff.mp hstep
  obtain ⟨⟨c', y⟩, hcall, heq'⟩ := Option.map_eq_some_iff.mp htask
  cases heq
  cases heq'
  obtain ⟨address, program, cancelled, entered, replies, stage⟩ := c
  cases stage with
  | enter e' =>
      cases he
      have hslot' : (w.site.registry.touch e w.site.clock).slot? e = some s :=
        (Registry.slot?_touch _ _ _ _).trans hs
      simp only [Call.step, Site.modifyRegistry, hslot'] at hcall
      obtain rfl := congrArg Prod.fst (Option.some.inj hcall)
      obtain rfl := congrArg Prod.snd (Option.some.inj hcall)
      exact .of_act ht rfl hslot' rfl rfl rfl rfl
  | acting e' pending rest =>
      cases he
      simp only [Call.step, hs] at hcall
      split at hcall
      · obtain rfl := congrArg Prod.fst (Option.some.inj hcall)
        obtain rfl := congrArg Prod.snd (Option.some.inj hcall)
        exact .of_act ht rfl hs rfl rfl rfl rfl
      · cases hcall
  | _ => cases he

end World

-- ============================================================ all together

/-- Exclusive access. In every run, an engaged call is the only one of its
address; the session it starts its program with is open and at that
address, and it carries out the program on the session in the slot; and
until it goes on, whatever else happens leaves the session alone, makes no
call on its descriptor and starts no program at its address. -/
theorem World.exclusive_access {b : Simulated} {options : SessionOptions} {policy : SweepPolicy}
    {w : BusWorld} (hb : 0 ≤ b.nextDescriptor) (hr : (World.unused b options policy).Reaches w)
    (hc : w.call? id = some c) (he : Call.engaged c.stage = some e) :
    (∀ j c', w.call? j = some c' → c'.address = c.address → (Call.engaged c'.stage).isSome →
      j = id) ∧
    ∃ s, w.site.registry.slot? e = some s ∧ s.address = c.address ∧
      (c.stage = .enter e →
        s.closed = false ∧ w.site.bus.bus.link? s.descriptor = some ⟨s.address, true⟩) ∧
      (∀ pending rest, c.stage = .acting e pending rest →
        ∃ t, c.entered = some (t, s.descriptor)) ∧
      (∀ w', w.step? id = some w' → Proceeds id c e s w w') ∧
      ∀ hs w', (∀ h ∈ hs, h.Spares id) → w.run hs = some w' → Undisturbed id c e s w w' := by
  have hw : w.Sound := hr.sound (sound_unused hb options policy)
  obtain ⟨hcur, s, hslot, haddr⟩ := hw.engaged hc he
  refine ⟨fun j c' hc' ha hsome => ?_, s, hslot, haddr,
    fun hstage => hw.starts_open hc hstage hslot,
    fun _ _ hstage => hw.pauses_on hc hstage hslot, fun w' => step_engaged hc he hslot,
    fun hs w' hspare hrun => hw.undisturbed hspare hrun hc he hslot⟩
  obtain ⟨e', he'⟩ := Option.isSome_iff_exists.mp hsome
  exact hw.engaged_inj hc he hc' he' ha

/-- A call that sleeps on its session, and another one of the same address
in line behind it. -/
def World.contended : List Happening :=
  [.execute ⟨5, 0⟩ [.sleep (.ofSecs 1)] false, .execute ⟨5, 0⟩ [.serialPoll] false] ++
    List.replicate 7 (.step 0) ++ List.replicate 3 (.step 1)

theorem World.exclusive_access_contended :
    ∃ w c s, (World.unused .empty .standard .standard).run World.contended = some w ∧
      w.call? 0 = some c ∧ w.site.registry.slot? 0 = some s ∧ s.address = ⟨5, 0⟩ ∧
      ∀ hs w', (∀ h ∈ hs, h.Spares 0) → w.run hs = some w' → Undisturbed 0 c 0 s w w' := by
  have hrun : (((World.unused .empty .standard .standard).run World.contended).bind
      (·.call? 0)).any (fun c => Call.engaged c.stage == some 0 && c.address == ⟨5, 0⟩) = true := by
    decide +kernel
  obtain ⟨c, hbind, hc⟩ := (Option.any_eq_true _ _).mp hrun
  obtain ⟨w, hw, hcall⟩ := Option.bind_eq_some_iff.mp hbind
  obtain ⟨he, ha⟩ := Bool.and_eq_true_iff.mp hc
  obtain ⟨-, s, hslot, haddr, -, -, -, hund⟩ :=
    World.exclusive_access (by decide) ⟨World.contended, hw⟩ hcall (beq_iff_eq.mp he)
  exact ⟨w, c, s, hw, hcall, hslot, haddr.trans (beq_iff_eq.mp ha), hund⟩

end InstrumentBus
