/-
A program that is dropped, beside one that fails.

A call may be dropped while its program pauses, or the program may come to
its end with a failure at that very instant. For everybody else it is
nearly the same. Either way no call is made on the bus, the lock goes to
the next in line, and the session stays in the cache for whoever comes
next (`World.PassesOn`, `World.NextReuses`). The difference is in when the
entry was last used: a program that ends has used it just then, while a
program that is dropped has used it when it was started, for nobody comes
back to put a later instant there (`World.Stamped`).

So the two go the same way until a sweep goes by the difference, and there
they part (`World.Lockstep`): the entry of the dropped program may be
given up although it was in use less than the threshold ago
(`World.drop_unlike_failure`).
-/
import InstrumentBus.Proofs.Registry.Shifted

namespace InstrumentBus

-- ============================================ the instant of the start

namespace Call

variable {id : TaskId} {c c' : Call} {x x' : BusSite} {e : EntryId} {pending : Pending}
  {rest : Program}

/-- The entry on whose session the program of a call pauses. -/
def pausing : CallStage → Option EntryId
  | .acting e _ _ => some e
  | _ => none

theorem pausing_eq_some {stage : CallStage} :
    pausing stage = some e ↔ ∃ pending rest, stage = .acting e pending rest := by
  cases stage <;> simp [pausing]

/-- A program was started at an instant when its entry was last used. -/
def Stamped (c : Call) (e : EntryId) (x : BusSite) : Prop :=
  ∃ t d, c.entered = some (t, d) ∧ x.registry.lastUsed? e = some t ∧ t ≤ x.clock

/-- A program that pauses leaves the instant as it was. -/
theorem act_paused {s : Session} {run : StateM (Line (Recorded Simulated)) Advance}
    {e' : EntryId} (h : (c.act e' s x run).1.stage = .acting e pending rest) : e' = e ∧
      (c.act e' s x run).1.entered = c.entered ∧
      (c.act e' s x run).2.registry.lastUsed? e = x.registry.lastUsed? e := by
  revert h
  unfold act
  rcases run.run (s, x.bus) with ⟨advance, s', bus⟩
  cases advance with
  | paused replies pending' rest' =>
      intro h
      cases h
      exact ⟨rfl, rfl, Registry.lastUsed?_setSlot _ _ _ _⟩
  | done replies result => nofun

theorem Stride.stamped (h : c.Stride id x c' x') (hs : c'.stage = .acting e pending rest)
    (hold : ∀ pending rest, c.stage = .acting e pending rest → c.Stamped e x) :
    c'.Stamped e x' := by
  cases h with
  | started e' s hstage hslot =>
      obtain ⟨rfl, hent, hlast⟩ := act_paused hs
      have hlt : e' < x.registry.entries.length := Registry.lt_of_slot? hslot
      refine ⟨x.clock, s.descriptor, hent, hlast.trans (Registry.lastUsed?_touch hlt), ?_⟩
      rw [clock_act]
      exact Nat.le_refl _
  | resumed e' pending' rest' s hstage hdue hslot =>
      obtain ⟨rfl, hent, hlast⟩ := act_paused hs
      obtain ⟨t, d, hc, ht, hle⟩ := hold pending' rest' hstage
      refine ⟨t, d, hent.trans hc, hlast.trans ht, ?_⟩
      rw [clock_act]
      exact hle
  | _ => cases hs

end Call

namespace World

variable {w w' v v' u : BusWorld} {id j k : TaskId} {c : Call} {e : EntryId} {s : Session}
  {a : Address} {pending : Pending} {rest : Program} {h : Happening}

/-- While a program pauses, its entry was last used when the program was
started. -/
def Stamped (w : BusWorld) : Prop :=
  ∀ id c e pending rest, w.call? id = some c → c.stage = .acting e pending rest →
    c.Stamped e w.site

theorem Stamped.perform (hst : w.Stamped) (hw : w.Sound) (hp : w.perform h = some w') :
    w'.Stamped := by
  intro id c' e pending rest hc' hs'
  rcases (hw.perform_change hp).came hc' with ⟨-, hcheck⟩ | ⟨c, hc⟩
  · rw [hcheck] at hs'
    cases hs'
  · cases hw.fate hc hp with
    | steps c₁ hstep hc₁ =>
        cases hc'.symm.trans hc₁
        have hstride := Call.step_stride hstep (hw.tasks id _ (call?_eq_some.mp hc))
        exact hstride.stamped hs' fun pending rest hs => hst id c e pending rest hc hs
    | cancelled hx hc₁ =>
        cases hc'.symm.trans hc₁
        rw [hx]
        exact hst id c e pending rest hc hs'
    | dropped hx hc₁ =>
        cases hc'.symm.trans hc₁
        obtain ⟨address, program, cancelled, entered, replies, stage⟩ := c
        cases stage <;> cases hs'
    | stays hh hc₁ =>
        cases hc'.symm.trans hc₁
        obtain ⟨t, d, hent, hlast, hle⟩ := hst id c' e pending rest hc hs'
        refine ⟨t, d, hent, ?_, Nat.le_trans hle (hw.clock_le hp)⟩
        rcases hw.lastUsed_perform hp hlast with hsame | ⟨k, u, rfl, hu, hheld, -⟩
        · exact hsame
        · -- only who holds the lock uses the entry, and that is the call itself
          have hown : (Task.call c').lockHeld = some e := by
            show Call.lockHeld c'.stage = some e
            rw [hs']
            rfl
          have hk := hw.lock_inj hu (call?_eq_some.mp hc) hheld hown
          exact absurd (congrArg some hk) hh

theorem stamped_unused (b : Simulated) (options : SessionOptions) (policy : SweepPolicy) :
    (World.unused b options policy).Stamped :=
  fun _ _ _ _ _ hc => (nomatch hc)

theorem Reaches.stamped (hr : w.Reaches w') (hw : w.Sound) (hst : w.Stamped) : w'.Stamped :=
  hw.induct hr hst fun _ _ _ hv hst hp => hst.perform hv hp

-- ====================================================== what is left behind

/-- The lock of an entry goes to the next in line, and nothing else is
done: not on the bus, and not to any session. -/
structure PassesOn (e : EntryId) (w w' : BusWorld) : Prop where
  bus : w'.site.bus = w.site.bus
  clock : w'.site.clock = w.site.clock
  cache : w'.site.registry.cache = w.site.registry.cache
  created : w'.site.registry.created = w.site.registry.created
  disposed : w'.site.registry.disposed = w.site.registry.disposed
  slots : ∀ e', w'.site.registry.slot? e' = w.site.registry.slot? e'
  holder : w'.site.registry.holder? e = (w.site.registry.waiting e).head?
  waiting : w'.site.registry.waiting e = (w.site.registry.waiting e).tail
  others : ∀ e', e' ≠ e → w'.site.registry.holder? e' = w.site.registry.holder? e' ∧
    w'.site.registry.waiting e' = w.site.registry.waiting e'

/-- The next in line, if it is a call whose token is not cancelled and the
registry is in use, gets to the start of its program without anything
happening on the site, and carries the program out on the session that it
finds. -/
def NextReuses (w : BusWorld) (e : EntryId) (s : Session) : Prop :=
  ∀ j c, w.site.registry.holder? e = some j → w.call? j = some c → c.stage = .queued e →
    c.cancelled = false → w.site.registry.disposed = false →
      ∃ w₁ w₂, w.run (List.replicate 4 (.step j)) = some w₁ ∧ w₁.site = w.site ∧
        w₁.step? j = some w₂ ∧ Proceeds j { c with stage := .enter e } e s w₁ w₂

theorem Homed.nextReuses (hm : w.Homed) (hcur : w.site.registry.current? a = some e)
    (hslot : w.site.registry.slot? e = some s) (hopen : s.closed = false) : w.NextReuses e s := by
  intro j c hold hc hs hcancel hd
  have ha : a = c.address := hm j c e a hc (by rw [hs]; rfl) hcur
  have hcheck : w.site.registry.isCurrent c.address e = true := by
    rw [Registry.isCurrent_iff, ← ha]
    exact hcur
  have hnotice : c.step j w.site = some ({ c with stage := .recheck e }, w.site) := by
    unfold Call.step
    rw [hs]
    simp only [hcancel, Bool.false_eq_true, if_false, Registry.holds_iff.mpr hold, if_true]
  obtain ⟨w₁, hw₁, hx₁, hc₁⟩ := step?_of_call hc hnotice
  have hrecheck : Call.step j { c with stage := .recheck e } w₁.site =
      some ({ c with stage := .confirm e }, w₁.site) := by
    simp only [Call.step, hx₁, hd, Bool.false_eq_true, if_false]
  obtain ⟨w₂, hw₂, hx₂, hc₂⟩ := step?_of_call hc₁ hrecheck
  have hconfirm : Call.step j { c with stage := .confirm e } w₂.site =
      some ({ c with stage := .fill e }, w₂.site) := by
    simp only [Call.step, hx₂, hx₁, hcheck, if_true]
  obtain ⟨w₃, hw₃, hx₃, hc₃⟩ := step?_of_call hc₂ hconfirm
  have hx₃' : w₃.site = w.site := hx₃.trans (hx₂.trans hx₁)
  have hfill : Call.step j { c with stage := .fill e } w₃.site =
      some ({ c with stage := .enter e }, w₃.site) := by
    simp only [Call.step, hx₃', Site.fillSlot_of_open hslot hopen]
  obtain ⟨w₄, hw₄, hx₄, hc₄⟩ := step?_of_call hc₃ hfill
  have hx₄' : w₄.site = w.site := hx₄.trans hx₃'
  have hslot₄ : w₄.site.registry.slot? e = some s := by
    rw [hx₄']
    exact hslot
  have henter : (Call.step j { c with stage := .enter e } w₄.site).isSome = true := by
    simp only [Call.step]
    split <;> rfl
  obtain ⟨w₅, hw₅⟩ := step?_of_task (call?_eq_some.mp hc₄) (Option.isSome_map.trans henter)
  refine ⟨w₄, w₅, ?_, hx₄', hw₅, step_engaged hc₄ rfl hslot₄ hw₅⟩
  show (w.step? j).bind _ = _
  rw [hw₁]
  show (w₁.step? j).bind _ = _
  rw [hw₂]
  show (w₂.step? j).bind _ = _
  rw [hw₃]
  show (w₃.step? j).bind _ = _
  rw [hw₄]
  rfl

/-- The two worlds go the same way for as long as no sweep goes by the
difference between the instants, and part where one does. -/
structure Lockstep (id : TaskId) (e : EntryId) (i j : Instant) (v u : BusWorld) : Prop where
  together : ∀ hs, Untold e i j v hs → Option.Rel (Shifted id e i j) (v.run hs) (u.run hs)
  parting : ∀ hs v₁ k, Untold e i j v hs → v.run hs = some v₁ → Tells e i j v₁ (.step k) →
    ∃ a u₁ v₂ u₂, u.run hs = some u₁ ∧ Judges k (.unlink a e) v₁ v₂ ∧ Judges k (.unlock e) u₁ u₂

theorem Shifted.lockstep {i j : Instant} (hs : Shifted id e i j v u) (hij : i ≤ j)
    (hv : v.Sound) : Lockstep id e i j v u where
  together := fun _ hn => hs.run hij hv hn
  parting := by
    intro hs' v₁ k hn hrun htell
    have hrel := hs.run hij hv hn
    rw [hrun] at hrel
    generalize hu : u.run hs' = o at hrel
    cases hrel with
    | @some _ u₁ hs₁ =>
        obtain ⟨a, v₂, u₂, hv₂, hu₂⟩ := hs₁.parts htell
        exact ⟨a, u₁, v₂, u₂, rfl, hv₂, hu₂⟩

/-- In no run from here on does a sweep condemn an entry that was begun
sooner than the threshold after an instant. -/
def KeptSince (w : BusWorld) (e : EntryId) (i : Instant) : Prop :=
  ∀ w₁ w₂ k t s a, w.Reaches w₁ → w₁.task? k = some t → t.Sweeps s → s.stage = .judge a e →
    Judges k (.unlink a e) w₁ w₂ → w₁.site.registry.policy.idleThreshold.nanos ≤ s.began - i

theorem UsedSince.kept {i : Instant} (hu : w.UsedSince e i) (hw : w.Sound) : w.KeptSince e i :=
  fun _ _ _ _ _ _ hr ht hs hstage hj => (hu.reaches hw hr).condemned ht hs hstage hj

-- ================================================ dropped, and failed

/-- The world in which the program of a call has come to its end, just
now, with a failure. -/
def failNow (w : BusWorld) (id : TaskId) (c : Call) (e : EntryId) (s : Session) (f : Failure) :
    BusWorld :=
  let p := c.act e s w.site (pure (.done [] (.error f)))
  ⟨p.2, w.tasks.set id (.call p.1)⟩

/-- A program can come to such an end. -/
theorem Sound.failNow (hw : w.Sound) (hc : w.call? id = some c)
    (hs : c.stage = .acting e pending rest) (hslot : w.site.registry.slot? e = some s)
    (f : Failure) : (w.failNow id c e s f).Sound := by
  have ht := call?_eq_some.mp hc
  have hin : (Task.call c).admitted = some e := by
    show Call.admitted c.stage = some e
    rw [hs]
    rfl
  have hchange : Change (some id) w (w.failNow id c e s f) :=
    .task id (.call c) _ rfl ht (task?_set ht _ _)
      (Call.act_effect hin hslot (.pure _) (.refl _) rfl) True.intro nofun
      (.call rfl rfl (.inl rfl))
  exact hw.change hchange

/-- The call is told, and the lock is released. -/
theorem step_failNow (hc : w.call? id = some c) (hslot : w.site.registry.slot? e = some s)
    (f : Failure) : ∃ c', c'.isOver = true ∧ (w.failNow id c e s f).step? id =
      some ⟨(w.site.modifyRegistry (·.modifyLock e (·.release))).usedAt e w.site.clock,
        w.tasks.set id (.call c')⟩ := by
  have hact : c.act e s w.site (pure (.done [] (.error f))) =
      ({ c with stage := .leave e (.error f) }, w.site.usedAt e w.site.clock) := by
    show ((_ : Call), (⟨w.site.bus, w.site.clock,
      (w.site.registry.setSlot e (some s)).touch e w.site.clock⟩ : BusSite)) = _
    rw [Registry.setSlot_self hslot, List.append_nil]
    rfl
  have hfail : w.failNow id c e s f = ⟨w.site.usedAt e w.site.clock,
      w.tasks.set id (.call { c with stage := .leave e (.error f) })⟩ := by
    unfold failNow
    rw [hact]
  refine ⟨{ c with stage := .ended (.error f) }, rfl, ?_⟩
  have hcall : (w.failNow id c e s f).call? id = some { c with stage := .leave e (.error f) } := by
    rw [hfail, call?_eq_some]
    exact task?_set_self (call?_eq_some.mp hc) _ _
  rw [step?_call hcall, hfail]
  show some (⟨(w.site.usedAt e w.site.clock).modifyRegistry (·.modifyLock e (·.release)),
    (w.tasks.set id _).set id _⟩ : BusWorld) = _
  rw [Site.modifyLock_usedAt, List.set_set]

theorem drop_acting (hc : w.call? id = some c) (hs : c.stage = .acting e pending rest) :
    w.drop id = ⟨w.site.modifyRegistry (·.modifyLock e (·.release)),
      w.tasks.set id (.call { c with stage := .dropped })⟩ := by
  rw [drop_of_some (call?_eq_some.mp hc)]
  show (⟨(c.drop id w.site).2, w.tasks.set id (.call (c.drop id w.site).1)⟩ : BusWorld) = _
  unfold Call.drop
  rw [hs]
  rfl

theorem passesOn_release (hlt : e < w.site.registry.entries.length) (t : List Task) :
    w.PassesOn e ⟨w.site.modifyRegistry (·.modifyLock e (·.release)), t⟩ where
  bus := rfl
  clock := rfl
  cache := rfl
  created := rfl
  disposed := rfl
  slots := fun _ => Registry.slot?_modifyLock _ _ _ _
  holder := Registry.holder?_release hlt
  waiting := Registry.waiting_release hlt
  others := fun _ hne => ⟨Registry.holder?_modifyLock_ne _ _ (Ne.symm hne),
    Registry.waiting_modifyLock_ne _ _ (Ne.symm hne)⟩

/-- When the entry was last used is nothing to it. -/
theorem PassesOn.usedAt {x : BusSite} {tasks : List Task} (h : w.PassesOn e ⟨x, tasks⟩)
    (i : Instant) (tasks' : List Task) : w.PassesOn e ⟨x.usedAt e i, tasks'⟩ where
  bus := h.bus
  clock := h.clock
  cache := h.cache
  created := h.created
  disposed := h.disposed
  slots := fun e' => (Site.slot?_usedAt x e e' i).trans (h.slots e')
  holder := (Registry.holder?_touch _ _ _ _).trans h.holder
  waiting := (Registry.waiting_touch _ _ _ _).trans h.waiting
  others := fun e' hne => ⟨(Registry.holder?_touch _ _ _ _).trans (h.others e' hne).1,
    (Registry.waiting_touch _ _ _ _).trans (h.others e' hne).2⟩

/-- A call that is over on both sides, on sites that differ in when the
entry was last used. -/
theorem shifted_set {x : BusSite} {c₁ c₂ : Call} {i j : Instant} (hc : w.call? id = some c)
    (hi : x.registry.lastUsed? e = some i) (hj : j ≤ x.clock) (h₁ : c₁.isOver = true)
    (h₂ : c₂.isOver = true) : Shifted id e i j ⟨x, w.tasks.set id (.call c₁)⟩
      ⟨x.usedAt e j, w.tasks.set id (.call c₂)⟩ where
  since := hj
  site := by
    have hsite := Site.Shifted.apart (i := i) (j := j) x (Registry.lt_of_lastUsed? hi)
    rwa [Site.usedAt_self hi] at hsite
  length := by simp
  others := by
    intro k hk
    have ht := call?_eq_some.mp hc
    rw [task?_set ht, task?_set ht, if_neg hk, if_neg hk]
  ended := by
    have ht := call?_eq_some.mp hc
    exact ⟨c₁, c₂, call?_eq_some.mpr (task?_set_self ht _ _),
      call?_eq_some.mpr (task?_set_self ht _ _), h₁, h₂⟩

theorem Shifted.homed {i j : Instant} (hs : Shifted id e i j v u) (hm : v.Homed) : u.Homed := by
  intro k c e' a hc hentry hcur
  obtain ⟨entries, hframe⟩ := hs.site.frame
  rw [hframe] at hcur
  by_cases hk : k = id
  · subst hk
    obtain ⟨-, c', -, hc', -, hover⟩ := hs.ended
    cases hc.symm.trans hc'
    obtain ⟨address, program, cancelled, entered, replies, stage⟩ := c
    cases stage with
    | ended result => cases hentry
    | dropped => cases hentry
    | _ => cases hover
  · exact hm k c e' a ((call?_congr (hs.others k hk)).symm.trans hc) hentry hcur

/-- A dropped program is like a failed one, but for when its entry was
last used. In every run, let a call pause in its program. To drop it and
to let the program fail there and then both make no call on the bus and
pass on the lock; the session stays in the cache, and the next in line
carries out its program on it if it is open. The entry was last used when
the program was started if the call is dropped, and now if the program
fails, and is not given up within the threshold of that. From there on
the two go the same way for as long as no sweep goes by the difference,
and where one does they part. -/
theorem drop_like_failure {b : Simulated} {options : SessionOptions} {policy : SweepPolicy}
    (hb : 0 ≤ b.nextDescriptor) (hr : (World.unused b options policy).Reaches w)
    (hc : w.call? id = some c) (hs : c.stage = .acting e pending rest) (f : Failure) :
    ∃ s began u, w.site.registry.slot? e = some s ∧
      w.site.registry.current? c.address = some e ∧ c.entered = some (began, s.descriptor) ∧
      (w.failNow id c e s f).step? id = some u ∧
      w.PassesOn e (w.drop id) ∧ w.PassesOn e u ∧
      (s.closed = false → (w.drop id).NextReuses e s ∧ u.NextReuses e s) ∧
      (w.drop id).site.registry.lastUsed? e = some began ∧ (w.drop id).KeptSince e began ∧
      u.site.registry.lastUsed? e = some w.site.clock ∧ u.KeptSince e w.site.clock ∧
      Lockstep id e began w.site.clock (w.drop id) u := by
  have hunused := sound_unused hb options policy
  have hw : w.Sound := hr.sound hunused
  have hm : w.Homed := hr.homed hunused (homed_unused b options policy)
  have he : Call.engaged c.stage = some e := by
    rw [hs]
    rfl
  obtain ⟨hcur, s, hslot, -⟩ := hw.engaged hc he
  obtain ⟨began, hent⟩ := hw.pauses_on hc hs hslot
  obtain ⟨began', d, hent', hlast, hle⟩ :=
    (hr.stamped hunused (stamped_unused b options policy)) id c e pending rest hc hs
  have hbegan : began' = began :=
    congrArg Prod.fst (Option.some.inj (hent'.symm.trans hent))
  rw [hbegan] at hlast hle
  have hlt : e < w.site.registry.entries.length := Registry.lt_of_slot? hslot
  obtain ⟨c', hover, hstep⟩ := step_failNow hc hslot f
  obtain ⟨u, hu⟩ : ∃ u, u = (⟨(w.site.modifyRegistry (·.modifyLock e (·.release))).usedAt e
    w.site.clock, w.tasks.set id (.call c')⟩ : BusWorld) := ⟨_, rfl⟩
  rw [← hu] at hstep
  have hdrop := drop_acting hc hs
  have hpass : w.PassesOn e (w.drop id) := by
    rw [hdrop]
    exact passesOn_release hlt _
  have hpass' : w.PassesOn e u := by
    subst hu
    exact (passesOn_release hlt (w.tasks.set id (.call c'))).usedAt _ _
  have hv : (w.drop id).Sound := hw.perform (h := .drop id) rfl
  have hsound : u.Sound := (hw.failNow hc hs hslot f).perform (h := .step id) hstep
  have hlast₁ : (w.drop id).site.registry.lastUsed? e = some began := by
    rw [hdrop]
    exact (Registry.lastUsed?_modifyLock _ _ _ _).trans hlast
  have hlast₂ : u.site.registry.lastUsed? e = some w.site.clock := by
    subst hu
    exact Registry.lastUsed?_touch (by simpa [Site.modifyRegistry] using hlt)
  have hshift : Shifted id e began w.site.clock (w.drop id) u := by
    subst hu
    rw [hdrop] at hlast₁ ⊢
    exact shifted_set hc hlast₁ (Nat.le_refl _) rfl hover
  have hm₁ : (w.drop id).Homed := hm.perform hw (h := .drop id) rfl
  refine ⟨s, began, u, hslot, hcur, hent, hstep, hpass, hpass', ?_, hlast₁, ?_, hlast₂, ?_,
    hshift.lockstep hle hv⟩
  · intro hopen
    have hcurrent : ∀ w', w.PassesOn e w' → w'.site.registry.current? c.address = some e := by
      intro w' hp
      unfold Registry.current?
      rw [hp.cache]
      exact hcur
    exact ⟨hm₁.nextReuses (hcurrent _ hpass) ((hpass.slots e).trans hslot) hopen,
      (hshift.homed hm₁).nextReuses (hcurrent _ hpass') ((hpass'.slots e).trans hslot) hopen⟩
  · have hclock : began ≤ (w.drop id).site.clock := by
      rw [hpass.clock]
      exact hle
    exact UsedSince.kept ⟨hclock, began, hlast₁, Nat.le_refl _⟩ hv
  · have hclock : w.site.clock ≤ u.site.clock := Nat.le_of_eq hpass'.clock.symm
    exact UsedSince.kept ⟨hclock, w.site.clock, hlast₂, Nat.le_refl _⟩ hsound

/-- A call that sleeps on its session, with another one in line, is
dropped. -/
theorem drop_like_failure_contended :
    ∃ w c s u began, (World.unused .empty .standard .standard).run contended = some w ∧
      w.call? 0 = some c ∧ (w.failNow 0 c 0 s (.cancelled "sleep")).step? 0 = some u ∧
      w.PassesOn 0 (w.drop 0) ∧ w.PassesOn 0 u ∧
      Lockstep 0 0 began w.site.clock (w.drop 0) u := by
  have hrun : (((World.unused .empty .standard .standard).run contended).bind (·.call? 0)).any
      (fun c => Call.pausing c.stage == some 0) = true := by
    decide +kernel
  obtain ⟨c, hbind, hall⟩ := (Option.any_eq_true _ _).mp hrun
  obtain ⟨w, hw, hc⟩ := Option.bind_eq_some_iff.mp hbind
  obtain ⟨pending, rest, hs⟩ := Call.pausing_eq_some.mp (beq_iff_eq.mp hall)
  obtain ⟨s, began, u, -, -, -, hu, hpass, hpass', -, -, -, -, -, hlock⟩ :=
    drop_like_failure (by decide) ⟨contended, hw⟩ hc hs (.cancelled "sleep")
  exact ⟨w, c, s, u, began, hw, hc, hu, hpass, hpass', hlock⟩

/-- Where they part. A call sleeps on its session for two seconds, and the
threshold is one. It is dropped, and a sweep that begins at once gives up
the session; had the program failed there and then, the sweep would have
spared it. -/
theorem drop_unlike_failure :
    ∃ w c s u v₁ v₂ u₁ u₂, (World.unused .empty .standard ⟨.ofSecs 1, .zero⟩).run
        ([.execute ⟨5, 0⟩ [.sleep (.ofSecs 5)] false] ++ List.replicate 7 (.step 0) ++
          [.elapse (.ofSecs 2)]) = some w ∧
      w.call? 0 = some c ∧ (∃ pending rest, c.stage = .acting 0 pending rest) ∧
      w.site.registry.slot? 0 = some s ∧
      (w.failNow 0 c 0 s (.cancelled "sleep")).step? 0 = some u ∧
      (w.drop 0).perform .evict = some v₁ ∧ v₁.Turn 1 v₂ ∧
      v₂.site.registry.contains ⟨5, 0⟩ = false ∧ v₂.site.bus.offlineCalls s.descriptor = 1 ∧
      u.perform .evict = some u₁ ∧ u₁.Turn 1 u₂ ∧
      u₂.site.registry.contains ⟨5, 0⟩ = true ∧ u₂.site.bus.offlineCalls s.descriptor = 0 := by
  have hrun : ((World.unused .empty .standard ⟨.ofSecs 1, .zero⟩).run
        ([.execute ⟨5, 0⟩ [.sleep (.ofSecs 5)] false] ++ List.replicate 7 (.step 0) ++
          [.elapse (.ofSecs 2)])).any (fun w =>
      (w.call? 0).any fun c => (w.site.registry.slot? 0).any fun s =>
        Call.pausing c.stage == some 0 &&
        (((w.drop 0).perform .evict).any fun v₁ => (v₁.occurs? (.step 1) 6).any fun v₂ =>
          !v₂.site.registry.contains ⟨5, 0⟩ && v₂.site.bus.offlineCalls s.descriptor == 1) &&
        ((w.failNow 0 c 0 s (.cancelled "sleep")).step? 0).any fun u =>
          (u.perform .evict).any fun u₁ => (u₁.occurs? (.step 1) 4).any fun u₂ =>
            u₂.site.registry.contains ⟨5, 0⟩ && u₂.site.bus.offlineCalls s.descriptor == 0) =
        true := by
    decide +kernel
  obtain ⟨w, hw, hall⟩ := (Option.any_eq_true _ _).mp hrun
  obtain ⟨c, hc, hall⟩ := (Option.any_eq_true _ _).mp hall
  obtain ⟨s, hslot, hall⟩ := (Option.any_eq_true _ _).mp hall
  simp only [Bool.and_eq_true, beq_iff_eq] at hall
  obtain ⟨⟨hstage, hdropped⟩, hfailed⟩ := hall
  obtain ⟨v₁, hv₁, hall⟩ := (Option.any_eq_true _ _).mp hdropped
  obtain ⟨v₂, hv₂, hall⟩ := (Option.any_eq_true _ _).mp hall
  simp only [Bool.and_eq_true, Bool.not_eq_true', beq_iff_eq] at hall
  obtain ⟨hgone, hclosed⟩ := hall
  obtain ⟨u, hu, hall⟩ := (Option.any_eq_true _ _).mp hfailed
  obtain ⟨u₁, hu₁, hall⟩ := (Option.any_eq_true _ _).mp hall
  obtain ⟨u₂, hu₂, hall⟩ := (Option.any_eq_true _ _).mp hall
  simp only [Bool.and_eq_true, beq_iff_eq] at hall
  obtain ⟨hkept, hopen⟩ := hall
  exact ⟨w, c, s, u, v₁, v₂, u₁, u₂, hw, hc, Call.pausing_eq_some.mp hstage, hslot, hu, hv₁,
    occurs_of_occurs? hv₂, hgone, hclosed, hu₁, occurs_of_occurs? hu₂, hkept, hopen⟩

end World

end InstrumentBus
