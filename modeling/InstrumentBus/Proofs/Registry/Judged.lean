/-
A sweep that is not interrupted, from its beginning to its end.

What such a sweep does to the site can be said without the sweep.
`Site.lapsed` is the verdict on an entry, `Site.giveUp` is what becomes of
one that is condemned, and `Site.swept` gives up those condemned one after
the other. The verdict does not depend on which entries have been given up
already: nothing that it goes by is changed by that. So the sweep, which
judges each entry when it comes to it, condemns the entries that were
condemned when it began (`Sweep.leads_swept`). An entry that is spared is
left as it was, lock and all, although the sweep has held the lock in
between, since nobody was waiting for it.

What is left at the end is then read off a fold over a list
(`Site.gaveUp`), with no stages and no steps in it.
-/
import InstrumentBus.Proofs.Registry.Uses

namespace InstrumentBus

-- ========================================================== the verdict

namespace Registry

/-- The descriptor of the open session in the slot of an entry. -/
def open? (r : Registry) (e : EntryId) : Option Int :=
  ((r.slot? e).filter fun s => !s.closed).map (·.descriptor)

end Registry

/-- An entry without its session. -/
def Entry.vacated (x : Entry) : Entry := { x with slot := none }

namespace Site

/-- Nobody holds the lock of an entry, and it has not been used for the
threshold. -/
def lapsed (x : BusSite) (e : EntryId) : Bool :=
  (x.registry.holder? e).isNone &&
    x.registry.policy.idleThreshold.nanos ≤ (x.registry.idle e x.clock).nanos

/-- An entry taken out of the cache, with its session closed. -/
def giveUp (x : BusSite) (p : Address × EntryId) : BusSite :=
  (x.modifyRegistry (·.forget p.1 p.2)).closeSlot p.2

/-- Those of some entries that are to be given up. -/
def condemned (x : BusSite) (l : List (Address × EntryId)) : List (Address × EntryId) :=
  l.filter fun p => x.lapsed p.2

/-- The site after a sweep over some entries. -/
def sweptOver (x : BusSite) (l : List (Address × EntryId)) : BusSite :=
  (x.condemned l).foldl giveUp x

end Site

-- ============================================ what giving up an entry does

namespace Registry

variable {r : Registry} {e e' : EntryId} {t : TaskId} {γ : Type}

theorem idle_readOff (r : Registry) (e : EntryId) (now : Instant) :
    r.idle e now = r.readOff e .zero fun x => Clock.since now x.lastUsed := by
  unfold idle readOff
  cases r.entryAt? e <;> rfl

/-- A slot emptied leaves everything else in the entry. -/
theorem entryAt?_setSlot_none (r : Registry) (e e' : EntryId) :
    (r.setSlot e none).entryAt? e' =
      if e = e' then (r.entryAt? e').map Entry.vacated else r.entryAt? e' :=
  entryAt?_modifyEntry r e e' _

/-- An entry without a session is as it was when its slot is emptied. -/
theorem vacated_of_slot? (h : r.slot? e = none) :
    (r.entryAt? e).map Entry.vacated = r.entryAt? e := by
  cases hx : r.entryAt? e with
  | none => rfl
  | some x =>
      rw [slot?_eq, readOff_of_entryAt? hx] at h
      exact congrArg some (congrArg (fun s => ({ x with slot := s } : Entry)) h.symm)

/-- A free lock that nobody waits for can be taken. -/
theorem take?_of_free (hlt : e < r.entries.length) (hfree : r.holder? e = none)
    (hb : r.Busy e) : (r.entryAt? e).bind (·.lock.take? t) = some ⟨some t, []⟩ := by
  obtain ⟨x, hx⟩ := exists_entry hlt
  have hholder : x.lock.holder = none := (readOff_of_entryAt? hx none _).symm.trans hfree
  have hwaiters : x.lock.waiters = [] := (readOff_of_entryAt? hx [] _).symm.trans (hb hfree)
  rw [hx]
  show x.lock.take? t = _
  unfold Lock.take?
  rw [hholder]
  exact congrArg (fun ws => some (⟨some t, ws⟩ : Lock)) hwaiters

/-- A lock that is held cannot be taken. -/
theorem take?_of_held (h : r.holder? e ≠ none) : (r.entryAt? e).bind (·.lock.take? t) = none := by
  cases hl : (r.entryAt? e).bind (·.lock.take? t) with
  | none => rfl
  | some l => exact absurd (take?_eq_some hl).1 h

/-- A free lock taken and let go of is as it was. -/
theorem release_taken (hfree : r.holder? e = none) (hb : r.Busy e) :
    (r.modifyLock e fun _ => ⟨some t, []⟩).modifyLock e (·.release) = r := by
  unfold modifyLock
  rw [modifyEntry_modifyEntry]
  refine modifyEntry_self fun x hx => ?_
  have hholder : x.lock.holder = none := (readOff_of_entryAt? hx none _).symm.trans hfree
  have hwaiters : x.lock.waiters = [] := (readOff_of_entryAt? hx [] _).symm.trans (hb hfree)
  have hlock : x.lock = Lock.free := by
    rw [show x.lock = ⟨x.lock.holder, x.lock.waiters⟩ from rfl, hholder, hwaiters]
    rfl
  exact congrArg (fun l => ({ x with lock := l } : Entry)) hlock.symm

theorem forget_modifyLock (r : Registry) (a : Address) (e e' : EntryId) (f : Lock → Lock) :
    (r.modifyLock e' f).forget a e = (r.forget a e).modifyLock e' f := by
  unfold forget
  rw [show (r.modifyLock e' f).isCurrent a e = r.isCurrent a e from rfl]
  split <;> rfl

end Registry

namespace Site

variable {x : BusSite} {p q : Address × EntryId} {e : EntryId} {γ : Type}
  {l : List (Address × EntryId)}

theorem giveUp_modifyLock (x : BusSite) (p : Address × EntryId) (e : EntryId)
    (f : Lock → Lock) : (x.modifyRegistry (·.modifyLock e f)).giveUp p =
      (x.giveUp p).modifyRegistry (·.modifyLock e f) := by
  have hforget : (x.modifyRegistry (·.modifyLock e f)).modifyRegistry (·.forget p.1 p.2) =
      (x.modifyRegistry (·.forget p.1 p.2)).modifyRegistry (·.modifyLock e f) :=
    congrArg (Site.mk x.bus x.clock) (Registry.forget_modifyLock _ _ _ _ _)
  unfold giveUp
  rw [hforget]
  cases hslot : (x.modifyRegistry (·.forget p.1 p.2)).registry.slot? p.2 with
  | none =>
      rw [closeSlot_of_none hslot,
        closeSlot_of_none ((Registry.slot?_modifyLock _ _ _ _).trans hslot)]
  | some s =>
      rw [closeSlot_of_some hslot,
        closeSlot_of_some ((Registry.slot?_modifyLock _ _ _ _).trans hslot)]
      exact congrArg (Site.mk (s.close x.bus).2 x.clock) (Registry.setSlot_modifyLock _ _ _ _ _)

theorem entryAt?_giveUp (x : BusSite) (p : Address × EntryId) (e : EntryId) :
    (x.giveUp p).registry.entryAt? e =
      if p.2 = e then (x.registry.entryAt? e).map Entry.vacated else x.registry.entryAt? e := by
  have hforget : (x.modifyRegistry (·.forget p.1 p.2)).registry.entryAt? e =
      x.registry.entryAt? e := by
    show (x.registry.forget p.1 p.2).entries[e]? = _
    rw [Registry.entries_forget]
    rfl
  unfold giveUp
  rw [← hforget]
  cases hslot : (x.modifyRegistry (·.forget p.1 p.2)).registry.slot? p.2 with
  | none =>
      rw [closeSlot_of_none hslot]
      split
      next he =>
        subst he
        exact (Registry.vacated_of_slot? hslot).symm
      · rfl
  | some s =>
      rw [closeSlot_of_some hslot]
      exact Registry.entryAt?_setSlot_none _ _ _

/-- What is not about sessions is the same for every entry. -/
theorem readOff_giveUp (x : BusSite) (p : Address × EntryId) (e : EntryId) {d : γ}
    {f : Entry → γ} (hf : ∀ y, f y.vacated = f y) :
    (x.giveUp p).registry.readOff e d f = x.registry.readOff e d f := by
  unfold Registry.readOff
  rw [entryAt?_giveUp]
  split
  · cases x.registry.entryAt? e with
    | none => rfl
    | some y => exact hf y
  · rfl

theorem holder?_giveUp (x : BusSite) (p : Address × EntryId) (e : EntryId) :
    (x.giveUp p).registry.holder? e = x.registry.holder? e := readOff_giveUp x p e fun _ => rfl

theorem waiting_giveUp (x : BusSite) (p : Address × EntryId) (e : EntryId) :
    (x.giveUp p).registry.waiting e = x.registry.waiting e := readOff_giveUp x p e fun _ => rfl

theorem clock_giveUp (x : BusSite) (p : Address × EntryId) : (x.giveUp p).clock = x.clock :=
  clock_closeSlot _ _

theorem length_giveUp (x : BusSite) (p : Address × EntryId) :
    (x.giveUp p).registry.entries.length = x.registry.entries.length := by
  refine (closeSlot_frame _ _).2.1.trans ?_
  exact congrArg List.length (Registry.entries_forget _ _ _)

theorem registry_closeSlot (x : BusSite) (e : EntryId) : (x.closeSlot e).registry =
    { x.registry with entries := (x.closeSlot e).registry.entries } := by
  cases h : x.registry.slot? e with
  | none => rw [closeSlot_of_none h]
  | some s =>
      rw [closeSlot_of_some h]
      exact rfl

/-- Only the cache and the entries are changed. -/
theorem registry_giveUp (x : BusSite) (p : Address × EntryId) :
    (x.giveUp p).registry = { x.registry with
      cache := (x.giveUp p).registry.cache
      entries := (x.giveUp p).registry.entries } := by
  have hforget : x.registry.forget p.1 p.2 =
      { x.registry with cache := (x.registry.forget p.1 p.2).cache } := by
    unfold Registry.forget
    split <;> rfl
  have hcache : (x.giveUp p).registry.cache = (x.registry.forget p.1 p.2).cache :=
    (closeSlot_frame _ _).1
  rw [hcache]
  refine (registry_closeSlot _ _).trans ?_
  exact congrArg (fun r => { r with entries := (x.giveUp p).registry.entries }) hforget

theorem cache_giveUp (h : x.registry.current? p.1 = some p.2) :
    (x.giveUp p).registry.cache = Keyed.erase x.registry.cache p.1 := by
  refine (closeSlot_frame _ _).1.trans ?_
  show (x.registry.forget p.1 p.2).cache = _
  unfold Registry.forget
  rw [if_pos (Registry.isCurrent_iff.mpr h)]

/-- An open session is taken offline, and no other call is made. -/
theorem bus_giveUp (x : BusSite) (p : Address × EntryId) : (x.giveUp p).bus =
    (x.registry.open? p.2).toList.foldl (fun b d => RawBus.takeOffline b d 0) x.bus := by
  have hslot : (x.registry.forget p.1 p.2).slot? p.2 = x.registry.slot? p.2 :=
    Registry.slot?_forget _ _ _ _
  unfold giveUp Registry.open?
  cases hs : x.registry.slot? p.2 with
  | none =>
      rw [closeSlot_of_none (x := x.modifyRegistry (·.forget p.1 p.2)) (hslot.trans hs)]
      rfl
  | some s =>
      rw [closeSlot_of_some (x := x.modifyRegistry (·.forget p.1 p.2)) (hslot.trans hs), Option.filter_some]
      show (s.close x.bus).2 = _
      unfold Session.close
      cases s.closed <;> rfl

theorem open?_giveUp (x : BusSite) (h : p.2 ≠ e) :
    (x.giveUp p).registry.open? e = x.registry.open? e := by
  unfold Registry.open? Registry.slot?
  rw [entryAt?_giveUp, if_neg h]

theorem current?_giveUp (x : BusSite) (h : p.1 ≠ q.1) :
    (x.giveUp p).registry.current? q.1 = x.registry.current? q.1 := by
  have hcache : (x.giveUp p).registry.current? q.1 =
      (x.registry.forget p.1 p.2).current? q.1 :=
    congrArg (Keyed.get? · q.1) (closeSlot_frame _ _).1
  rw [hcache, Registry.current?_forget, if_neg fun hc => h hc.1]

/-- The verdict on an entry does not depend on what has been given up. -/
theorem lapsed_giveUp (x : BusSite) (p : Address × EntryId) (e : EntryId) :
    (x.giveUp p).lapsed e = x.lapsed e := by
  have hpolicy : (x.giveUp p).registry.policy = x.registry.policy := by
    rw [registry_giveUp]
  unfold lapsed
  rw [holder?_giveUp, clock_giveUp, hpolicy, Registry.idle_readOff, Registry.idle_readOff,
    readOff_giveUp]
  exact fun _ => rfl

theorem condemned_giveUp (x : BusSite) (p : Address × EntryId) (l : List (Address × EntryId)) :
    (x.giveUp p).condemned l = x.condemned l := by
  unfold condemned
  simp only [lapsed_giveUp]

theorem condemned_cons_of_lapsed (h : x.lapsed p.2 = true) (l : List (Address × EntryId)) :
    x.condemned (p :: l) = p :: x.condemned l ∧
      x.sweptOver (p :: l) = (x.giveUp p).sweptOver l := by
  have hcons : x.condemned (p :: l) = p :: x.condemned l := List.filter_cons_of_pos (by simpa)
  refine ⟨hcons, ?_⟩
  unfold sweptOver
  rw [hcons, condemned_giveUp]
  rfl

theorem condemned_cons_of_not_lapsed (h : x.lapsed p.2 = false) (l : List (Address × EntryId)) :
    x.condemned (p :: l) = x.condemned l ∧ x.sweptOver (p :: l) = x.sweptOver l := by
  have hcons : x.condemned (p :: l) = x.condemned l := List.filter_cons_of_neg (by simpa)
  unfold sweptOver
  rw [hcons]
  exact ⟨rfl, rfl⟩

end Site

-- ============================================= a sweep goes on by itself

namespace Sweep

variable {id : TaskId} {s s₁ s' : Sweep} {x x₁ x' : BusSite} {n : Nat}
  {l : List (Address × EntryId)}

/-- The steps of a sweep lead from one place to another. -/
inductive Leads (id : TaskId) : Sweep → BusSite → Sweep → BusSite → Prop where
  | here (s : Sweep) (x : BusSite) : Leads id s x s x
  | step {s s₁ s' : Sweep} {x x₁ x' : BusSite} (h : s.step id x = some (s₁, x₁))
      (rest : Leads id s₁ x₁ s' x') : Leads id s x s' x'

theorem Leads.trans (h : Leads id s x s₁ x₁) (h' : Leads id s₁ x₁ s' x') :
    Leads id s x s' x' := by
  induction h with
  | here => exact h'
  | step hstep rest ih => exact .step hstep (ih h')

/-- An entry whose lock is held is skipped. -/
theorem leads_busy (began : Instant) (p : Address × EntryId) (n : Nat)
    (h : x.registry.holder? p.2 ≠ none) :
    Leads id ⟨began, p :: l, n, .next⟩ x ⟨began, l, n, .next⟩ x := by
  refine .step ?_ (.here _ _)
  simp only [step, Registry.take?_of_held h]

/-- The first step with an entry whose lock is free. -/
theorem step_take (began : Instant) (p : Address × EntryId) (n : Nat)
    (hlt : p.2 < x.registry.entries.length) (hfree : x.registry.holder? p.2 = none)
    (hb : x.registry.Busy p.2) :
    step id ⟨began, p :: l, n, .next⟩ x = some (⟨began, l, n, .judge p.1 p.2⟩,
      x.modifyRegistry (·.modifyLock p.2 fun _ => ⟨some id, []⟩)) := by
  simp only [step, Registry.take?_of_free hlt hfree hb]

/-- The lock taken, the entry is judged as it would have been before. -/
theorem step_judge (id : TaskId) (x : BusSite) (l : List (Address × EntryId)) (began : Instant)
    (p : Address × EntryId) (n : Nat) (lock : Lock) :
    step id ⟨began, l, n, .judge p.1 p.2⟩ (x.modifyRegistry (·.modifyLock p.2 fun _ => lock)) =
      some (⟨began, l, n,
          if (x.registry.idle p.2 began).nanos < x.registry.policy.idleThreshold.nanos
          then .unlock p.2 else .unlink p.1 p.2⟩,
        x.modifyRegistry (·.modifyLock p.2 fun _ => lock)) := by
  have hidle : (x.registry.modifyLock p.2 fun _ => lock).idle p.2 began =
      x.registry.idle p.2 began := by
    rw [Registry.idle_readOff, Registry.idle_readOff]
    exact Registry.readOff_modifyEntry _ _ _ fun _ => rfl
  simp only [step, Site.modifyRegistry, hidle]
  rw [show (x.registry.modifyLock p.2 fun _ => lock).policy = x.registry.policy from rfl]
  split <;> rfl

theorem step_unlock (began : Instant) (e : EntryId) (n : Nat) (y : BusSite) :
    step id ⟨began, l, n, .unlock e⟩ y =
      some (⟨began, l, n, .next⟩, y.modifyRegistry (·.modifyLock e (·.release))) := rfl

/-- An entry whose lock is free and that was used lately is spared. -/
theorem leads_spared (p : Address × EntryId) (n : Nat)
    (hlt : p.2 < x.registry.entries.length) (hfree : x.registry.holder? p.2 = none)
    (hb : x.registry.Busy p.2)
    (hidle : (x.registry.idle p.2 x.clock).nanos < x.registry.policy.idleThreshold.nanos) :
    Leads id ⟨x.clock, p :: l, n, .next⟩ x ⟨x.clock, l, n, .next⟩ x := by
  have hjudge := step_judge id x l x.clock p n ⟨some id, []⟩
  rw [if_pos hidle] at hjudge
  have hback : (x.modifyRegistry (·.modifyLock p.2 fun _ => ⟨some id, []⟩)).modifyRegistry
      (·.modifyLock p.2 (·.release)) = x :=
    congrArg (Site.mk x.bus x.clock) (Registry.release_taken hfree hb)
  refine .step (step_take _ p n hlt hfree hb) (.step hjudge (.step (step_unlock _ _ _ _) ?_))
  rw [hback]
  exact .here _ _

/-- An entry whose lock is free and that has not been used for the
threshold is given up. -/
theorem leads_condemned (p : Address × EntryId) (n : Nat)
    (hlt : p.2 < x.registry.entries.length) (hfree : x.registry.holder? p.2 = none)
    (hb : x.registry.Busy p.2)
    (hidle : ¬ (x.registry.idle p.2 x.clock).nanos < x.registry.policy.idleThreshold.nanos) :
    Leads id ⟨x.clock, p :: l, n, .next⟩ x ⟨x.clock, l, n + 1, .next⟩ (x.giveUp p) := by
  have hjudge := step_judge id x l x.clock p n ⟨some id, []⟩
  rw [if_neg hidle] at hjudge
  -- the lock is let go of in the end as if the entry had been given up first
  have hback : ((x.modifyRegistry (·.modifyLock p.2 fun _ => ⟨some id, []⟩)).giveUp
      p).modifyRegistry (·.modifyLock p.2 (·.release)) = x.giveUp p := by
    rw [Site.giveUp_modifyLock]
    refine congrArg (Site.mk (x.giveUp p).bus (x.giveUp p).clock) (Registry.release_taken ?_ ?_)
    · rw [Site.holder?_giveUp]
      exact hfree
    · exact hb.congr ⟨Site.holder?_giveUp x p p.2, Site.waiting_giveUp x p p.2⟩
  have hunlink : ∀ y : BusSite, step id ⟨x.clock, l, n, .unlink p.1 p.2⟩ y =
      some (⟨x.clock, l, n, .close p.2⟩, y.modifyRegistry (·.forget p.1 p.2)) := fun _ => rfl
  have hclose : ∀ y : BusSite, step id ⟨x.clock, l, n, .close p.2⟩ y =
      some (⟨x.clock, l, n + 1, .unlock p.2⟩, y.closeSlot p.2) := fun _ => rfl
  refine .step (step_take _ p n hlt hfree hb) (.step hjudge
    (.step (hunlink _) (.step (hclose _) (.step (step_unlock _ _ _ _) ?_))))
  change Leads id _ (((x.modifyRegistry (·.modifyLock p.2 fun _ => ⟨some id, []⟩)).giveUp
    p).modifyRegistry (·.modifyLock p.2 (·.release))) _ _
  rw [hback]
  exact .here _ _

/-- A sweep gives up those of the entries it has listed that are to be
given up, and counts them. -/
theorem leads_sweptOver (l : List (Address × EntryId)) (x : BusSite) (n : Nat)
    (hlt : ∀ p ∈ l, p.2 < x.registry.entries.length) (hb : ∀ e, x.registry.Busy e) :
    Leads id ⟨x.clock, l, n, .next⟩ x ⟨x.clock, [], n + (x.condemned l).length, .next⟩
      (x.sweptOver l) := by
  induction l generalizing x n with
  | nil => exact .here _ _
  | cons p rest ih =>
      have hp := hlt p List.mem_cons_self
      have hrest : ∀ q ∈ rest, q.2 < x.registry.entries.length :=
        fun q hq => hlt q (List.mem_cons_of_mem p hq)
      by_cases hfree : x.registry.holder? p.2 = none
      · by_cases hidle :
          (x.registry.idle p.2 x.clock).nanos < x.registry.policy.idleThreshold.nanos
        · have hno : x.lapsed p.2 = false := by
            unfold Site.lapsed
            rw [decide_eq_false (Nat.not_le.mpr hidle), Bool.and_false]
          obtain ⟨hcons, hover⟩ := Site.condemned_cons_of_not_lapsed hno rest
          rw [hcons, hover]
          exact (leads_spared p n hp hfree (hb p.2) hidle).trans (ih x n hrest hb)
        · have hyes : x.lapsed p.2 = true := by
            unfold Site.lapsed
            rw [hfree, decide_eq_true (Nat.not_lt.mp hidle)]
            rfl
          obtain ⟨hcons, hover⟩ := Site.condemned_cons_of_lapsed hyes rest
          rw [hcons, hover, List.length_cons]
          refine (leads_condemned p n hp hfree (hb p.2) hidle).trans ?_
          have hnext := ih (x.giveUp p) (n + 1)
            (fun q hq => by rw [Site.length_giveUp]; exact hrest q hq)
            (fun e => (hb e).congr ⟨Site.holder?_giveUp x p e, Site.waiting_giveUp x p e⟩)
          rw [Site.condemned_giveUp, Site.clock_giveUp, Nat.add_right_comm] at hnext
          exact hnext
      · have hno : x.lapsed p.2 = false := by
          unfold Site.lapsed
          rw [Option.isNone_eq_false_iff.mpr (Option.isSome_iff_ne_none.mpr hfree),
            Bool.false_and]
        obtain ⟨hcons, hover⟩ := Site.condemned_cons_of_not_lapsed hno rest
        rw [hcons, hover]
        exact (leads_busy _ p n hfree).trans (ih x n hrest hb)

/-- A sweep that is not interrupted comes to its end, and has given up and
counted the entries that were to be given up when it began. -/
theorem leads_swept (x : BusSite) (hc : x.registry.Coherent) (hb : ∀ e, x.registry.Busy e) :
    Leads id .new x ⟨x.clock, [], (x.condemned x.registry.cache).length, .ended⟩
      (x.sweptOver x.registry.cache) := by
  have hlt : ∀ p ∈ x.registry.cache, p.2 < x.registry.entries.length :=
    fun p hp => hc.lt _ _ (hc.listed p hp)
  have hover : Leads id ⟨x.clock, x.registry.cache, 0, .next⟩ x _ _ :=
    leads_sweptOver x.registry.cache x 0 hlt hb
  rw [Nat.zero_add] at hover
  exact .step rfl (hover.trans (.step rfl (.here _ _)))

end Sweep

-- ======================================================== what is left

namespace Site

variable {x : BusSite} {l : List (Address × EntryId)}

/-- What is left of a site when some cached entries have been given up. -/
structure Without (x : BusSite) (l : List (Address × EntryId)) (x' : BusSite) : Prop where
  clock : x'.clock = x.clock
  cache : x'.registry.cache = x.registry.cache.filter fun q => q.1 ∉ Keyed.keys l
  entries : ∀ e, x'.registry.entryAt? e =
    if e ∈ l.map (·.2) then (x.registry.entryAt? e).map Entry.vacated else x.registry.entryAt? e
  bus : x'.bus = (l.filterMap fun p => x.registry.open? p.2).foldl
    (fun b d => RawBus.takeOffline b d 0) x.bus
  registry : x'.registry =
    { x.registry with cache := x'.registry.cache, entries := x'.registry.entries }

theorem Without.nil (x : BusSite) : x.Without [] x where
  clock := rfl
  cache := (List.filter_eq_self.mpr fun _ _ => rfl).symm
  entries := fun _ => (if_neg List.not_mem_nil).symm
  bus := rfl
  registry := rfl

/-- Entries given up one after the other. -/
theorem gaveUp (hcur : ∀ p ∈ l, x.registry.current? p.1 = some p.2)
    (hkeys : (Keyed.keys l).Nodup) (hids : (l.map (·.2)).Nodup) :
    x.Without l (l.foldl giveUp x) := by
  induction l generalizing x with
  | nil => exact .nil x
  | cons p rest ih =>
      obtain ⟨hkey, hkeys⟩ := List.nodup_cons.mp hkeys
      obtain ⟨hid, hids⟩ := List.nodup_cons.mp hids
      have hothers : ∀ q ∈ rest, p.1 ≠ q.1 ∧ p.2 ≠ q.2 := by
        intro q hq
        exact ⟨fun h => hkey (List.mem_map.mpr ⟨q, hq, h.symm⟩),
          fun h => hid (List.mem_map.mpr ⟨q, hq, h.symm⟩)⟩
      have hcur' : ∀ q ∈ rest, (x.giveUp p).registry.current? q.1 = some q.2 := fun q hq =>
        (current?_giveUp x (hothers q hq).1).trans (hcur q (List.mem_cons_of_mem p hq))
      have h := ih hcur' hkeys hids
      refine ⟨h.clock.trans (clock_giveUp x p), ?_, ?_, ?_, ?_⟩
      · refine h.cache.trans ?_
        rw [cache_giveUp (hcur p List.mem_cons_self)]
        unfold Keyed.erase
        rw [List.filter_filter]
        refine List.filter_congr fun q _ => ?_
        show (decide (q.1 ∉ Keyed.keys rest) && decide (q.1 ≠ p.1)) =
          decide (q.1 ∉ p.1 :: Keyed.keys rest)
        rw [Bool.eq_iff_iff, Bool.and_eq_true, decide_eq_true_iff, decide_eq_true_iff,
          decide_eq_true_iff, List.mem_cons, not_or, and_comm]
      · intro e
        refine (h.entries e).trans ?_
        rw [entryAt?_giveUp, List.map_cons]
        by_cases hp : p.2 = e
        · subst hp
          rw [if_neg hid, if_pos rfl, if_pos List.mem_cons_self]
        · rw [if_neg hp]
          exact if_congr (List.mem_cons.trans (or_iff_right (Ne.symm hp))).symm rfl rfl
      · have hopen : (rest.filterMap fun q => (x.giveUp p).registry.open? q.2) =
            rest.filterMap fun q => x.registry.open? q.2 :=
          List.filterMap_congr fun q hq => open?_giveUp x (hothers q hq).2
        refine h.bus.trans ?_
        rw [hopen, bus_giveUp, List.filterMap_cons]
        cases x.registry.open? p.2 <;> rfl
      · refine h.registry.trans ?_
        rw [registry_giveUp]
        rfl

end Site

-- ================================================ the task of the sweep

/-- A task with another sweep in hand. -/
def Task.sweepingOn (t : Task) (s : Sweep) : Task :=
  match t with
  | .ticker (.sweeping _ mark) => .ticker (.sweeping s mark)
  | .sweep _ => .sweep s
  | t => t

/-- The steps of its sweep are the steps of a task that sweeps. -/
theorem Task.Sweeps.step_sweepingOn {id : TaskId} {t : Task} {s s' : Sweep} {x x' : BusSite}
    (h : t.Sweeps s) (hs : s.step id x = some (s', x')) :
    t.step id x = some (t.sweepingOn s', x') := by
  cases h with
  | own s => exact congrArg (Option.map _) hs
  | ticking s mark =>
      unfold Task.step Ticker.step
      simp only [hs]
      rfl

theorem Task.Sweeps.sweepingOn {t : Task} {s : Sweep} (h : t.Sweeps s) (s' : Sweep) :
    (t.sweepingOn s').Sweeps s' := by
  cases h with
  | own s => exact .own s'
  | ticking s mark => exact .ticking s' mark

theorem Task.Sweeps.sweepingOn_self {t : Task} {s : Sweep} (h : t.Sweeps s) :
    t.sweepingOn s = t := by
  cases h <;> rfl

theorem Task.sweepingOn_sweepingOn (t : Task) (s s' : Sweep) :
    (t.sweepingOn s).sweepingOn s' = t.sweepingOn s' := by
  cases t with
  | ticker k => cases k <;> rfl
  | _ => rfl

/-- Where a sweep leads, the task that sweeps leads. -/
theorem Sweep.Leads.run {id : TaskId} {t : Task} {s s' : Sweep} {x x' : BusSite} {w : BusWorld}
    (h : Leads id s x s' x') (hx : w.site = x) (ht : w.task? id = some t) (hs : t.Sweeps s) :
    ∃ n, w.run (List.replicate n (.step id)) =
      some ⟨x', w.tasks.set id (t.sweepingOn s')⟩ := by
  induction h generalizing w t with
  | here s x =>
      subst hx
      refine ⟨0, congrArg some (World.ext_tasks rfl fun j => ?_)⟩
      rw [hs.sweepingOn_self, World.task?_set ht]
      split
      next hj => rw [hj, ht]
      · rfl
  | @step s s₁ s' x x₁ x' hstep rest ih =>
      subst hx
      have hp : w.step? id = some ⟨x₁, w.tasks.set id (t.sweepingOn s₁)⟩ :=
        World.step?_of_step ht (hs.step_sweepingOn hstep)
      obtain ⟨n, hrun⟩ := ih rfl (World.task?_set_self ht _ _) (hs.sweepingOn s₁)
      refine ⟨n + 1, Option.bind_eq_some_iff.mpr ⟨_, hp, ?_⟩⟩
      rw [hrun, List.set_set, Task.sweepingOn_sweepingOn]

end InstrumentBus
