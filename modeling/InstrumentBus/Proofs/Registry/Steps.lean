/-
The steps of calls, sweeps and disposals, gone through once.

Each stage is matched with the possibilities of `Effect`, from what the
task may rely on there: that it holds the lock its stage says it holds,
and `Task.Sound`. Every invariant of a registry in use is derived from
`Task.step_effect`, `Task.drop_effect` and `Task.cancel_effect`, so a
change to a stage is felt here and nowhere else.

A disposal relies on one more thing when it empties the cache: that
nothing is left in the slots of the cached entries. This cannot be seen
from the disposal alone, and is passed on as a hypothesis.
-/
import InstrumentBus.Proofs.Registry.Effect

namespace InstrumentBus

variable {id : TaskId} {t t' : Task} {x x' : BusSite} {e : EntryId}

-- ==================================================== kinds of steps

namespace Effect

/-- Nothing happens but to the locks and to the task itself. -/
theorem quiet {r : Registry} (hs : ∀ e, r.slot? e = x.registry.slot? e)
    (hc : r.cache = x.registry.cache) (hn : r.entries.length = x.registry.entries.length)
    (hk : r.created = x.registry.created)
    (hd : x.registry.disposed = true → r.disposed = true)
    (hl : Relock id t t' x.registry r)
    (ha : ∀ e, t'.admitted = some e → t.admitted = some e ∨ x.registry.disposed = false)
    (hcl : ∀ e, t.closing = some e → t'.closing = some e) :
    Effect id t x t' { x with registry := r } where
  slots := .idle ⟨rfl, rfl⟩ rfl hs
  cache := .same hc hn
  locks := hl
  disposed := hd
  admitted := ha
  filled := fun e hv hf => absurd ((hs e).trans hv) hf
  closes := fun e he => .inr (hcl e he)
  created := fun hne => absurd hk hne

/-- Nothing happens but to the task itself. -/
theorem own (hl : Relock id t t' x.registry x.registry)
    (ha : ∀ e, t'.admitted = some e → t.admitted = some e ∨ x.registry.disposed = false)
    (hcl : ∀ e, t.closing = some e → t'.closing = some e) : Effect id t x t' x :=
  quiet (fun _ => rfl) rfl rfl rfl (fun h => h) hl ha hcl

/-- The lock of an entry changes. -/
theorem locking {f : Lock → Lock}
    (hl : Relock id t t' x.registry (x.registry.modifyLock e f))
    (ha : ∀ e, t'.admitted = some e → t.admitted = some e ∨ x.registry.disposed = false)
    (hcl : t.closing = none) :
    Effect id t x t' (x.modifyRegistry (·.modifyLock e f)) :=
  quiet (fun e' => Registry.slot?_modifyLock _ e e' f) rfl (Registry.length_modifyLock _ _ _) rfl
    (fun h => h) hl ha (fun e he => by rw [hcl] at he; cases he)

/-- A task lets go of the lock it holds. -/
theorem releasing (hh : t.lockHeld = some e) (hq : t.queuedOn = none) (hh' : t'.lockHeld = none)
    (hq' : t'.queuedOn = none) (ha : t'.admitted = none) (hcl : t.closing = none) :
    Effect id t x t' (x.modifyRegistry (·.modifyLock e (·.release))) := by
  refine locking (.release e hh hq (fun _ => ⟨rfl, rfl⟩) hh' hq') (fun e' he => ?_) hcl
  rw [ha] at he
  cases he

/-- A task asks for a lock, and gets it or gets in line. -/
theorem requesting (he : e < x.registry.entries.length) (hh : t.lockHeld = none)
    (hq : t.queuedOn = none)
    (hh' : t'.lockHeld =
      if (x.registry.modifyLock e (·.request id)).holds e id then some e else none)
    (hq' : t'.queuedOn =
      if (x.registry.modifyLock e (·.request id)).holds e id then none else some e)
    (ha : t'.admitted = none) (hcl : t.closing = none) :
    Effect id t x t' (x.modifyRegistry (·.modifyLock e (·.request id))) := by
  refine locking (.request e he hh hq (fun _ => ⟨rfl, rfl⟩) ?_ ?_) (fun e' he => ?_) hcl
  · simp only [hh', Registry.holds_iff]
  · simp only [hq', Registry.holds_iff]
  · rw [ha] at he
    cases he

/-- What is in the slot of an entry is closed by the task that holds its
lock. -/
theorem closingSlot (hh : t.lockHeld = some e) (hh' : t'.lockHeld = some e)
    (hq : t.queuedOn = none) (hq' : t'.queuedOn = none) (ha : t'.admitted = none) (x : BusSite) :
    Effect id t x t' (x.closeSlot e) := by
  obtain ⟨hcache, hlen, hdis, hcreated⟩ := Site.closeSlot_frame x e
  have hturn : Site.Turnover t.lockHeld x (x.closeSlot e) := Site.turnover_closeSlot x hh
  refine
    { slots := hturn
      cache := .same hcache hlen
      locks := .keep (Site.sameLocks_closeSlot x e) (hh'.trans hh.symm) (hq'.trans hq.symm)
      disposed := fun hd => hdis.trans hd
      admitted := fun e' he => ?_
      filled := fun e' hn hf => ?_
      closes := fun e' he => .inl ?_
      created := fun hne => absurd hcreated hne }
  · rw [ha] at he
    cases he
  · by_cases heq : e' = e
    · exact absurd (heq ▸ Site.slot?_closeSlot x e) hf
    · rw [hturn.slot_ne (by rw [hh]; exact fun hc => heq (Option.some.inj hc).symm)] at hf
      exact absurd hn hf
  · have heq := (Task.lockHeld_of_closing he).symm.trans hh
    cases heq
    exact Site.slot?_closeSlot x e

/-- An entry leaves the cache. -/
theorem forgetting {a : Address} (hh : t.lockHeld = some e) (hh' : t'.lockHeld = some e)
    (hq : t.queuedOn = none) (hq' : t'.queuedOn = none) (ha : t'.admitted = none)
    (hcl : t.closing = none) (hs : x.registry.slot? e = none ∨ t'.closing = some e) :
    Effect id t x t' (x.modifyRegistry (·.forget a e)) := by
  have hslot := Registry.slot?_forget x.registry a e
  obtain ⟨hdis, hcreated⟩ := Registry.forget_frame x.registry a e
  refine
    { slots := .idle ⟨rfl, rfl⟩ rfl hslot
      cache := .forgot a e hh (hs.imp_left fun h => (hslot e).trans h) rfl
        (congrArg List.length (Registry.entries_forget x.registry a e))
      locks := .keep (fun e' => ⟨?_, ?_⟩) (hh'.trans hh.symm) (hq'.trans hq.symm)
      disposed := fun hd => hdis.trans hd
      admitted := fun e' he => ?_
      filled := fun e' hn hf => absurd ((hslot e').trans hn) hf
      closes := fun e' he => ?_
      created := fun hne => absurd hcreated hne }
  · exact Registry.readOff_forget x.registry a e e' _ _
  · exact Registry.readOff_forget x.registry a e e' _ _
  · rw [ha] at he
    cases he
  · rw [hcl] at he
    cases he

/-- A task takes a lock that is free. -/
theorem taking {l : Lock} (hl : (x.registry.entryAt? e).bind (·.lock.take? id) = some l)
    (hh : t.lockHeld = none) (hq : t.queuedOn = none) (hh' : t'.lockHeld = some e)
    (hq' : t'.queuedOn = none) (ha : t'.admitted = none) (hcl : t.closing = none) :
    Effect id t x t' (x.modifyRegistry (·.modifyLock e fun _ => l)) := by
  obtain ⟨hfree, -, hholder, hwaiting⟩ := Registry.take?_eq_some hl
  refine locking (.take e hfree hh hq hholder (fun e' => ?_) (fun e' hne => ?_) hh' hq')
    (fun e' he => ?_) hcl
  · by_cases heq : e' = e
    · rw [heq]
      exact hwaiting
    · exact Registry.waiting_modifyLock_ne _ _ (Ne.symm heq)
  · exact Registry.holder?_modifyLock_ne _ _ (Ne.symm hne)
  · rw [ha] at he
    cases he

/-- A task looks up the entry of an address. -/
theorem finding {now : Instant} (a : Address) (hh : t'.lockHeld = t.lockHeld)
    (hq : t'.queuedOn = t.queuedOn) (ha : t'.admitted = none) (hcl : t.closing = none) :
    Effect id t x t' { x with registry := (x.registry.resolve a now).1 } := by
  have hslot := fun e => Registry.slot?_resolve x.registry a e now
  have hrest : (x.registry.resolve a now).1.disposed = x.registry.disposed ∧
      (x.registry.resolve a now).1.created = x.registry.created := by
    unfold Registry.resolve
    split <;> exact ⟨rfl, rfl⟩
  refine
    { slots := .idle ⟨rfl, rfl⟩ rfl hslot
      cache := ?_
      locks := .keep (fun e => ⟨?_, ?_⟩) hh hq
      disposed := fun hd => hrest.1.trans hd
      admitted := fun e' he => ?_
      filled := fun e' hn hf => absurd ((hslot e').trans hn) hf
      closes := fun e' he => ?_
      created := fun hne => absurd hrest.2 hne }
  · cases hc : x.registry.current? a with
    | some e =>
        rw [Registry.resolve_of_some hc]
        exact .same rfl rfl
    | none =>
        rw [Registry.resolve_of_none hc]
        exact .made a hc rfl (List.length_append)
  · exact Registry.holder?_resolve _ _ _ _
  · exact Registry.waiting_resolve _ _ _ _
  · rw [ha] at he
    cases he
  · rw [hcl] at he
    cases he

/-- A call asks for a session, having found none that is open. -/
theorem asking {c c' : Call} (hstage : c.stage = .fill e) (hheld : x.registry.holder? e = some id)
    (hcur : x.registry.current? c.address = some e)
    (hvacant : ∀ s, x.registry.slot? e = some s → s.closed = true)
    {r : Except Failure Session} {bus : Recorded Simulated}
    (hrun : (Session.connect c.address x.registry.options).run x.bus = (r, bus))
    (hh' : Call.lockHeld c'.stage = some e) (hq' : (Task.call c').queuedOn = none)
    (ha : ∀ e', Call.admitted c'.stage = some e' → e' = e) :
    Effect id (.call c) x (.call c')
      { x with
        bus := bus
        registry := { x.registry with created := x.registry.created + 1 }.setSlot e r.toOption } := by
  have hadm : (Task.call c).admitted = some e := by
    show Call.admitted c.stage = some e
    rw [hstage]
    rfl
  obtain ⟨hlock, hq, -⟩ := Task.of_admitted hadm
  have hlt := Registry.lt_of_holder? hheld
  have hother : ∀ e', e' ≠ e →
      ({ x.registry with created := x.registry.created + 1 }.setSlot e r.toOption).slot? e' =
        x.registry.slot? e' := fun e' hne =>
    Registry.slot?_setSlot_ne _ _ (Ne.symm hne)
  exact
    { slots :=
        .asked e c.address x.registry.options r hlock hcur hvacant (Registry.slot?_setSlot _ hlt)
          hother hrun
      cache := .same rfl (Registry.length_setSlot _ _ _)
      locks :=
        .keep (fun _ => ⟨Registry.holder?_setSlot _ _ _ _, Registry.waiting_setSlot _ _ _ _⟩)
          (hh'.trans hlock.symm) (hq'.trans hq.symm)
      disposed := fun hd => hd
      admitted := fun e' he => .inl (ha e' he ▸ hadm)
      filled := by
        intro e' hn hf
        by_cases heq : e' = e
        · rw [heq]
          exact hadm
        · exact absurd ((hother e' heq).trans hn) hf
      closes := nofun
      created := fun _ => ⟨c, e, rfl, hstage, hvacant⟩ }

end Effect

-- ================================================= the steps of a call

theorem Call.step_effect {c c' : Call} (h : c.step id x = some (c', x')) (hs : c.Sound x.registry)
    (hc : x.registry.Coherent)
    (hh : ∀ e, lockHeld c.stage = some e → x.registry.holder? e = some id) :
    Effect id (.call c) x (.call c') x' ∧ c'.Sound x'.registry := by
  obtain ⟨address, program, cancelled, entered, replies, stage⟩ := c
  cases stage with
  | check =>
      simp only [step] at h
      split at h
      · cases h
        exact ⟨.own (.keep (.refl _) rfl rfl) nofun nofun, True.intro⟩
      · cases h
        exact ⟨.own (.keep (.refl _) rfl rfl) nofun nofun, True.intro⟩
  | find =>
      cases h
      refine ⟨.finding address rfl rfl rfl rfl, ?_⟩
      show (x.registry.resolve address x.clock).2 <
        (x.registry.resolve address x.clock).1.entries.length
      cases hcur : x.registry.current? address with
      | some e =>
          rw [Registry.resolve_of_some hcur]
          exact hc.lt address e hcur
      | none =>
          rw [Registry.resolve_of_none hcur]
          show _ < (x.registry.entries ++ [_]).length
          rw [List.length_append]
          exact Nat.lt_succ_self _
  | request e =>
      simp only [step] at h
      split at h
      · cases h
        exact ⟨.own (.keep (.refl _) rfl rfl) nofun nofun, True.intro⟩
      · cases hgot : (x.registry.modifyLock e (·.request id)).holds e id with
        | true =>
            simp only [Site.modifyRegistry, hgot, if_true] at h
            cases h
            exact ⟨.requesting hs rfl rfl (if_pos hgot).symm (if_pos hgot).symm rfl rfl, True.intro⟩
        | false =>
            have hno := ne_true_of_eq_false hgot
            simp only [Site.modifyRegistry, hgot, Bool.false_eq_true, if_false] at h
            cases h
            exact ⟨.requesting hs rfl rfl (if_neg hno).symm (if_neg hno).symm rfl rfl, True.intro⟩
  | queued e =>
      simp only [step] at h
      split at h
      · cases h
        exact ⟨.locking (.withdraw e rfl rfl (fun _ => ⟨rfl, rfl⟩) rfl rfl) nofun rfl, True.intro⟩
      · split at h
        next hgot =>
          cases h
          exact ⟨.own (.notice e (.refl _) rfl rfl (Registry.holds_iff.mp hgot) rfl rfl) nofun nofun,
            True.intro⟩
        next => cases h
  | recheck e =>
      cases h
      cases hd : x.registry.disposed with
      | true => exact ⟨.own (.keep (.refl _) rfl rfl) nofun nofun, True.intro⟩
      | false => exact ⟨.own (.keep (.refl _) rfl rfl) (fun _ _ => .inr hd) nofun, True.intro⟩
  | confirm e =>
      simp only [step] at h
      split at h
      next hcur =>
        cases h
        exact ⟨.own (.keep (.refl _) rfl rfl) (fun _ he => .inl he) nofun,
          Registry.isCurrent_iff.mp hcur⟩
      next =>
        cases h
        exact ⟨.releasing rfl rfl rfl rfl rfl rfl, True.intro⟩
  | fill e =>
      have hheld := hh e rfl
      simp only [step] at h
      rcases Site.vacant_or_open x.registry e with ⟨s, hslot, hopen⟩ | hvacant
      · rw [Site.fillSlot_of_open hslot hopen] at h
        cases h
        exact ⟨.own (.keep (.refl _) rfl rfl) (fun _ he => .inl he) nofun, hs, s, hslot, hopen⟩
      · rw [Site.fillSlot_of_vacant address hvacant] at h
        have hlt := Registry.lt_of_holder? hheld
        rcases hrun : (Session.connect address x.registry.options).run x.bus with ⟨r, bus⟩
        rw [hrun] at h
        cases r with
        | ok s =>
            cases h
            exact ⟨.asking rfl hheld hs hvacant hrun rfl rfl fun _ he => (Option.some.inj he).symm,
              hs, s, Registry.slot?_setSlot _ hlt, (Site.connect_ok hrun).1⟩
        | error f =>
            cases h
            exact ⟨.asking rfl hheld hs hvacant hrun rfl rfl nofun, Registry.slot?_setSlot _ hlt⟩
  | enter e =>
      obtain ⟨hcur, s, hslot, hopen⟩ := hs
      have hslot' : (x.registry.touch e x.clock).slot? e = some s :=
        (Registry.slot?_touch _ _ _ _).trans hslot
      simp only [step, Site.modifyRegistry, hslot'] at h
      obtain rfl := congrArg Prod.fst (Option.some.inj h)
      obtain rfl := congrArg Prod.snd (Option.some.inj h)
      exact ⟨act_effect rfl hslot' (.run _ _) (Registry.alike_touch _ _ _) rfl,
        act_sound hcur hslot' (.run _ _) ⟨_, rfl⟩⟩
  | acting e pending rest =>
      obtain ⟨hcur, s, at_, hslot, hent⟩ := hs
      simp only [step, hslot] at h
      split at h
      · obtain rfl := congrArg Prod.fst (Option.some.inj h)
        obtain rfl := congrArg Prod.snd (Option.some.inj h)
        exact ⟨act_effect rfl hslot (.resumeProgram _ _ _) (.refl _) rfl,
          act_sound hcur hslot (.resumeProgram _ _ _) ⟨_, hent⟩⟩
      · cases h
  | vacate e f =>
      cases h
      exact ⟨.closingSlot rfl rfl rfl rfl rfl x, Site.slot?_closeSlot x e⟩
  | abandon e f =>
      cases h
      exact ⟨.forgetting rfl rfl rfl rfl rfl rfl (.inl hs), True.intro⟩
  | leave e result =>
      cases h
      exact ⟨.releasing rfl rfl rfl rfl rfl rfl, True.intro⟩
  | ended result => cases h
  | dropped => cases h

/-- A call keeps its address and its program. -/
theorem Call.step_follows {c c' : Call} (h : c.step id x = some (c', x')) :
    (Task.call c).Follows (.call c') := by
  have hact : ∀ (c₀ : Call) (e : EntryId) (s : Session) (y : BusSite)
      (run : StateM (Line (Recorded Simulated)) Advance),
      (c₀.act e s y run).1.address = c₀.address ∧ (c₀.act e s y run).1.program = c₀.program ∧
        (c₀.act e s y run).1.entered = c₀.entered := by
    intro c₀ e s y run
    obtain ⟨replies, stage, hcall, -⟩ := act_call c₀ e s y run
    rw [hcall]
    exact ⟨rfl, rfl, rfl⟩
  obtain ⟨address, program, cancelled, entered, replies, stage⟩ := c
  cases stage with
  | check =>
      simp only [step] at h
      split at h <;> cases h <;> exact .call rfl rfl (.inl rfl)
  | request e =>
      simp only [step] at h
      split at h <;> cases h <;> exact .call rfl rfl (.inl rfl)
  | queued e =>
      simp only [step] at h
      split at h
      · cases h
        exact .call rfl rfl (.inl rfl)
      · split at h <;> cases h
        exact .call rfl rfl (.inl rfl)
  | confirm e =>
      simp only [step] at h
      split at h <;> cases h <;> exact .call rfl rfl (.inl rfl)
  | fill e =>
      simp only [step] at h
      split at h <;> cases h <;> exact .call rfl rfl (.inl rfl)
  | enter e =>
      simp only [step] at h
      split at h
      · obtain rfl := congrArg Prod.fst (Option.some.inj h)
        obtain ⟨ha, hp, -⟩ := hact ⟨address, program, cancelled, _, replies, .enter e⟩ e _ _ _
        exact .call ha hp (.inr ⟨e, rfl⟩)
      · cases h
        exact .call rfl rfl (.inl rfl)
  | acting e pending rest =>
      simp only [step] at h
      split at h
      · split at h
        · obtain rfl := congrArg Prod.fst (Option.some.inj h)
          obtain ⟨ha, hp, he⟩ := hact ⟨address, program, cancelled, entered, replies, _⟩ e _ _ _
          exact .call ha hp (.inl he)
        · cases h
          exact .call rfl rfl (.inl rfl)
      · cases h
  | ended result => cases h
  | dropped => cases h
  | _ =>
      cases h
      exact .call rfl rfl (.inl rfl)

-- ================================================ the steps of a sweep

/-- A task carries out a sweep: its own, or that of the ticker. -/
inductive Task.Sweeps : Task → Sweep → Prop where
  | own (s : Sweep) : Sweeps (.sweep s) s
  | ticking (s : Sweep) (mark : Instant) : Sweeps (.ticker (.sweeping s mark)) s

namespace Task.Sweeps

variable {s : Sweep}

theorem lockHeld (h : t.Sweeps s) : t.lockHeld = Sweep.lockHeld s.stage := by
  cases h <;> rfl

theorem queuedOn (h : t.Sweeps s) : t.queuedOn = none := by
  cases h <;> rfl

theorem admitted (h : t.Sweeps s) : t.admitted = none := by
  cases h <;> rfl

theorem closing (h : t.Sweeps s) : t.closing = Sweep.closing s.stage := by
  obtain ⟨began, todo, evicted, stage⟩ := s
  cases h <;> cases stage <;> rfl

end Task.Sweeps

/-- A sweep always has a next step, unless it is over. -/
theorem Sweep.step_eq_none {s : Sweep} (h : s.step id x = none) : s.stage = .ended := by
  obtain ⟨began, todo, evicted, stage⟩ := s
  cases stage with
  | next =>
      cases todo with
      | nil => cases h
      | cons p rest =>
          simp only [step] at h
          split at h <;> cases h
  | judge a e =>
      simp only [step] at h
      split at h <;> cases h
  | ended => rfl
  | _ => cases h

theorem Sweep.step_effect {s s' : Sweep} (h : s.step id x = some (s', x')) (ht : t.Sweeps s)
    (ht' : t'.Sweeps s') : Effect id t x t' x' := by
  have hq := ht.queuedOn
  have hq' := ht'.queuedOn
  have ha := ht'.admitted
  obtain ⟨began, todo, evicted, stage⟩ := s
  -- what the two stages say of the locks, for whichever step it is
  have hh := ht.lockHeld
  have hh' := ht'.lockHeld
  have hcl := ht.closing
  have hcl' := ht'.closing
  have hnone : ∀ e, t'.admitted = some e → t.admitted = some e ∨ x.registry.disposed = false :=
    fun e he => by rw [ha] at he; cases he
  have hkeep : t.closing = none → ∀ e, t.closing = some e → t'.closing = some e :=
    fun hn e he => by rw [hn] at he; cases he
  cases stage with
  | list =>
      cases h
      exact .own (.keep (.refl _) (hh'.trans hh.symm) (hq'.trans hq.symm)) hnone (hkeep hcl)
  | next =>
      cases todo with
      | nil =>
          cases h
          exact .own (.keep (.refl _) (hh'.trans hh.symm) (hq'.trans hq.symm)) hnone (hkeep hcl)
      | cons p rest =>
          obtain ⟨a, e⟩ := p
          simp only [step] at h
          split at h
          next l hl =>
            cases h
            exact .taking hl hh hq hh' hq' ha hcl
          next =>
            cases h
            exact .own (.keep (.refl _) (hh'.trans hh.symm) (hq'.trans hq.symm)) hnone (hkeep hcl)
  | judge a e =>
      simp only [step] at h
      split at h
      · cases h
        exact .own (.keep (.refl _) (hh'.trans hh.symm) (hq'.trans hq.symm)) hnone (hkeep hcl)
      · cases h
        exact .own (.keep (.refl _) (hh'.trans hh.symm) (hq'.trans hq.symm)) hnone (hkeep hcl)
  | unlink a e =>
      cases h
      exact .forgetting hh hh' hq hq' ha hcl (.inr hcl')
  | close e =>
      cases h
      exact .closingSlot hh hh' hq hq' ha x
  | unlock e =>
      cases h
      exact .releasing hh hq hh' hq' ha hcl
  | ended => cases h

theorem Ticker.step_effect {k k' : TickerStage} (h : Ticker.step id k x = some (k', x')) :
    Effect id (.ticker k) x (.ticker k') x' := by
  cases k with
  | fresh =>
      cases h
      exact .own (.keep (.refl _) rfl rfl) nofun nofun
  | sleeping wake =>
      simp only [step] at h
      split at h
      · cases h
        exact .own (.keep (.refl _) rfl rfl) nofun nofun
      · split at h
        · cases h
          exact .own (.keep (.refl _) rfl rfl) nofun nofun
        · cases h
  | sweeping s mark =>
      simp only [step] at h
      cases hs : s.step id x with
      | some p =>
          obtain ⟨s', y⟩ := p
          rw [hs] at h
          cases h
          exact Sweep.step_effect hs (.ticking s mark) (.ticking s' mark)
      | none =>
          rw [hs] at h
          cases h
          have hended : s.stage = .ended := Sweep.step_eq_none hs
          refine .own (.keep (.refl _) ?_ rfl) nofun fun e he => ?_
          · show none = Sweep.lockHeld s.stage
            rw [hended]
            rfl
          · rw [(Task.Sweeps.ticking s mark).closing, hended] at he
            cases he
  | ended => cases h

-- ============================================= the steps of a disposal

/-- The cache is emptied, nothing being left in the slots of its entries. -/
theorem Effect.clearing (hv : ∀ p ∈ x.registry.cache, x.registry.slot? p.2 = none) :
    Effect id (.disposal .clear) x (.disposal .ended) x.discard := by
  rw [Site.discard_of_vacant x hv]
  exact
    { slots := .idle ⟨rfl, rfl⟩ rfl fun _ => rfl
      cache := .cleared rfl rfl rfl
      locks := .keep (.refl _) rfl rfl
      disposed := fun hd => hd
      admitted := nofun
      filled := fun _ hn hf => absurd hn hf
      closes := nofun
      created := fun hne => absurd rfl hne }

theorem Disposal.step_effect {d d' : Disposal} (h : d.step id x = some (d', x'))
    (hs : (Task.disposal d).Sound x.registry) (hc : x.registry.Coherent)
    (hv : d = .clear → ∀ p ∈ x.registry.cache, x.registry.slot? p.2 = none) :
    Effect id (.disposal d) x (.disposal d') x' ∧ (Task.disposal d').Sound x'.registry := by
  obtain ⟨hlist, htodo⟩ := hs
  cases d with
  | mark =>
      simp only [step] at h
      split at h
      · cases h
        exact ⟨.own (.keep (.refl _) rfl rfl) nofun nofun, nofun, nofun⟩
      · cases h
        refine ⟨.quiet (fun _ => rfl) rfl rfl rfl (fun _ => rfl) (.keep (.refl _) rfl rfl) nofun
          nofun, fun _ => rfl, nofun⟩
  | list =>
      cases h
      refine ⟨.own (.keep (.refl _) rfl rfl) nofun nofun, nofun, fun e he => ?_⟩
      obtain ⟨p, hp, rfl⟩ := List.mem_map.mp he
      exact hc.lt p.1 p.2 (hc.listed p hp)
  | next todo =>
      cases todo with
      | nil =>
          cases h
          exact ⟨.own (.keep (.refl _) rfl rfl) nofun nofun, nofun, nofun⟩
      | cons e todo =>
          have he := htodo e List.mem_cons_self
          have hrest : ∀ e' ∈ todo,
              e' < (x.registry.modifyLock e (·.request id)).entries.length := by
            intro e' he'
            rw [Registry.length_modifyLock]
            exact htodo e' (List.mem_cons_of_mem e he')
          cases hgot : (x.registry.modifyLock e (·.request id)).holds e id with
          | true =>
              simp only [step, Site.modifyRegistry, hgot, if_true] at h
              cases h
              exact ⟨.requesting he rfl rfl (if_pos hgot).symm (if_pos hgot).symm rfl rfl, nofun,
                hrest⟩
          | false =>
              have hno := ne_true_of_eq_false hgot
              simp only [step, Site.modifyRegistry, hgot, Bool.false_eq_true, if_false] at h
              cases h
              exact ⟨.requesting he rfl rfl (if_neg hno).symm (if_neg hno).symm rfl rfl, nofun,
                hrest⟩
  | queued e todo =>
      simp only [step] at h
      split at h
      next hgot =>
        cases h
        exact ⟨.own (.notice e (.refl _) rfl rfl (Registry.holds_iff.mp hgot) rfl rfl) nofun nofun,
          nofun, htodo⟩
      next => cases h
  | close e todo =>
      cases h
      refine ⟨.closingSlot rfl rfl rfl rfl rfl x, nofun, fun e' he' => ?_⟩
      rw [(Site.closeSlot_frame x e).2.1]
      exact htodo e' he'
  | unlock e todo =>
      cases h
      refine ⟨.releasing rfl rfl rfl rfl rfl rfl, nofun, fun e' he' => ?_⟩
      show e' < (x.registry.modifyLock e _).entries.length
      rw [Registry.length_modifyLock]
      exact htodo e' he'
  | clear =>
      cases h
      exact ⟨.clearing (hv rfl), nofun, nofun⟩
  | ended => cases h
  | dropped => cases h

theorem Disposal.step_follows {d d' : Disposal} (h : d.step id x = some (d', x')) :
    (Task.disposal d).Follows (.disposal d') := by
  cases d with
  | mark =>
      simp only [step] at h
      split at h <;> cases h
      · exact .disposal nofun fun _ => .inr (.inr rfl)
      · exact .disposal nofun nofun
  | next todo =>
      cases todo with
      | nil =>
          cases h
          exact .disposal nofun nofun
      | cons e todo =>
          cases h
          split <;> exact .disposal nofun nofun
  | queued e todo =>
      simp only [step] at h
      split at h <;> cases h
      exact .disposal nofun nofun
  | clear =>
      cases h
      exact .disposal nofun fun _ => .inr (.inl rfl)
  | ended => cases h
  | dropped => cases h
  | _ =>
      cases h
      exact .disposal nofun nofun

theorem Disposal.step_drains {d d' : Disposal} {l : List EntryId}
    (h : d.step id x = some (d', x')) (hl : d'.pending? = some l) :
    Drains (.disposal d) (.disposal d') x x' l := by
  cases d with
  | mark =>
      simp only [step] at h
      split at h <;> cases h <;> cases hl
  | list =>
      cases h
      cases hl
      exact .listed rfl rfl rfl
  | next todo =>
      cases todo with
      | nil =>
          cases h
          exact .kept hl
      | cons e todo =>
          cases h
          refine .kept (Eq.trans ?_ hl)
          split <;> rfl
  | queued e todo =>
      simp only [step] at h
      split at h
      · cases h
        exact .kept hl
      · cases h
  | close e todo =>
      cases h
      cases hl
      exact .emptied e rfl rfl (Site.slot?_closeSlot x e)
  | unlock e todo =>
      cases h
      exact .kept hl
  | clear =>
      cases h
      cases hl
  | ended => cases h
  | dropped => cases h

-- ==================================================== any task, any step

namespace Task

theorem step_effect (h : t.step id x = some (t', x')) (hs : t.Sound x.registry)
    (hc : x.registry.Coherent) (hh : ∀ e, t.lockHeld = some e → x.registry.holder? e = some id)
    (hv : t = .disposal .clear → ∀ p ∈ x.registry.cache, x.registry.slot? p.2 = none) :
    Effect id t x t' x' ∧ t'.Sound x'.registry := by
  cases t with
  | call c =>
      obtain ⟨⟨c', y⟩, hstep, heq⟩ := Option.map_eq_some_iff.mp h
      cases heq
      exact Call.step_effect hstep hs hc hh
  | sweep s =>
      obtain ⟨⟨s', y⟩, hstep, heq⟩ := Option.map_eq_some_iff.mp h
      cases heq
      exact ⟨Sweep.step_effect hstep (.own s) (.own s'), True.intro⟩
  | disposal d =>
      obtain ⟨⟨d', y⟩, hstep, heq⟩ := Option.map_eq_some_iff.mp h
      cases heq
      exact Disposal.step_effect hstep hs hc fun hd => hv (hd ▸ rfl)
  | ticker k =>
      obtain ⟨⟨k', y⟩, hstep, heq⟩ := Option.map_eq_some_iff.mp h
      cases heq
      exact ⟨Ticker.step_effect hstep, True.intro⟩

theorem step_follows (h : t.step id x = some (t', x')) : t.Follows t' := by
  cases t with
  | call c =>
      obtain ⟨⟨c', y⟩, hstep, heq⟩ := Option.map_eq_some_iff.mp h
      cases heq
      exact Call.step_follows hstep
  | sweep s =>
      obtain ⟨⟨s', y⟩, -, heq⟩ := Option.map_eq_some_iff.mp h
      cases heq
      exact .sweep s s'
  | disposal d =>
      obtain ⟨⟨d', y⟩, hstep, heq⟩ := Option.map_eq_some_iff.mp h
      cases heq
      exact Disposal.step_follows hstep
  | ticker k =>
      obtain ⟨⟨k', y⟩, -, heq⟩ := Option.map_eq_some_iff.mp h
      cases heq
      exact .ticker k k'

theorem step_drains {l : List EntryId} (h : t.step id x = some (t', x'))
    (hl : t'.pending? = some l) : Drains t t' x x' l := by
  cases t with
  | disposal d =>
      obtain ⟨⟨d', y⟩, hstep, heq⟩ := Option.map_eq_some_iff.mp h
      cases heq
      exact Disposal.step_drains hstep hl
  | _ =>
      obtain ⟨⟨_, y⟩, -, heq⟩ := Option.map_eq_some_iff.mp h
      cases heq
      cases hl

theorem pending?_cancel (t : Task) : t.cancel.pending? = t.pending? := by
  cases t <;> rfl

/-- A disposal that is dropped while under way drains nothing more. -/
theorem pending?_drop (h : t.drop id x = (t', x')) : t'.pending? = none := by
  cases t with
  | call c =>
      cases h
      rfl
  | disposal d => cases d <;> cases h <;> rfl
  | sweep s =>
      cases h
      rfl
  | ticker k => cases k <;> cases h <;> rfl

theorem cancel_follows (t : Task) : t.Follows t.cancel := by
  cases t with
  | call c => exact .call rfl rfl (.inl rfl)
  | sweep s => exact .sweep s s
  | disposal d => exact .disposal (fun h => h) .inl
  | ticker k => exact .ticker k k

theorem drop_follows (h : t.drop id x = (t', x')) : t.Follows t' := by
  cases t with
  | call c =>
      obtain ⟨address, program, cancelled, entered, replies, stage⟩ := c
      cases stage <;> cases h <;> exact .call rfl rfl (.inl rfl)
  | disposal d =>
      cases d with
      | ended =>
          cases h
          exact .disposal (fun h => h) .inl
      | _ =>
          cases h
          exact .disposal nofun nofun
  | sweep s =>
      cases h
      exact .sweep s s
  | ticker k => cases k <;> cases h <;> exact .ticker _ _

/-- The token of a task cancelled. -/
theorem cancel_effect (id : TaskId) (hs : t.Sound x.registry) :
    Effect id t x t.cancel x ∧ t.cancel.Sound x.registry := by
  cases t with
  | call c => exact ⟨.own (.keep (.refl _) rfl rfl) (fun _ he => .inl he) nofun, hs⟩
  | sweep s => exact ⟨.own (.keep (.refl _) rfl rfl) nofun fun _ he => he, hs⟩
  | disposal d => exact ⟨.own (.keep (.refl _) rfl rfl) nofun nofun, hs⟩
  | ticker k => exact ⟨.own (.keep (.refl _) rfl rfl) nofun fun _ he => he, hs⟩

/-- A task dropped where it stands lets go of the lock it holds, or leaves
the queue. -/
theorem drop_effect (h : t.drop id x = (t', x')) :
    Effect id t x t' x' ∧ t'.Sound x'.registry := by
  cases t with
  | call c =>
      obtain ⟨address, program, cancelled, entered, replies, stage⟩ := c
      cases stage <;> cases h <;> first
        | exact ⟨.own (.keep (.refl _) rfl rfl) nofun nofun, True.intro⟩
        | exact ⟨.locking (.withdraw _ rfl rfl (fun _ => ⟨rfl, rfl⟩) rfl rfl) nofun rfl, True.intro⟩
        | exact ⟨.releasing rfl rfl rfl rfl rfl rfl, True.intro⟩
  | disposal d =>
      cases d <;> cases h <;> first
        | exact ⟨.own (.keep (.refl _) rfl rfl) nofun nofun, nofun, nofun⟩
        | exact ⟨.locking (.withdraw _ rfl rfl (fun _ => ⟨rfl, rfl⟩) rfl rfl) nofun rfl, nofun, nofun⟩
        | exact ⟨.releasing rfl rfl rfl rfl rfl rfl, nofun, nofun⟩
  | sweep s =>
      cases h
      exact ⟨.own (.keep (.refl _) rfl rfl) nofun fun _ he => he, True.intro⟩
  | ticker k =>
      cases k <;> cases h <;>
        exact ⟨.own (.keep (.refl _) rfl rfl) nofun fun _ he => he, True.intro⟩

end Task

end InstrumentBus
