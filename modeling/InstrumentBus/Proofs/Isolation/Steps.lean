/-
One step of a task, on both sides or on one.

A call of the address takes each of its steps on both sides and comes to
the same (`Call.Reflects.step`); a call of another address takes its steps
on one side, and the other does not notice (`Call.step_apart`). A sweep,
on its own or in the background, takes on both sides the steps that
concern an entry of the address and on one side those that concern
another entry (`Sweep.Mirrors.step`); its first step it takes on both.
-/
import InstrumentBus.Proofs.Isolation.Reflection

namespace InstrumentBus

variable {A : Address} {ρ : Naming} {x y x' : BusSite} {id : TaskId}

-- =========================================== the steps of a call here

/-- The other side takes the same step and comes to the same. -/
def Call.Echoed (A : Address) (ρ : Naming) (id : TaskId) (c' : Call) (x y : BusSite)
    (c₁ : Call) (x₁ : BusSite) : Prop :=
  ∃ ρ' c₁' y₁, ρ.Extends ρ' x.registry.entries.length x.bus.bus.nextDescriptor ∧
    c'.step id y = some (c₁', y₁) ∧ x₁.Mirrors A ρ' y₁ ∧ c₁.Reflects A ρ' c₁'

theorem CallStage.Mirrors.ite {b b' : Bool} (hb : b' = b) {st₁ st₁' st₂ st₂' : CallStage}
    (h₁ : st₁.Mirrors ρ st₁') (h₂ : st₂.Mirrors ρ st₂') :
    CallStage.Mirrors ρ (if b then st₁ else st₂) (if b' then st₁' else st₂') := by
  subst hb
  split
  · exact h₁
  · exact h₂

namespace Call

variable {c c' c₁ c₁' : Call}

theorem Reflects.at_ (h : c.Reflects A ρ c') {st st' : CallStage} (hst : st.Mirrors ρ st') :
    ({ c with stage := st } : Call).Reflects A ρ { c' with stage := st' } :=
  { h with stage := hst }

/-- A step that gives nothing a name. -/
theorem Echoed.same {x₁ y₁ : BusSite} (hy : c'.step id y = some (c₁', y₁)) (hx : x₁.Mirrors A ρ y₁)
    (hc : c₁.Reflects A ρ c₁') : Echoed A ρ id c' x y c₁ x₁ :=
  ⟨ρ, c₁', y₁, .refl ρ _ _, hy, hx, hc⟩

/-- Part of a program carried out on both sides. -/
theorem Reflects.act (h : c.Reflects A ρ c') (hx : x.Mirrors A ρ y) {e i : EntryId}
    (he : ρ.place e = some i) {s : Session} {d' : Int} (ha : s.address = A)
    (hd : ρ.name s.descriptor = some d')
    (hl : x.bus.bus.link? s.descriptor = some ⟨A, !s.closed⟩)
    {run : StateM (Line (Recorded Simulated)) Advance} (hrun : Orderly run)
    (hm : Matched s.descriptor d' (Advance.Alike (Matched.Pair s.descriptor d')) run) :
    (c.act e s x run).2.Mirrors A ρ (c'.act i (s.on d') y run).2 ∧
      (c.act e s x run).1.Reflects A ρ (c'.act i (s.on d') y run).1 := by
  have hc := hrun (s, x.bus)
  have hc' := hrun (s.on d', y.bus)
  obtain ⟨hadv, ht⟩ := hm _ _ _ _ (hx.bus.twins hd)
  have hbus := hx.bus.worked hd hl ht hc hc'
  have hnames : ∀ d₁ d₂, Matched.Pair s.descriptor d' d₁ d₂ → ρ.Names d₁ d₂ := by
    rintro d₁ d₂ ⟨rfl, rfl⟩
    exact hd
  have hsite : ({ x with
        bus := (run.run (s, x.bus)).2.2
        registry := x.registry.setSlot e (some (run.run (s, x.bus)).2.1) } : BusSite).Mirrors A ρ
      { y with
        bus := (run.run (s.on d', y.bus)).2.2
        registry := y.registry.setSlot i (some (run.run (s.on d', y.bus)).2.1) } := by
    refine ⟨hx.clock, hx.registry.setSlot he ?_, hbus⟩
    rw [ht.session]
    exact .full (hc.address.trans ha) (ht.own ▸ hd)
  unfold Call.act
  rcases hp : run.run (s, x.bus) with ⟨adv, s₁, b₁⟩
  rcases hp' : run.run (s.on d', y.bus) with ⟨adv', s₁', b₁'⟩
  rw [hp, hp'] at hadv hsite
  change Advance.Alike _ adv adv' at hadv
  cases hadv with
  | done hl result =>
      have hrep := hl.imp fun _ _ hr => hr.mono hnames
      refine ⟨hsite.modifyRegistry (f := (·.touch e x.clock)) (g := (·.touch i y.clock)) ?_, ?_⟩
      · rw [hx.clock]
        exact hsite.registry.touch he x.clock
      · exact { h with replies := List.rel_append h.replies hrep, stage := .leave he result }
  | paused hl pending rest =>
      have hrep := hl.imp fun _ _ hr => hr.mono hnames
      exact ⟨hsite, { h with replies := List.rel_append h.replies hrep,
                             stage := .acting he pending rest }⟩

/-- Filling the slot on both sides, which may give a new descriptor its
name. -/
theorem Reflects.fill (h : c.Reflects A ρ c') (hx : x.Mirrors A ρ y) (ho : x.Owned) {e i : EntryId}
    (he : ρ.place e = some i) (hs : c.stage = .fill e) (hs' : c'.stage = .fill i)
    (hstep : c.step id x = some (c₁, x')) : Echoed A ρ id c' x y c₁ x' := by
  obtain ⟨ρ', hext, hx', hsame, -⟩ := hx.fillSlot ho he
  have he' := hext.kept e i he
  have hfill : x.fillSlot c.address e = x.fillSlot A e := by rw [h.address]
  have hfill' : y.fillSlot c'.address i = y.fillSlot A i := by rw [h.address']
  rcases hf : x.fillSlot A e with ⟨x₁, result⟩
  rcases hf' : y.fillSlot A i with ⟨y₁, result'⟩
  rw [hf, hf'] at hx' hsame
  obtain rfl : result' = result := hsame
  simp only [Call.step, hs, hfill, hf] at hstep
  cases result' with
  | ok _ =>
      cases hstep
      refine ⟨ρ', _, _, hext, ?_, hx', (h.extends hext).at_ (.enter he')⟩
      simp only [Call.step, hs', hfill', hf']
  | error f =>
      cases hstep
      refine ⟨ρ', _, _, hext, ?_, hx', (h.extends hext).at_ (.abandon he' f)⟩
      simp only [Call.step, hs', hfill', hf']

/-- Entering the program on both sides. The slot is read after the entry
is touched. -/
theorem Reflects.enter (h : c.Reflects A ρ c') (hx : x.Mirrors A ρ y) (ho : x.Owned)
    {e i : EntryId} (he : ρ.place e = some i) (hs : c.stage = .enter e) (hs' : c'.stage = .enter i)
    (hstep : c.step id x = some (c₁, x')) : Echoed A ρ id c' x y c₁ x' := by
  have hx' : (x.modifyRegistry (·.touch e x.clock)).Mirrors A ρ
      (y.modifyRegistry (·.touch i y.clock)) := by
    rw [hx.clock]
    exact hx.modifyRegistry (hx.registry.touch he x.clock)
  have ho' : (x.modifyRegistry (·.touch e x.clock)).Owned :=
    ho.idle ⟨rfl, rfl⟩ rfl fun e' => Registry.slot?_touch _ _ _ _
  simp only [Call.step, hs] at hstep
  cases hslot : (x.modifyRegistry (·.touch e x.clock)).registry.slot? e with
  | none =>
      have hslot' := hx'.registry.slot_none he hslot
      rw [hslot] at hstep
      cases hstep
      refine .same ?_ hx' (h.at_ (.leave he _))
      simp only [Call.step, hs', hslot']
  | some s =>
      obtain ⟨d', hd, hslot', ha, hl, -⟩ := hx'.session ho' he hslot
      rw [hslot] at hstep
      obtain rfl := congrArg Prod.fst (Option.some.inj hstep)
      obtain rfl := congrArg Prod.snd (Option.some.inj hstep)
      have hc : Reflects A ρ { c with entered := some (x.clock, s.descriptor) }
          { c' with entered := some (y.clock, (s.on d').descriptor) } := by
        rw [hx.clock]
        exact { h with entered := .at_ _ hd }
      have hboth := hc.act hx' he ha hd hl (.run x.clock c.program) (.run x.clock c.program)
      refine .same ?_ hboth.1 hboth.2
      simp only [Call.step, hs', hslot', h.program]
      rw [← hx.clock]
      rfl

/-- Going on with the program on both sides, when what it waits for is
due. -/
theorem Reflects.resume (h : c.Reflects A ρ c') (hx : x.Mirrors A ρ y) (ho : x.Owned)
    {e i : EntryId} (he : ρ.place e = some i) {pending : Pending} {rest : Program}
    (hs : c.stage = .acting e pending rest) (hs' : c'.stage = .acting i pending rest)
    (hstep : c.step id x = some (c₁, x')) : Echoed A ρ id c' x y c₁ x' := by
  simp only [Call.step, hs] at hstep
  split at hstep
  next hdue =>
    cases hslot : x.registry.slot? e with
    | none =>
        have hslot' := hx.registry.slot_none he hslot
        rw [hslot] at hstep
        cases hstep
        refine .same ?_ hx (h.at_ (.leave he _))
        simp only [Call.step, hs', hx.clock, hdue, hslot', if_true]
    | some s =>
        obtain ⟨d', hd, hslot', ha, hl, -⟩ := hx.session ho he hslot
        rw [hslot] at hstep
        obtain rfl := congrArg Prod.fst (Option.some.inj hstep)
        obtain rfl := congrArg Prod.snd (Option.some.inj hstep)
        have hboth := h.act hx he ha hd hl (.resumeProgram x.clock pending rest)
          (.resumeProgram x.clock pending rest)
        refine .same ?_ hboth.1 hboth.2
        simp only [Call.step, hs', hx.clock, hdue, hslot', if_true]
  next => cases hstep

/-- A call of the address takes the same step on both sides. -/
theorem Reflects.step (h : c.Reflects A ρ c') (hx : x.Mirrors A ρ y) (ho : x.Owned)
    (hstep : c.step id x = some (c₁, x')) : Echoed A ρ id c' x y c₁ x' := by
  have hr := hx.registry
  obtain ⟨hdis, hdis'⟩ := hr.disposed
  obtain ⟨address, program, cancelled, entered, replies, stage⟩ := c
  obtain ⟨address', program', cancelled', entered', replies', stage'⟩ := c'
  obtain rfl : address = A := h.address
  obtain rfl : address' = address := h.address'
  obtain rfl : program' = program := h.program
  obtain rfl : cancelled' = cancelled := h.cancelled
  have hstage : stage.Mirrors ρ stage' := h.stage
  cases hstage with
  | check =>
      simp only [Call.step, hdis, Bool.false_eq_true, if_false] at hstep
      cases hstep
      refine .same ?_ hx (h.at_ .find)
      simp only [Call.step, hdis', Bool.false_eq_true, if_false]
  | find =>
      cases hstep
      obtain ⟨ρ', hext, hname, hplace, hr'⟩ := hr.resolve x.clock x.bus.bus.nextDescriptor
      refine ⟨ρ', _, _, hext, rfl, ⟨hx.clock, ?_, hx.bus.congr hname⟩, ?_⟩
      · rw [hx.clock]
        exact hr'
      · refine (h.extends hext).at_ (.request ?_)
        rw [hx.clock]
        exact hplace
  | @request e i he =>
      simp only [Call.step] at hstep
      cases cancelled' with
      | true =>
          cases hstep
          exact .same rfl hx (h.at_ (.ended _))
      | false =>
          have hr' := hr.modifyLock he (·.request id)
          have hholds := hr'.holds he id
          cases hstep
          exact .same rfl (hx.modifyRegistry hr') (h.at_ (.ite hholds (.recheck he) (.queued he)))
  | @queued e i he =>
      have hholds := hr.holds he id
      simp only [Call.step] at hstep
      cases cancelled' with
      | true =>
          cases hstep
          exact .same rfl (hx.modifyRegistry (hr.modifyLock he _)) (h.at_ (.ended _))
      | false =>
          simp only [Bool.false_eq_true, if_false] at hstep
          split at hstep
          next hgot =>
            cases hstep
            refine .same ?_ hx (h.at_ (.recheck he))
            simp only [Call.step, hholds, hgot, if_true, Bool.false_eq_true, if_false]
          next => cases hstep
  | @recheck e i he =>
      simp only [Call.step, hdis, Bool.false_eq_true, if_false] at hstep
      cases hstep
      refine .same ?_ hx (h.at_ (.confirm he))
      simp only [Call.step, hdis', Bool.false_eq_true, if_false]
  | @confirm e i he =>
      have hcur := hr.isCurrent he
      simp only [Call.step] at hstep
      split at hstep
      next hyes =>
        cases hstep
        refine .same ?_ hx (h.at_ (.fill he))
        simp only [Call.step, hcur, hyes, if_true]
      next hno =>
        cases hstep
        refine .same ?_ (hx.modifyRegistry (g := (·.modifyLock i (·.release)))
          (hr.modifyLock he (·.release))) (h.at_ .check)
        simp only [Call.step, hcur, hno]
        rfl
  | @fill e i he => exact h.fill hx ho he rfl rfl hstep
  | @enter e i he => exact h.enter hx ho he rfl rfl hstep
  | @acting e i he pending rest => exact h.resume hx ho he rfl rfl hstep
  | @vacate e i he f =>
      cases hstep
      exact .same rfl (hx.closeSlot ho he) (h.at_ (.abandon he f))
  | @abandon e i he f =>
      cases hstep
      exact .same rfl (hx.modifyRegistry (hr.forget he)) (h.at_ (.leave he _))
  | @leave e i he result =>
      cases hstep
      exact .same rfl (hx.modifyRegistry (hr.modifyLock he _)) (h.at_ (.ended _))
  | ended result => cases hstep
  | dropped => cases hstep

-- ======================================== the steps of a call elsewhere

/-- Part of a program carried out on one side. -/
theorem act_apart (hx : x.Mirrors A ρ y) {e : EntryId} (he : ρ.place e = none) {s : Session}
    (hs : x.registry.slot? e = some s)
    (hl : x.bus.bus.link? s.descriptor = some ⟨s.address, !s.closed⟩) (c : Call)
    {run : StateM (Line (Recorded Simulated)) Advance} (hrun : Orderly run) :
    (c.act e s x run).2.Mirrors A ρ y := by
  have ha : s.address ≠ A := hx.registry.others e s he hs
  have hc := hrun (s, x.bus)
  have haddr : ∀ s', some (run.run (s, x.bus)).2.1 = some s' → s'.address ≠ A := by
    intro s' hs' h
    cases hs'
    exact ha (hc.address.symm.trans h)
  have hslot := hx.registry.setSlot_apart he haddr
  obtain ⟨r, hact, hr⟩ := act_site c e s x run
  rw [hact]
  refine ⟨hx.clock, ?_, hx.bus.worked_apart ha hl hc⟩
  rcases hr with rfl | rfl
  · exact hslot
  · exact hslot.touch_apart he x.clock

theorem target?_act (c : Call) (e : EntryId) (s : Session) (x : BusSite)
    (run : StateM (Line (Recorded Simulated)) Advance) :
    target? (c.act e s x run).1.stage = some e := by
  obtain ⟨l, st, hcall, ⟨pending, rest, rfl⟩ | ⟨result, rfl⟩⟩ := act_call c e s x run
  · rw [hcall]
    rfl
  · rw [hcall]
    rfl

/-- A call of another address takes a step, and the other side does not
notice. -/
theorem step_apart {n : Nat} (hx : x.Mirrors A ρ y) (ho : x.Owned) (ha : c.address ≠ A)
    (he : ∀ e, target? c.stage = some e → ρ.Apart n e)
    (hlen : n ≤ x'.registry.entries.length) (hstep : c.step id x = some (c₁, x')) :
    x'.Mirrors A ρ y ∧
      ∀ e, target? c₁.stage = some e → ρ.Apart x'.registry.entries.length e := by
  have hr := hx.registry
  -- an entry that the call is at already
  have hat : ∀ e, target? c.stage = some e → ρ.Apart x'.registry.entries.length e :=
    fun e h => (he e h).extends (.refl ρ n 0) hlen
  have hnone : ∀ {s : CallStage}, target? s = none →
      ∀ e, target? s = some e → ρ.Apart x'.registry.entries.length e := by
    intro s h e h'
    rw [h] at h'
    cases h'
  obtain ⟨address, program, cancelled, entered, replies, stage⟩ := c
  cases stage with
  | check =>
      simp only [Call.step] at hstep
      split at hstep <;> cases hstep <;> exact ⟨hx, hnone rfl⟩
  | find =>
      cases hstep
      obtain ⟨hr', hap⟩ := hr.resolve_apart ha x.clock
      refine ⟨⟨hx.clock, hr', hx.bus⟩, fun e h => ?_⟩
      cases h
      exact hap
  | request e =>
      have hfree := (he e rfl).1
      simp only [Call.step] at hstep
      split at hstep
      · cases hstep
        exact ⟨hx, hnone rfl⟩
      · cases hstep
        refine ⟨hx.modifyRegistry_apart (hr.modifyLock_apart hfree _), fun e' h => hat e' ?_⟩
        simp only at h
        split at h <;> exact h
  | queued e =>
      have hfree := (he e rfl).1
      simp only [Call.step] at hstep
      split at hstep
      · cases hstep
        exact ⟨hx.modifyRegistry_apart (hr.modifyLock_apart hfree _), hnone rfl⟩
      · split at hstep
        · cases hstep
          exact ⟨hx, hat⟩
        · cases hstep
  | recheck e =>
      cases hstep
      refine ⟨hx, fun e' h => hat e' ?_⟩
      simp only at h
      split at h <;> exact h
  | confirm e =>
      have hfree := (he e rfl).1
      simp only [Call.step] at hstep
      split at hstep
      · cases hstep
        exact ⟨hx, hat⟩
      · cases hstep
        exact ⟨hx.modifyRegistry_apart (hr.modifyLock_apart hfree _), hnone rfl⟩
  | fill e =>
      have hx' := hx.fillSlot_apart ha (he e rfl).1
      rcases hf : x.fillSlot address e with ⟨x₁, result⟩
      rw [hf] at hx'
      simp only [Call.step, hf] at hstep
      cases result <;> cases hstep <;> exact ⟨hx', hat⟩
  | enter e =>
      have hfree := (he e rfl).1
      have hx' : (x.modifyRegistry (·.touch e x.clock)).Mirrors A ρ y :=
        hx.modifyRegistry_apart (hr.touch_apart hfree x.clock)
      simp only [Call.step] at hstep
      split at hstep
      next s hs =>
        have hs₀ := (Registry.slot?_touch x.registry e e x.clock).symm.trans hs
        obtain rfl := congrArg Prod.fst (Option.some.inj hstep)
        obtain rfl := congrArg Prod.snd (Option.some.inj hstep)
        refine ⟨act_apart hx' hfree hs (ho.slot e s hs₀).2 _ (.run _ _), fun e' h => hat e' ?_⟩
        rw [target?_act] at h
        exact h
      next =>
        cases hstep
        exact ⟨hx', hat⟩
  | acting e pending rest =>
      have hfree := (he e rfl).1
      simp only [Call.step] at hstep
      split at hstep
      · split at hstep
        next s hs =>
          obtain rfl := congrArg Prod.fst (Option.some.inj hstep)
          obtain rfl := congrArg Prod.snd (Option.some.inj hstep)
          refine ⟨act_apart hx hfree hs (ho.slot e s hs).2 _ (.resumeProgram _ _ _),
            fun e' h => hat e' ?_⟩
          rw [target?_act] at h
          exact h
        next =>
          cases hstep
          exact ⟨hx, hat⟩
      · cases hstep
  | vacate e f =>
      cases hstep
      exact ⟨hx.closeSlot_apart ho (he e rfl).1, hat⟩
  | abandon e f =>
      cases hstep
      exact ⟨hx.modifyRegistry_apart (hr.forget_apart ha e), hat⟩
  | leave e result =>
      cases hstep
      exact ⟨hx.modifyRegistry_apart (hr.modifyLock_apart (he e rfl).1 _), hnone rfl⟩
  | ended result => cases hstep
  | dropped => cases hstep

end Call

-- ================================================ the steps of a sweep

/-- The other side takes the same step, or it does not notice, which it
may do only of a step that is not the first. -/
inductive Sweep.Echoed (A : Address) (ρ : Naming) (id : TaskId) (s s' : Sweep) (x y : BusSite)
    (s₁ : Sweep) (x₁ : BusSite) : Prop where
  | same (s₁' : Sweep) (y₁ : BusSite) (hy : s'.step id y = some (s₁', y₁)) (hx : x₁.Mirrors A ρ y₁)
      (hs : s₁.Mirrors A ρ x.registry.entries.length s₁')
  | unseen (hl : s.stage ≠ .list) (hx : x₁.Mirrors A ρ y)
      (hs : s₁.Mirrors A ρ x.registry.entries.length s')

/-- The next entry of the list. An entry of the address has its lock taken
on both sides or on none; another entry is on one list only. -/
theorem Sweep.Mirrors.next {s s' s₁ : Sweep} (h : s.Mirrors A ρ x.registry.entries.length s')
    (hx : x.Mirrors A ρ y) (hs : s.stage = .next) (hs' : s'.stage = .next)
    (hstep : s.step id x = some (s₁, x')) : Sweep.Echoed A ρ id s s' x y s₁ x' := by
  have hr := hx.registry
  obtain ⟨began, todo, evicted, stage⟩ := s
  obtain ⟨began', todo', evicted', stage'⟩ := s'
  obtain rfl : stage = .next := hs
  obtain rfl : stage' = .next := hs'
  obtain ⟨hbegan, htodo, hknown, -⟩ := h
  change began' = began at hbegan
  subst hbegan
  change todo' = todo.filterMap ρ.pair? at htodo
  cases todo with
  | nil =>
      cases hstep
      subst htodo
      exact .same _ _ rfl hx ⟨rfl, rfl, fun _ hp => absurd hp List.not_mem_nil, .ended⟩
  | cons p rest =>
      obtain ⟨a, e⟩ := p
      have hrest : ∀ p ∈ rest, ρ.Knows A x.registry.entries.length p :=
        fun p hp => hknown p (List.mem_cons_of_mem _ hp)
      simp only [Sweep.step] at hstep
      rcases hknown (a, e) List.mem_cons_self with ⟨ha, i, hi⟩ | ⟨ha, hap⟩
      · -- an entry of the address: its lock is taken on both sides or on none
        obtain rfl : a = A := ha
        have hpair : ρ.pair? (a, e) = some (a, i) := congrArg (Option.map _) hi
        rw [List.filterMap_cons_some hpair] at htodo
        subst htodo
        have htake := hr.take? hi id
        cases hl : (x.registry.entryAt? e).bind (·.lock.take? id) with
        | some l =>
            rw [hl] at hstep htake
            cases hstep
            refine .same ⟨began', rest.filterMap ρ.pair?, evicted', .judge a i⟩
              (y.modifyRegistry (·.modifyLock i fun _ => l)) ?_
              (hx.modifyRegistry (hr.modifyLock hi fun _ => l))
              ⟨rfl, rfl, hrest, .judge hi⟩
            simp only [Sweep.step, htake]
        | none =>
            rw [hl] at hstep htake
            cases hstep
            refine .same ⟨began', rest.filterMap ρ.pair?, evicted', .next⟩ y ?_ hx
              ⟨rfl, rfl, hrest, .next⟩
            simp only [Sweep.step, htake]
      · have hpair : ρ.pair? (a, e) = none := congrArg (Option.map _) hap.1
        rw [List.filterMap_cons_none hpair] at htodo
        cases hl : (x.registry.entryAt? e).bind (·.lock.take? id) with
        | some l =>
            rw [hl] at hstep
            cases hstep
            exact .unseen (by simp) (hx.modifyRegistry_apart (hr.modifyLock_apart hap.1 _))
              ⟨rfl, htodo, hrest, .judgeApart ha hap⟩
        | none =>
            rw [hl] at hstep
            cases hstep
            exact .unseen (by simp) hx ⟨rfl, htodo, hrest, .next⟩

theorem Sweep.Mirrors.step {s s' s₁ : Sweep} (h : s.Mirrors A ρ x.registry.entries.length s')
    (hx : x.Mirrors A ρ y) (ho : x.Owned) (hstep : s.step id x = some (s₁, x')) :
    Sweep.Echoed A ρ id s s' x y s₁ x' := by
  have hr := hx.registry
  obtain ⟨began, todo, evicted, stage⟩ := s
  obtain ⟨began', todo', evicted', stage'⟩ := s'
  have hall := h
  obtain ⟨hbegan, htodo, hknown, hstage⟩ := h
  change began' = began at hbegan
  subst hbegan
  change todo' = todo.filterMap ρ.pair? at htodo
  change stage.Mirrors A ρ _ stage' at hstage
  cases hstage with
  | list =>
      cases hstep
      exact .same _ _ rfl hx ⟨hx.clock, hr.cache, hr.known, .next⟩
  | next => exact hall.next hx rfl rfl hstep
  | ended => cases hstep
  | @judge e i he =>
      have hidle := hr.idle he began'
      simp only [Sweep.step] at hstep
      split at hstep
      next hlt =>
        cases hstep
        refine .same ⟨began', todo', evicted', .unlock i⟩ y ?_ hx ⟨rfl, htodo, hknown, .unlock he⟩
        simp only [Sweep.step, hidle, hr.policy, hlt, if_true]
      next hlt =>
        cases hstep
        refine .same ⟨began', todo', evicted', .unlink A i⟩ y ?_ hx ⟨rfl, htodo, hknown, .unlink he⟩
        simp only [Sweep.step, hidle, hr.policy, hlt, if_false]
  | unlink he =>
      cases hstep
      exact .same _ _ rfl (hx.modifyRegistry (hr.forget he)) ⟨rfl, htodo, hknown, .close he⟩
  | close he =>
      cases hstep
      exact .same _ _ rfl (hx.closeSlot ho he) ⟨rfl, htodo, hknown, .unlock he⟩
  | unlock he =>
      cases hstep
      exact .same _ _ rfl (hx.modifyRegistry (hr.modifyLock he _)) ⟨rfl, htodo, hknown, .next⟩
  | judgeApart ha hap =>
      simp only [Sweep.step] at hstep
      split at hstep
      · cases hstep
        exact .unseen (by simp) hx ⟨rfl, htodo, hknown, .unlockApart hap⟩
      · cases hstep
        exact .unseen (by simp) hx ⟨rfl, htodo, hknown, .unlinkApart ha hap⟩
  | unlinkApart ha hap =>
      cases hstep
      exact .unseen (by simp) (hx.modifyRegistry_apart (hr.forget_apart ha _))
        ⟨rfl, htodo, hknown, .closeApart hap⟩
  | closeApart hap =>
      cases hstep
      exact .unseen (by simp) (hx.closeSlot_apart ho hap.1) ⟨rfl, htodo, hknown, .unlockApart hap⟩
  | unlockApart hap =>
      cases hstep
      exact .unseen (by simp) (hx.modifyRegistry_apart (hr.modifyLock_apart hap.1 _))
        ⟨rfl, htodo, hknown, .next⟩

/-- The same of the background sweep. -/
inductive TickerStage.Echoed (A : Address) (ρ : Naming) (id : TaskId) (t t' : TickerStage)
    (x y : BusSite) (t₁ : TickerStage) (x₁ : BusSite) : Prop where
  | same (t₁' : TickerStage) (y₁ : BusSite) (hy : Ticker.step id t' y = some (t₁', y₁))
      (hx : x₁.Mirrors A ρ y₁) (ht : t₁.Mirrors A ρ x.registry.entries.length t₁')
  | unseen (hl : (Task.ticker t).atRest = false) (hx : x₁.Mirrors A ρ y)
      (ht : t₁.Mirrors A ρ x.registry.entries.length t')

theorem TickerStage.Mirrors.step {t t' t₁ : TickerStage}
    (h : t.Mirrors A ρ x.registry.entries.length t') (hx : x.Mirrors A ρ y) (ho : x.Owned)
    (hstep : Ticker.step id t x = some (t₁, x')) :
    TickerStage.Echoed A ρ id t t' x y t₁ x' := by
  obtain ⟨hdis, hdis'⟩ := hx.registry.disposed
  have hpolicy := hx.registry.policy
  cases h with
  | fresh =>
      cases hstep
      refine .same _ _ rfl hx ?_
      rw [hx.clock, hpolicy]
      exact .sleeping _
  | sleeping wake =>
      simp only [Ticker.step, hdis, Bool.false_eq_true, if_false] at hstep
      split at hstep
      next hdue =>
        cases hstep
        refine .same _ _ ?_ hx
          (.sweeping ⟨rfl, rfl, fun _ hp => absurd hp List.not_mem_nil, .list⟩
            (Ticker.rhythm wake x.clock))
        simp only [Ticker.step, hdis', hx.clock, hdue, Bool.false_eq_true, if_false, if_true]
      next => cases hstep
  | @sweeping s s' hs mark =>
      simp only [Ticker.step] at hstep
      cases hsweep : s.step id x with
      | some p =>
          obtain ⟨s₁, x₁⟩ := p
          rw [hsweep] at hstep
          cases hstep
          cases hs.step hx ho hsweep with
          | same s₁' y₁ hy hx' hs' =>
              refine .same _ _ ?_ hx' (.sweeping hs' mark)
              simp only [Ticker.step, hy]
          | unseen hl hx' hs' => exact .unseen rfl hx' (.sweeping hs' mark)
      | none =>
          rw [hsweep] at hstep
          cases hstep
          have hend := Sweep.step_eq_none hsweep
          have hend' : s'.stage = .ended := by
            have hstage := hs.stage
            rw [hend] at hstage
            generalize s'.stage = st at hstage
            cases hstage
            rfl
          have hnone : s'.step id y = none := by
            unfold Sweep.step
            rw [hend']
          refine .same (.sleeping (Ticker.next mark y.clock y.registry.policy.sweepInterval)) y
            ?_ hx ?_
          · simp only [Ticker.step, hnone]
          · rw [hx.clock, hpolicy]
            exact .sleeping _
  | ended => cases hstep

-- ======================================================= tasks dropped

namespace Call

variable {c c' : Call} {n : Nat}

/-- A call of the address dropped on both sides. -/
theorem Reflects.drop (h : c.Reflects A ρ c') (hx : x.Mirrors A ρ y) (id : TaskId) :
    (c.drop id x).2.Mirrors A ρ (c'.drop id y).2 ∧
      (c.drop id x).1.Reflects A ρ (c'.drop id y).1 := by
  have hr := hx.registry
  have hgone := h.at_ .dropped
  -- what a call gives up is its place in the queue, or the lock
  have hleft : ∀ {e i : EntryId}, ρ.place e = some i → ∀ f : Lock → Lock,
      (x.modifyRegistry (·.modifyLock e f)).Mirrors A ρ (y.modifyRegistry (·.modifyLock i f)) :=
    fun he f => hx.modifyRegistry (hr.modifyLock he f)
  obtain ⟨address, program, cancelled, entered, replies, stage⟩ := c
  obtain ⟨address', program', cancelled', entered', replies', stage'⟩ := c'
  have hstage : stage.Mirrors ρ stage' := h.stage
  cases hstage with
  | check => exact ⟨hx, hgone⟩
  | find => exact ⟨hx, hgone⟩
  | request he => exact ⟨hx, hgone⟩
  | queued he => exact ⟨hleft he (·.withdraw id), hgone⟩
  | recheck he => exact ⟨hleft he (·.release), hgone⟩
  | confirm he => exact ⟨hleft he (·.release), hgone⟩
  | fill he => exact ⟨hleft he (·.release), hgone⟩
  | enter he => exact ⟨hleft he (·.release), hgone⟩
  | acting he pending rest => exact ⟨hleft he (·.release), hgone⟩
  | vacate he f => exact ⟨hleft he (·.release), hgone⟩
  | abandon he f => exact ⟨hleft he (·.release), hgone⟩
  | leave he result => exact ⟨hleft he (·.release), hgone⟩
  | ended result => exact ⟨hx, h⟩
  | dropped => exact ⟨hx, h⟩

/-- A call of another address dropped on one side. -/
theorem drop_apart (hx : x.Mirrors A ρ y) (he : ∀ e, target? c.stage = some e → ρ.Apart n e)
    (id : TaskId) : (c.drop id x).2.Mirrors A ρ y ∧
      ∀ e, target? (c.drop id x).1.stage ≠ some e := by
  have hleft : ∀ e, target? c.stage = some e → ∀ f : Lock → Lock,
      (x.modifyRegistry (·.modifyLock e f)).Mirrors A ρ y :=
    fun e h f => hx.modifyRegistry_apart (hx.registry.modifyLock_apart (he e h).1 f)
  obtain ⟨address, program, cancelled, entered, replies, stage⟩ := c
  cases stage with
  | queued e => exact ⟨hleft e rfl (·.withdraw id), nofun⟩
  | recheck e => exact ⟨hleft e rfl (·.release), nofun⟩
  | confirm e => exact ⟨hleft e rfl (·.release), nofun⟩
  | fill e => exact ⟨hleft e rfl (·.release), nofun⟩
  | enter e => exact ⟨hleft e rfl (·.release), nofun⟩
  | acting e pending rest => exact ⟨hleft e rfl (·.release), nofun⟩
  | vacate e f => exact ⟨hleft e rfl (·.release), nofun⟩
  | abandon e f => exact ⟨hleft e rfl (·.release), nofun⟩
  | leave e result => exact ⟨hleft e rfl (·.release), nofun⟩
  | _ => exact ⟨hx, nofun⟩

end Call

-- ============================================================ any task

/-- The other side takes the same step, or it does not notice, which it
may do only of a step that a task does not take from rest. -/
inductive Task.Echoed (A : Address) (ρ : Naming) (id : TaskId) (t t' : Task) (x y : BusSite)
    (t₁ : Task) (x₁ : BusSite) : Prop where
  | same (ρ' : Naming) (t₁' : Task) (y₁ : BusSite)
      (hext : ρ.Extends ρ' x.registry.entries.length x.bus.bus.nextDescriptor)
      (hy : t'.step id y = some (t₁', y₁)) (hx : x₁.Mirrors A ρ' y₁)
      (ht : t₁.Mirrors A ρ' x.registry.entries.length t₁')
  | unseen (hl : t.atRest = false) (hx : x₁.Mirrors A ρ y)
      (ht : t₁.Mirrors A ρ x.registry.entries.length t')

/-- The address that a task works on, if it works on one. -/
def Task.address? : Task → Option Address
  | .call c => some c.address
  | _ => none

/-- A step of a task that does not work on another address. -/
theorem Task.Mirrors.step {t t' t₁ : Task} (h : t.Mirrors A ρ x.registry.entries.length t')
    (hx : x.Mirrors A ρ y) (ho : x.Owned) (ha : ∀ a, t.address? = some a → a = A)
    (hstep : t.step id x = some (t₁, x')) : Task.Echoed A ρ id t t' x y t₁ x' := by
  cases h with
  | @call c c' h =>
      obtain ⟨⟨c₁, x₁⟩, hc, heq⟩ := Option.map_eq_some_iff.mp hstep
      cases heq
      cases h with
      | apart hne => exact absurd (ha _ rfl) hne
      | ours h =>
          obtain ⟨ρ', c₁', y₁, hext, hy, hx', hc'⟩ := h.step hx ho hc
          exact .same ρ' (.call c₁') y₁ hext (Option.map_eq_some_iff.mpr ⟨_, hy, rfl⟩) hx'
            (.call (.ours hc'))
  | @sweep s s' h =>
      obtain ⟨⟨s₁, x₁⟩, hs, heq⟩ := Option.map_eq_some_iff.mp hstep
      cases heq
      cases h.step hx ho hs with
      | same s₁' y₁ hy hx' hs' =>
          exact .same ρ (.sweep s₁') y₁ (.refl ρ _ _) (Option.map_eq_some_iff.mpr ⟨_, hy, rfl⟩) hx'
            (.sweep hs')
      | unseen hl hx' hs' =>
          refine .unseen ?_ hx' (.sweep hs')
          obtain ⟨began, todo, evicted, stage⟩ := s
          cases stage with
          | list => exact absurd rfl hl
          | ended => cases hs
          | _ => rfl
  | @ticker k k' h =>
      obtain ⟨⟨k₁, x₁⟩, hk, heq⟩ := Option.map_eq_some_iff.mp hstep
      cases heq
      cases h.step hx ho hk with
      | same k₁' y₁ hy hx' hk' =>
          exact .same ρ (.ticker k₁') y₁ (.refl ρ _ _) (Option.map_eq_some_iff.mpr ⟨_, hy, rfl⟩) hx'
            (.ticker hk')
      | unseen hl hx' hk' => exact .unseen hl hx' (.ticker hk')

/-- A step of a task that works on another address. -/
theorem Task.Mirrors.step_apart {t t' t₁ : Task} (h : t.Mirrors A ρ x.registry.entries.length t')
    (hx : x.Mirrors A ρ y) (ho : x.Owned) {a : Address} (ha : t.address? = some a) (hne : a ≠ A)
    (hlen : x.registry.entries.length ≤ x'.registry.entries.length)
    (hstep : t.step id x = some (t₁, x')) :
    x'.Mirrors A ρ y ∧ t₁.Mirrors A ρ x'.registry.entries.length t' := by
  cases h with
  | @call c c' h =>
      obtain ⟨⟨c₁, x₁⟩, hc, heq⟩ := Option.map_eq_some_iff.mp hstep
      cases heq
      cases ha
      cases h with
      | ours h => exact absurd h.address hne
      | apart _ ha' he =>
          obtain ⟨hx', htarget⟩ := Call.step_apart hx ho hne he hlen hc
          have hkept : c₁.address = c.address := by
            cases Call.step_follows hc with
            | call ha _ _ => exact ha
          exact ⟨hx', .call (.apart (hkept ▸ hne) (ha'.trans hkept.symm) htarget)⟩
  | sweep h => cases ha
  | ticker h => cases ha

/-- A task dropped that does not work on another address. -/
theorem Task.Mirrors.drop {t t' : Task} {n : Nat} (h : t.Mirrors A ρ n t') (hx : x.Mirrors A ρ y)
    (ha : ∀ a, t.address? = some a → a = A) (id : TaskId) :
    (t.drop id x).2.Mirrors A ρ (t'.drop id y).2 ∧
      (t.drop id x).1.Mirrors A ρ n (t'.drop id y).1 := by
  cases h with
  | call h =>
      cases h with
      | apart hne => exact absurd (ha _ rfl) hne
      | ours h =>
          obtain ⟨hx', hc⟩ := h.drop hx id
          exact ⟨hx', .call (.ours hc)⟩
  | sweep h => exact ⟨hx, .sweep h⟩
  | ticker h =>
      cases h with
      | sweeping h mark => exact ⟨hx, .ticker (.sweeping h mark)⟩
      | _ => exact ⟨hx, .ticker .ended⟩

/-- A task dropped that works on another address. -/
theorem Task.Mirrors.drop_apart {t t' : Task} {n : Nat} (h : t.Mirrors A ρ n t')
    (hx : x.Mirrors A ρ y) {a : Address} (ha : t.address? = some a) (hne : a ≠ A) (id : TaskId) :
    (t.drop id x).2.Mirrors A ρ y ∧ (t.drop id x).1.Mirrors A ρ n t' := by
  cases h with
  | @call c c' h =>
      cases ha
      cases h with
      | ours h => exact absurd h.address hne
      | apart _ ha' he =>
          obtain ⟨hx', htarget⟩ := Call.drop_apart hx he id
          have hkept : (c.drop id x).1.address = c.address := by
            have hfollows : (Task.call c).Follows ((Task.call c).drop id x).1 :=
              Task.drop_follows rfl
            cases hfollows with
            | call ha _ _ => exact ha
          exact ⟨hx', .call (.apart (fun h => hne (hkept.symm.trans h)) (ha'.trans hkept.symm)
            fun e h => absurd h (htarget e))⟩
  | sweep h => cases ha
  | ticker h => cases ha

/-- The token of a task cancelled. -/
theorem Task.Mirrors.cancel {t t' : Task} {n : Nat} (h : t.Mirrors A ρ n t') :
    t.cancel.Mirrors A ρ n t'.cancel := by
  cases h with
  | call h =>
      cases h with
      | ours h => exact .call (.ours { h with cancelled := rfl })
      | apart hne ha he => exact .call (.apart hne ha he)
  | sweep h => exact .sweep h
  | ticker h => exact .ticker h

/-- The token of a task cancelled that works on another address. -/
theorem Task.Mirrors.cancel_apart {t t' : Task} {n : Nat} (h : t.Mirrors A ρ n t') {a : Address}
    (ha : t.address? = some a) (hne : a ≠ A) : t.cancel.Mirrors A ρ n t' := by
  cases h with
  | call h =>
      cases ha
      cases h with
      | ours h => exact absurd h.address hne
      | apart hne ha he => exact .call (.apart hne ha he)
  | sweep h => cases ha
  | ticker h => cases ha

end InstrumentBus
