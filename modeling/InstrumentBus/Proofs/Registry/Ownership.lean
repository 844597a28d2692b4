/-
Who answers for an open descriptor.

`Site.Owned` is the ledger between the slots of the registry and the
descriptors on the bus: the session in a slot has a descriptor of its
own, which is online as long as the session is open; a descriptor that is
online is that of a session in some slot; and a descriptor was taken
offline once if it is offline, and never if it is online. It speaks of
the descriptors opened since the record began, and of no others.

`Site.Turnover` lists what one step of a task may do to slots and bus.
The ledger is kept by each of them (`Owned.turnover`), so nothing else
needs to be known of the step.
-/
import InstrumentBus.Proofs.Registry.View
import InstrumentBus.Proofs.Session.Conduct

namespace InstrumentBus

/-- A site on a recorded bus in memory. -/
abbrev BusSite := Site (Recorded Simulated)

namespace Site

-- ========================================================= the ledger

/-- Slots and descriptors answer to each other. -/
structure Owned (x : BusSite) : Prop where
  -- the next descriptor is no refusal
  nonneg : 0 ≤ x.bus.bus.nextDescriptor
  -- a descriptor is handed out once
  below : ∀ d ∈ x.bus.opened, d < x.bus.bus.nextDescriptor
  -- calls are made on descriptors that were opened
  known : ∀ r ∈ x.bus.trace, ∀ d, r.call.descriptor? = some d → d ∈ x.bus.opened
  -- a descriptor was taken offline once, or else is online
  linked : ∀ d ∈ x.bus.opened, ∃ a online, x.bus.bus.link? d = some ⟨a, online⟩ ∧
    x.bus.offlineCalls d = if online then 0 else 1
  -- the session in a slot has a descriptor, online while it is open
  slot : ∀ e s, x.registry.slot? e = some s →
    s.descriptor ∈ x.bus.opened ∧ x.bus.bus.link? s.descriptor = some ⟨s.address, !s.closed⟩
  -- no two slots share a descriptor
  unique : ∀ e e' s s', x.registry.slot? e = some s → x.registry.slot? e' = some s' →
    s.descriptor = s'.descriptor → e = e'
  -- a descriptor that is online is that of a session in a slot
  online : ∀ d ∈ x.bus.opened, ∀ a, x.bus.bus.link? d = some ⟨a, true⟩ →
    ∃ e s, x.registry.slot? e = some s ∧ s.descriptor = d

/-- What a step may do to slots and bus when the task that takes it holds
the lock of `held`. -/
inductive Turnover (held : Option EntryId) (x x' : BusSite) : Prop where
  -- nothing that concerns a session
  | idle (hl : x.bus.bus.SameLinks x'.bus.bus) (ht : x'.bus.trace = x.bus.trace)
      (hs : ∀ e, x'.registry.slot? e = x.registry.slot? e)
  -- the session in the slot is at work, or is closed and taken out
  | acted (e : EntryId) (s s' : Session) (kept : Option Session) (hh : held = some e)
      (hk : kept = some s' ∨ kept = none ∧ s'.closed = true)
      (h : x.registry.slot? e = some s) (h' : x'.registry.slot? e = kept)
      (hs : ∀ e', e' ≠ e → x'.registry.slot? e' = x.registry.slot? e')
      (hc : Conducts (s, x.bus) (s', x'.bus))
  -- a session is asked for, where there is none that is open
  | asked (e : EntryId) (a : Address) (o : SessionOptions) (r : Except Failure Session)
      (hh : held = some e) (ha : x.registry.current? a = some e)
      (h : ∀ s, x.registry.slot? e = some s → s.closed = true)
      (h' : x'.registry.slot? e = r.toOption)
      (hs : ∀ e', e' ≠ e → x'.registry.slot? e' = x.registry.slot? e')
      (hc : (Session.connect a o).run x.bus = (r, x'.bus))

variable {x x' : BusSite} {held : Option EntryId} {e : EntryId}

/-- Only the slot of the entry that is held may change. -/
theorem Turnover.slot_ne (h : Turnover held x x') (hne : held ≠ some e) :
    x'.registry.slot? e = x.registry.slot? e := by
  cases h with
  | idle hl ht hs => exact hs e
  | acted e' s s' kept hh hk h h' hs hc => exact hs e fun he => hne (he ▸ hh)
  | asked e' a o r hh ha h h' hs hc => exact hs e fun he => hne (he ▸ hh)

-- ======================================================= what opening does

/-- The record of an open, and the answer to it. -/
theorem run_connect_recorded (a : Address) (o : SessionOptions) (b : Recorded Simulated) :
    ∃ bus d, b.bus.openDevice (Session.request a o) = (bus, d) ∧
      (Session.connect a o).run b =
        if d < 0 then
          (.error (.openRefused a o.board d),
            b.note bus (.openDevice (Session.request a o)) (some d))
        else
          (.ok ⟨d, a, o.board, o.timeout, o.terminator, false⟩,
            b.note bus (.openDevice (Session.request a o)) (some d)) := by
  refine ⟨_, _, rfl, ?_⟩
  rw [Session.run_connect]
  rfl

/-- An open that is refused leaves the links. -/
theorem openDevice_refused {b bus : Simulated} {r : OpenRequest} {d : Int}
    (hn : 0 ≤ b.nextDescriptor) (h : b.openDevice r = (bus, d)) (hd : d < 0) : b.SameLinks bus := by
  unfold Simulated.openDevice at h
  split at h
  · cases h
    exact ⟨rfl, rfl⟩
  · split at h
    · cases h
      exact ⟨rfl, rfl⟩
    · cases h
      omega

/-- An open that is granted takes the next descriptor. -/
theorem openDevice_granted {b bus : Simulated} {r : OpenRequest} {d : Int}
    (h : b.openDevice r = (bus, d)) (hd : ¬ d < 0) :
    d = b.nextDescriptor ∧ bus.nextDescriptor = d + 1 ∧
      (∀ d', bus.link? d' =
        if d = d' then some ⟨⟨r.primary, r.secondary⟩, true⟩ else b.link? d') := by
  unfold Simulated.openDevice at h
  split at h
  · cases h
    omega
  · split at h
    · cases h
      omega
    · cases h
      exact ⟨rfl, rfl, fun d' => Keyed.get?_set b.links _ _ d'⟩

-- ================================================== the ledger is kept

theorem opened_append {b b' : Recorded Simulated} {new : List RawRecord} {d : Int}
    (ht : b'.trace = new ++ b.trace)
    (hn : ∀ r ∈ new, r.call.descriptor? = some d ∧ r.answer = none) : b'.opened = b.opened := by
  unfold Recorded.opened
  rw [ht, List.filterMap_append]
  have hnil : new.filterMap (·.opened?) = [] := by
    refine List.filterMap_eq_nil_iff.mpr fun r hr => ?_
    unfold RawRecord.opened?
    rw [(hn r hr).2]
    rfl
  rw [hnil, List.nil_append]

theorem offlineCalls_append {b b' : Recorded Simulated} {new : List RawRecord}
    (ht : b'.trace = new ++ b.trace) (d : Int) :
    b'.offlineCalls d = new.countP (·.isOfflineOf d) + b.offlineCalls d := by
  unfold Recorded.offlineCalls
  rw [ht, List.countP_append]

/-- Calls on one descriptor take no other offline. -/
theorem countP_offline_ne {new : List RawRecord} {d d' : Int} (hne : d' ≠ d)
    (hn : ∀ r ∈ new, r.call.descriptor? = some d ∧ r.answer = none) :
    new.countP (·.isOfflineOf d') = 0 := by
  refine List.countP_eq_zero.mpr fun r hr ho => ?_
  have hd := (hn r hr).1
  unfold RawRecord.isOfflineOf at ho
  rw [beq_iff_eq] at ho
  rw [ho] at hd
  exact hne (Option.some.inj hd)

theorem Owned.idle (ho : x.Owned) (hl : x.bus.bus.SameLinks x'.bus.bus)
    (ht : x'.bus.trace = x.bus.trace) (hs : ∀ e, x'.registry.slot? e = x.registry.slot? e) :
    x'.Owned := by
  have hopened : x'.bus.opened = x.bus.opened := congrArg (List.filterMap _) ht
  have hcount : ∀ d, x'.bus.offlineCalls d = x.bus.offlineCalls d := fun d =>
    congrArg (List.countP _) ht
  have hlink : ∀ d, x'.bus.bus.link? d = x.bus.bus.link? d := fun d =>
    congrArg (Keyed.get? · d) hl.1
  constructor
  case nonneg =>
    rw [hl.2]
    exact ho.nonneg
  case below =>
    rw [hl.2, hopened]
    exact ho.below
  case known =>
    rw [ht, hopened]
    exact ho.known
  case linked =>
    intro d hd
    rw [hopened] at hd
    rw [hlink, hcount]
    exact ho.linked d hd
  case slot =>
    intro e s h
    rw [hopened, hlink]
    exact ho.slot e s (hs e ▸ h)
  case unique =>
    intro e e' s s' h h'
    exact ho.unique e e' s s' (hs e ▸ h) (hs e' ▸ h')
  case online =>
    intro d hd a hon
    rw [hopened] at hd
    rw [hlink] at hon
    obtain ⟨e, s, h, hsd⟩ := ho.online d hd a hon
    exact ⟨e, s, (hs e).trans h, hsd⟩

theorem Owned.acted (ho : x.Owned) {s s' : Session} {kept : Option Session}
    (hk : kept = some s' ∨ kept = none ∧ s'.closed = true) (h : x.registry.slot? e = some s)
    (h' : x'.registry.slot? e = kept)
    (hs : ∀ e', e' ≠ e → x'.registry.slot? e' = x.registry.slot? e')
    (hc : Conducts (s, x.bus) (s', x'.bus)) : x'.Owned := by
  obtain ⟨new, htrace, hnew, hcount⟩ := hc.made
  have hopened : x'.bus.opened = x.bus.opened := opened_append htrace hnew
  obtain ⟨hmem, hlink⟩ := ho.slot e s h
  have hdesc : s'.descriptor = s.descriptor := hc.descriptor
  have hlink' : x'.bus.bus.link? s.descriptor = some ⟨s.address, !s'.closed⟩ := hc.own _ hlink
  -- another slot has another descriptor, which was left alone
  have hother : ∀ e' t, e' ≠ e → x'.registry.slot? e' = some t →
      x.registry.slot? e' = some t ∧ t.descriptor ≠ s.descriptor := by
    intro e' t hne ht
    rw [hs e' hne] at ht
    exact ⟨ht, fun hd => hne (ho.unique e' e t s ht h hd)⟩
  have hself : ∀ t, x'.registry.slot? e = some t → t = s' := by
    intro t ht
    rw [h'] at ht
    rcases hk with hk | ⟨hk, -⟩
    · rw [hk] at ht
      exact (Option.some.inj ht).symm
    · rw [hk] at ht
      cases ht
  constructor
  case nonneg =>
    rw [show x'.bus.bus.nextDescriptor = x.bus.bus.nextDescriptor from hc.next]
    exact ho.nonneg
  case below =>
    rw [show x'.bus.bus.nextDescriptor = x.bus.bus.nextDescriptor from hc.next, hopened]
    exact ho.below
  case known =>
    intro r hr d hd
    rw [hopened]
    rw [htrace] at hr
    rcases List.mem_append.mp hr with hr | hr
    · have := (hnew r hr).1
      rw [hd] at this
      cases this
      exact hmem
    · exact ho.known r hr d hd
  case linked =>
    intro d hd
    rw [hopened] at hd
    obtain ⟨a, online, hl, hn⟩ := ho.linked d hd
    rw [offlineCalls_append htrace]
    by_cases heq : d = s.descriptor
    · subst heq
      refine ⟨s.address, !s'.closed, hlink', ?_⟩
      rw [hlink] at hl
      cases hl
      have hcount' : s.closed.toNat + new.countP (·.isOfflineOf s.descriptor) = s'.closed.toNat :=
        hcount
      cases hsc : s.closed <;> cases hsc' : s'.closed <;> simp_all
    · refine ⟨a, online, (hc.others d heq).trans hl, ?_⟩
      rw [countP_offline_ne heq hnew, Nat.zero_add]
      exact hn
  case slot =>
    intro e' t ht
    rw [hopened]
    by_cases heq : e' = e
    · subst heq
      cases hself t ht
      rw [hdesc, show s'.address = s.address from hc.address]
      exact ⟨hmem, hlink'⟩
    · obtain ⟨ht, hne⟩ := hother e' t heq ht
      obtain ⟨hm, hl⟩ := ho.slot e' t ht
      exact ⟨hm, (hc.others _ hne).trans hl⟩
  case unique =>
    intro e₁ e₂ t₁ t₂ h₁ h₂ heq
    by_cases he₁ : e₁ = e
    · by_cases he₂ : e₂ = e
      · rw [he₁, he₂]
      · subst he₁
        cases hself t₁ h₁
        exact absurd (heq.symm.trans hdesc) (hother e₂ t₂ he₂ h₂).2
    · by_cases he₂ : e₂ = e
      · subst he₂
        cases hself t₂ h₂
        exact absurd (heq.trans hdesc) (hother e₁ t₁ he₁ h₁).2
      · exact ho.unique e₁ e₂ t₁ t₂ (hother e₁ t₁ he₁ h₁).1 (hother e₂ t₂ he₂ h₂).1 heq
  case online =>
    intro d hd a hl
    rw [hopened] at hd
    by_cases heq : d = s.descriptor
    · subst heq
      rw [hlink'] at hl
      rcases hk with hk | ⟨-, hk⟩
      · exact ⟨e, s', h'.trans hk, hdesc⟩
      · rw [hk] at hl
        cases hl
    · rw [show x'.bus.bus.link? d = x.bus.bus.link? d from hc.others d heq] at hl
      obtain ⟨e', t, ht, htd⟩ := ho.online d hd a hl
      have hne : e' ≠ e := by
        intro he
        subst he
        rw [h] at ht
        cases ht
        exact heq htd.symm
      exact ⟨e', t, (hs e' hne).trans ht, htd⟩

/-- An open puts one record in front, which takes nothing offline. -/
theorem offlineCalls_open {b : Recorded Simulated} {bus : Simulated} {r : OpenRequest}
    {answer : Option Int} (d : Int) :
    (b.note bus (.openDevice r) answer).offlineCalls d = b.offlineCalls d := by
  show List.countP _ (_ :: b.trace) = _
  rw [List.countP_cons_of_neg]
  · rfl
  · exact Bool.noConfusion

theorem known_open {b : Recorded Simulated} {bus : Simulated} {r : OpenRequest}
    {answer : Option Int} {l : List Int}
    (hk : ∀ r ∈ b.trace, ∀ d, r.call.descriptor? = some d → d ∈ l) :
    ∀ q ∈ (b.note bus (.openDevice r) answer).trace, ∀ d, q.call.descriptor? = some d → d ∈ l := by
  intro q hq d hd
  rcases List.mem_cons.mp hq with hq | hq
  · rw [hq] at hd
    cases hd
  · exact hk q hq d hd

/-- An open that is refused opens nothing. -/
theorem opened_refused {b : Recorded Simulated} {bus : Simulated} {r : OpenRequest} {d : Int}
    (hd : d < 0) : (b.note bus (.openDevice r) (some d)).opened = b.opened := by
  show List.filterMap _ (_ :: b.trace) = _
  rw [List.filterMap_cons_none]
  · rfl
  · show (some d).filter _ = none
    rw [Option.filter_some, if_neg]
    exact fun hc => absurd (of_decide_eq_true hc) (Int.not_le.mpr hd)

/-- A slot that holds no open session answers for no descriptor that is
online. -/
theorem Owned.online_ne (ho : x.Owned) (h : ∀ s, x.registry.slot? e = some s → s.closed = true)
    {d : Int} {a : Address} (hd : d ∈ x.bus.opened) (hl : x.bus.bus.link? d = some ⟨a, true⟩) :
    ∃ e' s, e' ≠ e ∧ x.registry.slot? e' = some s ∧ s.descriptor = d := by
  obtain ⟨e', s, hs, hsd⟩ := ho.online d hd a hl
  refine ⟨e', s, fun he => ?_, hs, hsd⟩
  subst he
  have hlink := (ho.slot e' s hs).2
  rw [hsd, hl, h s hs] at hlink
  cases hlink

theorem Owned.refused (ho : x.Owned) {bus : Simulated} {r : OpenRequest} {d : Int}
    (h : ∀ s, x.registry.slot? e = some s → s.closed = true)
    (h' : x'.registry.slot? e = none)
    (hs : ∀ e', e' ≠ e → x'.registry.slot? e' = x.registry.slot? e')
    (hopen : x.bus.bus.openDevice r = (bus, d)) (hd : d < 0)
    (hb : x'.bus = x.bus.note bus (.openDevice r) (some d)) : x'.Owned := by
  obtain ⟨hlinks, hnext⟩ := openDevice_refused ho.nonneg hopen hd
  have hlink : ∀ d', x'.bus.bus.link? d' = x.bus.bus.link? d' := by
    intro d'
    rw [hb]
    unfold Simulated.link?
    exact congrArg (Keyed.get? · d') hlinks
  have hopened : x'.bus.opened = x.bus.opened := by
    rw [hb]
    exact opened_refused hd
  have hold : ∀ e' s, x'.registry.slot? e' = some s → e' ≠ e ∧ x.registry.slot? e' = some s := by
      intro e' s hs'
      have hne : e' ≠ e := by
        intro he
        rw [he, h'] at hs'
        cases hs'
      exact ⟨hne, (hs e' hne).symm.trans hs'⟩
  constructor
  case nonneg =>
    rw [hb]
    exact hnext ▸ ho.nonneg
  case below =>
    rw [hopened, hb]
    exact fun d' hd' => hnext ▸ ho.below d' hd'
  case known =>
    rw [hopened, hb]
    exact known_open ho.known
  case linked =>
    intro d' hd'
    rw [hopened] at hd'
    rw [hlink, hb, offlineCalls_open]
    exact ho.linked d' hd'
  case slot =>
    intro e' s hs'
    rw [hopened, hlink]
    exact ho.slot e' s (hold e' s hs').2
  case unique =>
    intro e₁ e₂ s₁ s₂ h₁ h₂ heq
    exact ho.unique e₁ e₂ s₁ s₂ (hold e₁ s₁ h₁).2 (hold e₂ s₂ h₂).2 heq
  case online =>
    intro d' hd' a hl
    rw [hopened] at hd'
    rw [hlink] at hl
    obtain ⟨e', s, hne, hs', hsd⟩ := ho.online_ne h hd' hl
    exact ⟨e', s, (hs e' hne).trans hs', hsd⟩

theorem Owned.granted (ho : x.Owned) {bus : Simulated} {a : Address} {o : SessionOptions} {d : Int}
    (h : ∀ s, x.registry.slot? e = some s → s.closed = true)
    (h' : x'.registry.slot? e = some ⟨d, a, o.board, o.timeout, o.terminator, false⟩)
    (hs : ∀ e', e' ≠ e → x'.registry.slot? e' = x.registry.slot? e')
    (hopen : x.bus.bus.openDevice (Session.request a o) = (bus, d)) (hd : ¬ d < 0)
    (hb : x'.bus = x.bus.note bus (.openDevice (Session.request a o)) (some d)) : x'.Owned := by
  obtain ⟨hnext, hnext', hlinks⟩ := openDevice_granted hopen hd
  have hopened : x'.bus.opened = d :: x.bus.opened := by
    rw [hb]
    show List.filterMap _ (_ :: x.bus.trace) = _
    rw [List.filterMap_cons_some (b := d)]
    · rfl
    · show (some d).filter _ = some d
      rw [Option.filter_some, if_pos]
      exact decide_eq_true (Int.not_lt.mp hd)
  have hlink : ∀ d', x'.bus.bus.link? d' =
      if d = d' then some ⟨a, true⟩ else x.bus.bus.link? d' := by
    intro d'
    rw [hb]
    exact hlinks d'
  have hnew : ∀ d' ∈ x.bus.opened, d ≠ d' := fun d' hd' he =>
    absurd (ho.below d' hd') (by omega)
  have hold : ∀ e' s, e' ≠ e → x'.registry.slot? e' = some s →
      x.registry.slot? e' = some s ∧ s.descriptor ∈ x.bus.opened := by
    intro e' s hne hs'
    rw [hs e' hne] at hs'
    exact ⟨hs', (ho.slot e' s hs').1⟩
  have hself : ∀ s, x'.registry.slot? e = some s → s.descriptor = d := by
    intro s hs'
    rw [h'] at hs'
    cases hs'
    rfl
  constructor
  case nonneg =>
    rw [hb]
    show 0 ≤ bus.nextDescriptor
    omega
  case below =>
    rw [hopened, hb]
    intro d' hd'
    show d' < bus.nextDescriptor
    rcases List.mem_cons.mp hd' with hd' | hd'
    · omega
    · have := ho.below d' hd'
      omega
  case known =>
    rw [hopened, hb]
    exact known_open fun r hr d' hd' => List.mem_cons_of_mem d (ho.known r hr d' hd')
  case linked =>
    intro d' hd'
    rw [hlink, hb, offlineCalls_open]
    rw [hopened] at hd'
    rcases List.mem_cons.mp hd' with hd' | hd'
    · rw [if_pos hd'.symm]
      refine ⟨a, true, rfl, ?_⟩
      -- nothing was called on a descriptor before it was opened
      refine List.countP_eq_zero.mpr fun r hr hoff => ?_
      unfold RawRecord.isOfflineOf at hoff
      rw [beq_iff_eq] at hoff
      exact hnew d' (ho.known r hr d' (by rw [hoff]; rfl)) hd'.symm
    · rw [if_neg (hnew d' hd')]
      exact ho.linked d' hd'
  case slot =>
    intro e' s hs'
    rw [hopened, hlink]
    by_cases heq : e' = e
    · subst heq
      rw [h'] at hs'
      cases hs'
      exact ⟨List.mem_cons_self, if_pos rfl⟩
    · obtain ⟨hs', hm⟩ := hold e' s heq hs'
      rw [if_neg (hnew _ hm)]
      exact ⟨List.mem_cons_of_mem d hm, (ho.slot e' s hs').2⟩
  case unique =>
    intro e₁ e₂ s₁ s₂ h₁ h₂ heq
    by_cases he₁ : e₁ = e
    · by_cases he₂ : e₂ = e
      · rw [he₁, he₂]
      · rw [he₁] at h₁
        obtain ⟨-, hm⟩ := hold e₂ s₂ he₂ h₂
        exact absurd ((hself s₁ h₁).symm.trans heq) (hnew _ hm)
    · by_cases he₂ : e₂ = e
      · rw [he₂] at h₂
        obtain ⟨-, hm⟩ := hold e₁ s₁ he₁ h₁
        exact absurd ((hself s₂ h₂).symm.trans heq.symm) (hnew _ hm)
      · exact ho.unique e₁ e₂ s₁ s₂ (hold e₁ s₁ he₁ h₁).1 (hold e₂ s₂ he₂ h₂).1 heq
  case online =>
    intro d' hd' a' hl
    rw [hopened] at hd'
    rw [hlink] at hl
    rcases List.mem_cons.mp hd' with hd' | hd'
    · exact ⟨e, _, h', hd'.symm⟩
    · rw [if_neg (hnew d' hd')] at hl
      obtain ⟨e', s, hne, hs', hsd⟩ := ho.online_ne h hd' hl
      exact ⟨e', s, (hs e' hne).trans hs', hsd⟩

/-- The ledger is kept by whatever a step does to slots and bus. -/
theorem Owned.turnover (ho : x.Owned) (h : Turnover held x x') : x'.Owned := by
  cases h with
  | idle hl ht hs => exact ho.idle hl ht hs
  | acted e s s' kept hh hk h h' hs hc => exact ho.acted hk h h' hs hc
  | asked e a o r hh ha h h' hs hc =>
      obtain ⟨bus, d, hopen, hrun⟩ := run_connect_recorded a o x.bus
      rw [hrun] at hc
      by_cases hd : d < 0
      · rw [if_pos hd] at hc
        obtain ⟨hr, hb⟩ := Prod.mk.inj hc
        rw [← hr] at h'
        exact ho.refused h h' hs hopen hd hb.symm
      · rw [if_neg hd] at hc
        obtain ⟨hr, hb⟩ := Prod.mk.inj hc
        rw [← hr] at h'
        exact ho.granted h h' hs hopen hd hb.symm

end Site

end InstrumentBus
