/-
A site and its tasks, and what is left of them when one address is looked
at.

On top of buses and registries (`Recorded.Mirrors`, `Registry.Mirrors`)
come the tasks. A call of the address is found on the other side at the
same stage, with the same answers so far. A call of another address is
there too, but it has never taken a step. A sweep is at the same stage
while it is busy with an entry of the address; busy with another entry, it
is found between two entries there, because the other side has no such
entry to be busy with. Which entries have left the cache is therefore
counted differently, and that is the one thing two sweeps disagree on.
-/
import InstrumentBus.Proofs.Isolation.Mirror

namespace InstrumentBus

variable {A : Address} {ρ ρ' : Naming} {n n' : Nat} {m : Int}

-- ============================================================= calls

/-- One descriptor is the name of the other. -/
abbrev Naming.Names (ρ : Naming) (d d' : Int) : Prop := ρ.name d = some d'

/-- The same stage, with the entry under its other number. -/
inductive CallStage.Mirrors (ρ : Naming) : CallStage → CallStage → Prop where
  | check : Mirrors ρ .check .check
  | find : Mirrors ρ .find .find
  | request {e i : EntryId} (h : ρ.place e = some i) : Mirrors ρ (.request e) (.request i)
  | queued {e i : EntryId} (h : ρ.place e = some i) : Mirrors ρ (.queued e) (.queued i)
  | recheck {e i : EntryId} (h : ρ.place e = some i) : Mirrors ρ (.recheck e) (.recheck i)
  | confirm {e i : EntryId} (h : ρ.place e = some i) : Mirrors ρ (.confirm e) (.confirm i)
  | fill {e i : EntryId} (h : ρ.place e = some i) : Mirrors ρ (.fill e) (.fill i)
  | enter {e i : EntryId} (h : ρ.place e = some i) : Mirrors ρ (.enter e) (.enter i)
  | acting {e i : EntryId} (h : ρ.place e = some i) (pending : Pending) (rest : Program) :
      Mirrors ρ (.acting e pending rest) (.acting i pending rest)
  | vacate {e i : EntryId} (h : ρ.place e = some i) (f : Failure) :
      Mirrors ρ (.vacate e f) (.vacate i f)
  | abandon {e i : EntryId} (h : ρ.place e = some i) (f : Failure) :
      Mirrors ρ (.abandon e f) (.abandon i f)
  | leave {e i : EntryId} (h : ρ.place e = some i) (result : Except Failure Unit) :
      Mirrors ρ (.leave e result) (.leave i result)
  | ended (result : Except Failure Unit) : Mirrors ρ (.ended result) (.ended result)
  | dropped : Mirrors ρ .dropped .dropped

/-- When and on which descriptor a program was started, but for the name
of the descriptor. -/
inductive Naming.Entered (ρ : Naming) : Option (Instant × Int) → Option (Instant × Int) → Prop where
  | not : Entered ρ none none
  | at_ (t : Instant) {d d' : Int} (h : ρ.Names d d') : Entered ρ (some (t, d)) (some (t, d'))

namespace Call

/-- The entry that a call is at. -/
def target? : CallStage → Option EntryId
  | .request e | .queued e => some e
  | stage => lockHeld stage

/-- A call of the address, as it is found on the other side. -/
structure Reflects (A : Address) (ρ : Naming) (c c' : Call) : Prop where
  address : c.address = A
  address' : c'.address = A
  program : c'.program = c.program
  cancelled : c'.cancelled = c.cancelled
  entered : ρ.Entered c.entered c'.entered
  replies : List.Forall₂ (Reply.Alike ρ.Names) c.replies c'.replies
  stage : c.stage.Mirrors ρ c'.stage

/-- A call, as it is found on the other side. -/
inductive Mirrors (A : Address) (ρ : Naming) (n : Nat) (c c' : Call) : Prop where
  | ours (h : c.Reflects A ρ c')
  | apart (ha : c.address ≠ A) (ha' : c'.address = c.address)
      (he : ∀ e, target? c.stage = some e → ρ.Apart n e)

end Call

theorem CallStage.Mirrors.extends {st st' : CallStage} (h : st.Mirrors ρ st')
    (hext : ρ.Extends ρ' n m) : st.Mirrors ρ' st' := by
  have hk := hext.kept
  cases h with
  | check => exact .check
  | find => exact .find
  | request h => exact .request (hk _ _ h)
  | queued h => exact .queued (hk _ _ h)
  | recheck h => exact .recheck (hk _ _ h)
  | confirm h => exact .confirm (hk _ _ h)
  | fill h => exact .fill (hk _ _ h)
  | enter h => exact .enter (hk _ _ h)
  | acting h pending rest => exact .acting (hk _ _ h) pending rest
  | vacate h f => exact .vacate (hk _ _ h) f
  | abandon h f => exact .abandon (hk _ _ h) f
  | leave h result => exact .leave (hk _ _ h) result
  | ended result => exact .ended result
  | dropped => exact .dropped

theorem Naming.Entered.extends {p p' : Option (Instant × Int)} (h : ρ.Entered p p')
    (hext : ρ.Extends ρ' n m) : ρ'.Entered p p' := by
  cases h with
  | not => exact .not
  | at_ t h => exact .at_ t (hext.still _ _ h)

theorem Call.Reflects.extends {c c' : Call} (h : c.Reflects A ρ c') (hext : ρ.Extends ρ' n m) :
    c.Reflects A ρ' c' :=
  { h with
    entered := h.entered.extends hext
    replies := h.replies.imp fun _ _ hr => hr.mono hext.still
    stage := h.stage.extends hext }

theorem Call.Mirrors.extends {c c' : Call} (h : c.Mirrors A ρ n c') (hext : ρ.Extends ρ' n m)
    (hn : n ≤ n') : c.Mirrors A ρ' n' c' := by
  cases h with
  | ours h => exact .ours (h.extends hext)
  | apart ha ha' he => exact .apart ha ha' fun e h => (he e h).extends hext hn

-- ============================================================ sweeps

/-- The stage of a sweep, as it is found on the other side. -/
inductive SweepStage.Mirrors (A : Address) (ρ : Naming) (n : Nat) :
    SweepStage → SweepStage → Prop where
  | list : Mirrors A ρ n .list .list
  | next : Mirrors A ρ n .next .next
  | ended : Mirrors A ρ n .ended .ended
  | judge {e i : EntryId} (h : ρ.place e = some i) : Mirrors A ρ n (.judge A e) (.judge A i)
  | unlink {e i : EntryId} (h : ρ.place e = some i) : Mirrors A ρ n (.unlink A e) (.unlink A i)
  | close {e i : EntryId} (h : ρ.place e = some i) : Mirrors A ρ n (.close e) (.close i)
  | unlock {e i : EntryId} (h : ρ.place e = some i) : Mirrors A ρ n (.unlock e) (.unlock i)
  | judgeApart {a : Address} {e : EntryId} (ha : a ≠ A) (h : ρ.Apart n e) :
      Mirrors A ρ n (.judge a e) .next
  | unlinkApart {a : Address} {e : EntryId} (ha : a ≠ A) (h : ρ.Apart n e) :
      Mirrors A ρ n (.unlink a e) .next
  | closeApart {e : EntryId} (h : ρ.Apart n e) : Mirrors A ρ n (.close e) .next
  | unlockApart {e : EntryId} (h : ρ.Apart n e) : Mirrors A ρ n (.unlock e) .next

/-- A sweep, as it is found on the other side. How many entries have left
the cache is not compared. -/
structure Sweep.Mirrors (A : Address) (ρ : Naming) (n : Nat) (s s' : Sweep) : Prop where
  began : s'.began = s.began
  todo : s'.todo = s.todo.filterMap ρ.pair?
  known : ∀ p ∈ s.todo, ρ.Knows A n p
  stage : s.stage.Mirrors A ρ n s'.stage

/-- The background sweep, as it is found on the other side. -/
inductive TickerStage.Mirrors (A : Address) (ρ : Naming) (n : Nat) :
    TickerStage → TickerStage → Prop where
  | fresh : Mirrors A ρ n .fresh .fresh
  | sleeping (wake : Instant) : Mirrors A ρ n (.sleeping wake) (.sleeping wake)
  | sweeping {s s' : Sweep} (h : s.Mirrors A ρ n s') (mark : Instant) :
      Mirrors A ρ n (.sweeping s mark) (.sweeping s' mark)
  | ended : Mirrors A ρ n .ended .ended

theorem SweepStage.Mirrors.extends {st st' : SweepStage} (h : st.Mirrors A ρ n st')
    (hext : ρ.Extends ρ' n m) (hn : n ≤ n') : st.Mirrors A ρ' n' st' := by
  have hk := hext.kept
  cases h with
  | list => exact .list
  | next => exact .next
  | ended => exact .ended
  | judge h => exact .judge (hk _ _ h)
  | unlink h => exact .unlink (hk _ _ h)
  | close h => exact .close (hk _ _ h)
  | unlock h => exact .unlock (hk _ _ h)
  | judgeApart ha h => exact .judgeApart ha (h.extends hext hn)
  | unlinkApart ha h => exact .unlinkApart ha (h.extends hext hn)
  | closeApart h => exact .closeApart (h.extends hext hn)
  | unlockApart h => exact .unlockApart (h.extends hext hn)

theorem Sweep.Mirrors.extends {s s' : Sweep} (h : s.Mirrors A ρ n s') (hext : ρ.Extends ρ' n m)
    (hn : n ≤ n') : s.Mirrors A ρ' n' s' where
  began := h.began
  todo := h.todo.trans (List.filterMap_congr fun p hp =>
    (Naming.pair?_extends (h.known p hp) hext).symm)
  known p hp := (h.known p hp).extends hext hn
  stage := h.stage.extends hext hn

-- ============================================================= tasks

/-- A task, as it is found on the other side. Nothing is disposed of. -/
inductive Task.Mirrors (A : Address) (ρ : Naming) (n : Nat) : Task → Task → Prop where
  | call {c c' : Call} (h : c.Mirrors A ρ n c') : Mirrors A ρ n (.call c) (.call c')
  | sweep {s s' : Sweep} (h : s.Mirrors A ρ n s') : Mirrors A ρ n (.sweep s) (.sweep s')
  | ticker {t t' : TickerStage} (h : t.Mirrors A ρ n t') : Mirrors A ρ n (.ticker t) (.ticker t')

theorem Task.Mirrors.extends {t t' : Task} (h : t.Mirrors A ρ n t') (hext : ρ.Extends ρ' n m)
    (hn : n ≤ n') : t.Mirrors A ρ' n' t' := by
  cases h with
  | call h => exact .call (h.extends hext hn)
  | sweep h => exact .sweep (h.extends hext hn)
  | ticker h =>
      cases h with
      | fresh => exact .ticker .fresh
      | sleeping wake => exact .ticker (.sleeping wake)
      | sweeping h mark => exact .ticker (.sweeping (h.extends hext hn) mark)
      | ended => exact .ticker .ended

/-- A task that waits is found waiting. A call of another address is not
spoken of: it waits to begin. -/
theorem Task.Mirrors.atRest {t t' : Task} (h : t.Mirrors A ρ n t')
    (ht : ∀ c, t = .call c → c.address = A) : t'.atRest = t.atRest := by
  cases h with
  | @call c c' h =>
      cases h with
      | apart ha => exact absurd (ht _ rfl) ha
      | ours h =>
          obtain ⟨address, program, cancelled, entered, replies, stage⟩ := c
          obtain ⟨address', program', cancelled', entered', replies', stage'⟩ := c'
          have hstage : stage.Mirrors ρ stage' := h.stage
          cases hstage <;> rfl
  | @sweep s s' h =>
      obtain ⟨began, todo, evicted, stage⟩ := s
      obtain ⟨began', todo', evicted', stage'⟩ := s'
      have hstage : stage.Mirrors A ρ n stage' := h.stage
      cases hstage <;> rfl
  | ticker h => cases h <;> rfl

-- ============================================================= sites

/-- The site `y` is what is left of the site `x` when only the address `A`
is looked at. -/
structure Site.Mirrors (A : Address) (ρ : Naming) (x y : BusSite) : Prop where
  clock : y.clock = x.clock
  registry : x.registry.Mirrors A ρ y.registry
  bus : x.bus.Mirrors A ρ y.bus

/-- Everything on record was asked of descriptors handed out, and answered
with them. -/
theorem Site.Owned.covers {x : BusSite} (ho : x.Owned) :
    ∀ r ∈ x.bus.trace, Naming.Covers x.bus.bus.nextDescriptor r := by
  intro r hr
  refine ⟨fun d hd => ho.below d (ho.known r hr d hd), fun d hd => ?_⟩
  by_cases hneg : 0 ≤ d
  · refine ho.below d (List.mem_filterMap.mpr ⟨r, hr, ?_⟩)
    unfold RawRecord.opened?
    rw [hd, Option.filter_some, if_pos (decide_eq_true hneg)]
  · have := ho.nonneg
    omega

namespace Recorded.Mirrors

variable {b c : Recorded Simulated}

/-- The bus does not look at the places of entries. -/
theorem congr (h : b.Mirrors A ρ c) (hname : ρ'.name = ρ.name) : b.Mirrors A ρ' c := by
  obtain ⟨place, name⟩ := ρ
  obtain ⟨place', name'⟩ := ρ'
  cases hname
  exact ⟨h.faults, h.failOpen, h.nonneg, h.instrument, h.link, h.below, h.inj, h.named, h.trace⟩

end Recorded.Mirrors

namespace Registry.Mirrors

variable {r q : Registry}

/-- How many sessions have been asked for is not compared. -/
theorem count (h : r.Mirrors A ρ q) (k k' : Nat) :
    ({ r with created := k } : Registry).Mirrors A ρ { q with created := k' } :=
  ⟨h.options, h.policy, h.disposed, h.sweepStarted, h.cache, h.known, h.inj, h.entry, h.others⟩

/-- A name for a new descriptor. -/
theorem rename (h : r.Mirrors A ρ q) (hext : ρ.Extends ρ' n m) (hplace : ρ'.place = ρ.place) :
    r.Mirrors A ρ' q := by
  have hpair : ρ'.pair? = ρ.pair? := by
    unfold Naming.pair?
    rw [hplace]
  refine ⟨h.options, h.policy, h.disposed, h.sweepStarted, ?_, fun p hp => ?_, ?_,
    fun e i he => ?_, fun e s hnone => ?_⟩
  · rw [hpair]
    exact h.cache
  · have hk := h.known p hp
    unfold Naming.Knows Naming.Apart at hk ⊢
    rwa [hplace]
  · rw [hplace]
    exact h.inj
  · rw [hplace] at he
    obtain ⟨x, x', hx, hx', hal⟩ := h.entry e i he
    exact ⟨x, x', hx, hx', hal.extends hext⟩
  · rw [hplace] at hnone
    exact h.others e s hnone

end Registry.Mirrors

namespace Site.Mirrors

variable {x y : BusSite} {a : Address} {e i : EntryId}

theorem modifyRegistry (h : x.Mirrors A ρ y) {f g : Registry → Registry}
    (hr : (f x.registry).Mirrors A ρ (g y.registry)) :
    (x.modifyRegistry f).Mirrors A ρ (y.modifyRegistry g) := ⟨h.clock, hr, h.bus⟩

theorem modifyRegistry_apart (h : x.Mirrors A ρ y) {f : Registry → Registry}
    (hr : (f x.registry).Mirrors A ρ y.registry) : (x.modifyRegistry f).Mirrors A ρ y :=
  ⟨h.clock, hr, h.bus⟩

/-- The session of an entry of the address is at it, on a descriptor that
has a name. -/
theorem session (h : x.Mirrors A ρ y) (ho : x.Owned) (he : ρ.place e = some i) {s : Session}
    (hs : x.registry.slot? e = some s) :
    ∃ d', ρ.name s.descriptor = some d' ∧ y.registry.slot? i = some (s.on d') ∧
      s.address = A ∧ x.bus.bus.link? s.descriptor = some ⟨A, !s.closed⟩ ∧
      y.bus.bus.link? d' = some ⟨A, !s.closed⟩ := by
  obtain ⟨ha, d', hd, hs'⟩ := h.registry.slot_some he hs
  have hl := (ho.slot e s hs).2
  rw [ha] at hl
  exact ⟨d', hd, hs', ha, hl, (h.bus.parallel hd).link.trans hl⟩

/-- The session of an entry of the address closed on both sides. -/
theorem closeSlot (h : x.Mirrors A ρ y) (ho : x.Owned) (he : ρ.place e = some i) :
    (x.closeSlot e).Mirrors A ρ (y.closeSlot i) := by
  cases hs : x.registry.slot? e with
  | none =>
      rw [closeSlot_of_none hs, closeSlot_of_none (h.registry.slot_none he hs)]
      exact h
  | some s =>
      obtain ⟨d', hd, hs', -, hl, -⟩ := h.session ho he hs
      rw [closeSlot_of_some hs, closeSlot_of_some hs']
      refine ⟨h.clock, h.registry.setSlot he .empty, ?_⟩
      exact h.bus.worked hd hl (h.bus.twins hd).close (.of_close s x.bus) (.of_close _ y.bus)

/-- The session of another entry closed on one side. -/
theorem closeSlot_apart (h : x.Mirrors A ρ y) (ho : x.Owned) (he : ρ.place e = none) :
    (x.closeSlot e).Mirrors A ρ y := by
  cases hs : x.registry.slot? e with
  | none =>
      rw [closeSlot_of_none hs]
      exact h
  | some s =>
      rw [closeSlot_of_some hs]
      refine ⟨h.clock, h.registry.setSlot_apart he nofun, ?_⟩
      exact h.bus.worked_apart (h.registry.others e s he hs) (ho.slot e s hs).2
        (.of_close s x.bus)

theorem connect_eq {b : Recorded Simulated} {bus : Simulated} {d : Int} {o : SessionOptions}
    (h : b.bus.openDevice (Session.request a o) = (bus, d)) :
    (Session.connect a o).run b =
      if d < 0 then
        (.error (.openRefused a o.board d), b.note bus (.openDevice (Session.request a o)) (some d))
      else
        (.ok ⟨d, a, o.board, o.timeout, o.terminator, false⟩,
          b.note bus (.openDevice (Session.request a o)) (some d)) := by
  obtain ⟨bus', d', hopen, hrun⟩ := run_connect_recorded a o b
  rw [h] at hopen
  cases hopen
  exact hrun

/-- A session made sure of on both sides. A descriptor handed out for it
gets a name. -/
theorem fillSlot (h : x.Mirrors A ρ y) (ho : x.Owned) (he : ρ.place e = some i) :
    ∃ ρ', ρ.Extends ρ' x.registry.entries.length x.bus.bus.nextDescriptor ∧
      (x.fillSlot A e).1.Mirrors A ρ' (y.fillSlot A i).1 ∧
      (y.fillSlot A i).2 = (x.fillSlot A e).2 ∧ ρ'.place = ρ.place := by
  rcases vacant_or_open x.registry e with ⟨s, hs, hopen⟩ | hvacant
  · obtain ⟨d', hd, hs', -⟩ := h.session ho he hs
    rw [fillSlot_of_open hs hopen, fillSlot_of_open hs' hopen]
    exact ⟨ρ, .refl ρ _ _, h, rfl, rfl⟩
  · have hvacant' : ∀ s, y.registry.slot? i = some s → s.closed = true := by
      intro s' hs'
      cases hs : x.registry.slot? e with
      | none =>
          rw [h.registry.slot_none he hs] at hs'
          cases hs'
      | some s =>
          obtain ⟨d', -, hs'', -⟩ := h.session ho he hs
          rw [hs''] at hs'
          cases hs'
          exact hvacant s hs
    rw [fillSlot_of_vacant A hvacant, fillSlot_of_vacant A hvacant', h.registry.options]
    obtain ⟨hfx, hfy⟩ := h.bus.failOpen
    have hcount := h.registry.count (x.registry.created + 1) (y.registry.created + 1)
    rcases Simulated.openDevice_calm (Session.request A x.registry.options) with
      ⟨code, hcalm⟩ | hcalm
    · rw [connect_eq (hcalm _ hfx), connect_eq (hcalm _ hfy)]
      exact ⟨ρ, .refl ρ _ _, ⟨h.clock, hcount.setSlot he .empty, h.bus.refused rfl code⟩, rfl, rfl⟩
    · rw [connect_eq (hcalm _ hfx), connect_eq (hcalm _ hfy)]
      obtain ⟨hn, hn'⟩ := h.bus.nonneg
      rw [if_neg (Int.not_lt.mpr hn), if_neg (Int.not_lt.mpr hn')]
      have hext := Naming.extends_call y.bus.bus.nextDescriptor x.registry.entries.length
        h.bus.name_next
      refine ⟨ρ.call x.bus.bus.nextDescriptor y.bus.bus.nextDescriptor, hext, ⟨h.clock, ?_, ?_⟩,
        rfl, rfl⟩
      · exact (hcount.rename hext rfl).setSlot he (.full rfl (if_pos rfl))
      · exact h.bus.granted rfl ho.covers

/-- A session made sure of for another address. -/
theorem fillSlot_apart (h : x.Mirrors A ρ y) (ha : a ≠ A) (he : ρ.place e = none) :
    (x.fillSlot a e).1.Mirrors A ρ y := by
  rcases vacant_or_open x.registry e with ⟨s, hs, hopen⟩ | hvacant
  · rw [fillSlot_of_open hs hopen]
    exact h
  · rw [fillSlot_of_vacant a hvacant]
    have hcount := h.registry.count (x.registry.created + 1) y.registry.created
    rcases Simulated.openDevice_calm (Session.request a x.registry.options) with
      ⟨code, hcalm⟩ | hcalm
    · rw [connect_eq (hcalm _ h.bus.failOpen.1)]
      have haddr : (Session.request a x.registry.options).address ≠ A := ha
      exact ⟨h.clock, hcount.setSlot_apart he nofun, h.bus.refused_apart haddr code⟩
    · rw [connect_eq (hcalm _ h.bus.failOpen.1), if_neg (Int.not_lt.mpr h.bus.nonneg.1)]
      refine ⟨h.clock, hcount.setSlot_apart he fun s hs => ?_, h.bus.granted_apart ha⟩
      cases hs
      exact ha

end Site.Mirrors

end InstrumentBus
