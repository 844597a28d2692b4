/-
Every open session has its place.

Between the steps of a sweep there is a moment at which an open session
is in no cached entry: the sweep has taken the entry out of the cache and
has not closed the session yet. At all other times a descriptor that is
online is that of the session in the current entry of its address
(`World.Sound.online_placed`). A sweep never waits, so where tasks change
only where they wait the moment is never seen, and the descriptors that
are online are the sessions in the cache (`World.open_sessions_cached`).
-/
import InstrumentBus.Proofs.Registry.Exclusive

namespace InstrumentBus.World

variable {w w' : BusWorld} {id : TaskId} {d d' : Int} {a : Address}

/-- A descriptor of the run is online at an address. -/
def Online (w : BusWorld) (d : Int) (a : Address) : Prop :=
  d ∈ w.site.bus.opened ∧ w.site.bus.bus.link? d = some ⟨a, true⟩

/-- A descriptor is that of the open session of an address: the one in the
slot of the current entry. -/
def Cached (w : BusWorld) (d : Int) (a : Address) : Prop :=
  ∃ e s, w.site.registry.current? a = some e ∧ w.site.registry.slot? e = some s ∧
    s.descriptor = d ∧ s.address = a ∧ s.closed = false

/-- A descriptor that is online has its session in the cache, or in an
entry that a sweep is about to empty. -/
theorem Sound.online_placed (hw : w.Sound) (h : w.Online d a) :
    w.Cached d a ∨ ∃ e s id t, w.site.registry.slot? e = some s ∧ s.descriptor = d ∧
      w.task? id = some t ∧ t.closing = some e := by
  obtain ⟨hd, hl⟩ := h
  obtain ⟨e, s, hslot, hsd⟩ := hw.owned.online d hd a hl
  have hlink := (hw.owned.slot e s hslot).2
  rw [hsd, hl] at hlink
  have haddr : s.address = a := (congrArg Link.address (Option.some.inj hlink)).symm
  have hopen : s.closed = false := by
    have := congrArg Link.online (Option.some.inj hlink)
    cases hc : s.closed with
    | false => rfl
    | true =>
        rw [hc] at this
        cases this
  rcases hw.placed e s hslot hopen with hcur | ⟨id, t, ht, hcl⟩
  · exact .inl ⟨e, s, haddr ▸ hcur, hslot, hsd, haddr, hopen⟩
  · exact .inr ⟨e, s, id, t, hslot, hsd, ht, hcl⟩

/-- When no sweep is about to empty an entry, what is online is cached. -/
theorem Sound.online_cached (hw : w.Sound) (hcl : ∀ id t, w.task? id = some t → t.closing = none)
    (h : w.Online d a) : w.Cached d a := by
  rcases hw.online_placed h with h | ⟨e, s, id, t, -, -, ht, he⟩
  · exact h
  · rw [hcl id t ht] at he
    cases he

theorem Cached.unique (h : w.Cached d a) (h' : w.Cached d' a) : d = d' := by
  obtain ⟨e, s, hcur, hslot, hsd, -⟩ := h
  obtain ⟨e', s', hcur', hslot', hsd', -⟩ := h'
  rw [hcur] at hcur'
  cases hcur'
  rw [hslot] at hslot'
  cases hslot'
  exact hsd.symm.trans hsd'

/-- A call asks for a session only where no session of its address is
cached. -/
theorem Sound.asks_vacant (hw : w.Sound) (hstep : w.step? id = some w')
    (hne : w'.site.registry.created ≠ w.site.registry.created) :
    ∃ c e, w.call? id = some c ∧ c.stage = .fill e ∧ ∀ d, ¬ w.Cached d c.address := by
  cases hw.perform_change (h := .step id) hstep with
  | task j t t' hid ht hw' he hs hp hf =>
      cases hid
      obtain ⟨c, e, rfl, hstage, hv⟩ := he.created hne
      refine ⟨c, e, call?_eq_some.mpr ht, hstage, fun d ⟨e', s, hcur, hslot, _, _, hopen⟩ => ?_⟩
      have hsound := hw.tasks id _ ht
      obtain ⟨address, program, cancelled, entered, replies, stage⟩ := c
      cases hstage
      have hcur' : w.site.registry.current? address = some e := hsound
      rw [hcur] at hcur'
      cases hcur'
      rw [hv s hslot] at hopen
      cases hopen
  | begun t hf hw' hb hr => exact absurd hr.created hne
  | beside hw' hl ht hr => exact absurd (congrArg Registry.created hr) hne

/-- Ownership of open sessions. Wherever a run leads, when every task
waits or is over, each descriptor opened in the run that is online is the
open session in the slot of the current entry of its address; so at most
one is online at an address, and no open session is in an entry that has
left the cache. And while one task takes its steps, the others waiting, it
asks for a session only at an address where none is online. -/
theorem open_sessions_cached {b : Simulated} {options : SessionOptions} {policy : SweepPolicy}
    (hb : 0 ≤ b.nextDescriptor) (hr : (World.unused b options policy).Reaches w) :
    (w.AtRest →
      (∀ d a, w.Online d a → w.Cached d a) ∧
      (∀ d d' a, w.Online d a → w.Online d' a → d = d') ∧
      (∀ e s, w.site.registry.slot? e = some s → s.closed = false →
        w.site.registry.current? s.address = some e)) ∧
    ∀ id w', w.AtRestBut id → w.step? id = some w' →
      w'.site.registry.created ≠ w.site.registry.created →
      ∃ c, w.call? id = some c ∧ ∀ d, ¬ w.Online d c.address := by
  have hw : w.Sound := hr.sound (sound_unused hb options policy)
  refine ⟨fun hrest => ?_, fun id w' hrest hstep hne => ?_⟩
  · have hcl : ∀ id t, w.task? id = some t → t.closing = none := fun id t ht =>
      Task.closing_of_atRest (hrest id t ht)
    refine ⟨fun d a => hw.online_cached hcl,
      fun d d' a h h' => (hw.online_cached hcl h).unique (hw.online_cached hcl h'),
      fun e s hslot hopen => ?_⟩
    rcases hw.placed e s hslot hopen with hcur | ⟨id, t, ht, he⟩
    · exact hcur
    · rw [hcl id t ht] at he
      cases he
  · obtain ⟨c, e, hc, -, hvacant⟩ := hw.asks_vacant hstep hne
    refine ⟨c, hc, fun d honline => hvacant d (hw.online_cached (fun j t ht => ?_) honline)⟩
    by_cases hj : j = id
    · -- the task itself is a call, which never empties an entry it took out
      subst hj
      rw [call?_eq_some.mp hc] at ht
      cases ht
      rfl
    · exact Task.closing_of_atRest (hrest j t hj ht)

/-- The session of the call that sleeps on it, seen while both calls wait. -/
theorem open_sessions_cached_contended :
    ∃ w, (World.unused .empty .standard .standard).run World.contended = some w ∧ w.AtRest ∧
      w.Online 16 ⟨5, 0⟩ ∧ w.Cached 16 ⟨5, 0⟩ := by
  have hrun : ((World.unused .empty .standard .standard).run World.contended).any (fun w =>
      w.tasks.all (·.atRest) && (16 ∈ w.site.bus.opened : Bool) &&
        w.site.bus.bus.link? 16 == some ⟨⟨5, 0⟩, true⟩) = true := by
    decide +kernel
  obtain ⟨w, hw, hall⟩ := (Option.any_eq_true _ _).mp hrun
  simp only [Bool.and_eq_true, decide_eq_true_eq, beq_iff_eq] at hall
  obtain ⟨⟨hrest, hmem⟩, hlink⟩ := hall
  have hatrest : w.AtRest := fun id t ht => List.all_eq_true.mp hrest t (List.mem_of_getElem? ht)
  have h := open_sessions_cached (by decide) ⟨World.contended, hw⟩
  exact ⟨w, hw, hatrest, ⟨hmem, hlink⟩, (h.1 hatrest).1 16 ⟨5, 0⟩ ⟨hmem, hlink⟩⟩

end InstrumentBus.World
