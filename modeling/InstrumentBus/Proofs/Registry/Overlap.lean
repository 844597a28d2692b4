/-
How many sessions of one address are open at a time.

A call opens a session only under the lock of the current entry of its
address, so two calls never open one each. A sweep, though, takes an
entry out of the cache before it closes the session in it, and the lock
that it holds in between guards an entry that nobody finds any more. A
call that comes to the address then makes an entry of its own, whose lock
is free, and opens a second session while the first is still online.

That window is the only one. A session that is online is the one in the
cache, or it is `Unlinked`: a sweep is about to close it, and does so with
its next step (`one_live_session`). `overlapping` is a run into the
window. Where tasks change only where they wait nobody sees it, as a sweep
does not wait.
-/
import InstrumentBus.Proofs.Registry.Swept
import InstrumentBus.Proofs.Registry.Tenancy

namespace InstrumentBus

/-- A call or a sweep begins, or a task takes a step. -/
def Happening.usesOnly : Happening → Bool
  | .execute .. | .evict | .step _ => true
  | _ => false

namespace World

variable {w w' : BusWorld} {id : TaskId} {d d' : Int} {a : Address}

/-- A sweep has taken the entry of a session out of the cache and is about
to close the session. -/
def Unlinked (w : BusWorld) (id : TaskId) (d : Int) : Prop :=
  ∃ t e s, w.task? id = some t ∧ t.closing = some e ∧
    w.site.registry.slot? e = some s ∧ s.descriptor = d

/-- A task that is about to close a session is a sweep, or a ticker that
sweeps. -/
theorem sweeps_of_closing {t : Task} {e : EntryId} (h : t.closing = some e) :
    ∃ s, t.Sweeps s ∧ Sweep.closing s.stage = some e := by
  cases t with
  | sweep s => exact ⟨s, .own s, h⟩
  | ticker k =>
      cases k with
      | sweeping s mark => exact ⟨s, .ticking s mark, h⟩
      | _ => cases h
  | _ => cases h

/-- What a task about to close a session does next. -/
theorem step_closing {t : Task} {e : EntryId} (h : t.closing = some e) (id : TaskId)
    (x : BusSite) :
    ∃ t', t.step id x = some (t', x.closeSlot e) := by
  cases t with
  | sweep s =>
      obtain ⟨began, todo, evicted, stage⟩ := s
      cases stage with
      | close e' =>
          cases h
          exact ⟨_, rfl⟩
      | _ => cases h
  | ticker k =>
      cases k with
      | sweeping s mark =>
          obtain ⟨began, todo, evicted, stage⟩ := s
          cases stage with
          | close e' =>
              cases h
              exact ⟨_, rfl⟩
          | _ => cases h
      | _ => cases h
  | _ => cases h

/-- A session that a sweep has unlinked is in no cached entry. -/
theorem Orderly.unlinked_uncached (ho : w.Orderly) (h : w.Unlinked id d) : ¬ w.Cached d a := by
  obtain ⟨t, e, s, ht, hcl, hslot, hsd⟩ := h
  intro hc
  obtain ⟨e', s', hcur, hslot', hsd', -⟩ := hc
  have he : e = e' := ho.sound.owned.unique e e' s s' hslot hslot' (hsd.trans hsd'.symm)
  obtain ⟨sweep, hsweeps, hclosing⟩ := sweeps_of_closing hcl
  exact ((ho.listed id t sweep ht hsweeps).closing e hclosing).2 a (he ▸ hcur)

/-- The next step of the sweep takes it offline. -/
theorem Sound.unlinked_closed (hw : w.Sound) (h : w.Unlinked id d) :
    ∃ w', w.step? id = some w' ∧ ¬ w'.Online d a := by
  obtain ⟨t, e, s, ht, hcl, hslot, hsd⟩ := h
  obtain ⟨t', hstep⟩ := step_closing hcl id w.site
  have hw' : w.step? id = some ⟨w.site.closeSlot e, w.tasks.set id t'⟩ := by
    unfold step?
    rw [ht]
    show (t.step id w.site).map _ = _
    rw [hstep]
    rfl
  refine ⟨_, hw', fun hon => ?_⟩
  have hsound : Sound ⟨w.site.closeSlot e, w.tasks.set id t'⟩ := hw.perform (h := .step id) hw'
  -- an online descriptor is that of a session in a slot, and the only slot
  -- that had this one is empty now
  obtain ⟨e', s', hslot', hsd'⟩ := hsound.owned.online d hon.1 a hon.2
  change (w.site.closeSlot e).registry.slot? e' = some s' at hslot'
  by_cases he : e' = e
  · subst he
    rw [Site.slot?_closeSlot] at hslot'
    cases hslot'
  · rw [Site.slot?_closeSlot_ne w.site he] at hslot'
    exact he (hw.owned.unique e' e s' s hslot' hslot (hsd'.trans hsd.symm))

/-- The sessions of an address that are open at a time. In every run, of
two that are online at once one has been unlinked by a sweep; what a sweep
has unlinked is in the cache no more, and the sweep's next step closes it.
So while no sweep is between the two steps there is at most one. -/
theorem one_live_session {b : Simulated} {options : SessionOptions} {policy : SweepPolicy}
    (hb : 0 ≤ b.nextDescriptor) (hr : (World.unused b options policy).Reaches w) :
    (∀ d d' a, w.Online d a → w.Online d' a → d ≠ d' → ∃ id, w.Unlinked id d ∨ w.Unlinked id d') ∧
    (∀ id d a, w.Unlinked id d → ¬ w.Cached d a ∧ ∃ w', w.step? id = some w' ∧ ¬ w'.Online d a) ∧
    ((∀ id t, w.task? id = some t → t.closing = none) →
      ∀ d d' a, w.Online d a → w.Online d' a → d = d') := by
  have ho : w.Orderly := (orderly_unused hb options policy).reaches hr
  have hw : w.Sound := ho.sound
  refine ⟨fun d d' a hd hd' hne => ?_, fun id d a hu => ?_, fun hcl d d' a hd hd' => ?_⟩
  · rcases hw.online_placed hd with hc | ⟨e, s, id, t, hslot, hsd, ht, hcl⟩
    · rcases hw.online_placed hd' with hc' | ⟨e, s, id, t, hslot, hsd, ht, hcl⟩
      · exact absurd (hc.unique hc') hne
      · exact ⟨id, .inr ⟨t, e, s, ht, hcl, hslot, hsd⟩⟩
    · exact ⟨id, .inl ⟨t, e, s, ht, hcl, hslot, hsd⟩⟩
  · exact ⟨ho.unlinked_uncached hu, hw.unlinked_closed hu⟩
  · exact (hw.online_cached hcl hd).unique (hw.online_cached hcl hd')

/-- A call that opens a session and ends, a sweep that stops where it is
about to close the session, and a second call of the same address up to
where it starts its program. -/
def overlapping : List Happening :=
  [.execute ⟨5, 0⟩ [] false] ++ List.replicate 8 (.step 0) ++
    [.evict] ++ List.replicate 4 (.step 1) ++
    [.execute ⟨5, 0⟩ [.serialPoll] false] ++ List.replicate 6 (.step 2)

theorem run_overlapping :
    ∃ w, (World.unused .empty .standard ⟨.zero, .zero⟩).run overlapping = some w ∧
      w.Online 16 ⟨5, 0⟩ ∧ w.Online 17 ⟨5, 0⟩ := by
  have hrun : ((World.unused .empty .standard ⟨.zero, .zero⟩).run overlapping).any (fun w =>
      (w.site.bus.opened == [17, 16]) &&
        (w.site.bus.bus.link? 16 == some ⟨⟨5, 0⟩, true⟩) &&
        (w.site.bus.bus.link? 17 == some ⟨⟨5, 0⟩, true⟩)) = true := by
    decide +kernel
  obtain ⟨w, hw, hall⟩ := (Option.any_eq_true _ _).mp hrun
  simp only [Bool.and_eq_true, beq_iff_eq] at hall
  obtain ⟨⟨hopened, h16⟩, h17⟩ := hall
  refine ⟨w, hw, ⟨?_, h16⟩, ⟨?_, h17⟩⟩
  · rw [hopened]
    decide
  · rw [hopened]
    decide

/-- One of the two has been unlinked. -/
theorem one_live_session_overlapping :
    0 ≤ Simulated.empty.nextDescriptor ∧
      ∃ w, (World.unused .empty .standard ⟨.zero, .zero⟩).Reaches w ∧
        ∃ id, w.Unlinked id 16 ∨ w.Unlinked id 17 := by
  obtain ⟨w, hrun, h16, h17⟩ := run_overlapping
  have hr : (World.unused .empty .standard ⟨.zero, .zero⟩).Reaches w := ⟨overlapping, hrun⟩
  exact ⟨by decide, w, hr, (one_live_session (by decide) hr).1 16 17 ⟨5, 0⟩ h16 h17 (by decide)⟩

/-- A run of nothing but calls and sweeps can leave two sessions of one
address online at once. -/
theorem two_live_sessions :
    ¬ ∀ (b : Simulated) (options : SessionOptions) (policy : SweepPolicy) (hs : List Happening)
      (w : BusWorld), 0 ≤ b.nextDescriptor → (∀ h ∈ hs, h.usesOnly = true) →
        (World.unused b options policy).run hs = some w →
          ∀ d d' a, w.Online d a → w.Online d' a → d = d' := by
  intro h
  obtain ⟨w, hrun, h16, h17⟩ := run_overlapping
  have huses : ∀ h ∈ overlapping, h.usesOnly = true := List.all_eq_true.mp rfl
  cases h .empty .standard ⟨.zero, .zero⟩ overlapping w (by decide) huses hrun 16 17 ⟨5, 0⟩ h16 h17

end World

end InstrumentBus
