/-
The end of a registry is complete and final.

A disposal is the first one when it finds the registry not yet marked.
From its mark on, `World.disposal_final` follows it to its end and beyond,
however the other tasks take their steps meanwhile:

- a program that pauses goes on when it is due, on its own session, which
  nobody touches in between;
- a call that had not been let past its second check is turned away;
- once the disposal is over no session is in the cache and none is asked for
  any more, and every descriptor ever opened has been taken offline, once.

Where tasks change in mid-step the last point has one exception. A sweep may
have taken an entry out of the cache before the disposal listed the entries,
and not have closed its session yet. The disposal finds no trace of it, and
ends with the session still online (`disposal_leaves_session_online`); the
sweep closes it with its next step. A disposal that ends while no sweep stands
there leaves nothing online, and where tasks change only where they wait no
sweep ever does (`AtRest.not_unlinked`).
-/
import InstrumentBus.Proofs.Registry.Idle
import InstrumentBus.Proofs.Registry.Overlap
import InstrumentBus.Proofs.Registry.TurnedAway

namespace InstrumentBus.World

variable {w w' : BusWorld} {id k : TaskId} {c : Call} {e : EntryId} {a : Address} {d : Int}

-- ================================================== nothing is in use

/-- Nothing is left to drain. -/
abbrev Drained (w : BusWorld) : Prop := w.Draining []

theorem Draining.not_inUse (hd : w.Drained) : ¬ w.InUse a e := fun hu =>
  absurd (hd.mem a e hu) List.not_mem_nil

/-- No cached entry holds a session. -/
theorem Draining.vacant (hd : w.Drained) (hc : w.site.registry.current? a = some e) :
    w.site.registry.slot? e = none := by
  cases hs : w.site.registry.slot? e with
  | none => rfl
  | some s => exact absurd ⟨hc, .inl (hs ▸ Option.some_ne_none s)⟩ hd.not_inUse

/-- No session is asked for. -/
theorem Sound.created_same (hw : w.Sound) (hd : w.Drained) {who : Option TaskId}
    (hc : Change who w w') : w'.site.registry.created = w.site.registry.created := by
  cases hc with
  | task id t t' hid ht hw' he hs hp hf =>
      by_cases hne : w'.site.registry.created = w.site.registry.created
      · exact hne
      · obtain ⟨c, e, rfl, hstage, -⟩ := he.created hne
        have hsound := hw.tasks id _ ht
        obtain ⟨address, program, cancelled, entered, replies, stage⟩ := c
        cases hstage
        exact absurd ⟨hsound, .inr ⟨id, _, ht, rfl⟩⟩ hd.not_inUse
  | begun t hf hw' hb hr => exact hr.created
  | beside hw' hl ht hr => exact congrArg Registry.created hr

/-- No session is opened. -/
theorem Draining.opened_same (hd : w.Drained) {who : Option TaskId}
    (hc : Change who w w') : w'.site.bus.opened = w.site.bus.opened := by
  cases hc with
  | task id t t' hid ht hw' he hs hp hf =>
      cases he.slots with
      | idle hl htrace hslots => exact congrArg (List.filterMap _) htrace
      | acted e s s' kept hh hk h h' hslots hc =>
          obtain ⟨new, htrace, hnew, -⟩ := hc.made
          exact Site.opened_append htrace hnew
      | asked e a o r hh ha h h' hslots hc =>
          obtain ⟨bus, d, -, hrun⟩ := Site.run_connect_recorded a o w.site.bus
          rw [hrun] at hc
          split at hc
          next hd' =>
            rw [← (Prod.mk.inj hc).2]
            exact Site.opened_refused hd'
          next =>
            -- a session that is granted fills the slot of a call that was let in
            rw [← (Prod.mk.inj hc).1] at h'
            have hin := he.filled e (hd.vacant ha) (by rw [h']; exact Option.some_ne_none _)
            exact absurd ⟨ha, .inr ⟨id, t, ht, hin⟩⟩ hd.not_inUse
  | begun t hf hw' hb hr => rw [hb]
  | beside hw' hl ht hr => exact congrArg (List.filterMap _) ht

/-- What is still online a sweep is about to close. -/
theorem Sound.online_unlinked (hw : w.Sound) (hd : w.Drained) (h : w.Online d a) :
    ∃ id, w.Unlinked id d := by
  rcases hw.online_placed h with ⟨e, s, hcur, hslot, -⟩ | ⟨e, s, id, t, hslot, hsd, ht, hcl⟩
  · rw [hd.vacant hcur] at hslot
    cases hslot
  · exact ⟨id, t, e, s, ht, hcl, hslot, hsd⟩

/-- A descriptor is offline, or a sweep is about to close its session. -/
theorem Sound.offline_or_unlinked (hw : w.Sound) (hd : w.Drained)
    (hmem : d ∈ w.site.bus.opened) : w.Offline d ∨ ∃ id, w.Unlinked id d := by
  obtain ⟨a, online, hlink, -⟩ := hw.owned.linked d hmem
  cases online with
  | false => exact .inl (hw.offline_of_link hmem hlink)
  | true => exact .inr (hw.online_unlinked hd ⟨hmem, hlink⟩)

/-- No sweep waits where it is about to close a session. -/
theorem AtRest.not_unlinked (h : w.AtRest) : ¬ w.Unlinked id d := by
  rintro ⟨t, e, s, ht, hcl, -⟩
  rw [Task.closing_of_atRest (h id t ht)] at hcl
  cases hcl

-- ============================================== a disposal under way

/-- A disposal that has marked the registry, and what it has achieved. -/
structure Disposing (k : TaskId) (w : BusWorld) : Prop where
  sound : w.Sound
  disposed : w.site.registry.disposed = true
  -- it stands behind its mark, and has drained everything when it is
  -- over
  stage : ∃ d, w.task? k = some (.disposal d) ∧ d ≠ .mark ∧ (d = .ended → w.Drained)

/-- The mark itself. -/
theorem Sound.disposing (hw : w.Sound) (hk : w.task? k = some (.disposal .mark))
    (hd : w.site.registry.disposed = false) (hstep : w.step? k = some w') : Disposing k w' := by
  have hsound := hw.change (hw.perform_change (h := .step k) hstep)
  unfold step? at hstep
  rw [hk] at hstep
  simp only [Task.step, Disposal.step, hd, Bool.false_eq_true, if_false] at hstep
  cases hstep
  exact ⟨hsound, rfl, .list, (task?_set hk _ _ k).trans (if_pos rfl), by simp, by simp⟩

theorem Disposing.perform {h : Happening} (hd : Disposing k w) (hp : w.perform h = some w') :
    Disposing k w' := by
  have hw := hd.sound
  have hc := hw.perform_change hp
  have hdis : w'.site.registry.disposed = true := by
    cases hc with
    | task id t t' hid ht hw' he hs hp hf => exact he.disposed hd.disposed
    | begun t hf hw' hb hr => exact hr.disposed.trans hd.disposed
    | beside hw' hl ht hr => exact hr ▸ hd.disposed
  refine ⟨hw.change hc, hdis, ?_⟩
  obtain ⟨d, hk, hmark, hended⟩ := hd.stage
  have hkeeps : w'.task? k = some (.disposal d) →
      ∃ d, w'.task? k = some (.disposal d) ∧ d ≠ .mark ∧ (d = .ended → w'.Drained) := fun h =>
    ⟨d, h, hmark, fun h => hw.draining_stays hc (hended h)⟩
  have hcases := hc
  cases hcases with
  | task id t t' hid ht hw' he hs hp hf =>
      by_cases hki : k = id
      · subst hki
        rw [hk] at ht
        cases ht
        cases hf with
        | @disposal d d' hm hend =>
            refine ⟨d', (hw' k).trans (if_pos rfl), fun h => hmark (hm h), fun h => ?_⟩
            rcases hend h with h | h | h
            · exact hw.draining_stays hc (hended h)
            · subst h
              exact hw.draining_stays hc (hw.draining k _ [] hk rfl)
            · exact absurd h hmark
      · exact hkeeps ((hw' k).trans ((if_neg hki).trans hk))
  | begun t hf hw' hb hr =>
      refine hkeeps ((hw' k).trans ((if_neg fun hki => ?_).trans hk))
      rw [hki, task?_nextId] at hk
      cases hk
  | beside hw' hl ht hr => exact hkeeps ((hw' k).trans hk)

theorem Disposing.reaches (hd : Disposing k w) (hr : w.Reaches w') : Disposing k w' :=
  hr.induct hd fun _ _ _ hd hp => hd.perform hp

/-- The calls that are turned away at the mark are turned away for good. -/
theorem TurnsAway.reaches {w₀ : BusWorld} (ht : w₀.TurnsAway w) (hd : Disposing k w)
    (hr : w.Reaches w') : w₀.TurnsAway w' := by
  have h : Disposing k w' ∧ w₀.TurnsAway w' :=
    hr.induct (P := fun v => Disposing k v ∧ w₀.TurnsAway v) ⟨hd, ht⟩ fun _ _ _ h hp =>
      ⟨h.1.perform hp, h.2.perform h.1.disposed hp⟩
  exact h.2

/-- Once nothing is left to drain, nothing is opened any more. -/
theorem Sound.final (hw : w.Sound) (hd : w.Drained) (hr : w.Reaches w') :
    w'.Sound ∧ w'.Drained ∧ w'.site.bus.opened = w.site.bus.opened ∧
      w'.site.registry.created = w.site.registry.created := by
  refine hr.induct (P := fun v => v.Sound ∧ v.Drained ∧ v.site.bus.opened = w.site.bus.opened ∧
    v.site.registry.created = w.site.registry.created) ⟨hw, hd, rfl, rfl⟩ ?_
  intro v h v' ⟨hv, hdv, hopened, hcreated⟩ hp
  have hc := hv.perform_change hp
  exact ⟨hv.change hc, hv.draining_stays hc hdv, (hdv.opened_same hc).trans hopened,
    (hv.created_same hdv hc).trans hcreated⟩

-- ======================================================= what is promised

/-- A program that pauses goes on when it is due, on its own session, which
nobody touches before. -/
def CarriesOn (w : BusWorld) (id : TaskId) (c : Call) (e : EntryId) (pending : Pending) : Prop :=
  ∃ s t, w.site.registry.slot? e = some s ∧ c.entered = some (t, s.descriptor) ∧
    (pending.due w.site.clock = true → ∃ w', w.step? id = some w' ∧ Proceeds id c e s w w') ∧
    ∀ hs w', (∀ h ∈ hs, h.Spares id) → w.run hs = some w' → Undisturbed id c e s w w'

/-- A call that came too late. -/
structure Barred (w : BusWorld) (id : TaskId) (c : Call) : Prop where
  -- its program is not started
  entered : c.entered = none
  -- it learns that the registry is closed, or was cancelled as it waited
  outcome : ∀ result, c.outcome? = some result → result = .error Call.registryClosed ∨
    c.cancelled = true ∧ result = .error (Call.lockCancelled c.address)
  -- each of its steps brings it nearer to its end, and asks for no
  -- session
  nearer : ∀ w', w.step? id = some w' → w'.site.registry.created = w.site.registry.created ∧
    ∃ c', w'.call? id = some c' ∧ Call.stepsLeft c'.stage < Call.stepsLeft c.stage
  -- until it is over it can take a step, or waits in a queue whose head
  -- can take a step or carries out a program that pauses
  moves : c.isOver = true ∨ (∃ w', w.step? id = some w') ∨
    ∃ e j, c.stage = .queued e ∧ w.site.registry.holder? e = some j ∧
      ((∃ w', w.step? j = some w') ∨
        ∃ c pending rest, w.call? j = some c ∧ c.stage = .acting e pending rest)

/-- A registry at its end. -/
structure Retired (w : BusWorld) : Prop where
  -- no cached entry holds a session
  vacant : ∀ a e, w.site.registry.current? a = some e → w.site.registry.slot? e = none
  -- every descriptor opened in the run is offline, and was taken offline
  -- once
  offline : ∀ d ∈ w.site.bus.opened,
    (∃ a, w.site.bus.bus.link? d = some ⟨a, false⟩) ∧ w.site.bus.offlineCalls d = 1

/-- What is left after a disposal that ended in `w`. -/
structure Leaves (w w' : BusWorld) : Prop where
  -- no session is opened or asked for any more, and no cached entry holds
  -- one
  opened : w'.site.bus.opened = w.site.bus.opened
  created : w'.site.registry.created = w.site.registry.created
  vacant : ∀ a e, w'.site.registry.current? a = some e → w'.site.registry.slot? e = none
  -- every descriptor was taken offline once, but for those that are online
  offline : ∀ d ∈ w'.site.bus.opened, w'.Offline d ∨ ∃ a, w'.Online d a
  -- for these a sweep had come before the disposal, and closes the session
  -- with its next step
  online : ∀ d a, w'.Online d a → (∃ id, w.Unlinked id d) ∧
    ∃ id v, w'.Unlinked id d ∧ w'.step? id = some v ∧ ¬ v.Online d a

theorem Sound.carriesOn (hw : w.Sound) (hc : w.call? id = some c) {pending : Pending}
    {rest : Program} (hs : c.stage = .acting e pending rest) : w.CarriesOn id c e pending := by
  have he : Call.engaged c.stage = some e := by
    rw [hs]
    rfl
  obtain ⟨-, s, hslot, -⟩ := hw.engaged hc he
  obtain ⟨t, hent⟩ := hw.pauses_on hc hs hslot
  refine ⟨s, t, hslot, hent, fun hdue => ?_, fun hs w' hspare hrun =>
    hw.undisturbed hspare hrun hc he hslot⟩
  have hsome : (c.step id w.site).isSome = true := by
    unfold Call.step
    rw [hs]
    simp only [hdue, if_true, hslot]
    rfl
  obtain ⟨w', hw'⟩ := step?_of_task (call?_eq_some.mp hc) (Option.isSome_map.trans hsome)
  exact ⟨w', hw', step_engaged hc he hslot hw'⟩

theorem Sound.barred (hw : w.Sound) (hd : w.site.registry.disposed = true)
    (hc : w.call? id = some c) (ht : c.TurnedAway) : w.Barred id c where
  entered := ht.1
  outcome := by
    intro result hout
    obtain ⟨address, program, cancelled, entered, replies, stage⟩ := c
    obtain ⟨-, ht⟩ := ht
    cases stage <;> cases hout
    exact ht
  nearer := by
    intro w' hstep
    refine ⟨?_, ?_⟩
    · by_cases hne : w'.site.registry.created = w.site.registry.created
      · exact hne
      · obtain ⟨c₁, e, hc₁, hfill, -⟩ := hw.asks_vacant hstep hne
        rw [hc] at hc₁
        cases hc₁
        have := ht.2
        rw [hfill] at this
        exact this.elim
    · obtain ⟨c', hcall, hc'⟩ := step?_call_eq_some hc hstep
      exact ⟨c', hc', (Call.step_turnedAway hcall hd ht).2⟩
  moves := hw.waits_for hc ht

/-- What is online later was online, and about to be closed, when nothing
was left to drain. -/
theorem Sound.online_since (hw : w.Sound) (hd : w.Drained) (hr : w.Reaches w')
    (h : w'.Online d a) : ∃ id, w.Unlinked id d := by
  obtain ⟨hw', -, hopened, -⟩ := hw.final hd hr
  rcases hw.offline_or_unlinked hd (hopened ▸ h.1) with hoff | hun
  · exact absurd h ((hoff.reaches hw hr).not_online hw')
  · exact hun

/-- If no sweep was about to close a session when nothing was left to drain,
the registry is at its end from then on. -/
theorem Sound.retired_since (hw : w.Sound) (hd : w.Drained) (hr : w.Reaches w')
    (hnone : ∀ id d, ¬ w.Unlinked id d) : w'.Retired := by
  obtain ⟨hw', hd', -, -⟩ := hw.final hd hr
  refine ⟨fun _ _ => hd'.vacant, fun d hmem => ?_⟩
  obtain ⟨a, online, hlink, -⟩ := hw'.owned.linked d hmem
  cases online with
  | false => exact ⟨⟨a, hlink⟩, (hw'.offline_of_link hmem hlink).2⟩
  | true =>
      obtain ⟨id, hun⟩ := hw.online_since hd hr ⟨hmem, hlink⟩
      exact absurd hun (hnone id d)

theorem Sound.leaves (hw : w.Sound) (hd : w.Drained) (hr : w.Reaches w') : w.Leaves w' := by
  obtain ⟨hw', hd', hopened, hcreated⟩ := hw.final hd hr
  refine ⟨hopened, hcreated, fun _ _ => hd'.vacant, fun d hmem => ?_, fun d a hon => ?_⟩
  · obtain ⟨a, online, hlink, -⟩ := hw'.owned.linked d hmem
    cases online with
    | false => exact .inl (hw'.offline_of_link hmem hlink)
    | true => exact .inr ⟨a, hmem, hlink⟩
  · obtain ⟨id, hun⟩ := hw'.online_unlinked hd' hon
    obtain ⟨v, hv, hnot⟩ := hw'.unlinked_closed hun
    exact ⟨hw.online_since hd hr hon, id, v, hun, hv, hnot⟩

/-- Disposal is complete and final. From the moment a first disposal marks
the registry, in every run: a program that pauses carries on undisturbed; a
call that had not been let past its second check is barred; and once the
disposal is over nothing is opened any more, and nothing is left open but what
a sweep is about to close. If there was no such sweep when the disposal ended,
the registry is retired for good; if there was, it is as soon as there is none
left. -/
theorem disposal_final {b : Simulated} {options : SessionOptions} {policy : SweepPolicy}
    {w₁ w₂ : BusWorld} (hb : 0 ≤ b.nextDescriptor) (hr : (World.unused b options policy).Reaches w)
    (hk : w.disposal? k = some .mark) (hd : w.site.registry.disposed = false)
    (hstep : w.step? k = some w₁) (hr₁ : w₁.Reaches w₂) :
    (∀ id c e pending rest, w₂.call? id = some c → c.stage = .acting e pending rest →
      w₂.CarriesOn id c e pending) ∧
    (∀ id c, w₂.call? id = some c →
      (∀ c₁, w₁.call? id = some c₁ → Call.outside c₁.stage = true) → w₂.Barred id c) ∧
    (w₂.disposal? k = some .ended → ∀ w₃, w₂.Reaches w₃ →
      w₂.Leaves w₃ ∧
      ((∀ id d, ¬ w₂.Unlinked id d) → w₃.Retired) ∧
      ((∀ id d, ¬ w₃.Unlinked id d) → w₃.Retired)) := by
  have hw : w.Sound := hr.sound (sound_unused hb options policy)
  have hmark := hw.disposing (disposal?_eq_some.mp hk) hd hstep
  have hdis := hmark.reaches hr₁
  refine ⟨fun id c e pending rest hc hs => hdis.sound.carriesOn hc hs, fun id c hc hout => ?_,
    fun hend w₃ hr₂ => ?_⟩
  · have hun : w₁.Unstarted := ((unstarted_unused b options policy).reaches hr).perform
      (h := .step k) hstep
    exact hdis.sound.barred hdis.disposed hc
      (hun.turnsAway.reaches hmark hr₁ id c hc hout)
  · obtain ⟨d, hkd, -, hended⟩ := hdis.stage
    rw [disposal?_eq_some.mp hend] at hkd
    cases hkd
    have hd₂ : w₂.Drained := hended rfl
    obtain ⟨hw₃, hd₃, -, -⟩ := hdis.sound.final hd₂ hr₂
    exact ⟨hdis.sound.leaves hd₂ hr₂, hdis.sound.retired_since hd₂ hr₂,
      hw₃.retired_since hd₃ (.refl w₃)⟩

/-- The two calls of an address, one asleep and one in line, the registry
then being disposed of; and the way from its mark to its end. -/
def contendedToEnd : List Happening :=
  List.replicate 2 (.step 2) ++ [.elapse (.ofSecs 1)] ++ List.replicate 2 (.step 0) ++
    List.replicate 5 (.step 1) ++ List.replicate 4 (.step 2) ++ [.step 2]

theorem disposal_final_contended :
    ∃ w w₁ w₂ c, (World.unused .empty .standard .standard).run (contended ++ [.dispose]) = some w ∧
      w.step? 2 = some w₁ ∧ w₁.run contendedToEnd = some w₂ ∧ w₂.disposal? 2 = some .ended ∧
      w₂.call? 1 = some c ∧ w₂.Barred 1 c ∧ w₂.Retired := by
  have hrun : ((World.unused .empty .standard .standard).run (contended ++ [.dispose])).any
      (fun w => w.disposal? 2 == some .mark && !w.site.registry.disposed &&
        (w.step? 2).any fun w₁ => (w₁.call? 1).any (Call.outside ·.stage) &&
          (w₁.run contendedToEnd).any fun w₂ =>
            w₂.disposal? 2 == some .ended && (w₂.call? 1).isSome &&
              w₂.tasks.all (·.atRest)) = true := by
    decide +kernel
  obtain ⟨w, hw, hall⟩ := (Option.any_eq_true _ _).mp hrun
  simp only [Bool.and_eq_true, beq_iff_eq, Bool.not_eq_true'] at hall
  obtain ⟨⟨hmark, hdis⟩, hstep⟩ := hall
  obtain ⟨w₁, hw₁, hall⟩ := (Option.any_eq_true _ _).mp hstep
  simp only [Bool.and_eq_true] at hall
  obtain ⟨hcall, hrest⟩ := hall
  obtain ⟨c₁, hc₁, hout⟩ := (Option.any_eq_true _ _).mp hcall
  obtain ⟨w₂, hw₂, hall⟩ := (Option.any_eq_true _ _).mp hrest
  simp only [Bool.and_eq_true, beq_iff_eq] at hall
  obtain ⟨⟨hended, hsome⟩, hrest⟩ := hall
  obtain ⟨c, hc⟩ := Option.isSome_iff_exists.mp hsome
  obtain ⟨-, hbarred, hend⟩ :=
    disposal_final (by decide) ⟨_, hw⟩ hmark hdis hw₁ ⟨contendedToEnd, hw₂⟩
  obtain ⟨-, hretired, -⟩ := hend hended w₂ (.refl w₂)
  refine ⟨w, w₁, w₂, c, hw, hw₁, hw₂, hended, hc, hbarred 1 c hc fun c₂ hc₂ => ?_,
    hretired fun id d => AtRest.not_unlinked fun id t ht =>
      List.all_eq_true.mp hrest t (List.mem_of_getElem? ht)⟩
  rw [hc₁] at hc₂
  cases hc₂
  exact hout

/-- A call that opens a session and ends, a sweep that stops where it is
about to close the session, and a disposal. -/
def overtaking : List Happening :=
  [.execute ⟨5, 0⟩ [] false] ++ List.replicate 8 (.step 0) ++
    [.evict] ++ List.replicate 4 (.step 1) ++ [.dispose]

/-- The disposal finds no entry to drain and ends, and the session is
online. -/
theorem run_overtaking :
    ∃ w w₁ w₂, (World.unused .empty .standard ⟨.zero, .zero⟩).run overtaking = some w ∧
      w.disposal? 2 = some .mark ∧ w.site.registry.disposed = false ∧ w.step? 2 = some w₁ ∧
      w₁.run (List.replicate 3 (.step 2)) = some w₂ ∧ w₂.disposal? 2 = some .ended ∧
      w₂.Online 16 ⟨5, 0⟩ := by
  have hrun : ((World.unused .empty .standard ⟨.zero, .zero⟩).run overtaking).any (fun w =>
      w.disposal? 2 == some .mark && !w.site.registry.disposed &&
        (w.step? 2).any fun w₁ => (w₁.run (List.replicate 3 (.step 2))).any fun w₂ =>
          w₂.disposal? 2 == some .ended && w₂.site.bus.opened == [16] &&
            w₂.site.bus.bus.link? 16 == some ⟨⟨5, 0⟩, true⟩) = true := by
    decide +kernel
  obtain ⟨w, hw, hall⟩ := (Option.any_eq_true _ _).mp hrun
  simp only [Bool.and_eq_true, beq_iff_eq, Bool.not_eq_true'] at hall
  obtain ⟨⟨hmark, hdis⟩, hstep⟩ := hall
  obtain ⟨w₁, hw₁, hrest⟩ := (Option.any_eq_true _ _).mp hstep
  obtain ⟨w₂, hw₂, hall⟩ := (Option.any_eq_true _ _).mp hrest
  simp only [Bool.and_eq_true, beq_iff_eq] at hall
  obtain ⟨⟨hended, hopened⟩, hlink⟩ := hall
  refine ⟨w, w₁, w₂, hw, hmark, hdis, hw₁, hw₂, hended, ?_, hlink⟩
  rw [hopened]
  decide

/-- A disposal can end and leave a session online. -/
theorem disposal_leaves_session_online :
    ¬ ∀ (b : Simulated) (options : SessionOptions) (policy : SweepPolicy)
      (w w₁ w₂ : BusWorld) (k : TaskId), 0 ≤ b.nextDescriptor →
        (World.unused b options policy).Reaches w → w.disposal? k = some .mark →
        w.site.registry.disposed = false → w.step? k = some w₁ → w₁.Reaches w₂ →
          w₂.disposal? k = some .ended → ∀ d a, ¬ w₂.Online d a := by
  intro h
  obtain ⟨w, w₁, w₂, hrun, hmark, hdis, hstep, hrun₁, hended, honline⟩ := run_overtaking
  exact h .empty .standard ⟨.zero, .zero⟩ w w₁ w₂ 2 (by decide) ⟨overtaking, hrun⟩ hmark hdis
    hstep ⟨_, hrun₁⟩ hended 16 ⟨5, 0⟩ honline

end InstrumentBus.World
