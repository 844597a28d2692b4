/-
A session that the driver refuses.

The call that asked for it takes its entry out of the cache, passes the
lock on and tells its caller what the driver said (`World.Refused`). It
can only do so if the entry is still there to be taken out: whoever is in
line leaves it alone, and so does a disposal under way, since it has yet
to wait for this very lock (`World.Secure`).

Nobody else is told. Those who were in line for the entry find that it
has left the cache, look their address up again and ask for a session of
their own, unless there is one by then. That there is one only if some
call of the address was granted it is what `World.Supplied` says: from an
address without a session, every session that is found later, and every
program that is started, goes back to an answer of the driver.
-/
import InstrumentBus.Proofs.Registry.Deeds

namespace InstrumentBus

namespace Call

variable {id : TaskId} {c c' : Call} {x x' : BusSite} {e : EntryId} {s : Session}

/-- A program is started by a call that is about to. -/
theorem stage_of_started (h : .started ∈ c.deeds x x') : ∃ e, c.stage = .enter e := by
  have hending : ∀ e, .started ∉ c.ending e x := by
    intro e h
    unfold ending at h
    split at h
    · unfold Advance.deeds at h
      split at h <;> simp at h
    · simp at h
  unfold deeds at h
  rw [List.mem_append] at h
  rcases h with h | h
  · split at h <;> simp at h
  · split at h
    · split at h <;> simp at h
    next e hs => exact ⟨e, hs⟩
    next e pending rest hs => exact absurd h (hending e)
    · simp at h

/-- A call that is refused a session was about to make sure of one. -/
theorem Stride.refuses {f : Failure} (h : c.Stride id x c' x')
    (hd : c.deeds x x' = [.asked (.error f)]) :
    ∃ e, c.stage = .fill e ∧ c' = { c with stage := .abandon e f } ∧
      x'.registry.cache = x.registry.cache ∧ x'.registry.slot? e = none := by
  have hasked : ∃ e, c.stage = .fill e := by
    rcases h.created with hsame | ⟨-, hfill⟩
    · rw [deeds_of_created hsame] at hd
      split at hd
      · split at hd <;> simp at hd
      · simp at hd
      next e pending rest hs =>
        unfold ending Advance.deeds at hd
        split at hd
        · split at hd <;> simp at hd
        · simp at hd
      · simp at hd
    · exact hfill
  obtain ⟨e, hs⟩ := hasked
  refine ⟨e, hs, ?_⟩
  cases h with
  | reused e' s hs' =>
      rw [deeds_of_created rfl, hs] at hd
      cases hd
  | opened e' s bus hs' hv hrun =>
      rw [deeds_of_asked hs rfl, answer, hrun] at hd
      cases hd
  | failed e' f' bus hs' hv hrun =>
      cases hs.symm.trans hs'
      rw [deeds_of_asked hs rfl, answer, hrun] at hd
      cases hd
      refine ⟨rfl, rfl, ?_⟩
      cases hslot : (Registry.setSlot { x.registry with created := x.registry.created + 1 }
          e none).slot? e with
      | none => rfl
      | some s =>
          have hlt : e < x.registry.entries.length := by
            simpa using Registry.lt_of_slot? hslot
          exact hslot.symm.trans (Registry.slot?_setSlot none hlt)
  | _ => cases hs.symm.trans ‹c.stage = _›

/-- A slot that was empty is filled by a call that asks for a session and
is granted one. -/
theorem Stride.fills (h : c.Stride id x c' x') (hin : admitted c.stage = some e)
    (hn : x.registry.slot? e = none) (hs : x'.registry.slot? e = some s) :
    c.stage = .fill e ∧ x'.registry.cache = x.registry.cache ∧
      c.deeds x x' = [.asked (.ok ())] := by
  have hsame : x'.registry.slot? e ≠ x.registry.slot? e := by
    rw [hn, hs]
    exact Option.some_ne_none s
  cases h with
  | opened e' s' bus hstage hv hrun =>
      rw [hstage] at hin
      cases hin
      refine ⟨hstage, rfl, ?_⟩
      rw [deeds_of_asked hstage rfl, answer, hrun]
      rfl
  | failed e' f bus hstage hv hrun =>
      rw [hstage] at hin
      cases hin
      apply absurd hs
      by_cases hlt : e < x.registry.entries.length
      · intro hs
        cases (Registry.slot?_setSlot (r := { x.registry with created := x.registry.created + 1 })
          none hlt).symm.trans hs
      · intro hs
        exact hlt (by simpa using Registry.lt_of_slot? hs)
  | confirmed e' hstage hcur => exact absurd rfl hsame
  | stale e' hstage hcur => exact absurd (Registry.slot?_modifyLock _ _ _ _) hsame
  | reused e' s' hstage hslot hopen => exact absurd rfl hsame
  | started e' s' hstage hslot =>
      rw [hstage] at hin
      cases hin
      rw [hn] at hslot
      cases hslot
  | resumed e' pending rest s' hstage hdue hslot =>
      rw [hstage] at hin
      cases hin
      rw [hn] at hslot
      cases hslot
  | _ =>
      -- it has not been let in
      rw [‹c.stage = _›] at hin
      cases hin

/-- A call that is dropped leaves the slots alone. -/
theorem slot?_drop (id : TaskId) (c : Call) (x : BusSite) (e : EntryId) :
    (c.drop id x).2.registry.slot? e = x.registry.slot? e := by
  obtain ⟨address, program, cancelled, entered, replies, stage⟩ := c
  cases stage <;> first | rfl | exact Registry.slot?_modifyLock _ _ _ _

end Call

namespace World

variable {w w' : BusWorld} {who : Option TaskId} {id : TaskId} {c : Call} {e : EntryId}
  {a : Address} {f : Failure} {h : Happening} {ds : TaskId → List Call.Deed}

-- ==================================== an entry that cannot be taken away

/-- The entry is current, and every disposal that has listed the entries
has it before it. -/
structure Secure (w : BusWorld) (a : Address) (e : EntryId) : Prop where
  current : w.site.registry.current? a = some e
  ahead : ∀ j t l, w.task? j = some t → t.pending? = some l → e ∈ l

/-- So is the entry of a call that is about to make sure of a session. -/
theorem Sound.secure (hw : w.Sound) (hc : w.call? id = some c) (hs : c.stage = .fill e) :
    w.Secure c.address e := by
  have ht := call?_eq_some.mp hc
  have hsound := hw.tasks id _ ht
  have hadmitted : (Task.call c).admitted = some e := congrArg Call.admitted hs
  have hcur : w.site.registry.current? c.address = some e := by
    obtain ⟨address, program, cancelled, entered, replies, stage⟩ := c
    cases hs
    exact hsound
  refine ⟨hcur, ?_⟩
  intro j t l hj hl
  exact (hw.draining j t l hj hl).mem _ _ ⟨hcur, .inr ⟨id, _, ht, hadmitted⟩⟩

/-- And it stays so while its lock is held, whatever the others do. -/
theorem Secure.others {t₀ : Task} (hs : w.Secure a e) (hw : w.Sound) (hc : Change who w w')
    (ht₀ : w.task? id = some t₀) (hl : t₀.lockHeld = some e) (hne : who ≠ some id) :
    w'.Secure a e := by
  have hw' := hw.change hc
  have ht₀' := hc.untouched hne ht₀
  cases hc with
  | task j t t' hid ht htasks he hsound hp hf =>
      have hj : j ≠ id := fun hj => hne (hid.trans (congrArg some hj))
      refine ⟨?_, ?_⟩
      · rcases he.cache.stays hs.current with hcur | ⟨hheld, -⟩ | hclear
        · exact hcur
        · exact absurd (hw.lock_inj ht ht₀ hheld hl) hj
        · subst hclear
          exact absurd (hs.ahead j _ [] ht rfl) List.not_mem_nil
      · intro i u l hu hlist
        have hu' := hu
        rw [htasks] at hu
        split at hu
        next hi =>
          subst hi
          cases hu
          cases hp l hlist with
          | kept hold => exact hs.ahead i t l ht hold
          | listed htl hx hall =>
              rw [hall]
              exact List.mem_map_of_mem (f := (·.2)) (Keyed.mem_of_get? hs.current)
          | emptied e' hold hh hv =>
              rcases List.mem_cons.mp (hs.ahead i t _ ht hold) with heq | hmem
              · subst heq
                exact absurd (hw'.lock_inj hu' ht₀' hh hl) hj
              · exact hmem
        next => exact hs.ahead i u l hu hlist
  | begun t hf htasks hb hr =>
      refine ⟨?_, ?_⟩
      · unfold Registry.current?
        rw [hr.cache]
        exact hs.current
      · intro i u l hu hlist
        rw [htasks] at hu
        split at hu
        · cases hu
          rw [hf.pending?] at hlist
          cases hlist
        · exact hs.ahead i u l hu hlist
  | beside htasks hlinks htrace hr =>
      refine ⟨hr ▸ hs.current, ?_⟩
      intro i u l hu
      exact hs.ahead i u l ((htasks i).symm.trans hu)

/-- Nor does a cancelled token matter. -/
theorem Secure.cancel (hs : w.Secure a e) (j : TaskId) : (w.cancel j).Secure a e := by
  refine ⟨hs.current, ?_⟩
  intro i u l hu hlist
  rw [task?_cancel] at hu
  split at hu
  next hi =>
    obtain ⟨t, ht, rfl⟩ := Option.map_eq_some_iff.mp hu
    exact hs.ahead j t l ht (Task.pending?_cancel t ▸ hlist)
  next => exact hs.ahead i u l hu hlist

-- ============================================ the way out of the refused

/-- Where a call stands that the driver has refused a session. -/
inductive WayOut (w : BusWorld) (id : TaskId) (a : Address) (e : EntryId) (f : Failure) : Prop where
  | abandons (c : Call) (hc : w.call? id = some c) (ha : c.address = a)
      (hs : c.stage = .abandon e f) (hsecure : w.Secure a e)
  | leaves (c : Call) (hc : w.call? id = some c) (hs : c.stage = .leave e (.error f))
      (hgone : w.site.registry.current? a ≠ some e)
  | ended (c : Call) (hc : w.call? id = some c)
      (hs : c.stage = .ended (.error f) ∨ c.stage = .dropped)

/-- The step with which the entry leaves the cache. -/
theorem step_abandon {c' : Call} {x' : BusSite} (hs : c.stage = .abandon e f)
    (h : c.step id w.site = some (c', x')) :
    c' = { c with stage := .leave e (.error f) } ∧
      x' = w.site.modifyRegistry (·.forget c.address e) := by
  unfold Call.step at h
  rw [hs] at h
  cases h
  exact ⟨rfl, rfl⟩

/-- The step with which the lock is passed on. -/
theorem step_leave {c' : Call} {x' : BusSite} {result : Except Failure Unit}
    (hs : c.stage = .leave e result) (h : c.step id w.site = some (c', x')) :
    c' = { c with stage := .ended result } ∧
      x' = w.site.modifyRegistry (·.modifyLock e (·.release)) := by
  unfold Call.step at h
  rw [hs] at h
  cases h
  exact ⟨rfl, rfl⟩

theorem current?_forgotten {r : Registry} (hcur : r.current? a = some e) :
    (r.forget a e).current? a = none :=
  (Registry.current?_forget r a a e).trans (if_pos ⟨rfl, hcur⟩)

/-- Once it is gone from the cache an entry does not come back. -/
theorem Change.gone (hc : Change who w w') (hlt : e < w.site.registry.entries.length)
    (hgone : w.site.registry.current? a ≠ some e) : w'.site.registry.current? a ≠ some e :=
  fun hcur => hgone (hc.old hcur hlt)

theorem stage_drop {c : Call} {x : BusSite} {e : EntryId} (hl : Call.lockHeld c.stage = some e) :
    (c.drop id x).1.stage = .dropped := by
  obtain ⟨address, program, cancelled, entered, replies, stage⟩ := c
  cases stage <;> first | rfl | cases hl

theorem WayOut.perform (ho : w.WayOut id a e f) (hw : w.Sound) (hp : w.perform h = some w') :
    w'.WayOut id a e f := by
  have hch := hw.perform_change hp
  cases ho with
  | abandons c hc ha hs hsecure =>
      have hl : Call.lockHeld c.stage = some e := by
        rw [hs]
        rfl
      cases hw.fate hc hp with
      | steps c' hstep hc' =>
          obtain ⟨rfl, hx⟩ := step_abandon hs hstep
          refine .leaves _ hc' rfl ?_
          rw [hx, ha]
          show (w.site.registry.forget a e).current? a ≠ some e
          rw [current?_forgotten hsecure.current]
          exact nofun
      | cancelled hx hc' =>
          cases hp
          exact .abandons _ hc' ha hs (hsecure.cancel id)
      | dropped hx hc' => exact .ended _ hc' (.inr (stage_drop hl))
      | stays hh hc' =>
          exact .abandons c hc' ha hs (hsecure.others hw hch (call?_eq_some.mp hc) hl hh)
  | leaves c hc hs hgone =>
      have hl : Call.lockHeld c.stage = some e := by
        rw [hs]
        rfl
      have hlt := hw.lt (call?_eq_some.mp hc) hl
      cases hw.fate hc hp with
      | steps c' hstep hc' =>
          obtain ⟨rfl, -⟩ := step_leave hs hstep
          exact .ended _ hc' (.inl rfl)
      | cancelled hx hc' => exact .leaves _ hc' hs (hch.gone hlt hgone)
      | dropped hx hc' => exact .ended _ hc' (.inr (stage_drop hl))
      | stays hh hc' => exact .leaves c hc' hs (hch.gone hlt hgone)
  | ended c hc hs =>
      obtain ⟨c', hc', hstage, -⟩ := (hw.fate hc hp).over (Call.isOver_of hs)
      exact .ended c' hc' (hstage ▸ hs)

/-- A call that has been told its outcome stands in no line. -/
theorem Sound.outside {result : Except Failure Unit} (hw : w.Sound) (hc : w.call? id = some c)
    (hout : c.outcome? = some result) (e : EntryId) : id ∉ w.site.registry.line e := by
  intro hmem
  obtain ⟨t, ht, hstands⟩ := (hw.inLine.stands id e).mp hmem
  cases ht.symm.trans (call?_eq_some.mp hc)
  obtain ⟨address, program, cancelled, entered, replies, stage⟩ := c
  cases stage with
  | ended r => exact Task.standsIn_of_none rfl rfl hstands
  | _ => cases hout

/-- What a call does, and is told, that the driver has refused a session. -/
structure Refused (w : BusWorld) (id : TaskId) (a : Address) (e : EntryId) (f : Failure) :
    Prop where
  -- it is told what the driver said, unless it is dropped
  told : ∃ c, w.call? id = some c ∧ ∀ result, c.outcome? = some result → result = .error f
  -- it goes on until it is over
  moves : ∀ c, w.call? id = some c → c.isOver = true ∨ ∃ w', w.step? id = some w'
  -- first the address leaves the cache, and then the lock is passed on
  -- to the first in line, with the entry gone for good
  steps : ∀ w', w.step? id = some w' →
    w'.site.registry.contains a = false ∧ w'.WayOut id a e f ∨
    (∀ v, w'.Reaches v → v.site.registry.current? a ≠ some e) ∧
      w'.site.registry.cache = w.site.registry.cache ∧
      w'.site.registry.holder? e = (w.site.registry.waiting e).head? ∧
      (∀ e', id ∉ w'.site.registry.line e') ∧
      ∃ c, w'.call? id = some c ∧ c.outcome? = some (.error f)

theorem WayOut.told (ho : w.WayOut id a e f) :
    ∃ c, w.call? id = some c ∧ ∀ result, c.outcome? = some result → result = .error f := by
  have hnone : ∀ {c : Call} {stage}, c.stage = stage → Call.outcome? { c with stage } = none →
      ∀ result, c.outcome? = some result → result = .error f := by
    intro c stage hs hnone result hr
    subst hs
    rw [show c.outcome? = none from hnone] at hr
    cases hr
  cases ho with
  | abandons c hc ha hs hsecure => exact ⟨c, hc, hnone hs rfl⟩
  | leaves c hc hs hgone => exact ⟨c, hc, hnone hs rfl⟩
  | ended c hc hs =>
      refine ⟨c, hc, ?_⟩
      intro result hr
      unfold Call.outcome? at hr
      rcases hs with hs | hs
      · rw [hs] at hr
        exact (Option.some.inj hr).symm
      · rw [hs] at hr
        cases hr

theorem WayOut.refused (ho : w.WayOut id a e f) (hw : w.Sound) : w.Refused id a e f where
  told := ho.told
  moves := by
    intro c hc
    have hstep : ∀ {e'}, Call.lockHeld c.stage = some e' →
        (∀ pending rest, c.stage ≠ .acting e' pending rest) → ∃ w', w.step? id = some w' := by
      intro e' hl hacts
      rcases Call.step_of_lockHeld id w.site hl with ⟨pending, rest, hs⟩ | h
      · exact absurd hs (hacts pending rest)
      · exact step?_of_task (call?_eq_some.mp hc) (Option.isSome_map.trans h)
    cases ho with
    | abandons c' hc' ha hs hsecure =>
        cases hc.symm.trans hc'
        exact .inr (hstep (congrArg Call.lockHeld hs) fun _ _ h => nomatch hs.symm.trans h)
    | leaves c' hc' hs hgone =>
        cases hc.symm.trans hc'
        exact .inr (hstep (congrArg Call.lockHeld hs) fun _ _ h => nomatch hs.symm.trans h)
    | ended c' hc' hs =>
        cases hc.symm.trans hc'
        exact .inl (Call.isOver_of hs)
  steps := by
    intro w' hp
    have hch := hw.perform_change (h := .step id) hp
    have hw' := hw.change hch
    have ho' := ho.perform (h := .step id) hw hp
    cases ho with
    | abandons c hc ha hs hsecure =>
        left
        refine ⟨?_, ho'⟩
        obtain ⟨c', hstep, hc'⟩ := step?_call_eq_some hc hp
        obtain ⟨-, hx⟩ := step_abandon hs hstep
        unfold Registry.contains
        rw [hx, ha]
        show ((w.site.registry.forget a e).current? a).isSome = false
        rw [current?_forgotten hsecure.current]
        rfl
    | leaves c hc hs hgone =>
        right
        have ht := call?_eq_some.mp hc
        have hlt := hw.lt ht (congrArg Call.lockHeld hs)
        obtain ⟨c', hstep, hc'⟩ := step?_call_eq_some hc hp
        obtain ⟨rfl, hx⟩ := step_leave hs hstep
        refine ⟨?_, ?_, ?_, ?_, _, hc', rfl⟩
        · intro v hv hcur
          refine hgone (hch.old (hw'.current?_old hv hcur ?_) hlt)
          rw [hx]
          simpa [Site.modifyRegistry] using hlt
        · rw [hx]
          rfl
        · rw [hx]
          exact Registry.holder?_release hlt
        · exact hw'.outside hc' rfl
    | ended c hc hs =>
        rw [step?_of_isOver hc (Call.isOver_of hs)] at hp
        cases hp

/-- A call that has just been refused a session, and may rely on its entry. -/
structure TurnsBack (w : BusWorld) (id : TaskId) (c : Call) (e : EntryId) (f : Failure) : Prop where
  call : w.call? id = some c
  stage : c.stage = .abandon e f
  secure : w.Secure c.address e
  vacant : w.site.registry.slot? e = none

theorem TurnsBack.wayOut (h : w.TurnsBack id c e f) : w.WayOut id c.address e f :=
  .abandons c h.call rfl h.stage h.secure

/-- From the moment it is refused a session a call is on its way out. -/
theorem Sound.turnsBack (hw : w.Sound) (hc : w.call? id = some c) (hp : w.step? id = some w')
    (hd : w.deedsIn id (.step id) w' = [.asked (.error f)]) :
    ∃ e c', c.stage = .fill e ∧ c'.address = c.address ∧ w'.TurnsBack id c' e f := by
  have ht := call?_eq_some.mp hc
  obtain ⟨c', hstep, hc'⟩ := step?_call_eq_some hc hp
  rw [deedsIn_step hc] at hd
  obtain ⟨e, hs, rfl, hcache, hslot⟩ := (Call.step_stride hstep (hw.tasks id _ ht)).refuses hd
  have hsecure := hw.secure hc hs
  refine ⟨e, { c with stage := .abandon e f }, hs, rfl, hc', rfl, ⟨?_, ?_⟩, hslot⟩
  · show w'.site.registry.current? c.address = some e
    unfold Registry.current?
    rw [hcache]
    exact hsecure.current
  · intro j t l hj hl
    by_cases hji : j = id
    · subst hji
      rw [call?_eq_some.mp hc'] at hj
      cases hj
      cases hl
    · -- nobody else has taken a step
      unfold step? at hp
      rw [ht] at hp
      obtain ⟨⟨t', x'⟩, -, heq⟩ := Option.map_eq_some_iff.mp hp
      subst heq
      rw [task?_set ht, if_neg hji] at hj
      exact hsecure.ahead j t l hj hl

/-- Where it is not interrupted, it is told so in two steps, and then the
address is not cached and the call stands in no line. -/
theorem TurnsBack.atOnce (h : w.TurnsBack id c e f) (hw : w.Sound) :
    ∃ w₁ w₂ c₂, w.step? id = some w₁ ∧ w₁.step? id = some w₂ ∧ w₂.call? id = some c₂ ∧
      c₂.outcome? = some (.error f) ∧ w₂.site.registry.contains c.address = false ∧
      ∀ e', id ∉ w₂.site.registry.line e' := by
  have habandon : c.step id w.site = some ({ c with stage := .leave e (.error f) },
      w.site.modifyRegistry (·.forget c.address e)) := by
    unfold Call.step
    rw [h.stage]
  obtain ⟨w₁, hw₁, hx₁, hc₁⟩ := step?_of_call h.call habandon
  have hleave : Call.step id { c with stage := .leave e (.error f) } w₁.site =
      some ({ c with stage := .ended (.error f) },
        w₁.site.modifyRegistry (·.modifyLock e (·.release))) := rfl
  obtain ⟨w₂, hw₂, hx₂, hc₂⟩ := step?_of_call hc₁ hleave
  refine ⟨w₁, w₂, _, hw₁, hw₂, hc₂, rfl, ?_, ?_⟩
  · unfold Registry.contains
    rw [hx₂, hx₁]
    show ((w.site.registry.forget c.address e).current? c.address).isSome = false
    rw [current?_forgotten h.secure.current]
    rfl
  · have hsound₁ := hw.perform (h := .step id) hw₁
    exact (hsound₁.perform (h := .step id) hw₂).outside hc₂ rfl

-- ==================================== sessions go back to an answer

/-- A call of the address was granted a session. -/
def Granted (w : BusWorld) (a : Address) (ds : TaskId → List Call.Deed) : Prop :=
  ∃ k c, w.call? k = some c ∧ c.address = a ∧ .asked (.ok ()) ∈ ds k

/-- What there is of sessions at an address, and what was done on them,
goes back to one that was granted. -/
structure Supplied (w : BusWorld) (a : Address) (ds : TaskId → List Call.Deed) : Prop where
  seated : ∀ e s, w.site.registry.current? a = some e → w.site.registry.slot? e = some s →
    w.Granted a ds
  started : ∀ j c, w.call? j = some c → c.address = a → .started ∈ ds j → w.Granted a ds
  unborn : ∀ j, w.task? j = none → ds j = []

theorem Fate.address {c' : Call} (hf : Fate id c w h w') (hc' : w'.call? id = some c') :
    c'.address = c.address := by
  cases hf with
  | steps c₁ hstep hc₁ =>
      cases hc'.symm.trans hc₁
      cases Call.step_follows hstep with
      | call ha hp he => exact ha
  | cancelled hx hc₁ =>
      cases hc'.symm.trans hc₁
      rfl
  | dropped hx hc₁ =>
      cases hc'.symm.trans hc₁
      obtain ⟨address, program, cancelled, entered, replies, stage⟩ := c
      cases stage <;> rfl
  | stays hh hc₁ =>
      cases hc'.symm.trans hc₁
      rfl

/-- A call stays a call. -/
theorem Fate.call (hf : Fate id c w h w') : ∃ c', w'.call? id = some c' := by
  cases hf with
  | steps c' hs hc' => exact ⟨c', hc'⟩
  | cancelled hx hc' => exact ⟨_, hc'⟩
  | dropped hx hc' => exact ⟨_, hc'⟩
  | stays hh hc' => exact ⟨c, hc'⟩

/-- A call keeps its address. -/
theorem Sound.call?_reaches {c' : Call} (hw : w.Sound) (hr : w.Reaches w')
    (hc : w.call? id = some c) (hc' : w'.call? id = some c') : c'.address = c.address := by
  have h : ∃ c₁, w'.call? id = some c₁ ∧ c₁.address = c.address := by
    refine hw.induct (P := fun v => ∃ c₁, v.call? id = some c₁ ∧ c₁.address = c.address) hr
      ⟨c, hc, rfl⟩ ?_
    rintro v h v' hv ⟨c₁, hc₁, ha⟩ hp
    have hf := hv.fate hc₁ hp
    obtain ⟨c₂, hc₂⟩ := hf.call
    exact ⟨c₂, hc₂, (hf.address hc₂).trans ha⟩
  obtain ⟨c₁, hc₁, ha⟩ := h
  cases hc'.symm.trans hc₁
  exact ha

theorem Granted.perform (hg : w.Granted a ds) (hw : w.Sound) (hp : w.perform h = some w') :
    w'.Granted a fun j => ds j ++ w.deedsIn j h w' := by
  obtain ⟨k, c, hc, ha, hmem⟩ := hg
  have hf := hw.fate hc hp
  obtain ⟨c', hc'⟩ := hf.call
  exact ⟨k, c', hc', (hf.address hc').trans ha, List.mem_append_left _ hmem⟩

/-- A session that has just come into a slot was granted to a call of the
address. -/
theorem Sound.granted_now {s : Session} (hw : w.Sound) (hp : w.perform h = some w')
    (hcur : w'.site.registry.current? a = some e) (hold : w.site.registry.slot? e = none)
    (hslot : w'.site.registry.slot? e = some s) :
    w'.Granted a fun j => w.deedsIn j h w' := by
  have hch := hw.perform_change hp
  -- only a call that asks for a session fills a slot
  have hfilled : ∃ j c, w.call? j = some c ∧ Call.admitted c.stage = some e ∧
      h.subject? = some j := by
    cases hch with
    | task j t t' hid ht htasks he hsound hdrains hf =>
        have hadm := he.filled e hold (by rw [hslot]; exact Option.some_ne_none s)
        cases t with
        | call c => exact ⟨j, c, call?_eq_some.mpr ht, hadm, hid⟩
        | _ => cases hadm
    | begun t hf htasks hb hr =>
        rw [hr.slot, hold] at hslot
        cases hslot
    | beside htasks hlinks htrace hr =>
        rw [hr, hold] at hslot
        cases hslot
  obtain ⟨j, c, hc, hadm, hsub⟩ := hfilled
  cases hw.fate hc hp with
  | steps c' hstep hc' =>
      have hsound := hw.tasks j _ (call?_eq_some.mp hc)
      obtain ⟨hfill, hcache, hd⟩ := (Call.step_stride hstep hsound).fills hadm hold hslot
      have hcur₀ : w.site.registry.current? a = some e := by
        unfold Registry.current? at hcur ⊢
        rwa [hcache] at hcur
      have haddr : c.address = a := hw.coherent.inj _ _ e (hw.secure hc hfill).current hcur₀
      refine ⟨j, c', hc', ?_, ?_⟩
      · rw [(hw.fate hc hp).address hc', haddr]
      · show .asked (.ok ()) ∈ w.deedsIn j (.step j) w'
        rw [deedsIn_step hc, hd]
        exact List.mem_singleton.mpr rfl
  | cancelled hx hc' =>
      rw [hx, hold] at hslot
      cases hslot
  | dropped hx hc' =>
      rw [hx, Call.slot?_drop, hold] at hslot
      cases hslot
  | stays hh hc' => exact absurd hsub hh

/-- A call that starts its program had a session before it. -/
theorem Sound.seated_before (hw : w.Sound) (hp : w.perform h = some w')
    (hc' : w'.call? j = some c') (hmem : .started ∈ w.deedsIn j h w') :
    ∃ e s, w.site.registry.current? c'.address = some e ∧ w.site.registry.slot? e = some s := by
  rcases (hw.perform_change hp).came hc' with ⟨hnone, -⟩ | ⟨c, hc⟩
  · rw [deedsIn_of_none hnone] at hmem
    cases hmem
  · have hstep : h = .step j := by
      by_cases hne : h = .step j
      · exact hne
      · rw [deedsIn_of_ne hne] at hmem
        cases hmem
    subst hstep
    rw [deedsIn_step hc] at hmem
    obtain ⟨e, hstage⟩ := Call.stage_of_started hmem
    have hsound := hw.tasks j _ (call?_eq_some.mp hc)
    have haddr := (hw.fate hc hp).address hc'
    obtain ⟨address, program, cancelled, entered, replies, stage⟩ := c
    cases hstage
    obtain ⟨hcur, s, hslot, -⟩ := hsound
    rw [haddr]
    exact ⟨e, s, hcur, hslot⟩

theorem Supplied.perform (hs : w.Supplied a ds) (hw : w.Sound) (hp : w.perform h = some w') :
    w'.Supplied a fun j => ds j ++ w.deedsIn j h w' := by
  have hch := hw.perform_change hp
  have hmono : w.Granted a ds → w'.Granted a fun j => ds j ++ w.deedsIn j h w' :=
    fun hg => hg.perform hw hp
  refine ⟨?_, ?_, ?_⟩
  · intro e s hcur hslot
    cases hold : w.site.registry.slot? e with
    | some s₀ => exact hmono (hs.seated e s₀ (hch.old hcur (Registry.lt_of_slot? hold)) hold)
    | none =>
        obtain ⟨k, c, hc, ha, hmem⟩ := hw.granted_now hp hcur hold hslot
        exact ⟨k, c, hc, ha, List.mem_append_right _ hmem⟩
  · intro j c' hc' ha hmem
    rcases List.mem_append.mp hmem with hmem | hmem
    · rcases hch.came hc' with ⟨hnone, -⟩ | ⟨c, hc⟩
      · rw [hs.unborn j hnone] at hmem
        cases hmem
      · exact hmono (hs.started j c hc (((hw.fate hc hp).address hc').symm.trans ha) hmem)
    · obtain ⟨e, s, hcur, hslot⟩ := hw.seated_before hp hc' hmem
      exact hmono (hs.seated e s (ha ▸ hcur) hslot)
  · intro j hnone
    exact hch.unborn hs.unborn hnone

theorem Supplied.run (hs : w.Supplied a ds) (hw : w.Sound) {hs' : List Happening}
    (hr : w.run hs' = some w') : w'.Supplied a fun j => ds j ++ w.deeds j hs' :=
  hw.deeds_induct (P := fun v ds => v.Supplied a ds) hr hs fun _ _ _ _ hv hs hp => hs.perform hv hp

/-- An address whose current entry holds no session has nothing yet to go
back to. -/
theorem supplied_vacant (hcur : w.site.registry.current? a = some e)
    (hslot : w.site.registry.slot? e = none) : w.Supplied a fun _ => [] where
  seated := by
    intro e' s hcur' hslot'
    rw [hcur] at hcur'
    cases hcur'
    rw [hslot] at hslot'
    cases hslot'
  started := by
    intro j c hc ha hmem
    cases hmem
  unborn := fun _ _ => rfl

end World

end InstrumentBus
