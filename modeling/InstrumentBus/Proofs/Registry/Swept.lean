/-
What a sweep takes out of the cache.

A sweep lists the cached entries when it begins and judges them one by
one, and each entry that leaves the cache it counts. `Sweep.Stride` lists
its steps. While others go on in between, all that can be said of its
list is that an entry on it is current for the address it was listed
under or for none (`World.Listed`), so that an entry is closed only after
it has left the cache.

A sweep that is not interrupted knows more: all that it has still to
judge is in the cache, and what has left the cache has been counted
(`Sweep.Counts`). It comes to its end, since each step leaves less to do
(`Sweep.left`), and then it has counted what is missing.
-/
import InstrumentBus.Proofs.Isolation.Turns
import InstrumentBus.Proofs.Registry.Deeds

namespace InstrumentBus

namespace Sweep

variable {id : TaskId} {s s' : Sweep} {x x' : BusSite}

-- ========================================================= the strides

/-- The steps of a sweep. -/
inductive Stride (id : TaskId) (s : Sweep) (x : BusSite) : Sweep → BusSite → Prop where
  | listed (hs : s.stage = .list) :
      Stride id s x { s with began := x.clock, todo := x.registry.cache, stage := .next } x
  | finished (hs : s.stage = .next) (ht : s.todo = []) : Stride id s x { s with stage := .ended } x
  -- the lock is not free
  | passed (a : Address) (e : EntryId) (rest : List (Address × EntryId)) (hs : s.stage = .next)
      (ht : s.todo = (a, e) :: rest)
      (hl : (x.registry.entryAt? e).bind (·.lock.take? id) = none) :
      Stride id s x { s with todo := rest } x
  | took (a : Address) (e : EntryId) (rest : List (Address × EntryId)) (lock : Lock)
      (hs : s.stage = .next) (ht : s.todo = (a, e) :: rest)
      (hl : (x.registry.entryAt? e).bind (·.lock.take? id) = some lock) :
      Stride id s x { s with todo := rest, stage := .judge a e }
        (x.modifyRegistry (·.modifyLock e fun _ => lock))
  -- the entry has been used lately
  | spared (a : Address) (e : EntryId) (hs : s.stage = .judge a e)
      (hi : (x.registry.idle e s.began).nanos < x.registry.policy.idleThreshold.nanos) :
      Stride id s x { s with stage := .unlock e } x
  | condemned (a : Address) (e : EntryId) (hs : s.stage = .judge a e)
      (hi : ¬ (x.registry.idle e s.began).nanos < x.registry.policy.idleThreshold.nanos) :
      Stride id s x { s with stage := .unlink a e } x
  | unlinked (a : Address) (e : EntryId) (hs : s.stage = .unlink a e) :
      Stride id s x { s with stage := .close e } (x.modifyRegistry (·.forget a e))
  | closed (e : EntryId) (hs : s.stage = .close e) :
      Stride id s x { s with evicted := s.evicted + 1, stage := .unlock e } (x.closeSlot e)
  | unlocked (e : EntryId) (hs : s.stage = .unlock e) :
      Stride id s x { s with stage := .next } (x.modifyRegistry (·.modifyLock e (·.release)))

theorem step_stride (h : s.step id x = some (s', x')) : s.Stride id x s' x' := by
  obtain ⟨began, todo, evicted, stage⟩ := s
  cases stage with
  | list =>
      cases h
      exact .listed rfl
  | next =>
      cases todo with
      | nil =>
          cases h
          exact .finished rfl rfl
      | cons p rest =>
          obtain ⟨a, e⟩ := p
          simp only [step] at h
          split at h
          next lock hl =>
            cases h
            exact .took a e rest lock rfl rfl hl
          next hl =>
            cases h
            exact .passed a e rest rfl rfl hl
  | judge a e =>
      simp only [step] at h
      split at h
      next hi =>
        cases h
        exact .spared a e rfl hi
      next hi =>
        cases h
        exact .condemned a e rfl hi
  | unlink a e =>
      cases h
      exact .unlinked a e rfl
  | close e =>
      cases h
      exact .closed e rfl
  | unlock e =>
      cases h
      exact .unlocked e rfl
  | ended => cases h

-- ======================================================= what is listed

/-- The entry that a sweep is about to judge or to take out of the cache,
with the address it was listed under. -/
def judged : SweepStage → Option (Address × EntryId)
  | .judge a e | .unlink a e => some (a, e)
  | _ => none

/-- An entry is current for an address, or for none. -/
def Under (r : Registry) (p : Address × EntryId) : Prop :=
  p.2 < r.entries.length ∧ ∀ b, r.current? b = some p.2 → b = p.1

/-- The entries a sweep has listed are current for the addresses it has
listed them under, if they still are; and the one it is about to close is
not current any more. -/
structure Homed (s : Sweep) (r : Registry) : Prop where
  todo : ∀ p ∈ s.todo, Under r p
  judged : ∀ p, judged s.stage = some p → Under r p
  closing : ∀ e, closing s.stage = some e → e < r.entries.length ∧ ∀ b, r.current? b ≠ some e

/-- Nothing that was there becomes current for another address. -/
def Older (r r' : Registry) : Prop :=
  r.entries.length ≤ r'.entries.length ∧
    ∀ b e, r'.current? b = some e → e < r.entries.length → r.current? b = some e

theorem Under.older {r r' : Registry} {p : Address × EntryId} (h : Under r p)
    (ho : Older r r') : Under r' p :=
  ⟨Nat.lt_of_lt_of_le h.1 ho.1, fun b hb => h.2 b (ho.2 b p.2 hb h.1)⟩

theorem Homed.older {r r' : Registry} (h : s.Homed r) (ho : Older r r') : s.Homed r' where
  todo := fun p hp => (h.todo p hp).older ho
  judged := fun p hp => (h.judged p hp).older ho
  closing := by
    intro e he
    obtain ⟨hlt, hno⟩ := h.closing e he
    refine ⟨Nat.lt_of_lt_of_le hlt ho.1, ?_⟩
    intro b hb
    exact hno b (ho.2 b e hb hlt)

/-- A sweep that has no entry in hand need only look after its list. -/
theorem Homed.idle {r : Registry} (htodo : ∀ p ∈ s.todo, Under r p)
    (hjudged : Sweep.judged s.stage = none) (hclosing : Sweep.closing s.stage = none) :
    s.Homed r where
  todo := htodo
  judged := by
    intro p hp
    rw [hjudged] at hp
    cases hp
  closing := by
    intro e he
    rw [hclosing] at he
    cases he

theorem Homed.fresh (began : Instant) (evicted : Nat) (r : Registry) :
    Homed ⟨began, [], evicted, .list⟩ r :=
  .idle (fun _ hp => absurd hp List.not_mem_nil) rfl rfl

/-- A sweep keeps its list in order. -/
theorem Stride.homed (h : s.Stride id x s' x') (hs : s.Homed x.registry)
    (hc : x.registry.Coherent) (ho : Older x.registry x'.registry) : s'.Homed x'.registry := by
  have hlast : ∀ p ∈ s.todo, Under x'.registry p := fun p hp => (hs.todo p hp).older ho
  cases h with
  | listed hstage =>
      refine .idle ?_ rfl rfl
      intro p hp
      have hcur := hc.listed p hp
      exact ⟨hc.lt _ _ hcur, fun b hb => hc.inj _ _ _ hb hcur⟩
  | finished hstage ht => exact .idle hlast rfl rfl
  | passed a e rest hstage ht hl =>
      refine ⟨?_, fun p hp => hs.judged p hp, fun e he => hs.closing e he⟩
      intro p hp
      exact hs.todo p (ht ▸ List.mem_cons_of_mem _ hp)
  | took a e rest lock hstage ht hl =>
      refine ⟨?_, ?_, ?_⟩
      · intro p hp
        exact hlast p (ht ▸ List.mem_cons_of_mem _ hp)
      · intro p hp
        cases hp
        exact hlast (a, e) (ht ▸ List.mem_cons_self)
      · intro e' he'
        cases he'
  | spared a e hstage hi => exact .idle hlast rfl rfl
  | condemned a e hstage hi =>
      refine ⟨hlast, ?_, ?_⟩
      · intro p hp
        cases hp
        exact hs.judged (a, e) (by rw [hstage]; rfl)
      · intro e' he'
        cases he'
  | unlinked a e hstage =>
      obtain ⟨hlt, hunder⟩ := hs.judged (a, e) (by rw [hstage]; rfl)
      refine ⟨hlast, ?_, ?_⟩
      · intro p hp
        cases hp
      intro e' he'
      cases he'
      refine ⟨by simpa [Site.modifyRegistry] using hlt, ?_⟩
      intro b hb
      change (x.registry.forget a e).current? b = some e at hb
      rw [Registry.current?_forget] at hb
      split at hb
      · cases hb
      next hne =>
        cases hunder b hb
        exact hne ⟨rfl, hb⟩
  | closed e hstage => exact .idle hlast rfl rfl
  | unlocked e hstage => exact .idle hlast rfl rfl

end Sweep

namespace World

variable {w w' v : BusWorld} {id : TaskId} {t : Task} {s s' : Sweep}

/-- The sweep of a name. -/
def sweep? (w : BusWorld) (id : TaskId) : Option Sweep :=
  match w.task? id with
  | some (.sweep s) => some s
  | _ => none

theorem sweep?_eq_some : w.sweep? id = some s ↔ w.task? id = some (.sweep s) := by
  unfold sweep?
  cases w.task? id with
  | none => simp
  | some t => cases t <;> simp

/-- The sweeps under way have their lists in order. -/
def Listed (w : BusWorld) : Prop :=
  ∀ id t s, w.task? id = some t → t.Sweeps s → s.Homed w.site.registry

theorem Change.older {who : Option TaskId} (hc : Change who w w') :
    Sweep.Older w.site.registry w'.site.registry := by
  refine ⟨?_, fun b e hcur he => hc.old hcur he⟩
  cases hc with
  | task j t t' hid ht hw he hs hp hf => exact he.cache.length_le
  | begun t hf hw hb hr => exact Nat.le_of_eq hr.length.symm
  | beside hw hl htrace hr => exact Nat.le_of_eq (by rw [hr])

end World

/-- A ticker does to the site what its sweep does, or nothing. -/
theorem Ticker.step_cases {id : TaskId} {k k' : TickerStage} {x x' : BusSite}
    (h : Ticker.step id k x = some (k', x')) :
    x' = x ∨ ∃ s s' mark, k = .sweeping s mark ∧ s.Stride id x s' x' := by
  cases k with
  | fresh =>
      cases h
      exact .inl rfl
  | sleeping wake =>
      simp only [Ticker.step] at h
      split at h
      · cases h
        exact .inl rfl
      · split at h
        · cases h
          exact .inl rfl
        · cases h
  | sweeping s mark =>
      simp only [Ticker.step] at h
      split at h
      next s' x₁ hs =>
        cases h
        exact .inr ⟨s, s', mark, rfl, Sweep.step_stride hs⟩
      · cases h
        exact .inl rfl
  | ended => cases h

/-- A step of a task that sweeps: it begins, it is a step of the sweep, or
the sweep is over. -/
theorem Task.Sweeps.of_step {id : TaskId} {t t' : Task} {x x' : BusSite} {s' : Sweep}
    (hs' : t'.Sweeps s') (h : t.step id x = some (t', x')) :
    (s' = .new ∧ x' = x) ∨ ∃ s, t.Sweeps s ∧ s.step id x = some (s', x') := by
  cases t with
  | call c =>
      obtain ⟨p, -, heq⟩ := Option.map_eq_some_iff.mp h
      cases heq
      cases hs'
  | disposal d =>
      obtain ⟨p, -, heq⟩ := Option.map_eq_some_iff.mp h
      cases heq
      cases hs'
  | sweep s =>
      obtain ⟨p, hstep, heq⟩ := Option.map_eq_some_iff.mp h
      cases heq
      cases hs'
      exact .inr ⟨s, .own s, hstep⟩
  | ticker k =>
      obtain ⟨p, hstep, heq⟩ := Option.map_eq_some_iff.mp h
      cases heq
      obtain ⟨k', x'⟩ := p
      cases hs' with
      | ticking _ mark =>
          cases k with
          | fresh => cases hstep
          | sleeping wake =>
              simp only [Ticker.step] at hstep
              split at hstep
              · cases hstep
              · split at hstep
                · cases hstep
                  exact .inl ⟨rfl, rfl⟩
                · cases hstep
          | sweeping s mark =>
              simp only [Ticker.step] at hstep
              split at hstep
              next s₁ x₁ hs₁ =>
                cases hstep
                exact .inr ⟨s, .ticking s mark, hs₁⟩
              next => cases hstep
          | ended => cases hstep

/-- To cancel or drop a task that sweeps does nothing. -/
theorem Task.Sweeps.of_cancel {t : Task} {s : Sweep} (h : t.cancel.Sweeps s) : t.Sweeps s := by
  cases t with
  | call c => cases h
  | _ => exact h

theorem Task.Sweeps.of_drop {id : TaskId} {t : Task} {x : BusSite} {s : Sweep}
    (h : (t.drop id x).1.Sweeps s) : t.Sweeps s := by
  cases t with
  | call c => cases h
  | sweep s₁ => exact h
  | disposal d => cases d <;> cases h
  | ticker k =>
      cases k with
      | sweeping s₁ mark => exact h
      | _ => cases h

namespace World

variable {w w' v : BusWorld} {id : TaskId} {t : Task} {s s' : Sweep}

/-- A task that was not there before has just begun. -/
theorem Change.appears {who : Option TaskId} (hc : Change who w w') (hnone : w.task? id = none)
    (ht : w'.task? id = some t) : t.Fresh := by
  cases hc with
  | task j u u' hid hu hw he hs hp hf =>
      rw [hw] at ht
      split at ht
      next hj =>
        subst hj
        rw [hnone] at hu
        cases hu
      next =>
        rw [hnone] at ht
        cases ht
  | begun u hf hw hb hr =>
      rw [hw] at ht
      split at ht
      · cases ht
        exact hf
      · rw [hnone] at ht
        cases ht
  | beside hw hl htrace hr =>
      rw [hw, hnone] at ht
      cases ht

/-- A sweep that has not taken a step has just begun or stands where it
stood. -/
theorem Sound.sweeps_still {h : Happening} (hw : w.Sound) (hp : w.perform h = some w')
    (hne : h ≠ .step id) (ht : w'.task? id = some t) (hs : t.Sweeps s) :
    s = .new ∨ ∃ t₀, w.task? id = some t₀ ∧ t₀.Sweeps s := by
  have hch := hw.perform_change hp
  cases hold : w.task? id with
  | none =>
      left
      have hfresh := hch.appears hold ht
      cases hfresh with
      | sweep => cases hs; rfl
      | _ => cases hs
  | some t₀ =>
      refine .inr ⟨t₀, rfl, ?_⟩
      by_cases hsub : h.subject? = some id
      · cases h with
        | step j =>
            cases hsub
            exact absurd rfl hne
        | cancel j =>
            cases hsub
            cases hp
            rw [task?_cancel, if_pos rfl, hold] at ht
            cases ht
            exact hs.of_cancel
        | drop j =>
            cases hsub
            cases hp
            rw [drop_of_some hold, task?_set hold, if_pos rfl] at ht
            cases ht
            exact hs.of_drop
        | _ => cases hsub
      · rw [hch.untouched hsub hold] at ht
        cases ht
        exact hs

theorem Listed.perform {h : Happening} (hl : w.Listed) (hw : w.Sound)
    (hp : w.perform h = some w') : w'.Listed := by
  have holder := (hw.perform_change hp).older
  intro id t' s' ht' hs'
  by_cases hstep : h = .step id
  · subst hstep
    obtain ⟨t, t₁, x', ht, hstep, rfl⟩ := step?_eq_some hp
    rw [task?_set ht, if_pos rfl] at ht'
    cases ht'
    rcases hs'.of_step hstep with ⟨rfl, -⟩ | ⟨s, hs, hsweep⟩
    · exact .fresh _ _ _
    · exact (Sweep.step_stride hsweep).homed (hl id t s ht hs) hw.coherent holder
  · rcases hw.sweeps_still hp hstep ht' hs' with rfl | ⟨t, ht, hs⟩
    · exact .fresh _ _ _
    · exact (hl id t s' ht hs).older holder

theorem listed_unused (b : Simulated) (options : SessionOptions) (policy : SweepPolicy) :
    (World.unused b options policy).Listed := fun _ _ _ ht => nomatch ht

-- ==================================================== no address twice

/-- No address is in the cache twice. -/
def Distinct (w : BusWorld) : Prop := (Keyed.keys w.site.registry.cache).Nodup

theorem Distinct.change {who : Option TaskId} (hd : w.Distinct) (hw : w.Sound)
    (hc : Change who w w') : w'.Distinct := by
  unfold Distinct at hd ⊢
  cases hc with
  | task j t t' hid ht htasks he hs hp hf =>
      cases he.cache with
      | same hcache hlen => rwa [hcache]
      | made a hnone hcache hlen =>
          rw [hcache, Keyed.set_of_get?_eq_none hnone]
          unfold Keyed.keys
          rw [List.map_append]
          refine List.nodup_append.mpr ⟨hd, by simp, ?_⟩
          intro b hb b' hb' heq
          obtain ⟨p, hp, rfl⟩ := List.mem_map.mp hb
          have hcur := hw.coherent.listed p hp
          rw [heq, List.mem_singleton.mp hb'] at hcur
          rw [show w.site.registry.current? a = none from hnone] at hcur
          cases hcur
      | forgot a e hh hs' hcache hlen =>
          rw [hcache]
          unfold Registry.forget
          split
          · exact hd.sublist (List.filter_sublist.map _)
          · exact hd
      | cleared htask hcache hlen =>
          rw [hcache]
          exact .nil
  | begun t hf htasks hb hr => rwa [hr.cache]
  | beside htasks hl htrace hr => rwa [hr]

theorem distinct_unused (b : Simulated) (options : SessionOptions) (policy : SweepPolicy) :
    (World.unused b options policy).Distinct := .nil

end World

/-- A key that is there once leaves one pair less. -/
theorem Keyed.length_erase {κ ν : Type} [DecidableEq κ] {l : List (κ × ν)} {p : κ × ν}
    (hd : (Keyed.keys l).Nodup) (hp : p ∈ l) : (Keyed.erase l p.1).length + 1 = l.length := by
  induction l with
  | nil => cases hp
  | cons q rest ih =>
      obtain ⟨hnot, hrest⟩ := List.nodup_cons.mp hd
      have hkeep : ∀ r ∈ rest, r.1 ≠ q.1 := by
        intro r hr heq
        exact hnot (List.mem_map.mpr ⟨r, hr, heq⟩)
      unfold Keyed.erase
      by_cases hq : q.1 = p.1
      · rw [List.filter_cons_of_neg (by simp [hq]), List.filter_eq_self.mpr]
        · rfl
        · intro r hr
          exact decide_eq_true (hq ▸ hkeep r hr)
      · rw [List.filter_cons_of_pos (by simp [hq])]
        have hmem : p ∈ rest := by
          rcases List.mem_cons.mp hp with heq | hmem
          · exact absurd (congrArg Prod.fst heq).symm hq
          · exact hmem
        have := ih hrest hmem
        unfold Keyed.erase at this
        simp only [List.length_cons]
        omega

namespace Sweep

variable {id : TaskId} {s s' : Sweep} {x x' : BusSite} {r₀ : Registry}

-- ================================================ a sweep left to itself

/-- What a sweep has achieved that began when the registry was `r₀` and
was not interrupted. -/
structure Counts (r₀ r : Registry) (s : Sweep) : Prop where
  -- what has left the cache has been counted, or is about to be
  count : r.cache.length + s.evicted + (closing s.stage).toList.length = r₀.cache.length
  remains : r.cache.Sublist r₀.cache
  -- what is still to be judged is in the cache, once each
  todo : ∀ p ∈ s.todo, p ∈ r.cache
  once : (Keyed.keys s.todo).Nodup
  judged : ∀ p, judged s.stage = some p → p ∈ r.cache ∧ p.1 ∉ Keyed.keys s.todo
  -- what is left in the cache was not touched, and what has left it has
  -- been closed, or is about to be
  kept : ∀ p ∈ r.cache, r.slot? p.2 = r₀.slot? p.2
  gone : ∀ p ∈ r₀.cache, p ∈ r.cache ∨ r.slot? p.2 = none ∨ closing s.stage = some p.2

theorem Counts.new (r₀ : Registry) : Counts r₀ r₀ .new where
  count := rfl
  remains := List.Sublist.refl _
  todo := nofun
  once := .nil
  judged := nofun
  kept := fun _ _ => rfl
  gone := fun _ hp => .inl hp

/-- Where cache and slots stay as they are, the tally stays right. -/
theorem Counts.still {r r' : Registry} (h : Counts r₀ r s) (hcache : r'.cache = r.cache)
    (hslots : ∀ e, r'.slot? e = r.slot? e) (hevicted : s'.evicted = s.evicted)
    (hclosing : closing s.stage = none) (hclosing' : closing s'.stage = none)
    (htodo : ∀ p ∈ s'.todo, p ∈ r.cache) (honce : (Keyed.keys s'.todo).Nodup)
    (hjudged : ∀ p, Sweep.judged s'.stage = some p → p ∈ r.cache ∧ p.1 ∉ Keyed.keys s'.todo) :
    Counts r₀ r' s' where
  count := by
    have := h.count
    rw [hclosing] at this
    rw [hcache, hevicted, hclosing']
    exact this
  remains := hcache ▸ h.remains
  todo := hcache ▸ htodo
  once := honce
  judged := hcache ▸ hjudged
  kept := by
    intro p hp
    rw [hslots]
    exact h.kept p (hcache ▸ hp)
  gone := by
    intro p hp
    rw [hcache, hslots, hclosing']
    exact (h.gone p hp).imp_right fun h => .inl (h.resolve_right (by rw [hclosing]; nofun))

/-- An entry taken out of the cache is about to be closed and counted. -/
theorem Counts.unlinked {r : Registry} {a : Address} {e : EntryId} (hs : Counts r₀ r s)
    (hstage : s.stage = .unlink a e) (hc : r.Coherent) (hd : (Keyed.keys r.cache).Nodup) :
    Counts r₀ (r.forget a e) { s with stage := .close e } := by
  obtain ⟨hmem, hnot⟩ := hs.judged (a, e) (by rw [hstage]; rfl)
  have hcur : r.isCurrent a e = true := Registry.isCurrent_iff.mpr (hc.listed (a, e) hmem)
  have hcache : (r.forget a e).cache = Keyed.erase r.cache a := by
    unfold Registry.forget
    rw [if_pos hcur]
  have hclosing : closing s.stage = none := by
    rw [hstage]
    rfl
  refine ⟨?_, ?_, ?_, hs.once, nofun, ?_, ?_⟩
  · show (r.forget a e).cache.length + s.evicted + 1 = r₀.cache.length
    have hcount := hs.count
    have hlength : (Keyed.erase r.cache a).length + 1 = r.cache.length :=
      Keyed.length_erase hd hmem
    rw [hclosing] at hcount
    rw [hcache]
    simp only [Option.toList_none, List.length_nil] at hcount
    omega
  · rw [hcache]
    exact List.filter_sublist.trans hs.remains
  · intro p hp
    rw [hcache]
    refine List.mem_filter.mpr ⟨hs.todo p hp, decide_eq_true ?_⟩
    intro hpa
    exact hnot (hpa ▸ List.mem_map_of_mem (f := (·.1)) hp)
  · intro p hp
    exact (Registry.slot?_forget _ _ _ _).trans (hs.kept p (Registry.mem_forget hp).1)
  · intro p hp
    rw [hcache, Registry.slot?_forget]
    rcases hs.gone p hp with hin | hvacant | hclosing'
    · by_cases hpa : p.1 = a
      · have hp2 := (hc.listed p hin).symm.trans (hpa ▸ hc.listed (a, e) hmem)
        exact .inr (.inr hp2.symm)
      · exact .inl (List.mem_filter.mpr ⟨hin, decide_eq_true hpa⟩)
    · exact .inr (.inl hvacant)
    · rw [hclosing] at hclosing'
      cases hclosing'

/-- An entry closed is an entry counted. -/
theorem Counts.closed {e : EntryId} (hs : Counts r₀ x.registry s) (hstage : s.stage = .close e)
    (hc : x.registry.Coherent) (hno : ∀ a, x.registry.current? a ≠ some e) :
    Counts r₀ (x.closeSlot e).registry
      { s with evicted := s.evicted + 1, stage := .unlock e } := by
  obtain ⟨hcache, -⟩ := Site.closeSlot_frame x e
  refine ⟨?_, hcache ▸ hs.remains, hcache ▸ hs.todo, hs.once, nofun, ?_, ?_⟩
  · rw [hcache]
    show x.registry.cache.length + (s.evicted + 1) + 0 = r₀.cache.length
    have hcount := hs.count
    rw [hstage] at hcount
    simp only [closing, Option.toList_some, List.length_singleton] at hcount
    omega
  · intro p hp
    rw [hcache] at hp
    have hne : p.2 ≠ e := by
      intro he
      exact hno p.1 (he ▸ hc.listed p hp)
    rw [Site.slot?_closeSlot_ne x hne]
    exact hs.kept p hp
  · intro p hp
    rw [hcache]
    rcases hs.gone p hp with hin | hvacant | hclosing
    · exact .inl hin
    · refine .inr (.inl ?_)
      by_cases he : p.2 = e
      · rw [he]
        exact Site.slot?_closeSlot x e
      · exact (Site.slot?_closeSlot_ne x he).trans hvacant
    · rw [hstage] at hclosing
      cases hclosing
      exact .inr (.inl (Site.slot?_closeSlot x _))

/-- A sweep keeps the tally. -/
theorem Stride.counts (h : s.Stride id x s' x') (hs : Counts r₀ x.registry s)
    (hc : x.registry.Coherent) (hd : (Keyed.keys x.registry.cache).Nodup)
    (hh : s.Homed x.registry) : Counts r₀ x'.registry s' := by
  have hnone : ∀ {stage}, s.stage = stage → closing stage = none → closing s.stage = none :=
    fun h hn => h ▸ hn
  cases h with
  | listed hstage =>
      exact hs.still rfl (fun _ => rfl) rfl (hnone hstage rfl) rfl (fun _ hp => hp) hd nofun
  | finished hstage ht =>
      exact hs.still rfl (fun _ => rfl) rfl (hnone hstage rfl) rfl hs.todo hs.once nofun
  | passed a e rest hstage ht hl =>
      have honce := hs.once
      rw [ht] at honce
      refine hs.still rfl (fun _ => rfl) rfl (hnone hstage rfl) (hnone hstage rfl) ?_
        (List.nodup_cons.mp honce).2 (by rw [hstage]; nofun)
      intro p hp
      exact hs.todo p (ht ▸ List.mem_cons_of_mem _ hp)
  | took a e rest lock hstage ht hl =>
      have honce := hs.once
      rw [ht] at honce
      obtain ⟨hnot, hrest⟩ := List.nodup_cons.mp honce
      refine hs.still rfl (fun _ => Registry.slot?_modifyLock _ _ _ _) rfl (hnone hstage rfl) rfl
        ?_ hrest ?_
      · intro p hp
        exact hs.todo p (ht ▸ List.mem_cons_of_mem _ hp)
      · intro p hp
        cases hp
        exact ⟨hs.todo (a, e) (ht ▸ List.mem_cons_self), hnot⟩
  | spared a e hstage hi =>
      exact hs.still rfl (fun _ => rfl) rfl (hnone hstage rfl) rfl hs.todo hs.once nofun
  | condemned a e hstage hi =>
      refine hs.still rfl (fun _ => rfl) rfl (hnone hstage rfl) rfl hs.todo hs.once ?_
      intro p hp
      cases hp
      exact hs.judged (a, e) (by rw [hstage]; rfl)
  | unlinked a e hstage => exact hs.unlinked hstage hc hd
  | closed e hstage => exact hs.closed hstage hc (hh.closing e (by rw [hstage]; rfl)).2
  | unlocked e hstage =>
      exact hs.still rfl (fun _ => Registry.slot?_modifyLock _ _ _ _) rfl (hnone hstage rfl) rfl
        hs.todo hs.once nofun

/-- How much a sweep has left to do once it has listed the entries. -/
def left (s : Sweep) : Nat :=
  6 * s.todo.length +
    match s.stage with
    | .list | .ended => 0
    | .next => 1
    | .unlock _ => 2
    | .close _ => 3
    | .unlink _ _ => 4
    | .judge _ _ => 5

/-- Each step leaves less to do, except that the first one lists it. -/
theorem Stride.left_lt (h : s.Stride id x s' x') : s.stage = .list ∨ s'.left < s.left := by
  unfold left
  cases h with
  | listed hstage => exact .inl hstage
  | finished hstage ht => exact .inr (by rw [hstage]; simp)
  | passed a e rest hstage ht hl =>
      rw [hstage, ht]
      exact .inr (by simp)
  | took a e rest lock hstage ht hl =>
      rw [hstage, ht]
      exact .inr (by simp only [List.length_cons]; omega)
  | spared a e hstage hi => exact .inr (by rw [hstage]; simp)
  | condemned a e hstage hi => exact .inr (by rw [hstage]; simp)
  | unlinked a e hstage => exact .inr (by rw [hstage]; simp)
  | closed e hstage => exact .inr (by rw [hstage]; simp)
  | unlocked e hstage => exact .inr (by rw [hstage]; simp)

theorem Stride.not_list (h : s.Stride id x s' x') : s'.stage ≠ .list := by
  cases h with
  | passed a e rest hstage ht hl =>
      rw [hstage]
      exact SweepStage.noConfusion
  | _ => exact SweepStage.noConfusion

end Sweep

namespace World

variable {w w' v : BusWorld} {id : TaskId} {s s' : Sweep}

/-- What holds of every sweep, whoever goes on in between. -/
structure Orderly (w : BusWorld) : Prop where
  sound : w.Sound
  listed : w.Listed
  distinct : w.Distinct

theorem Orderly.perform {h : Happening} (ho : w.Orderly) (hp : w.perform h = some w') :
    w'.Orderly :=
  ⟨ho.sound.perform hp, ho.listed.perform ho.sound hp,
    ho.distinct.change ho.sound (ho.sound.perform_change hp)⟩

theorem Orderly.reaches (ho : w.Orderly) (hr : w.Reaches w') : w'.Orderly :=
  hr.induct ho fun _ _ _ ho hp => ho.perform hp

theorem orderly_unused {b : Simulated} (hb : 0 ≤ b.nextDescriptor) (options : SessionOptions)
    (policy : SweepPolicy) : (World.unused b options policy).Orderly :=
  ⟨sound_unused hb options policy, listed_unused b options policy, distinct_unused b options policy⟩

/-- A step of a sweep that goes on by itself. -/
theorem step?_sweep (ht : w.task? id = some (.sweep s)) :
    w.step? id = (s.step id w.site).map fun p => ⟨p.2, w.tasks.set id (.sweep p.1)⟩ := by
  unfold step?
  rw [ht]
  show Option.map _ (Option.map _ (s.step id w.site)) = _
  rw [Option.map_map]
  rfl

theorem step?_sweep_eq_some (ht : w.task? id = some (.sweep s)) (h : w.step? id = some w') :
    ∃ s', s.step id w.site = some (s', w'.site) ∧ w'.task? id = some (.sweep s') := by
  rw [step?_sweep ht] at h
  obtain ⟨⟨s', x'⟩, hstep, heq⟩ := Option.map_eq_some_iff.mp h
  cases heq
  exact ⟨s', hstep, task?_set_self ht _ _⟩

/-- A sweep that is not interrupted keeps its tally. -/
theorem Orderly.tally {r₀ : Registry} (ho : w.Orderly) (ht : w.task? id = some (.sweep s))
    (hc : Sweep.Counts r₀ w.site.registry s) {n : Nat}
    (hr : w.run (List.replicate n (.step id)) = some v) :
    ∃ s', v.task? id = some (.sweep s') ∧ Sweep.Counts r₀ v.site.registry s' ∧
      (0 < n → s'.stage ≠ .list) := by
  induction n generalizing w s with
  | zero =>
      cases hr
      exact ⟨s, ht, hc, nofun⟩
  | succ n ih =>
      obtain ⟨w₁, hp, hrest⟩ := Option.bind_eq_some_iff.mp hr
      obtain ⟨s₁, hstep, ht₁⟩ := step?_sweep_eq_some ht hp
      have hst := Sweep.step_stride hstep
      have hc₁ := hst.counts hc ho.sound.coherent ho.distinct (ho.listed id _ s ht (.own s))
      obtain ⟨s', ht', hc', hstage⟩ := ih (ho.perform hp) ht₁ hc₁ hrest
      refine ⟨s', ht', hc', ?_⟩
      intro _
      cases n with
      | zero =>
          cases hrest
          cases ht₁.symm.trans ht'
          exact hst.not_list
      | succ n => exact hstage (Nat.succ_pos n)

/-- A sweep comes to its end. -/
theorem sweep_ends (n : Nat) (ht : w.task? id = some (.sweep s)) (hs : s.stage ≠ .list)
    (hn : s.left ≤ n) :
    ∃ k v s', w.run (List.replicate k (.step id)) = some v ∧ v.task? id = some (.sweep s') ∧
      s'.stage = .ended := by
  induction n generalizing w s with
  | zero =>
      refine ⟨0, w, s, rfl, ht, ?_⟩
      obtain ⟨began, todo, evicted, stage⟩ := s
      unfold Sweep.left at hn
      cases stage <;> simp_all
  | succ n ih =>
      cases hstep : s.step id w.site with
      | none => exact ⟨0, w, s, rfl, ht, Sweep.step_eq_none hstep⟩
      | some p =>
          have hst : s.Stride id w.site p.1 p.2 := Sweep.step_stride hstep
          have hp : w.step? id = some ⟨p.2, w.tasks.set id (.sweep p.1)⟩ := by
            rw [step?_sweep ht, hstep]
            rfl
          have ht₁ : task? ⟨p.2, w.tasks.set id (.sweep p.1)⟩ id = some (.sweep p.1) :=
            task?_set_self ht _ _
          have hleft := hst.left_lt.resolve_left hs
          obtain ⟨k, v, s', hrun, hrest⟩ := ih ht₁ hst.not_list (by omega)
          refine ⟨k + 1, v, s', ?_, hrest⟩
          exact Option.bind_eq_some_iff.mpr ⟨_, hp, hrun⟩

/-- A sweep that has just begun and is not interrupted comes to its end,
and then it has counted what has left the cache. -/
theorem Orderly.sweep_turn (ho : w.Orderly) (ht : w.task? id = some (.sweep .new)) :
    (∃ w', w.Turn id w') ∧ ∀ w', w.Turn id w' → ∃ s, w'.task? id = some (.sweep s) ∧
      s.stage = .ended ∧ Sweep.Counts w.site.registry w'.site.registry s := by
  refine ⟨?_, ?_⟩
  · have hstep : w.step? id = some ⟨w.site, w.tasks.set id (.sweep ⟨w.site.clock,
        w.site.registry.cache, 0, .next⟩)⟩ := by
      rw [step?_sweep ht]
      rfl
    obtain ⟨s₁, hstep₁, ht₁⟩ := step?_sweep_eq_some ht hstep
    have hst := Sweep.step_stride hstep₁
    obtain ⟨k, v, s', hrun, ht', hended⟩ := sweep_ends _ ht₁ hst.not_list (Nat.le_refl _)
    refine ⟨v, ?_, ?_, k, Option.bind_eq_some_iff.mpr ⟨_, hstep, hrun⟩⟩
    · intro t h
      cases ht.symm.trans h
      rfl
    · intro t h
      cases ht'.symm.trans h
      obtain ⟨began, todo, evicted, stage⟩ := s'
      cases hended
      rfl
  · intro w' hturn
    obtain ⟨-, hrest, n, hrun⟩ := hturn
    obtain ⟨s, ht', hc, hstage⟩ := ho.tally ht (.new _) hrun
    refine ⟨s, ht', ?_, hc⟩
    have hat := hrest _ ht'
    have hnot := hstage (Nat.succ_pos n)
    obtain ⟨began, todo, evicted, stage⟩ := s
    cases stage <;> first | rfl | exact absurd rfl hnot | cases hat

end World

end InstrumentBus
