/-
Two worlds that differ in when an entry was last used.

Let a call be over on both sides, perhaps told something else, and let an
entry have been used last at one instant on one side and at a later one
on the other (`World.Shifted`). Whatever happens then happens on both
sides and leaves them so, or brings them together again, once a call has
used the entry on both (`World.Shifted.perform`). There is one exception,
and it is exact: a sweep that was begun when the entry had been idle for
the threshold going by the earlier instant, and had not been going by the
later (`World.Tells`). There the two part, for the sweep condemns the
entry on one side and spares it on the other (`World.Shifted.parts`).
-/
import InstrumentBus.Proofs.Registry.LastUse

namespace InstrumentBus

-- ======================================================== the clock

section

variable {x x' : BusSite} {id : TaskId}

theorem Site.clock_closeSlot (x : BusSite) (e : EntryId) : (x.closeSlot e).clock = x.clock := by
  unfold Site.closeSlot
  split <;> rfl

theorem Site.clock_discard (x : BusSite) : x.discard.clock = x.clock := by
  have hfold : ∀ (l : List (Address × EntryId)) (x : BusSite),
      (l.foldl (fun x p => x.closeSlot p.2) x).clock = x.clock := by
    intro l
    induction l with
    | nil => exact fun _ => rfl
    | cons p rest ih => exact fun x => (ih _).trans (Site.clock_closeSlot x p.2)
  exact hfold _ x

theorem Call.clock_act (c : Call) (e : EntryId) (s : Session) (x : BusSite)
    (run : StateM (Line (Recorded Simulated)) Advance) : (c.act e s x run).2.clock = x.clock := by
  obtain ⟨r, hx, -⟩ := act_site c e s x run
  rw [hx]

theorem Call.Stride.clock {c c' : Call} (h : c.Stride id x c' x') : x'.clock = x.clock := by
  cases h with
  | started e s hs hslot => exact clock_act _ _ _ _ _
  | resumed e pending rest s hs hdue hslot => exact clock_act _ _ _ _ _
  | vacated e f hs => exact Site.clock_closeSlot x e
  | _ => rfl

theorem Sweep.Stride.clock {s s' : Sweep} (h : s.Stride id x s' x') : x'.clock = x.clock := by
  cases h with
  | closed e hs => exact Site.clock_closeSlot x e
  | _ => rfl

theorem Disposal.clock_step {d d' : Disposal} (h : d.step id x = some (d', x')) :
    x'.clock = x.clock := by
  cases d with
  | mark =>
      simp only [step] at h
      split at h <;> cases h <;> rfl
  | next todo => cases todo <;> cases h <;> rfl
  | queued e todo =>
      simp only [step] at h
      split at h <;> cases h
      rfl
  | close e todo =>
      cases h
      exact Site.clock_closeSlot x e
  | clear =>
      cases h
      exact Site.clock_discard x
  | _ => cases h <;> rfl

/-- Steps take no time. -/
theorem Task.clock_step {t t' : Task} (h : t.step id x = some (t', x'))
    (hsound : t.Sound x.registry) : x'.clock = x.clock := by
  cases t with
  | call c =>
      obtain ⟨p, hp, heq⟩ := Option.map_eq_some_iff.mp h
      cases heq
      exact (Call.step_stride hp hsound).clock
  | sweep s =>
      obtain ⟨p, hp, heq⟩ := Option.map_eq_some_iff.mp h
      cases heq
      exact (Sweep.step_stride hp).clock
  | disposal d =>
      obtain ⟨p, hp, heq⟩ := Option.map_eq_some_iff.mp h
      cases heq
      exact Disposal.clock_step hp
  | ticker k =>
      obtain ⟨p, hp, heq⟩ := Option.map_eq_some_iff.mp h
      cases heq
      have hcases : p.2 = x ∨ ∃ s s' mark, k = .sweeping s mark ∧ s.Stride id x s' p.2 :=
        Ticker.step_cases hp
      rcases hcases with hx | ⟨s, s', mark, -, hst⟩
      · exact congrArg Site.clock hx
      · exact hst.clock

theorem Task.clock_drop (id : TaskId) (t : Task) (x : BusSite) :
    (t.drop id x).2.clock = x.clock := by
  cases t with
  | call c =>
      obtain ⟨address, program, cancelled, entered, replies, stage⟩ := c
      cases stage <;> rfl
  | sweep s => rfl
  | disposal d => cases d <;> rfl
  | ticker k => cases k <;> rfl

end

namespace World

variable {w w' v v' u u' : BusWorld} {id : TaskId} {e : EntryId} {i j : Instant} {h : Happening}

/-- The clock does not go back. -/
theorem Sound.clock_le (hw : w.Sound) (hp : w.perform h = some w') :
    w.site.clock ≤ w'.site.clock := by
  cases h with
  | step k =>
      obtain ⟨t, t', x', ht, hstep, rfl⟩ := step?_eq_some hp
      exact Nat.le_of_eq (Task.clock_step hstep (hw.tasks k t ht)).symm
  | drop k =>
      cases hp
      cases ht : w.task? k with
      | none => exact Nat.le_of_eq (congrArg (fun w => w.site.clock) (drop_of_none ht).symm)
      | some t =>
          rw [drop_of_some ht]
          exact Nat.le_of_eq (Task.clock_drop k t w.site).symm
  | startSweep =>
      have hsweep : w.startSweep = w' := Option.some.inj hp
      subst hsweep
      unfold startSweep
      simp only
      split <;> exact Nat.le_refl _
  | elapse d =>
      cases hp
      exact Nat.le_add_right _ _
  | _ =>
      cases hp
      exact Nat.le_refl _

-- ================================================ an entry used, in a run

/-- Whatever happens, an entry was last used when it was before, or a task
that holds its lock uses it now. -/
theorem Sound.lastUsed_perform (hw : w.Sound) (hp : w.perform h = some w')
    (hi : w.site.registry.lastUsed? e = some i) : w'.site.registry.lastUsed? e = some i ∨
      ∃ k t, h = .step k ∧ w.task? k = some t ∧ t.lockHeld = some e ∧
        w'.site.registry.lastUsed? e = some w.site.clock := by
  have hlt : e < w.site.registry.entries.length := Registry.lt_of_lastUsed? hi
  have hlt' : e < w'.site.registry.entries.length :=
    Nat.lt_of_lt_of_le hlt (hw.grows (.perform hp)).2.entries
  have hself : w.site.usedAt e i = w.site := Site.usedAt_self hi
  cases h with
  | step k =>
      obtain ⟨t, t', x', ht, hstep, rfl⟩ := step?_eq_some hp
      by_cases hjudge : ∃ s a, t.Sweeps s ∧ s.stage = .judge a e
      · -- a sweep that judges an entry changes nothing yet
        obtain ⟨s, a, hs, hstage⟩ := hjudge
        obtain ⟨g, -, hjudges⟩ := hs.judges k hstage hlt
        have hsame := hjudges i
        rw [hself, hstep] at hsame
        obtain rfl := congrArg Prod.snd (Option.some.inj hsame)
        exact .inl hi
      · have hbears : Bears t.lockHeld e (t.step k) w.site :=
          t.step_bears k hlt fun s a hs hstage => hjudge ⟨s, a, hs, hstage⟩
        rcases hbears.lastUsed hstep hi hlt' with hsame | ⟨hheld, hnow⟩
        · exact .inl hsame
        · exact .inr ⟨k, t, rfl, ht, hheld, hnow⟩
  | drop k =>
      cases hp
      left
      cases ht : w.task? k with
      | none =>
          rw [drop_of_none ht]
          exact hi
      | some t =>
          rw [drop_of_some ht] at hlt' ⊢
          have hdrop := t.drop_usedAt k w.site e i
          rw [hself] at hdrop
          have hx : (t.drop k w.site).2 = (t.drop k w.site).2.usedAt e i := congrArg Prod.snd hdrop
          show (t.drop k w.site).2.registry.lastUsed? e = some i
          rw [hx]
          exact Registry.lastUsed?_touch hlt'
  | startSweep =>
      have hsweep : w.startSweep = w' := Option.some.inj hp
      subst hsweep
      left
      unfold startSweep
      simp only
      split <;> exact hi
  | _ =>
      cases hp
      exact .inl hi

/-- An entry was last used at a certain instant or later. -/
def UsedSince (w : BusWorld) (e : EntryId) (i : Instant) : Prop :=
  i ≤ w.site.clock ∧ ∃ k, w.site.registry.lastUsed? e = some k ∧ i ≤ k

theorem UsedSince.perform (hu : w.UsedSince e i) (hw : w.Sound) (hp : w.perform h = some w') :
    w'.UsedSince e i := by
  obtain ⟨hclock, k, hk, hle⟩ := hu
  refine ⟨Nat.le_trans hclock (hw.clock_le hp), ?_⟩
  rcases hw.lastUsed_perform hp hk with hsame | ⟨-, -, -, -, -, hnow⟩
  · exact ⟨k, hsame, hle⟩
  · exact ⟨w.site.clock, hnow, hclock⟩

theorem UsedSince.reaches (hu : w.UsedSince e i) (hw : w.Sound) (hr : w.Reaches w') :
    w'.UsedSince e i :=
  hw.induct (P := fun v => v.UsedSince e i) hr hu fun _ _ _ hv hu hp => hu.perform hv hp

end World

-- =================================================== the two side by side

/-- Two sites alike but for when an entry was last used: at the instant
`i` on one and at the instant `j` on the other, or not even that, for it
has been used since. -/
inductive Site.Shifted (e : EntryId) (i j : Instant) : BusSite → BusSite → Prop where
  | apart (x : BusSite) (hlt : e < x.registry.entries.length) :
      Shifted e i j (x.usedAt e i) (x.usedAt e j)
  | together (x : BusSite) (k : Instant) (hk : x.registry.lastUsed? e = some k) (hle : j ≤ k) :
      Shifted e i j x x

namespace Site.Shifted

variable {e : EntryId} {i j : Instant} {x y : BusSite}

/-- Everything but entries is the same on both. -/
theorem frame (h : x.Shifted e i j y) : ∃ entries,
    y = { x with registry := { x.registry with entries } } := by
  cases h with
  | apart x hlt => exact ⟨(x.usedAt e j).registry.entries, rfl⟩
  | together x l hl hle => exact ⟨x.registry.entries, rfl⟩

/-- The registry changed beside its entries, on both. -/
theorem modifyRegistry (h : x.Shifted e i j y) (f : Registry → Registry)
    (hf : ∀ r k, f (r.touch e k) = (f r).touch e k) (he : ∀ r, (f r).entries = r.entries) :
    (x.modifyRegistry f).Shifted e i j (y.modifyRegistry f) := by
  cases h with
  | apart x hlt =>
      have hcomm : ∀ k, (x.usedAt e k).modifyRegistry f = (x.modifyRegistry f).usedAt e k :=
        fun k => congrArg (Site.mk x.bus x.clock) (hf x.registry k)
      rw [hcomm, hcomm]
      refine .apart _ ?_
      show e < (f x.registry).entries.length
      rw [he]
      exact hlt
  | together x l hl hle =>
      refine .together _ l ?_ hle
      show (f x.registry).lastUsed? e = some l
      unfold Registry.lastUsed? Registry.readOff Registry.entryAt?
      rw [he]
      exact hl

/-- Time passed on both. -/
theorem later (h : x.Shifted e i j y) (n : Nat) :
    Shifted e i j { x with clock := x.clock + n } { y with clock := y.clock + n } := by
  cases h with
  | apart x hlt => exact .apart { x with clock := x.clock + n } hlt
  | together x l hl hle => exact .together _ l hl hle

/-- The same is done to the bus on both. -/
theorem onBus (h : x.Shifted e i j y) (f : Recorded Simulated → Recorded Simulated) :
    Shifted e i j { x with bus := f x.bus } { y with bus := f y.bus } := by
  cases h with
  | apart x hlt => exact .apart { x with bus := f x.bus } hlt
  | together x l hl hle => exact .together _ l hl hle

/-- A task dropped on both. -/
theorem drop (h : x.Shifted e i j y) (t : Task) (k : TaskId)
    (hlen : x.registry.entries.length ≤ (t.drop k x).2.registry.entries.length) :
    Shifted e i j (t.drop k x).2 (t.drop k y).2 := by
  cases h with
  | apart x hlt =>
      rw [t.drop_usedAt] at hlen
      rw [t.drop_usedAt, t.drop_usedAt]
      have hle : x.registry.entries.length ≤ (t.drop k x).2.registry.entries.length := by
        simpa [Site.usedAt, Site.modifyRegistry] using hlen
      exact .apart _ (Nat.lt_of_lt_of_le hlt hle)
  | together x l hl hle =>
      refine .together _ l ?_ hle
      have hdrop := t.drop_usedAt k x e l
      rw [Site.usedAt_self hl] at hdrop
      rw [congrArg Prod.snd hdrop]
      exact Registry.lastUsed?_touch (Nat.lt_of_lt_of_le (Registry.lt_of_lastUsed? hl) hlen)

theorem drop_same (h : x.Shifted e i j y) (t : Task) (k : TaskId) :
    (t.drop k y).1 = (t.drop k x).1 := by
  cases h with
  | apart x hlt => rw [t.drop_usedAt, t.drop_usedAt]
  | together x l hl hle => rfl

end Site.Shifted

/-- The step of a task on both, unless it judges the entry and the
instant makes a difference to it. -/
theorem Site.Shifted.step {e : EntryId} {i j : Instant} {x y : BusSite} {k : TaskId} {t : Task}
    (hs : x.Shifted e i j y) (hij : i ≤ j) (hj : j ≤ x.clock)
    (hn : ∀ s a, t.Sweeps s → s.stage = .judge a e → x.registry.lastUsed? e = some i →
      x.registry.policy.idleThreshold.nanos ≤ s.began - i →
        x.registry.policy.idleThreshold.nanos ≤ s.began - j)
    (hlen : ∀ p, t.step k x = some p →
      x.registry.entries.length ≤ p.2.registry.entries.length) :
    Option.Rel (fun p q => p.1 = q.1 ∧ p.2.Shifted e i j q.2) (t.step k x) (t.step k y) := by
  by_cases hjudge : ∃ s a, t.Sweeps s ∧ s.stage = .judge a e
  · obtain ⟨s, a, hsweeps, hstage⟩ := hjudge
    cases hs with
    | apart x hlt =>
        obtain ⟨g, -, hjudges⟩ := hsweeps.judges k hstage hlt
        have hi : x.registry.policy.idleThreshold.nanos ≤ s.began - i →
            x.registry.policy.idleThreshold.nanos ≤ s.began - j :=
          hn s a hsweeps hstage (Registry.lastUsed?_touch hlt)
        have hverdict : (if s.began - i < x.registry.policy.idleThreshold.nanos then
              SweepStage.unlock e else .unlink a e) =
            if s.began - j < x.registry.policy.idleThreshold.nanos then .unlock e
              else .unlink a e := by
          by_cases hle : x.registry.policy.idleThreshold.nanos ≤ s.began - i
          · rw [if_neg (Nat.not_lt.mpr hle), if_neg (Nat.not_lt.mpr (hi hle))]
          · have hlater : s.began - j < x.registry.policy.idleThreshold.nanos :=
              Nat.lt_of_le_of_lt (Nat.sub_le_sub_left hij _) (Nat.lt_of_not_le hle)
            rw [if_pos (Nat.lt_of_not_le hle), if_pos hlater]
        rw [hjudges i, hjudges j, hverdict]
        exact .some ⟨rfl, .apart x hlt⟩
    | together x l hl hle =>
        have hlt : e < x.registry.entries.length := Registry.lt_of_lastUsed? hl
        obtain ⟨g, -, hjudges⟩ := hsweeps.judges k hstage hlt
        have hself := hjudges l
        rw [Site.usedAt_self hl] at hself
        rw [hself]
        exact .some ⟨rfl, .together x l hl hle⟩
  · have hnot : ∀ s a, t.Sweeps s → s.stage ≠ .judge a e :=
      fun s a hsweeps hstage => hjudge ⟨s, a, hsweeps, hstage⟩
    cases hs with
    | apart x hlt =>
        cases t.step_bears k hlt hnot with
        | carries h =>
            rw [h i] at hlen
            rw [h i, h j]
            cases hstep : t.step k x with
            | none => exact .none
            | some p =>
                rw [hstep] at hlen
                have hle : x.registry.entries.length ≤ p.2.registry.entries.length := by
                  simpa [Site.usedAt, Site.modifyRegistry] using hlen _ rfl
                exact .some ⟨rfl, .apart p.2 (Nat.lt_of_lt_of_le hlt hle)⟩
        | uses hh h hnow =>
            rw [h i, h j]
            cases hstep : t.step k x with
            | none => exact .none
            | some p => exact .some ⟨rfl, .together p.2 x.clock (hnow p hstep) hj⟩
    | together x l hl hle =>
        cases hstep : t.step k x with
        | none => exact .none
        | some p =>
            have hlt := Registry.lt_of_lastUsed? hl
            have hlt' := Nat.lt_of_lt_of_le hlt (hlen p hstep)
            rcases (t.step_bears k hlt hnot).lastUsed hstep hl hlt' with hsame | ⟨-, hnow⟩
            · exact .some ⟨rfl, .together p.2 l hsame hle⟩
            · exact .some ⟨rfl, .together p.2 x.clock hnow hj⟩

namespace World

variable {w w' v v' u u' : BusWorld} {id k : TaskId} {e : EntryId} {i j : Instant} {h : Happening}

/-- Two worlds alike but for when an entry was last used, and for what a
call that is over was told. -/
structure Shifted (id : TaskId) (e : EntryId) (i j : Instant) (v u : BusWorld) : Prop where
  since : j ≤ v.site.clock
  site : v.site.Shifted e i j u.site
  length : u.tasks.length = v.tasks.length
  others : ∀ k, k ≠ id → u.task? k = v.task? k
  ended : ∃ c c', v.call? id = some c ∧ u.call? id = some c' ∧ c.isOver = true ∧ c'.isOver = true

/-- A sweep goes on to judge an entry last used at the instant `i`, and
would judge otherwise had the entry been used at the instant `j`. -/
def Tells (e : EntryId) (i j : Instant) (w : BusWorld) (h : Happening) : Prop :=
  ∃ k t s a, h = .step k ∧ w.task? k = some t ∧ t.Sweeps s ∧ s.stage = .judge a e ∧
    w.site.registry.lastUsed? e = some i ∧
    w.site.registry.policy.idleThreshold.nanos ≤ s.began - i ∧
    s.began - j < w.site.registry.policy.idleThreshold.nanos

theorem Shifted.nextId (hs : Shifted id e i j v u) : u.nextId = v.nextId := hs.length

theorem Shifted.old (hs : Shifted id e i j v u) : id ≠ v.nextId := by
  obtain ⟨c, -, hc, -⟩ := hs.ended
  intro heq
  have ht := call?_eq_some.mp hc
  rw [heq, task?_nextId] at ht
  cases ht

/-- A site changed on both sides. -/
theorem Shifted.onSite (hs : Shifted id e i j v u) {x y : BusSite} (hx : x.Shifted e i j y)
    (hclock : v.site.clock ≤ x.clock) : Shifted id e i j ⟨x, v.tasks⟩ ⟨y, u.tasks⟩ where
  since := Nat.le_trans hs.since hclock
  site := hx
  length := hs.length
  others := hs.others
  ended := hs.ended

/-- A task begun on both sides. -/
theorem Shifted.begun (hs : Shifted id e i j v u) (t : Task) :
    Shifted id e i j ⟨v.site, v.tasks ++ [t]⟩ ⟨u.site, u.tasks ++ [t]⟩ where
  since := hs.since
  site := hs.site
  length := by simp [hs.length]
  others := by
    intro k hk
    rw [task?_append, task?_append, hs.nextId]
    split
    · rfl
    · exact hs.others k hk
  ended := by
    obtain ⟨c, c', hc, hc', hover⟩ := hs.ended
    refine ⟨c, c', ?_, ?_, hover⟩
    · rw [call?_eq_some, task?_append, if_neg hs.old]
      exact call?_eq_some.mp hc
    · rw [call?_eq_some, task?_append, hs.nextId, if_neg hs.old]
      exact call?_eq_some.mp hc'

/-- A task gone on on both sides. -/
theorem Shifted.set (hs : Shifted id e i j v u) {t : Task} (ht : v.task? k = some t)
    (hk : k ≠ id) (t' : Task) {x y : BusSite} (hx : x.Shifted e i j y)
    (hclock : v.site.clock ≤ x.clock) :
    Shifted id e i j ⟨x, v.tasks.set k t'⟩ ⟨y, u.tasks.set k t'⟩ where
  since := Nat.le_trans hs.since hclock
  site := hx
  length := by simp [hs.length]
  others := by
    intro l hl
    rw [task?_set ht, task?_set ((hs.others k hk).trans ht)]
    split
    · rfl
    · exact hs.others l hl
  ended := by
    obtain ⟨c, c', hc, hc', hover⟩ := hs.ended
    refine ⟨c, c', ?_, ?_, hover⟩
    · rw [call?_eq_some, task?_set ht, if_neg (Ne.symm hk)]
      exact call?_eq_some.mp hc
    · rw [call?_eq_some, task?_set ((hs.others k hk).trans ht), if_neg (Ne.symm hk)]
      exact call?_eq_some.mp hc'

/-- A step of any other task, unless it tells the two sides apart. -/
theorem Shifted.step (hs : Shifted id e i j v u) (hij : i ≤ j) (hv : v.Sound)
    (hn : ¬ Tells e i j v (.step k)) :
    Option.Rel (Shifted id e i j) (v.step? k) (u.step? k) := by
  by_cases hk : k = id
  · subst hk
    obtain ⟨c, c', hc, hc', hover, hover'⟩ := hs.ended
    rw [step?_of_isOver hc hover, step?_of_isOver hc' hover']
    exact .none
  · cases ht : v.task? k with
    | none =>
        have hv' : v.step? k = none := by
          unfold step?
          rw [ht]
        have hu' : u.step? k = none := by
          unfold step?
          rw [hs.others k hk, ht]
        rw [hv', hu']
        exact .none
    | some t =>
        have hgrows : ∀ p, t.step k v.site = some p →
            v.site.clock ≤ p.2.clock ∧
              v.site.registry.entries.length ≤ p.2.registry.entries.length := by
          intro p hp
          have hperform : v.perform (.step k) = some _ := step?_of_step ht hp
          exact ⟨hv.clock_le hperform, (hv.grows (.perform hperform)).2.entries⟩
        have hrel := hs.site.step (t := t) (k := k) hij hs.since (fun s a hsweep hstage hi hle => by
          refine Nat.le_of_not_lt fun hlt => hn ⟨k, t, s, a, rfl, ht, hsweep, hstage, hi, hle, hlt⟩)
          fun p hp => (hgrows p hp).2
        unfold step?
        rw [ht, hs.others k hk, ht]
        show Option.Rel _ (Option.map _ (t.step k v.site)) (Option.map _ (t.step k u.site))
        generalize hx : t.step k v.site = o at hrel
        generalize t.step k u.site = o' at hrel
        cases hrel with
        | none => exact .none
        | @some p q hpq =>
            obtain ⟨hsame, hsite⟩ := hpq
            show Option.Rel _ (some (⟨p.2, v.tasks.set k p.1⟩ : BusWorld))
              (some (⟨q.2, u.tasks.set k q.1⟩ : BusWorld))
            rw [← hsame]
            exact .some (hs.set ht hk p.1 hsite (hgrows p hx).1)

/-- To drop a call that is over does nothing. -/
theorem drop_of_isOver {c : Call} (hc : w.call? id = some c) (hover : c.isOver = true) :
    w.drop id = w := by
  have ht := call?_eq_some.mp hc
  have hdrop : Task.drop id (.call c) w.site = (.call c, w.site) := by
    simp only [Task.drop, Call.drop_of_isOver id w.site hover]
  rw [drop_of_some ht, hdrop]
  apply ext_tasks
  · rfl
  · intro k
    rw [task?_set ht]
    split
    next hk => rw [hk, ht]
    next => rfl

theorem Shifted.drop (hs : Shifted id e i j v u) (hv : v.Sound) (k : TaskId) :
    Shifted id e i j (v.drop k) (u.drop k) := by
  by_cases hk : k = id
  · subst hk
    obtain ⟨c, c', hc, hc', hover, hover'⟩ := hs.ended
    rw [drop_of_isOver hc hover, drop_of_isOver hc' hover']
    exact hs
  · cases ht : v.task? k with
    | none =>
        rw [drop_of_none ht, drop_of_none ((hs.others k hk).trans ht)]
        exact hs
    | some t =>
        have hgrows := (hv.grows (.perform (h := .drop k) rfl)).2.entries
        have hclock := hv.clock_le (h := .drop k) rfl
        rw [drop_of_some ht] at hgrows hclock
        rw [drop_of_some ht, drop_of_some ((hs.others k hk).trans ht)]
        have hsite := hs.site.drop t k hgrows
        have hsame : (t.drop k u.site).1 = (t.drop k v.site).1 := hs.site.drop_same t k
        rw [hsame]
        exact hs.set ht hk _ hsite hclock

theorem Shifted.cancel (hs : Shifted id e i j v u) (k : TaskId) :
    Shifted id e i j (v.cancel k) (u.cancel k) where
  since := hs.since
  site := hs.site
  length := by simp [World.cancel, hs.length]
  others := by
    intro l hl
    rw [task?_cancel, task?_cancel]
    split
    next heq => rw [hs.others k (heq ▸ hl)]
    next => exact hs.others l hl
  ended := by
    obtain ⟨c, c', hc, hc', hover, hover'⟩ := hs.ended
    have hcancel : ∀ (w : BusWorld) (c : Call), w.call? id = some c → c.isOver = true →
        ∃ c₁, (w.cancel k).call? id = some c₁ ∧ c₁.isOver = true := by
      intro w c hc hover
      by_cases hk : id = k
      · subst hk
        refine ⟨{ c with cancelled := true }, ?_, hover⟩
        rw [call?_eq_some, task?_cancel, if_pos rfl, call?_eq_some.mp hc]
        rfl
      · refine ⟨c, ?_, hover⟩
        rw [call?_eq_some, task?_cancel, if_neg hk]
        exact call?_eq_some.mp hc
    obtain ⟨c₁, hc₁, hover₁⟩ := hcancel v c hc hover
    obtain ⟨c₂, hc₂, hover₂⟩ := hcancel u c' hc' hover'
    exact ⟨c₁, c₂, hc₁, hc₂, hover₁, hover₂⟩

theorem Shifted.startSweep (hs : Shifted id e i j v u) :
    Shifted id e i j v.startSweep u.startSweep := by
  have hmark := hs.site.modifyRegistry (fun r => { r with sweepStarted := true })
    (fun _ _ => rfl) fun _ => rfl
  obtain ⟨entries, hframe⟩ := hs.site.frame
  have hidle : (u.site.registry.sweepStarted || u.site.registry.disposed ||
      u.site.registry.policy.sweepInterval.isZero) = (v.site.registry.sweepStarted ||
      v.site.registry.disposed || v.site.registry.policy.sweepInterval.isZero) := by
    rw [hframe]
  unfold World.startSweep
  simp only [hidle]
  split
  · exact hs
  · exact (hs.onSite hmark (Nat.le_refl _)).begun _

/-- Whatever happens happens on both sides, unless it tells them apart. -/
theorem Shifted.perform (hs : Shifted id e i j v u) (hij : i ≤ j) (hv : v.Sound)
    (hn : ¬ Tells e i j v h) :
    Option.Rel (Shifted id e i j) (v.perform h) (u.perform h) := by
  cases h with
  | execute a p cancelled => exact .some (hs.begun _)
  | evict => exact .some (hs.begun _)
  | dispose => exact .some (hs.begun _)
  | startSweep => exact .some hs.startSweep
  | step k => exact hs.step hij hv hn
  | cancel k => exact .some (hs.cancel k)
  | drop k => exact .some (hs.drop hv k)
  | elapse d => exact .some (hs.onSite (hs.site.later d.nanos) (Nat.le_add_right _ _))
  | stimulate s =>
      refine .some (hs.onSite (hs.site.onBus fun b => { b with bus := b.bus.stimulate s }) ?_)
      exact Nat.le_refl _

/-- Nothing in a run tells the two instants apart. -/
def Untold (e : EntryId) (i j : Instant) (w : BusWorld) (hs : List Happening) : Prop :=
  ∀ before h after w', hs = before ++ h :: after → w.run before = some w' → ¬ Tells e i j w' h

theorem Untold.tail {hs : List Happening} (hn : Untold e i j w (h :: hs))
    (hp : w.perform h = some w') : Untold e i j w' hs := by
  intro before k after v hsplit hrun
  refine hn (h :: before) k after v (congrArg (h :: ·) hsplit) ?_
  exact Option.bind_eq_some_iff.mpr ⟨w', hp, hrun⟩

/-- A whole run that does not tell them apart happens on both sides. -/
theorem Shifted.run {hs : List Happening} (hs' : Shifted id e i j v u) (hij : i ≤ j)
    (hv : v.Sound) (hn : Untold e i j v hs) :
    Option.Rel (Shifted id e i j) (v.run hs) (u.run hs) := by
  induction hs generalizing v u with
  | nil => exact .some hs'
  | cons h rest ih =>
      show Option.Rel _ ((v.perform h).bind _) ((u.perform h).bind _)
      have hrel := hs'.perform hij hv (hn [] h rest v rfl rfl)
      generalize hp : v.perform h = o at hrel
      generalize u.perform h = o' at hrel
      cases hrel with
      | none => exact .none
      | @some v₁ u₁ hs₁ => exact ih hs₁ (hv.perform hp) (hn.tail hp)

/-- The sweep of a task judges an entry, with a certain verdict. -/
def Judges (k : TaskId) (verdict : SweepStage) (w w' : BusWorld) : Prop :=
  w.step? k = some w' ∧ ∃ t s, w'.task? k = some t ∧ t.Sweeps s ∧ s.stage = verdict

/-- Where a sweep tells them apart the two part: the entry is condemned on
one side and spared on the other. -/
theorem Shifted.parts (hs : Shifted id e i j v u) (hn : Tells e i j v (.step k)) :
    ∃ a v' u', Judges k (.unlink a e) v v' ∧ Judges k (.unlock e) u u' := by
  obtain ⟨k', t, s, a, heq, ht, hsweeps, hstage, hi, hle, hlt⟩ := hn
  cases heq
  have hk : k ≠ id := by
    intro heq
    subst heq
    obtain ⟨c, -, hc, -⟩ := hs.ended
    rw [call?_eq_some.mp hc] at ht
    cases ht
    cases hsweeps
  have hu := (hs.others k hk).trans ht
  obtain ⟨xv, tv⟩ := v
  obtain ⟨xu, tu⟩ := u
  cases hs.site with
  | apart x hlen =>
      obtain ⟨g, hg, hjudges⟩ := hsweeps.judges k hstage hlen
      have hv := hjudges i
      have hu' := hjudges j
      change x.registry.policy.idleThreshold.nanos ≤ s.began - i at hle
      change s.began - j < x.registry.policy.idleThreshold.nanos at hlt
      rw [if_neg (Nat.not_lt.mpr hle)] at hv
      rw [if_pos hlt] at hu'
      exact ⟨a, _, _, ⟨step?_of_step ht hv, _, _, task?_set_self ht _ _, hg _, rfl⟩,
        step?_of_step hu hu', _, _, task?_set_self hu _ _, hg _, rfl⟩
  | together x l hl hle' =>
      -- an entry used since is idle for no longer on one side than on the other
      cases hl.symm.trans hi
      have hless := Nat.sub_le_sub_left hle' s.began
      exact absurd (Nat.le_trans hle hless) (Nat.not_le.mpr hlt)

/-- A sweep that condemns an entry was begun when the entry had been idle
for the threshold. -/
theorem UsedSince.condemned (hu : w.UsedSince e i) {t : Task} {s : Sweep} {a : Address}
    (ht : w.task? k = some t) (hs : t.Sweeps s) (hstage : s.stage = .judge a e)
    (hj : Judges k (.unlink a e) w w') :
    w.site.registry.policy.idleThreshold.nanos ≤ s.began - i := by
  obtain ⟨-, l, hl, hle⟩ := hu
  obtain ⟨g, hg, hjudges⟩ := hs.judges k hstage (Registry.lt_of_lastUsed? hl)
  have hself := hjudges l
  rw [Site.usedAt_self hl] at hself
  obtain ⟨hstep, t', s', ht', hs', hverdict⟩ := hj
  cases hstep.symm.trans (step?_of_step ht hself)
  cases ht'.symm.trans (task?_set_self ht _ _)
  cases hs'.unique (hg _)
  refine Nat.le_trans (Nat.le_of_not_lt fun hlt => ?_) (Nat.sub_le_sub_left hle s.began)
  rw [if_pos hlt] at hverdict
  cases hverdict

end World

end InstrumentBus
