/-
Exactly what a sweep does.

A sweep is begun by somebody who asks for it, or by the background sweep
when its time has come (`Task.BeginsSweep`); either way it is one turn of
its task, and the turn is the same. `World.sweep_exact` says what the turn
does to a registry that any run may have led to: which entries leave the
cache, going by the locks and by the record of when each entry was used,
and that beyond this nothing is changed but the slots of those entries and
the descriptors of the sessions in them.

The record counts uses and not touches. That the registry's own idea of
when an entry was last used agrees with it is shown in `World.dated`.
-/
import InstrumentBus.Proofs.Registry.Judged

namespace InstrumentBus

-- ============================================= what no task changes

/-- What no task changes: how the registry was told to work, and whether
its background sweep has been started. -/
def Registry.standing (r : Registry) : (SessionOptions × SweepPolicy) × Bool :=
  ((r.options, r.policy), r.sweepStarted)

section

variable {id : TaskId} {x x' : BusSite}

theorem Site.standing_closeSlot (x : BusSite) (e : EntryId) :
    (x.closeSlot e).registry.standing = x.registry.standing := by
  rw [registry_closeSlot]
  rfl

theorem Registry.standing_forget (r : Registry) (a : Address) (e : EntryId) :
    (r.forget a e).standing = r.standing := by
  unfold forget
  split <;> rfl

theorem Call.standing_act (c : Call) (e : EntryId) (s : Session) (x : BusSite)
    (run : StateM (Line (Recorded Simulated)) Advance) :
    (c.act e s x run).2.registry.standing = x.registry.standing := by
  obtain ⟨r, hx, hr⟩ := act_site c e s x run
  rw [hx]
  rcases hr with rfl | rfl <;> rfl

theorem Call.Stride.standing {c c' : Call} (h : c.Stride id x c' x') :
    x'.registry.standing = x.registry.standing := by
  cases h with
  | found hs =>
      show (x.registry.resolve c.address x.clock).1.standing = _
      unfold Registry.resolve
      split <;> rfl
  | started e s hs hslot => exact standing_act _ e s _ _
  | resumed e pending rest s hs hdue hslot => exact standing_act _ e s _ _
  | vacated e f hs => exact Site.standing_closeSlot x e
  | abandoned e f hs => exact Registry.standing_forget _ _ _
  | _ => rfl

theorem Sweep.Stride.standing {s s' : Sweep} (h : s.Stride id x s' x') :
    x'.registry.standing = x.registry.standing := by
  cases h with
  | unlinked a e hs => exact Registry.standing_forget _ _ _
  | closed e hs => exact Site.standing_closeSlot x e
  | _ => rfl

theorem Disposal.standing_step {d d' : Disposal} (h : d.step id x = some (d', x')) :
    x'.registry.standing = x.registry.standing := by
  have hfold : ∀ (l : List (Address × EntryId)) (x : BusSite),
      (l.foldl (fun x p => x.closeSlot p.2) x).registry.standing = x.registry.standing := by
    intro l
    induction l with
    | nil => exact fun _ => rfl
    | cons p rest ih => exact fun x => (ih _).trans (Site.standing_closeSlot x p.2)
  cases d with
  | mark =>
      simp only [step] at h
      split at h <;> cases h <;> rfl
  | next todo => cases todo <;> cases h <;> rfl
  | queued e todo =>
      simp only [step] at h
      split at h <;> cases h
      rfl
  | close e todo =>
      cases h
      exact Site.standing_closeSlot x e
  | clear =>
      cases h
      exact hfold _ x
  | _ => cases h <;> rfl

theorem Task.standing_step {t t' : Task} (h : t.step id x = some (t', x'))
    (hsound : t.Sound x.registry) : x'.registry.standing = x.registry.standing := by
  cases t with
  | call c =>
      obtain ⟨p, hp, heq⟩ := Option.map_eq_some_iff.mp h
      cases heq
      exact (Call.step_stride hp hsound).standing
  | sweep s =>
      obtain ⟨p, hp, heq⟩ := Option.map_eq_some_iff.mp h
      cases heq
      exact (Sweep.step_stride hp).standing
  | disposal d =>
      obtain ⟨p, hp, heq⟩ := Option.map_eq_some_iff.mp h
      cases heq
      exact Disposal.standing_step hp
  | ticker k =>
      obtain ⟨p, hp, heq⟩ := Option.map_eq_some_iff.mp h
      cases heq
      have hcases : p.2 = x ∨ ∃ s s' mark, k = .sweeping s mark ∧ s.Stride id x s' p.2 :=
        Ticker.step_cases hp
      rcases hcases with hx | ⟨s, s', mark, -, hst⟩
      · exact congrArg (fun x : BusSite => x.registry.standing) hx
      · exact hst.standing

theorem Task.standing_drop (id : TaskId) (t : Task) (x : BusSite) :
    (t.drop id x).2.registry.standing = x.registry.standing := by
  cases t with
  | call c =>
      obtain ⟨address, program, cancelled, entered, replies, stage⟩ := c
      cases stage <;> rfl
  | sweep s => rfl
  | disposal d => cases d <;> rfl
  | ticker k => cases k <;> rfl

end

namespace World

variable {w w' : BusWorld} {h : Happening}

/-- The background sweep is started from outside. -/
theorem Sound.standing_perform (hw : w.Sound) (hp : w.perform h = some w')
    (hne : h ≠ .startSweep) : w'.site.registry.standing = w.site.registry.standing := by
  cases h with
  | step k =>
      obtain ⟨t, t', x', ht, hstep, rfl⟩ := step?_eq_some hp
      exact Task.standing_step hstep (hw.tasks k t ht)
  | drop k =>
      cases hp
      show (w.drop k).site.registry.standing = _
      cases ht : w.task? k with
      | none => rw [drop_of_none ht]
      | some t =>
          rw [drop_of_some ht]
          exact Task.standing_drop k t w.site
  | startSweep => exact absurd rfl hne
  | _ =>
      cases hp
      rfl

/-- A registry sweeps as it was told to in the beginning. -/
theorem Sound.policy_perform (hw : w.Sound) (hp : w.perform h = some w') :
    w'.site.registry.policy = w.site.registry.policy := by
  by_cases hne : h = .startSweep
  · subst hne
    have hsweep : w.startSweep = w' := Option.some.inj hp
    subst hsweep
    unfold startSweep
    simp only
    split <;> rfl
  · exact congrArg (·.1.2) (hw.standing_perform hp hne)

theorem Sound.policy_reaches (hw : w.Sound) (hr : w.Reaches w') :
    w'.site.registry.policy = w.site.registry.policy :=
  hw.induct (P := fun v => v.site.registry.policy = w.site.registry.policy) hr rfl
    fun _ _ _ hv hs hp => (hv.policy_perform hp).trans hs

end World

-- ================================================== the turn of a sweep

/-- A task is about to sweep: somebody has asked for it, or it is the
background sweep and its time has come. -/
inductive Task.BeginsSweep (x : BusSite) : Task → Prop where
  | asked : BeginsSweep x (.sweep .new)
  | due (wake : Instant) (hd : x.registry.disposed = false) (hw : wake ≤ x.clock) :
      BeginsSweep x (.ticker (.sleeping wake))

/-- The task after it has swept and counted some entries: a sweep that was
asked for returns the count, and the background sweep goes back to sleep. -/
def Task.afterSweep (t : Task) (x : BusSite) (count : Nat) : Task :=
  match t with
  | .sweep _ => .sweep ⟨x.clock, [], count, .ended⟩
  | .ticker (.sleeping wake) =>
    .ticker (.sleeping (Ticker.next (Ticker.rhythm wake x.clock) x.clock
      x.registry.policy.sweepInterval))
  | t => t

/-- The sweep of a whole registry changes neither clock nor settings. -/
theorem Site.Without.policy {x x' : BusSite} {l : List (Address × EntryId)} (h : x.Without l x') :
    x'.registry.policy = x.registry.policy := by
  rw [h.registry]

namespace World

variable {w w' : BusWorld} {id : TaskId} {t : Task} {h : Happening}

/-- The entries that a sweep would give up now. -/
def condemned (w : BusWorld) : List (Address × EntryId) :=
  w.site.condemned w.site.registry.cache

theorem condemned_sublist (w : BusWorld) : w.condemned.Sublist w.site.registry.cache :=
  List.filter_sublist

/-- No entry is in the cache twice. -/
theorem Orderly.cached_nodup (ho : w.Orderly) : w.site.registry.cached.Nodup := by
  have hc := ho.sound.coherent
  refine List.pairwise_map.mpr ((List.pairwise_map.mp ho.distinct).imp_of_mem ?_)
  intro p q hp hq hne heq
  have hp' := hc.listed p hp
  rw [heq] at hp'
  exact hne (hc.inj _ _ _ hp' (hc.listed q hq))

/-- What is left of the site of a sweep. -/
theorem Orderly.without (ho : w.Orderly) :
    w.site.Without w.condemned (w.site.sweptOver w.site.registry.cache) := by
  have hsub := w.condemned_sublist
  exact Site.gaveUp (fun p hp => ho.sound.coherent.listed p (hsub.subset hp))
    (ho.distinct.sublist (hsub.map _)) (ho.cached_nodup.sublist (hsub.map _))

/-- A sweep takes one turn. -/
theorem Orderly.sweeps (ho : w.Orderly) (ht : w.task? id = some t)
    (hb : t.BeginsSweep w.site) : ∃ n, w.run (List.replicate (n + 1) (.step id)) =
      some ⟨w.site.sweptOver w.site.registry.cache,
        w.tasks.set id (t.afterSweep w.site w.condemned.length)⟩ := by
  have hleads : Sweep.Leads id .new w.site ⟨w.site.clock, [], w.condemned.length, .ended⟩
      (w.site.sweptOver w.site.registry.cache) :=
    Sweep.leads_swept w.site ho.sound.coherent ho.sound.inLine.busy
  cases hb with
  | asked =>
      obtain ⟨n, hrun⟩ := hleads.run rfl ht (.own _)
      cases n with
      | zero =>
          -- a sweep that has not begun is not over
          have hsame : w.tasks = w.tasks.set id (.sweep
            ⟨w.site.clock, [], w.condemned.length, .ended⟩) :=
            congrArg World.tasks (Option.some.inj hrun)
          have hself := task?_set_self ht (.sweep
            ⟨w.site.clock, [], w.condemned.length, .ended⟩) w.site
          rw [← hsame] at hself
          have hnew := Task.sweep.inj (Option.some.inj (ht.symm.trans hself))
          exact nomatch congrArg Sweep.stage hnew
      | succ n => exact ⟨n, hrun⟩
  | due wake hd hw =>
      let begins : Task := .ticker (.sweeping .new (Ticker.rhythm wake w.site.clock))
      have hfirst : w.step? id = some ⟨w.site, w.tasks.set id begins⟩ := by
        refine step?_of_step ht ?_
        unfold Task.step Ticker.step
        simp only [hd, Bool.false_eq_true, if_false, if_pos hw]
        rfl
      obtain ⟨n, hrun⟩ := Sweep.Leads.run (w := ⟨w.site, w.tasks.set id begins⟩) hleads rfl
        (task?_set_self ht begins w.site) (.ticking _ _)
      rw [List.set_set] at hrun
      have ht₂ := task?_set_self ht
        (.ticker (.sweeping ⟨w.site.clock, [], w.condemned.length, .ended⟩
          (Ticker.rhythm wake w.site.clock))) (w.site.sweptOver w.site.registry.cache)
      have hwithout := ho.without
      have hlast : Task.step id (.ticker (.sweeping
          ⟨w.site.clock, [], w.condemned.length, .ended⟩ (Ticker.rhythm wake w.site.clock)))
          (w.site.sweptOver w.site.registry.cache) =
          some (Task.afterSweep (.ticker (.sleeping wake)) w.site w.condemned.length,
            w.site.sweptOver w.site.registry.cache) := by
        unfold Task.step Ticker.step Task.afterSweep
        simp only [Sweep.step, hwithout.clock, hwithout.policy]
        rfl
      have hend := step?_of_step ht₂ hlast
      refine ⟨n + 1, ?_⟩
      rw [List.replicate_succ, List.replicate_succ']
      refine Option.bind_eq_some_iff.mpr ⟨_, hfirst, ?_⟩
      rw [run_append]
      refine Option.bind_eq_some_iff.mpr ⟨_, hrun, ?_⟩
      refine Option.bind_eq_some_iff.mpr ⟨_, hend, ?_⟩
      show some _ = some _
      rw [List.set_set]

-- ===================================================== the effect of it

/-- The descriptors of the open sessions of some entries. -/
def openOf (w : BusWorld) (gone : List (Address × EntryId)) : List Int :=
  gone.filterMap fun p => w.site.registry.open? p.2

/-- What a sweep makes of a registry when it gives up certain entries. -/
structure Swept (gone : List (Address × EntryId)) (w w' : BusWorld) : Prop where
  cache : w'.site.registry.cache = w.site.registry.cache.filter (· ∉ gone)
  size : gone.length + w'.site.registry.size = w.site.registry.size
  -- an entry that is given up is left without a session, and its lock and
  -- the instant of its last use are not changed
  vacated : ∀ p ∈ gone, w'.site.registry.entryAt? p.2 =
    (w.site.registry.entryAt? p.2).map Entry.vacated
  -- any other entry is left as it is: session, lock, queue and instant
  kept : ∀ e, (∀ p ∈ gone, p.2 ≠ e) → w'.site.registry.entryAt? e = w.site.registry.entryAt? e
  -- one raw call for each open session that is given up, and no other
  calls : w'.site.bus.calls = w.site.bus.calls ++ (w.openOf gone).map (.takeOffline · 0)
  once : (w.openOf gone).Nodup
  -- which takes it offline, and no other descriptor
  links : ∀ d, w'.site.bus.bus.link? d =
    if d ∈ w.openOf gone then (w.site.bus.bus.link? d).map fun l => { l with online := false }
    else w.site.bus.bus.link? d
  instruments : w'.site.bus.bus.instruments = w.site.bus.bus.instruments
  clock : w'.site.clock = w.site.clock
  registry : w'.site.registry = { w.site.registry with
    cache := w'.site.registry.cache, entries := w'.site.registry.entries }

/-- Descriptors taken offline one after the other: the calls made, and
what the bus is like then. -/
theorem takeOffline_each (ds : List Int) (b : Recorded Simulated) :
    (ds.foldl (fun b d => RawBus.takeOffline b d 0) b).calls =
        b.calls ++ ds.map (.takeOffline · 0) ∧
      (ds.foldl (fun b d => RawBus.takeOffline b d 0) b).bus =
        ds.foldl (fun b d => b.takeOffline d 0) b.bus := by
  induction ds generalizing b with
  | nil => exact ⟨(List.append_nil _).symm, rfl⟩
  | cons d rest ih =>
      obtain ⟨hcalls, hbus⟩ := ih (RawBus.takeOffline b d 0)
      refine ⟨hcalls.trans ?_, hbus⟩
      have hfirst : (RawBus.takeOffline b d 0).calls = b.calls ++ [.takeOffline d 0] :=
        List.reverse_cons
      rw [hfirst, List.append_assoc]
      rfl

theorem instruments_takeOffline_all (ds : List Int) (b : Simulated) :
    (ds.foldl (fun b d => b.takeOffline d 0) b).instruments = b.instruments := by
  induction ds generalizing b with
  | nil => rfl
  | cons d rest ih => exact (ih _).trans (Simulated.takeOffline_frame b d 0).2.1

/-- No two entries share an open session. -/
theorem Sound.openOf_nodup {gone : List (Address × EntryId)} (hw : w.Sound)
    (hgone : (gone.map (·.2)).Nodup) : (w.openOf gone).Nodup := by
  refine List.pairwise_filterMap.mpr ((List.pairwise_map.mp hgone).imp ?_)
  intro p q hne d hd d' hd' heq
  have hslot : ∀ {e d}, w.site.registry.open? e = some d →
      ∃ s, w.site.registry.slot? e = some s ∧ s.descriptor = d := by
    intro e d h
    obtain ⟨s, hs, hsd⟩ := Option.map_eq_some_iff.mp h
    exact ⟨s, (Option.filter_eq_some_iff.mp hs).1, hsd⟩
  obtain ⟨s, hs, rfl⟩ := hslot hd
  obtain ⟨s', hs', rfl⟩ := hslot hd'
  exact hne (hw.owned.unique _ _ s s' hs hs' heq)

/-- What is left of the site of a sweep is what is left of the world. -/
theorem Orderly.swept (ho : w.Orderly) (tasks : List Task) :
    Swept w.condemned w ⟨w.site.sweptOver w.site.registry.cache, tasks⟩ := by
  have hwithout := ho.without
  have hc := ho.sound.coherent
  obtain ⟨hcalls, hbus⟩ := takeOffline_each (w.openOf w.condemned) w.site.bus
  have hbus' : (w.site.sweptOver w.site.registry.cache).bus =
      (w.openOf w.condemned).foldl (fun b d => RawBus.takeOffline b d 0) w.site.bus :=
    hwithout.bus
  -- an address is among those given up exactly if its entry is
  have hkeys : ∀ q ∈ w.site.registry.cache, q.1 ∈ Keyed.keys w.condemned ↔ q ∈ w.condemned := by
    intro q hq
    refine ⟨fun h => ?_, fun h => List.mem_map_of_mem h⟩
    obtain ⟨p, hp, hpq⟩ := List.mem_map.mp h
    have hp' := hc.listed p (List.filter_sublist.subset hp)
    rw [hpq, hc.listed q hq] at hp'
    rwa [show q = p from Prod.ext hpq.symm (Option.some.inj hp')]
  have hcache : (w.site.sweptOver w.site.registry.cache).registry.cache =
      w.site.registry.cache.filter (· ∉ w.condemned) := by
    refine hwithout.cache.trans (List.filter_congr fun q hq => ?_)
    rw [decide_eq_decide, hkeys q hq]
  refine
    { cache := hcache
      size := ?_
      vacated := ?_
      kept := ?_
      calls := (congrArg Recorded.calls hbus').trans hcalls
      once := ?_
      links := ?_
      instruments := ?_
      clock := hwithout.clock
      registry := hwithout.registry }
  · show w.condemned.length +
      (w.site.sweptOver w.site.registry.cache).registry.cache.length = _
    have hcond : w.condemned = w.site.registry.cache.filter (· ∈ w.condemned) := by
      refine List.filter_congr fun q hq => ?_
      rw [Bool.eq_iff_iff, decide_eq_true_iff]
      exact ⟨fun h => List.mem_filter.mpr ⟨hq, h⟩, fun h => (List.mem_filter.mp h).2⟩
    have hsplit := List.length_eq_length_filter_add (l := w.site.registry.cache)
      (fun q => decide (q ∈ w.condemned))
    rw [← hcond] at hsplit
    rw [hcache]
    simp only [← decide_not] at hsplit
    exact hsplit.symm
  · intro p hp
    refine (hwithout.entries p.2).trans (if_pos (List.mem_map_of_mem hp))
  · intro e he
    refine (hwithout.entries e).trans (if_neg ?_)
    intro hmem
    obtain ⟨p, hp, hpe⟩ := List.mem_map.mp hmem
    exact he p hp hpe
  · exact ho.sound.openOf_nodup (ho.cached_nodup.sublist (w.condemned_sublist.map _))
  · intro d
    show (w.site.sweptOver w.site.registry.cache).bus.bus.link? d = _
    rw [hbus', hbus]
    exact Simulated.link?_takeOffline_all _ _ d
  · show (w.site.sweptOver w.site.registry.cache).bus.bus.instruments = _
    rw [hbus', hbus]
    exact instruments_takeOffline_all _ _

/-- The verdict on a cached entry, by the record of its uses. -/
theorem Orderly.lapsed_iff {p : Address × EntryId} {is : List Instant} (ho : w.Orderly)
    (hp : p ∈ w.site.registry.cache) (hd : w.Dated p.2 is) :
    w.site.lapsed p.2 = true ↔ w.site.registry.holder? p.2 = none ∧
      ∃ i, is.max? = some i ∧
        i + w.site.registry.policy.idleThreshold.nanos ≤ w.site.clock := by
  obtain ⟨x, hx⟩ := Registry.exists_entry
    (ho.sound.coherent.lt _ _ (ho.sound.coherent.listed p hp))
  have hlast : w.site.registry.lastUsed? p.2 = some x.lastUsed :=
    Registry.readOff_of_entryAt? hx none _
  have hmax : is.max? = some x.lastUsed := hd.latest.symm.trans hlast
  have hpast : x.lastUsed ≤ w.site.clock := hd.past _ (List.max?_eq_some_iff.mp hmax).1
  have hidle : w.site.registry.policy.idleThreshold.nanos ≤
        (w.site.registry.idle p.2 w.site.clock).nanos ↔
      x.lastUsed + w.site.registry.policy.idleThreshold.nanos ≤ w.site.clock := by
    rw [Registry.idle_eq hlast]
    refine (Nat.le_sub_iff_add_le hpast).trans ?_
    rw [Nat.add_comm]
  unfold Site.lapsed
  rw [Bool.and_eq_true, Option.isNone_iff_eq_none, decide_eq_true_iff, hidle, hmax]
  simp

/-- The exact effect of a sweep. Wherever a run leads, a task that is about
to sweep, because it was asked to or because it is the background sweep
and its time has come, does so in one turn. The entries that leave the
cache are those whose lock is free and for which the threshold has passed
since the latest of their uses: since they were put into the cache, a
program was started on them, or a program on them came to its end. They
are counted, and beyond what `Swept` says nothing is changed; all other
tasks stand where they stood. -/
theorem sweep_exact {b : Simulated} {options : SessionOptions} {policy : SweepPolicy}
    {hs : List Happening} (hb : 0 ≤ b.nextDescriptor)
    (hr : (World.unused b options policy).run hs = some w) (ht : w.task? id = some t)
    (hbegins : t.BeginsSweep w.site) :
    ∃ w' gone, w.Turn id w' ∧ w'.tasks = w.tasks.set id (t.afterSweep w.site gone.length) ∧
      gone.Sublist w.site.registry.cache ∧
      (∀ p ∈ w.site.registry.cache, p ∈ gone ↔ w.site.registry.holder? p.2 = none ∧
        ∃ i, ((World.unused b options policy).uses p.2 hs).max? = some i ∧
          i + policy.idleThreshold.nanos ≤ w.site.clock) ∧
      Swept gone w w' := by
  have hreaches : (World.unused b options policy).Reaches w := ⟨hs, hr⟩
  have ho : w.Orderly := (orderly_unused hb options policy).reaches hreaches
  obtain ⟨n, hrun⟩ := ho.sweeps ht hbegins
  have hrests : w.Rests id ∧ (t.afterSweep w.site w.condemned.length).atRest = true := by
    refine ⟨fun u hu => ?_, ?_⟩
    · cases ht.symm.trans hu
      cases hbegins <;> rfl
    · cases hbegins <;> rfl
  refine ⟨_, w.condemned, ⟨hrests.1, fun u hu => ?_, n, hrun⟩, rfl, w.condemned_sublist, ?_,
    ho.swept _⟩
  · cases (task?_set_self ht _ _).symm.trans hu
    exact hrests.2
  · intro p hp
    have hverdict := ho.lapsed_iff hp (dated hb hr p.2)
    rw [(sound_unused hb options policy).policy_reaches hreaches,
      show (World.unused b options policy).site.registry.policy = policy from rfl] at hverdict
    rw [← hverdict]
    exact ⟨fun h => (List.mem_filter.mp h).2, fun h => List.mem_filter.mpr ⟨hp, h⟩⟩

/-- A call that is over, one that sleeps on its session, and a sweep about
to begin as soon as the threshold has passed. -/
def overdue : List Happening :=
  [.execute ⟨5, 0⟩ [] false] ++ List.replicate 8 (.step 0) ++
    [.execute ⟨6, 0⟩ [.sleep (.ofSecs 9)] false] ++ List.replicate 7 (.step 1) ++
    [.elapse (.ofSecs 1), .evict]

/-- The sweep gives up the one entry, on the instant, and spares the
other. -/
theorem sweep_exact_overdue :
    ∃ w w' gone, (World.unused .empty .standard ⟨.ofSecs 1, .zero⟩).run overdue = some w ∧
      w.Turn 2 w' ∧ w'.sweep? 2 = some ⟨w.site.clock, [], gone.length, .ended⟩ ∧
      (⟨5, 0⟩, 0) ∈ gone ∧ (⟨6, 0⟩, 1) ∉ gone ∧ Swept gone w w' := by
  have hrun : ((World.unused .empty .standard ⟨.ofSecs 1, .zero⟩).run overdue).any (fun w =>
      w.sweep? 2 == some .new && w.site.registry.cache == [(⟨5, 0⟩, 0), (⟨6, 0⟩, 1)] &&
        w.site.registry.holder? 0 == none && w.site.registry.holder? 1 == some 1 &&
        w.site.clock == 1000000000) = true := by
    decide +kernel
  have huses : ((World.unused .empty .standard ⟨.ofSecs 1, .zero⟩).uses 0 overdue).max? =
      some 0 := by
    decide +kernel
  obtain ⟨w, hw, hall⟩ := (Option.any_eq_true _ _).mp hrun
  simp only [Bool.and_eq_true, beq_iff_eq] at hall
  obtain ⟨⟨⟨⟨hsweep, hcache⟩, hfree⟩, hheld⟩, hclock⟩ := hall
  have ht := sweep?_eq_some.mp hsweep
  obtain ⟨w', gone, hturn, htasks, -, hgone, hswept⟩ :=
    sweep_exact (by decide) hw ht .asked
  rw [hcache] at hgone
  refine ⟨w, w', gone, hw, hturn, ?_, ?_, ?_, hswept⟩
  · have hself := task?_set_self ht (.sweep ⟨w.site.clock, [], gone.length, .ended⟩) w'.site
    refine sweep?_eq_some.mpr (Eq.trans ?_ hself)
    show w'.tasks[2]? = _
    rw [htasks]
    rfl
  · refine (hgone _ (by decide)).mpr ⟨hfree, 0, huses, ?_⟩
    rw [hclock]
    decide
  · intro hin
    have hno := ((hgone _ (by decide)).mp hin).1
    rw [hheld] at hno
    cases hno

end World

end InstrumentBus
