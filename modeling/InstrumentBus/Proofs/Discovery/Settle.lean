/-
Tasks that nobody gets in the way of.

A task that runs while the others rest takes its steps one after the
other, up to where it has to wait, and as long as no lock is held by
another it does not have to wait at all. So what a whole turn comes to can
be said in one equation. There is one for the first call for an address
(`World.settle_first`): an entry is made, a session opened for it, the
program carried out, and the lock is free again. And there is one for a
disposal (`World.settle_disposal`): the sessions in the cache are closed,
in its order, and the cache is empty.

Nothing is asked of the driver here. What it says to the open and to the
program is a hypothesis.
-/
import InstrumentBus.Proofs.Registry.View

namespace InstrumentBus

-- ======================================================= the new entry

/-- An entry of an instant, whose lock a task holds. -/
def Entry.heldBy (id : TaskId) (now : Instant) (slot : Option Session) : Entry :=
  ⟨slot, now, ⟨some id, []⟩⟩

namespace Registry

/-- The registry with a new entry, the current one of an address. -/
def install (r : Registry) (a : Address) (entry : Entry) : Registry :=
  { r with
    cache := Keyed.set r.cache a r.entries.length
    entries := r.entries ++ [entry] }

variable {r : Registry} {a : Address} {entry : Entry} {e : EntryId}

theorem resolve_new (h : r.current? a = none) (now : Instant) :
    r.resolve a now = (r.install a (.vacant now), r.entries.length) := by
  unfold resolve
  rw [h]
  rfl

theorem entryAt?_install : (r.install a entry).entryAt? r.entries.length = some entry :=
  List.getElem?_concat_length

theorem modifyEntry_install (r : Registry) (a : Address) (entry : Entry) (f : Entry → Entry) :
    (r.install a entry).modifyEntry r.entries.length f = r.install a (f entry) := by
  have hlast : (r.entries ++ [entry]).modify r.entries.length f = r.entries ++ [f entry] := by
    induction r.entries with
    | nil => rfl
    | cons first rest ih => exact congrArg (first :: ·) ih
  unfold modifyEntry install
  simp only [hlast]

theorem isCurrent_install : (r.install a entry).isCurrent a r.entries.length = true :=
  isCurrent_iff.mpr ((Keyed.get?_set _ _ _ _).trans (if_pos rfl))

theorem slot?_install : (r.install a entry).slot? r.entries.length = entry.slot := by
  unfold slot?
  rw [entryAt?_install]
  rfl

theorem slot?_install_ne (h : e ≠ r.entries.length) : (r.install a entry).slot? e = r.slot? e := by
  have hold : (r.entries ++ [entry])[e]? = r.entries[e]? := by
    rcases Nat.lt_or_gt_of_ne h with hlt | hgt
    · exact List.getElem?_append_left hlt
    · rw [List.getElem?_eq_none (Nat.le_of_lt hgt), List.getElem?_eq_none]
      rw [List.length_append]
      exact hgt
  exact congrArg (Option.bind · (·.slot)) hold

/-- There is an open session on a descriptor in the slot of an entry. -/
def Occupied (r : Registry) (e : EntryId) (d : Int) : Prop :=
  ∃ s, r.slot? e = some s ∧ s.closed = false ∧ s.descriptor = d

theorem Occupied.lt {d : Int} (h : r.Occupied e d) : e < r.entries.length := by
  obtain ⟨s, hs, -⟩ := h
  exact lt_of_slot? hs

-- ======================================================== free locks

/-- Nobody holds the lock of an entry, nor waits for it. -/
def Unlocked (r : Registry) : Prop := ∀ e entry, r.entryAt? e = some entry → entry.lock = .free

theorem Unlocked.install (h : r.Unlocked) (a : Address) {entry : Entry} (he : entry.lock = .free) :
    (r.install a entry).Unlocked := by
  intro e' entry' he'
  have hmem : entry' ∈ r.entries ++ [entry] := List.mem_of_getElem? he'
  rcases List.mem_append.mp hmem with hold | hnew
  · obtain ⟨k, hk⟩ := List.mem_iff_getElem?.mp hold
    exact h k entry' hk
  · cases List.mem_singleton.mp hnew
    exact he

theorem Unlocked.setSlot (h : r.Unlocked) (e : EntryId) (slot : Option Session) :
    (r.setSlot e slot).Unlocked := by
  intro e' entry' he'
  unfold Registry.setSlot at he'
  rw [entryAt?_modifyEntry] at he'
  split at he'
  · obtain ⟨entry, hentry, rfl⟩ := Option.map_eq_some_iff.mp he'
    exact h e' entry hentry
  · exact h e' entry' he'

/-- A free lock is taken and let go of, and is as it was. -/
theorem Unlocked.release_request (h : r.Unlocked) (e : EntryId) (id : TaskId) :
    (r.modifyLock e (·.request id)).modifyLock e (·.release) = r := by
  unfold modifyLock
  rw [modifyEntry_modifyEntry]
  refine modifyEntry_self fun entry hentry => ?_
  have hfree := h e entry hentry
  show { entry with lock := (entry.lock.request id).release } = entry
  rw [hfree]
  exact congrArg (fun lock => { entry with lock }) hfree.symm

end Registry

namespace Site

variable {β : Type} [RawBus β] {x : Site β} {e : EntryId}

/-- The sessions of entries closed, one after the other. -/
def closeAll (x : Site β) (es : List EntryId) : Site β := es.foldl closeSlot x

/-- A session is closed under the lock of its entry. -/
theorem closeSlot_locked (h : x.registry.Unlocked) (e : EntryId) (id : TaskId) :
    ((x.modifyRegistry (·.modifyLock e (·.request id))).closeSlot e).modifyRegistry
      (·.modifyLock e (·.release)) = x.closeSlot e := by
  have hslot := Registry.slot?_modifyLock x.registry e e (·.request id)
  cases hs : x.registry.slot? e with
  | none =>
      rw [closeSlot_of_none hs, closeSlot_of_none (hslot.trans hs)]
      exact congrArg (fun r => { x with registry := r }) (h.release_request e id)
  | some s =>
      have hsame := (h.setSlot e none).release_request e id
      rw [← Registry.setSlot_modifyLock] at hsame
      rw [closeSlot_of_some hs, closeSlot_of_some (hslot.trans hs)]
      exact congrArg (fun r => { x with bus := (s.close x.bus).2, registry := r }) hsame

theorem unlocked_closeSlot (h : x.registry.Unlocked) (e : EntryId) :
    (x.closeSlot e).registry.Unlocked := by
  cases hs : x.registry.slot? e with
  | none => rwa [closeSlot_of_none hs]
  | some s =>
      rw [closeSlot_of_some hs]
      exact h.setSlot e none

/-- A vacant slot is filled in the entry that was made last. -/
theorem fillSlot_install {b bus : β} {now : Instant} {r : Registry} {a : Address} {s : Session}
    {entry : Entry} (hslot : entry.slot = none)
    (hc : (Session.connect a r.options).run b = (.ok s, bus)) :
    fillSlot ⟨b, now, r.install a entry⟩ a r.entries.length =
      (⟨bus, now, { r with created := r.created + 1 }.install a { entry with slot := some s }⟩,
        .ok ()) := by
  have hvacant : (r.install a entry).slot? r.entries.length = none :=
    Registry.slot?_install.trans hslot
  have hconnect : (Session.connect a (r.install a entry).options).run b = (.ok s, bus) := hc
  unfold fillSlot
  simp only [hvacant, Option.filter_none, hconnect]
  exact congrArg (fun q : Registry => ((⟨bus, now, q⟩ : Site β), Except.ok ()))
    ({ r with created := r.created + 1 }.modifyEntry_install a entry _)

/-- Nothing is done where there is nothing to be closed. -/
theorem closeAll_none {es : List EntryId} (h : ∀ e ∈ es, x.registry.slot? e = none) :
    x.closeAll es = x := by
  induction es with
  | nil => rfl
  | cons e rest ih =>
      show (x.closeSlot e).closeAll rest = x
      rw [closeSlot_of_none (h e List.mem_cons_self)]
      exact ih fun e' he' => h e' (List.mem_cons_of_mem _ he')

/-- Open sessions that are closed are taken offline, one after the other, and
leave their slots. -/
theorem closeAll_open {es : List EntryId} (hes : es.Nodup) {d : EntryId → Int}
    (hs : ∀ e ∈ es, x.registry.Occupied e (d e)) :
    (x.closeAll es).bus = es.foldl (fun b e => RawBus.takeOffline b (d e) 0) x.bus ∧
      (x.closeAll es).registry.cache = x.registry.cache ∧
      ∀ e, (x.closeAll es).registry.slot? e =
        if e ∈ es then none else x.registry.slot? e := by
  induction es generalizing x with
  | nil => exact ⟨rfl, rfl, fun e => (if_neg List.not_mem_nil).symm⟩
  | cons e rest ih =>
      obtain ⟨hnew, hrest⟩ := List.nodup_cons.mp hes
      obtain ⟨s, hslot, hopen, hd⟩ := hs e List.mem_cons_self
      obtain ⟨hbus, hcache, hslots⟩ := ih (x := x.closeSlot e) hrest fun e' he' => by
        have hne : e' ≠ e := fun heq => hnew (heq ▸ he')
        unfold Registry.Occupied
        rw [slot?_closeSlot_ne x hne]
        exact hs e' (List.mem_cons_of_mem _ he')
      have hclose : (x.closeSlot e).bus = RawBus.takeOffline x.bus (d e) 0 := by
        rw [closeSlot_of_some hslot, ← hd]
        unfold Session.close
        rw [hopen, if_neg Bool.false_ne_true]
      refine ⟨?_, hcache.trans (x.closeSlot_frame e).1, fun e' => ?_⟩
      · rw [List.foldl_cons, ← hclose]
        exact hbus
      · refine (hslots e').trans ?_
        by_cases he : e' = e
        · simp [he, slot?_closeSlot]
        · simp [he, slot?_closeSlot_ne x he]

end Site

-- ========================================================== the walks

namespace World

variable {β : Type} [RawBus β]

/-- So many steps of a task lead from one world to another. -/
inductive Walks (id : TaskId) : Nat → World β → World β → Prop where
  | stay (w : World β) : Walks id 0 w w
  | step {n : Nat} {w w₁ w' : World β} (h : w.step? id = some w₁) (rest : Walks id n w₁ w') :
      Walks id (n + 1) w w'

variable {id : TaskId} {w w₁ w' : World β} {m n : Nat}

theorem Walks.trans (h : Walks id m w w₁) (h' : Walks id n w₁ w') : Walks id (n + m) w w' := by
  induction h with
  | stay => exact h'
  | step hstep _ ih => exact .step hstep (ih h')

theorem Walks.stepMany (h : Walks id n w w') (fuel : Nat) :
    stepMany (fuel + n) w id = stepMany fuel w' id := by
  induction h with
  | stay => rfl
  | @step n w w₁ w' hstep _ ih =>
      rw [← ih, ← Nat.add_assoc]
      conv => lhs; unfold World.stepMany
      rw [hstep]

/-- A task that goes so far and no further, with patience. -/
theorem Walks.settle (h : Walks id n w w') (hn : n ≤ w.patience) (hend : w'.step? id = none) :
    w.settle id = w' := by
  unfold World.settle
  rw [← Nat.sub_add_cancel hn, h.stepMany]
  cases w.patience - n with
  | zero => rfl
  | succ fuel =>
      unfold World.stepMany
      rw [hend]

variable {x x' : Site β} {tasks : List Task} {t t' : Task}

/-- The step of the task that was started last. -/
theorem step?_last : (World.mk x (tasks ++ [t])).step? tasks.length =
    (t.step tasks.length x).map fun p => ⟨p.2, tasks ++ [p.1]⟩ := by
  have htask : (World.mk x (tasks ++ [t])).task? tasks.length = some t :=
    List.getElem?_concat_length
  have hset : ∀ t', (tasks ++ [t]).set tasks.length t' = tasks ++ [t'] := fun t' => by
    rw [List.set_append_right _ _ (Nat.le_refl _), Nat.sub_self]
    rfl
  unfold step?
  rw [htask]
  simp only [hset]

/-- It takes that step first. -/
theorem Walks.last (h : t.step tasks.length x = some (t', x'))
    (rest : Walks tasks.length n ⟨x', tasks ++ [t']⟩ w') :
    Walks tasks.length (n + 1) ⟨x, tasks ++ [t]⟩ w' :=
  .step (by rw [step?_last, h]; rfl) rest

theorem Walks.call {c c' : Call} (h : c.step tasks.length x = some (c', x'))
    (rest : Walks tasks.length n ⟨x', tasks ++ [.call c']⟩ w') :
    Walks tasks.length (n + 1) ⟨x, tasks ++ [.call c]⟩ w' :=
  .last (congrArg (Option.map fun p : Call × Site β => (Task.call p.1, p.2)) h) rest

theorem Walks.disposal {d d' : Disposal} (h : d.step tasks.length x = some (d', x'))
    (rest : Walks tasks.length n ⟨x', tasks ++ [.disposal d']⟩ w') :
    Walks tasks.length (n + 1) ⟨x, tasks ++ [.disposal d]⟩ w' :=
  .last (congrArg (Option.map fun p : Disposal × Site β => (Task.disposal p.1, p.2)) h) rest

-- ============================================================ a call

variable {a : Address} {p : Program}

/-- The first call for an address makes an entry, and holds its lock at once. -/
theorem Walks.arrive (hd : x.registry.disposed = false) (hnew : x.registry.current? a = none)
    (rest : Walks tasks.length n
      ⟨x.modifyRegistry (·.install a (.heldBy tasks.length x.clock none)),
        tasks ++ [.call { Call.new a p with stage := .fill x.registry.entries.length }]⟩ w') :
    Walks tasks.length (n + 5) ⟨x, tasks ++ [.call (.new a p)]⟩ w' := by
  obtain ⟨b, now, r⟩ := x
  let id := tasks.length
  let e := r.entries.length
  let c (stage : CallStage) : Call := { Call.new a p with stage }
  let site (slot : Entry) : Site β := ⟨b, now, r.install a slot⟩
  have hcheck : (c .check).step id ⟨b, now, r⟩ = some (c .find, ⟨b, now, r⟩) :=
    if_neg (by rw [show r.disposed = false from hd]; exact Bool.false_ne_true)
  have hfind : (c .find).step id ⟨b, now, r⟩ = some (c (.request e), site (.vacant now)) :=
    congrArg (fun q : Registry × EntryId => some (c (.request q.2), (⟨b, now, q.1⟩ : Site β)))
      (Registry.resolve_new hnew now)
  have hrequest : (c (.request e)).step id (site (.vacant now)) =
      some (c (.recheck e), site (.heldBy id now none)) := by
    have hlock : (site (.vacant now)).registry.modifyLock e (·.request id) =
        r.install a (.heldBy id now none) := r.modifyEntry_install a (.vacant now) _
    have hholds : (r.install a (.heldBy id now none)).holds e id = true := by
      unfold Registry.holds
      rw [Registry.entryAt?_install]
      exact beq_self_eq_true _
    unfold Call.step
    simp only [c, Site.modifyRegistry, hlock, hholds, if_true]
    rfl
  have hrecheck : (c (.recheck e)).step id (site (.heldBy id now none)) =
      some (c (.confirm e), site (.heldBy id now none)) := by
    have hd' : (site (.heldBy id now none)).registry.disposed = false := hd
    unfold Call.step
    simp only [c, hd', if_neg Bool.false_ne_true]
  have hconfirm : (c (.confirm e)).step id (site (.heldBy id now none)) =
      some (c (.fill e), site (.heldBy id now none)) :=
    if_pos Registry.isCurrent_install
  exact .call hcheck (.call hfind (.call hrequest (.call hrecheck (.call hconfirm rest))))

/-- The first call for an address, whose session is granted and whose program
does not pause. -/
theorem settle_first (x : Site β) (tasks : List Task) {a : Address} {p : Program} {s s' : Session}
    {bus bus' : β} {replies : List Reply} {result : Except Failure Unit}
    (hd : x.registry.disposed = false) (hnew : x.registry.current? a = none)
    (hc : (Session.connect a x.registry.options).run x.bus = (.ok s, bus))
    (hp : (Program.run x.clock p).run (s, bus) = (.done replies result, (s', bus'))) :
    ((World.mk x tasks).start (.call (.new a p))).settle tasks.length =
      ⟨⟨bus', x.clock, { x.registry with created := x.registry.created + 1 }.install a
          ⟨some s', x.clock, .free⟩⟩,
        tasks ++ [.call ⟨a, p, false, some (x.clock, s.descriptor), replies, .ended result⟩]⟩ := by
  obtain ⟨b, now, r⟩ := x
  let id := tasks.length
  let e := r.entries.length
  let r₁ : Registry := { r with created := r.created + 1 }
  let c (stage : CallStage) : Call := { Call.new a p with stage }
  let c' (stage : CallStage) : Call := ⟨a, p, false, some (now, s.descriptor), replies, stage⟩
  let site (bus : β) (s : Session) : Site β :=
    ⟨bus, now, r₁.install a (.heldBy id now (some s))⟩
  have hfill : (c (.fill e)).step id ⟨b, now, r.install a (.heldBy id now none)⟩ =
      some (c (.enter e), site bus s) := by
    have hfilled : Site.fillSlot ⟨b, now, r.install a (.heldBy id now none)⟩ a e =
        (site bus s, .ok ()) := Site.fillSlot_install rfl hc
    unfold Call.step
    simp only [c, Call.new, hfilled]
  have henter : (c (.enter e)).step id (site bus s) =
      some (c' (.leave e result), site bus' s') := by
    have htouch (s : Session) : (r₁.install a (.heldBy id now (some s))).touch e now =
        r₁.install a (.heldBy id now (some s)) := r₁.modifyEntry_install a _ _
    have hslot : (r₁.install a (.heldBy id now (some s))).slot? e = some s :=
      Registry.slot?_install (r := r₁)
    have hset : (r₁.install a (.heldBy id now (some s))).setSlot e (some s') =
        r₁.install a (.heldBy id now (some s')) := r₁.modifyEntry_install a _ _
    have hprogram : (Program.run now p).run (s, bus) = (.done replies result, (s', bus')) := hp
    unfold Call.step
    simp only [c, c', site, Call.new, Site.modifyRegistry, htouch, hslot, Call.act, hprogram,
      hset, List.nil_append]
  have hleave : (c' (.leave e result)).step id (site bus' s') =
      some (c' (.ended result), ⟨bus', now, r₁.install a ⟨some s', now, .free⟩⟩) :=
    congrArg (fun q : Registry => some (c' (.ended result), (⟨bus', now, q⟩ : Site β)))
      (r₁.modifyEntry_install a _ _)
  refine Walks.settle (.arrive hd hnew (.call hfill (.call henter (.call hleave (.stay _)))))
    ?_ (by rw [step?_last]; rfl)
  show 8 ≤ 64 + _
  omega

-- ========================================================= a disposal

/-- An entry on the list of a disposal is drained. -/
theorem walks_drain (hfree : x.registry.Unlocked) {e : EntryId}
    (he : e < x.registry.entries.length) (todo : List EntryId)
    (rest : Walks tasks.length n ⟨x.closeSlot e, tasks ++ [.disposal (.next todo)]⟩ w') :
    Walks tasks.length (n + 3) ⟨x, tasks ++ [.disposal (.next (e :: todo))]⟩ w' := by
  let id := tasks.length
  let locked := x.modifyRegistry (·.modifyLock e (·.request id))
  have hholds : locked.registry.holds e id = true := by
    obtain ⟨entry, hentry⟩ := Registry.exists_entry he
    have hnobody : x.registry.holder? e = none := by
      unfold Registry.holder?
      rw [Registry.readOff_of_entryAt? hentry, hfree e entry hentry]
      rfl
    rw [Registry.holds_iff]
    refine (Registry.holder?_request he).trans ?_
    rw [hnobody]
    rfl
  have hnext : (Disposal.next (e :: todo)).step id x = some (.close e todo, locked) :=
    congrArg (fun q : Bool => some (if q then Disposal.close e todo else .queued e todo, locked))
      hholds
  have hunlock : (Disposal.unlock e todo).step id (locked.closeSlot e) =
      some (.next todo, x.closeSlot e) :=
    congrArg (fun q => some (Disposal.next todo, q)) (Site.closeSlot_locked hfree e id)
  exact .disposal hnext (.disposal rfl (.disposal hunlock rest))

theorem walks_drainAll (hfree : x.registry.Unlocked) {todo : List EntryId}
    (hin : ∀ e ∈ todo, e < x.registry.entries.length)
    (rest : Walks tasks.length n ⟨x.closeAll todo, tasks ++ [.disposal (.next [])]⟩ w') :
    Walks tasks.length (n + 3 * todo.length) ⟨x, tasks ++ [.disposal (.next todo)]⟩ w' := by
  induction todo generalizing x with
  | nil => exact rest
  | cons e todo ih =>
      have he := hin e List.mem_cons_self
      have hlength := (Site.closeSlot_frame x e).2.1
      have hmore := ih (x := x.closeSlot e) (Site.unlocked_closeSlot hfree e)
        (fun e' he' => hlength ▸ hin e' (List.mem_cons_of_mem _ he')) rest
      exact walks_drain hfree he todo hmore

/-- A disposal of a registry nobody uses. -/
theorem settle_disposal (x : Site β) (tasks : List Task) (hd : x.registry.disposed = false)
    (hfree : x.registry.Unlocked)
    (hin : ∀ p ∈ x.registry.cache, p.2 < x.registry.entries.length) :
    ((World.mk x tasks).start (.disposal .mark)).settle tasks.length =
      ⟨((x.modifyRegistry fun r => { r with disposed := true }).closeAll
          (x.registry.cache.map (·.2))).discard, tasks ++ [.disposal .ended]⟩ := by
  let marked := x.modifyRegistry fun r => { r with disposed := true }
  have hmark : Disposal.mark.step tasks.length x = some (.list, marked) :=
    if_neg (by rw [hd]; exact Bool.false_ne_true)
  have hdrain : Walks tasks.length (2 + 3 * (x.registry.cache.map (·.2)).length)
      ⟨marked, tasks ++ [.disposal (.next (x.registry.cache.map (·.2)))]⟩
      ⟨(marked.closeAll (x.registry.cache.map (·.2))).discard, tasks ++ [.disposal .ended]⟩ := by
    refine walks_drainAll (x := marked) hfree (fun e he => ?_)
      (.disposal rfl (.disposal rfl (.stay _)))
    obtain ⟨p, hp, rfl⟩ := List.mem_map.mp he
    exact hin p hp
  refine Walks.settle (.disposal hmark (.disposal rfl hdrain)) ?_ (by rw [step?_last]; rfl)
  show _ ≤ 64 + 8 * x.registry.cache.length
  rw [List.length_map]
  omega

/-- All the sessions in its cache are open. Then they are closed. -/
theorem settle_disposal_open (x : Site β) (tasks : List Task) {d : EntryId → Int}
    (hd : x.registry.disposed = false)
    (hfree : x.registry.Unlocked) (hes : (x.registry.cache.map (·.2)).Nodup)
    (hs : ∀ e ∈ x.registry.cache.map (·.2), x.registry.Occupied e (d e)) :
    (((World.mk x tasks).start (.disposal .mark)).settle tasks.length).site.bus =
      (x.registry.cache.map (·.2)).foldl (fun b e => RawBus.takeOffline b (d e) 0) x.bus := by
  let es := x.registry.cache.map (·.2)
  let marked := x.modifyRegistry fun r => { r with disposed := true }
  obtain ⟨hbus, hcache, hslots⟩ := Site.closeAll_open (x := marked) hes hs
  -- the registry is let go of with nothing left in it
  have hdiscard : (marked.closeAll es).discard.bus = (marked.closeAll es).bus := by
    have hagain : ((marked.closeAll es).registry.cache.foldl (fun x p => x.closeSlot p.2)
        (marked.closeAll es)) = (marked.closeAll es).closeAll es := by
      rw [hcache]
      exact List.foldl_map.symm
    have hnone : (marked.closeAll es).closeAll es = marked.closeAll es :=
      Site.closeAll_none fun e he => by rw [hslots, if_pos he]
    unfold Site.discard
    rw [hagain, hnone]
    rfl
  rw [settle_disposal x tasks hd hfree fun p hp => (hs p.2 (List.mem_map_of_mem hp)).lt]
  exact hdiscard.trans hbus

end World

end InstrumentBus
