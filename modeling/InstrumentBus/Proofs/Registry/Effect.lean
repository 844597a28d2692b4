/-
What one step of a task may do, said once.

A step is described by three lists of possibilities: what becomes of
slots and bus (`Site.Turnover`), of the cache (`Recache`) and of the locks
(`Relock`). Each possibility names what entitles the task to it — as a
rule, that it holds the lock of the entry concerned. `Effect` puts them
together, and `Task.Sound` is what a task may rely on where it stands: a
call that is about to start its program, say, has an open session before
it, in the current entry of its address.

The rest of the file goes through the operations that the steps are made
of and says which possibility each of them is.
-/
import InstrumentBus.Proofs.Registry.Ownership

namespace InstrumentBus

-- ===================================================== where a task stands

/-- The entry on which a call has been let past its second check of the
registry, and not been turned away since. -/
def Call.admitted : CallStage → Option EntryId
  | .confirm e | .fill e | .enter e | .acting e _ _ => some e
  | _ => none

/-- The same of a task. Only calls are let in. -/
def Task.admitted : Task → Option EntryId
  | .call c => Call.admitted c.stage
  | _ => none

theorem Call.lockHeld_of_admitted {stage : CallStage} {e : EntryId}
    (h : Call.admitted stage = some e) : Call.lockHeld stage = some e := by
  cases stage <;> first | exact h | cases h

/-- A task that has been let in is a call that holds the lock. -/
theorem Task.of_admitted {t : Task} {e : EntryId} (h : t.admitted = some e) :
    t.lockHeld = some e ∧ t.queuedOn = none ∧ t.closing = none := by
  cases t with
  | call c =>
      refine ⟨Call.lockHeld_of_admitted h, ?_, rfl⟩
      obtain ⟨address, program, cancelled, entered, replies, stage⟩ := c
      cases stage <;> first | rfl | cases h
  | sweep s => cases h
  | disposal d => cases h
  | ticker t => cases h

/-- An entry whose session a task is about to close is held by it. -/
theorem Task.lockHeld_of_closing {t : Task} {e : EntryId} (h : t.closing = some e) :
    t.lockHeld = some e := by
  cases t with
  | call c => cases h
  | disposal d => cases h
  | sweep s =>
      obtain ⟨began, todo, evicted, stage⟩ := s
      cases stage <;> first | exact h | cases h
  | ticker t =>
      cases t with
      | sweeping s mark =>
          obtain ⟨began, todo, evicted, stage⟩ := s
          cases stage <;> first | exact h | cases h
      | _ => cases h

-- ======================================================= the possibilities

/-- What becomes of the cache when a task goes from `t` to `t'`. -/
inductive Recache (t t' : Task) (r r' : Registry) : Prop where
  | same (hc : r'.cache = r.cache) (hl : r'.entries.length = r.entries.length)
  -- a vacant entry is made for an address that had none
  | made (a : Address) (hn : r.current? a = none)
      (hc : r'.cache = Keyed.set r.cache a r.entries.length)
      (hl : r'.entries.length = r.entries.length + 1)
  -- an entry leaves the cache: a vacant one, or one whose session is
  -- about to be closed
  | forgot (a : Address) (e : EntryId) (hh : t.lockHeld = some e)
      (hs : r'.slot? e = none ∨ t'.closing = some e)
      (hc : r'.cache = (r.forget a e).cache) (hl : r'.entries.length = r.entries.length)
  -- the cache is emptied, at the end of a disposal
  | cleared (ht : t = .disposal .clear) (hc : r'.cache = [])
      (hl : r'.entries.length = r.entries.length)

/-- The locks are as they were. -/
def SameLocks (r r' : Registry) : Prop :=
  ∀ e, r'.holder? e = r.holder? e ∧ r'.waiting e = r.waiting e

theorem SameLocks.refl (r : Registry) : SameLocks r r := fun _ => ⟨rfl, rfl⟩

theorem SameLocks.trans {r r' r'' : Registry} (h : SameLocks r r') (h' : SameLocks r' r'') :
    SameLocks r r'' := fun e => ⟨(h' e).1.trans (h e).1, (h' e).2.trans (h e).2⟩

/-- Registries that differ in the times of use at most. -/
structure Registry.Alike (r r' : Registry) : Prop where
  slot : ∀ e, r'.slot? e = r.slot? e
  cache : r'.cache = r.cache
  length : r'.entries.length = r.entries.length
  locks : SameLocks r r'
  disposed : r'.disposed = r.disposed
  created : r'.created = r.created

theorem Registry.Alike.refl (r : Registry) : r.Alike r :=
  ⟨fun _ => rfl, rfl, rfl, .refl r, rfl, rfl⟩

theorem Registry.alike_touch (r : Registry) (e : EntryId) (now : Instant) :
    r.Alike (r.touch e now) :=
  ⟨fun _ => slot?_touch _ _ _ _, rfl, length_touch _ _ _,
    fun _ => ⟨holder?_touch _ _ _ _, waiting_touch _ _ _ _⟩, rfl, rfl⟩

/-- What becomes of the locks when a task goes from `t` to `t'`. -/
inductive Relock (id : TaskId) (t t' : Task) (r r' : Registry) : Prop where
  -- nothing, and the task keeps what it has
  | keep (h : SameLocks r r') (hh : t'.lockHeld = t.lockHeld) (hq : t'.queuedOn = t.queuedOn)
  -- the task notices that it was handed the lock
  | notice (e : EntryId) (h : SameLocks r r') (hh : t.lockHeld = none) (hq : t.queuedOn = some e)
      (hg : r.holder? e = some id) (hh' : t'.lockHeld = some e) (hq' : t'.queuedOn = none)
  -- the task asks for a lock, and gets it or gets in line
  | request (e : EntryId) (he : e < r.entries.length) (hh : t.lockHeld = none)
      (hq : t.queuedOn = none)
      (hl : ∀ e', r'.holder? e' = (r.modifyLock e (·.request id)).holder? e' ∧
        r'.waiting e' = (r.modifyLock e (·.request id)).waiting e')
      (hh' : t'.lockHeld = if r'.holder? e = some id then some e else none)
      (hq' : t'.queuedOn = if r'.holder? e = some id then none else some e)
  -- the task takes a lock that is free
  | take (e : EntryId) (hf : r.holder? e = none) (hh : t.lockHeld = none)
      (hq : t.queuedOn = none) (he : r'.holder? e = some id)
      (hw : ∀ e', r'.waiting e' = r.waiting e')
      (hl : ∀ e', e' ≠ e → r'.holder? e' = r.holder? e')
      (hh' : t'.lockHeld = some e) (hq' : t'.queuedOn = none)
  -- the task lets go of the lock it holds
  | release (e : EntryId) (hh : t.lockHeld = some e) (hq : t.queuedOn = none)
      (hl : ∀ e', r'.holder? e' = (r.modifyLock e (·.release)).holder? e' ∧
        r'.waiting e' = (r.modifyLock e (·.release)).waiting e')
      (hh' : t'.lockHeld = none) (hq' : t'.queuedOn = none)
  -- the task leaves the queue
  | withdraw (e : EntryId) (hh : t.lockHeld = none) (hq : t.queuedOn = some e)
      (hl : ∀ e', r'.holder? e' = (r.modifyLock e (·.withdraw id)).holder? e' ∧
        r'.waiting e' = (r.modifyLock e (·.withdraw id)).waiting e')
      (hh' : t'.lockHeld = none) (hq' : t'.queuedOn = none)

/-- What a step of a task may do. -/
structure Effect (id : TaskId) (t : Task) (x : BusSite) (t' : Task) (x' : BusSite) : Prop where
  slots : Site.Turnover t.lockHeld x x'
  cache : Recache t t' x.registry x'.registry
  locks : Relock id t t' x.registry x'.registry
  -- a registry disposed of stays so
  disposed : x.registry.disposed = true → x'.registry.disposed = true
  -- a call is let in only while the registry is in use
  admitted : ∀ e, t'.admitted = some e → t.admitted = some e ∨ x.registry.disposed = false
  -- a slot is filled only by a call that has been let in
  filled : ∀ e, x.registry.slot? e = none → x'.registry.slot? e ≠ none → t.admitted = some e
  -- an entry taken out of the cache has its session closed next
  closes : ∀ e, t.closing = some e → x'.registry.slot? e = none ∨ t'.closing = some e
  -- a session is asked for by a call that has found none open
  created : x'.registry.created ≠ x.registry.created →
    ∃ c e, t = .call c ∧ c.stage = .fill e ∧ ∀ s, x.registry.slot? e = some s → s.closed = true

-- ========================================== what a task may rely on

/-- The cache and the entries agree. -/
structure Registry.Coherent (r : Registry) : Prop where
  -- a cached entry exists
  lt : ∀ a e, r.current? a = some e → e < r.entries.length
  -- no two addresses share an entry
  inj : ∀ a b e, r.current? a = some e → r.current? b = some e → a = b
  -- an address is listed once
  listed : ∀ p ∈ r.cache, r.current? p.1 = some p.2

/-- What a call may rely on where it stands. -/
def Call.Sound (c : Call) (r : Registry) : Prop :=
  match c.stage with
  | .request e => e < r.entries.length
  | .fill e => r.current? c.address = some e
  | .enter e => r.current? c.address = some e ∧ ∃ s, r.slot? e = some s ∧ s.closed = false
  | .acting e _ _ =>
    r.current? c.address = some e ∧ ∃ s t, r.slot? e = some s ∧ c.entered = some (t, s.descriptor)
  | .abandon e _ => r.slot? e = none
  | _ => True

/-- The entries a disposal has yet to ask for. -/
def Disposal.todo : Disposal → List EntryId
  | .next todo | .queued _ todo | .close _ todo | .unlock _ todo => todo
  | .mark | .list | .clear | .ended | .dropped => []

/-- The entries that a disposal has yet to drain, once it has listed them. -/
def Disposal.pending? : Disposal → Option (List EntryId)
  | .next todo | .unlock _ todo => some todo
  | .queued e todo | .close e todo => some (e :: todo)
  | .clear => some []
  | .mark | .list | .ended | .dropped => none

/-- The same of a task. -/
def Task.pending? : Task → Option (List EntryId)
  | .disposal d => d.pending?
  | _ => none

/-- What a disposal may do to the entries it has yet to drain: list those
of the cache, or leave out one that it has just emptied and still holds. -/
inductive Drains (t t' : Task) (x x' : BusSite) (l : List EntryId) : Prop where
  | kept (h : t.pending? = some l)
  | listed (ht : t = .disposal .list) (hx : x' = x) (hl : l = x.registry.cache.map (·.2))
  | emptied (e : EntryId) (h : t.pending? = some (e :: l)) (hh : t'.lockHeld = some e)
      (hs : x'.registry.slot? e = none)

/-- A task goes on as what it was begun as. A call keeps its address and
its program, and starts the program only where it is about to; a disposal
marks the registry first and empties the cache last. -/
inductive Task.Follows : Task → Task → Prop where
  | call {c c' : Call} (ha : c'.address = c.address) (hp : c'.program = c.program)
      (he : c'.entered = c.entered ∨ ∃ e, c.stage = .enter e) : Follows (.call c) (.call c')
  | sweep (s s' : Sweep) : Follows (.sweep s) (.sweep s')
  | disposal {d d' : Disposal} (hm : d' = .mark → d = .mark)
      (he : d' = .ended → d = .ended ∨ d = .clear ∨ d = .mark) :
      Follows (.disposal d) (.disposal d')
  | ticker (k k' : TickerStage) : Follows (.ticker k) (.ticker k')

/-- What a task may rely on where it stands. -/
def Task.Sound (t : Task) (r : Registry) : Prop :=
  match t with
  | .call c => c.Sound r
  | .disposal d => (d = .list → r.disposed = true) ∧ ∀ e ∈ d.todo, e < r.entries.length
  | .sweep _ | .ticker _ => True

-- ================================================ the single operations

namespace Site

variable {x : BusSite} {e e' : EntryId} {held : Option EntryId}

/-- Closing what is in a slot leaves the rest of the registry. -/
theorem sameLocks_closeSlot (x : BusSite) (e : EntryId) :
    SameLocks x.registry (x.closeSlot e).registry := by
  intro e'
  cases h : x.registry.slot? e with
  | none => rw [closeSlot_of_none h]; exact ⟨rfl, rfl⟩
  | some s =>
      rw [closeSlot_of_some h]
      exact ⟨Registry.holder?_setSlot _ _ _ _, Registry.waiting_setSlot _ _ _ _⟩

theorem closed_close (s : Session) (b : Recorded Simulated) : (s.close b).1.closed = true := by
  unfold Session.close
  split
  · assumption
  · rfl

theorem turnover_closeSlot (x : BusSite) (hh : held = some e) :
    Turnover held x (x.closeSlot e) := by
  cases h : x.registry.slot? e with
  | none =>
      rw [closeSlot_of_none h]
      exact .idle ⟨rfl, rfl⟩ rfl fun _ => rfl
  | some s =>
      refine .acted e s (s.close x.bus).1 none hh (.inr ⟨rfl, closed_close s x.bus⟩) h
        (slot?_closeSlot x e) (fun e' hne => ?_) ?_
      · rw [closeSlot_of_some h]
        exact Registry.slot?_setSlot_ne _ _ (Ne.symm hne)
      · rw [closeSlot_of_some h]
        exact Conducts.of_close s x.bus

/-- An emptied cache, when nothing was left in its slots. -/
theorem discard_of_vacant (x : BusSite)
    (h : ∀ p ∈ x.registry.cache, x.registry.slot? p.2 = none) :
    x.discard = x.modifyRegistry fun r => { r with cache := [] } := by
  have hfold : ∀ l : List (Address × EntryId), (∀ p ∈ l, x.registry.slot? p.2 = none) →
      l.foldl (fun x p => x.closeSlot p.2) x = x := by
    intro l
    induction l with
    | nil => exact fun _ => rfl
    | cons p rest ih =>
        intro hl
        rw [List.foldl_cons, closeSlot_of_none (hl p List.mem_cons_self)]
        exact ih fun q hq => hl q (List.mem_cons_of_mem p hq)
  unfold discard
  rw [hfold _ h]

-- ================================================= a session asked for

/-- The session of an entry is open already. -/
theorem fillSlot_of_open {a : Address} {s : Session} (h : x.registry.slot? e = some s)
    (ho : s.closed = false) : x.fillSlot a e = (x, .ok ()) := by
  unfold fillSlot
  rw [h, Option.filter_some, ho]
  rfl

/-- A session is asked for. -/
theorem fillSlot_of_vacant (a : Address) (h : ∀ s, x.registry.slot? e = some s → s.closed = true) :
    x.fillSlot a e =
      let r := (Session.connect a x.registry.options).run x.bus
      ({ x with
          bus := r.2
          registry := { x.registry with created := x.registry.created + 1 }.setSlot e r.1.toOption },
        r.1.map fun _ => ()) := by
  have hf : (x.registry.slot? e).filter (fun s => !s.closed) = none := by
    cases hs : x.registry.slot? e with
    | none => rfl
    | some s =>
        rw [Option.filter_some, h s hs]
        rfl
  unfold fillSlot
  rw [hf]
  simp only
  rcases (Session.connect a x.registry.options).run x.bus with ⟨r, bus⟩
  cases r <;> rfl

/-- A session just made is open, and at the address that was asked for. -/
theorem connect_ok {a : Address} {o : SessionOptions} {b b' : Recorded Simulated} {s : Session}
    (h : (Session.connect a o).run b = (.ok s, b')) : s.closed = false ∧ s.address = a := by
  obtain ⟨bus, d, -, hrun⟩ := run_connect_recorded a o b
  rw [hrun] at h
  split at h
  · cases (Prod.mk.inj h).1
  · cases (Prod.mk.inj h).1
    exact ⟨rfl, rfl⟩

theorem vacant_or_open (r : Registry) (e : EntryId) :
    (∃ s, r.slot? e = some s ∧ s.closed = false) ∨ ∀ s, r.slot? e = some s → s.closed = true := by
  cases h : r.slot? e with
  | none => exact .inr nofun
  | some s =>
      cases hc : s.closed with
      | false => exact .inl ⟨s, rfl, hc⟩
      | true =>
          refine .inr fun s' hs => ?_
          cases hs
          exact hc

end Site

-- ===================================================== a program at work

namespace Call

variable {x x' : BusSite} {e : EntryId} {id : TaskId} {s : Session}
  {run : StateM (Line (Recorded Simulated)) Advance}

/-- The site after part of a program has been carried out: the session
that came of it is in the slot, and nothing else of the registry has
changed but, perhaps, the time of last use. -/
theorem act_site (c : Call) (e : EntryId) (s : Session) (x : BusSite)
    (run : StateM (Line (Recorded Simulated)) Advance) :
    ∃ r, (c.act e s x run).2 = { x with bus := (run.run (s, x.bus)).2.2, registry := r } ∧
      (r = x.registry.setSlot e (some (run.run (s, x.bus)).2.1) ∨
        r = (x.registry.setSlot e (some (run.run (s, x.bus)).2.1)).touch e x.clock) := by
  unfold act
  rcases run.run (s, x.bus) with ⟨advance, s', b'⟩
  cases advance with
  | done replies result => exact ⟨_, rfl, .inr rfl⟩
  | paused replies pending rest => exact ⟨_, rfl, .inl rfl⟩

/-- The call after part of its program has been carried out: it pauses in
it, or is about to release the lock. -/
theorem act_call (c : Call) (e : EntryId) (s : Session) (x : BusSite)
    (run : StateM (Line (Recorded Simulated)) Advance) :
    ∃ replies stage, (c.act e s x run).1 = { c with replies := c.replies ++ replies, stage } ∧
      ((∃ pending rest, stage = .acting e pending rest) ∨ ∃ result, stage = .leave e result) := by
  unfold act
  rcases run.run (s, x.bus) with ⟨advance, s', b'⟩
  cases advance with
  | done replies result => exact ⟨replies, _, rfl, .inr ⟨result, rfl⟩⟩
  | paused replies pending rest => exact ⟨replies, _, rfl, .inl ⟨pending, rest, rfl⟩⟩

theorem act_frame (c : Call) (e : EntryId) (s : Session) (x : BusSite)
    (run : StateM (Line (Recorded Simulated)) Advance) :
    SameLocks x.registry (c.act e s x run).2.registry ∧
      (c.act e s x run).2.registry.cache = x.registry.cache ∧
      (c.act e s x run).2.registry.entries.length = x.registry.entries.length ∧
      (c.act e s x run).2.registry.disposed = x.registry.disposed ∧
      (c.act e s x run).2.registry.created = x.registry.created := by
  obtain ⟨r, hx, hr⟩ := act_site c e s x run
  rw [hx]
  rcases hr with rfl | rfl
  · exact ⟨fun _ => ⟨Registry.holder?_setSlot _ _ _ _, Registry.waiting_setSlot _ _ _ _⟩, rfl,
      Registry.length_setSlot _ _ _, rfl, rfl⟩
  · refine ⟨fun _ => ⟨?_, ?_⟩, rfl, ?_, rfl, rfl⟩
    · exact (Registry.holder?_touch _ _ _ _).trans (Registry.holder?_setSlot _ _ _ _)
    · exact (Registry.waiting_touch _ _ _ _).trans (Registry.waiting_setSlot _ _ _ _)
    · exact (Registry.length_touch _ _ _).trans (Registry.length_setSlot _ _ _)

theorem slot?_act (c : Call) (e : EntryId) (s : Session) (x : BusSite)
    (run : StateM (Line (Recorded Simulated)) Advance) (h : x.registry.slot? e = some s) :
    (c.act e s x run).2.registry.slot? e = some (run.run (s, x.bus)).2.1 ∧
      ∀ e', e' ≠ e → (c.act e s x run).2.registry.slot? e' = x.registry.slot? e' := by
  obtain ⟨r, hx, hr⟩ := act_site c e s x run
  rw [hx]
  have hlt := Registry.lt_of_slot? h
  rcases hr with rfl | rfl
  · exact ⟨Registry.slot?_setSlot _ hlt, fun e' hne => Registry.slot?_setSlot_ne _ _ (Ne.symm hne)⟩
  · refine ⟨?_, fun e' hne => ?_⟩
    · exact (Registry.slot?_touch _ _ _ _).trans (Registry.slot?_setSlot _ hlt)
    · exact (Registry.slot?_touch _ _ _ _).trans (Registry.slot?_setSlot_ne _ _ (Ne.symm hne))

theorem bus_act (c : Call) (e : EntryId) (s : Session) (x : BusSite)
    (run : StateM (Line (Recorded Simulated)) Advance) :
    (c.act e s x run).2.bus = (run.run (s, x.bus)).2.2 := by
  obtain ⟨r, hx, -⟩ := act_site c e s x run
  rw [hx]

/-- Part of a program carried out by a call that has been let in and has a
session before it. When the entry was last used may have been changed
just before. -/
theorem act_effect {t : Task} {c : Call} {x₀ : BusSite} (ht : t.admitted = some e)
    (h : x.registry.slot? e = some s) (hrun : Orderly run) (hr : x₀.registry.Alike x.registry)
    (hb : x.bus = x₀.bus) :
    Effect id t x₀ (.call (c.act e s x run).1) (c.act e s x run).2 := by
  obtain ⟨hheld, hq, hclosing⟩ := Task.of_admitted ht
  obtain ⟨hlocks, hcache, hlen, hdis, hcreated⟩ := act_frame c e s x run
  obtain ⟨hself, hothers⟩ := slot?_act c e s x run h
  obtain ⟨replies, stage, hcall, hstage⟩ := act_call c e s x run
  have h₀ : x₀.registry.slot? e = some s := (hr.slot e).symm.trans h
  refine
    { slots := .acted e s _ _ hheld (.inl rfl) h₀ hself (fun e' he => ?_) ?_
      cache := .same (hcache.trans hr.cache) (hlen.trans hr.length)
      locks := .keep (hr.locks.trans hlocks) ?_ ?_
      disposed := fun hd => hdis.trans (hr.disposed.trans hd)
      admitted := fun e' he => .inl ?_
      filled := fun e' hn hf => ?_
      closes := fun e' he => ?_
      created := fun hne => absurd (hcreated.trans hr.created) hne }
  · exact (hothers e' he).trans (hr.slot e')
  · rw [bus_act, ← hb]
    exact hrun (s, x.bus)
  · rw [hcall, hheld]
    rcases hstage with ⟨pending, rest, rfl⟩ | ⟨result, rfl⟩ <;> rfl
  · rw [hcall, hq]
    rcases hstage with ⟨pending, rest, rfl⟩ | ⟨result, rfl⟩ <;> rfl
  · rw [hcall] at he
    rcases hstage with ⟨pending, rest, rfl⟩ | ⟨result, rfl⟩
    · exact ht.trans he
    · cases he
  · by_cases he : e' = e
    · rw [he, h₀] at hn
      cases hn
    · rw [hothers e' he, hr.slot] at hf
      exact absurd hn hf
  · rw [hclosing] at he
    cases he

/-- A call that pauses in its program still has its session before it. -/
theorem act_sound {c : Call} (hc : x.registry.current? c.address = some e)
    (h : x.registry.slot? e = some s) (hrun : Orderly run)
    (hent : ∃ t, c.entered = some (t, s.descriptor)) :
    (c.act e s x run).1.Sound (c.act e s x run).2.registry := by
  obtain ⟨-, hcache, -⟩ := act_frame c e s x run
  obtain ⟨hself, -⟩ := slot?_act c e s x run h
  obtain ⟨replies, stage, hcall, hstage⟩ := act_call c e s x run
  obtain ⟨t, hent⟩ := hent
  rw [hcall]
  rcases hstage with ⟨pending, rest, rfl⟩ | ⟨result, rfl⟩
  · refine ⟨?_, _, t, hself, ?_⟩
    · unfold Registry.current?
      rw [hcache]
      exact hc
    · show c.entered = some (t, _)
      rw [hent, show (run.run (s, x.bus)).2.1.descriptor = s.descriptor from
        (hrun (s, x.bus)).descriptor]
  · exact True.intro

end Call

end InstrumentBus
