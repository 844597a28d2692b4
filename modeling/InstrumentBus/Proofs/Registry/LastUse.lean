/-
When an entry was last used, and who wants to know.

Every entry carries the instant it was last used. A call puts the current
instant there when it starts its program and when the program has come to
its end, and a sweep reads it when it judges the entry. That is all: any
other step carries the instant along without looking at it, as `Bears`
says of the steps of each kind of task. So two sites that differ in this
one instant stay alike, step by step, up to a sweep for which it makes
the difference.

The same laws tell what the instant is: an entry used at some instant is
never said to have been used earlier (`World.UsedSince`), and while a
program pauses its entry was last used when the program was started
(`World.Stamped`).
-/
import InstrumentBus.Proofs.Registry.Swept

namespace InstrumentBus

namespace Registry

variable {r : Registry} {a : Address} {e e' : EntryId} {i j : Instant} {id : TaskId}

-- ======================================================== one more view

/-- When an entry was last used. -/
def lastUsed? (r : Registry) (e : EntryId) : Option Instant :=
  r.readOff e none fun x => some x.lastUsed

/-- A change to an entry that leaves the instant alone leaves it alone. -/
theorem lastUsed?_modifyEntry (r : Registry) (e e' : EntryId) {f : Entry → Entry}
    (hf : ∀ x, (f x).lastUsed = x.lastUsed) :
    (r.modifyEntry e f).lastUsed? e' = r.lastUsed? e' :=
  readOff_modifyEntry r e e' fun x => congrArg some (hf x)

theorem lastUsed?_setSlot (r : Registry) (e e' : EntryId) (slot : Option Session) :
    (r.setSlot e slot).lastUsed? e' = r.lastUsed? e' := lastUsed?_modifyEntry r e e' fun _ => rfl

theorem lastUsed?_modifyLock (r : Registry) (e e' : EntryId) (f : Lock → Lock) :
    (r.modifyLock e f).lastUsed? e' = r.lastUsed? e' := lastUsed?_modifyEntry r e e' fun _ => rfl

theorem lastUsed?_touch (h : e < r.entries.length) : (r.touch e i).lastUsed? e = some i := by
  obtain ⟨x, hx⟩ := exists_entry h
  unfold lastUsed? readOff touch
  rw [entryAt?_modifyEntry, if_pos rfl, hx]
  rfl

theorem lt_of_lastUsed? (h : r.lastUsed? e = some i) : e < r.entries.length := by
  refine lt_of_readOff (d := none) (f := fun x => some x.lastUsed) ?_
  show r.lastUsed? e ≠ none
  rw [h]
  exact Option.some_ne_none i

theorem idle_eq (h : r.lastUsed? e = some i) (now : Instant) :
    r.idle e now = Clock.since now i := by
  unfold lastUsed? readOff at h
  unfold idle
  cases hx : r.entryAt? e with
  | none =>
      rw [hx] at h
      cases h
  | some x =>
      rw [hx] at h
      cases h
      rfl

-- ================================================= an instant replaced

/-- A change that neither reads the instant nor sets it may be made before
the instant is replaced or after. -/
theorem modifyEntry_touch {f : Entry → Entry}
    (hf : ∀ x, f { x with lastUsed := i } = { f x with lastUsed := i }) :
    (r.touch e i).modifyEntry e' f = (r.modifyEntry e' f).touch e i := by
  unfold touch
  by_cases h : e = e'
  · subst h
    rw [modifyEntry_modifyEntry, modifyEntry_modifyEntry]
    exact congrArg _ (funext hf)
  · exact modifyEntry_comm r _ _ h

theorem modifyLock_touch (r : Registry) (e e' : EntryId) (i : Instant) (f : Lock → Lock) :
    (r.touch e i).modifyLock e' f = (r.modifyLock e' f).touch e i :=
  modifyEntry_touch fun _ => rfl

theorem setSlot_touch (r : Registry) (e e' : EntryId) (i : Instant) (slot : Option Session) :
    (r.touch e i).setSlot e' slot = (r.setSlot e' slot).touch e i :=
  modifyEntry_touch fun _ => rfl

theorem touch_touch (r : Registry) (e : EntryId) (i j : Instant) :
    (r.touch e i).touch e j = r.touch e j := modifyEntry_modifyEntry r e _ _

theorem touch_comm (r : Registry) (i j : Instant) (h : e ≠ e') :
    (r.touch e i).touch e' j = (r.touch e' j).touch e i := modifyEntry_comm r _ _ h

/-- The instant replaced by itself. -/
theorem touch_self (h : r.lastUsed? e = some i) : r.touch e i = r := by
  refine modifyEntry_self fun x hx => ?_
  unfold lastUsed? at h
  rw [readOff_of_entryAt? hx] at h
  rw [← Option.some.inj h]

/-- The session put where it is. -/
theorem setSlot_self {s : Session} (h : r.slot? e = some s) : r.setSlot e (some s) = r := by
  refine modifyEntry_self fun x hx => ?_
  rw [slot?_eq, readOff_of_entryAt? hx] at h
  rw [← h]

theorem holds_touch (r : Registry) (e e' : EntryId) (i : Instant) (id : TaskId) :
    (r.touch e i).holds e' id = r.holds e' id := by
  rw [Bool.eq_iff_iff, holds_iff, holds_iff, holder?_touch]

theorem forget_touch (r : Registry) (a : Address) (e e' : EntryId) (i : Instant) :
    (r.touch e i).forget a e' = (r.forget a e').touch e i := by
  unfold forget
  rw [show (r.touch e i).isCurrent a e' = r.isCurrent a e' from rfl]
  split <;> rfl

theorem resolve_touch (a : Address) (i now : Instant) (h : e < r.entries.length) :
    (r.touch e i).resolve a now = ((r.resolve a now).1.touch e i, (r.resolve a now).2) := by
  cases hcur : r.current? a with
  | some e' =>
      rw [resolve_of_some hcur]
      exact resolve_of_some hcur
  | none =>
      rw [resolve_of_none hcur]
      refine (resolve_of_none (show (r.touch e i).current? a = none from hcur)).trans ?_
      rw [length_touch]
      have hentries : (r.touch e i).entries ++ [Entry.vacant now] =
          (r.entries ++ [Entry.vacant now]).modify e fun x => { x with lastUsed := i } := by
        apply List.ext_getElem?
        intro n
        show (r.entries.modify e _ ++ [_])[n]? = _
        rw [List.getElem?_modify]
        by_cases hn : n < r.entries.length
        · rw [List.getElem?_append_left (by simpa using hn), List.getElem?_append_left hn,
            List.getElem?_modify]
        · have hne : e ≠ n := Nat.ne_of_lt (Nat.lt_of_lt_of_le h (Nat.le_of_not_lt hn))
          rw [List.getElem?_append_right (by simpa using hn),
            List.getElem?_append_right (Nat.le_of_not_lt hn), List.length_modify]
          simp [hne]
      rw [hentries]
      rfl

theorem take?_touch (r : Registry) (e e' : EntryId) (i : Instant) (id : TaskId) :
    ((r.touch e i).entryAt? e').bind (·.lock.take? id) =
      (r.entryAt? e').bind (·.lock.take? id) := by
  unfold touch
  rw [entryAt?_modifyEntry]
  split
  · cases r.entryAt? e' <;> rfl
  · rfl

end Registry

-- ============================================== the instant, on a site

namespace Site

variable {x : BusSite} {e e' : EntryId} {i j : Instant}

/-- The site with an entry last used at an instant. -/
def usedAt (x : BusSite) (e : EntryId) (i : Instant) : BusSite := x.modifyRegistry (·.touch e i)

@[simp] theorem bus_usedAt (x : BusSite) (e : EntryId) (i : Instant) :
    (x.usedAt e i).bus = x.bus := rfl

@[simp] theorem clock_usedAt (x : BusSite) (e : EntryId) (i : Instant) :
    (x.usedAt e i).clock = x.clock := rfl

theorem cache_usedAt (x : BusSite) (e : EntryId) (i : Instant) :
    (x.usedAt e i).registry.cache = x.registry.cache := rfl

theorem disposed_usedAt (x : BusSite) (e : EntryId) (i : Instant) :
    (x.usedAt e i).registry.disposed = x.registry.disposed := rfl

theorem isCurrent_usedAt (x : BusSite) (e e' : EntryId) (i : Instant) (a : Address) :
    (x.usedAt e i).registry.isCurrent a e' = x.registry.isCurrent a e' := rfl

theorem policy_usedAt (x : BusSite) (e : EntryId) (i : Instant) :
    (x.usedAt e i).registry.policy = x.registry.policy := rfl

theorem holds_usedAt (x : BusSite) (e e' : EntryId) (i : Instant) (id : TaskId) :
    (x.usedAt e i).registry.holds e' id = x.registry.holds e' id := Registry.holds_touch _ _ _ _ _

theorem slot?_usedAt (x : BusSite) (e e' : EntryId) (i : Instant) :
    (x.usedAt e i).registry.slot? e' = x.registry.slot? e' := Registry.slot?_touch _ _ _ _

theorem modifyLock_usedAt (x : BusSite) (e e' : EntryId) (i : Instant) (f : Lock → Lock) :
    (x.usedAt e i).modifyRegistry (·.modifyLock e' f) =
      (x.modifyRegistry (·.modifyLock e' f)).usedAt e i :=
  congrArg (Site.mk x.bus x.clock) (Registry.modifyLock_touch _ _ _ _ _)

theorem usedAt_usedAt (x : BusSite) (e : EntryId) (i j : Instant) :
    (x.usedAt e i).usedAt e j = x.usedAt e j :=
  congrArg (Site.mk x.bus x.clock) (Registry.touch_touch _ _ _ _)

theorem usedAt_self (h : x.registry.lastUsed? e = some i) : x.usedAt e i = x :=
  congrArg (Site.mk x.bus x.clock) (Registry.touch_self h)

theorem closeSlot_usedAt (x : BusSite) (e e' : EntryId) (i : Instant) :
    (x.usedAt e i).closeSlot e' = (x.closeSlot e').usedAt e i := by
  cases hslot : x.registry.slot? e' with
  | none =>
      rw [closeSlot_of_none hslot, closeSlot_of_none ((slot?_usedAt x e e' i).trans hslot)]
  | some s =>
      rw [closeSlot_of_some hslot, closeSlot_of_some ((slot?_usedAt x e e' i).trans hslot)]
      exact congrArg (Site.mk (s.close x.bus).2 x.clock) (Registry.setSlot_touch _ _ _ _ _)

theorem discard_usedAt (x : BusSite) (e : EntryId) (i : Instant) :
    (x.usedAt e i).discard = x.discard.usedAt e i := by
  have hfold : ∀ (l : List (Address × EntryId)) (x : BusSite),
      l.foldl (fun x p => x.closeSlot p.2) (x.usedAt e i) =
        (l.foldl (fun x p => x.closeSlot p.2) x).usedAt e i := by
    intro l
    induction l with
    | nil => exact fun _ => rfl
    | cons p rest ih =>
        intro x
        show rest.foldl _ ((x.usedAt e i).closeSlot p.2) = _
        rw [closeSlot_usedAt]
        exact ih _
  unfold discard
  rw [cache_usedAt, hfold]
  rfl

theorem fillSlot_usedAt (x : BusSite) (a : Address) (e e' : EntryId) (i : Instant) :
    (x.usedAt e i).fillSlot a e' = ((x.fillSlot a e').1.usedAt e i, (x.fillSlot a e').2) := by
  have hslot := slot?_usedAt x e e' i
  rcases vacant_or_open x.registry e' with ⟨s, hs, hopen⟩ | hv
  · rw [fillSlot_of_open hs hopen, fillSlot_of_open (hslot.trans hs) hopen]
  · rw [fillSlot_of_vacant a hv, fillSlot_of_vacant a fun s hs => hv s (hslot.symm.trans hs)]
    refine congrArg (fun r => ((⟨_, x.clock, r⟩ : BusSite), _)) ?_
    exact Registry.setSlot_touch { x.registry with created := x.registry.created + 1 } _ _ _ _

end Site

-- ==================================================== what a step does

variable {α : Type} {held : Option EntryId} {e e' : EntryId} {i j : Instant} {x x' : BusSite}
  {id : TaskId}

/-- What a step of a task that holds the lock of a certain entry, or of
none, has to do with the instant another entry was last used. -/
inductive Bears (held : Option EntryId) (e : EntryId) (f : BusSite → Option (α × BusSite))
    (x : BusSite) : Prop where
  -- it carries the instant along, whichever it is
  | carries (h : ∀ i, f (x.usedAt e i) = (f x).map fun p => (p.1, p.2.usedAt e i))
  -- it puts the current instant in its place, whichever it was
  | uses (hh : held = some e) (h : ∀ i, f (x.usedAt e i) = f x)
      (hnow : ∀ p, f x = some p → p.2.registry.lastUsed? e = some x.clock)

/-- After a step the entry was last used when it was before, or just now. -/
theorem Bears.lastUsed {f : BusSite → Option (α × BusSite)} {p : α × BusSite}
    (h : Bears held e f x) (hf : f x = some p) (hi : x.registry.lastUsed? e = some i)
    (hlt : e < p.2.registry.entries.length) : p.2.registry.lastUsed? e = some i ∨
      held = some e ∧ p.2.registry.lastUsed? e = some x.clock := by
  cases h with
  | carries h =>
      left
      have hsame := h i
      rw [Site.usedAt_self hi, hf] at hsame
      have hp : p.2 = p.2.usedAt e i := congrArg Prod.snd (Option.some.inj hsame)
      rw [hp]
      exact Registry.lastUsed?_touch hlt
  | uses hh h hnow => exact .inr ⟨hh, hnow p hf⟩

/-- A step that is all another one consists of. -/
theorem Bears.map {β : Type} {f : BusSite → Option (α × BusSite)}
    {g : BusSite → Option (β × BusSite)} {k : α → β} (h : Bears held e f x)
    (hg : ∀ y, g y = (f y).map fun p => (k p.1, p.2)) : Bears held e g x := by
  cases h with
  | carries h =>
      refine .carries fun i => ?_
      rw [hg, hg, h, Option.map_map, Option.map_map]
      rfl
  | uses hh h hnow =>
      refine .uses hh (fun i => by rw [hg, hg, h]) ?_
      intro p hp
      rw [hg] at hp
      obtain ⟨q, hq, rfl⟩ := Option.map_eq_some_iff.mp hp
      exact hnow q hq

/-- What is said of a step is said of any other that does the same there. -/
theorem Bears.congr {f g : BusSite → Option (α × BusSite)} (h : Bears held e g x) (hf : f x = g x)
    (hi : ∀ i, f (x.usedAt e i) = g (x.usedAt e i)) : Bears held e f x := by
  cases h with
  | carries h => exact .carries fun i => by rw [hi, hf, h]
  | uses hh h hnow => exact .uses hh (fun i => by rw [hi, hf, h]) fun p hp => hnow p (hf ▸ hp)

namespace Call

variable {c : Call} {s : Session} {run : StateM (Line (Recorded Simulated)) Advance}

theorem act_usedAt_ne (h : e ≠ e') : c.act e' s (x.usedAt e i) run =
    ((c.act e' s x run).1, (c.act e' s x run).2.usedAt e i) := by
  unfold act
  rw [Site.bus_usedAt]
  rcases run.run (s, x.bus) with ⟨advance, s', bus⟩
  have hslot := Registry.setSlot_touch x.registry e e' i (some s')
  cases advance with
  | paused replies pending rest =>
      exact congrArg (fun r => (_, (⟨bus, x.clock, r⟩ : BusSite))) hslot
  | done replies result =>
      refine congrArg (fun r => (_, (⟨bus, x.clock, r⟩ : BusSite))) ?_
      show ((x.registry.touch e i).setSlot e' (some s')).touch e' x.clock = _
      rw [hslot]
      exact Registry.touch_comm _ _ _ h

/-- A program that pauses says nothing about its entry, and one that has
come to its end has used it now. -/
theorem act_bears (c : Call) (e' : EntryId) (s : Session)
    (run : StateM (Line (Recorded Simulated)) Advance) (hlt : e < x.registry.entries.length) :
    Bears (some e') e (fun x => some (c.act e' s x run)) x := by
  by_cases h : e = e'
  · subst h
    have hslot : ∀ i s', (x.registry.touch e i).setSlot e (some s') =
        (x.registry.setSlot e (some s')).touch e i :=
      fun i s' => Registry.setSlot_touch _ _ _ _ _
    unfold act
    rcases hrun : run.run (s, x.bus) with ⟨advance, s', bus⟩
    cases advance with
    | paused replies pending rest =>
        refine .carries fun i => ?_
        simp only [Site.bus_usedAt, hrun]
        exact congrArg (fun r => some (_, (⟨bus, x.clock, r⟩ : BusSite))) (hslot i s')
    | done replies result =>
        refine .uses rfl (fun i => ?_) ?_
        · simp only [Site.bus_usedAt, hrun]
          refine congrArg (fun r => some (_, (⟨bus, x.clock, r⟩ : BusSite))) ?_
          show ((x.registry.touch e i).setSlot e (some s')).touch e x.clock = _
          rw [hslot, Registry.touch_touch]
        · intro p hp
          simp only [hrun] at hp
          cases hp
          exact Registry.lastUsed?_touch (by simpa using hlt)
  · exact .carries fun i => congrArg some (act_usedAt_ne h)

/-- The instant put into an entry before part of a program is carried out
is still there afterwards. -/
theorem lastUsed?_act (c : Call) (s : Session)
    (run : StateM (Line (Recorded Simulated)) Advance) (hlt : e < x.registry.entries.length)
    (hnow : x.registry.lastUsed? e = some x.clock) :
    (c.act e s x run).2.registry.lastUsed? e = some x.clock := by
  obtain ⟨r, hx, hr⟩ := act_site c e s x run
  rw [hx]
  rcases hr with rfl | rfl
  · exact (Registry.lastUsed?_setSlot _ _ _ _).trans hnow
  · exact Registry.lastUsed?_touch (by simpa using hlt)

/-- A call puts the current instant into the entry whose lock it holds,
when it starts its program and when the program ends. -/
theorem step_bears (id : TaskId) (c : Call) (hlt : e < x.registry.entries.length) :
    Bears (lockHeld c.stage) e (c.step id) x := by
  obtain ⟨address, program, cancelled, entered, replies, stage⟩ := c
  cases stage with
  | check =>
      refine .carries fun i => ?_
      simp only [step]
      rw [Site.disposed_usedAt]
      split <;> rfl
  | find =>
      refine .carries fun i => ?_
      have hres := Registry.resolve_touch address i x.clock hlt
      simp only [step, show (x.usedAt e i).registry = x.registry.touch e i from rfl,
        Site.clock_usedAt, hres]
      rfl
  | request e' =>
      refine .carries fun i => ?_
      simp only [step]
      split
      · rfl
      · rw [Site.modifyLock_usedAt, Site.holds_usedAt]
        rfl
  | queued e' =>
      refine .carries fun i => ?_
      simp only [step]
      split
      · rw [Site.modifyLock_usedAt]
        rfl
      · rw [Site.holds_usedAt]
        split <;> rfl
  | recheck e' => exact .carries fun i => rfl
  | confirm e' =>
      refine .carries fun i => ?_
      simp only [step]
      rw [Site.isCurrent_usedAt]
      split
      · rfl
      · rw [Site.modifyLock_usedAt]
        rfl
  | fill e' =>
      refine .carries fun i => ?_
      simp only [step, Site.fillSlot_usedAt]
      rcases x.fillSlot address e' with ⟨y, result⟩
      cases result <;> rfl
  | enter e' =>
      by_cases h : e = e'
      · subst h
        have hsame : ∀ i, (x.usedAt e i).modifyRegistry (·.touch e x.clock) =
            x.modifyRegistry (·.touch e x.clock) := fun i => Site.usedAt_usedAt x e i x.clock
        refine .uses rfl (fun i => ?_) ?_
        · simp only [step, Site.clock_usedAt, hsame]
        · intro p hp
          have hnow : (x.registry.touch e x.clock).lastUsed? e = some x.clock :=
            Registry.lastUsed?_touch hlt
          simp only [step] at hp
          split at hp
          · cases hp
            exact lastUsed?_act _ _ _ (by simpa [Site.modifyRegistry] using hlt) hnow
          · cases hp
            exact hnow
      · refine .carries fun i => ?_
        have hcomm : (x.usedAt e i).modifyRegistry (·.touch e' x.clock) =
            (x.modifyRegistry (·.touch e' x.clock)).usedAt e i :=
          congrArg (Site.mk x.bus x.clock) (Registry.touch_comm _ _ _ h)
        simp only [step, Site.clock_usedAt, hcomm, Site.slot?_usedAt]
        cases (x.modifyRegistry (·.touch e' x.clock)).registry.slot? e' with
        | none => rfl
        | some s => exact congrArg some (act_usedAt_ne h)
  | acting e' pending rest =>
      cases hdue : pending.due x.clock with
      | false =>
          refine .carries fun i => ?_
          simp [step, hdue]
      | true =>
          cases hs : x.registry.slot? e' with
          | none =>
              refine .carries fun i => ?_
              simp only [step, Site.clock_usedAt, Site.slot?_usedAt, hdue, hs, if_true]
              rfl
          | some s =>
              have hact := act_bears
                ⟨address, program, cancelled, entered, replies, .acting e' pending rest⟩
                e' s (Program.resume x.clock pending rest) hlt
              refine hact.congr ?_ fun i => ?_
              · simp only [step, hdue, hs, if_true]
              · simp only [step, Site.clock_usedAt, Site.slot?_usedAt, hdue, hs, if_true]
  | vacate e' f =>
      refine .carries fun i => ?_
      simp only [step, Site.closeSlot_usedAt]
      rfl
  | abandon e' f =>
      refine .carries fun i => ?_
      exact congrArg (fun r => some (_, (⟨x.bus, x.clock, r⟩ : BusSite)))
        (Registry.forget_touch _ _ _ _ _)
  | leave e' result =>
      refine .carries fun i => ?_
      simp only [step, Site.modifyLock_usedAt]
      rfl
  | ended result => exact .carries fun i => rfl
  | dropped => exact .carries fun i => rfl

end Call

-- ============================================= the one who wants to know

namespace Sweep

variable {s : Sweep} {a : Address}

/-- A sweep that judges an entry goes by when the entry was last used. -/
theorem step_judging (hs : s.stage = .judge a e) (hlt : e < x.registry.entries.length)
    (i : Instant) : s.step id (x.usedAt e i) = some ({ s with
      stage := if s.began - i < x.registry.policy.idleThreshold.nanos then .unlock e
        else .unlink a e }, x.usedAt e i) := by
  obtain ⟨began, todo, evicted, stage⟩ := s
  cases hs
  have hidle : (x.usedAt e i).registry.idle e began = Clock.since began i :=
    Registry.idle_eq (Registry.lastUsed?_touch hlt) began
  simp only [step, hidle, Clock.since, Site.policy_usedAt]
  split <;> rfl

/-- Nothing else a sweep does has to do with it. -/
theorem step_usedAt (id : TaskId) (hs : ∀ a, s.stage ≠ .judge a e) (i : Instant) :
    s.step id (x.usedAt e i) = (s.step id x).map fun p => (p.1, p.2.usedAt e i) := by
  obtain ⟨began, todo, evicted, stage⟩ := s
  cases stage with
  | list => rfl
  | next =>
      cases todo with
      | nil => rfl
      | cons p rest =>
          obtain ⟨a, e'⟩ := p
          have htake : ((x.usedAt e i).registry.entryAt? e').bind (·.lock.take? id) =
            (x.registry.entryAt? e').bind (·.lock.take? id) := Registry.take?_touch _ _ _ _ _
          simp only [step, Site.modifyLock_usedAt, htake]
          split <;> rfl
  | judge a e' =>
      have hne : e ≠ e' := by
        intro heq
        subst heq
        exact hs a rfl
      have hidle : (x.usedAt e i).registry.idle e' began = x.registry.idle e' began := by
        unfold Registry.idle
        rw [show (x.usedAt e i).registry.entryAt? e' = x.registry.entryAt? e' from
          (Registry.entryAt?_modifyEntry _ _ _ _).trans (if_neg hne)]
      simp only [step, hidle, Site.policy_usedAt]
      split <;> rfl
  | unlink a e' =>
      exact congrArg (fun r => some (_, (⟨x.bus, x.clock, r⟩ : BusSite)))
        (Registry.forget_touch _ _ _ _ _)
  | close e' =>
      simp only [step, Site.closeSlot_usedAt]
      rfl
  | unlock e' =>
      simp only [step, Site.modifyLock_usedAt]
      rfl
  | ended => rfl

end Sweep

theorem Task.Sweeps.unique {t : Task} {s s' : Sweep} (h : t.Sweeps s) (h' : t.Sweeps s') :
    s = s' := by
  cases h <;> cases h' <;> rfl

/-- A task that sweeps takes the steps of its sweep. -/
theorem Task.Sweeps.steps {t : Task} {s : Sweep} (id : TaskId) (h : t.Sweeps s) :
    ∃ g : Sweep → Task, (∀ s', (g s').Sweeps s') ∧
      ∀ (x : BusSite) p, s.step id x = some p → t.step id x = some (g p.1, p.2) := by
  cases h with
  | own s =>
      refine ⟨.sweep, .own, ?_⟩
      intro x p hp
      exact congrArg (Option.map _) hp
  | ticking s mark =>
      refine ⟨fun s' => .ticker (.sweeping s' mark), fun s' => .ticking s' mark, ?_⟩
      intro x p hp
      unfold Task.step Ticker.step
      simp only [hp]
      rfl

/-- The step of a task that judges an entry. -/
theorem Task.Sweeps.judges {t : Task} {s : Sweep} {a : Address} (id : TaskId) (h : t.Sweeps s)
    (hs : s.stage = .judge a e) (hlt : e < x.registry.entries.length) :
    ∃ g : Sweep → Task, (∀ s', (g s').Sweeps s') ∧
      ∀ i, t.step id (x.usedAt e i) = some (g { s with
        stage := if s.began - i < x.registry.policy.idleThreshold.nanos then .unlock e
          else .unlink a e }, x.usedAt e i) := by
  obtain ⟨g, hg, hstep⟩ := h.steps id
  exact ⟨g, hg, fun i => hstep _ _ (Sweep.step_judging hs hlt i)⟩

theorem Ticker.step_usedAt (id : TaskId) {k : TickerStage}
    (hs : ∀ s mark a, k = .sweeping s mark → s.stage ≠ .judge a e) (i : Instant) :
    Ticker.step id k (x.usedAt e i) =
      (Ticker.step id k x).map fun p => (p.1, p.2.usedAt e i) := by
  cases k with
  | fresh => rfl
  | sleeping wake =>
      simp only [step]
      rw [Site.disposed_usedAt, Site.clock_usedAt]
      split
      · rfl
      · split <;> rfl
  | sweeping s mark =>
      simp only [step, Sweep.step_usedAt id fun a => hs s mark a rfl]
      cases s.step id x <;> rfl
  | ended => rfl

theorem Disposal.step_usedAt (id : TaskId) (d : Disposal) (e : EntryId) (i : Instant) :
    d.step id (x.usedAt e i) = (d.step id x).map fun p => (p.1, p.2.usedAt e i) := by
  cases d with
  | mark =>
      simp only [step]
      rw [Site.disposed_usedAt]
      split <;> rfl
  | list => rfl
  | next todo =>
      cases todo with
      | nil => rfl
      | cons e' rest =>
          simp only [step, Site.modifyLock_usedAt, Site.holds_usedAt]
          rfl
  | queued e' todo =>
      simp only [step, Site.holds_usedAt]
      split <;> rfl
  | close e' todo =>
      simp only [step, Site.closeSlot_usedAt]
      rfl
  | unlock e' todo =>
      simp only [step, Site.modifyLock_usedAt]
      rfl
  | clear =>
      simp only [step, Site.discard_usedAt]
      rfl
  | ended => rfl
  | dropped => rfl

/-- Any step but that of a sweep that judges the entry. -/
theorem Task.step_bears (id : TaskId) (t : Task) (hlt : e < x.registry.entries.length)
    (hs : ∀ s a, t.Sweeps s → s.stage ≠ .judge a e) : Bears t.lockHeld e (t.step id) x := by
  cases t with
  | call c => exact (Call.step_bears id c hlt).map fun _ => rfl
  | sweep s =>
      have hstep := fun i => Sweep.step_usedAt (x := x) id (fun a => hs s a (.own s)) i
      exact (Bears.carries hstep).map fun _ => rfl
  | disposal d => exact (Bears.carries (d.step_usedAt id e)).map fun _ => rfl
  | ticker k =>
      refine (Bears.carries fun i => Ticker.step_usedAt id ?_ i).map fun _ => rfl
      intro s mark a hk
      subst hk
      exact hs s a (.ticking s mark)

/-- To drop a task carries the instant along. -/
theorem Task.drop_usedAt (id : TaskId) (t : Task) (x : BusSite) (e : EntryId) (i : Instant) :
    t.drop id (x.usedAt e i) = ((t.drop id x).1, (t.drop id x).2.usedAt e i) := by
  cases t with
  | call c =>
      obtain ⟨address, program, cancelled, entered, replies, stage⟩ := c
      cases stage <;> first | rfl | exact congrArg (Prod.mk _) (Site.modifyLock_usedAt _ _ _ _ _)
  | sweep s => rfl
  | disposal d =>
      cases d <;> first | rfl | exact congrArg (Prod.mk _) (Site.modifyLock_usedAt _ _ _ _ _)
  | ticker k => cases k <;> rfl

end InstrumentBus
