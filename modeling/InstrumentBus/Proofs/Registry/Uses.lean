/-
When an entry was used, told from the record of a run.

An entry is used when it is put into the cache, when a program is started
on its session, and when a program on its session comes to its end.
`World.uses` reads these instants off a run, from what the cache holds
before and after and from what the calls do, and does not look at the
instant that the registry keeps in the entry.

The registry keeps the latest of them: that is what the instant is there
for (`World.Dated`). It is shown step by step. A stride of a call puts the
current instant there exactly where it uses the entry
(`Call.Stride.lastUsed`), and no other task puts anything there. A program
that is dropped uses the entry no further, for it does not come to its
end.
-/
import InstrumentBus.Proofs.Registry.Dropped

namespace InstrumentBus

-- ========================================================= the record

/-- The deed is a use of the session: a program is started on it, or comes
to its end. -/
def Call.Deed.isUse : Call.Deed → Bool
  | .started | .finished _ => true
  | .secured | .asked _ => false

/-- The instants at which a call uses an entry in a step. -/
def Call.usesOf (c : Call) (e : EntryId) (x x' : BusSite) : List Instant :=
  if Call.engaged c.stage = some e then ((c.deeds x x').filter (·.isUse)).map fun _ => x.clock
  else []

/-- The entries in the cache. -/
def Registry.cached (r : Registry) : List EntryId := r.cache.map (·.2)

/-- An entry is put into the cache. -/
def Registry.Enters (r : Registry) (e : EntryId) (r' : Registry) : Prop :=
  e ∉ r.cached ∧ e ∈ r'.cached

instance (r : Registry) (e : EntryId) (r' : Registry) : Decidable (r.Enters e r') :=
  inferInstanceAs (Decidable (_ ∧ _))

namespace World

/-- The instants at which a call uses an entry in a happening. -/
def usedBy (e : EntryId) (w : BusWorld) (h : Happening) (w' : BusWorld) : List Instant :=
  match h with
  | .step id => (w.call? id).elim [] fun c => c.usesOf e w.site w'.site
  | _ => []

/-- The instants at which an entry is used in a happening: when it is put
into the cache, and when a call uses it. -/
def usesIn (e : EntryId) (w : BusWorld) (h : Happening) (w' : BusWorld) : List Instant :=
  (if w.site.registry.Enters e w'.site.registry then [w.site.clock] else []) ++ w.usedBy e h w'

/-- The instants at which an entry is used in a run, in order. -/
def uses (e : EntryId) : BusWorld → List Happening → List Instant
  | _, [] => []
  | w, h :: rest =>
    match w.perform h with
    | some w' => w.usesIn e h w' ++ uses e w' rest
    | none => []

end World

-- ================================================== the instant, view by view

namespace Registry

variable {r r' : Registry} {a : Address} {e e' : EntryId} {now : Instant}

theorem lastUsed?_touch_ne (h : e ≠ e') : (r.touch e now).lastUsed? e' = r.lastUsed? e' :=
  readOff_modifyEntry_ne r _ _ _ h

theorem lastUsed?_forget (r : Registry) (a : Address) (e e' : EntryId) :
    (r.forget a e).lastUsed? e' = r.lastUsed? e' := readOff_forget r a e e' _ _

/-- What is looked up was there, or has been put there now. -/
theorem lastUsed?_resolve (r : Registry) (a : Address) (now : Instant) (e : EntryId) :
    (r.resolve a now).1.lastUsed? e =
      if r.current? a = none ∧ e = r.entries.length then some now else r.lastUsed? e := by
  cases hcur : r.current? a with
  | some e' => rw [resolve_of_some hcur, if_neg fun h => Option.some_ne_none e' h.1]
  | none =>
      rw [resolve_of_none hcur]
      by_cases he : e = r.entries.length
      · rw [if_pos ⟨rfl, he⟩, he]
        show ((r.entries ++ [Entry.vacant now])[r.entries.length]?).elim none _ = some now
        rw [List.getElem?_concat_length]
        rfl
      · rw [if_neg fun h => he h.2]
        show ((r.entries ++ [Entry.vacant now])[e]?).elim none _ = (r.entries[e]?).elim none _
        by_cases hlt : e < r.entries.length
        · rw [List.getElem?_append_left hlt]
        · rw [List.getElem?_eq_none (Nat.le_of_not_lt hlt), List.getElem?_eq_none]
          rw [List.length_append]
          exact Nat.lt_of_le_of_ne (Nat.le_of_not_lt hlt) (Ne.symm he)

theorem not_enters (h : ∀ p ∈ r'.cache, p ∈ r.cache) : ¬ r.Enters e r' := by
  rintro ⟨hnot, hmem⟩
  obtain ⟨p, hp, rfl⟩ := List.mem_map.mp hmem
  exact hnot (List.mem_map_of_mem (h p hp))

/-- An entry is put into the cache where an address is looked up that has
none. -/
theorem enters_resolve (hc : r.Coherent) (a : Address) (now : Instant) (e : EntryId) :
    r.Enters e (r.resolve a now).1 ↔ r.current? a = none ∧ e = r.entries.length := by
  unfold Enters
  cases hcur : r.current? a with
  | some e' =>
      rw [resolve_of_some hcur]
      exact ⟨fun h => absurd h.2 h.1, fun h => absurd h.1 (Option.some_ne_none e')⟩
  | none =>
      rw [resolve_of_none hcur]
      have hnew : ∀ p ∈ r.cache, p.2 ≠ r.entries.length := by
        intro p hp
        exact Nat.ne_of_lt (hc.lt _ _ (hc.listed p hp))
      have hset : cached { r with
          cache := Keyed.set r.cache a r.entries.length,
          entries := r.entries ++ [.vacant now] } = r.cached ++ [r.entries.length] := by
        unfold cached
        rw [Keyed.set_of_get?_eq_none hcur, List.map_append]
        rfl
      rw [hset]
      constructor
      · rintro ⟨hnot, hmem⟩
        rcases List.mem_append.mp hmem with hmem | hmem
        · exact absurd hmem hnot
        · exact ⟨rfl, List.mem_singleton.mp hmem⟩
      · rintro ⟨-, rfl⟩
        refine ⟨?_, List.mem_append_right _ (List.mem_singleton.mpr rfl)⟩
        intro hmem
        obtain ⟨p, hp, he⟩ := List.mem_map.mp hmem
        exact hnew p hp he

end Registry

theorem Site.lastUsed?_closeSlot (x : BusSite) (e e' : EntryId) :
    (x.closeSlot e).registry.lastUsed? e' = x.registry.lastUsed? e' := by
  cases h : x.registry.slot? e with
  | none => rw [closeSlot_of_none h]
  | some s =>
      rw [closeSlot_of_some h]
      exact Registry.lastUsed?_setSlot _ _ _ _

/-- A step either leaves the instant of an entry as it is, and then it does
not use the entry, or it uses it and puts the current instant there. -/
def Site.Dates (e : EntryId) (x x' : BusSite) (used : List Instant) : Prop :=
  x'.registry.lastUsed? e = x.registry.lastUsed? e ∧ ¬ x.registry.Enters e x'.registry ∧
      used = [] ∨
    x'.registry.lastUsed? e = some x.clock ∧ (x.registry.Enters e x'.registry ∨ used ≠ [])

-- ==================================================== the strides of a call

namespace Call

variable {id : TaskId} {c c' : Call} {x x' : BusSite} {e e' : EntryId} {s : Session}
  {run : StateM (Line (Recorded Simulated)) Advance}

/-- What a program does to its own entry says nothing of another. -/
theorem lastUsed?_act_ne (c : Call) (s : Session)
    (run : StateM (Line (Recorded Simulated)) Advance) (h : e' ≠ e) :
    (c.act e' s x run).2.registry.lastUsed? e = x.registry.lastUsed? e := by
  obtain ⟨r, hx, hr⟩ := act_site c e' s x run
  rw [hx]
  rcases hr with rfl | rfl
  · exact Registry.lastUsed?_setSlot _ _ _ _
  · exact (Registry.lastUsed?_touch_ne h).trans (Registry.lastUsed?_setSlot _ _ _ _)

/-- A program that comes to its end uses its entry, and one that pauses
does not. -/
theorem act_dates (c : Call) (e : EntryId) (s : Session) (x : BusSite)
    (run : StateM (Line (Recorded Simulated)) Advance) (hlt : e < x.registry.entries.length) :
    ((run.run (s, x.bus)).1.deeds.filter (·.isUse) = [] ∧
      (c.act e s x run).2.registry.lastUsed? e = x.registry.lastUsed? e) ∨
    ((run.run (s, x.bus)).1.deeds.filter (·.isUse) ≠ [] ∧
      (c.act e s x run).2.registry.lastUsed? e = some x.clock) := by
  unfold act
  rcases run.run (s, x.bus) with ⟨advance, s', bus⟩
  cases advance with
  | paused replies pending rest => exact .inl ⟨rfl, Registry.lastUsed?_setSlot _ _ _ _⟩
  | done replies result =>
      exact .inr ⟨List.cons_ne_nil _ _, Registry.lastUsed?_touch (by simpa using hlt)⟩

theorem usesOf_of_ne (h : engaged c.stage ≠ some e) : c.usesOf e x x' = [] := if_neg h

/-- A call uses an entry now or never. -/
theorem eq_of_mem_usesOf {i : Instant} (h : i ∈ c.usesOf e x x') : i = x.clock := by
  unfold usesOf at h
  split at h
  · obtain ⟨-, -, rfl⟩ := List.mem_map.mp h
    rfl
  · cases h

/-- A call that has its session before it asks for none. -/
theorem Stride.created_of_engaged {e' : EntryId} (h : c.Stride id x c' x')
    (he : engaged c.stage = some e') : x'.registry.created = x.registry.created := by
  rcases h.created with hsame | ⟨-, e₁, hs⟩
  · exact hsame
  · rw [hs] at he
    cases he

/-- A call puts the current instant into an entry where it makes it or
uses it, and nowhere else. -/
theorem Stride.dates (h : c.Stride id x c' x') (hc : x.registry.Coherent) (e : EntryId) :
    Site.Dates e x x' (c.usesOf e x x') := by
  have hk : ∀ {e'}, engaged c.stage = some e' → x'.registry.created = x.registry.created :=
    fun he => h.created_of_engaged he
  -- a stride that neither looks up an address nor carries out a program
  have hquiet : engaged c.stage = none → (∀ p ∈ x'.registry.cache, p ∈ x.registry.cache) →
      x'.registry.lastUsed? e = x.registry.lastUsed? e → Site.Dates e x x' (c.usesOf e x x') :=
    fun hnone hsub hsame =>
      .inl ⟨hsame, Registry.not_enters hsub, usesOf_of_ne (hnone ▸ (Option.some_ne_none e).symm)⟩
  -- a program carried out on an entry says nothing of another
  have hother : ∀ e', engaged c.stage = some e' → e' ≠ e →
      x'.registry.cache = x.registry.cache →
      x'.registry.lastUsed? e = x.registry.lastUsed? e → Site.Dates e x x' (c.usesOf e x x') := by
    intro e' hengaged hne hcache hsame
    refine .inl ⟨hsame, Registry.not_enters fun p hp => hcache ▸ hp, usesOf_of_ne ?_⟩
    rw [hengaged]
    exact fun h => hne (Option.some.inj h)
  cases h with
  | closed hs | checked hs | refused e' hs | noticed e' hs | barred e' hs | rechecked e' hs
  | confirmed e' hs | reused e' s hs => exact hquiet (by rw [hs]; rfl) (fun _ hp => hp) rfl
  | granted e' hs | lined e' hs | withdrawn e' hs | stale e' hs | left e' result hs =>
      exact hquiet (by rw [hs]; rfl) (fun _ hp => hp) (Registry.lastUsed?_modifyLock _ _ _ _)
  | opened e' s bus hs | failed e' f bus hs =>
      exact hquiet (by rw [hs]; rfl) (fun _ hp => hp) (Registry.lastUsed?_setSlot _ _ _ _)
  | vacated e' f hs =>
      refine hquiet (by rw [hs]; rfl) (fun p hp => ?_) (Site.lastUsed?_closeSlot x e' e)
      rwa [(Site.closeSlot_frame x e').1] at hp
  | abandoned e' f hs =>
      exact hquiet (by rw [hs]; rfl) (fun p hp => (Registry.mem_forget hp).1)
        (Registry.lastUsed?_forget _ _ _ _)
  | found hs =>
      have hlast := Registry.lastUsed?_resolve x.registry c.address x.clock e
      have henters := Registry.enters_resolve hc c.address x.clock e
      by_cases hnew : x.registry.current? c.address = none ∧ e = x.registry.entries.length
      · rw [if_pos hnew] at hlast
        exact .inr ⟨hlast, .inl (henters.mpr hnew)⟩
      · rw [if_neg hnew] at hlast
        exact .inl ⟨hlast, fun h => hnew (henters.mp h), usesOf_of_ne (hs ▸ (Option.some_ne_none e).symm)⟩
  | started e' s hs hslot =>
      have hlt : e' < x.registry.entries.length := Registry.lt_of_slot? hslot
      by_cases he : e' = e
      · subst he
        refine .inr ⟨?_, .inr ?_⟩
        · refine lastUsed?_act _ _ _ ?_ (Registry.lastUsed?_touch hlt)
          simpa [Site.modifyRegistry] using hlt
        · unfold usesOf
          rw [if_pos (by rw [hs]; rfl),
            deeds_of_created (hk (by rw [hs]; rfl)), hs]
          exact List.cons_ne_nil _ _
      · exact hother e' (by rw [hs]; rfl) he (act_frame _ e' s _ _).2.1
          ((lastUsed?_act_ne _ _ _ he).trans (Registry.lastUsed?_touch_ne he))
  | resumed e' pending rest s hs hdue hslot =>
      have hlt : e' < x.registry.entries.length := Registry.lt_of_slot? hslot
      by_cases he : e' = e
      · subst he
        have huses : c.usesOf e' x
            (c.act e' s x (Program.resume x.clock pending rest)).2 =
            ((((Program.resume x.clock pending rest).run (s, x.bus)).1.deeds).filter
              (·.isUse)).map fun _ => x.clock := by
          unfold usesOf
          rw [if_pos (by rw [hs]; rfl),
            deeds_of_created (hk (by rw [hs]; rfl)), hs]
          simp only [ending, hslot, portion, hs]
        rw [huses]
        rcases act_dates c e' s x (Program.resume x.clock pending rest) hlt with
          ⟨hnil, hsame⟩ | ⟨hne, hnow⟩
        · refine .inl ⟨hsame, Registry.not_enters fun p hp => ?_, by rw [hnil]; rfl⟩
          rwa [(act_frame c e' s x _).2.1] at hp
        · exact .inr ⟨hnow, .inr fun h => hne (List.map_eq_nil_iff.mp h)⟩
      · exact hother e' (by rw [hs]; rfl) he (act_frame _ e' s _ _).2.1
          (lastUsed?_act_ne _ _ _ he)

end Call

-- ============================================================ the other tasks

section

variable {id : TaskId} {x x' : BusSite} {e : EntryId}

theorem Site.Dates.of_same (hlast : x'.registry.lastUsed? e = x.registry.lastUsed? e)
    (hcache : ∀ p ∈ x'.registry.cache, p ∈ x.registry.cache) : Dates e x x' [] :=
  .inl ⟨hlast, Registry.not_enters hcache, rfl⟩

theorem Sweep.Stride.dates {s s' : Sweep} (h : s.Stride id x s' x') (e : EntryId) :
    Site.Dates e x x' [] := by
  cases h with
  | took a e' rest lock hs ht hl =>
      exact .of_same (Registry.lastUsed?_modifyLock _ _ _ _) fun _ hp => hp
  | unlocked e' hs => exact .of_same (Registry.lastUsed?_modifyLock _ _ _ _) fun _ hp => hp
  | unlinked a e' hs =>
      exact .of_same (Registry.lastUsed?_forget _ _ _ _) fun p hp => (Registry.mem_forget hp).1
  | closed e' hs =>
      exact .of_same (Site.lastUsed?_closeSlot x e' e) fun p hp =>
        (Site.closeSlot_frame x e').1 ▸ hp
  | _ => exact .of_same rfl fun _ hp => hp

theorem Site.lastUsed?_discard (x : BusSite) (e : EntryId) :
    x.discard.registry.lastUsed? e = x.registry.lastUsed? e := by
  have hfold : ∀ (l : List (Address × EntryId)) (x : BusSite),
      (l.foldl (fun x p => x.closeSlot p.2) x).registry.lastUsed? e =
        x.registry.lastUsed? e := by
    intro l
    induction l with
    | nil => exact fun _ => rfl
    | cons p rest ih => exact fun x => (ih _).trans (Site.lastUsed?_closeSlot x p.2 e)
  exact hfold _ x

theorem Disposal.step_dates {d d' : Disposal} (h : d.step id x = some (d', x')) (e : EntryId) :
    Site.Dates e x x' [] := by
  cases d with
  | mark =>
      simp only [step] at h
      split at h <;> cases h <;> exact .of_same rfl fun _ hp => hp
  | next todo =>
      cases todo with
      | nil =>
          cases h
          exact .of_same rfl fun _ hp => hp
      | cons e' rest =>
          cases h
          exact .of_same (Registry.lastUsed?_modifyLock _ _ _ _) fun _ hp => hp
  | queued e' todo =>
      simp only [step] at h
      split at h <;> cases h
      exact .of_same rfl fun _ hp => hp
  | close e' todo =>
      cases h
      exact .of_same (Site.lastUsed?_closeSlot x e' e) fun p hp =>
        (Site.closeSlot_frame x e').1 ▸ hp
  | unlock e' todo =>
      cases h
      exact .of_same (Registry.lastUsed?_modifyLock _ _ _ _) fun _ hp => hp
  | clear =>
      cases h
      exact .of_same (Site.lastUsed?_discard x e) fun _ hp => absurd hp List.not_mem_nil
  | list =>
      cases h
      exact .of_same rfl fun _ hp => hp
  | ended => cases h
  | dropped => cases h

theorem Task.drop_dates (t : Task) (id : TaskId) (x : BusSite) (e : EntryId) :
    Site.Dates e x (t.drop id x).2 [] := by
  have hlock : ∀ (e' : EntryId) (f : Lock → Lock),
      Site.Dates e x (x.modifyRegistry (·.modifyLock e' f)) [] := fun e' f =>
    .of_same (Registry.lastUsed?_modifyLock _ _ _ _) fun _ hp => hp
  have hsame : Site.Dates e x x [] := .of_same rfl fun _ hp => hp
  cases t with
  | call c =>
      obtain ⟨address, program, cancelled, entered, replies, stage⟩ := c
      cases stage <;> first | exact hsame | exact hlock _ _
  | sweep s => exact hsame
  | disposal d => cases d <;> first | exact hsame | exact hlock _ _
  | ticker k => cases k <;> exact hsame

end

-- ============================================================ along a run

namespace World

variable {w w' : BusWorld} {e : EntryId} {h : Happening} {hs : List Happening}
  {is : List Instant}

/-- What a task that goes on has to do with the instant of an entry. -/
theorem Sound.dates_step {id : TaskId} (hw : w.Sound) (hp : w.step? id = some w')
    (e : EntryId) : Site.Dates e w.site w'.site (w.usedBy e (.step id) w') := by
  obtain ⟨t, t', x', ht, hstep, rfl⟩ := step?_eq_some hp
  have hused : ∀ (v : BusWorld) (_ : ∀ c, t ≠ .call c), w.usedBy e (.step id) v = [] := by
    intro v hno
    show (w.call? id).elim [] _ = []
    unfold call?
    rw [ht]
    cases t <;> first | rfl | exact absurd rfl (hno _)
  cases t with
  | call c =>
      obtain ⟨⟨c', y⟩, hcall, heq⟩ := Option.map_eq_some_iff.mp hstep
      cases heq
      have hst := Call.step_stride hcall (hw.tasks id _ ht)
      have hcalled : w.usedBy e (.step id) ⟨x', w.tasks.set id (.call c')⟩ =
          c.usesOf e w.site x' := by
        show (w.call? id).elim [] _ = _
        rw [call?_eq_some.mpr ht]
        rfl
      rw [hcalled]
      exact hst.dates hw.coherent e
  | sweep s =>
      obtain ⟨⟨s', y⟩, hs', heq⟩ := Option.map_eq_some_iff.mp hstep
      cases heq
      rw [hused _ fun _ => Task.noConfusion]
      exact (Sweep.step_stride hs').dates e
  | disposal d =>
      obtain ⟨⟨d', y⟩, hd', heq⟩ := Option.map_eq_some_iff.mp hstep
      cases heq
      rw [hused _ fun _ => Task.noConfusion]
      exact Disposal.step_dates hd' e
  | ticker k =>
      obtain ⟨p, hk', heq⟩ := Option.map_eq_some_iff.mp hstep
      cases heq
      rw [hused _ fun _ => Task.noConfusion]
      have hcases : p.2 = w.site ∨ ∃ s s' mark, k = .sweeping s mark ∧
          s.Stride id w.site s' p.2 := Ticker.step_cases hk'
      rcases hcases with hx | ⟨s, s', mark, -, hst⟩
      · show Site.Dates e w.site p.2 []
        rw [hx]
        exact .of_same rfl fun _ hp => hp
      · exact hst.dates e

/-- What a happening has to do with the instant of an entry. -/
theorem Sound.dates (hw : w.Sound) (hp : w.perform h = some w') (e : EntryId) :
    Site.Dates e w.site w'.site (w.usedBy e h w') := by
  cases h with
  | step id => exact hw.dates_step hp e
  | drop id =>
      cases hp
      show Site.Dates e w.site (w.drop id).site []
      cases ht : w.task? id with
      | none =>
          rw [drop_of_none ht]
          exact .of_same rfl fun _ hp => hp
      | some t =>
          rw [drop_of_some ht]
          exact t.drop_dates id w.site e
  | startSweep =>
      have hsweep : w.startSweep = w' := Option.some.inj hp
      subst hsweep
      show Site.Dates e w.site w.startSweep.site []
      unfold startSweep
      simp only
      split <;> exact .of_same rfl fun _ hp => hp
  | _ =>
      cases hp
      exact .of_same rfl fun _ hp => hp

/-- Whatever happens leaves the instant of an entry as it is, and then the
entry is not used, or uses the entry and puts the current instant there. -/
theorem Sound.dates_perform (hw : w.Sound) (hp : w.perform h = some w') (e : EntryId) :
    w'.site.registry.lastUsed? e = w.site.registry.lastUsed? e ∧ w.usesIn e h w' = [] ∨
      w'.site.registry.lastUsed? e = some w.site.clock ∧ w.usesIn e h w' ≠ [] := by
  unfold usesIn
  rcases hw.dates hp e with ⟨hsame, hnot, hnil⟩ | ⟨hnow, hin | hne⟩
  · rw [if_neg hnot, hnil]
    exact .inl ⟨hsame, rfl⟩
  · rw [if_pos hin]
    exact .inr ⟨hnow, List.cons_ne_nil _ _⟩
  · exact .inr ⟨hnow, fun h => hne (List.append_eq_nil_iff.mp h).2⟩

/-- An entry is used now or never. -/
theorem eq_of_mem_usesIn {i : Instant} (hi : i ∈ w.usesIn e h w') : i = w.site.clock := by
  rcases List.mem_append.mp hi with hi | hi
  · split at hi
    · exact List.mem_singleton.mp hi
    · cases hi
  · cases h with
    | step id =>
        change i ∈ (w.call? id).elim [] _ at hi
        cases hc : w.call? id with
        | none =>
            rw [hc] at hi
            cases hi
        | some c =>
            rw [hc] at hi
            exact Call.eq_of_mem_usesOf hi
    | _ => cases hi

/-- The instant that the registry keeps for an entry is the latest of
those at which it was used. -/
structure Dated (w : BusWorld) (e : EntryId) (is : List Instant) : Prop where
  latest : w.site.registry.lastUsed? e = is.max?
  past : ∀ i ∈ is, i ≤ w.site.clock

theorem Dated.perform (hd : w.Dated e is) (hw : w.Sound) (hp : w.perform h = some w') :
    w'.Dated e (is ++ w.usesIn e h w') := by
  have hclock := hw.clock_le hp
  refine ⟨?_, ?_⟩
  · rcases hw.dates_perform hp e with ⟨hsame, hnil⟩ | ⟨hnow, hne⟩
    · rw [hsame, hnil, List.append_nil]
      exact hd.latest
    · obtain ⟨i, hi⟩ := List.exists_mem_of_ne_nil _ hne
      have hi' := eq_of_mem_usesIn hi
      rw [hnow, eq_comm, List.max?_eq_some_iff]
      refine ⟨List.mem_append_right _ (hi' ▸ hi), ?_⟩
      intro j hj
      rcases List.mem_append.mp hj with hj | hj
      · exact hd.past j hj
      · exact Nat.le_of_eq (eq_of_mem_usesIn hj)
  · intro i hi
    rcases List.mem_append.mp hi with hi | hi
    · exact Nat.le_trans (hd.past i hi) hclock
    · exact eq_of_mem_usesIn hi ▸ hclock

theorem uses_cons {rest : List Happening} (hp : w.perform h = some w') :
    w.uses e (h :: rest) = w.usesIn e h w' ++ w'.uses e rest := by
  show (match w.perform h with | some w' => _ | none => _) = _
  rw [hp]

theorem Dated.run (hd : w.Dated e is) (hw : w.Sound) (hr : w.run hs = some w') :
    w'.Dated e (is ++ w.uses e hs) := by
  induction hs generalizing w is with
  | nil =>
      cases hr
      show Dated _ e (is ++ [])
      rwa [List.append_nil]
  | cons h rest ih =>
      obtain ⟨w₁, hp, hrest⟩ := Option.bind_eq_some_iff.mp hr
      rw [uses_cons hp, ← List.append_assoc]
      exact ih (hd.perform hw hp) (hw.perform hp) hrest

/-- What the registry knows of the uses of an entry, wherever a run
leads. -/
theorem dated {b : Simulated} {options : SessionOptions} {policy : SweepPolicy}
    (hb : 0 ≤ b.nextDescriptor) (hr : (World.unused b options policy).run hs = some w)
    (e : EntryId) : w.Dated e ((World.unused b options policy).uses e hs) := by
  have hnone : (World.unused b options policy).Dated e [] := ⟨rfl, nofun⟩
  exact hnone.run (sound_unused hb options policy) hr

end World

end InstrumentBus
