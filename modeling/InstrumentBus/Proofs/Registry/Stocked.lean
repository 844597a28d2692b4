/-
The cache lists sessions.

A call that finds no entry for its address makes one, and the entry is
vacant until the call has got its lock and been granted a session. If it
is refused one it takes the entry out of the cache again. So where tasks
change only where they wait, nobody else ever sees a vacant entry in the
cache (`World.Stocked`) — with one exception. A call looks at its token
after it has made the entry, and a call that finds it cancelled leaves
without taking the entry back. That takes a token that was cancelled
before the call was made; a call that is cancelled while it waits has not
made its entry itself.

`World.cache_lists_sessions` says so of the addresses for which no call
is made that was cancelled before (`World.Timely`), and
`World.vacant_cached` shows the exception.
-/
import InstrumentBus.Proofs.Registry.Refusal
import InstrumentBus.Proofs.Registry.Swept

namespace InstrumentBus

namespace Call

variable {id : TaskId} {S : Address → Prop} {c c' : Call} {x x' : BusSite} {r r' : Registry}

-- ============================================== an entry being filled

/-- The entry that a call may have made and for which it has yet to get a
session, going by its stage. -/
def makes : CallStage → Option EntryId
  | .request e | .recheck e | .confirm e | .fill e | .abandon e _ => some e
  | _ => none

/-- A call has the lock still before it. -/
def onTheWay : CallStage → Bool
  | .check | .find | .request _ | .recheck _ | .confirm _ => true
  | _ => false

/-- A call is about to close what is in its slot. -/
def vacates : CallStage → Bool
  | .vacate _ _ => true
  | _ => false

/-- The cached entries of certain addresses hold sessions, or are about to
be filled by one call that nobody stands in the way of. -/
structure Stocks (S : Address → Prop) (c : Call) (r : Registry) : Prop where
  seats : ∀ a e, S a → r.current? a = some e → r.slot? e ≠ none ∨
    c.address = a ∧ makes c.stage = some e ∧ (c.stage = .request e → r.holder? e = none)
  heeded : onTheWay c.stage = false ∨ (S c.address → c.cancelled = false)
  kept : vacates c.stage = false

theorem Stocks.heeds (hs : c.Stocks S r) (h : onTheWay c.stage = true) (ha : S c.address) :
    c.cancelled = false :=
  hs.heeded.resolve_left (fun hf => Bool.false_ne_true (hf.symm.trans h)) ha

/-- A stride that leaves cache and slots alone leaves everything in order
if the call goes on with what it has begun. -/
theorem Stocks.still (hs : c.Stocks S r) (hcache : r'.cache = r.cache)
    (hslots : ∀ e, r'.slot? e = r.slot? e)
    (hmakes : ∀ e, S c.address → makes c.stage = some e → r.current? c.address = some e →
      (c.stage = .request e → r.holder? e = none) → r.slot? e ≠ none ∨
        c'.address = c.address ∧ makes c'.stage = some e ∧
          (c'.stage = .request e → r'.holder? e = none))
    (hheeded : onTheWay c'.stage = false ∨ (S c'.address → c'.cancelled = false))
    (hkept : vacates c'.stage = false) : c'.Stocks S r' where
  seats := by
    intro a e ha hcur
    unfold Registry.current? at hcur
    rw [hcache] at hcur
    rw [hslots]
    rcases hs.seats a e ha hcur with hslot | ⟨rfl, hmake, hfree⟩
    · exact .inl hslot
    · exact hmakes e ha hmake hcur hfree
  heeded := hheeded
  kept := hkept

/-- A stride of a call that has no session to make leaves everything in
order. -/
theorem Stocks.quiet (hs : c.Stocks S r) (hcache : r'.cache = r.cache)
    (hslots : ∀ e, r'.slot? e = r.slot? e) (hnone : makes c.stage = none)
    (hheeded : onTheWay c'.stage = false ∨ (S c'.address → c'.cancelled = false))
    (hkept : vacates c'.stage = false) : c'.Stocks S r' := by
  refine hs.still hcache hslots ?_ hheeded hkept
  intro e _ hmake
  rw [hnone] at hmake
  cases hmake

/-- So does one that takes a call nearer to the session it has to make. -/
theorem Stocks.onward (hs : c.Stocks S r) (hcache : r'.cache = r.cache)
    (hslots : ∀ e, r'.slot? e = r.slot? e) (haddr : c'.address = c.address)
    (hmakes : makes c'.stage = makes c.stage) (hpast : ∀ e, c'.stage ≠ .request e)
    (hheeded : onTheWay c'.stage = false ∨ (S c'.address → c'.cancelled = false))
    (hkept : vacates c'.stage = false) : c'.Stocks S r' := by
  refine hs.still hcache hslots ?_ hheeded hkept
  intro e _ hmake _ _
  exact .inr ⟨haddr, hmakes.trans hmake, fun h => absurd h (hpast e)⟩

/-- So does one after which there is a session in the call's own slot. -/
theorem Stocks.filled {e : EntryId} (hs : c.Stocks S r) (hcache : r'.cache = r.cache)
    (hself : r'.slot? e ≠ none) (hothers : ∀ e', e' ≠ e → r'.slot? e' = r.slot? e')
    (hmakes : ∀ e', makes c.stage = some e' → e' = e)
    (hheeded : onTheWay c'.stage = false ∨ (S c'.address → c'.cancelled = false))
    (hkept : vacates c'.stage = false) : c'.Stocks S r' where
  seats := by
    intro a e' ha hcur
    left
    by_cases he : e' = e
    · rw [he]
      exact hself
    · unfold Registry.current? at hcur
      rw [hcache] at hcur
      rw [hothers e' he]
      rcases hs.seats a e' ha hcur with hslot | ⟨-, hmake, -⟩
      · exact hslot
      · exact absurd (hmakes e' hmake) he
  heeded := hheeded
  kept := hkept

/-- A call that has carried out part of its program is not on its way. -/
theorem act_stage (c : Call) (e : EntryId) (s : Session) (x : BusSite)
    (run : StateM (Line (Recorded Simulated)) Advance) :
    onTheWay (c.act e s x run).1.stage = false ∧ vacates (c.act e s x run).1.stage = false := by
  obtain ⟨replies, stage, hcall, ⟨pending, rest, rfl⟩ | ⟨result, rfl⟩⟩ := act_call c e s x run
  · rw [hcall]
    exact ⟨rfl, rfl⟩
  · rw [hcall]
    exact ⟨rfl, rfl⟩

/-- An address that is looked up is current afterwards, and if its entry has
just been made the call is about to fill it. -/
theorem Stocks.resolved (hs : c.Stocks S x.registry) (hstage : c.stage = .find) :
    Stocks S { c with stage := .request (x.registry.resolve c.address x.clock).2 }
      (x.registry.resolve c.address x.clock).1 := by
  have hheeds := hs.heeds (by rw [hstage]; rfl)
  cases hcur : x.registry.current? c.address with
  | some e =>
      rw [Registry.resolve_of_some hcur]
      exact hs.quiet rfl (fun _ => rfl) (by rw [hstage]; rfl) (.inr hheeds) rfl
  | none =>
      refine ⟨?_, .inr hheeds, rfl⟩
      intro a e ha hcur'
      rw [Registry.slot?_resolve, Registry.holder?_resolve]
      rw [Registry.resolve_of_none hcur] at hcur' ⊢
      change Keyed.get? (Keyed.set x.registry.cache c.address _) a = some e at hcur'
      rw [Keyed.get?_set] at hcur'
      split at hcur'
      next heq =>
        -- the entry has just been made, and nobody holds its lock
        cases hcur'
        refine .inr ⟨heq, rfl, fun _ => ?_⟩
        cases hold : x.registry.holder? x.registry.entries.length with
        | none => rfl
        | some t => exact absurd (Registry.lt_of_holder? hold) (Nat.lt_irrefl _)
      next =>
        rcases hs.seats a e ha hcur' with hslot | ⟨-, hmake, -⟩
        · exact .inl hslot
        · rw [hstage] at hmake
          cases hmake

/-- A call that is refused a session has an entry to take back. -/
theorem Stocks.refused {e : EntryId} {f : Failure} (hs : c.Stocks S r) (hcache : r'.cache = r.cache)
    (hslots : ∀ e', e' ≠ e → r'.slot? e' = r.slot? e') (hmake : makes c.stage = some e)
    (hhome : ∀ a, r.current? a = some e → a = c.address) :
    Stocks S { c with stage := .abandon e f } r' := by
  refine ⟨?_, .inl rfl, rfl⟩
  intro a e' ha hcur
  unfold Registry.current? at hcur
  rw [hcache] at hcur
  by_cases he : e' = e
  · subst he
    exact .inr ⟨(hhome a hcur).symm, rfl, fun h => by cases h⟩
  · rw [hslots e' he]
    rcases hs.seats a e' ha hcur with hslot | ⟨-, hmake', -⟩
    · exact .inl hslot
    · exact absurd (Option.some.inj (hmake'.symm.trans hmake)) he

/-- And once it has taken it back everything is in order. -/
theorem Stocks.abandoned {e : EntryId} {result : Except Failure Unit} (hs : c.Stocks S r)
    (hmake : makes c.stage = some e) :
    Stocks S { c with stage := .leave e result } (r.forget c.address e) := by
  refine ⟨?_, .inl rfl, rfl⟩
  intro a e' ha hcur
  rw [Registry.current?_forget] at hcur
  split at hcur
  · cases hcur
  next hne =>
    left
    rw [Registry.slot?_forget]
    rcases hs.seats a e' ha hcur with hslot | ⟨rfl, hmake', -⟩
    · exact hslot
    · cases hmake.symm.trans hmake'
      exact absurd ⟨rfl, hcur⟩ hne

/-- Part of a program leaves its session where it is. -/
theorem Stocks.acted {c₀ : Call} {e : EntryId} {s : Session} (hs : c.Stocks S r)
    (hnone : makes c.stage = none) (hcache : x.registry.cache = r.cache)
    (hslots : ∀ e, x.registry.slot? e = r.slot? e) (hslot : x.registry.slot? e = some s)
    (run : StateM (Line (Recorded Simulated)) Advance) :
    (c₀.act e s x run).1.Stocks S (c₀.act e s x run).2.registry := by
  obtain ⟨hself, hothers⟩ := slot?_act c₀ e s x run hslot
  obtain ⟨hway, hkept⟩ := act_stage c₀ e s x run
  obtain ⟨-, hcache', -⟩ := act_frame c₀ e s x run
  refine hs.filled (e := e) (hcache'.trans hcache) ?_ ?_ ?_ (.inl hway) hkept
  · rw [hself]
    exact Option.some_ne_none _
  · intro e' he
    exact (hothers e' he).trans (hslots e')
  · intro e' hmake
    rw [hnone] at hmake
    cases hmake

/-- The strides of a call on a registry in use keep the cache in order. -/
theorem Stride.stocks (h : c.Stride id x c' x') (hs : c.Stocks S x.registry)
    (hd : x.registry.disposed = false)
    (hlt : ∀ e, entry? c.stage = some e → e < x.registry.entries.length)
    (hhome : ∀ a e, entry? c.stage = some e → x.registry.current? a = some e → a = c.address) :
    c'.Stocks S x'.registry := by
  cases h with
  | closed hstage hdis =>
      rw [hd] at hdis
      cases hdis
  | checked hstage hdis =>
      exact hs.quiet rfl (fun _ => rfl) (by rw [hstage]; rfl)
        (.inr (hs.heeds (by rw [hstage]; rfl))) rfl
  | found hstage => exact hs.resolved hstage
  | refused e hstage hcancel =>
      refine hs.still rfl (fun _ => rfl) ?_ (.inl rfl) rfl
      intro e' ha
      have := hs.heeds (by rw [hstage]; rfl) ha
      rw [hcancel] at this
      cases this
  | granted e hstage hcancel hg =>
      exact hs.onward rfl (fun _ => Registry.slot?_modifyLock _ _ _ _) rfl (by rw [hstage]; rfl)
        (fun _ h => by cases h) (.inr fun _ => hcancel) rfl
  | lined e hstage hcancel hg =>
      refine hs.still rfl (fun _ => Registry.slot?_modifyLock _ _ _ _) ?_ (.inl rfl) rfl
      intro e' ha hmake hcur hfree
      -- a lock that is free would have been granted
      rw [hstage] at hmake
      cases hmake
      have hfree := hfree hstage
      rw [Registry.holder?_request (hlt e (by rw [hstage]; rfl)), hfree] at hg
      exact absurd rfl hg
  | withdrawn e hstage hcancel =>
      exact hs.quiet rfl (fun _ => Registry.slot?_modifyLock _ _ _ _) (by rw [hstage]; rfl)
        (.inl rfl) rfl
  | noticed e hstage hcancel hg =>
      exact hs.quiet rfl (fun _ => rfl) (by rw [hstage]; rfl) (.inr fun _ => hcancel) rfl
  | barred e hstage hdis =>
      rw [hd] at hdis
      cases hdis
  | rechecked e hstage hdis =>
      exact hs.onward rfl (fun _ => rfl) rfl (by rw [hstage]; rfl) (fun _ h => by cases h)
        (.inr (hs.heeds (by rw [hstage]; rfl))) rfl
  | confirmed e hstage hcur =>
      exact hs.onward rfl (fun _ => rfl) rfl (by rw [hstage]; rfl) (fun _ h => by cases h)
        (.inl rfl) rfl
  | stale e hstage hcur =>
      refine hs.still rfl (fun _ => Registry.slot?_modifyLock _ _ _ _) ?_
        (.inr (hs.heeds (by rw [hstage]; rfl))) rfl
      intro e' ha hmake hcur'
      rw [hstage] at hmake
      cases hmake
      exact absurd hcur' hcur
  | reused e s hstage hslot hopen =>
      refine hs.still rfl (fun _ => rfl) ?_ (.inl rfl) rfl
      intro e' ha hmake hcur hfree
      rw [hstage] at hmake
      cases hmake
      rw [hslot]
      exact .inl (Option.some_ne_none s)
  | opened e s bus hstage hv hrun =>
      have hlt := hlt e (by rw [hstage]; rfl)
      refine hs.filled (e := e) rfl ?_ (fun e' he => Registry.slot?_setSlot_ne _ _ (Ne.symm he)) ?_
        (.inl rfl) rfl
      · have hself := Registry.slot?_setSlot
          (r := { x.registry with created := x.registry.created + 1 }) (some s) hlt
        exact fun hnone => Option.some_ne_none s (hself.symm.trans hnone)
      · intro e' hmake
        rw [hstage] at hmake
        exact (Option.some.inj hmake).symm
  | failed e f bus hstage hv hrun =>
      refine hs.refused rfl ?_ (by rw [hstage]; rfl) ?_
      · intro e' he
        exact Registry.slot?_setSlot_ne _ _ (Ne.symm he)
      · exact fun a ha => hhome a e (by rw [hstage]; rfl) ha
  | started e s hstage hslot =>
      exact hs.acted (x := x.modifyRegistry (·.touch e x.clock)) (by rw [hstage]; rfl) rfl
        (fun _ => Registry.slot?_touch _ _ _ _) ((Registry.slot?_touch _ _ _ _).trans hslot) _
  | resumed e pending rest s hstage hdue hslot =>
      exact hs.acted (by rw [hstage]; rfl) rfl (fun _ => rfl) hslot _
  | vacated e f hstage =>
      have hkept := hs.kept
      rw [hstage] at hkept
      cases hkept
  | abandoned e f hstage => exact hs.abandoned (by rw [hstage]; rfl)
  | left e result hstage =>
      exact hs.quiet rfl (fun _ => Registry.slot?_modifyLock _ _ _ _) (by rw [hstage]; rfl)
        (.inl rfl) rfl

/-- A call that waits, has not begun or is over makes no session. -/
theorem makes_of_atRest {c : Call} (h : (Task.call c).atRest = true) : makes c.stage = none := by
  obtain ⟨address, program, cancelled, entered, replies, stage⟩ := c
  cases stage <;> first | rfl | cases h

end Call

-- ================================================= no vacant entry is seen

/-- A sweep leaves no vacant entry in the cache. -/
theorem Sweep.Stride.stocked {id : TaskId} {s s' : Sweep} {x x' : BusSite} {a : Address}
    {e : EntryId} (h : s.Stride id x s' x') (hh : s.Homed x.registry)
    (hcur : x'.registry.current? a = some e) (hslot : x'.registry.slot? e = none) :
    x.registry.current? a = some e ∧ x.registry.slot? e = none := by
  cases h with
  | took b e' rest lock hstage ht hl =>
      exact ⟨hcur, (Registry.slot?_modifyLock _ _ _ _).symm.trans hslot⟩
  | unlinked b e' hstage =>
      change (x.registry.forget b e').current? a = some e at hcur
      rw [Registry.current?_forget] at hcur
      split at hcur
      · cases hcur
      · exact ⟨hcur, (Registry.slot?_forget _ _ _ _).symm.trans hslot⟩
  | closed e' hstage =>
      obtain ⟨hcache, -⟩ := Site.closeSlot_frame x e'
      unfold Registry.current? at hcur
      rw [hcache] at hcur
      refine ⟨hcur, ?_⟩
      -- the entry that is closed has left the cache
      have hne : e ≠ e' := by
        rintro rfl
        exact (hh.closing e (by rw [hstage]; rfl)).2 a hcur
      exact (Site.slot?_closeSlot_ne x hne).symm.trans hslot
  | unlocked e' hstage => exact ⟨hcur, (Registry.slot?_modifyLock _ _ _ _).symm.trans hslot⟩
  | _ => exact ⟨hcur, hslot⟩

namespace World

variable {S : Address → Prop} {w w' v v' : BusWorld} {id : TaskId} {c c' : Call} {a : Address}
  {e : EntryId} {h : Happening}

/-- Every cached entry of certain addresses holds a session. -/
def Stocked (S : Address → Prop) (w : BusWorld) : Prop :=
  ∀ a e, S a → w.site.registry.current? a = some e → w.site.registry.slot? e ≠ none

/-- The same in the course of a turn. -/
structure StockedBut (S : Address → Prop) (w : BusWorld) (id : TaskId) : Prop where
  call : ∀ c, w.call? id = some c → c.Stocks S w.site.registry
  other : w.call? id = none → w.Stocked S

/-- A call of certain addresses is about to be made whose token was
cancelled before. -/
def Untimely (S : Address → Prop) (w : BusWorld) (h : Happening) : Prop :=
  ∃ id c, h = .step id ∧ w.call? id = some c ∧ S c.address ∧ c.stage = .check ∧ c.cancelled = true

/-- A run in which tasks change only where they wait, and no call of
certain addresses is made whose token was cancelled before. -/
inductive Timely (S : Address → Prop) (w : BusWorld) : BusWorld → Prop where
  | refl : Timely S w w
  | next {v w' : BusWorld} (h : Happening) (hr : Timely S w v) (hn : ¬ Untimely S v h)
      (ho : v.Occurs h w') : Timely S w w'

theorem stocked_unused (S : Address → Prop) (b : Simulated) (options : SessionOptions)
    (policy : SweepPolicy) : (World.unused b options policy).Stocked S := by
  intro a e _ hcur
  cases hcur

theorem Timely.reaches (hr : w.Timely S w') : w.Reaches w' := by
  induction hr with
  | refl => exact .refl w
  | next h hr hn ho ih => exact ih.trans ho.reaches

/-- A turn begins with the cache in order. -/
theorem Stocked.begins (hs : w.Stocked S) (hrest : w.Rests id) (hn : ¬ Untimely S w (.step id)) :
    w.StockedBut S id where
  call := by
    intro c hc
    have hat := hrest _ (call?_eq_some.mp hc)
    have hstage : c.stage = .check ∨ Call.onTheWay c.stage = false := by
      obtain ⟨address, program, cancelled, entered, replies, stage⟩ := c
      cases stage <;> first | exact .inl rfl | exact .inr rfl | cases hat
    refine ⟨fun a e ha hcur => .inl (hs a e ha hcur), ?_, ?_⟩
    · rcases hstage with hcheck | hway
      · refine .inr fun ha => ?_
        cases hcancel : c.cancelled with
        | false => rfl
        | true => exact absurd ⟨id, c, rfl, hc, ha, hcheck, hcancel⟩ hn
      · exact .inl hway
    · obtain ⟨address, program, cancelled, entered, replies, stage⟩ := c
      cases stage <;> first | rfl | cases hat
  other := fun _ => hs

/-- And it ends with the cache in order. -/
theorem StockedBut.ends (hs : w.StockedBut S id) (hrest : w.Rests id) : w.Stocked S := by
  cases hc : w.call? id with
  | none => exact hs.other hc
  | some c =>
      intro a e ha hcur
      rcases (hs.call c hc).seats a e ha hcur with hslot | ⟨-, hmake, -⟩
      · exact hslot
      · rw [Call.makes_of_atRest (hrest _ (call?_eq_some.mp hc))] at hmake
        cases hmake

/-- A registry that is disposed of stays so. -/
theorem Reaches.disposed (hr : w.Reaches w') (hw : w.Sound)
    (hd : w.site.registry.disposed = true) : w'.site.registry.disposed = true := by
  refine hw.induct (P := fun v => v.site.registry.disposed = true) hr hd ?_
  intro v h v' hv hdv hp
  cases hv.perform_change hp with
  | task j u u' hid hu hw he _ _ _ => exact he.disposed hdv
  | begun u hf hw hb hr => exact hr.disposed.trans hdv
  | beside hw hl htrace hr => rwa [hr]

/-- So one that is in use has been in use all along. -/
theorem Reaches.inUse (hr : w.Reaches w') (hw : w.Sound)
    (hd : w'.site.registry.disposed = false) : w.site.registry.disposed = false := by
  cases hdis : w.site.registry.disposed with
  | false => rfl
  | true =>
      rw [hr.disposed hw hdis] at hd
      cases hd

/-- A turn of a task that is not a call goes on as it began. -/
theorem StockedBut.beside {t' : Task} (hs : v.StockedBut S id) (hc : v.call? id = none)
    (ht' : v'.task? id = some t') (hnot : ∀ c, t' ≠ .call c)
    (hold : ∀ a e, v'.site.registry.current? a = some e → v'.site.registry.slot? e = none →
      v.site.registry.current? a = some e ∧ v.site.registry.slot? e = none) :
    v'.StockedBut S id where
  call := by
    intro c hc'
    rw [call?_eq_some, ht'] at hc'
    exact absurd (Option.some.inj hc') (hnot c)
  other := by
    intro _ a e ha hcur hslot
    obtain ⟨hcur₀, hslot₀⟩ := hold a e hcur hslot
    exact hs.other hc a e ha hcur₀ hslot₀

theorem StockedBut.step (hs : v.StockedBut S id) (ho : v.Orderly) (hm : v.Homed)
    (hp : v.step? id = some v') (hd : v'.site.registry.disposed = false) :
    v'.StockedBut S id := by
  obtain ⟨t, t', x', ht, hstep, rfl⟩ := step?_eq_some hp
  have ht' : task? ⟨x', v.tasks.set id t'⟩ id = some t' := task?_set_self ht _ _
  have hd₀ := Reaches.inUse (.perform (h := .step id) hp) ho.sound hd
  cases t with
  | call c =>
      have hc := call?_eq_some.mpr ht
      obtain ⟨c', hcall, hc'⟩ := step?_call_eq_some hc hp
      have hst := Call.step_stride hcall (ho.sound.tasks id _ ht)
      refine ⟨?_, ?_⟩
      · intro c₁ hc₁
        cases hc'.symm.trans hc₁
        exact hst.stocks (hs.call c hc) hd₀ (fun e => ho.sound.entry_lt hc)
          fun a e he hcur => hm id c e a hc he hcur
      · intro hnone
        rw [hc'] at hnone
        cases hnone
  | sweep s =>
      obtain ⟨p, hs', heq⟩ := Option.map_eq_some_iff.mp hstep
      cases heq
      refine hs.beside (by unfold call?; rw [ht]) ht' (fun c h => by cases h) ?_
      intro a e hcur hslot
      exact (Sweep.step_stride hs').stocked (ho.listed id _ s ht (.own s)) hcur hslot
  | ticker k =>
      obtain ⟨p, hk', heq⟩ := Option.map_eq_some_iff.mp hstep
      cases heq
      refine hs.beside (by unfold call?; rw [ht]) ht' (fun c h => by cases h) ?_
      intro a e hcur hslot
      have hcases : p.2 = v.site ∨
          ∃ s s' mark, k = .sweeping s mark ∧ s.Stride id v.site s' p.2 :=
        Ticker.step_cases hk'
      rcases hcases with hx | ⟨s, s', mark, rfl, hst⟩
      · change p.2.registry.current? a = some e at hcur
        change p.2.registry.slot? e = none at hslot
        rw [hx] at hcur hslot
        exact ⟨hcur, hslot⟩
      · exact hst.stocked (ho.listed id _ s ht (.ticking s mark)) hcur hslot
  | disposal d =>
      -- a disposal takes no step that leaves the registry in use
      obtain ⟨p, hd', heq⟩ := Option.map_eq_some_iff.mp hstep
      cases heq
      have hpending : ∀ l, d.pending? = some l → False := by
        intro l hl
        have := (ho.sound.draining id _ l ht hl).disposed
        rw [hd₀] at this
        cases this
      cases d with
      | mark =>
          simp only [Disposal.step, hd₀, Bool.false_eq_true, if_false] at hd'
          cases hd'
          cases hd
      | list =>
          have := (ho.sound.tasks id _ ht).1 rfl
          rw [hd₀] at this
          cases this
      | ended => cases hd'
      | dropped => cases hd'
      | _ => exact (hpending _ rfl).elim

/-- A turn on a registry in use leaves no vacant entry in the cache. -/
theorem Stocked.turn (hs : w.Stocked S) (ho : w.Orderly) (hm : w.Homed) (ht : w.Turn id w')
    (hn : ¬ Untimely S w (.step id)) (hd : w'.site.registry.disposed = false) : w'.Stocked S := by
  obtain ⟨hrest, hrest', n, hrun⟩ := ht
  have hbut : ∀ (k : Nat) (v : BusWorld), v.Orderly → v.Homed → v.StockedBut S id →
      v.run (List.replicate k (.step id)) = some w' → w'.StockedBut S id := by
    intro k
    induction k with
    | zero =>
        intro v hov hmv hsv hrun
        cases hrun
        exact hsv
    | succ k ih =>
        intro v hov hmv hsv hrun
        obtain ⟨v', hp, hmore⟩ := Option.bind_eq_some_iff.mp hrun
        have hd' := Reaches.inUse ⟨_, hmore⟩ (hov.perform hp).sound hd
        exact ih v' (hov.perform hp) (hmv.perform hov.sound hp) (hsv.step hov hmv hp hd') hmore
  exact (hbut (n + 1) w ho hm (hs.begins hrest hn) hrun).ends hrest'

/-- Whatever happens beside the tasks leaves cache and slots alone, and so
does a task that is cancelled or dropped. -/
theorem perform_quiet (hp : w.perform h = some w') (hne : ∀ id, h ≠ .step id) :
    w'.site.registry.cache = w.site.registry.cache ∧
      ∀ e, w'.site.registry.slot? e = w.site.registry.slot? e := by
  cases h with
  | step id => exact absurd rfl (hne id)
  | startSweep =>
      have hsweep : w.startSweep = w' := Option.some.inj hp
      subst hsweep
      unfold startSweep
      simp only
      split <;> exact ⟨rfl, fun _ => rfl⟩
  | drop id =>
      cases hp
      cases ht : w.task? id with
      | none =>
          rw [drop_of_none ht]
          exact ⟨rfl, fun _ => rfl⟩
      | some t =>
          rw [drop_of_some ht]
          cases t with
          | call c =>
              refine ⟨?_, fun e => Call.slot?_drop id c w.site e⟩
              obtain ⟨address, program, cancelled, entered, replies, stage⟩ := c
              cases stage <;> rfl
          | sweep s => exact ⟨rfl, fun _ => rfl⟩
          | disposal d =>
              refine ⟨?_, ?_⟩
              · cases d <;> rfl
              · intro e
                cases d <;> first | rfl | exact Registry.slot?_modifyLock _ _ _ _
          | ticker k => cases k <;> exact ⟨rfl, fun _ => rfl⟩
  | _ =>
      cases hp
      exact ⟨rfl, fun _ => rfl⟩

/-- Where the cache is in order it stays so. -/
theorem Timely.stocked (hr : w.Timely S w') (ho : w.Orderly) (hm : w.Homed) (hs : w.Stocked S)
    (hd : w'.site.registry.disposed = false) : w'.Orderly ∧ w'.Homed ∧ w'.Stocked S := by
  induction hr with
  | refl => exact ⟨ho, hm, hs⟩
  | @next v w' h hr hn hocc ih =>
      have hdv := hocc.reaches.inUse (ho.reaches hr.reaches).sound hd
      obtain ⟨hov, hmv, hsv⟩ := ih hdv
      refine ⟨hov.reaches hocc.reaches, hocc.reaches.homed hov.sound hmv, ?_⟩
      cases h with
      | step id => exact hsv.turn hov hmv hocc hn hd
      | _ =>
          obtain ⟨hcache, hslots⟩ := perform_quiet hocc nofun
          intro a e ha hcur
          unfold Registry.current? at hcur
          rw [hcache] at hcur
          rw [hslots]
          exact hsv a e ha hcur

end World

-- ============================================ a call that starts nothing

/-- A call that starts its program notes it. -/
theorem Call.Stride.enters {id : TaskId} {c c' : Call} {x x' : BusSite} {e : EntryId}
    (h : c.Stride id x c' x') (hs : c.stage = .enter e) : c'.entered ≠ none := by
  cases h with
  | started e' s hs' hslot =>
      obtain ⟨replies, stage, hcall, -⟩ := act_call
        { c with entered := some (x.clock, s.descriptor) } e' s
        (x.modifyRegistry (·.touch e' x.clock)) (Program.run x.clock c.program)
      rw [hcall]
      exact Option.some_ne_none _
  | _ => cases hs.symm.trans ‹c.stage = _›

/-- A call that was granted a session and has come to its end has started
its program. -/
theorem Call.Accounts.starts {c : Call} {ds : List Deed} {result : Except Failure Unit}
    (h : c.Accounts ds) (hout : c.outcome? = some result) (hmem : .asked (.ok ()) ∈ ds) :
    .started ∈ ds := by
  unfold outcome? at hout
  unfold Accounts at h
  split at hout
  next r hs =>
    rw [hs] at h
    rcases h with he | ⟨rfl, -⟩
    · cases he with
      | closed => cases hmem
      | refused f => simp at hmem
      | own o r ho => simp
    · cases hmem
  · cases hout

namespace World

variable {S : Address → Prop} {w w' v v' : BusWorld} {id : TaskId} {c c' : Call} {a : Address}
  {e : EntryId} {h : Happening}

/-- The program of a call that has started it shows. -/
def Entered (w : BusWorld) (ds : TaskId → List Call.Deed) : Prop :=
  ∀ id c, w.call? id = some c → .started ∈ ds id → c.entered ≠ none

theorem Entered.perform {ds : TaskId → List Call.Deed} (he : w.Entered ds) (hw : w.Sound)
    (hacc : w.Accounted ds) (hp : w.perform h = some w') :
    w'.Entered fun id => ds id ++ w.deedsIn id h w' := by
  intro id c' hc' hmem
  change .started ∈ ds id ++ w.deedsIn id h w' at hmem
  rcases (hw.perform_change hp).came hc' with ⟨hnone, -⟩ | ⟨c, hc⟩
  · rw [hacc.unborn id hnone, deedsIn_of_none hnone] at hmem
    cases hmem
  · cases hw.fate hc hp with
    | steps c₁ hstep hc₁ =>
        cases hc'.symm.trans hc₁
        have hst := Call.step_stride hstep (hw.tasks id _ (call?_eq_some.mp hc))
        by_cases hstage : ∃ e, c.stage = .enter e
        · obtain ⟨e, hstage⟩ := hstage
          exact hst.enters hstage
        · have hold : .started ∈ ds id := by
            rcases List.mem_append.mp hmem with hmem | hmem
            · exact hmem
            · rw [deedsIn_step hc] at hmem
              exact absurd (Call.stage_of_started hmem) hstage
          cases Call.step_follows hstep with
          | call ha hprogram hent =>
              rw [hent.resolve_right hstage]
              exact he id c hc hold
    | cancelled hx hc₁ =>
        cases hc'.symm.trans hc₁
        have hmem : .started ∈ ds id ++ [] := hmem
        rw [List.append_nil] at hmem
        exact he id c hc hmem
    | dropped hx hc₁ =>
        cases hc'.symm.trans hc₁
        have hmem : .started ∈ ds id ++ [] := hmem
        rw [List.append_nil] at hmem
        have := he id c hc hmem
        obtain ⟨address, program, cancelled, entered, replies, stage⟩ := c
        cases stage <;> exact this
    | stays hh hc₁ =>
        cases hc'.symm.trans hc₁
        have hne : h ≠ .step id := by
          intro heq
          exact hh (congrArg Happening.subject? heq)
        rw [deedsIn_of_ne hne, List.append_nil] at hmem
        exact he id c' hc hmem

theorem Entered.run {ds : TaskId → List Call.Deed} {hs : List Happening} (he : w.Entered ds)
    (hw : w.Sound) (hacc : w.Accounted ds) (hr : w.run hs = some w') :
    w'.Entered fun id => ds id ++ w.deeds id hs := by
  have hboth := hw.deeds_induct (P := fun v ds => v.Accounted ds ∧ v.Entered ds) hr ⟨hacc, he⟩
    fun _ _ _ _ hv h hp => ⟨h.1.perform hv hp, h.2.perform hv h.1 hp⟩
  exact hboth.2

theorem entered_unused (b : Simulated) (options : SessionOptions) (policy : SweepPolicy) :
    (World.unused b options policy).Entered fun _ => [] :=
  fun _ _ _ hmem => (nomatch hmem)

/-- In a turn only the task whose turn it is does something. -/
theorem deeds_turn {j : TaskId} (hj : j ≠ id) (n : Nat) (w : BusWorld) :
    w.deeds j (List.replicate n (.step id)) = [] := by
  induction n generalizing w with
  | zero => rfl
  | succ n ih =>
      have hne : Happening.step id ≠ .step j := by
        intro heq
        cases heq
        exact hj rfl
      cases hp : w.perform (.step id) with
      | none => simp only [List.replicate_succ, deeds, hp]
      | some w₁ => rw [List.replicate_succ, deeds_cons hp, deedsIn_of_ne hne, ih, List.append_nil]

/-- Nothing goes back to anything at an address that is not cached. -/
theorem supplied_uncached (hcur : w.site.registry.current? a = none) :
    w.Supplied a fun _ => [] where
  seated := by
    intro e s hcur'
    rw [hcur] at hcur'
    cases hcur'
  started := by
    intro j c hc ha hmem
    cases hmem
  unborn := fun _ _ => rfl

/-- A call that ends with a failure in a turn and has not started its
program has been granted nothing in it. -/
theorem Sound.ends_unsupplied {ds : TaskId → List Call.Deed} {f : Failure} {n : Nat}
    (hw : w.Sound) (hacc : w.Accounted ds) (hent : w.Entered ds)
    (hr : w.run (List.replicate n (.step id)) = some w')
    (hc' : w'.call? id = some c') (hout : c'.outcome? = some (.error f))
    (hnone : c'.entered = none) :
    ¬ w'.Granted a fun j => w.deeds j (List.replicate n (.step id)) := by
  rintro ⟨k, ck, hck, hak, hmem⟩
  have hk : k = id := by
    by_cases hk : k = id
    · exact hk
    · simp only [deeds_turn hk] at hmem
      cases hmem
  subst hk
  have hstart := ((hacc.run hw hr).calls k c' hc').starts hout (List.mem_append_right _ hmem)
  exact hent.run hw hacc hr k c' hc' hstart hnone

end World

-- =================================================== the cache, in all runs

/-- The cached entries that hold a session. -/
def Registry.seats (r : Registry) : List (Address × EntryId) :=
  r.cache.filter fun p => (r.slot? p.2).isSome

/-- What a call is told that has failed. -/
def Call.failure? (c : Call) : Option Failure :=
  match c.outcome? with
  | some (.error f) => some f
  | _ => none

theorem Call.failure?_eq_some {c : Call} {f : Failure} :
    c.failure? = some f ↔ c.outcome? = some (.error f) := by
  unfold failure?
  split <;> simp_all

/-- Where every cached entry holds a session, each of them is a seat. -/
theorem Registry.seats_eq {r : Registry} (h : ∀ p ∈ r.cache, r.slot? p.2 ≠ none) :
    r.seats = r.cache := by
  refine List.filter_eq_self.mpr ?_
  intro p hp
  exact Option.isSome_iff_ne_none.mpr (h p hp)

theorem Registry.contains_iff {r : Registry} {a : Address} :
    r.contains a = true ↔ ∃ e, r.current? a = some e := Option.isSome_iff_exists

namespace World

variable {S : Address → Prop} {w w' v v' : BusWorld} {id : TaskId} {c c' : Call} {a : Address}
  {e : EntryId} {h : Happening}

/-- All that is cached holds a session, if no address that is cached has
had an untimely call. -/
theorem Stocked.seats (hs : w.Stocked S) (hw : w.Sound)
    (hall : ∀ a, w.site.registry.contains a = true → S a) :
    w.site.registry.seats = w.site.registry.cache := by
  refine Registry.seats_eq ?_
  intro p hp
  have hcur := hw.coherent.listed p hp
  exact hs p.1 p.2 (hall p.1 (Registry.contains_iff.mpr ⟨p.2, hcur⟩)) hcur

/-- A turn in which a call is told of a failure and starts nothing makes
no session, so it caches no address. -/
theorem Stocked.uncached {ds : TaskId → List Call.Deed} {f : Failure} {n : Nat}
    (hs' : w'.Stocked S) (ha : S a) (hw : w.Sound) (hacc : w.Accounted ds) (hent : w.Entered ds)
    (hr : w.run (List.replicate n (.step id)) = some w') (hc' : w'.call? id = some c')
    (hout : c'.outcome? = some (.error f)) (hnone : c'.entered = none)
    (huncached : w.site.registry.contains a = false) : w'.site.registry.contains a = false := by
  have hcur : w.site.registry.current? a = none := by
    cases hcur : w.site.registry.current? a with
    | none => rfl
    | some e =>
        rw [Registry.contains_iff.mpr ⟨e, hcur⟩] at huncached
        cases huncached
  cases hcached : w'.site.registry.contains a with
  | false => rfl
  | true =>
      obtain ⟨e, hcur'⟩ := Registry.contains_iff.mp hcached
      obtain ⟨s, hslot'⟩ := Option.ne_none_iff_exists'.mp (hs' a e ha hcur')
      have hgranted := ((supplied_uncached hcur).run hw hr).seated e s hcur' hslot'
      exact absurd hgranted (hw.ends_unsupplied hacc hent hr hc' hout hnone)

/-- A sweep that has come to its end has counted the sessions that have
left the cache, and has closed them. -/
theorem Stocked.swept {s : Sweep} (hs : w.Stocked S) (hw : w.Sound)
    (hall : ∀ a, w.site.registry.contains a = true → S a)
    (hc : Sweep.Counts w.site.registry w'.site.registry s) (hended : s.stage = .ended) :
    w'.site.registry.seats.Sublist w.site.registry.seats ∧
      s.evicted + w'.site.registry.seats.length = w.site.registry.seats.length ∧
      ∀ p ∈ w.site.registry.seats, p ∉ w'.site.registry.seats →
        w'.site.registry.slot? p.2 = none := by
  have hclosing : Sweep.closing s.stage = none := by
    rw [hended]
    rfl
  -- what is left in the cache was not touched
  have hseats' : w'.site.registry.seats = w'.site.registry.cache := by
    refine Registry.seats_eq ?_
    intro p hp
    have hcur := hw.coherent.listed p (hc.remains.subset hp)
    rw [hc.kept p hp]
    exact hs p.1 p.2 (hall p.1 (Registry.contains_iff.mpr ⟨p.2, hcur⟩)) hcur
  rw [hs.seats hw hall, hseats']
  refine ⟨hc.remains, ?_, ?_⟩
  · have hcount := hc.count
    rw [hclosing] at hcount
    simp only [Option.toList_none, List.length_nil] at hcount
    omega
  · intro p hp hnot
    refine ((hc.gone p hp).resolve_left hnot).resolve_right ?_
    rw [hclosing]
    exact Option.not_mem_none p.2

/-- The cache lists sessions. While the registry is in use, and for
addresses for which no call is made that was cancelled before: an address
is cached exactly when its entry holds a session that was opened for it;
the size of the cache is the number of sessions in it; a call that ends
with a failure and without having started its program leaves an address
uncached that was; and a sweep comes to its end, counts the sessions that
have left the cache and has closed them. -/
theorem cache_lists_sessions {b : Simulated} {options : SessionOptions} {policy : SweepPolicy}
    (hb : 0 ≤ b.nextDescriptor) (hr : (World.unused b options policy).Timely S w)
    (hd : w.site.registry.disposed = false) :
    (∀ a, S a → (w.site.registry.contains a = true ↔
      ∃ e s, w.site.registry.current? a = some e ∧ w.site.registry.slot? e = some s ∧
        s.address = a ∧ s.descriptor ∈ w.site.bus.opened)) ∧
    ((∀ a, w.site.registry.contains a = true → S a) →
      w.site.registry.size = w.site.registry.seats.length ∧
        (Keyed.keys w.site.registry.seats).Nodup) ∧
    (∀ id c c' f w', w.call? id = some c → S c.address → ¬ Untimely S w (.step id) →
      w.Turn id w' → w'.site.registry.disposed = false → w'.call? id = some c' →
      c'.outcome? = some (.error f) → c'.entered = none →
      w.site.registry.contains c.address = false →
        w'.site.registry.contains c.address = false) ∧
    (∀ id, w.task? id = some (.sweep .new) →
      (∀ a, w.site.registry.contains a = true → S a) →
      (∃ w', w.Turn id w') ∧ ∀ w', w.Turn id w' → ∃ s, w'.task? id = some (.sweep s) ∧
        s.stage = .ended ∧ w'.site.registry.seats.Sublist w.site.registry.seats ∧
        s.evicted + w'.site.registry.seats.length = w.site.registry.seats.length ∧
        ∀ p ∈ w.site.registry.seats, p ∉ w'.site.registry.seats →
          w'.site.registry.slot? p.2 = none) := by
  have hunused := orderly_unused hb options policy
  have hhomed := homed_unused b options policy
  obtain ⟨ho, hm, hs⟩ := hr.stocked hunused hhomed (stocked_unused S b options policy) hd
  refine ⟨?_, ?_, ?_, ?_⟩
  · intro a ha
    constructor
    · intro hcached
      obtain ⟨e, hcur⟩ := Registry.contains_iff.mp hcached
      obtain ⟨s, hslot⟩ := Option.ne_none_iff_exists'.mp (hs a e ha hcur)
      exact ⟨e, s, hcur, hslot, ho.sound.seated a e s hcur hslot,
        (ho.sound.owned.slot e s hslot).1⟩
    · rintro ⟨e, s, hcur, -⟩
      exact Registry.contains_iff.mpr ⟨e, hcur⟩
  · intro hall
    rw [hs.seats ho.sound hall]
    exact ⟨rfl, ho.distinct⟩
  · intro id c c' f w' hc ha hn hturn hd' hc' hout hnone huncached
    obtain ⟨hs₀, hrun₀⟩ := hr.reaches
    have hacc := (accounted_unused b options policy).run hunused.sound hrun₀
    have hent := (entered_unused b options policy).run hunused.sound
      (accounted_unused b options policy) hrun₀
    have hs' := hs.turn ho hm hturn hn hd'
    obtain ⟨-, -, n, hrun⟩ := hturn
    exact hs'.uncached ha ho.sound hacc hent hrun hc' hout hnone huncached
  · intro id ht hall
    obtain ⟨hexists, hcounts⟩ := ho.sweep_turn ht
    refine ⟨hexists, ?_⟩
    intro w' hturn
    obtain ⟨s, ht', hended, hc⟩ := hcounts w' hturn
    exact ⟨s, ht', hended, hs.swept ho.sound hall hc hended⟩

/-- A call that sleeps on its session, and a sweep about to begin. -/
theorem cache_lists_sessions_asleep :
    ∃ w, (World.unused .empty .standard .standard).Timely (fun _ => True) w ∧
      w.site.registry.contains ⟨5, 0⟩ = true ∧
      w.site.registry.size = w.site.registry.seats.length ∧ ∃ w', w.Turn 1 w' := by
  have hrun : ((World.unused .empty .standard .standard).perform
      (.execute ⟨5, 0⟩ [.sleep (.ofSecs 1)] false)).any (fun w₁ =>
        (w₁.call? 0).all (!·.cancelled) && (w₁.occurs? (.step 0) 6).any fun w₂ =>
          (w₂.perform .evict).any fun w =>
            !w.site.registry.disposed && w.site.registry.contains ⟨5, 0⟩ &&
              w.sweep? 1 == some .new) = true := by
    decide +kernel
  obtain ⟨w₁, hw₁, hall⟩ := (Option.any_eq_true _ _).mp hrun
  simp only [Bool.and_eq_true] at hall
  obtain ⟨htimely, hturn⟩ := hall
  obtain ⟨w₂, hw₂, hevict⟩ := (Option.any_eq_true _ _).mp hturn
  obtain ⟨w, hw, hall⟩ := (Option.any_eq_true _ _).mp hevict
  simp only [Bool.and_eq_true, Bool.not_eq_true', beq_iff_eq] at hall
  obtain ⟨⟨hd, hcached⟩, hsweep⟩ := hall
  have hr : (World.unused .empty .standard .standard).Timely (fun _ => True) w := by
    refine .next .evict (.next (.step 0)
      (.next (.execute ⟨5, 0⟩ [.sleep (.ofSecs 1)] false) .refl ?_ hw₁) ?_
      (occurs_of_occurs? hw₂)) ?_ hw
    · rintro ⟨id, c, heq, -⟩
      cases heq
    · rintro ⟨id, c, heq, hc, -, -, hcancel⟩
      cases heq
      rw [hc] at htimely
      simp [hcancel] at htimely
    · rintro ⟨id, c, heq, -⟩
      cases heq
  have ht : w.task? 1 = some (.sweep .new) := sweep?_eq_some.mp hsweep
  obtain ⟨-, hsize, -, hevicts⟩ := cache_lists_sessions (by decide) hr hd
  exact ⟨w, hr, hcached, (hsize fun _ _ => True.intro).1, (hevicts 1 ht fun _ _ => True.intro).1⟩

/-- The exception: a call whose token was cancelled before it was made. It
is told so, has asked for nothing and is over, and the address is cached
with an entry that holds no session. A sweep counts it. -/
theorem vacant_cached :
    ∃ w₁ w w₂ w₃ c s, (World.unused .empty .standard ⟨.zero, .zero⟩).perform
        (.execute ⟨5, 0⟩ [] true) = some w₁ ∧ w₁.Turn 0 w ∧
      w.call? 0 = some c ∧ c.outcome? = some (.error (Call.lockCancelled ⟨5, 0⟩)) ∧
      w.site.registry.disposed = false ∧ w.site.registry.contains ⟨5, 0⟩ = true ∧
      w.site.registry.size = 1 ∧ w.site.registry.seats = [] ∧ w.site.bus.opened = [] ∧
      w.perform .evict = some w₂ ∧ w₂.Turn 1 w₃ ∧ w₃.task? 1 = some (.sweep s) ∧
      s.stage = .ended ∧ s.evicted = 1 ∧ w₃.site.registry.contains ⟨5, 0⟩ = false := by
  have hrun : ((World.unused .empty .standard ⟨.zero, .zero⟩).perform
      (.execute ⟨5, 0⟩ [] true)).any (fun w₁ => (w₁.occurs? (.step 0) 2).any fun w =>
        ((w.call? 0).any fun c => c.failure? == some (Call.lockCancelled ⟨5, 0⟩)) &&
        (!w.site.registry.disposed && w.site.registry.contains ⟨5, 0⟩ &&
          w.site.registry.size == 1 && w.site.registry.seats.isEmpty &&
          w.site.bus.opened.isEmpty) &&
        (w.perform .evict).any fun w₂ => (w₂.occurs? (.step 1) 6).any fun w₃ =>
          ((w₃.sweep? 1).any fun s => s.stage == .ended && s.evicted == 1) &&
            !w₃.site.registry.contains ⟨5, 0⟩) = true := by
    decide +kernel
  obtain ⟨w₁, hw₁, hall⟩ := (Option.any_eq_true _ _).mp hrun
  obtain ⟨w, hw, hall⟩ := (Option.any_eq_true _ _).mp hall
  simp only [Bool.and_eq_true, Bool.not_eq_true', beq_iff_eq, List.isEmpty_iff] at hall
  obtain ⟨⟨hcall, ⟨⟨⟨hd, hcached⟩, hsize⟩, hseats⟩, hopened⟩, hevict⟩ := hall
  obtain ⟨w₂, hw₂, hall⟩ := (Option.any_eq_true _ _).mp hevict
  obtain ⟨w₃, hw₃, hall⟩ := (Option.any_eq_true _ _).mp hall
  simp only [Bool.and_eq_true, Bool.not_eq_true'] at hall
  obtain ⟨hsweep, hgone⟩ := hall
  obtain ⟨c, hc, hout⟩ := (Option.any_eq_true _ _).mp hcall
  obtain ⟨s, ht, hall⟩ := (Option.any_eq_true _ _).mp hsweep
  simp only [Bool.and_eq_true, beq_iff_eq] at hall
  obtain ⟨hended, hone⟩ := hall
  exact ⟨w₁, w, w₂, w₃, c, s, hw₁, occurs_of_occurs? hw, hc,
    Call.failure?_eq_some.mp (beq_iff_eq.mp hout), hd, hcached, hsize, hseats, hopened, hw₂,
    occurs_of_occurs? hw₃, sweep?_eq_some.mp ht, hended, hone, hgone⟩

end World

end InstrumentBus
