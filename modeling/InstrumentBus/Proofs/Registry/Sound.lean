/-
The invariant of a registry in use.

`World.Sound` adds to the ledger (`Site.Owned`) and to the order at the
locks (`World.InLine`) where a session may be: a session that is open is
in the slot of the current entry of its address, or else in that of an
entry a sweep has just taken out of the cache and is about to close. And
it says what a disposal under way still has before it
(`World.Draining`): every cached entry that holds a session, or on which
a call has been let in, is among the entries the disposal has yet to
drain.

The two halves need each other. That a call let in stays undisturbed is
due to its holding the lock, except from a disposal that empties the
cache; and that the disposal finds nobody there is due to its having held
every lock before.
-/
import InstrumentBus.Proofs.Registry.Queue

namespace InstrumentBus

variable {id : TaskId} {t t' : Task} {r r' : Registry} {x x' : BusSite} {e : EntryId} {a : Address}

-- ========================================================= the cache

namespace Recache

/-- An entry that was there before is current only if it was. -/
theorem old (h : Recache t t' r r') (hc : r'.current? a = some e) (he : e < r.entries.length) :
    r.current? a = some e := by
  cases h with
  | same hcache _ =>
      unfold Registry.current? at hc
      rwa [hcache] at hc
  | made b hn hcache _ =>
      unfold Registry.current? at hc
      rw [hcache, Keyed.get?_set] at hc
      split at hc
      · cases hc
        exact absurd he (Nat.lt_irrefl _)
      · exact hc
  | forgot b e' hh hs hcache _ =>
      unfold Registry.current? at hc
      rw [hcache] at hc
      change (r.forget b e').current? a = some e at hc
      rw [Registry.current?_forget] at hc
      split at hc
      · cases hc
      · exact hc
  | cleared ht hcache _ =>
      unfold Registry.current? at hc
      rw [hcache] at hc
      cases hc

/-- A current entry stays current, unless the task that holds its lock
gives it up or a disposal empties the cache. -/
theorem stays (h : Recache t t' r r') (hc : r.current? a = some e) :
    r'.current? a = some e ∨
      t.lockHeld = some e ∧ (r'.slot? e = none ∨ t'.closing = some e) ∨
      t = .disposal .clear := by
  cases h with
  | same hcache _ =>
      unfold Registry.current?
      rw [hcache]
      exact .inl hc
  | made b hn hcache _ =>
      unfold Registry.current?
      rw [hcache, Keyed.get?_set, if_neg]
      · exact .inl hc
      · intro hb
        rw [hb, hc] at hn
        cases hn
  | forgot b e' hh hs hcache _ =>
      unfold Registry.current?
      rw [hcache]
      change (r.forget b e').current? a = some e ∨ _
      rw [Registry.current?_forget]
      by_cases hb : b = a ∧ r.current? b = some e'
      · obtain ⟨rfl, hb⟩ := hb
        rw [hc] at hb
        cases hb
        exact .inr (.inl ⟨hh, hs⟩)
      · rw [if_neg hb]
        exact .inl hc
  | cleared ht hcache _ => exact .inr (.inr ht)

theorem length_le (h : Recache t t' r r') : r.entries.length ≤ r'.entries.length := by
  cases h with
  | made _ _ _ hl => omega
  | same _ hl => omega
  | forgot _ _ _ _ _ hl => omega
  | cleared _ _ hl => omega

/-- Cache and entries go on agreeing. -/
theorem coherent (h : Recache t t' r r') (hc : r.Coherent) : r'.Coherent := by
  cases h with
  | same hcache hl =>
      have hcur : ∀ b, r'.current? b = r.current? b := fun b => congrArg (Keyed.get? · b) hcache
      refine ⟨fun b e h => ?_, fun b₁ b₂ e h₁ h₂ => ?_, fun p hp => ?_⟩
      · rw [hl]
        exact hc.lt b e (hcur b ▸ h)
      · exact hc.inj b₁ b₂ e (hcur b₁ ▸ h₁) (hcur b₂ ▸ h₂)
      · rw [hcur]
        exact hc.listed p (hcache ▸ hp)
  | made a hn hcache hl =>
      have hcur : ∀ b, r'.current? b =
          if a = b then some r.entries.length else r.current? b := by
        intro b
        unfold Registry.current?
        rw [hcache, Keyed.get?_set]
      -- an entry is current for the new address, or was there before
      have hold : ∀ b e, r'.current? b = some e →
          b = a ∧ e = r.entries.length ∨ r.current? b = some e ∧ e < r.entries.length := by
          intro b e h
          rw [hcur] at h
          split at h
          next hb => exact .inl ⟨hb.symm, (Option.some.inj h).symm⟩
          next => exact .inr ⟨h, hc.lt b e h⟩
      refine ⟨fun b e h => ?_, fun b₁ b₂ e h₁ h₂ => ?_, fun p hp => ?_⟩
      · rw [hl]
        rcases hold b e h with ⟨-, he⟩ | ⟨-, he⟩
        · exact he ▸ Nat.lt_succ_self _
        · exact Nat.lt_succ_of_lt he
      · rcases hold b₁ e h₁ with ⟨rfl, he⟩ | ⟨hb₁, he⟩
        · rcases hold b₂ e h₂ with ⟨rfl, -⟩ | ⟨-, he'⟩
          · rfl
          · exact absurd (he ▸ he') (Nat.lt_irrefl _)
        · rcases hold b₂ e h₂ with ⟨-, he'⟩ | ⟨hb₂, -⟩
          · exact absurd (he' ▸ he) (Nat.lt_irrefl _)
          · exact hc.inj b₁ b₂ e hb₁ hb₂
      · rw [hcache] at hp
        rw [hcur]
        rcases Keyed.eq_or_mem_of_mem_set hp with rfl | hp
        · exact if_pos rfl
        · rw [if_neg]
          · exact hc.listed p hp
          · intro ha
            rw [ha, hc.listed p hp] at hn
            cases hn
  | forgot a e hh hs hcache hl =>
      have hcur : ∀ b, r'.current? b =
          if a = b ∧ r.current? a = some e then none else r.current? b := fun b =>
        (congrArg (Keyed.get? · b) hcache).trans (Registry.current?_forget r a b e)
      have hold : ∀ b e', r'.current? b = some e' → r.current? b = some e' := by
        intro b e' h
        rw [hcur] at h
        split at h
        · cases h
        · exact h
      refine ⟨fun b e' h => ?_, fun b₁ b₂ e' h₁ h₂ => ?_, fun p hp => ?_⟩
      · rw [hl]
        exact hc.lt b e' (hold b e' h)
      · exact hc.inj b₁ b₂ e' (hold b₁ e' h₁) (hold b₂ e' h₂)
      · rw [hcache] at hp
        obtain ⟨hp, hne⟩ := Registry.mem_forget hp
        rw [hcur, if_neg hne]
        exact hc.listed p hp
  | cleared ht hcache hl =>
      refine ⟨fun b e h => ?_, fun b₁ b₂ e h₁ h₂ => ?_, fun p hp => ?_⟩
      · unfold Registry.current? at h
        rw [hcache] at h
        cases h
      · unfold Registry.current? at h₁
        rw [hcache] at h₁
        cases h₁
      · rw [hcache] at hp
        cases hp

end Recache

-- ========================================================= the slots

/-- Where the session in a slot comes from: it was there before, or it was
asked for by a task that holds the lock of the current entry of its
address. -/
theorem Site.Turnover.origin {held : Option EntryId} {s' : Session} (h : Turnover held x x')
    (hs : x'.registry.slot? e = some s') :
    (∃ s, x.registry.slot? e = some s ∧ s.address = s'.address ∧
      (s'.closed = false → s.closed = false)) ∨
    (held = some e ∧ x.registry.current? s'.address = some e) := by
  cases h with
  | idle _ _ hslots => exact .inl ⟨s', (hslots e).symm.trans hs, rfl, fun h => h⟩
  | acted e₀ s s₁ kept hh hk h h' hslots hc =>
      by_cases he : e = e₀
      · subst he
        rw [h'] at hs
        rcases hk with hk | ⟨hk, -⟩
        · rw [hk] at hs
          cases hs
          obtain ⟨new, -, -, hcount⟩ := hc.made
          refine .inl ⟨s, h, hc.address.symm, fun hclosed => ?_⟩
          cases hs : s.closed with
          | false => rfl
          | true =>
              change s.closed.toNat + _ = s'.closed.toNat at hcount
              rw [hs, hclosed] at hcount
              simp at hcount
        · rw [hk] at hs
          cases hs
      · exact .inl ⟨s', (hslots e he).symm.trans hs, rfl, fun h => h⟩
  | asked e₀ b o r hh hb h h' hslots hc =>
      by_cases he : e = e₀
      · subst he
        rw [h'] at hs
        cases r with
        | error f => cases hs
        | ok s =>
            cases hs
            rw [(Site.connect_ok hc).2]
            exact .inr ⟨hh, hb⟩
      · exact .inl ⟨s', (hslots e he).symm.trans hs, rfl, fun h => h⟩

-- ================================================= what others rely on

/-- A step of another task takes from a call nothing that it relies on. -/
theorem Call.Sound.frame {c : Call} (hs : c.Sound x.registry) (he : Effect id t x t' x')
    (hlock : ∀ e, lockHeld c.stage = some e → t.lockHeld ≠ some e)
    (hclear : ∀ e, admitted c.stage = some e → x.registry.current? c.address = some e →
      t ≠ .disposal .clear) : c.Sound x'.registry := by
  obtain ⟨address, program, cancelled, entered, replies, stage⟩ := c
  have hcur : ∀ e, lockHeld stage = some e → admitted stage = some e →
      x.registry.current? address = some e → x'.registry.current? address = some e := by
      intro e hl ha hc
      rcases he.cache.stays hc with h | ⟨h, -⟩ | h
      · exact h
      · exact absurd h (hlock e hl)
      · exact absurd h (hclear e ha hc)
  have hslot : ∀ e, lockHeld stage = some e → x'.registry.slot? e = x.registry.slot? e :=
    fun e hl => he.slots.slot_ne (hlock e hl)
  cases stage with
  | request e => exact Nat.lt_of_lt_of_le hs he.cache.length_le
  | fill e => exact hcur e rfl rfl hs
  | enter e =>
      obtain ⟨hc, s, h, ho⟩ := hs
      exact ⟨hcur e rfl rfl hc, s, (hslot e rfl).trans h, ho⟩
  | acting e pending rest =>
      obtain ⟨hc, s, at_, h, hent⟩ := hs
      exact ⟨hcur e rfl rfl hc, s, at_, (hslot e rfl).trans h, hent⟩
  | abandon e f => exact (hslot e rfl).trans hs
  | _ => exact True.intro

/-- The same of a registry that differs in times of use at most. -/
theorem Task.Sound.alike {r r' : Registry} (hs : t.Sound r) (h : r.Alike r') : t.Sound r' := by
  have hcur : ∀ a, r'.current? a = r.current? a := fun a => congrArg (Keyed.get? · a) h.cache
  cases t with
  | call c =>
      obtain ⟨address, program, cancelled, entered, replies, stage⟩ := c
      cases stage with
      | request e =>
          show e < r'.entries.length
          rw [h.length]
          exact hs
      | fill e => exact (hcur address).trans hs
      | enter e =>
          obtain ⟨hc, s, hslot, ho⟩ := hs
          exact ⟨(hcur address).trans hc, s, (h.slot e).trans hslot, ho⟩
      | acting e pending rest =>
          obtain ⟨hc, s, at_, hslot, hent⟩ := hs
          exact ⟨(hcur address).trans hc, s, at_, (h.slot e).trans hslot, hent⟩
      | abandon e f => exact (h.slot e).trans hs
      | _ => exact True.intro
  | disposal d =>
      obtain ⟨hd, htodo⟩ := hs
      refine ⟨fun hl => h.disposed.trans (hd hl), fun e he => ?_⟩
      rw [h.length]
      exact htodo e he
  | sweep s => exact True.intro
  | ticker k => exact True.intro

-- ======================================================== the disposal

namespace World

/-- A session or a call that has been let in is on the current entry of an
address. -/
def InUse (w : BusWorld) (a : Address) (e : EntryId) : Prop :=
  w.site.registry.current? a = some e ∧
    (w.site.registry.slot? e ≠ none ∨ ∃ id t, w.task? id = some t ∧ t.admitted = some e)

/-- The registry has been disposed of, and all that is in use is among
these entries. -/
structure Draining (w : BusWorld) (l : List EntryId) : Prop where
  disposed : w.site.registry.disposed = true
  mem : ∀ a e, w.InUse a e → e ∈ l

variable {w w' : BusWorld} {l : List EntryId} {who : Option TaskId}

/-- Once the registry has been disposed of, nothing is put to use. -/
theorem InUse.back (hd : w.site.registry.disposed = true)
    (hlt : ∀ id t e, w.task? id = some t → t.lockHeld = some e → e < w.site.registry.entries.length)
    (hc : Change who w w') (hu : w'.InUse a e) : w.InUse a e := by
  cases hc with
  | task id t t' hid ht hw he hs hp hf =>
      obtain ⟨hcur, huse⟩ := hu
      -- whoever is let in after the change was let in before
      have hadm : (∃ j u, w'.task? j = some u ∧ u.admitted = some e) →
          ∃ j u, w.task? j = some u ∧ u.admitted = some e := by
        rintro ⟨j, u, hu, ha⟩
        rw [hw] at hu
        split at hu
        · cases hu
          rcases he.admitted e ha with ha | hno
          · exact ⟨id, t, ht, ha⟩
          · rw [hd] at hno
            cases hno
        · exact ⟨j, u, hu, ha⟩
      have huse' : w.site.registry.slot? e ≠ none ∨
          ∃ j u, w.task? j = some u ∧ u.admitted = some e := by
        rcases huse with hslot | hadm'
        · by_cases hv : w.site.registry.slot? e = none
          · exact .inr ⟨id, t, ht, he.filled e hv hslot⟩
          · exact .inl hv
        · exact .inr (hadm hadm')
      refine ⟨he.cache.old hcur ?_, huse'⟩
      rcases huse' with hslot | ⟨j, u, hu, ha⟩
      · obtain ⟨s, hs⟩ := Option.ne_none_iff_exists'.mp hslot
        exact Registry.lt_of_slot? hs
      · exact hlt j u e hu (Task.of_admitted ha).1
  | begun t hf hw hb hr =>
      obtain ⟨hcur, huse⟩ := hu
      refine ⟨?_, huse.imp (fun h => hr.slot e ▸ h) fun ⟨j, u, hu, ha⟩ => ?_⟩
      · unfold Registry.current? at hcur
        rwa [hr.cache] at hcur
      · rw [hw] at hu
        split at hu
        · cases hu
          rw [hf.admitted] at ha
          cases ha
        · exact ⟨j, u, hu, ha⟩
  | beside hw hl ht hr =>
      obtain ⟨hcur, huse⟩ := hu
      rw [hr] at hcur huse
      exact ⟨hcur, huse.imp_right fun ⟨j, u, hu, ha⟩ => ⟨j, u, hw j ▸ hu, ha⟩⟩

/-- The invariant. -/
structure Sound (w : BusWorld) : Prop where
  -- slots and descriptors answer to each other
  owned : w.site.Owned
  -- everybody stands in line where their stage says
  inLine : w.InLine
  -- cache and entries agree
  coherent : w.site.registry.Coherent
  -- the session of a current entry is at the entry's address
  seated : ∀ a e s, w.site.registry.current? a = some e → w.site.registry.slot? e = some s →
    s.address = a
  -- an open session is in the current entry of its address, or about to
  -- be closed
  placed : ∀ e s, w.site.registry.slot? e = some s → s.closed = false →
    w.site.registry.current? s.address = some e ∨ ∃ id t, w.task? id = some t ∧ t.closing = some e
  -- every task has what it relies on
  tasks : ∀ id t, w.task? id = some t → t.Sound w.site.registry
  -- a disposal has all that is in use before it
  draining : ∀ id t l, w.task? id = some t → t.pending? = some l → w.Draining l

namespace Sound

/-- A task that holds a lock holds the lock of an entry there is. -/
theorem lt (hw : w.Sound) {id : TaskId} {t : Task} (ht : w.task? id = some t)
    (hl : t.lockHeld = some e) : e < w.site.registry.entries.length :=
  Registry.lt_of_holder? (hw.inLine.front id t e ht hl)

/-- No two tasks hold the same lock. -/
theorem lock_inj (hw : w.Sound) {i j : TaskId} {t u : Task} (ht : w.task? i = some t)
    (hu : w.task? j = some u) (hl : t.lockHeld = some e) (hl' : u.lockHeld = some e) : i = j := by
  have h := (hw.inLine.front i t e ht hl).symm.trans (hw.inLine.front j u e hu hl')
  exact Option.some.inj h

/-- A disposal empties a cache in which nothing is left. -/
theorem vacant (hw : w.Sound) (ht : w.task? id = some (.disposal .clear)) :
    ∀ p ∈ w.site.registry.cache, w.site.registry.slot? p.2 = none := by
  intro p hp
  cases hs : w.site.registry.slot? p.2 with
  | none => rfl
  | some s =>
      have huse : w.InUse p.1 p.2 :=
        ⟨hw.coherent.listed p hp, .inl (by rw [hs]; exact Option.some_ne_none s)⟩
      exact absurd ((hw.draining id _ [] ht rfl).mem _ _ huse) List.not_mem_nil

/-- Whatever happens is a change. -/
theorem perform_change (hw : w.Sound) {h : Happening} (hp : w.perform h = some w') :
    Change h.subject? w w' :=
  .perform hp hw.tasks hw.coherent hw.inLine.front fun _ => hw.vacant

theorem owned_change (hw : w.Sound) (hc : Change who w w') : w'.site.Owned := by
  cases hc with
  | task id t t' hid ht hw' he hs hp hf => exact hw.owned.turnover he.slots
  | begun t hf hw' hb hr => exact hw.owned.idle (hb ▸ ⟨rfl, rfl⟩) (congrArg _ hb) hr.slot
  | beside hw' hl ht hr => exact hw.owned.idle hl ht fun e => congrArg (Registry.slot? · e) hr

theorem coherent_change (hw : w.Sound) (hc : Change who w w') : w'.site.registry.Coherent := by
  cases hc with
  | task id t t' hid ht hw' he hs hp hf => exact he.cache.coherent hw.coherent
  | begun t hf hw' hb hr =>
      have hsame : Recache t t w.site.registry w'.site.registry := .same hr.cache hr.length
      exact hsame.coherent hw.coherent
  | beside hw' hl ht hr => exact hr ▸ hw.coherent

theorem seated_change (hw : w.Sound) (hc : Change who w w') {s : Session}
    (hcur : w'.site.registry.current? a = some e) (hslot : w'.site.registry.slot? e = some s) :
    s.address = a := by
  cases hc with
  | task id t t' hid ht hw' he hs hp hf =>
      rcases he.slots.origin hslot with ⟨s₀, hs₀, haddr, -⟩ | ⟨hheld, hcur₀⟩
      · rw [← haddr]
        exact hw.seated a e s₀ (he.cache.old hcur (Registry.lt_of_slot? hs₀)) hs₀
      · exact hw.coherent.inj _ _ e hcur₀ (he.cache.old hcur (hw.lt ht hheld))
  | begun t hf hw' hb hr =>
      unfold Registry.current? at hcur
      rw [hr.cache] at hcur
      exact hw.seated a e s hcur ((hr.slot e).symm.trans hslot)
  | beside hw' hl ht hr =>
      rw [hr] at hcur hslot
      exact hw.seated a e s hcur hslot

theorem placed_change (hw : w.Sound) (hc : Change who w w') {s : Session}
    (hslot : w'.site.registry.slot? e = some s) (hopen : s.closed = false) :
    w'.site.registry.current? s.address = some e ∨
      ∃ j u, w'.task? j = some u ∧ u.closing = some e := by
  cases hc with
  | task id t t' hid ht hw' he hs hp hf =>
      have hown : w'.task? id = some t' := (hw' id).trans (if_pos rfl)
      -- what is current stays so, or is about to be closed
      have hstays : w.site.registry.current? s.address = some e →
          w'.site.registry.current? s.address = some e ∨
            ∃ j u, w'.task? j = some u ∧ u.closing = some e := by
        intro hcur
        rcases he.cache.stays hcur with h | ⟨-, h | h⟩ | h
        · exact .inl h
        · rw [hslot] at h
          cases h
        · exact .inr ⟨id, t', hown, h⟩
        · subst h
          rw [he.slots.slot_ne nofun, hw.vacant ht _ (Keyed.mem_of_get? hcur)] at hslot
          cases hslot
      rcases he.slots.origin hslot with ⟨s₀, hs₀, haddr, hmono⟩ | ⟨-, hcur⟩
      · rcases hw.placed e s₀ hs₀ (hmono hopen) with hcur | ⟨j, u, hu, hcl⟩
        · exact hstays (haddr ▸ hcur)
        · by_cases hj : j = id
          · subst hj
            rw [ht] at hu
            cases hu
            rcases he.closes e hcl with h | h
            · rw [hslot] at h
              cases h
            · exact .inr ⟨j, t', hown, h⟩
          · exact .inr ⟨j, u, (hw' j).trans ((if_neg hj).trans hu), hcl⟩
      · exact hstays hcur
  | begun t hf hw' hb hr =>
      rw [hr.slot] at hslot
      refine (hw.placed e s hslot hopen).imp (fun h => ?_) fun ⟨j, u, hu, hcl⟩ => ⟨j, u, ?_, hcl⟩
      · unfold Registry.current?
        rwa [hr.cache]
      · rw [hw', if_neg]
        · exact hu
        · intro hj
          rw [hj, task?_nextId] at hu
          cases hu
  | beside hw' hl ht hr =>
      rw [hr] at hslot ⊢
      exact (hw.placed e s hslot hopen).imp_right fun ⟨j, u, hu, hcl⟩ =>
        ⟨j, u, (hw' j).trans hu, hcl⟩

theorem tasks_change (hw : w.Sound) (hc : Change who w w') {j : TaskId} {u : Task}
    (hu : w'.task? j = some u) : u.Sound w'.site.registry := by
  cases hc with
  | task id t t' hid ht hw' he hs hp hf =>
      rw [hw'] at hu
      by_cases hj : j = id
      · rw [if_pos hj] at hu
        cases hu
        exact hs
      · rw [if_neg hj] at hu
        have hus := hw.tasks j u hu
        cases u with
        | call c =>
            refine Call.Sound.frame hus he (fun e hl hl' => hj (hw.lock_inj hu ht hl hl'))
              fun e ha hcur hclear => ?_
            subst hclear
            exact absurd ((hw.draining id _ [] ht rfl).mem _ e ⟨hcur, .inr ⟨j, _, hu, ha⟩⟩)
              List.not_mem_nil
        | disposal d =>
            obtain ⟨hd, htodo⟩ := hus
            exact ⟨fun hl => he.disposed (hd hl),
              fun e he' => Nat.lt_of_lt_of_le (htodo e he') he.cache.length_le⟩
        | sweep s => exact True.intro
        | ticker k => exact True.intro
  | begun t hf hw' hb hr =>
      rw [hw'] at hu
      split at hu
      · cases hu
        exact hf.sound _
      · exact (hw.tasks j u hu).alike hr
  | beside hw' hl ht hr =>
      rw [hr]
      exact hw.tasks j u ((hw' j).symm.trans hu)

/-- What is in use stays among the entries that were to be drained. -/
theorem draining_stays (hw : w.Sound) (hc : Change who w w') (hd : w.Draining l) :
    w'.Draining l := by
  refine ⟨?_, fun a e hu => hd.mem a e (hu.back hd.disposed (fun _ _ _ => hw.lt) hc)⟩
  cases hc with
  | task id t t' hid ht hw' he hs hp hf => exact he.disposed hd.disposed
  | begun t hf hw' hb hr => exact hr.disposed.trans hd.disposed
  | beside hw' hl ht hr => exact hr ▸ hd.disposed

theorem draining_change (hw : w.Sound) (hc : Change who w w') {j : TaskId} {u : Task}
    (hu : w'.task? j = some u) (hl : u.pending? = some l) : w'.Draining l := by
  have hold : ∀ {i v k}, w.task? i = some v → v.pending? = some k → w'.Draining k :=
    fun {i v k} hv hl => hw.draining_stays hc (hw.draining i v k hv hl)
  have hin := hw.inLine.change hc
  cases hc with
  | task id t t' hid ht hw' he hs hp hf =>
      have hown : w'.task? id = some t' := (hw' id).trans (if_pos rfl)
      by_cases hj : j = id
      · subst hj
        rw [hown] at hu
        cases hu
        cases hp l hl with
        | kept h => exact hold ht h
        | listed htl hx hlist =>
            subst htl
            refine ⟨he.disposed ((hw.tasks j _ ht).1 rfl), fun a e huse => ?_⟩
            rw [hlist]
            have hcur := huse.1
            rw [hx] at hcur
            exact List.mem_map_of_mem (f := (·.2)) (Keyed.mem_of_get? hcur)
        | emptied e h hh hv =>
            have hd := hold ht h
            refine ⟨hd.disposed, fun a e' huse => ?_⟩
            rcases List.mem_cons.mp (hd.mem a e' huse) with heq | hmem
            · subst heq
              obtain ⟨-, hslot | ⟨i, v, hv', ha⟩⟩ := huse
              · exact absurd hv hslot
              · -- the disposal still holds the lock, so the call is the disposal
                have hfront := hin.front i v e' hv' (Task.of_admitted ha).1
                have hij := hfront.symm.trans (hin.front j u e' hown hh)
                cases hij
                rw [hown] at hv'
                cases hv'
                cases u with
                | disposal d => cases ha
                | _ => cases hl
            · exact hmem
      · rw [hw', if_neg hj] at hu
        exact hold hu hl
  | begun t hf hw' hb hr =>
      rw [hw'] at hu
      split at hu
      · cases hu
        rw [hf.pending?] at hl
        cases hl
      · exact hold hu hl
  | beside hw' hlinks ht hr => exact hold ((hw' j).symm.trans hu) hl

/-- The invariant is kept by whatever happens. -/
theorem change (hw : w.Sound) (hc : Change who w w') : w'.Sound where
  owned := hw.owned_change hc
  inLine := hw.inLine.change hc
  coherent := hw.coherent_change hc
  seated := fun _ _ _ => hw.seated_change hc
  placed := fun _ _ => hw.placed_change hc
  tasks := fun _ _ => hw.tasks_change hc
  draining := fun _ _ _ => hw.draining_change hc

end Sound

/-- A registry that has not been used yet. -/
theorem sound_unused {b : Simulated} (hb : 0 ≤ b.nextDescriptor) (options : SessionOptions)
    (policy : SweepPolicy) : (World.unused b options policy).Sound := by
  have htask : ∀ id, (World.unused b options policy).task? id = none := fun _ => rfl
  have hcur : ∀ a, (World.unused b options policy).site.registry.current? a = none := fun _ => rfl
  have hslot : ∀ e, (World.unused b options policy).site.registry.slot? e = none := fun _ => rfl
  refine
    { owned := ⟨hb, nofun, nofun, nofun, fun e s h => ?_, fun e e' s s' h => ?_, nofun⟩
      inLine :=
        ⟨fun id e => ⟨nofun, fun ⟨t, ht, _⟩ => ?_⟩, fun id t e ht => ?_, fun _ => .nil,
          fun _ _ => rfl⟩
      coherent := ⟨fun a e h => ?_, fun a a' e h => ?_, nofun⟩
      seated := fun a e s h => ?_
      placed := fun e s h => ?_
      tasks := fun id t ht => ?_
      draining := fun id t l ht => ?_ }
  · cases (hslot e).symm.trans h
  · cases (hslot e).symm.trans h
  · cases (htask id).symm.trans ht
  · cases (htask id).symm.trans ht
  · cases (hcur a).symm.trans h
  · cases (hcur a).symm.trans h
  · cases (hcur a).symm.trans h
  · cases (hslot e).symm.trans h
  · cases (htask id).symm.trans ht
  · cases (htask id).symm.trans ht

theorem Sound.perform {h : Happening} (hw : w.Sound) (hp : w.perform h = some w') : w'.Sound :=
  hw.change (hw.perform_change hp)

/-- The invariant holds wherever a run may lead. -/
theorem Reaches.sound (hr : w.Reaches w') (hw : w.Sound) : w'.Sound :=
  hr.induct hw fun _ _ _ hw hp => hw.perform hp

/-- And so does whatever is kept by all that happens where the invariant
holds. -/
theorem Sound.induct {P : BusWorld → Prop} (hw : w.Sound) (hr : w.Reaches w') (h₀ : P w)
    (hstep : ∀ v h v', v.Sound → P v → v.perform h = some v' → P v') : P w' := by
  have hboth : w'.Sound ∧ P w' :=
    hr.induct (P := fun v => v.Sound ∧ P v) ⟨hw, h₀⟩ fun v h v' hv hp =>
      ⟨hv.1.perform hp, hstep v h v' hv.1 hv.2 hp⟩
  exact hboth.2

end World

end InstrumentBus
