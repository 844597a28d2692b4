/-
A registry as the tasks see it: who is current for an address
(`current?`), what is in the slot of an entry (`slot?`), who holds its
lock (`holder?`) and who waits for it (`waiting`). For each operation of
the registry there is one equation per view; after this file the list of
entries is not looked into.

The last three views are alike: each reads one part of an entry and says
the same of an entry just made as of one that does not exist. `readOff`
is their common form, and what the operations do to it is proved once.
At the end stands what emptying a slot does to the whole site.
-/
import InstrumentBus.Proofs.Run

namespace InstrumentBus.Registry

variable {r : Registry} {a b : Address} {e e' : EntryId} {t : TaskId} {γ : Type}

-- ============================================================= views

/-- A part of an entry, or `d` where there is no such entry. -/
def readOff (r : Registry) (e : EntryId) (d : γ) (f : Entry → γ) : γ := (r.entryAt? e).elim d f

/-- The task that holds the lock of an entry. -/
def holder? (r : Registry) (e : EntryId) : Option TaskId := r.readOff e none (·.lock.holder)

/-- The tasks in the queue for the lock of an entry. -/
def waiting (r : Registry) (e : EntryId) : List TaskId := r.readOff e [] (·.lock.waiters)

theorem slot?_eq (r : Registry) (e : EntryId) : r.slot? e = r.readOff e none (·.slot) := by
  unfold slot? readOff
  cases r.entryAt? e <;> rfl

theorem holds_iff : r.holds e t = true ↔ r.holder? e = some t := by
  unfold holds holder? readOff
  cases r.entryAt? e <;> simp

theorem isCurrent_iff : r.isCurrent a e = true ↔ r.current? a = some e := by
  unfold isCurrent
  rw [beq_iff_eq]

/-- An entry of which something can be read exists. -/
theorem lt_of_readOff {d : γ} {f : Entry → γ} (h : r.readOff e d f ≠ d) :
    e < r.entries.length := by
  refine Nat.lt_of_not_le fun hle => h ?_
  unfold readOff entryAt?
  rw [List.getElem?_eq_none hle]
  rfl

theorem lt_of_holder? (h : r.holder? e = some t) : e < r.entries.length := by
  refine lt_of_readOff (d := none) (f := (·.lock.holder)) ?_
  show r.holder? e ≠ none
  rw [h]
  exact Option.some_ne_none t

theorem lt_of_slot? {s : Session} (h : r.slot? e = some s) : e < r.entries.length := by
  refine lt_of_readOff (d := none) (f := (·.slot)) ?_
  rw [← slot?_eq, h]
  exact Option.some_ne_none s

-- ================================================= an entry changed

theorem entryAt?_modifyEntry (r : Registry) (e e' : EntryId) (f : Entry → Entry) :
    (r.modifyEntry e f).entryAt? e' = if e = e' then (r.entryAt? e').map f else r.entryAt? e' := by
  unfold entryAt? modifyEntry
  rw [List.getElem?_modify]
  split <;> simp_all

/-- Two changes to one entry come to one. -/
theorem modifyEntry_modifyEntry (r : Registry) (e : EntryId) (f g : Entry → Entry) :
    (r.modifyEntry e f).modifyEntry e g = r.modifyEntry e (g ∘ f) :=
  congrArg (fun l => ({ r with entries := l } : Registry)) (List.modify_modify_eq f g e r.entries)

/-- Changes to different entries are made in either order. -/
theorem modifyEntry_comm (r : Registry) (f g : Entry → Entry) (h : e ≠ e') :
    (r.modifyEntry e f).modifyEntry e' g = (r.modifyEntry e' g).modifyEntry e f :=
  congrArg (fun l => ({ r with entries := l } : Registry)) (List.modify_modify_ne f g r.entries h)

/-- A slot and a lock are changed in either order. -/
theorem setSlot_modifyLock (r : Registry) (e e' : EntryId) (f : Lock → Lock)
    (slot : Option Session) :
    (r.modifyLock e f).setSlot e' slot = (r.setSlot e' slot).modifyLock e f := by
  by_cases h : e = e'
  · subst h
    unfold modifyLock setSlot
    rw [modifyEntry_modifyEntry, modifyEntry_modifyEntry]
    rfl
  · exact modifyEntry_comm r _ _ h

/-- A change that leaves an entry as it is leaves everything as it is. -/
theorem modifyEntry_self {f : Entry → Entry} (h : ∀ x, r.entryAt? e = some x → f x = x) :
    r.modifyEntry e f = r := by
  have hentries : r.entries.modify e f = r.entries := by
    apply List.ext_getElem?
    intro n
    rw [List.getElem?_modify]
    split
    next hn =>
      subst hn
      change ∀ x, r.entries[e]? = some x → f x = x at h
      cases hx : r.entries[e]? with
      | none => rfl
      | some x => exact congrArg some (h x hx)
    next => simp
  exact congrArg (fun l => ({ r with entries := l } : Registry)) hentries

/-- A change to an entry leaves the parts it does not touch. -/
theorem readOff_modifyEntry (r : Registry) (e e' : EntryId) {g : Entry → Entry} {d : γ}
    {f : Entry → γ} (hf : ∀ x, f (g x) = f x) :
    (r.modifyEntry e g).readOff e' d f = r.readOff e' d f := by
  unfold readOff
  rw [entryAt?_modifyEntry]
  split
  · cases r.entryAt? e' with
    | none => rfl
    | some x => exact hf x
  · rfl

theorem readOff_modifyEntry_ne (r : Registry) (g : Entry → Entry) (d : γ) (f : Entry → γ)
    (h : e ≠ e') : (r.modifyEntry e g).readOff e' d f = r.readOff e' d f := by
  unfold readOff
  rw [entryAt?_modifyEntry, if_neg h]

theorem slot?_modifyLock (r : Registry) (e e' : EntryId) (f : Lock → Lock) :
    (r.modifyLock e f).slot? e' = r.slot? e' := by
  rw [slot?_eq, slot?_eq]
  exact readOff_modifyEntry r e e' fun _ => rfl

theorem slot?_touch (r : Registry) (e e' : EntryId) (now : Instant) :
    (r.touch e now).slot? e' = r.slot? e' := by
  rw [slot?_eq, slot?_eq]
  exact readOff_modifyEntry r e e' fun _ => rfl

theorem slot?_setSlot_ne (r : Registry) (slot : Option Session) (h : e ≠ e') :
    (r.setSlot e slot).slot? e' = r.slot? e' := by
  rw [slot?_eq, slot?_eq]
  exact readOff_modifyEntry_ne r _ _ _ h

theorem slot?_setSlot (slot : Option Session) (h : e < r.entries.length) :
    (r.setSlot e slot).slot? e = slot := by
  unfold slot? setSlot
  rw [entryAt?_modifyEntry, if_pos rfl]
  unfold entryAt?
  rw [List.getElem?_eq_getElem h]
  rfl

theorem holder?_modifyLock_ne (r : Registry) (f : Lock → Lock) (h : e ≠ e') :
    (r.modifyLock e f).holder? e' = r.holder? e' := readOff_modifyEntry_ne r _ _ _ h

theorem waiting_modifyLock_ne (r : Registry) (f : Lock → Lock) (h : e ≠ e') :
    (r.modifyLock e f).waiting e' = r.waiting e' := readOff_modifyEntry_ne r _ _ _ h

theorem holder?_touch (r : Registry) (e e' : EntryId) (now : Instant) :
    (r.touch e now).holder? e' = r.holder? e' := readOff_modifyEntry r e e' fun _ => rfl

theorem waiting_touch (r : Registry) (e e' : EntryId) (now : Instant) :
    (r.touch e now).waiting e' = r.waiting e' := readOff_modifyEntry r e e' fun _ => rfl

theorem holder?_setSlot (r : Registry) (e e' : EntryId) (slot : Option Session) :
    (r.setSlot e slot).holder? e' = r.holder? e' := readOff_modifyEntry r e e' fun _ => rfl

theorem waiting_setSlot (r : Registry) (e e' : EntryId) (slot : Option Session) :
    (r.setSlot e slot).waiting e' = r.waiting e' := readOff_modifyEntry r e e' fun _ => rfl

@[simp] theorem length_modifyEntry (r : Registry) (e : EntryId) (f : Entry → Entry) :
    (r.modifyEntry e f).entries.length = r.entries.length := by
  simp [modifyEntry]

@[simp] theorem length_modifyLock (r : Registry) (e : EntryId) (f : Lock → Lock) :
    (r.modifyLock e f).entries.length = r.entries.length := length_modifyEntry r e _

@[simp] theorem length_setSlot (r : Registry) (e : EntryId) (slot : Option Session) :
    (r.setSlot e slot).entries.length = r.entries.length := length_modifyEntry r e _

@[simp] theorem length_touch (r : Registry) (e : EntryId) (now : Instant) :
    (r.touch e now).entries.length = r.entries.length := length_modifyEntry r e _

-- ================================================== a lock changed

theorem exists_entry (h : e < r.entries.length) : ∃ x, r.entryAt? e = some x :=
  ⟨r.entries[e], List.getElem?_eq_getElem h⟩

theorem readOff_of_entryAt? {x : Entry} (h : r.entryAt? e = some x) (d : γ) (f : Entry → γ) :
    r.readOff e d f = f x := by
  unfold readOff
  rw [h]
  rfl

theorem readOff_modifyLock {x : Entry} (h : r.entryAt? e = some x) (g : Lock → Lock) (d : γ)
    (f : Lock → γ) : (r.modifyLock e g).readOff e d (fun x => f x.lock) = f (g x.lock) := by
  unfold readOff modifyLock
  rw [entryAt?_modifyEntry, if_pos rfl, h]
  rfl

/-- A lock that was asked for has a holder: the one it had, or else the
task that asked. -/
theorem holder?_request (h : e < r.entries.length) :
    (r.modifyLock e (·.request t)).holder? e = some ((r.holder? e).getD t) := by
  obtain ⟨x, hx⟩ := exists_entry h
  unfold holder?
  rw [readOff_modifyLock hx _ none (·.holder), readOff_of_entryAt? hx]
  unfold Lock.request
  cases x.lock.holder <;> rfl

theorem waiting_request (h : e < r.entries.length) :
    (r.modifyLock e (·.request t)).waiting e =
      if (r.holder? e).isSome then r.waiting e ++ [t] else r.waiting e := by
  obtain ⟨x, hx⟩ := exists_entry h
  unfold waiting holder?
  rw [readOff_modifyLock hx _ [] (·.waiters), readOff_of_entryAt? hx, readOff_of_entryAt? hx]
  unfold Lock.request
  cases x.lock.holder <;> rfl

/-- A lock that was let go of is held by the first in its queue. -/
theorem holder?_release (h : e < r.entries.length) :
    (r.modifyLock e (·.release)).holder? e = (r.waiting e).head? := by
  obtain ⟨x, hx⟩ := exists_entry h
  unfold holder? waiting
  rw [readOff_modifyLock hx _ none (·.holder), readOff_of_entryAt? hx]
  unfold Lock.release
  cases x.lock.waiters <;> rfl

theorem waiting_release (h : e < r.entries.length) :
    (r.modifyLock e (·.release)).waiting e = (r.waiting e).tail := by
  obtain ⟨x, hx⟩ := exists_entry h
  unfold waiting
  rw [readOff_modifyLock hx _ [] (·.waiters), readOff_of_entryAt? hx]
  unfold Lock.release
  cases x.lock.waiters <;> rfl

theorem holder?_withdraw (h : e < r.entries.length) :
    (r.modifyLock e (·.withdraw t)).holder? e =
      if r.holder? e = some t then (r.waiting e).head? else r.holder? e := by
  obtain ⟨x, hx⟩ := exists_entry h
  unfold holder? waiting
  rw [readOff_modifyLock hx _ none (·.holder), readOff_of_entryAt? hx, readOff_of_entryAt? hx]
  unfold Lock.withdraw Lock.release
  split
  · cases x.lock.waiters <;> rfl
  · rfl

theorem waiting_withdraw (h : e < r.entries.length) :
    (r.modifyLock e (·.withdraw t)).waiting e =
      if r.holder? e = some t then (r.waiting e).tail else (r.waiting e).filter (· ≠ t) := by
  obtain ⟨x, hx⟩ := exists_entry h
  unfold holder? waiting
  rw [readOff_modifyLock hx _ [] (·.waiters), readOff_of_entryAt? hx, readOff_of_entryAt? hx]
  unfold Lock.withdraw Lock.release
  split
  · cases x.lock.waiters <;> rfl
  · rfl

/-- A lock taken without waiting was free. -/
theorem take?_eq_some {l : Lock} (h : (r.entryAt? e).bind (·.lock.take? t) = some l) :
    r.holder? e = none ∧ e < r.entries.length ∧
      (r.modifyLock e fun _ => l).holder? e = some t ∧
      (r.modifyLock e fun _ => l).waiting e = r.waiting e := by
  cases hx : r.entryAt? e with
  | none => rw [hx] at h; cases h
  | some x =>
      rw [hx] at h
      change x.lock.take? t = some l at h
      unfold Lock.take? at h
      cases hh : x.lock.holder with
      | some j => rw [hh] at h; cases h
      | none =>
          rw [hh] at h
          cases h
          refine ⟨?_, (List.getElem?_eq_some_iff.mp hx).1, ?_, ?_⟩
          · unfold holder?
            rw [readOff_of_entryAt? hx, hh]
          · unfold holder?
            rw [readOff_modifyLock hx _ none (·.holder)]
          · unfold waiting
            rw [readOff_modifyLock hx _ [] (·.waiters), readOff_of_entryAt? hx]

-- ====================================== an address found or forgotten

theorem current?_forget (r : Registry) (a b : Address) (e : EntryId) :
    (r.forget a e).current? b =
      if a = b ∧ r.current? a = some e then none else r.current? b := by
  unfold forget
  by_cases h : r.isCurrent a e = true
  · rw [if_pos h]
    show Keyed.get? (Keyed.erase r.cache a) b = _
    rw [Keyed.get?_erase]
    by_cases hab : a = b
    · rw [if_pos hab, if_pos ⟨hab, isCurrent_iff.mp h⟩]
    · rw [if_neg hab, if_neg (fun hc => hab hc.1)]
      rfl
  · rw [if_neg h, if_neg (fun hc => h (isCurrent_iff.mpr hc.2))]

@[simp] theorem entries_forget (r : Registry) (a : Address) (e : EntryId) :
    (r.forget a e).entries = r.entries := by
  unfold forget
  split <;> rfl

/-- What is left in the cache was there, under another address if the
entry was current. -/
theorem mem_forget {p : Address × EntryId} (h : p ∈ (r.forget a e).cache) :
    p ∈ r.cache ∧ ¬ (a = p.1 ∧ r.current? a = some e) := by
  unfold forget at h
  split at h
  · obtain ⟨hp, hne⟩ := List.mem_filter.mp h
    exact ⟨hp, fun hc => of_decide_eq_true hne hc.1.symm⟩
  next hcur => exact ⟨h, fun hc => hcur (isCurrent_iff.mpr hc.2)⟩

theorem readOff_forget (r : Registry) (a : Address) (e e' : EntryId) (d : γ) (f : Entry → γ) :
    (r.forget a e).readOff e' d f = r.readOff e' d f := by
  unfold readOff entryAt?
  rw [entries_forget]

theorem slot?_forget (r : Registry) (a : Address) (e e' : EntryId) :
    (r.forget a e).slot? e' = r.slot? e' := by
  rw [slot?_eq, slot?_eq]
  exact readOff_forget r a e e' _ _

/-- Forgetting an entry changes the cache and nothing else. -/
theorem forget_frame (r : Registry) (a : Address) (e : EntryId) :
    (r.forget a e).disposed = r.disposed ∧ (r.forget a e).created = r.created := by
  unfold forget
  split <;> exact ⟨rfl, rfl⟩

theorem resolve_of_some {now : Instant} (h : r.current? a = some e) :
    r.resolve a now = (r, e) := by
  unfold resolve
  rw [h]

theorem resolve_of_none {now : Instant} (h : r.current? a = none) :
    r.resolve a now =
      ({ r with
          cache := Keyed.set r.cache a r.entries.length, entries := r.entries ++ [.vacant now] },
        r.entries.length) := by
  unfold resolve
  rw [h]

theorem entryAt?_resolve (r : Registry) (a : Address) (now : Instant) (h : e < r.entries.length) :
    (r.resolve a now).1.entryAt? e = r.entryAt? e := by
  cases hc : r.current? a with
  | none =>
      rw [resolve_of_none hc]
      show (r.entries ++ [_])[e]? = r.entries[e]?
      rw [List.getElem?_append_left h]
  | some e' => rw [resolve_of_some hc]

/-- An entry just made reads like one that does not exist. -/
theorem readOff_resolve (r : Registry) (a : Address) (e : EntryId) (now : Instant) {d : γ}
    {f : Entry → γ} (hf : f (.vacant now) = d) :
    (r.resolve a now).1.readOff e d f = r.readOff e d f := by
  unfold readOff
  by_cases h : e < r.entries.length
  · rw [entryAt?_resolve r a now h]
  · have hnone : r.entryAt? e = none := List.getElem?_eq_none (Nat.le_of_not_lt h)
    cases hc : r.current? a with
    | some e' => rw [resolve_of_some hc]
    | none =>
        rw [resolve_of_none hc, hnone]
        show ((r.entries ++ [Entry.vacant now])[e]?).elim d f = d
        rw [List.getElem?_append_right (Nat.le_of_not_lt h)]
        cases e - r.entries.length with
        | zero => exact hf
        | succ n => rfl

theorem slot?_resolve (r : Registry) (a : Address) (e : EntryId) (now : Instant) :
    (r.resolve a now).1.slot? e = r.slot? e := by
  rw [slot?_eq, slot?_eq]
  exact readOff_resolve r a e now rfl

theorem holder?_resolve (r : Registry) (a : Address) (e : EntryId) (now : Instant) :
    (r.resolve a now).1.holder? e = r.holder? e := readOff_resolve r a e now rfl

theorem waiting_resolve (r : Registry) (a : Address) (e : EntryId) (now : Instant) :
    (r.resolve a now).1.waiting e = r.waiting e := readOff_resolve r a e now rfl

end InstrumentBus.Registry

-- ===================================================== a slot emptied

namespace InstrumentBus.Site

variable {β : Type} [RawBus β] {x : Site β} {e e' : EntryId}

theorem closeSlot_of_none (h : x.registry.slot? e = none) : x.closeSlot e = x := by
  unfold closeSlot
  rw [h]

theorem closeSlot_of_some {s : Session} (h : x.registry.slot? e = some s) :
    x.closeSlot e =
      { x with bus := (s.close x.bus).2, registry := x.registry.setSlot e none } := by
  unfold closeSlot
  rw [h]

theorem slot?_closeSlot (x : Site β) (e : EntryId) : (x.closeSlot e).registry.slot? e = none := by
  cases h : x.registry.slot? e with
  | none =>
      rw [closeSlot_of_none h]
      exact h
  | some s =>
      rw [closeSlot_of_some h]
      exact Registry.slot?_setSlot none (Registry.lt_of_slot? h)

theorem slot?_closeSlot_ne (x : Site β) (hne : e' ≠ e) :
    (x.closeSlot e).registry.slot? e' = x.registry.slot? e' := by
  cases h : x.registry.slot? e with
  | none => rw [closeSlot_of_none h]
  | some s =>
      rw [closeSlot_of_some h]
      exact Registry.slot?_setSlot_ne _ _ (Ne.symm hne)

theorem closeSlot_frame (x : Site β) (e : EntryId) :
    (x.closeSlot e).registry.cache = x.registry.cache ∧
      (x.closeSlot e).registry.entries.length = x.registry.entries.length ∧
      (x.closeSlot e).registry.disposed = x.registry.disposed ∧
      (x.closeSlot e).registry.created = x.registry.created := by
  cases h : x.registry.slot? e with
  | none => rw [closeSlot_of_none h]; exact ⟨rfl, rfl, rfl, rfl⟩
  | some s =>
      rw [closeSlot_of_some h]
      exact ⟨rfl, Registry.length_setSlot _ _ _, rfl, rfl⟩

end InstrumentBus.Site
