/-
Two registries, one of which knows a single address.

`Registry.Mirrors` relates a registry to what is left of it when only one
address is looked at: the entries of the address are found on the other
side in the same state, the cache there holds the pairs of the address and
no others, and no entry without a place holds a session of the address.

Every operation of a registry is about one entry, so each has two lemmas:
on an entry of the address it is done on both sides, and on an entry
without a place (`Naming.Apart`) it is done on one. What is read of an
entry of the address is the same on both sides, down to who holds its
lock, and that is why both sides take the same turns later.
-/
import InstrumentBus.Proofs.Isolation.Naming
import InstrumentBus.Proofs.Registry.Change

namespace InstrumentBus

-- ============================================================ entries

namespace Naming

/-- An entry that exists, of another address. -/
def Apart (ρ : Naming) (n : Nat) (e : EntryId) : Prop := ρ.place e = none ∧ e < n

/-- A pair of an address and an entry that belongs to it. -/
def Knows (ρ : Naming) (A : Address) (n : Nat) (p : Address × EntryId) : Prop :=
  (p.1 = A ∧ ∃ i, ρ.place p.2 = some i) ∨ (p.1 ≠ A ∧ ρ.Apart n p.2)

/-- A pair of the cache as it is found on the other side. -/
def pair? (ρ : Naming) (p : Address × EntryId) : Option (Address × EntryId) :=
  (ρ.place p.2).map (p.1, ·)

variable {ρ ρ' : Naming} {n n' : Nat} {m : Int} {A : Address} {e i : EntryId}
  {p : Address × EntryId}

theorem Apart.extends (h : ρ.Apart n e) (hext : ρ.Extends ρ' n m) (hn : n ≤ n') :
    ρ'.Apart n' e := ⟨(hext.place e h.2).trans h.1, Nat.lt_of_lt_of_le h.2 hn⟩

theorem Knows.extends (h : ρ.Knows A n p) (hext : ρ.Extends ρ' n m) (hn : n ≤ n') :
    ρ'.Knows A n' p := by
  rcases h with ⟨ha, i, hi⟩ | ⟨ha, hp⟩
  · exact .inl ⟨ha, i, hext.kept _ i hi⟩
  · exact .inr ⟨ha, hp.extends hext hn⟩

theorem pair?_extends (h : ρ.Knows A n p) (hext : ρ.Extends ρ' n m) : ρ'.pair? p = ρ.pair? p := by
  unfold pair?
  rcases h with ⟨-, i, hi⟩ | ⟨-, hnone, hlt⟩
  · rw [hi, hext.kept _ i hi]
  · rw [hext.place _ hlt]

end Naming

/-- The same session, under the name its descriptor has on the other
side. -/
inductive SlotAlike (A : Address) (ρ : Naming) : Option Session → Option Session → Prop where
  | empty : SlotAlike A ρ none none
  | full {s : Session} {d' : Int} (ha : s.address = A) (hd : ρ.name s.descriptor = some d') :
      SlotAlike A ρ (some s) (some (s.on d'))

/-- The same entry, but for the descriptor of its session. -/
structure Entry.Alike (A : Address) (ρ : Naming) (x x' : Entry) : Prop where
  slot : SlotAlike A ρ x.slot x'.slot
  lastUsed : x'.lastUsed = x.lastUsed
  lock : x'.lock = x.lock

theorem SlotAlike.extends {A : Address} {ρ ρ' : Naming} {n : Nat} {m : Int}
    {s s' : Option Session} (h : SlotAlike A ρ s s') (hext : ρ.Extends ρ' n m) :
    SlotAlike A ρ' s s' := by
  cases h with
  | empty => exact .empty
  | full ha hd => exact .full ha (hext.still _ _ hd)

theorem Entry.Alike.extends {A : Address} {ρ ρ' : Naming} {n : Nat} {m : Int} {x x' : Entry}
    (h : x.Alike A ρ x') (hext : ρ.Extends ρ' n m) : x.Alike A ρ' x' :=
  ⟨h.slot.extends hext, h.lastUsed, h.lock⟩

-- ========================================================== registries

namespace Registry

/-- The registry `q` is what is left of the registry `r` when only the
address `A` is looked at. -/
structure Mirrors (A : Address) (ρ : Naming) (r q : Registry) : Prop where
  options : q.options = r.options
  policy : q.policy = r.policy
  disposed : r.disposed = false ∧ q.disposed = false
  sweepStarted : q.sweepStarted = r.sweepStarted
  cache : q.cache = r.cache.filterMap ρ.pair?
  known : ∀ p ∈ r.cache, ρ.Knows A r.entries.length p
  inj : ∀ e₁ e₂ i, ρ.place e₁ = some i → ρ.place e₂ = some i → e₁ = e₂
  -- an entry with a place is found there in the same state
  entry : ∀ e i, ρ.place e = some i →
    ∃ x x', r.entryAt? e = some x ∧ q.entryAt? i = some x' ∧ x.Alike A ρ x'
  -- an entry without a place holds no session of the address
  others : ∀ e s, ρ.place e = none → r.slot? e = some s → s.address ≠ A

namespace Mirrors

variable {A a : Address} {ρ ρ' : Naming} {r q : Registry} {e e' i i' : EntryId} {t : TaskId}

theorem place_lt (h : r.Mirrors A ρ q) (he : ρ.place e = some i) :
    e < r.entries.length ∧ i < q.entries.length := by
  obtain ⟨x, x', hx, hx', -⟩ := h.entry e i he
  exact ⟨(List.getElem?_eq_some_iff.mp hx).1, (List.getElem?_eq_some_iff.mp hx').1⟩

/-- An entry not made yet has no place. -/
theorem place_length (h : r.Mirrors A ρ q) : ρ.place r.entries.length = none := by
  cases he : ρ.place r.entries.length with
  | none => rfl
  | some i => exact absurd (h.place_lt he).1 (Nat.lt_irrefl _)

-- ------------------------------------------------------- what is read

/-- The session of an entry is the same on both sides. -/
theorem slot (h : r.Mirrors A ρ q) (he : ρ.place e = some i) :
    SlotAlike A ρ (r.slot? e) (q.slot? i) := by
  obtain ⟨x, x', hx, hx', hal⟩ := h.entry e i he
  unfold slot?
  rw [hx, hx']
  exact hal.slot

theorem slot_none (h : r.Mirrors A ρ q) (he : ρ.place e = some i) (hs : r.slot? e = none) :
    q.slot? i = none := by
  have hslot := h.slot he
  rw [hs] at hslot
  cases hq : q.slot? i with
  | none => rfl
  | some s' =>
      rw [hq] at hslot
      cases hslot

theorem slot_some (h : r.Mirrors A ρ q) (he : ρ.place e = some i) {s : Session}
    (hs : r.slot? e = some s) :
    s.address = A ∧ ∃ d', ρ.name s.descriptor = some d' ∧ q.slot? i = some (s.on d') := by
  have hslot := h.slot he
  rw [hs] at hslot
  cases hq : q.slot? i with
  | none =>
      rw [hq] at hslot
      cases hslot
  | some s' =>
      rw [hq] at hslot
      cases hslot with
      | full ha hd => exact ⟨ha, _, hd, rfl⟩

theorem holds (h : r.Mirrors A ρ q) (he : ρ.place e = some i) (t : TaskId) :
    q.holds i t = r.holds e t := by
  obtain ⟨x, x', hx, hx', hal⟩ := h.entry e i he
  unfold Registry.holds
  rw [hx, hx']
  simp only [hal.lock]

/-- The lock of an entry can be taken on both sides or on none. -/
theorem take? (h : r.Mirrors A ρ q) (he : ρ.place e = some i) (t : TaskId) :
    (q.entryAt? i).bind (·.lock.take? t) = (r.entryAt? e).bind (·.lock.take? t) := by
  obtain ⟨x, x', hx, hx', hal⟩ := h.entry e i he
  rw [hx, hx']
  simp only [Option.bind_some, hal.lock]

theorem idle (h : r.Mirrors A ρ q) (he : ρ.place e = some i) (now : Instant) :
    q.idle i now = r.idle e now := by
  obtain ⟨x, x', hx, hx', hal⟩ := h.entry e i he
  unfold Registry.idle
  rw [hx, hx']
  simp only [hal.lastUsed]

/-- Looking an address up in the part of a cache that belongs to it. -/
theorem get?_pairs {n : Nat} {l : List (Address × EntryId)} (hl : ∀ p ∈ l, ρ.Knows A n p) :
    Keyed.get? (l.filterMap ρ.pair?) A = (Keyed.get? l A).bind ρ.place := by
  induction l with
  | nil => rfl
  | cons p rest ih =>
      obtain ⟨b, e⟩ := p
      have ih' := ih fun p hp => hl p (List.mem_cons_of_mem _ hp)
      rcases hl (b, e) List.mem_cons_self with ⟨ha, i, hi⟩ | ⟨ha, hnone, -⟩
      · have hpair : ρ.pair? (b, e) = some (b, i) := congrArg (Option.map _) hi
        rw [List.filterMap_cons_some hpair]
        change b = A at ha
        simp only [Keyed.get?, ha, if_true, Option.bind_some]
        exact hi.symm
      · have hpair : ρ.pair? (b, e) = none := congrArg (Option.map _) hnone
        rw [List.filterMap_cons_none hpair, ih']
        change b ≠ A at ha
        simp only [Keyed.get?, ha, if_false]

theorem current? (h : r.Mirrors A ρ q) : q.current? A = (r.current? A).bind ρ.place := by
  unfold Registry.current?
  rw [h.cache]
  exact get?_pairs h.known

/-- The entry that is current for the address has a place. -/
theorem place_current (h : r.Mirrors A ρ q) (hc : r.current? A = some e) :
    ∃ i, ρ.place e = some i := by
  rcases h.known _ (Keyed.mem_of_get? hc) with ⟨-, hi⟩ | ⟨hne, -⟩
  · exact hi
  · exact absurd rfl hne

/-- An entry that is current for another address has none. -/
theorem apart_current (h : r.Mirrors A ρ q) (ha : a ≠ A) (hc : r.current? a = some e) :
    ρ.Apart r.entries.length e := by
  rcases h.known _ (Keyed.mem_of_get? hc) with ⟨heq, -⟩ | ⟨-, hap⟩
  · exact absurd heq ha
  · exact hap

theorem isCurrent (h : r.Mirrors A ρ q) (he : ρ.place e = some i) :
    q.isCurrent A i = r.isCurrent A e := by
  unfold Registry.isCurrent
  rw [h.current?]
  cases hc : r.current? A with
  | none => rfl
  | some e₀ =>
      obtain ⟨i₀, hi₀⟩ := h.place_current hc
      rw [Option.bind_some, hi₀]
      by_cases hee : e₀ = e
      · subst hee
        rw [he] at hi₀
        cases hi₀
        simp
      · have hii : i₀ ≠ i := fun hii => hee (h.inj _ _ i (hii ▸ hi₀) he)
        simp [hee, hii]

-- ------------------------------------------------ an entry changed

/-- An entry of the address changed on both sides. -/
theorem modify (h : r.Mirrors A ρ q) (he : ρ.place e = some i) {f g : Entry → Entry}
    (hfg : ∀ x x', x.Alike A ρ x' → (f x).Alike A ρ (g x')) :
    (r.modifyEntry e f).Mirrors A ρ (q.modifyEntry i g) := by
  refine
    { options := h.options
      policy := h.policy
      disposed := h.disposed
      sweepStarted := h.sweepStarted
      cache := h.cache
      known := fun p hp => by rw [length_modifyEntry]; exact h.known p hp
      inj := h.inj
      entry := ?entry
      others := ?others }
  case entry =>
    intro e' i' he'
    obtain ⟨x, x', hx, hx', hal⟩ := h.entry e' i' he'
    rw [entryAt?_modifyEntry, entryAt?_modifyEntry, hx, hx']
    by_cases hee : e = e'
    · subst hee
      rw [he] at he'
      cases he'
      rw [if_pos rfl, if_pos rfl]
      exact ⟨f x, g x', rfl, rfl, hfg x x' hal⟩
    · have hii : i ≠ i' := fun hii => hee (h.inj e e' i he (hii ▸ he'))
      rw [if_neg hee, if_neg hii]
      exact ⟨x, x', rfl, rfl, hal⟩
  case others =>
    intro e' s hnone hs
    have hne : e ≠ e' := by
      intro hee
      rw [← hee, he] at hnone
      cases hnone
    rw [slot?_eq, readOff_modifyEntry_ne _ _ _ _ hne, ← slot?_eq] at hs
    exact h.others e' s hnone hs

/-- An entry of another address changed, without a session of the address
put into it. -/
theorem modify_apart (h : r.Mirrors A ρ q) (he : ρ.place e = none) {f : Entry → Entry}
    (hf : ∀ x s, r.entryAt? e = some x → (f x).slot = some s → s.address ≠ A) :
    (r.modifyEntry e f).Mirrors A ρ q := by
  refine
    { options := h.options
      policy := h.policy
      disposed := h.disposed
      sweepStarted := h.sweepStarted
      cache := h.cache
      known := fun p hp => by rw [length_modifyEntry]; exact h.known p hp
      inj := h.inj
      entry := ?entry
      others := ?others }
  case entry =>
    intro e' i' he'
    have hne : e ≠ e' := by
      intro hee
      rw [← hee, he] at he'
      cases he'
    rw [entryAt?_modifyEntry, if_neg hne]
    exact h.entry e' i' he'
  case others =>
    intro e' s hnone hs
    by_cases hee : e = e'
    · subst hee
      unfold slot? at hs
      rw [entryAt?_modifyEntry, if_pos rfl] at hs
      cases hx : r.entryAt? e with
      | none =>
          rw [hx] at hs
          cases hs
      | some x =>
          rw [hx] at hs
          exact hf x s hx hs
    · rw [slot?_eq, readOff_modifyEntry_ne _ _ _ _ hee, ← slot?_eq] at hs
      exact h.others e' s hnone hs

theorem modifyLock (h : r.Mirrors A ρ q) (he : ρ.place e = some i) (f : Lock → Lock) :
    (r.modifyLock e f).Mirrors A ρ (q.modifyLock i f) :=
  h.modify he fun _ _ hal => ⟨hal.slot, hal.lastUsed, congrArg f hal.lock⟩

theorem modifyLock_apart (h : r.Mirrors A ρ q) (he : ρ.place e = none) (f : Lock → Lock) :
    (r.modifyLock e f).Mirrors A ρ q := by
  refine h.modify_apart he fun x s hx hs => h.others e s he ?_
  unfold slot?
  rw [hx]
  exact hs

theorem touch (h : r.Mirrors A ρ q) (he : ρ.place e = some i) (now : Instant) :
    (r.touch e now).Mirrors A ρ (q.touch i now) :=
  h.modify he fun _ _ hal => ⟨hal.slot, rfl, hal.lock⟩

theorem touch_apart (h : r.Mirrors A ρ q) (he : ρ.place e = none) (now : Instant) :
    (r.touch e now).Mirrors A ρ q := by
  refine h.modify_apart he fun x s hx hs => h.others e s he ?_
  unfold slot?
  rw [hx]
  exact hs

theorem setSlot (h : r.Mirrors A ρ q) (he : ρ.place e = some i) {s s' : Option Session}
    (hs : SlotAlike A ρ s s') : (r.setSlot e s).Mirrors A ρ (q.setSlot i s') :=
  h.modify he fun _ _ hal => ⟨hs, hal.lastUsed, hal.lock⟩

theorem setSlot_apart (h : r.Mirrors A ρ q) (he : ρ.place e = none) {slot : Option Session}
    (hs : ∀ s, slot = some s → s.address ≠ A) : (r.setSlot e slot).Mirrors A ρ q :=
  h.modify_apart he fun _ s _ => hs s

-- ------------------------------------ an address found or forgotten

/-- The address looked up on both sides. Where it is new, the entries made
for it get to be places of each other. -/
theorem resolve (h : r.Mirrors A ρ q) (now : Instant) (m : Int) :
    ∃ ρ', ρ.Extends ρ' r.entries.length m ∧ ρ'.name = ρ.name ∧
      ρ'.place (r.resolve A now).2 = some (q.resolve A now).2 ∧
      (r.resolve A now).1.Mirrors A ρ' (q.resolve A now).1 := by
  cases hc : r.current? A with
  | some e =>
      obtain ⟨i, hi⟩ := h.place_current hc
      have hc' : q.current? A = some i := by
        rw [h.current?, hc]
        exact hi
      rw [resolve_of_some hc, resolve_of_some hc']
      exact ⟨ρ, .refl ρ _ m, rfl, hi, h⟩
  | none =>
      have hc' : q.current? A = none := by
        rw [h.current?, hc]
        rfl
      have hext := Naming.extends_put q.entries.length m h.place_length
      have hnew : (ρ.put r.entries.length q.entries.length).place r.entries.length =
        some q.entries.length := if_pos rfl
      refine ⟨ρ.put r.entries.length q.entries.length, hext, rfl, ?_, ?_⟩
      · rw [resolve_of_none hc, resolve_of_none hc']
        exact hnew
      · have hentry := fun e (hlt : e < r.entries.length) => entryAt?_resolve r A now hlt
        have hentry' := fun e (hlt : e < q.entries.length) => entryAt?_resolve q A now hlt
        have hslot := fun e => slot?_resolve r A e now
        rw [resolve_of_none hc] at hentry hslot ⊢
        rw [resolve_of_none hc'] at hentry' ⊢
        have hlen : r.entries.length ≤ (r.entries ++ [Entry.vacant now]).length := by simp
        refine
          { options := h.options
            policy := h.policy
            disposed := h.disposed
            sweepStarted := h.sweepStarted
            cache := ?cache
            known := ?known
            inj := ?inj
            entry := ?entry
            others := ?others }
        case cache =>
          show Keyed.set q.cache A _ = (Keyed.set r.cache A _).filterMap _
          rw [Keyed.set_of_get?_eq_none hc, Keyed.set_of_get?_eq_none hc', h.cache,
            List.filterMap_append]
          have hold : r.cache.filterMap (ρ.put r.entries.length q.entries.length).pair? =
              r.cache.filterMap ρ.pair? :=
            List.filterMap_congr fun p hp => Naming.pair?_extends (h.known p hp) hext
          have hpair : (ρ.put r.entries.length q.entries.length).pair? (A, r.entries.length) =
              some (A, q.entries.length) := congrArg (Option.map _) hnew
          rw [hold, List.filterMap_cons_some hpair]
          rfl
        case known =>
          intro p hp
          rcases Keyed.eq_or_mem_of_mem_set hp with rfl | hp
          · exact .inl ⟨rfl, _, hnew⟩
          · exact (h.known p hp).extends hext hlen
        case inj =>
          intro e₁ e₂ i h₁ h₂
          rcases Naming.place_put h₁ with ⟨rfl, rfl⟩ | h₁
          · rcases Naming.place_put h₂ with ⟨rfl, -⟩ | h₂
            · rfl
            · exact absurd (h.place_lt h₂).2 (Nat.lt_irrefl _)
          · rcases Naming.place_put h₂ with ⟨rfl, rfl⟩ | h₂
            · exact absurd (h.place_lt h₁).2 (Nat.lt_irrefl _)
            · exact h.inj e₁ e₂ i h₁ h₂
        case entry =>
          intro e i he
          rcases Naming.place_put he with ⟨rfl, rfl⟩ | he
          · refine ⟨.vacant now, .vacant now, List.getElem?_concat_length,
              List.getElem?_concat_length, .empty, rfl, rfl⟩
          · obtain ⟨x, x', hx, hx', hal⟩ := h.entry e i he
            obtain ⟨hlt, hlt'⟩ := h.place_lt he
            exact ⟨x, x', (hentry e hlt).trans hx, (hentry' i hlt').trans hx', hal.extends hext⟩
        case others =>
          intro e s hnone hs
          refine h.others e s ?_ ((hslot e).symm.trans hs)
          cases hold : ρ.place e with
          | none => rfl
          | some i =>
              rw [hext.kept e i hold] at hnone
              cases hnone

/-- Another address looked up on one side. -/
theorem resolve_apart (h : r.Mirrors A ρ q) (ha : a ≠ A) (now : Instant) :
    (r.resolve a now).1.Mirrors A ρ q ∧
      ρ.Apart (r.resolve a now).1.entries.length (r.resolve a now).2 := by
  cases hc : r.current? a with
  | some e =>
      rw [resolve_of_some hc]
      exact ⟨h, h.apart_current ha hc⟩
  | none =>
      have hentry := fun e (hlt : e < r.entries.length) => entryAt?_resolve r a now hlt
      have hslot := fun e => slot?_resolve r a e now
      rw [resolve_of_none hc] at hentry hslot ⊢
      have hlen : r.entries.length < (r.entries ++ [Entry.vacant now]).length := by simp
      have hnew : ρ.Knows A (r.entries ++ [Entry.vacant now]).length (a, r.entries.length) :=
        .inr ⟨ha, h.place_length, hlen⟩
      refine ⟨?_, h.place_length, hlen⟩
      refine
        { options := h.options
          policy := h.policy
          disposed := h.disposed
          sweepStarted := h.sweepStarted
          cache := ?cache
          known := ?known
          inj := h.inj
          entry := ?entry
          others := fun e s hnone hs => h.others e s hnone ((hslot e).symm.trans hs) }
      case cache =>
        show q.cache = (Keyed.set r.cache a _).filterMap _
        have hpair : ρ.pair? (a, r.entries.length) = none :=
          congrArg (Option.map _) h.place_length
        rw [Keyed.set_of_get?_eq_none hc, List.filterMap_append, List.filterMap_cons_none hpair,
          h.cache]
        exact (List.append_nil _).symm
      case known =>
        intro p hp
        rcases Keyed.eq_or_mem_of_mem_set hp with rfl | hp
        · exact hnew
        · exact (h.known p hp).extends (.refl ρ _ 0) (Nat.le_of_lt hlen)
      case entry =>
        intro e i he
        obtain ⟨x, x', hx, hx', hal⟩ := h.entry e i he
        exact ⟨x, x', (hentry e (h.place_lt he).1).trans hx, hx', hal⟩

/-- The address forgotten on both sides. -/
theorem forget (h : r.Mirrors A ρ q) (he : ρ.place e = some i) :
    (r.forget A e).Mirrors A ρ (q.forget A i) := by
  unfold Registry.forget
  rw [h.isCurrent he]
  split
  · refine ⟨h.options, h.policy, h.disposed, h.sweepStarted, ?_, fun p hp => ?_, h.inj, h.entry,
      h.others⟩
    · show (q.cache.filter _) = (r.cache.filter _).filterMap _
      rw [h.cache, List.filter_filterMap, List.filterMap_filter]
      refine List.filterMap_congr fun p _ => ?_
      unfold Naming.pair?
      cases ρ.place p.2 with
      | none => simp
      | some j => simp [Option.filter]
    · exact h.known p (List.mem_of_mem_filter hp)
  · exact h

/-- Another address forgotten on one side. -/
theorem forget_apart (h : r.Mirrors A ρ q) (ha : a ≠ A) (e : EntryId) :
    (r.forget a e).Mirrors A ρ q := by
  unfold Registry.forget
  split
  · refine ⟨h.options, h.policy, h.disposed, h.sweepStarted, ?_, fun p hp => ?_, h.inj, h.entry,
      h.others⟩
    · show q.cache = (r.cache.filter _).filterMap _
      rw [h.cache, List.filterMap_filter]
      refine List.filterMap_congr fun p hp => ?_
      split
      next => rfl
      next hpa =>
        have hpa : p.1 = a := by simpa using hpa
        rcases h.known p hp with ⟨heq, -⟩ | ⟨-, hnone, -⟩
        · exact absurd (hpa.symm.trans heq) ha
        · exact congrArg (Option.map _) hnone
    · exact h.known p (List.mem_of_mem_filter hp)
  · exact h

end Mirrors

end Registry

end InstrumentBus
