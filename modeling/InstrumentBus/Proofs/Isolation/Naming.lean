/-
What belongs to one address, under other names.

Take the tasks of the other addresses out of a run, and fewer entries are
made and fewer descriptors handed out, so that those that remain have
other numbers. A `Naming` is the table of these: where an entry of the
address is found on the other side, and which descriptor stands there for
one that leads to it. Entries and descriptors of other addresses have no
place in the table. The table grows as the run goes on and nothing in it
is ever changed (`Naming.Extends`), so that names given at the end of a
run are good for all of it.

`Recorded.Mirrors` relates the two buses. They agree on the instrument at
the address and on the links that lead to it, and the record of the one is
what is left of the record of the other when only the calls that concern
the address are kept. What the other instruments hold, and what the
registers held before a call, is on one side only. The rest of the file
goes through what can happen to a bus: what a session of the address does
happens on both sides (`Mirrors.worked`, `Mirrors.granted`), and what a
session of another address does happens on one
(`Mirrors.worked_apart`, `Mirrors.granted_apart`).
-/
import InstrumentBus.Proofs.Isolation.Parallel
import InstrumentBus.Proofs.Registry.Ownership

namespace InstrumentBus

/-- The address that a session is asked for. -/
def OpenRequest.address (r : OpenRequest) : Address := ⟨r.primary, r.secondary⟩

/-- The names that entries and descriptors have on the other side. -/
structure Naming where
  place : EntryId → Option EntryId
  name : Int → Option Int

namespace Naming

/-- Nothing has a name yet. -/
def blank : Naming := ⟨fun _ => none, fun _ => none⟩

/-- The table with a place for one more entry. -/
def put (ρ : Naming) (e i : EntryId) : Naming :=
  { ρ with place := fun x => if x = e then some i else ρ.place x }

/-- The table with a name for one more descriptor. -/
def call (ρ : Naming) (d d' : Int) : Naming :=
  { ρ with name := fun x => if x = d then some d' else ρ.name x }

/-- What a descriptor is called on the other side. One without a name
keeps its own. -/
def called (ρ : Naming) (d : Int) : Int := (ρ.name d).getD d

/-- A record is of a call that is found on the other side too. -/
def keeps (ρ : Naming) (A : Address) (r : RawRecord) : Bool :=
  match r.call with
  | .openDevice request => request.address == A
  | call => (call.descriptor?.bind ρ.name).isSome

/-- Nothing is renamed, and new names are given to new numbers only:
entries from `n` on, and descriptors from `m` on. -/
structure Extends (ρ ρ' : Naming) (n : Nat) (m : Int) : Prop where
  place : ∀ e, e < n → ρ'.place e = ρ.place e
  name : ∀ d, d < m → ρ'.name d = ρ.name d
  kept : ∀ e i, ρ.place e = some i → ρ'.place e = some i
  still : ∀ d d', ρ.name d = some d' → ρ'.name d = some d'

variable {ρ ρ' ρ'' : Naming} {n n' : Nat} {m m' : Int} {A : Address}

theorem Extends.refl (ρ : Naming) (n : Nat) (m : Int) : Extends ρ ρ n m :=
  ⟨fun _ _ => rfl, fun _ _ => rfl, fun _ _ => id, fun _ _ => id⟩

theorem Extends.trans (h : Extends ρ ρ' n m) (h' : Extends ρ' ρ'' n' m') (hn : n ≤ n')
    (hm : m ≤ m') : Extends ρ ρ'' n m where
  place e he := (h'.place e (Nat.lt_of_lt_of_le he hn)).trans (h.place e he)
  name d hd := (h'.name d (by omega)).trans (h.name d hd)
  kept e i he := h'.kept e i (h.kept e i he)
  still d d' hd := h'.still d d' (h.still d d' hd)

/-- A place for a new entry. -/
theorem extends_put (i : EntryId) (m : Int) (hn : ρ.place n = none) :
    Extends ρ (ρ.put n i) n m where
  place e he := if_neg (Nat.ne_of_lt he)
  name d hd := rfl
  kept e j he := by
    refine (if_neg fun h => ?_).trans he
    rw [h, hn] at he
    cases he
  still d d' hd := hd

/-- A name for a new descriptor. -/
theorem extends_call (d' : Int) (n : Nat) (hm : ρ.name m = none) :
    Extends ρ (ρ.call m d') n m where
  place e he := rfl
  name d hd := if_neg (Int.ne_of_lt hd)
  kept e i he := he
  still d d'' hd := by
    refine (if_neg fun h => ?_).trans hd
    rw [h, hm] at hd
    cases hd

/-- A place is the new one, or is an old one. -/
theorem place_put {e₀ i₀ e i : EntryId} (h : (ρ.put e₀ i₀).place e = some i) :
    e = e₀ ∧ i = i₀ ∨ ρ.place e = some i := by
  change (if e = e₀ then some i₀ else ρ.place e) = some i at h
  split at h
  next heq => exact .inl ⟨heq, (Option.some.inj h).symm⟩
  next => exact .inr h

/-- A name is the new one, or is an old one. -/
theorem name_call {d₀ x₀ d x : Int} (h : (ρ.call d₀ x₀).name d = some x) :
    d = d₀ ∧ x = x₀ ∨ ρ.name d = some x := by
  change (if d = d₀ then some x₀ else ρ.name d) = some x at h
  split at h
  next heq => exact .inl ⟨heq, (Option.some.inj h).symm⟩
  next => exact .inr h

theorem called_of_name {d d' : Int} (h : ρ.name d = some d') : ρ.called d = d' := by
  unfold called
  rw [h]
  rfl

theorem called_of_none {d : Int} (h : ρ.name d = none) : ρ.called d = d := by
  unfold called
  rw [h]
  rfl

theorem Extends.called (h : Extends ρ ρ' n m) {d : Int} (hd : d < m) :
    ρ'.called d = ρ.called d := by
  unfold Naming.called
  rw [h.name d hd]

-- =================================================== records renamed

/-- A record of calls and answers that the table covers. -/
def Covers (m : Int) (r : RawRecord) : Prop :=
  (∀ d, r.call.descriptor? = some d → d < m) ∧ ∀ d, r.answer = some d → d < m

theorem keeps_of_descriptor {r : RawRecord} {d : Int} (hd : r.call.descriptor? = some d) :
    ρ.keeps A r = (ρ.name d).isSome := by
  obtain ⟨call, answer, registers⟩ := r
  cases call <;> first | (cases hd; rfl) | cases hd

theorem keeps_open (request : OpenRequest) (answer : Option Int) (registers : Registers) :
    ρ.keeps A ⟨.openDevice request, answer, registers⟩ = (request.address == A) := rfl

theorem keeps_congr {r : RawRecord} (h : ∀ d, r.call.descriptor? = some d → ρ'.name d = ρ.name d) :
    ρ'.keeps A r = ρ.keeps A r := by
  obtain ⟨call, answer, registers⟩ := r
  unfold keeps
  cases call with
  | openDevice request => rfl
  | discover board probes capacity => rfl
  | takeOffline d v => exact congrArg Option.isSome (h d rfl)
  | write d data => exact congrArg Option.isSome (h d rfl)
  | read d capacity => exact congrArg Option.isSome (h d rfl)
  | clear d => exact congrArg Option.isSome (h d rfl)
  | serialPoll d => exact congrArg Option.isSome (h d rfl)

end Naming

theorem RawCall.renamed_congr {f g : Int → Int} {c : RawCall}
    (h : ∀ d, c.descriptor? = some d → f d = g d) : c.renamed f = c.renamed g := by
  cases c with
  | openDevice request => rfl
  | discover board probes capacity => rfl
  | takeOffline d v => exact congrArg (RawCall.takeOffline · v) (h d rfl)
  | write d data => exact congrArg (RawCall.write · data) (h d rfl)
  | read d capacity => exact congrArg (RawCall.read · capacity) (h d rfl)
  | clear d => exact congrArg RawCall.clear (h d rfl)
  | serialPoll d => exact congrArg RawCall.serialPoll (h d rfl)

/-- Records that the new names do not touch are kept and renamed as
before. -/
theorem Naming.Extends.records {ρ ρ' : Naming} {n : Nat} {m : Int} (h : ρ.Extends ρ' n m)
    (A : Address) {l : List RawRecord} (hl : ∀ r ∈ l, Covers m r) :
    (l.filter (ρ'.keeps A)).map (·.renamed ρ'.called) =
      (l.filter (ρ.keeps A)).map (·.renamed ρ.called) := by
  have hkeeps : l.filter (ρ'.keeps A) = l.filter (ρ.keeps A) :=
    List.filter_congr fun r hr => keeps_congr fun d hd => h.name d ((hl r hr).1 d hd)
  rw [hkeeps]
  refine List.map_congr_left fun r hr => ?_
  obtain ⟨hcall, hanswer⟩ := hl r (List.mem_of_mem_filter hr)
  unfold RawRecord.renamed
  rw [RawCall.renamed_congr fun d hd => h.called (hcall d hd)]
  have hmap : r.answer.map ρ'.called = r.answer.map ρ.called := by
    cases ha : r.answer with
    | none => rfl
    | some d => exact congrArg some (h.called (hanswer d ha))
  rw [hmap]

-- ============================================================= opens

namespace Simulated

/-- The bus after an open that is granted. -/
def granted (b : Simulated) (r : OpenRequest) : Simulated :=
  { b with
      links := Keyed.set b.links b.nextDescriptor ⟨r.address, true⟩
      nextDescriptor := b.nextDescriptor + 1 }.complete 0

/-- On a bus that is not set to refuse, the request decides whether an
open is refused. -/
theorem openDevice_calm (r : OpenRequest) :
    (∃ code, ∀ b : Simulated, b.failOpen = false → b.openDevice r = (b.refuse code, -1)) ∨
      ∀ b : Simulated, b.failOpen = false → b.openDevice r = (b.granted r, b.nextDescriptor) := by
  by_cases hboard : r.board < 0
  · refine .inl ⟨.eneb, fun b hb => ?_⟩
    unfold openDevice
    rw [if_pos (.inr hboard)]
  · have hno : ∀ b : Simulated, b.failOpen = false → ¬ (b.failOpen = true ∨ r.board < 0) := by
      rintro b hb (h | h)
      · rw [hb] at h
        cases h
      · exact hboard h
    by_cases hrange : (Address.mk r.primary r.secondary).InRange
    · refine .inr fun b hb => ?_
      unfold openDevice
      rw [if_neg (hno b hb), if_neg (not_not_intro hrange)]
      rfl
    · refine .inl ⟨.earg, fun b hb => ?_⟩
      unfold openDevice
      rw [if_neg (hno b hb), if_pos hrange]

theorem link?_granted (b : Simulated) (r : OpenRequest) (d : Int) :
    (b.granted r).link? d = if b.nextDescriptor = d then some ⟨r.address, true⟩ else b.link? d :=
  Keyed.get?_set b.links b.nextDescriptor _ d

end Simulated

-- ==================================================== buses mirrored

/-- The bus `c` is what is left of the bus `b` when only the address `A`
is looked at. -/
structure Recorded.Mirrors (A : Address) (ρ : Naming) (b c : Recorded Simulated) : Prop where
  faults : b.bus.faults = [] ∧ c.bus.faults = []
  failOpen : b.bus.failOpen = false ∧ c.bus.failOpen = false
  nonneg : 0 ≤ b.bus.nextDescriptor ∧ 0 ≤ c.bus.nextDescriptor
  -- the instrument is in the same state
  instrument : c.bus.instrument? A = b.bus.instrument? A
  -- a descriptor that has a name leads to the address, and so does its
  -- name
  link : ∀ d d', ρ.name d = some d' → ∃ online,
    b.bus.link? d = some ⟨A, online⟩ ∧ c.bus.link? d' = some ⟨A, online⟩
  -- names are given to descriptors handed out
  below : ∀ d d', ρ.name d = some d' →
    0 ≤ d ∧ d < b.bus.nextDescriptor ∧ d' < c.bus.nextDescriptor
  inj : ∀ d₁ d₂ d', ρ.name d₁ = some d' → ρ.name d₂ = some d' → d₁ = d₂
  -- a descriptor opened to the address has a name
  named : ∀ d ∈ b.opened, ∀ online, b.bus.link? d = some ⟨A, online⟩ → (ρ.name d).isSome
  -- the calls that concern the address are those that were made here
  trace : c.trace = (b.trace.filter (ρ.keeps A)).map (·.renamed ρ.called)

namespace Recorded.Mirrors

variable {A : Address} {ρ : Naming} {b c : Recorded Simulated} {s : Session} {d d' : Int}

/-- A descriptor that leads elsewhere has no name. -/
theorem name_eq_none (h : b.Mirrors A ρ c) {l : Link} (hl : b.bus.link? d = some l)
    (hne : l.address ≠ A) : ρ.name d = none := by
  cases hd : ρ.name d with
  | none => rfl
  | some d' =>
      obtain ⟨online, hl', -⟩ := h.link d d' hd
      rw [hl] at hl'
      cases hl'
      exact absurd rfl hne

/-- A descriptor not handed out yet has no name. -/
theorem name_next (h : b.Mirrors A ρ c) : ρ.name b.bus.nextDescriptor = none := by
  cases hd : ρ.name b.bus.nextDescriptor with
  | none => rfl
  | some d' =>
      have := h.below _ d' hd
      omega

theorem parallel (h : b.Mirrors A ρ c) (hd : ρ.name d = some d') :
    b.bus.Parallel d d' c.bus := by
  obtain ⟨online, hl, hl'⟩ := h.link d d' hd
  refine ⟨h.faults, hl'.trans hl.symm, fun l hlink => ?_⟩
  rw [hl] at hlink
  cases hlink
  exact h.instrument

/-- A session of the address, and the same session under the other name. -/
theorem twins (h : b.Mirrors A ρ c) (hd : ρ.name s.descriptor = some d') :
    Twins s.descriptor d' b.trace c.trace (s, b) (s.on d', c) :=
  ⟨rfl, rfl, h.parallel hd, [], rfl, rfl⟩

/-- Calls made on a descriptor of the address are kept, under its name. -/
theorem records_kept (hd : ρ.name d = some d') {new : List RawRecord}
    (hn : ∀ r ∈ new, r.call.descriptor? = some d ∧ r.answer = none) :
    (new.filter (ρ.keeps A)).map (·.renamed ρ.called) = new.map (·.renamed fun _ => d') := by
  have hall : new.filter (ρ.keeps A) = new := by
    refine List.filter_eq_self.mpr fun r hr => ?_
    rw [Naming.keeps_of_descriptor (hn r hr).1, hd]
    rfl
  rw [hall]
  refine List.map_congr_left fun r hr => ?_
  obtain ⟨hcall, hanswer⟩ := hn r hr
  unfold RawRecord.renamed
  rw [hanswer]
  refine congrArg (RawRecord.mk · none r.registers) (RawCall.renamed_congr fun x hx => ?_)
  rw [hcall] at hx
  cases hx
  exact Naming.called_of_name hd

/-- Calls made on a descriptor without a name are not. -/
theorem records_dropped (hd : ρ.name d = none) {new : List RawRecord}
    (hn : ∀ r ∈ new, r.call.descriptor? = some d ∧ r.answer = none) :
    new.filter (ρ.keeps A) = [] := by
  refine List.filter_eq_nil_iff.mpr fun r hr => ?_
  rw [Naming.keeps_of_descriptor (hn r hr).1, hd]
  exact Bool.false_ne_true

/-- A session of the address at work on both sides. -/
theorem worked (h : b.Mirrors A ρ c) (hd : ρ.name s.descriptor = some d')
    (hl : b.bus.link? s.descriptor = some ⟨A, !s.closed⟩) {q q' : Line (Recorded Simulated)}
    (ht : Twins s.descriptor d' b.trace c.trace q q') (hc : Conducts (s, b) q)
    (hc' : Conducts (s.on d', c) q') : q.2.Mirrors A ρ q'.2 := by
  have hl' : c.bus.link? d' = some ⟨A, !s.closed⟩ := (h.parallel hd).link.trans hl
  have hown := hc.own A hl
  have hown' := hc'.own A hl'
  obtain ⟨new, hnew, hrecords, -⟩ := hc.made
  have hopened : q.2.opened = b.opened := Site.opened_append hnew hrecords
  refine
    { faults := ⟨hc.faults h.faults.1, hc'.faults h.faults.2⟩
      failOpen := ⟨hc.failOpen.trans h.failOpen.1, hc'.failOpen.trans h.failOpen.2⟩
      nonneg := ⟨hc.next ▸ h.nonneg.1, hc'.next ▸ h.nonneg.2⟩
      instrument := ht.bus.instrument _ hown
      link := ?link
      below := fun x x' hx => by rw [hc.next, hc'.next]; exact h.below x x' hx
      inj := h.inj
      named := ?named
      trace := ?trace }
  case link =>
    intro x x' hx
    by_cases hxd : x = s.descriptor
    · subst hxd
      rw [hd] at hx
      cases hx
      rw [hown]
      exact ⟨!q.1.closed, rfl, ht.bus.link.trans hown⟩
    · have hxd' : x' ≠ d' := fun he => hxd (h.inj x s.descriptor d' (he ▸ hx) hd)
      obtain ⟨online, hb, hc₀⟩ := h.link x x' hx
      exact ⟨online, (hc.others x hxd).trans hb, (hc'.others x' hxd').trans hc₀⟩
  case named =>
    intro x hx online hlx
    by_cases hxd : x = s.descriptor
    · rw [hxd, hd]
      rfl
    · rw [hc.others x hxd] at hlx
      exact h.named x (hopened ▸ hx) online hlx
  case trace =>
    obtain ⟨made, hmade, hmade'⟩ := ht.made
    have hsame : made = new := List.append_cancel_right (hmade.symm.trans hnew)
    rw [hmade', hmade, hsame, List.filter_append, List.map_append, records_kept hd hrecords,
      ← h.trace]

/-- A session of another address at work. -/
theorem worked_apart (h : b.Mirrors A ρ c) {a : Address} (ha : a ≠ A)
    (hl : b.bus.link? s.descriptor = some ⟨a, !s.closed⟩) {q : Line (Recorded Simulated)}
    (hc : Conducts (s, b) q) : q.2.Mirrors A ρ c := by
  have hd : ρ.name s.descriptor = none := h.name_eq_none hl ha
  obtain ⟨new, hnew, hrecords, -⟩ := hc.made
  have hopened : q.2.opened = b.opened := Site.opened_append hnew hrecords
  refine
    { faults := ⟨hc.faults h.faults.1, h.faults.2⟩
      failOpen := ⟨hc.failOpen.trans h.failOpen.1, h.failOpen.2⟩
      nonneg := ⟨hc.next ▸ h.nonneg.1, h.nonneg.2⟩
      instrument := h.instrument.trans (hc.elsewhere a A hl ha).symm
      link := ?link
      below := fun x x' hx => by rw [hc.next]; exact h.below x x' hx
      inj := h.inj
      named := ?named
      trace := ?trace }
  case link =>
    intro x x' hx
    obtain ⟨online, hb, hc₀⟩ := h.link x x' hx
    refine ⟨online, (hc.others x fun he => ?_).trans hb, hc₀⟩
    change x = s.descriptor at he
    rw [he, hd] at hx
    cases hx
  case named =>
    intro x hx online hlx
    by_cases hxd : x = s.descriptor
    · have hown := hc.own a hl
      rw [hxd] at hlx
      rw [hlx] at hown
      cases hown
      exact absurd rfl ha
    · rw [hc.others x hxd] at hlx
      exact h.named x (hopened ▸ hx) online hlx
  case trace =>
    rw [hnew, List.filter_append, records_dropped hd hrecords]
    exact h.trace

/-- An open that is refused on both sides. -/
theorem refused (h : b.Mirrors A ρ c) {r : OpenRequest} (hr : r.address = A) (code : DriverCode) :
    (b.note (b.bus.refuse code) (.openDevice r) (some (-1))).Mirrors A ρ
      (c.note (c.bus.refuse code) (.openDevice r) (some (-1))) := by
  have hcalled : ρ.called (-1) = -1 := by
    refine Naming.called_of_none ?_
    cases hd : ρ.name (-1) with
    | none => rfl
    | some d' =>
        have := h.below _ d' hd
        omega
  refine ⟨h.faults, h.failOpen, h.nonneg, h.instrument, h.link, h.below, h.inj,
    fun d hd => ?_, ?_⟩
  · rw [Site.opened_refused (by decide)] at hd
    exact h.named d hd
  · show _ :: c.trace = ((_ :: b.trace).filter _).map _
    rw [List.filter_cons_of_pos, List.map_cons, h.trace]
    · refine congrArg (· :: _) ?_
      unfold RawRecord.renamed
      simp only [Option.map_some, hcalled]
      rfl
    · rw [Naming.keeps_open, hr]
      exact beq_self_eq_true A

/-- An open that is refused to another address. -/
theorem refused_apart (h : b.Mirrors A ρ c) {r : OpenRequest} (hr : r.address ≠ A)
    (code : DriverCode) :
    (b.note (b.bus.refuse code) (.openDevice r) (some (-1))).Mirrors A ρ c := by
  refine ⟨h.faults, h.failOpen, h.nonneg, h.instrument, h.link, h.below, h.inj,
    fun d hd => ?_, ?_⟩
  · rw [Site.opened_refused (by decide)] at hd
    exact h.named d hd
  · show c.trace = ((_ :: b.trace).filter _).map _
    rw [List.filter_cons_of_neg, h.trace]
    rw [Naming.keeps_open, beq_iff_eq]
    exact hr

/-- The descriptors opened after an open that was granted. -/
theorem opened_granted (hn : 0 ≤ b.bus.nextDescriptor) (bus : Simulated) (r : OpenRequest) :
    (b.note bus (.openDevice r) (some b.bus.nextDescriptor)).opened =
      b.bus.nextDescriptor :: b.opened := by
  show List.filterMap _ (_ :: b.trace) = _
  refine List.filterMap_cons_some ?_
  show (some _).filter _ = _
  rw [Option.filter_some, if_pos (decide_eq_true hn)]

/-- An open that is granted on both sides. The descriptors handed out get
to be names of each other. -/
theorem granted (h : b.Mirrors A ρ c) {r : OpenRequest} (hr : r.address = A)
    (hold : ∀ q ∈ b.trace, Naming.Covers b.bus.nextDescriptor q) :
    (b.note (b.bus.granted r) (.openDevice r) (some b.bus.nextDescriptor)).Mirrors A
      (ρ.call b.bus.nextDescriptor c.bus.nextDescriptor)
      (c.note (c.bus.granted r) (.openDevice r) (some c.bus.nextDescriptor)) := by
  obtain ⟨hn, hn'⟩ := h.nonneg
  have hext : ρ.Extends (ρ.call b.bus.nextDescriptor c.bus.nextDescriptor) 0 b.bus.nextDescriptor :=
    Naming.extends_call _ _ h.name_next
  -- an old name is that of an old descriptor
  have hcases : ∀ d d', (ρ.call b.bus.nextDescriptor c.bus.nextDescriptor).name d = some d' →
      d = b.bus.nextDescriptor ∧ d' = c.bus.nextDescriptor ∨
        ρ.name d = some d' ∧ 0 ≤ d ∧ d < b.bus.nextDescriptor ∧ d' < c.bus.nextDescriptor :=
    fun d d' hd => (Naming.name_call hd).imp_right fun hd => ⟨hd, h.below d d' hd⟩
  refine
    { faults := h.faults
      failOpen := h.failOpen
      nonneg := ⟨Int.le_add_one hn, Int.le_add_one hn'⟩
      instrument := h.instrument
      link := ?link
      below := ?below
      inj := ?inj
      named := ?named
      trace := ?trace }
  case link =>
    intro d d' hd
    change ∃ online, (b.bus.granted r).link? d = _ ∧ (c.bus.granted r).link? d' = _
    rw [Simulated.link?_granted, Simulated.link?_granted]
    rcases hcases d d' hd with ⟨rfl, rfl⟩ | ⟨hold, -, hlt, hlt'⟩
    · rw [if_pos rfl, if_pos rfl, hr]
      exact ⟨true, rfl, rfl⟩
    · rw [if_neg (Int.ne_of_gt hlt), if_neg (Int.ne_of_gt hlt')]
      exact h.link d d' hold
  case below =>
    intro d d' hd
    show 0 ≤ d ∧ d < b.bus.nextDescriptor + 1 ∧ d' < c.bus.nextDescriptor + 1
    rcases hcases d d' hd with ⟨rfl, rfl⟩ | ⟨-, hge, hlt, hlt'⟩
    · omega
    · omega
  case inj =>
    intro d₁ d₂ d' h₁ h₂
    rcases hcases d₁ d' h₁ with ⟨rfl, rfl⟩ | ⟨hd₁, -, hlt₁, hlt₁'⟩
    · rcases hcases d₂ _ h₂ with ⟨rfl, -⟩ | ⟨-, -, -, hlt₂'⟩
      · rfl
      · omega
    · rcases hcases d₂ d' h₂ with ⟨rfl, rfl⟩ | ⟨hd₂, -⟩
      · omega
      · exact h.inj d₁ d₂ d' hd₁ hd₂
  case named =>
    intro d hd online hl
    rw [opened_granted hn] at hd
    change (b.bus.granted r).link? d = _ at hl
    rw [Simulated.link?_granted] at hl
    show (if d = b.bus.nextDescriptor then _ else ρ.name d).isSome = true
    by_cases he : d = b.bus.nextDescriptor
    · rw [if_pos he]
      rfl
    · rw [if_neg he]
      rw [if_neg (Ne.symm he)] at hl
      exact h.named d ((List.mem_cons.mp hd).resolve_left he) online hl
  case trace =>
    show _ :: c.trace = ((_ :: b.trace).filter _).map _
    rw [List.filter_cons_of_pos, List.map_cons, hext.records A hold, ← h.trace]
    · refine congrArg (· :: _) ?_
      have hcalled : (ρ.call b.bus.nextDescriptor c.bus.nextDescriptor).called
          b.bus.nextDescriptor = c.bus.nextDescriptor := Naming.called_of_name (if_pos rfl)
      unfold RawRecord.renamed
      simp only [Option.map_some, hcalled]
      rfl
    · rw [Naming.keeps_open, hr]
      exact beq_self_eq_true A

/-- An open that is granted to another address. -/
theorem granted_apart (h : b.Mirrors A ρ c) {r : OpenRequest} (hr : r.address ≠ A) :
    (b.note (b.bus.granted r) (.openDevice r) (some b.bus.nextDescriptor)).Mirrors A ρ c := by
  obtain ⟨hn, hn'⟩ := h.nonneg
  refine
    { faults := h.faults
      failOpen := h.failOpen
      nonneg := ⟨Int.le_add_one hn, hn'⟩
      instrument := h.instrument
      link := ?link
      below := ?below
      inj := h.inj
      named := ?named
      trace := ?trace }
  case link =>
    intro d d' hd
    obtain ⟨-, hlt, -⟩ := h.below d d' hd
    change ∃ online, (b.bus.granted r).link? d = _ ∧ _
    rw [Simulated.link?_granted, if_neg (Int.ne_of_gt hlt)]
    exact h.link d d' hd
  case below =>
    intro d d' hd
    have := h.below d d' hd
    show 0 ≤ d ∧ d < b.bus.nextDescriptor + 1 ∧ d' < c.bus.nextDescriptor
    omega
  case named =>
    intro d hd online hl
    rw [opened_granted hn] at hd
    change (b.bus.granted r).link? d = _ at hl
    rw [Simulated.link?_granted] at hl
    by_cases he : d = b.bus.nextDescriptor
    · rw [if_pos he.symm] at hl
      cases hl
      exact absurd rfl hr
    · rw [if_neg (Ne.symm he)] at hl
      exact h.named d ((List.mem_cons.mp hd).resolve_left he) online hl
  case trace =>
    show c.trace = ((_ :: b.trace).filter _).map _
    rw [List.filter_cons_of_neg, h.trace]
    rw [Naming.keeps_open, beq_iff_eq]
    exact hr

end Recorded.Mirrors

end InstrumentBus
