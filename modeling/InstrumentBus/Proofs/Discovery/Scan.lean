/-
A scan of a bus in memory finds everybody who is there.

The probes of a range are its primary addresses and nothing else, for the
word that ends them is none. For each of them the bus reports the
addresses attached there, in order, so what it reports is one ascending
list: the attached addresses of the range (`Simulated.within`). The result
buffer holds the front of that list, and all of it where no address is
attached that a device cannot have, since then there are at most 32 to
each primary address.

A `Plain` bus does as it is told: no discovery is scripted for it, and
neither a fault nor a refusal stands in the way of a session.
-/
import InstrumentBus.Discovery.Survey
import InstrumentBus.Proofs.Session.Channel
import Mathlib.Data.List.ProdSigma
import Mathlib.Data.List.Sort
import Mathlib.Data.List.TakeDrop

namespace InstrumentBus

-- =========================================================== the order

namespace Address

variable {a b : Address}

/-- In front of another address: a lower primary address, or the same one
and a lower secondary address. -/
def Before (a b : Address) : Prop :=
  a.primary < b.primary ∨ a.primary = b.primary ∧ a.secondary < b.secondary

/-- The place of an address among all addresses. -/
def rank (a : Address) : Nat := a.primary.toNat * 256 + a.secondary.toNat

theorem before_iff : a.Before b ↔ a.rank < b.rank := by
  have ha := a.secondary.toNat_lt
  have hb := b.secondary.toNat_lt
  unfold Before rank
  rw [UInt8.lt_iff_toNat_lt, UInt8.lt_iff_toNat_lt, ← UInt8.toNat_inj]
  omega

theorem le_iff : a.le b = true ↔ a.rank ≤ b.rank := by
  have ha := a.secondary.toNat_lt
  have hb := b.secondary.toNat_lt
  unfold le rank
  simp only [Bool.or_eq_true, Bool.and_eq_true, decide_eq_true_eq, beq_iff_eq,
    UInt8.lt_iff_toNat_lt, UInt8.le_iff_toNat_le, ← UInt8.toNat_inj]
  omega

theorem rank_inj (h : a.rank = b.rank) : a = b := by
  have ha := a.secondary.toNat_lt
  have hb := b.secondary.toNat_lt
  obtain ⟨p, s⟩ := a
  obtain ⟨p', s'⟩ := b
  unfold rank at h
  simp only [mk.injEq, ← UInt8.toNat_inj] at *
  omega

instance : Std.Irrefl Before := ⟨fun _ h => Nat.lt_irrefl _ (before_iff.mp h)⟩

instance : Std.Antisymm Before :=
  ⟨fun _ _ h h' => absurd (before_iff.mp h) (Nat.lt_asymm (before_iff.mp h'))⟩

instance : Std.Total fun a b : Address => a.le b = true :=
  ⟨fun a b => by simp only [le_iff]; exact Nat.le_total _ _⟩

instance : IsTrans Address fun a b => a.le b = true :=
  ⟨fun _ _ _ h h' => le_iff.mpr (Nat.le_trans (le_iff.mp h) (le_iff.mp h'))⟩

theorem insertSorted_eq (a : Address) (as : List Address) :
    insertSorted a as = as.orderedInsert (fun a b => a.le b = true) a := by
  induction as with
  | nil => rfl
  | cons b rest ih =>
      rw [List.orderedInsert_cons, ← ih]
      rfl

theorem sort_eq (as : List Address) :
    sort as = as.insertionSort fun a b => a.le b = true := by
  induction as with
  | nil => rfl
  | cons a rest ih =>
      rw [List.insertionSort_cons, ← ih, ← insertSorted_eq]
      rfl

theorem sort_perm (as : List Address) : (sort as).Perm as := by
  rw [sort_eq]
  exact List.perm_insertionSort _ as

/-- Addresses that are all different are sorted into an ascending list. -/
theorem sort_ascends {as : List Address} (h : as.Nodup) : (sort as).Pairwise Before := by
  have hle : (sort as).Pairwise fun a b => a.le b = true := by
    rw [sort_eq]
    exact List.pairwise_insertionSort _ as
  have hne : (sort as).Pairwise (· ≠ ·) := (sort_perm as).nodup_iff.mpr h
  refine (hle.and hne).imp fun {a b} hab => before_iff.mpr ?_
  exact Nat.lt_of_le_of_ne (le_iff.mp hab.1) fun heq => hab.2 (rank_inj heq)

/-- The words of addresses stand for these addresses. -/
theorem map_ofWord_word (as : List Address) : (as.map word).map ofWord = as := by
  rw [List.map_map]
  exact (List.map_congr_left fun a _ => ofWord_word a).trans (List.map_id as)

end Address

-- ========================================================== the probes

namespace Scan

variable {lo hi : UInt8}

/-- A scan of a valid range makes one call and decodes what it brings. -/
theorem run_scan {β : Type} [RawBus β] (h : ValidRange lo hi) (board : Int32) (b : β) :
    (scan board lo hi).run b =
      let found :=
        RawBus.discover b board (probes lo hi) (List.replicate (capacity lo hi) 0)
      let reported := (RawBus.registers found.1).count
      (.ok ⟨(found.2.take reported).map Address.ofWord, reported,
        decide (capacity lo hi < reported)⟩, found.1) := by
  unfold scan
  rw [if_neg (not_not_intro h)]
  rfl

theorem length_primaries : (primaries lo hi).length = hi.toNat + 1 - lo.toNat := by
  unfold primaries
  rw [List.length_map, List.length_range]

/-- A probe is an address of the range. -/
theorem mem_primaries {p : UInt8} :
    p.toUInt16 ∈ primaries lo hi ↔ lo ≤ p ∧ p ≤ hi := by
  have hp := p.toNat_lt
  have hhi := hi.toNat_lt
  rw [UInt8.le_iff_toNat_le, UInt8.le_iff_toNat_le]
  unfold primaries
  simp only [List.mem_map, List.mem_range, ← UInt16.toNat_inj, UInt16.toNat_ofNat',
    UInt8.toNat_toUInt16]
  constructor
  · rintro ⟨k, hk, heq⟩
    omega
  · rintro ⟨hlo, hle⟩
    exact ⟨p.toNat - lo.toNat, by omega, by omega⟩

theorem primaries_ascend : (primaries lo hi).Pairwise fun p q => p.toNat < q.toNat := by
  have hhi := hi.toNat_lt
  unfold primaries
  rw [List.pairwise_map]
  refine List.pairwise_lt_range.imp_of_mem fun {j k} hj hk hlt => ?_
  rw [List.mem_range] at hj hk
  simp only [UInt16.toNat_ofNat']
  omega

/-- None of them is the word that ends the probes. -/
theorem probed_probes : Simulated.probed (probes lo hi) = primaries lo hi := by
  have hhi := hi.toNat_lt
  have hall : ∀ p ∈ primaries lo hi, decide (p ≠ noAddress) = true := by
    intro p hp
    unfold primaries at hp
    obtain ⟨k, hk, rfl⟩ := List.mem_map.mp hp
    rw [List.mem_range] at hk
    rw [decide_eq_true_eq, ne_eq, ← UInt16.toNat_inj, UInt16.toNat_ofNat']
    show ¬ _ = 65535
    omega
  unfold Simulated.probed probes
  rw [List.takeWhile_append_of_pos hall, List.takeWhile_cons_of_neg (by decide), List.append_nil]

/-- The words in the front of a result buffer, as many as are reported. -/
theorem take_fillFront {α : Type} (buffer data : List α) :
    (fillFront buffer data).take data.length = data.take buffer.length := by
  unfold fillFront
  rcases Nat.le_total data.length buffer.length with h | h
  · rw [List.take_of_length_le h, List.take_left]
  · rw [List.drop_of_length_le h, List.append_nil, List.take_take, Nat.min_eq_right h]

end Scan

-- ============================================================== the bus

theorem Keyed.mem_keys {κ ν : Type} [DecidableEq κ] {l : List (κ × ν)} {key : κ} :
    key ∈ keys l ↔ (get? l key).isSome = true := by
  induction l with
  | nil => simp [keys]
  | cons p rest ih =>
      obtain ⟨k, v⟩ := p
      show key ∈ k :: keys rest ↔ _
      rw [List.mem_cons, ih]
      by_cases hk : k = key
      · simp [get?, hk]
      · simp [get?, hk, Ne.symm hk]

theorem Keyed.keys_set {κ ν : Type} [DecidableEq κ] (l : List (κ × ν)) (key : κ) (v : ν) :
    keys (set l key v) = if key ∈ keys l then keys l else keys l ++ [key] := by
  induction l with
  | nil => rfl
  | cons p rest ih =>
      obtain ⟨k, w⟩ := p
      by_cases hk : k = key
      · simp [keys, set, hk]
      · unfold keys at ih ⊢
        simp only [set, hk, if_false, List.map_cons, ih, List.mem_cons, Ne.symm hk, false_or]
        split <;> rfl

namespace Simulated

/-- A bus that does as it is told. -/
structure Plain (b : Simulated) : Prop where
  -- there is one instrument at an address at most
  distinct : (Keyed.keys b.instruments).Nodup
  -- discoveries report who is attached
  unscripted : b.discovery = none
  -- opens are granted
  opens : b.failOpen = false
  -- no fault is waiting
  calm : b.faults = []
  -- a descriptor handed out is no refusal
  numbered : 0 ≤ b.nextDescriptor

/-- The attached addresses of a range, in ascending order. -/
def within (b : Simulated) (lo hi : UInt8) : List Address :=
  b.attached.filter fun a => lo ≤ a.primary ∧ a.primary ≤ hi

theorem mem_attached {b : Simulated} {a : Address} :
    a ∈ b.attached ↔ (b.instrument? a).isSome = true := by
  unfold attached
  rw [(Address.sort_perm _).mem_iff]
  exact Keyed.mem_keys

theorem mem_within {b : Simulated} {lo hi : UInt8} {a : Address} :
    a ∈ b.within lo hi ↔ (b.instrument? a).isSome = true ∧ lo ≤ a.primary ∧ a.primary ≤ hi := by
  unfold within
  rw [List.mem_filter, mem_attached, decide_eq_true_eq]

/-- The bus after a session to an address was opened. -/
def opened (b : Simulated) (a : Address) : Simulated :=
  { b with
    links := Keyed.set b.links b.nextDescriptor ⟨a, true⟩
    nextDescriptor := b.nextDescriptor + 1
    registers := .completed 0 }

namespace Plain

variable {b : Simulated}

theorem empty : Plain .empty := ⟨List.nodup_nil, rfl, rfl, rfl, by decide⟩

/-- Instruments may be attached anywhere, any number of times. -/
theorem attach (h : b.Plain) (a : Address) (i : Instrument) : (b.attach a i).Plain where
  distinct := by
    show (Keyed.keys (Keyed.set b.instruments a i)).Nodup
    rw [Keyed.keys_set]
    split
    · exact h.distinct
    next hnew => exact (List.nodup_append_comm.mp (List.nodup_cons.mpr ⟨hnew, h.distinct⟩))
  unscripted := h.unscripted
  opens := h.opens
  calm := h.calm
  numbered := h.numbered

theorem attachAll (h : b.Plain) (all : List (Address × Instrument)) :
    (all.foldl (fun b p => b.attach p.1 p.2) b).Plain := by
  induction all generalizing b with
  | nil => exact h
  | cons p rest ih => exact ih (h.attach p.1 p.2)

theorem demonstrationBus : Plain Discovery.demonstrationBus := by
  have h := empty.attachAll (Discovery.demonstration.map fun p : Address × String =>
    (p.1, Instrument.silent.respond Discovery.identify p.2))
  rwa [List.foldl_map] at h

variable (h : b.Plain)
include h

theorem attached_ascends : b.attached.Pairwise Address.Before := Address.sort_ascends h.distinct

theorem within_ascends (lo hi : UInt8) : (b.within lo hi).Pairwise Address.Before :=
  h.attached_ascends.filter _

/-- The listeners, probe by probe, are those of the range in order. -/
theorem listeners_probes (lo hi : UInt8) :
    b.listeners (Scan.probes lo hi) = (b.within lo hi).map Address.word := by
  have hmerged : ((Scan.primaries lo hi).flatMap fun p =>
      b.attached.filter fun a => a.primary.toUInt16 == p) = b.within lo hi := by
    refine List.Pairwise.eq_of_mem_iff (r := Address.Before) ?_ (h.within_ascends lo hi) fun a => ?_
    · refine List.pairwise_flatMap.mpr ⟨fun p _ => h.attached_ascends.filter _, ?_⟩
      refine Scan.primaries_ascend.imp fun {p q} hlt a ha a' ha' => .inl ?_
      simp only [List.mem_filter, beq_iff_eq] at ha ha'
      rw [← ha.2, ← ha'.2] at hlt
      rwa [UInt8.lt_iff_toNat_lt]
    · simp only [List.mem_flatMap, List.mem_filter, beq_iff_eq, within, decide_eq_true_eq]
      constructor
      · rintro ⟨p, hp, ha, rfl⟩
        exact ⟨ha, Scan.mem_primaries.mp hp⟩
      · rintro ⟨ha, hr⟩
        exact ⟨_, Scan.mem_primaries.mpr hr, ha, rfl⟩
  unfold listeners
  rw [Scan.probed_probes, ← hmerged, List.map_flatMap]

/-- A scan reports the attached addresses of its range, as many as there is
room for. -/
theorem run_scan {lo hi : UInt8} (hr : Scan.ValidRange lo hi) (board : Int32) :
    (Scan.scan board lo hi).run b =
      (.ok ⟨(b.within lo hi).take (Scan.capacity lo hi), (b.within lo hi).length,
        decide (Scan.capacity lo hi < (b.within lo hi).length)⟩,
        b.complete (b.within lo hi).length) := by
  have hdiscover : RawBus.discover b board (Scan.probes lo hi)
      (List.replicate (Scan.capacity lo hi) 0) = (b.complete (b.within lo hi).length,
        fillFront (List.replicate (Scan.capacity lo hi) 0)
          ((b.within lo hi).map Address.word)) := by
    show b.discover _ _ = _
    unfold discover
    rw [h.unscripted, h.listeners_probes lo hi]
    simp only [List.length_map]
  have hwords := Scan.take_fillFront (List.replicate (Scan.capacity lo hi) 0)
    ((b.within lo hi).map Address.word)
  rw [List.length_map, List.length_replicate, ← List.map_take] at hwords
  rw [Scan.run_scan hr board b, hdiscover]
  show (Except.ok (ScanOutcome.mk (List.map _ (List.take (b.within lo hi).length _)) _ _), _) = _
  rw [hwords, Address.map_ofWord_word]
  rfl

/-- There is room for all addresses of a range that a device can have. -/
theorem length_within (hin : ∀ a ∈ b.attached, a.InRange) {lo hi : UInt8} :
    (b.within lo hi).length ≤ Scan.capacity lo hi := by
  let parts (a : Address) : Nat × Nat := (a.primary.toNat, a.secondary.toNat)
  let slots := List.range' lo.toNat (hi.toNat + 1 - lo.toNat) ×ˢ List.range 32
  have hnodup : ((b.within lo hi).map parts).Nodup := by
    refine (List.nodup_map_iff_inj_on (h.within_ascends lo hi).nodup).mpr fun a _ a' _ heq => ?_
    obtain ⟨hp, hs⟩ := Prod.mk.inj heq
    apply Address.rank_inj
    unfold Address.rank
    omega
  have hsub : (b.within lo hi).map parts ⊆ slots := by
    intro q hq
    obtain ⟨a, ha, rfl⟩ := List.mem_map.mp hq
    obtain ⟨hthere, hlo, hhi⟩ := mem_within.mp ha
    have hsecondary : a.secondary.toNat ≤ 31 :=
      UInt8.le_iff_toNat_le.mp (hin a (mem_attached.mpr hthere)).2
    rw [UInt8.le_iff_toNat_le] at hlo hhi
    refine List.mem_product.mpr ⟨List.mem_range'_1.mpr ?_, List.mem_range.mpr ?_⟩ <;> omega
  have hle := (List.subperm_of_subset hnodup hsub).length_le
  rw [List.length_map, List.length_product, List.length_range', List.length_range] at hle
  unfold Scan.capacity
  rwa [Scan.length_primaries]

end Plain

/-- A session to an address that a device can have is opened. -/
theorem run_connect {b : Simulated} (hopens : b.failOpen = false) (hn : 0 ≤ b.nextDescriptor)
    {a : Address} (ha : a.InRange) {o : SessionOptions} (ho : 0 ≤ o.board) :
    (Session.connect a o).run b =
      (.ok ⟨b.nextDescriptor, a, o.board, o.timeout, o.terminator, false⟩, b.opened a) := by
  have hgranted : ¬ ((b.failOpen = true) ∨ (Session.request a o).board < 0) := by
    rw [hopens]
    rintro (hf | hlt)
    · cases hf
    · exact absurd ho (Int32.not_le.mpr hlt)
  have hin : (Address.mk (Session.request a o).primary (Session.request a o).secondary).InRange :=
    ha
  have hopen : RawBus.openDevice b (Session.request a o) = (b.opened a, b.nextDescriptor) := by
    show b.openDevice _ = _
    unfold openDevice
    rw [if_neg hgranted, if_neg (not_not_intro hin)]
    rfl
  rw [Session.run_connect, hopen]
  exact if_neg (Int.not_lt.mpr hn)

/-- A command written to an instrument is received. -/
theorem run_write {b : Simulated} {s : Session} {a : Address} {i : Instrument}
    (hs : s.closed = false) (hr : b.access s.descriptor = .reached a i) {command : String}
    (hne : command ≠ "") :
    (s.write command).run b =
      (.ok (), (b.modifyInstrument a (·.receive (s.payload command))).complete
        (s.payload command).length) := by
  have hwrite : RawBus.write b s.descriptor (s.payload command) =
      (b.modifyInstrument a (·.receive (s.payload command))).complete (s.payload command).length :=
    congrArg Prod.fst ((calls_write (s.payload command)).reached hr)
  rw [Session.run_write, hs, if_neg Bool.false_ne_true, if_neg hne, hwrite]
  simp only [Session.verdict_ok _ _ (b := (b.modifyInstrument a _).complete _)
    (Registers.failing_completed _)]
  rfl

theorem writtenAt_of_instrument? {b : Simulated} {a : Address} {i : Instrument}
    (h : b.instrument? a = some i) : b.writtenAt a = i.written := by
  unfold instrument? at h
  unfold writtenAt
  rw [h]

/-- A scan of a bus that does as it is told, be there instruments anywhere on
it. What is reported is who is there, in order, and as many of them as there
is room for. Where the instruments are at addresses that a device can have,
that is all of them, and each can be reached: a session to it is opened, and
a command written goes to that instrument and to no other. -/
theorem scan_complete {b : Simulated} (h : b.Plain) {lo hi : UInt8} (hr : Scan.ValidRange lo hi)
    (board : Int32) :
    ∃ here outcome b', here.Pairwise Address.Before ∧
      (∀ a, a ∈ here ↔
        (b.instrument? a).isSome = true ∧ lo ≤ a.primary ∧ a.primary ≤ hi) ∧
      (Scan.scan board lo hi).run b = (.ok outcome, b') ∧
      outcome.addresses = here.take (32 * (hi.toNat - lo.toNat + 1)) ∧
      outcome.reported = here.length ∧
      (outcome.truncated = true ↔ outcome.addresses ≠ here) ∧
      ((∀ a, (b.instrument? a).isSome = true → a.InRange) →
        outcome.addresses = here ∧ outcome.truncated = false ∧
        ∀ a ∈ outcome.addresses, ∀ o : SessionOptions, 0 ≤ o.board → ∃ s b₁,
          (Session.connect a o).run b' = (.ok s, b₁) ∧ s.closed = false ∧ s.address = a ∧
          ∀ command, command ≠ "" → ∃ b₂, (s.write command).run b₁ = (.ok (), b₂) ∧
            b₂.writtenAt a = b.writtenAt a ++ [s.payload command] ∧
            ∀ a', a' ≠ a → b₂.instrument? a' = b.instrument? a') := by
  have hroom : Scan.capacity lo hi = 32 * (hi.toNat - lo.toNat + 1) := by
    have hle := UInt8.le_iff_toNat_le.mp hr.2.2
    unfold Scan.capacity Scan.resultsPerPrimary
    rw [Scan.length_primaries]
    omega
  refine ⟨b.within lo hi, _, _, h.within_ascends lo hi, fun a => mem_within,
    h.run_scan hr board, congrArg (List.take · _) hroom, rfl, ?_, fun hin => ?_⟩
  · have hcut : Scan.capacity lo hi < (b.within lo hi).length ↔
        (b.within lo hi).take (Scan.capacity lo hi) ≠ b.within lo hi := by
      rw [ne_eq, List.take_eq_self_iff, Nat.not_le]
    exact decide_eq_true_iff.trans hcut
  · have hall : (b.within lo hi).length ≤ _ :=
      h.length_within fun a ha => hin a (mem_attached.mp ha)
    refine ⟨List.take_of_length_le hall, decide_eq_false (Nat.not_lt.mpr hall),
      fun a ha o ho => ?_⟩
    have hthere := (mem_within.mp (List.mem_of_mem_take ha)).1
    obtain ⟨i, hi'⟩ := Option.isSome_iff_exists.mp hthere
    let b' := b.complete (b.within lo hi).length
    refine ⟨_, b'.opened a, run_connect (b := b') h.opens h.numbered (hin a hthere) ho, rfl, rfl,
      fun command hne => ?_⟩
    have hlink : (b'.opened a).link? b'.nextDescriptor = some ⟨a, true⟩ :=
      (Keyed.get?_set _ _ _ _).trans (if_pos rfl)
    have hreached : (b'.opened a).access b'.nextDescriptor = .reached a i :=
      reached_of h.calm hlink hi'
    refine ⟨_, run_write rfl hreached hne, ?_, fun a' hne' => ?_⟩
    · rw [writtenAt_of_instrument? hi', ← Instrument.written_receive]
      refine writtenAt_of_instrument? ((instrument?_modify (b'.opened a) a a _).trans ?_)
      rw [if_pos rfl]
      exact congrArg (Option.map _) hi'
    · exact (instrument?_modify (b'.opened a) a a' _).trans (if_neg (Ne.symm hne'))

theorem scan_complete_demonstration :
    Discovery.demonstrationBus.Plain ∧ Scan.ValidRange 6 30 ∧ ∃ b',
      (Scan.scan 0 6 30).run Discovery.demonstrationBus =
        (.ok ⟨[⟨12, 0⟩, ⟨12, 3⟩], 2, false⟩, b') := by
  have hrange : Scan.ValidRange 6 30 := by decide
  have hthere : ∀ a, (Discovery.demonstrationBus.instrument? a).isSome = true ↔
      a ∈ [⟨5, 0⟩, ⟨12, 0⟩, ⟨12, 3⟩] := fun a => Keyed.mem_keys.symm
  obtain ⟨here, ⟨addresses, reported, truncated⟩, b', horder, hmem, hrun, -, hreported, -, hall⟩ :=
    scan_complete .demonstrationBus hrange 0
  obtain ⟨haddresses, htruncated, -⟩ := hall fun a ha => by
    rcases List.mem_cons.mp ((hthere a).mp ha) with rfl | ha
    · decide
    · rcases List.mem_pair.mp ha with rfl | rfl <;> decide
  have hhere : here = [⟨12, 0⟩, ⟨12, 3⟩] := by
    refine List.Pairwise.eq_of_mem_iff (r := Address.Before) horder ?_ fun a => ?_
    · exact List.pairwise_pair.mpr (.inr ⟨rfl, by decide⟩)
    · rw [hmem a, hthere a, List.mem_cons]
      constructor
      · rintro ⟨rfl | ha, hlo, -⟩
        · exact absurd hlo (by decide)
        · exact ha
      · intro ha
        refine ⟨.inr ha, ?_⟩
        rcases List.mem_pair.mp ha with rfl | rfl <;> decide
  obtain rfl : addresses = here := haddresses
  obtain rfl : reported = addresses.length := hreported
  obtain rfl : truncated = false := htruncated
  subst hhere
  exact ⟨.demonstrationBus, hrange, b', hrun⟩

end Simulated

end InstrumentBus
