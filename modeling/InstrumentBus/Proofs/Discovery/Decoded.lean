/-
What a scan makes of whatever a driver puts into its buffer.

A driver is trusted with two things in a discovery: it stores words in the
buffer it is handed, and it reports how many listeners it found. Neither
need make sense. It may store more words than there is room for, of which
the buffer keeps the front, or fewer, and then the rest of the buffer is
zeros as it was before; and what it reports need not have anything to do
with what it stored. A scan takes from the buffer as many words as are
reported, or all there are, and says so where that is not the same.

Every list of words goes with every number: there is a driver that stores
the one and reports the other (`exists_driver`).
-/
import InstrumentBus.Proofs.Config.Consumers
import InstrumentBus.Proofs.Discovery.Scan
import InstrumentBus.Proofs.Session.Lifetime

namespace InstrumentBus.Scan

variable {lo hi : UInt8}

-- =========================================================== the request

theorem validRange_iff : ValidRange lo hi ↔ 1 ≤ lo ∧ lo ≤ hi ∧ hi ≤ 30 := by
  constructor
  · rintro ⟨⟨hlo, -⟩, ⟨-, hhi⟩, hle⟩
    exact ⟨hlo, hle, hhi⟩
  · rintro ⟨hlo, hle, hhi⟩
    exact ⟨⟨hlo, UInt8.le_trans hle hhi⟩, ⟨UInt8.le_trans hlo hle, hhi⟩, hle⟩

/-- How many addresses are in a range. -/
def width (lo hi : UInt8) : Nat := hi.toNat - lo.toNat + 1

theorem length_primaries_of_valid (h : ValidRange lo hi) :
    (primaries lo hi).length = width lo hi := by
  have hle := UInt8.le_iff_toNat_le.mp h.2.2
  rw [length_primaries]
  unfold width
  omega

theorem probes_eq (h : ValidRange lo hi) :
    probes lo hi = (List.range' lo.toNat (width lo hi)).map UInt16.ofNat ++ [0xFFFF] := by
  have hle := UInt8.le_iff_toNat_le.mp h.2.2
  have hwidth : hi.toNat + 1 - lo.toNat = width lo hi := by
    unfold width
    omega
  unfold probes primaries
  rw [List.range'_eq_map_range, List.map_map, hwidth]
  rfl

theorem capacity_eq (h : ValidRange lo hi) : capacity lo hi = 32 * width lo hi := by
  unfold capacity
  rw [length_primaries_of_valid h, Nat.mul_comm]
  rfl

-- ============================================================ the answer

/-- A word stands for an address: the low byte is the primary one, the high
byte the secondary one. -/
def StandsFor (w : UInt16) (a : Address) : Prop :=
  a.primary.toNat = w.toNat % 256 ∧ a.secondary.toNat = w.toNat / 256

theorem standsFor_iff {w : UInt16} {a : Address} : StandsFor w a ↔ a = .ofWord w := by
  have hw := w.toNat_lt
  have hp := a.primary.toNat_lt
  have hs := a.secondary.toNat_lt
  rw [← Address.word_eq_iff, ← UInt16.toNat_inj, Address.word, UInt16.toNat_ofNat']
  unfold StandsFor
  omega

/-- What is at a place of a buffer of zeros after words were stored in it. -/
theorem getElem?_fillFront {room k : Nat} (stored : List UInt16) (hk : k < room) :
    (fillFront (List.replicate room 0) stored)[k]? = some (stored[k]?.getD 0) := by
  unfold fillFront
  rw [List.length_replicate, List.drop_replicate]
  rcases Nat.lt_or_ge k stored.length with hlt | hge
  · rw [List.getElem?_append_left (by rw [List.length_take]; omega),
      List.getElem?_take_of_lt hk, List.getElem?_eq_getElem hlt]
    rfl
  · have hfront : (stored.take room).length = stored.length := by
      rw [List.length_take]
      omega
    rw [List.getElem?_append_right (by omega), hfront, List.getElem?_replicate,
      if_pos (by omega), List.getElem?_eq_none hge]
    rfl

/-- A driver that stores given words and reports a given number. -/
theorem exists_driver (stored : List UInt16) (count : Nat) :
    ∃ b : Recorded Scripted, ∀ board probes buffer,
      (RawBus.discover b board probes buffer).2 = fillFront buffer stored ∧
        (RawBus.registers (RawBus.discover b board probes buffer).1).count = count :=
  ⟨.fresh (.ofReplies [{ ScriptedReply.standard with
      registers := .completed count, words := stored }]), fun _ _ _ => ⟨rfl, rfl⟩⟩

variable {β : Type} [RawBus β]

theorem run_discover (board : Int32) {b b' : β} {outcome : ScanOutcome}
    (h : (scan board lo hi).run b = (.ok outcome, b')) :
    (discover board lo hi).run b = (.ok outcome.addresses, b') := by
  unfold discover
  rw [Exchange.run_map, h]
  rfl

theorem run_discover_refused (h : ¬ ValidRange lo hi) (board : Int32) (b : β) :
    (discover board lo hi).run b = (.error (.invalidRange lo hi), b) := by
  unfold discover
  rw [Exchange.run_map, run_scan_refused h]
  rfl

/-- A scan, whatever its driver stores and whatever it reports. It makes one
call, with room for 32 words to an address of its range. The number reported
is passed on, and said to be too large just when it is more than there is
room for. The addresses are those that the words in front of the buffer stand
for, one for one, as many as are reported or as there are; a word that was
not stored is zero. A range that makes no sense is refused without a call.
And any words go with any number. -/
theorem scan_decodes_buffer (board : Int32) (lo hi : UInt8) (b : Recorded β) :
    (1 ≤ lo ∧ lo ≤ hi ∧ hi ≤ 30 →
      let n := hi.toNat - lo.toNat + 1
      let asked := (List.range' lo.toNat n).map UInt16.ofNat ++ [0xFFFF]
      ∃ words b' outcome,
        RawBus.discover b board asked (List.replicate (32 * n) 0) = (b', words) ∧
        words.length = 32 * n ∧
        b'.calls = b.calls ++ [.discover board asked (32 * n)] ∧
        (scan board lo hi).run b = (.ok outcome, b') ∧
        (discover board lo hi).run b = (.ok outcome.addresses, b') ∧
        outcome.reported = (RawBus.registers b').count ∧
        (outcome.truncated = true ↔ 32 * n < outcome.reported) ∧
        outcome.addresses.length = min outcome.reported (32 * n) ∧
        List.Forall₂ StandsFor (words.take outcome.addresses.length) outcome.addresses ∧
        ∀ stored : List UInt16, words = fillFront (List.replicate (32 * n) 0) stored →
          ∀ k < outcome.addresses.length, words[k]? = some (stored[k]?.getD 0)) ∧
    (¬ (1 ≤ lo ∧ lo ≤ hi ∧ hi ≤ 30) →
      (scan board lo hi).run b = (.error (.invalidRange lo hi), b) ∧
        (discover board lo hi).run b = (.error (.invalidRange lo hi), b)) ∧
    ∀ (stored : List UInt16) (count : Nat), ∃ b : Recorded Scripted, ∀ board probes buffer,
      (RawBus.discover b board probes buffer).2 = fillFront buffer stored ∧
        (RawBus.registers (RawBus.discover b board probes buffer).1).count = count := by
  rw [← validRange_iff]
  refine ⟨fun h => ?_, fun h => ⟨run_scan_refused h board b, run_discover_refused h board b⟩,
    exists_driver⟩
  intro n asked
  have hasked : probes lo hi = asked := probes_eq h
  have hroom : capacity lo hi = 32 * n := capacity_eq h
  have hrun := run_scan h board b
  rw [hasked, hroom] at hrun
  have hlength := RawBus.length_discover b board asked (List.replicate (32 * n) 0)
  have hcalls : (RawBus.discover b board asked (List.replicate (32 * n) 0)).1.calls =
      b.calls ++ [.discover board asked (List.replicate (32 * n) (0 : UInt16)).length] :=
    b.calls_note _ _ none
  rw [List.length_replicate] at hlength hcalls
  rcases hd : RawBus.discover b board asked (List.replicate (32 * n) 0) with ⟨b', words⟩
  rw [hd] at hrun hlength hcalls
  have hcount : ((words.take (RawBus.registers b').count).map Address.ofWord).length =
      min (RawBus.registers b').count (32 * n) := by
    rw [List.length_map, List.length_take, hlength]
  refine ⟨words, b', _, rfl, hlength, hcalls, hrun, run_discover board hrun, rfl,
    decide_eq_true_iff, hcount, ?_, fun stored hstored k hk => ?_⟩
  · rw [hcount, ← hlength, ← List.take_eq_take_min]
    exact List.forall₂_map_right_iff.mpr (List.forall₂_same.mpr fun w _ => standsFor_iff.mpr rfl)
  · rw [hcount] at hk
    rw [hstored]
    exact getElem?_fillFront stored (Nat.lt_of_lt_of_le hk (Nat.min_le_right _ _))

/-- A driver that stores one word, and reports as many as it can. -/
def overstating : Recorded Scripted :=
  .fresh (.ofReplies [{ ScriptedReply.standard with
    registers := .completed (2 ^ 64 - 1), words := [0x0205] }])

theorem scan_decodes_buffer_overstated :
    (1 ≤ (30 : UInt8) ∧ (30 : UInt8) ≤ 30) ∧
      (∃ outcome b', (scan 0 30 30).run overstating = (.ok outcome, b') ∧
        b'.calls = [.discover 0 [30, 0xFFFF] 32] ∧ outcome.reported = 2 ^ 64 - 1 ∧
        outcome.truncated = true ∧ outcome.addresses.length = 32 ∧
        outcome.addresses.take 2 = [⟨5, 2⟩, ⟨0, 0⟩]) ∧
      (scan 0 30 31).run overstating = (.error (.invalidRange 30 31), overstating) := by
  have hvalid : 1 ≤ (30 : UInt8) ∧ (30 : UInt8) ≤ 30 ∧ (30 : UInt8) ≤ 30 := by decide
  obtain ⟨words, b', ⟨addresses, reported, truncated⟩, hd, -, hcalls, hrun, -, hreported,
    htruncated, hlength, hwords, -⟩ := (scan_decodes_buffer 0 30 30 overstating).1 hvalid
  obtain ⟨rfl, rfl⟩ := Prod.mk.inj hd
  obtain rfl : reported = 2 ^ 64 - 1 := hreported
  have hlength : addresses.length = 32 := hlength
  have hwords : List.Forall₂ StandsFor (0x0205 :: 0 :: List.replicate 30 0) addresses := by
    rw [hlength] at hwords
    exact hwords
  obtain ⟨a, tail, ha, htail, rfl⟩ := List.forall₂_cons_left_iff.mp hwords
  obtain ⟨a', rest, ha', -, rfl⟩ := List.forall₂_cons_left_iff.mp htail
  obtain rfl := standsFor_iff.mp ha
  obtain rfl := standsFor_iff.mp ha'
  have hmore : 32 < 2 ^ 64 - 1 := by decide
  exact ⟨⟨hvalid.1, hvalid.2.1⟩,
    ⟨_, _, hrun, hcalls, rfl, htruncated.mpr hmore, hlength, rfl⟩,
    ((scan_decodes_buffer 0 30 31 overstating).2.1 (by decide)).1⟩

end InstrumentBus.Scan
