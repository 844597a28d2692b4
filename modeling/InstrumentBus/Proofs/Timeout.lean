/-
The ladder of timeouts, climbed from below.

A higher rung is a longer one (`micros_lt`), so the rungs that are long
enough for a request are those from some rung upwards. A search that
starts at the bottom therefore stops at the lowest of them, and the rung
it stops at is up to any other rung just when that one is long enough too
(`index_ofDuration_le`). This is all there is to say of the search as long
as some rung is long enough: that it never gives less than was asked for,
that the rung below would have been too short, and that longer requests
are never given lower rungs all follow from it.

The lowest rung has no length. It is not long enough for anything, so the
search passes it by.
-/
import InstrumentBus.Timeout

namespace InstrumentBus.Timeout

variable {d d' own own' : Duration} {l l' : Timeout}

-- ============================================================ the rungs

theorem mem_all (l : Timeout) : l ∈ all := by cases l <;> decide

/-- The number of a rung is its place among all of them. -/
theorem index_getElem : ∀ (i : Nat) (_ : i < all.length), all[i].index = i := by decide

theorem index_inj (h : l.index = l'.index) : l = l' := by
  obtain ⟨i, hi, rfl⟩ := List.getElem_of_mem (mem_all l)
  obtain ⟨j, hj, rfl⟩ := List.getElem_of_mem (mem_all l')
  rw [index_getElem i hi, index_getElem j hj] at h
  subst h
  rfl

/-- A higher rung is a longer one. -/
theorem micros_lt {m m' : Nat} (hlt : l.index < l'.index) (h : l.micros? = some m)
    (h' : l'.micros? = some m') : m < m' := by
  have hall : ∀ l ∈ all, ∀ l' ∈ all, l.index < l'.index →
      ∀ m ∈ l.micros?, ∀ m' ∈ l'.micros?, m < m' := by decide +kernel
  exact hall l (mem_all l) l' (mem_all l') hlt m h m' h'

theorem exists_duration (h : l ≠ .disabled) : ∃ own, l.duration? = some own := by
  cases l with
  | disabled => exact absurd rfl h
  | _ => exact ⟨_, rfl⟩

theorem nanos_lt (hlt : l.index < l'.index) (h : l.duration? = some own)
    (h' : l'.duration? = some own') : own.nanos < own'.nanos := by
  obtain ⟨m, hm, rfl⟩ := Option.map_eq_some_iff.mp h
  obtain ⟨m', hm', rfl⟩ := Option.map_eq_some_iff.mp h'
  exact Nat.mul_lt_mul_of_pos_right (micros_lt hlt hm hm') (by decide)

/-- The highest rung lasts a hundred seconds. -/
def longest : Duration := .ofSecs 100

theorem duration_s100 : duration? .s100 = some longest := rfl

theorem index_le_s100 (l : Timeout) : l.index ≤ index .s100 := by
  have hall : ∀ l ∈ all, l.index ≤ index .s100 := by decide
  exact hall l (mem_all l)

/-- No rung is longer than the highest. -/
theorem nanos_le_longest (h : l.duration? = some own) : own.nanos ≤ longest.nanos := by
  rcases Nat.eq_or_lt_of_le (index_le_s100 l) with heq | hlt
  · obtain rfl := index_inj heq
    cases h
    exact Nat.le_refl _
  · exact Nat.le_of_lt (nanos_lt hlt h duration_s100)

-- =========================================================== the search

theorem covers_iff (h : l.duration? = some own) : covers d l = true ↔ d.nanos ≤ own.nanos := by
  unfold covers
  rw [h]
  exact decide_eq_true_iff

theorem ne_disabled_of_covers (h : covers d l = true) : l ≠ .disabled := by
  rintro rfl
  cases h

/-- What is long enough on one rung is so on every higher one. -/
theorem covers_of_le (hle : l.index ≤ l'.index) (h : covers d l = true) :
    covers d l' = true := by
  rcases Nat.eq_or_lt_of_le hle with heq | hlt
  · rwa [← index_inj heq]
  · obtain ⟨own, hown⟩ := exists_duration (ne_disabled_of_covers h)
    have hne : l' ≠ .disabled := by
      rintro rfl
      cases hlt
    obtain ⟨own', hown'⟩ := exists_duration hne
    rw [covers_iff hown] at h
    rw [covers_iff hown']
    exact Nat.le_trans h (Nat.le_of_lt (nanos_lt hlt hown hown'))

/-- Where the highest rung is long enough, the search stops at a rung that
is, and none below it is. -/
theorem find_spec (h : d.nanos ≤ longest.nanos) :
    covers d (ofDuration d) = true ∧
      ∀ l, l.index < (ofDuration d).index → covers d l = false := by
  cases hf : all.find? (covers d) with
  | none =>
      have hno := List.find?_eq_none.mp hf .s100 (mem_all _)
      exact absurd ((covers_iff duration_s100).mpr h) hno
  | some t =>
      have ht : ofDuration d = t := by
        unfold ofDuration
        rw [hf]
        rfl
      obtain ⟨hcovers, i, hi, rfl, hbelow⟩ := List.find?_eq_some_iff_getElem.mp hf
      refine ⟨ht ▸ hcovers, fun l hl => ?_⟩
      obtain ⟨j, hj, rfl⟩ := List.getElem_of_mem (mem_all l)
      rw [ht, index_getElem i hi, index_getElem j hj] at hl
      exact (Bool.not_eq_true' _).mp (hbelow j hl)

/-- Where it is not, no rung is. -/
theorem ofDuration_of_longest_lt (h : longest.nanos < d.nanos) : ofDuration d = .s100 := by
  have hnone : all.find? (covers d) = none := by
    refine List.find?_eq_none.mpr fun l _ hc => ?_
    obtain ⟨own, hown⟩ := exists_duration (ne_disabled_of_covers hc)
    have hle := (covers_iff hown).mp hc
    exact absurd (Nat.le_trans hle (nanos_le_longest hown)) (Nat.not_le.mpr h)
  unfold ofDuration
  rw [hnone]
  rfl

theorem ofDuration_ne_disabled (d : Duration) : ofDuration d ≠ .disabled := by
  rcases Nat.lt_or_ge longest.nanos d.nanos with hlt | hge
  · rw [ofDuration_of_longest_lt hlt]
    exact Timeout.noConfusion
  · exact ne_disabled_of_covers (find_spec hge).1

/-- The rung for a request is up to another one just when that one is long
enough. -/
theorem index_ofDuration_le (h : d.nanos ≤ longest.nanos) (hl : l.duration? = some own) :
    (ofDuration d).index ≤ l.index ↔ d.nanos ≤ own.nanos := by
  obtain ⟨hcovers, hbelow⟩ := find_spec h
  rw [← covers_iff hl]
  refine ⟨fun hle => covers_of_le hle hcovers, fun hc => Nat.le_of_not_lt fun hlt => ?_⟩
  rw [hbelow l hlt] at hc
  cases hc

/-- A rung lower than the one for a request is shorter than the request. -/
theorem nanos_lt_of_index_lt (hl : l.duration? = some own)
    (hlt : l.index < (ofDuration d).index) : own.nanos < d.nanos := by
  rcases Nat.lt_or_ge longest.nanos d.nanos with hlong | hge
  · exact Nat.lt_of_le_of_lt (nanos_le_longest hl) hlong
  · exact Nat.lt_of_not_le fun hle =>
      Nat.not_le.mpr hlt ((index_ofDuration_le hge hl).mpr hle)

theorem index_ofDuration_mono (h : d.nanos ≤ d'.nanos) :
    (ofDuration d).index ≤ (ofDuration d').index := by
  rcases Nat.lt_or_ge longest.nanos d'.nanos with hlong | hge
  · rw [ofDuration_of_longest_lt hlong]
    exact index_le_s100 _
  · obtain ⟨own, hown⟩ := exists_duration (ofDuration_ne_disabled d')
    have henough := (index_ofDuration_le hge hown).mp (Nat.le_refl _)
    exact (index_ofDuration_le (Nat.le_trans h hge) hown).mpr (Nat.le_trans h henough)

/-- The length of a rung is given that rung. -/
theorem ofDuration_own (hl : l.duration? = some own) : ofDuration own = l := by
  refine index_inj (Nat.le_antisymm ?_ (Nat.le_of_not_lt fun hlt => ?_))
  · exact (index_ofDuration_le (nanos_le_longest hl) hl).mpr (Nat.le_refl _)
  · obtain ⟨own', hown'⟩ := exists_duration (ofDuration_ne_disabled own)
    have hle := (index_ofDuration_le (nanos_le_longest hl) hown').mp (Nat.le_refl _)
    exact absurd (nanos_lt hlt hown' hl) (Nat.not_lt.mpr hle)

/-- The rung for a length of time. Up to a hundred seconds it is up to any
other rung just when that one is long enough, and beyond them it is the
highest. So within range it is never shorter than what was asked for, every
rung below it would have been, a longer request is never given a lower rung,
and the length of a rung is given that rung. -/
theorem ofDuration_rounds_up (d : Duration) :
    ofDuration d ≠ .disabled ∧
      (100 * Duration.perSecond < d.nanos → ofDuration d = .s100) ∧
      (∀ l, l ≠ .disabled → ∃ own, l.duration? = some own ∧ ofDuration own = l ∧
        (d.nanos ≤ 100 * Duration.perSecond →
          ((ofDuration d).index ≤ l.index ↔ d.nanos ≤ own.nanos)) ∧
        (l.index < (ofDuration d).index → own.nanos < d.nanos)) ∧
      (d.nanos ≤ 100 * Duration.perSecond →
        ∃ own, (ofDuration d).duration? = some own ∧ d.nanos ≤ own.nanos) ∧
      ∀ d' : Duration, d.nanos ≤ d'.nanos → (ofDuration d).index ≤ (ofDuration d').index := by
  refine ⟨ofDuration_ne_disabled d, fun h => ofDuration_of_longest_lt h, fun l hl => ?_,
    fun h => ?_, fun d' h => index_ofDuration_mono h⟩
  · obtain ⟨own, hown⟩ := exists_duration hl
    exact ⟨own, hown, ofDuration_own hown, fun h => index_ofDuration_le h hown,
      nanos_lt_of_index_lt hown⟩
  · obtain ⟨own, hown⟩ := exists_duration (ofDuration_ne_disabled d)
    exact ⟨own, hown, (index_ofDuration_le h hown).mp (Nat.le_refl _)⟩

/-- One nanosecond more than a rung has is given the next, and the longest
time that can be asked for is given the highest. -/
theorem ofDuration_rounds_up_barely :
    10001 ≤ 100 * Duration.perSecond ∧ ofDuration ⟨10001⟩ = .us30 ∧
      100 * Duration.perSecond < Duration.max.nanos ∧ ofDuration .max = .s100 := by
  have hin : 10001 ≤ 100 * Duration.perSecond := by decide
  have hmax : 100 * Duration.perSecond < Duration.max.nanos := by decide
  obtain ⟨-, -, hrungs, -⟩ := ofDuration_rounds_up ⟨10001⟩
  obtain ⟨_, ⟨⟩, -, hle, -⟩ := hrungs .us10 (by decide)
  obtain ⟨_, ⟨⟩, -, hle', -⟩ := hrungs .us30 (by decide)
  have habove : index .us10 < (ofDuration ⟨10001⟩).index :=
    Nat.lt_of_not_le fun h => absurd ((hle hin).mp h) (by decide)
  have hup : (ofDuration ⟨10001⟩).index ≤ index .us30 := (hle' hin).mpr (by decide)
  exact ⟨hin, index_inj (Nat.le_antisymm hup habove), hmax, (ofDuration_rounds_up .max).2.1 hmax⟩

end InstrumentBus.Timeout
