/-
What dropping letter case does to a character, told by its number.

Only the letters of ASCII have a case here. A small letter is 32 above its
capital, and no other character is changed. The words for a truth value
and the names of variables are compared with their letters in one case, and
all that is asked about the comparison is a question of numbers then.
-/
namespace InstrumentBus.Text

variable {c : Char}

theorem isLower_iff : c.isLower = true ↔ 97 ≤ c.toNat ∧ c.toNat ≤ 122 := by
  unfold Char.isLower
  rw [Bool.and_eq_true, decide_eq_true_eq, decide_eq_true_eq]
  exact Iff.rfl

theorem isUpper_iff : c.isUpper = true ↔ 65 ≤ c.toNat ∧ c.toNat ≤ 90 := by
  unfold Char.isUpper
  rw [decide_eq_true_eq]
  exact Iff.rfl

theorem toNat_toUpper (c : Char) :
    c.toUpper.toNat = if 97 ≤ c.toNat ∧ c.toNat ≤ 122 then c.toNat - 32 else c.toNat := by
  have hsmall : 'a'.val ≤ c.val ∧ c.val ≤ 'z'.val ↔ 97 ≤ c.toNat ∧ c.toNat ≤ 122 := Iff.rfl
  unfold Char.toUpper
  simp only [← hsmall]
  split
  next h =>
    -- what is added is the difference of the letters, which is below zero
    -- and wraps around
    obtain ⟨hlow, hhigh⟩ := hsmall.mp h
    have hadd : (c.val + ('A'.val - 'a'.val)).toNat = (c.toNat + 4294967264) % 4294967296 :=
      UInt32.toNat_add _ _
    exact hadd.trans (by omega)
  next => rfl

theorem toNat_toLower (c : Char) :
    c.toLower.toNat = if 65 ≤ c.toNat ∧ c.toNat ≤ 90 then c.toNat + 32 else c.toNat := by
  have hcapital : c.val ≥ 'A'.val ∧ c.val ≤ 'Z'.val ↔ 65 ≤ c.toNat ∧ c.toNat ≤ 90 := Iff.rfl
  unfold Char.toLower
  simp only [← hcapital]
  split
  next h =>
    obtain ⟨hlow, hhigh⟩ := hcapital.mp h
    have hadd : (c.val + ('a'.val - 'A'.val)).toNat = (c.toNat + 32) % 4294967296 :=
      UInt32.toNat_add _ _
    exact hadd.trans (by omega)
  next => rfl

theorem toUpper_of_not_small (h : ¬ (97 ≤ c.toNat ∧ c.toNat ≤ 122)) : c.toUpper = c := by
  rw [← Char.toNat_inj, toNat_toUpper, if_neg h]

/-- A small letter and its capital are the same in lower case. -/
theorem toLower_toUpper (c : Char) : c.toUpper.toLower = c.toLower := by
  rw [← Char.toNat_inj, toNat_toLower, toNat_toLower, toNat_toUpper]
  grind

end InstrumentBus.Text
