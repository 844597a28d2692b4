/-
Whole numbers as they are written, read again.

A number is written with its decimal digits and no more of them than it
needs, a negative one with a minus sign in front. So the text has nothing
but digits in it, at least one, the first of them no zero unless it is
alone; and the digits stand for the number. Every reader of numbers in
this library asks for some of this.
-/
import InstrumentBus.Numeral

namespace InstrumentBus.Numeral

theorem isDigit_eq (c : Char) : isDigit c = c.isDigit := by
  simp only [isDigit, Char.isDigit, Char.le_def, ge_iff_le]

/-- A digit is no other character. -/
theorem ne_of_isDigit {c d : Char} (hc : isDigit c = true) (hd : isDigit d = false) : c ≠ d := by
  rintro rfl
  rw [hc] at hd
  cases hd

-- ================================================== without a sign

theorem isDigit_of_mem_toDigits {n : Nat} {c : Char} (h : c ∈ Nat.toDigits 10 n) :
    isDigit c = true := by
  rw [isDigit_eq]
  exact Nat.isDigit_of_mem_toDigits (by decide) (by decide) h

theorem all_toDigits (n : Nat) : (Nat.toDigits 10 n).all isDigit = true :=
  List.all_eq_true.mpr fun _ => isDigit_of_mem_toDigits

/-- The first of the digits, and the others. -/
theorem toDigits_cons (n : Nat) :
    ∃ c rest, Nat.toDigits 10 n = c :: rest ∧ isDigit c = true := by
  cases h : Nat.toDigits 10 n with
  | nil => exact absurd h Nat.toDigits_ne_nil
  | cons c rest => exact ⟨c, rest, rfl, isDigit_of_mem_toDigits (h ▸ List.mem_cons_self)⟩

theorem value_toDigits (n : Nat) : value (Nat.toDigits 10 n) = n := by
  have hdigits : Nat.ofDigitChars 10 (Nat.toDigits 10 n) 0 = n :=
    Nat.ofDigitChars_toDigits (by decide) (by decide)
  rw [Nat.ofDigitChars_eq_foldl] at hdigits
  simp only [value, Nat.mul_comm _ 10]
  exact hdigits

theorem digits?_toDigits (n : Nat) : digits? (Nat.toDigits 10 n) = some n := by
  unfold digits?
  rw [if_pos ⟨Nat.toDigits_ne_nil, all_toDigits n⟩, value_toDigits]

/-- A number that is not zero does not start with one. -/
theorem head?_toDigits {n : Nat} (h : 0 < n) : (Nat.toDigits 10 n).head? ≠ some '0' := by
  induction n using Nat.strongRecOn with
  | ind n ih =>
      by_cases hlt : n < 10
      · rw [Nat.toDigits_of_lt_base hlt]
        have hdigits : ∀ m < 10, 0 < m → [m.digitChar].head? ≠ some '0' := by decide
        exact hdigits n hlt h
      · have hfront := ih (n / 10) (by omega) (by omega)
        obtain ⟨c, rest, hcons, -⟩ := toDigits_cons (n / 10)
        rw [Nat.toDigits_of_base_le (by decide) (Nat.not_lt.mp hlt), hcons]
        rw [hcons] at hfront
        exact hfront

/-- No leading zero, unless the number is zero. -/
theorem length_or_head?_toDigits (n : Nat) :
    (Nat.toDigits 10 n).length = 1 ∨ (Nat.toDigits 10 n).head? ≠ some '0' := by
  rcases Nat.eq_zero_or_pos n with rfl | h
  · exact .inl (by decide)
  · exact .inr (head?_toDigits h)

-- ===================================================== with a sign

/-- A whole number as it is written. -/
theorem toList_toString (n : Int) :
    (0 ≤ n ∧ (toString n).toList = Nat.toDigits 10 n.toNat) ∨
      (n < 0 ∧ (toString n).toList = '-' :: Nat.toDigits 10 (-n).toNat) := by
  rw [Int.toString_eq_repr, Int.repr_eq_if]
  by_cases h : 0 ≤ n
  · rw [if_pos h, Nat.toList_repr]
    exact .inl ⟨h, rfl⟩
  · rw [if_neg h, String.toList_append, Nat.toList_repr]
    exact .inr ⟨Int.not_le.mp h, rfl⟩

theorem numeric_of_mem_toString {n : Int} {c : Char} (h : c ∈ (toString n).toList) :
    isDigit c = true ∨ c = '-' := by
  rcases toList_toString n with ⟨-, hlist⟩ | ⟨-, hlist⟩ <;> rw [hlist] at h
  · exact .inl (isDigit_of_mem_toDigits h)
  · exact (List.mem_cons.mp h).symm.imp_left isDigit_of_mem_toDigits

theorem parse?_toDigits (signed : Bool) (n : Nat) :
    parse? signed (Nat.toDigits 10 n) = some (n : Int) := by
  obtain ⟨c, rest, hcons, hc⟩ := toDigits_cons n
  have hdigits := digits?_toDigits n
  rw [hcons] at hdigits ⊢
  unfold parse?
  split
  next heq => exact absurd (List.cons.inj heq).1 (ne_of_isDigit hc (by decide))
  next heq => exact absurd (List.cons.inj heq).1 (ne_of_isDigit hc (by decide))
  next => rw [hdigits]; rfl

theorem parse?_neg_toDigits (n : Nat) :
    parse? true ('-' :: Nat.toDigits 10 n) = some (-(n : Int)) := by
  show (if true = true then (digits? (Nat.toDigits 10 n)).map fun n => -(n : Int) else none) = _
  rw [if_pos rfl, digits?_toDigits]
  rfl

end InstrumentBus.Numeral
