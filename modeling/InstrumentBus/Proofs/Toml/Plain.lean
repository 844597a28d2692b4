/-
Whole numbers and truth values of a document, read as they are written.

A value without quotes is cut out of its line before it is known what it
is, and ends where a character comes that no such value has; a line feed
is one. What has been cut out is a whole number if it is written as this
library writes one: its digits are not grouped, and it has no leading
zero, which the format does not allow.
-/
import InstrumentBus.Proofs.Numeral
import InstrumentBus.Toml.Plain
import Mathlib.Logic.Basic

namespace InstrumentBus.Toml.Plain

/-- Digits that nothing groups. -/
theorem grouped?_eq_self {isDigit : Char → Bool} (hscore : isDigit '_' = false) :
    ∀ {ds : List Char}, ds ≠ [] → (∀ c ∈ ds, isDigit c = true) → grouped? isDigit ds = some ds
  | [], hne, _ => absurd rfl hne
  | [c], _, h => by rw [grouped?, if_pos (h c List.mem_cons_self)]
  | c :: d :: rest, _, h => by
      obtain ⟨hc, hrest⟩ := List.forall_mem_cons.mp h
      have hd : d ≠ '_' := by
        rintro rfl
        exact absurd (hrest _ List.mem_cons_self) (by rw [hscore]; decide)
      rw [grouped?, if_pos hc, grouped?_eq_self hscore (List.cons_ne_nil d rest) hrest]
      · rfl
      · exact nofun
      · exact fun _ heq => hd (List.cons.inj heq).1

theorem unsigned?_toDigits (n : Nat) :
    unsigned? (Nat.toDigits 10 n) = some (Nat.toDigits 10 n) := by
  unfold unsigned?
  rw [grouped?_eq_self (by decide) Nat.toDigits_ne_nil fun c => Numeral.isDigit_of_mem_toDigits]
  simp [Option.filter, Numeral.length_or_head?_toDigits n]

/-- A whole number that 64 bits hold. -/
theorem integer?_toString {n : Int} (h : IntKind.i64.holds n = true) :
    integer? (toString n).toList = some n := by
  rcases Numeral.toList_toString n with ⟨hn, hlist⟩ | ⟨hn, hlist⟩
  · have foreign {c : Char} (hc : Numeral.isDigit c = false) {l : List Char}
        (heq : Nat.toDigits 10 n.toNat = l) : c ∉ l := fun hmem =>
      Numeral.ne_of_isDigit (Numeral.isDigit_of_mem_toDigits (heq ▸ hmem)) hc rfl
    have hvalue : ((unsigned? (Nat.toDigits 10 n.toNat)).map fun ds => (Numeral.value ds : Int)) =
        some n := by
      rw [unsigned?_toDigits, Option.map_some, Numeral.value_toDigits, Int.toNat_of_nonneg hn]
    rw [hlist]
    simp only [integer?]
    split
    next heq => exact absurd (List.mem_cons_of_mem _ List.mem_cons_self) (foreign (by decide) heq)
    next heq => exact absurd (List.mem_cons_of_mem _ List.mem_cons_self) (foreign (by decide) heq)
    next heq => exact absurd (List.mem_cons_of_mem _ List.mem_cons_self) (foreign (by decide) heq)
    next heq => exact absurd List.mem_cons_self (foreign (by decide) heq)
    next heq => exact absurd List.mem_cons_self (foreign (by decide) heq)
    next =>
      rw [hvalue]
      simp [Option.filter, h]
  · have hvalue : ((unsigned? (Nat.toDigits 10 (-n).toNat)).map fun ds =>
        -(Numeral.value ds : Int)) = some n := by
      rw [unsigned?_toDigits, Option.map_some, Numeral.value_toDigits,
        Int.toNat_of_nonneg (by omega), Int.neg_neg]
    rw [hlist]
    show Option.filter _ ((unsigned? (Nat.toDigits 10 (-n).toNat)).map fun ds =>
      -(Numeral.value ds : Int)) = some n
    rw [hvalue]
    simp [Option.filter, h]

theorem ofToken?_toString {n : Int} (h : IntKind.i64.holds n = true) :
    ofToken? (toString n).toList = some (.integer n) := by
  have hword {w : String} (hw : 't' ∈ w.toList ∨ 'f' ∈ w.toList) :
      String.ofList (toString n).toList ≠ w := by
    rintro rfl
    rw [String.toList_ofList] at hw
    rcases hw with hw | hw <;> rcases Numeral.numeric_of_mem_toString hw with hc | hc <;>
      exact absurd hc (by decide)
  unfold ofToken?
  rw [if_neg (hword (by decide)), if_neg (hword (by decide)), integer?_toString h]

/-- A run of characters that ends with its line. -/
theorem read_token {s : List Char} {v : Value} (htoken : ∀ c ∈ s, isToken c = true)
    (h : ofToken? s = some v) (rest : List Char) :
    read (s ++ '\n' :: rest) = some (v, '\n' :: rest) := by
  have htake : (s ++ '\n' :: rest).takeWhile isToken = s := by
    rw [List.takeWhile_append_of_pos htoken]
    simp [show isToken '\n' = false by decide]
  have hdrop : (s ++ '\n' :: rest).dropWhile isToken = '\n' :: rest := by
    rw [List.dropWhile_append_of_pos htoken]
    simp [show isToken '\n' = false by decide]
  unfold read
  simp only [htake, hdrop, h, Option.map_some]
  rfl

theorem isToken_of_numeric {c : Char} (h : Numeral.isDigit c = true ∨ c = '-') :
    isToken c = true := by
  rcases h with h | rfl
  · rw [Numeral.isDigit_eq] at h
    simp [isToken, Char.isAlphanum, h]
  · decide

/-- A whole number at the end of its line. -/
theorem read_toString {n : Int} (h : IntKind.i64.holds n = true) (rest : List Char) :
    read ((toString n).toList ++ '\n' :: rest) = some (.integer n, '\n' :: rest) :=
  read_token (fun _ hc => isToken_of_numeric (Numeral.numeric_of_mem_toString hc))
    (ofToken?_toString h) rest

theorem isToken_of_mem_truth (b : Bool) :
    ∀ c ∈ (if b then "true" else "false").toList, isToken c = true := by
  cases b <;> exact List.all_eq_true.mp (by rfl)

/-- A truth value at the end of its line. -/
theorem read_truth (b : Bool) (rest : List Char) :
    read ((if b then "true" else "false").toList ++ '\n' :: rest) =
      some (.boolean b, '\n' :: rest) :=
  read_token (isToken_of_mem_truth b) (by cases b <;> rfl) rest

end InstrumentBus.Toml.Plain
