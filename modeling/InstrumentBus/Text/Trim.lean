/-
Cutting characters off the ends of a text. Three cuts are made in this
library: a response loses its trailing CR, LF and NUL; a command loses
its trailing CR and LF before an instrument looks it up; and a typed
response loses the blanks around it. What counts as blank in the last is
the Unicode White_Space property, all twenty-five characters of it.
-/
namespace InstrumentBus.Text

/-- `s` without the longest suffix of characters that satisfy `p`. -/
def trimEnd (p : Char → Bool) (s : List Char) : List Char :=
  (s.reverse.dropWhile p).reverse

/-- `s` without the longest prefix and suffix of characters that satisfy
`p`. -/
def trim (p : Char → Bool) (s : List Char) : List Char :=
  trimEnd p (s.dropWhile p)

/-- The characters a message may end with that are no part of it. -/
def isMessageEnd (c : Char) : Bool := c == '\r' || c == '\n' || c == '\x00'

/-- The characters a line may end with that are no part of it. -/
def isLineEnd (c : Char) : Bool := c == '\r' || c == '\n'

/-- The Unicode White_Space property. -/
def isBlank (c : Char) : Bool :=
  let n := c.toNat
  (0x9 ≤ n && n ≤ 0xD) || n == 0x20 || n == 0x85 || n == 0xA0 || n == 0x1680 ||
    (0x2000 ≤ n && n ≤ 0x200A) || n == 0x2028 || n == 0x2029 || n == 0x202F ||
    n == 0x205F || n == 0x3000

/-- `trimEnd` only removes characters that satisfy the test. -/
theorem trimEnd_append_removed (p : Char → Bool) (s : List Char) :
    trimEnd p s ++ (s.reverse.takeWhile p).reverse = s := by
  rw [trimEnd, ← List.reverse_append, List.takeWhile_append_dropWhile, List.reverse_reverse]

/-- `trimEnd` removes all there is to remove. -/
theorem trimEnd_last (p : Char → Bool) (s : List Char) :
    ∀ c ∈ (trimEnd p s).getLast?, p c = false := by
  intro c hc
  rw [trimEnd, List.getLast?_reverse] at hc
  cases hd : s.reverse.dropWhile p with
  | nil => simp [hd] at hc
  | cons d rest =>
    have := List.head?_dropWhile_not p s.reverse
    rw [hd] at this hc
    simp only [List.head?_cons, Option.mem_def, Option.some.injEq] at hc this
    subst hc
    simpa using this

/-- What `trimEnd` leaves and what it removes are told apart by the test. -/
theorem trimEnd_append {p : Char → Bool} {s t : List Char} (hs : ∀ c ∈ s.getLast?, p c = false)
    (ht : ∀ c ∈ t, p c = true) : trimEnd p (s ++ t) = s := by
  have ht' : ∀ c ∈ t.reverse, p c = true := fun c hc => ht c (List.mem_reverse.mp hc)
  rw [trimEnd, List.reverse_append, List.dropWhile_append_of_pos ht']
  cases hr : s.reverse with
  | nil => exact (List.reverse_eq_nil_iff.mp hr).symm
  | cons d rest =>
    have hd : p d = false := hs d (by rw [← List.head?_reverse, hr]; rfl)
    rw [List.dropWhile_cons_of_neg (by rw [hd]; exact Bool.false_ne_true), ← hr,
      List.reverse_reverse]

end InstrumentBus.Text
