/-
Which texts are responses of a type, and which values they are.

The grammar of whole numbers is told twice. `Numeral.parse?` reads a text
from the front and folds its digits into a number; `Numeral.Denotes` says
how a number may be written, with the worth of a digit given by its place.
The two agree (`parse?_eq_some_iff`), so no number is read that was not
written, whatever the length of the text, and the range of the type is
asked about the exact value (`holds_iff_inRange`). Truth values are told as
words, to which a text is compared letter by letter, in either case
(`bool?_eq_some_iff`).

Blanks around a text are no part of it. `Text.TrimsTo` says what a text is
without them, and there is just one answer (`trim_of_trimsTo`). A text that is
refused is quoted with its blanks.
-/
import InstrumentBus.Proofs.Config.Reading
import InstrumentBus.Proofs.Numeral
import InstrumentBus.Response
import InstrumentBus.Text.LetterCase
import Mathlib.Data.List.Forall2
import Mathlib.Data.List.Induction
import Mathlib.Data.List.TakeWhile
import Mathlib.Data.Nat.Digits.Defs

namespace InstrumentBus

-- ============================================================ the blanks

namespace Text

variable {p : Char → Bool} {s body : List Char}

/-- A text has this between the characters around it that satisfy a test. -/
structure TrimsTo (p : Char → Bool) (s body : List Char) : Prop where
  around : ∃ front back, s = front ++ body ++ back ∧
    (∀ c ∈ front, p c = true) ∧ ∀ c ∈ back, p c = true
  first : ∀ c ∈ body.head?, p c = false
  last : ∀ c ∈ body.getLast?, p c = false

theorem trimsTo_trim (p : Char → Bool) (s : List Char) : TrimsTo p s (trim p s) where
  around := by
    refine ⟨s.takeWhile p, ((s.dropWhile p).reverse.takeWhile p).reverse, ?_, fun c hc => ?_,
      fun c hc => ?_⟩
    · rw [List.append_assoc, trim, trimEnd_append_removed, List.takeWhile_append_dropWhile]
    · exact List.all_eq_true.mp List.all_takeWhile c hc
    · exact List.all_eq_true.mp List.all_takeWhile c (List.mem_reverse.mp hc)
  first c hc := by
    -- what is in front after the end was cut off was there before
    have hsplit := trimEnd_append_removed p (s.dropWhile p)
    have hhead := List.head?_dropWhile_not p s
    cases ht : trimEnd p (s.dropWhile p) with
    | nil =>
        rw [trim, ht] at hc
        cases hc
    | cons d rest =>
        rw [trim, ht] at hc
        rw [ht] at hsplit
        rw [← hsplit] at hhead
        cases hc
        exact hhead
  last := trimEnd_last p _

theorem trim_of_trimsTo (h : TrimsTo p s body) : trim p s = body := by
  obtain ⟨⟨front, back, rfl, hfront, hback⟩, hfirst, hlast⟩ := h
  unfold trim
  rw [List.append_assoc, List.dropWhile_append_of_pos hfront]
  cases body with
  | nil =>
      have hnone : back.dropWhile p = [] := List.dropWhile_eq_nil_iff.mpr hback
      rw [List.nil_append, hnone]
      rfl
  | cons c rest =>
      have hc : ¬ p c = true := by
        rw [hfirst c rfl]
        exact Bool.false_ne_true
      rw [List.cons_append, List.dropWhile_cons_of_neg hc]
      exact trimEnd_append hlast hback

/-- There may be nothing to cut off. -/
theorem trimsTo_self (h : ∀ c ∈ s, p c = false) : TrimsTo p s s where
  around := ⟨[], [], (List.append_nil s).symm, nofun, nofun⟩
  first c hc := h c (List.mem_of_head? hc)
  last c hc := h c (List.mem_of_getLast? hc)

end Text

-- ======================================================== whole numbers

namespace Numeral

variable {ds s : List Char} {signed : Bool} {n : Nat} {v : Int}

/-- One or more ASCII digits. -/
def IsDigits (ds : List Char) : Prop := ds ≠ [] ∧ ∀ c ∈ ds, '0' ≤ c ∧ c ≤ '9'

/-- The number that digits stand for, each by its place, the last of them
being the ones. -/
def number (ds : List Char) : Nat := Nat.ofDigits 10 (ds.reverse.map fun c => c.toNat - '0'.toNat)

/-- The ways to write a whole number. -/
inductive Denotes (signed : Bool) : List Char → Int → Prop where
  | plain {ds : List Char} (h : IsDigits ds) : Denotes signed ds (number ds)
  | plus {ds : List Char} (h : IsDigits ds) : Denotes signed ('+' :: ds) (number ds)
  | minus {ds : List Char} (h : IsDigits ds) (hs : signed = true) :
      Denotes signed ('-' :: ds) (-(number ds : Int))

theorem number_concat (ds : List Char) (c : Char) :
    number (ds ++ [c]) = number ds * 10 + digitValue c := by
  unfold number
  rw [List.reverse_append, List.reverse_singleton, List.singleton_append, List.map_cons,
    Nat.ofDigits_cons]
  show c.toNat - 48 + 10 * _ = _ * 10 + (c.toNat - 48)
  omega

/-- Digits folded into a number from the front are worth what their places
say. -/
theorem value_eq_number (ds : List Char) : value ds = number ds := by
  induction ds using List.reverseRecOn with
  | nil => rfl
  | append_singleton ds c ih =>
      rw [number_concat, ← ih]
      exact List.foldl_append

theorem digits?_eq_some_iff : digits? s = some n ↔ IsDigits s ∧ n = number s := by
  have hall : s.all isDigit = true ↔ ∀ c ∈ s, '0' ≤ c ∧ c ≤ '9' := by
    simp only [List.all_eq_true, isDigit, Bool.and_eq_true, decide_eq_true_eq]
  unfold digits? IsDigits
  simp only [hall, value_eq_number]
  split
  next h => rw [Option.some.injEq, eq_comm, and_iff_right h]
  next h => exact iff_of_false (Option.some_ne_none n).symm fun hd => h hd.1

/-- Digits do not begin with anything else. -/
theorem IsDigits.head?_ne (h : IsDigits s) {c : Char} (hc : ¬ '0' ≤ c) : s.head? ≠ some c :=
  fun hs => hc (h.2 c (List.mem_of_head? hs)).1

theorem parse?_minus (signed : Bool) (rest : List Char) :
    parse? signed ('-' :: rest) =
      if signed then (digits? rest).map fun n : Nat => -(n : Int) else none := by
  cases signed with
  | false => rfl
  | true =>
      show Option.map _ (do let n ← digits? rest; pure (n : Int)) = Option.map _ (digits? rest)
      cases digits? rest <;> rfl

theorem parse?_plain (signed : Bool) {s : List Char} (hplus : s.head? ≠ some '+')
    (hminus : s.head? ≠ some '-') : parse? signed s = (digits? s).map Int.ofNat := by
  unfold parse?
  split
  next rest => exact absurd rfl hplus
  next rest => exact absurd rfl hminus
  next => rfl

/-- A number is read just as it may be written. -/
theorem parse?_eq_some_iff : parse? signed s = some v ↔ Denotes signed s v := by
  constructor
  · intro h
    by_cases hplus : s.head? = some '+'
    · obtain ⟨rest, rfl⟩ := List.head?_eq_some_iff.mp hplus
      obtain ⟨n, hn, rfl⟩ := Option.map_eq_some_iff.mp h
      obtain ⟨hd, rfl⟩ := digits?_eq_some_iff.mp hn
      exact .plus hd
    · by_cases hminus : s.head? = some '-'
      · obtain ⟨rest, rfl⟩ := List.head?_eq_some_iff.mp hminus
        rw [parse?_minus] at h
        obtain ⟨hs, h⟩ := Option.ite_none_right_eq_some.mp h
        obtain ⟨n, hn, rfl⟩ := Option.map_eq_some_iff.mp h
        obtain ⟨hd, rfl⟩ := digits?_eq_some_iff.mp hn
        exact .minus hd hs
      · rw [parse?_plain signed hplus hminus] at h
        obtain ⟨n, hn, rfl⟩ := Option.map_eq_some_iff.mp h
        obtain ⟨hd, rfl⟩ := digits?_eq_some_iff.mp hn
        exact .plain hd
  · rintro (hd | hd | ⟨hd, hs⟩)
    · rw [parse?_plain signed (hd.head?_ne (by decide)) (hd.head?_ne (by decide)),
        digits?_eq_some_iff.mpr ⟨hd, rfl⟩]
      rfl
    · exact congrArg (Option.map _) (digits?_eq_some_iff.mpr ⟨hd, rfl⟩)
    · rw [parse?_minus, if_pos hs, digits?_eq_some_iff.mpr ⟨hd, rfl⟩]
      rfl

-- ------------------------------------------------ numbers written out

/-- A number in decimal, with zeros in front of its digits. -/
def padded (zeros : Nat) (v : Int) : String :=
  (if v < 0 then "-" else "") ++ String.ofList (List.replicate zeros '0') ++ toString v.natAbs

theorem toList_padded (zeros : Nat) (v : Int) :
    (padded zeros v).toList =
      (if v < 0 then ['-'] else []) ++ (List.replicate zeros '0' ++ Nat.toDigits 10 v.natAbs) := by
  have hdigits : (toString v.natAbs).toList = Nat.toDigits 10 v.natAbs := Nat.toList_repr
  unfold padded
  rw [String.toList_append, String.toList_append, String.toList_ofList, hdigits, List.append_assoc]
  split <;> rfl

/-- Without such zeros it is what the number is printed as. -/
theorem padded_zero (v : Int) : padded 0 v = toString v := by
  apply String.toList_inj.mp
  rw [toList_padded]
  rcases toList_toString v with ⟨hv, hlist⟩ | ⟨hv, hlist⟩
  · rw [hlist, if_neg (Int.not_lt.mpr hv), show v.toNat = v.natAbs by omega]
    rfl
  · rw [hlist, if_pos hv, show (-v).toNat = v.natAbs by omega]
    rfl

theorem isDigits_padded (zeros m : Nat) :
    IsDigits (List.replicate zeros '0' ++ Nat.toDigits 10 m) := by
  refine ⟨List.append_ne_nil_of_right_ne_nil _ Nat.toDigits_ne_nil, fun c hc => ?_⟩
  rcases List.mem_append.mp hc with hc | hc
  · rw [List.eq_of_mem_replicate hc]
    decide
  · have hd := isDigit_of_mem_toDigits hc
    simpa only [isDigit, Bool.and_eq_true, decide_eq_true_eq] using hd

theorem number_padded (zeros m : Nat) :
    number (List.replicate zeros '0' ++ Nat.toDigits 10 m) = m := by
  rw [← value_eq_number]
  induction zeros with
  | zero => exact value_toDigits m
  | succ zeros ih => exact ih

/-- Zeros in front of a number are no part of it. -/
theorem denotes_padded (zeros : Nat) (h : v < 0 → signed = true) :
    Denotes signed (padded zeros v).toList v := by
  have hd := isDigits_padded zeros v.natAbs
  have hn := number_padded zeros v.natAbs
  rw [toList_padded]
  by_cases hv : v < 0
  · have hself : v = -(number (List.replicate zeros '0' ++ Nat.toDigits 10 v.natAbs) : Int) := by
      rw [hn]
      omega
    rw [if_pos hv, List.singleton_append]
    conv => rhs; rw [hself]
    exact .minus hd (h hv)
  · have hself : v = (number (List.replicate zeros '0' ++ Nat.toDigits 10 v.natAbs) : Int) := by
      rw [hn]
      omega
    rw [if_neg hv, List.nil_append]
    conv => rhs; rw [hself]
    exact .plain hd

theorem not_isBlank_of_isDigits (h : IsDigits ds) : ∀ c ∈ ds, Text.isBlank c = false := by
  intro c hc
  obtain ⟨hlow, hhigh⟩ := h.2 c hc
  have hlow : 48 ≤ c.toNat := hlow
  have hhigh : c.toNat ≤ 57 := hhigh
  refine Bool.eq_false_iff.mpr fun hblank => ?_
  simp only [Text.isBlank, Bool.or_eq_true, Bool.and_eq_true, decide_eq_true_eq,
    beq_iff_eq] at hblank
  omega

/-- There are no blanks in a number. -/
theorem Denotes.not_isBlank (h : Denotes signed s v) : ∀ c ∈ s, Text.isBlank c = false := by
  cases h with
  | plain hd => exact not_isBlank_of_isDigits hd
  | plus hd => exact List.forall_mem_cons.mpr ⟨by decide, not_isBlank_of_isDigits hd⟩
  | minus hd => exact List.forall_mem_cons.mpr ⟨by decide, not_isBlank_of_isDigits hd⟩

end Numeral

namespace IntKind

/-- The value has a place in as many bits as the type has, in two's
complement where it has negative values. -/
def InRange (k : IntKind) (v : Int) : Prop :=
  if k.signed then -2 ^ (k.bits - 1) ≤ v ∧ v < 2 ^ (k.bits - 1) else 0 ≤ v ∧ v < 2 ^ k.bits

theorem holds_iff_inRange {k : IntKind} {v : Int} : k.holds v = true ↔ k.InRange v := by
  rw [holds_iff]
  have hpred : ∀ m : Int, v ≤ m - 1 ↔ v < m := fun m => Int.le_sub_one_iff
  cases k <;> exact and_congr_right fun _ => hpred _

instance (k : IntKind) (v : Int) : Decidable (k.InRange v) :=
  decidable_of_iff (k.holds v = true) holds_iff_inRange

/-- A type that has room for a negative value has a sign. -/
theorem InRange.signed_of_neg {k : IntKind} {v : Int} (h : k.InRange v) (hv : v < 0) :
    k.signed = true := by
  unfold InRange at h
  split at h
  next hs => exact hs
  next => exact absurd h.1 (Int.not_le.mpr hv)

end IntKind

-- ========================================================= truth values

namespace Text

/-- A character is another one, or the small letter to that capital. -/
def IsEitherCase (c d : Char) : Prop := c = d ∨ 'A' ≤ d ∧ d ≤ 'Z' ∧ c.toNat = d.toNat + 32

/-- A capital is what a character becomes if it is that capital already or
the small letter to it. -/
theorem toUpper_eq_iff {d : Char} (hd : d.isLower = false) (c : Char) :
    c.toUpper = d ↔ IsEitherCase c d := by
  have hsmall : ¬ (97 ≤ d.toNat ∧ d.toNat ≤ 122) := fun h =>
    Bool.eq_false_iff.mp hd (isLower_iff.mpr h)
  have hcapital : 'A' ≤ d ∧ d ≤ 'Z' ↔ 65 ≤ d.toNat ∧ d.toNat ≤ 90 := Iff.rfl
  unfold IsEitherCase
  rw [← and_assoc, hcapital, ← Char.toNat_inj, ← Char.toNat_inj, toNat_toUpper]
  split <;> omega

/-- A word in capitals, compared in either case. -/
theorem map_toUpper_eq_iff {s word : List Char} (hword : ∀ d ∈ word, d.isLower = false) :
    s.map Char.toUpper = word ↔ List.Forall₂ IsEitherCase s word := by
  induction word generalizing s with
  | nil => rw [List.map_eq_nil_iff, List.forall₂_nil_right_iff]
  | cons d rest ih =>
      have hrest := fun {s} => ih (s := s) fun e he => hword e (List.mem_cons_of_mem _ he)
      rw [List.forall₂_cons_right_iff, List.map_eq_cons_iff]
      simp only [toUpper_eq_iff (hword d List.mem_cons_self), hrest]
      constructor
      · rintro ⟨c, t, rfl, hc, ht⟩
        exact ⟨c, t, hc, ht, rfl⟩
      · rintro ⟨c, t, hc, ht, rfl⟩
        exact ⟨c, t, rfl, hc, ht⟩

end Text

namespace Response

/-- The words for a truth value. -/
def words : Bool → List String
  | true => trueWords
  | false => falseWords

/-- None of them has a small letter. -/
theorem not_isLower_of_mem {b : Bool} {word : String} (h : word ∈ words b) :
    ∀ d ∈ word.toList, d.isLower = false := by
  have hall : (words b).all (·.toList.all (!·.isLower)) = true := by cases b <;> rfl
  intro d hd
  exact (Bool.not_eq_true' _).mp (List.all_eq_true.mp (List.all_eq_true.mp hall word h) d hd)

/-- None of them is a word for the other value. -/
theorem words_apart : ∀ word ∈ words false, word ∉ words true := by decide

theorem mem_words_iff {s : List Char} {b : Bool} :
    String.ofList (s.map Char.toUpper) ∈ words b ↔
      ∃ word ∈ words b, List.Forall₂ Text.IsEitherCase s word.toList := by
  constructor
  · intro h
    refine ⟨_, h, ?_⟩
    rw [← Text.map_toUpper_eq_iff (not_isLower_of_mem h), String.toList_ofList]
  · rintro ⟨word, hword, hs⟩
    rw [(Text.map_toUpper_eq_iff (not_isLower_of_mem hword)).mpr hs, String.ofList_toList]
    exact hword

theorem bool?_eq_some_iff {s : List Char} {b : Bool} :
    bool? s = some b ↔ ∃ word ∈ words b, List.Forall₂ Text.IsEitherCase s word.toList := by
  rw [← mem_words_iff]
  show (if _ ∈ words true then some true else if _ ∈ words false then some false else none) = _ ↔ _
  cases b with
  | true =>
      split
      next h => exact iff_of_true rfl h
      next h =>
        refine iff_of_false (fun hb => ?_) h
        split at hb <;> cases hb
  | false =>
      split
      next h => exact iff_of_false nofun fun hf => words_apart _ hf h
      next => exact ⟨fun hb => (Option.ite_none_right_eq_some.mp hb).1, fun hf => if_pos hf⟩

-- ============================================================= responses

/-- A text is a whole number of a type, blanks around it aside. -/
def IsNumber (k : IntKind) (text : String) (v : Int) : Prop :=
  ∃ body, Text.TrimsTo Text.isBlank text.toList body ∧ Numeral.Denotes k.signed body v ∧
    k.InRange v

/-- A text is a word for a truth value, in either case and blanks around it
aside. -/
def IsTruth (text : String) (b : Bool) : Prop :=
  ∃ body, Text.TrimsTo Text.isBlank text.toList body ∧
    ∃ word ∈ words b, List.Forall₂ Text.IsEitherCase body word.toList

variable {k : IntKind} {text : String} {v : Int} {b : Bool}

theorem ofKind?_eq_some_iff {s : List Char} :
    Numeral.ofKind? k s = some v ↔ Numeral.Denotes k.signed s v ∧ k.InRange v := by
  unfold Numeral.ofKind?
  rw [Option.bind_eq_some_iff]
  constructor
  · rintro ⟨w, hw, h⟩
    obtain ⟨hk, h⟩ := Option.ite_none_right_eq_some.mp h
    cases h
    exact ⟨Numeral.parse?_eq_some_iff.mp hw, IntKind.holds_iff_inRange.mp hk⟩
  · rintro ⟨hd, hk⟩
    exact ⟨v, Numeral.parse?_eq_some_iff.mpr hd, if_pos (IntKind.holds_iff_inRange.mpr hk)⟩

/-- A response is read if the trimmed text is a value of the type, and is
quoted untrimmed if it is not. -/
theorem ofText_eq (kind : ResponseKind) (hkind : kind ≠ .text) (text : String) :
    ofText kind text.toList =
      (ofTrimmed? kind (Text.trim Text.isBlank text.toList)).elim
        (.error (.format text kind.name)) .ok := by
  have hself : Failure.format (String.ofList text.toList) kind.name = .format text kind.name :=
    congrArg (Failure.format · kind.name) String.ofList_toList
  rw [← hself]
  cases kind with
  | text => exact absurd rfl hkind
  | _ =>
      unfold ofText
      dsimp only
      split
      next h =>
        rw [h]
        rfl
      next h =>
        rw [h]
        rfl

theorem ofText_eq_ok_iff (kind : ResponseKind) (hkind : kind ≠ .text) {r : Response} :
    ofText kind text.toList = .ok r ↔
      ofTrimmed? kind (Text.trim Text.isBlank text.toList) = some r := by
  rw [ofText_eq kind hkind]
  cases ofTrimmed? kind (Text.trim Text.isBlank text.toList) <;> simp

theorem ofText_eq_error (kind : ResponseKind) (hkind : kind ≠ .text)
    (h : ofTrimmed? kind (Text.trim Text.isBlank text.toList) = none) :
    ofText kind text.toList = .error (.format text kind.name) := by
  rw [ofText_eq kind hkind, h]
  rfl

theorem ofTrimmed?_int_eq_some_iff :
    ofTrimmed? (.int k) (Text.trim Text.isBlank text.toList) = some (.int v) ↔
      IsNumber k text v := by
  have hint : ofTrimmed? (.int k) (Text.trim Text.isBlank text.toList) = some (.int v) ↔
      Numeral.ofKind? k (Text.trim Text.isBlank text.toList) = some v :=
    Option.map_eq_some_iff.trans ⟨fun ⟨_, hw, h⟩ => Response.int.inj h ▸ hw, fun h => ⟨v, h, rfl⟩⟩
  rw [hint, ofKind?_eq_some_iff]
  constructor
  · exact fun h => ⟨_, Text.trimsTo_trim _ _, h⟩
  · rintro ⟨body, ht, h⟩
    rwa [Text.trim_of_trimsTo ht]

theorem ofTrimmed?_bool_eq_some_iff :
    ofTrimmed? .bool (Text.trim Text.isBlank text.toList) = some (.bool b) ↔
      IsTruth text b := by
  have hbool : ofTrimmed? .bool (Text.trim Text.isBlank text.toList) = some (.bool b) ↔
      bool? (Text.trim Text.isBlank text.toList) = some b :=
    Option.map_eq_some_iff.trans ⟨fun ⟨_, hw, h⟩ => Response.bool.inj h ▸ hw, fun h => ⟨b, h, rfl⟩⟩
  rw [hbool, bool?_eq_some_iff]
  constructor
  · exact fun h => ⟨_, Text.trimsTo_trim _ _, h⟩
  · rintro ⟨body, ht, h⟩
    rwa [Text.trim_of_trimsTo ht]

theorem ofText_int_eq_ok_iff :
    ofText (.int k) text.toList = .ok (.int v) ↔ IsNumber k text v :=
  (ofText_eq_ok_iff (.int k) nofun).trans ofTrimmed?_int_eq_some_iff

theorem ofText_bool_eq_ok_iff : ofText .bool text.toList = .ok (.bool b) ↔ IsTruth text b :=
  (ofText_eq_ok_iff .bool nofun).trans ofTrimmed?_bool_eq_some_iff

theorem ofText_int_eq_error (h : ¬ ∃ v, IsNumber k text v) :
    ofText (.int k) text.toList = .error (.format text k.name) := by
  refine ofText_eq_error (.int k) nofun (Option.map_eq_none_iff.mpr ?_)
  refine Option.eq_none_iff_forall_ne_some.mpr fun v hv => ?_
  exact h ⟨v, ofTrimmed?_int_eq_some_iff.mp (congrArg (Option.map _) hv)⟩

theorem ofText_bool_eq_error (h : ¬ ∃ b, IsTruth text b) :
    ofText .bool text.toList = .error (.format text "bool") := by
  refine ofText_eq_error .bool nofun (Option.map_eq_none_iff.mpr ?_)
  refine Option.eq_none_iff_forall_ne_some.mpr fun b hb => ?_
  exact h ⟨b, ofTrimmed?_bool_eq_some_iff.mp (congrArg (Option.map _) hb)⟩

end Response

end InstrumentBus
