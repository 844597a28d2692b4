/-
A text in quotes is read as the text that was written.

The four forms have two readers each for what stands between the quotes,
one for a single line and one that goes on over line breaks. What a basic
text is written with is read character by character, by the same steps in
both (`reader_writeChar`). A literal text is read as it stands.

Between triple quotes a quote may stand for itself, and it is here that
something could go wrong: three of them close the text. Two things keep
that from happening. No more than two are written in a row, so three never
come together inside the text; and where the text ends in one or two, the
reader takes the closing three for the first three of the run and gives
the rest of it back to the text.
-/
import InstrumentBus.Toml.Quoted.Printer
import Mathlib.Logic.Basic

namespace InstrumentBus.Toml.Quoted

/-- A text in front of what a reader makes of the rest. -/
def prepend (t : List Char) (r : Option (List Char × List Char)) :
    Option (List Char × List Char) := r.map fun p => (t ++ p.1, p.2)

/-- What stands between the quotes of a basic text, on one line or on
more. -/
def reader (lines : Bool) : Mode → List Char → Option (List Char × List Char) :=
  if lines then basicLines else basic

theorem isTriple_cons_of_ne {q c : Char} (h : c ≠ q) (tail : List Char) :
    isTriple q (c :: tail) = false := by
  simp [isTriple, h]

-- ======================================================== basic texts

/-- One character that does not end the text. -/
theorem reader_cons {lines : Bool} {m t : Mode} {c : Char} {out : List Char}
    (h : advance lines m c = some (t, out)) (hm : m ≠ .swallowing) (hc : m = .text → c ≠ '"')
    (tail : List Char) : reader lines m (c :: tail) = prepend out (reader lines t tail) := by
  cases lines with
  | false =>
      have hopen : ¬ (m = .text ∧ c = '"') := fun hend => hc hend.1 hend.2
      show basic m (c :: tail) = prepend out (basic t tail)
      rw [basic, if_neg hopen, h]
      simp only [Option.bind_eq_bind, Option.bind_some]
      cases basic t tail <;> rfl
  | true =>
      have hopen : ¬ ((m = .text ∨ m = .swallowing) ∧ isTriple '"' (c :: tail) = true) := by
        rintro ⟨hm' | hm', htriple⟩
        · rw [isTriple_cons_of_ne (hc hm')] at htriple
          cases htriple
        · exact hm hm'
      show basicLines m (c :: tail) = prepend out (basicLines t tail)
      rw [basicLines, if_neg hopen, h]
      simp only [Option.bind_eq_bind, Option.bind_some]
      cases basicLines t tail <;> rfl

theorem prepend_nil (r : Option (List Char × List Char)) : prepend [] r = r := by
  cases r <;> rfl

theorem reader_plain {lines : Bool} {c : Char} (hquote : c ≠ '"') (hslash : c ≠ '\\')
    (hplain : isPlain c = true ∨ lines = true ∧ c = '\n') (tail : List Char) :
    reader lines .text (c :: tail) = prepend [c] (reader lines .text tail) := by
  have hadvance : advance lines .text c = some (.text, [c]) := by
    simp only [advance, hslash, if_false, if_pos hplain]
  exact reader_cons hadvance nofun (fun _ => hquote) tail

theorem reader_slash {lines : Bool} (tail : List Char) :
    reader lines .text ('\\' :: tail) = reader lines .escape tail := by
  have hadvance : advance lines .text '\\' = some (.escape, []) := rfl
  rw [reader_cons hadvance nofun fun _ => by decide, prepend_nil]

theorem reader_escaped {lines : Bool} {e c : Char} (h : escaped? e = some c) (tail : List Char) :
    reader lines .text ('\\' :: e :: tail) = prepend [c] (reader lines .text tail) := by
  have hadvance : advance lines .escape e = some (.text, [c]) := by simp only [advance, h]
  rw [reader_slash, reader_cons hadvance nofun nofun]

theorem hexDigit?_digitChar : ∀ d < 16, hexDigit? (Nat.digitChar d).toUpper = some d := by decide

/-- A digit that is not the last one. -/
theorem reader_digit {lines : Bool} {d : Nat} (hd : d < 16) (left n : Nat) (tail : List Char) :
    reader lines (.digits (left + 2) n) ((Nat.digitChar d).toUpper :: tail) =
      reader lines (.digits (left + 1) (n * 16 + d)) tail := by
  have hadvance : advance lines (.digits (left + 2) n) (Nat.digitChar d).toUpper =
      some (.digits (left + 1) (n * 16 + d), []) := by
    simp [advance, hexDigit?_digitChar d hd]
  rw [reader_cons hadvance nofun nofun, prepend_nil]

/-- A character by its number. -/
theorem reader_numeric {lines : Bool} {c : Char} (h : c.toNat < 65536) (tail : List Char) :
    reader lines .text ('\\' :: 'u' :: hexDigits c.toNat ++ tail) =
      prepend [c] (reader lines .text tail) := by
  have hvalue : ((0 * 16 + c.toNat / 4096 % 16) * 16 + c.toNat / 256 % 16) * 16 +
      c.toNat / 16 % 16 = c.toNat / 16 := by omega
  have hlast : advance lines (.digits 1 (c.toNat / 16)) (Nat.digitChar (c.toNat % 16)).toUpper =
      some (.text, [c]) := by
    have hscalar : scalar? c.toNat = some c := by
      unfold scalar?
      rw [if_pos (show c.toNat.isValidChar from c.valid), Char.ofNat_toNat]
    have hnumber : c.toNat / 16 * 16 + c.toNat % 16 = c.toNat := by omega
    simp [advance, hexDigit?_digitChar (c.toNat % 16) (by omega), hnumber, hscalar]
  have hu : advance lines .escape 'u' = some (.digits 4 0, []) := rfl
  show reader lines .text ('\\' :: 'u' :: (Nat.digitChar (c.toNat / 4096 % 16)).toUpper ::
    (Nat.digitChar (c.toNat / 256 % 16)).toUpper :: (Nat.digitChar (c.toNat / 16 % 16)).toUpper ::
    (Nat.digitChar (c.toNat % 16)).toUpper :: tail) = _
  rw [reader_slash, reader_cons hu nofun nofun, prepend_nil, reader_digit (by omega),
    reader_digit (by omega), reader_digit (by omega), hvalue, reader_cons hlast nofun nofun]

/-- What only an escape can stand for, four digits can number. -/
theorem toNat_lt_of_not_isPlain {c : Char} (h : ¬ isPlain c = true) : c.toNat < 65536 := by
  simp only [isPlain, Bool.or_eq_true, beq_iff_eq, Bool.and_eq_true, decide_eq_true_eq, not_or,
    not_and_or, not_not] at h
  rcases h.2 with hlow | hdelete
  · have hlow : ¬ 32 ≤ c.toNat := hlow
    omega
  · rw [hdelete]
    decide

/-- A quote that a basic text may have as it is. -/
def IsBare (lines : Bool) (run : Nat) (c : Char) : Prop :=
  c = '"' ∧ run < if lines then 2 else 0

/-- A character of a basic text, as it is written, is read as the
character. -/
theorem reader_writeChar {lines : Bool} {run : Nat} {c : Char} (hbare : ¬ IsBare lines run c)
    (tail : List Char) :
    reader lines .text (writeChar lines run c ++ tail) = prepend [c] (reader lines .text tail) := by
  unfold writeChar
  by_cases hquote : c = '"'
  · rw [if_pos hquote, if_neg fun hrun => hbare ⟨hquote, hrun⟩, hquote]
    exact reader_escaped rfl tail
  by_cases hslash : c = '\\'
  · rw [if_neg hquote, if_pos hslash, hslash]
    exact reader_escaped rfl tail
  rw [if_neg hquote, if_neg hslash]
  split
  next hbreak =>
    subst hbreak
    split
    next hlines => exact reader_plain hquote hslash (.inr ⟨hlines, rfl⟩) tail
    next => exact reader_escaped rfl tail
  split
  next htab => subst htab; exact reader_escaped rfl tail
  split
  next hback => subst hback; exact reader_escaped rfl tail
  split
  next hfeed => subst hfeed; exact reader_escaped rfl tail
  split
  next hreturn => subst hreturn; exact reader_escaped rfl tail
  split
  next hplain => exact reader_plain hquote hslash (.inl hplain) tail
  next hplain => exact reader_numeric (toNat_lt_of_not_isPlain hplain) tail

/-- What a character that is no bare quote starts with: no quote, and a
line feed only if it is one. -/
theorem writeChar_head {lines : Bool} {run : Nat} {c : Char} (hbare : ¬ IsBare lines run c) :
    ∃ d ds, writeChar lines run c = d :: ds ∧ d ≠ '"' ∧ (d = '\n' → c = '\n') := by
  have slash (es : List Char) :
      ∃ d ds, '\\' :: es = d :: ds ∧ d ≠ '"' ∧ (d = '\n' → c = '\n') :=
    ⟨_, _, rfl, by decide, fun h => absurd h (by decide)⟩
  unfold writeChar
  by_cases hquote : c = '"'
  · rw [if_pos hquote, if_neg fun hrun => hbare ⟨hquote, hrun⟩]
    exact slash _
  rw [if_neg hquote]
  split
  · exact slash _
  split
  next hbreak =>
    split
    · exact ⟨_, _, rfl, by decide, fun _ => hbreak⟩
    · exact slash _
  iterate 4
    split
    · exact slash _
  split
  · exact ⟨c, [], rfl, hquote, id⟩
  · exact slash _

/-- A basic text on one line. -/
theorem basic_writeBasic (s rest : List Char) (run : Nat) :
    basic .text (writeBasic false run s ++ '"' :: rest) = some (s, rest) := by
  induction s generalizing run with
  | nil => rfl
  | cons c s ih =>
      have hbare : ¬ IsBare false run c := fun h => absurd h.2 (Nat.not_lt_zero run)
      rw [writeBasic, List.append_assoc]
      show reader false .text _ = _
      rw [reader_writeChar hbare]
      show prepend [c] (basic .text _) = _
      rw [ih]
      rfl

-- ================================================ between triple quotes

theorem isTriple_cons {q a b c : Char} {l : List Char} :
    isTriple q (a :: b :: c :: l) = true ↔ a = q ∧ b = q ∧ c = q := by
  simp [isTriple]

/-- Up to two quotes behind the closing ones belong to the text. -/
theorem closing_append {q : Char} {qs rest : List Char} (hqs : qs = [] ∨ qs = [q] ∨ qs = [q, q])
    (hrest : rest.head? ≠ some q) : closing q (qs ++ rest) = (qs, rest) := by
  cases rest with
  | nil => rcases hqs with rfl | rfl | rfl <;> simp [closing]
  | cons c rest =>
      have hc : (c == q) = false := beq_false_of_ne fun h => hrest (congrArg some h)
      rcases hqs with rfl | rfl | rfl <;> simp [closing, hc]

/-- The closing quotes, with up to two of the text in front of them. -/
theorem basicLines_closing {qs rest : List Char} (hqs : qs = [] ∨ qs = ['"'] ∨ qs = ['"', '"'])
    (hrest : rest.head? ≠ some '"') :
    basicLines .text (qs ++ triple '"' ++ rest) = some (qs, rest) := by
  have hclose := closing_append hqs hrest
  have hall : qs ++ triple '"' ++ rest = '"' :: '"' :: '"' :: (qs ++ rest) := by
    rcases hqs with rfl | rfl | rfl <;> rfl
  rw [hall, basicLines, if_pos ⟨.inl rfl, isTriple_cons.mpr ⟨rfl, rfl, rfl⟩⟩]
  exact congrArg some hclose

/-- A bare quote that is not the first of three. -/
theorem basicLines_bare {tail : List Char} (h : ¬ isTriple '"' ('"' :: tail) = true) :
    basicLines .text ('"' :: tail) = prepend ['"'] (basicLines .text tail) := by
  have hadvance : advance true .text '"' = some (.text, ['"']) := rfl
  rw [basicLines, if_neg fun hend => h hend.2, hadvance]
  simp only [Option.bind_eq_bind, Option.bind_some]
  cases basicLines .text tail <;> rfl

theorem writeBasic_bare {run : Nat} (h : run < 2) (s : List Char) :
    writeBasic true run ('"' :: s) = '"' :: writeBasic true (run + 1) s := by
  simp [writeBasic, writeChar, nextRun, h]

/-- Three quotes in a row, the first of them bare, are not inside the
text: it ends in one or two of them. -/
theorem writeBasic_run {run : Nat} {s rest : List Char}
    (h : isTriple '"' ('"' :: (writeBasic true (run + 1) s ++ triple '"' ++ rest)) = true) :
    s = [] ∨ s = ['"'] ∧ writeBasic true (run + 1) s = ['"'] := by
  cases s with
  | nil => exact .inl rfl
  | cons c s =>
      by_cases hbare : IsBare true (run + 1) c
      · obtain ⟨rfl, hrun⟩ := hbare
        have hrun : run + 1 < 2 := hrun
        cases s with
        | nil => exact .inr ⟨rfl, writeBasic_bare hrun []⟩
        | cons e s =>
            have hfull : ¬ IsBare true (run + 1 + 1) e := fun h => by
              have hlt : run + 1 + 1 < 2 := h.2
              omega
            obtain ⟨d, ds, hhead, hd, -⟩ := writeChar_head hfull
            rw [writeBasic_bare hrun, writeBasic, hhead] at h
            exact absurd (isTriple_cons.mp h).2.2 hd
      · obtain ⟨d, ds, hhead, hd, -⟩ := writeChar_head hbare
        rw [writeBasic, hhead] at h
        cases hrest : ds ++ writeBasic true (nextRun true (run + 1) c) s ++ triple '"' ++ rest with
        | nil => simp [triple] at hrest
        | cons e es =>
            rw [List.cons_append, List.cons_append, List.cons_append, hrest] at h
            exact absurd (isTriple_cons.mp h).2.1 hd

/-- A basic text between triple quotes. -/
theorem basicLines_writeBasic (s : List Char) {rest : List Char} (hrest : rest.head? ≠ some '"')
    (run : Nat) :
    basicLines .text (writeBasic true run s ++ triple '"' ++ rest) = some (s, rest) := by
  induction s generalizing run with
  | nil => exact basicLines_closing (.inl rfl) hrest
  | cons c s ih =>
      by_cases hbare : IsBare true run c
      · obtain ⟨rfl, hrun⟩ := hbare
        have hrun : run < 2 := hrun
        rw [writeBasic_bare hrun]
        by_cases htriple : isTriple '"'
            ('"' :: (writeBasic true (run + 1) s ++ triple '"' ++ rest)) = true
        · -- the run goes on to the end of the text
          rcases writeBasic_run htriple with rfl | ⟨rfl, hone⟩
          · exact basicLines_closing (.inr (.inl rfl)) hrest
          · rw [hone]
            exact basicLines_closing (.inr (.inr rfl)) hrest
        · show basicLines .text ('"' :: (writeBasic true (run + 1) s ++ triple '"' ++ rest)) = _
          rw [basicLines_bare htriple, ih]
          rfl
      · rw [writeBasic, List.append_assoc, List.append_assoc]
        show reader true .text _ = _
        rw [reader_writeChar hbare, ← List.append_assoc]
        show prepend [c] (basicLines .text _) = _
        rw [ih]
        rfl

-- ====================================================== literal texts

theorem le_longestRun (q : Char) (run : Nat) (s : List Char) : run ≤ longestRun q run s := by
  induction s generalizing run with
  | nil => exact Nat.le_refl run
  | cons c s ih =>
      unfold longestRun
      split
      · exact Nat.le_trans (Nat.le_succ run) (ih (run + 1))
      · exact Nat.le_max_left _ _

theorem longestRun_mono (q : Char) {run run' : Nat} (h : run ≤ run') (s : List Char) :
    longestRun q run s ≤ longestRun q run' s := by
  induction s generalizing run run' with
  | nil => exact h
  | cons c s ih =>
      unfold longestRun
      split
      · exact ih (Nat.succ_le_succ h)
      · omega

/-- A run does not grow when the text in front of it is cut off. -/
theorem longestRun_tail (q : Char) (run : Nat) (c : Char) (s : List Char) :
    longestRun q 0 s ≤ longestRun q run (c :: s) := by
  rw [longestRun]
  split
  · exact longestRun_mono q (Nat.zero_le _) s
  · exact Nat.le_max_right _ _

/-- A text that the character is not in. -/
theorem ne_of_longestRun {q : Char} {s : List Char} (h : longestRun q 0 s = 0) :
    ∀ c ∈ s, c ≠ q := by
  induction s with
  | nil => exact nofun
  | cons c s ih =>
      have htail := Nat.le_zero.mp (h ▸ longestRun_tail q 0 c s)
      refine List.forall_mem_cons.mpr ⟨?_, ih htail⟩
      rintro rfl
      rw [longestRun, if_pos rfl] at h
      have hone := le_longestRun c (0 + 1) s
      omega

/-- A literal text on one line. -/
theorem literal_append {s : List Char} (hquote : ∀ c ∈ s, c ≠ '\'')
    (hplain : ∀ c ∈ s, isPlain c = true) (rest : List Char) :
    literal (s ++ '\'' :: rest) = some (s, rest) := by
  induction s with
  | nil => rfl
  | cons c s ih =>
      obtain ⟨hc, hquote⟩ := List.forall_mem_cons.mp hquote
      obtain ⟨hp, hplain⟩ := List.forall_mem_cons.mp hplain
      show literal (c :: (s ++ '\'' :: rest)) = _
      rw [literal, if_neg hc, if_pos hp, ih hquote hplain]
      rfl

/-- The closing quotes, with up to two of the text in front of them. -/
theorem literalLines_closing {qs rest : List Char}
    (hqs : qs = [] ∨ qs = ['\''] ∨ qs = ['\'', '\'']) (hrest : rest.head? ≠ some '\'') :
    literalLines (qs ++ triple '\'' ++ rest) = some (qs, rest) := by
  have hclose := closing_append hqs hrest
  have hall : qs ++ triple '\'' ++ rest = '\'' :: '\'' :: '\'' :: (qs ++ rest) := by
    rcases hqs with rfl | rfl | rfl <;> rfl
  rw [hall, literalLines, if_pos (isTriple_cons.mpr ⟨rfl, rfl, rfl⟩)]
  exact congrArg some hclose

/-- A text in which no three quotes come together starts with three only
where it ends. -/
theorem eq_of_isTriple {q : Char} {s rest : List Char} (hrun : longestRun q 0 s ≤ 2)
    (h : isTriple q (s ++ triple q ++ rest) = true) : s = [] ∨ s = [q] ∨ s = [q, q] := by
  match s with
  | [] => exact .inl rfl
  | [c] =>
      obtain ⟨rfl, -, -⟩ := isTriple_cons.mp h
      exact .inr (.inl rfl)
  | [c, d] =>
      obtain ⟨rfl, rfl, -⟩ := isTriple_cons.mp h
      exact .inr (.inr rfl)
  | c :: d :: e :: s =>
      obtain ⟨rfl, rfl, rfl⟩ := isTriple_cons.mp h
      have hthree := le_longestRun e (0 + 1 + 1 + 1) s
      simp only [longestRun, if_true] at hrun
      omega

/-- A literal text between triple quotes. -/
theorem literalLines_append {s : List Char} (hrun : longestRun '\'' 0 s ≤ 2)
    (hplain : ∀ c ∈ s, isPlain c = true ∨ c = '\n') {rest : List Char}
    (hrest : rest.head? ≠ some '\'') :
    literalLines (s ++ triple '\'' ++ rest) = some (s, rest) := by
  induction s with
  | nil => exact literalLines_closing (.inl rfl) hrest
  | cons c s ih =>
      obtain ⟨hp, hplain⟩ := List.forall_mem_cons.mp hplain
      by_cases htriple : isTriple '\'' (c :: s ++ triple '\'' ++ rest) = true
      · exact literalLines_closing (eq_of_isTriple hrun htriple) hrest
      · have htail := Nat.le_trans (longestRun_tail '\'' 0 c s) hrun
        show literalLines (c :: (s ++ triple '\'' ++ rest)) = _
        rw [literalLines, if_neg (by exact htriple), if_pos hp, ih htail hplain]
        rfl

-- ============================================================ any form

/-- What may follow a text in quotes: no further quote. -/
structure Unquoted (rest : List Char) : Prop where
  double : rest.head? ≠ some '"'
  single : rest.head? ≠ some '\''

theorem isTriple_two {q c : Char} {rest : List Char} (hrest : rest.head? ≠ some q) :
    isTriple q (q :: c :: rest) = false := by
  cases rest with
  | nil => simp [isTriple]
  | cons d rest =>
      refine Bool.eq_false_iff.mpr fun h => hrest ?_
      rw [(isTriple_cons.mp h).2.2]
      rfl

/-- A literal text on one line has neither quotes nor control characters
nor line feeds. -/
theorem formOf_literal {s : List Char} (h : formOf s = .literal) :
    (∀ c ∈ s, c ≠ '\'') ∧ ∀ c ∈ s, isPlain c = true := by
  simp only [formOf] at h
  split at h
  · cases h
  split at h
  next hform =>
    simp only [Bool.and_eq_true, Bool.not_eq_true', decide_eq_true_eq] at hform
    obtain ⟨⟨hcontrol, hsingle⟩, hlines⟩ := hform
    refine ⟨ne_of_longestRun hsingle, fun c hc => ?_⟩
    have hescape := List.any_eq_false.mp hcontrol c hc
    have hbreak : c ≠ '\n' := by
      rintro rfl
      rw [List.contains_iff_mem.mpr hc] at hlines
      cases hlines
    simpa [needsEscape, hbreak] using hescape
  split at h
  · cases h
  split at h
  · cases h
  split at h <;> cases h

/-- A literal text between triple quotes has no three of them in a row,
and no control characters but line feeds. -/
theorem formOf_literalLines {s : List Char} (h : formOf s = .literalLines) :
    longestRun '\'' 0 s ≤ 2 ∧ ∀ c ∈ s, isPlain c = true ∨ c = '\n' := by
  simp only [formOf] at h
  iterate 3
    split at h
    · cases h
  split at h
  next hform =>
    simp only [Bool.and_eq_true, Bool.not_eq_true', decide_eq_true_eq] at hform
    refine ⟨hform.2, fun c hc => ?_⟩
    have hescape := List.any_eq_false.mp hform.1 c hc
    rw [or_iff_not_imp_left]
    simpa [needsEscape] using hescape
  split at h <;> cases h

/-- The line break behind the opening quotes, where there is one. -/
theorem dropBreak_start {s body : List Char} (h : body.head? = some '\n' → '\n' ∈ s) :
    dropBreak ((if s.contains '\n' then ['\n'] else []) ++ body) = body := by
  split
  · rfl
  next hs =>
    cases body with
    | nil => rfl
    | cons c body =>
        have hc : c ≠ '\n' := fun hc => hs (List.contains_iff_mem.mpr (h (congrArg some hc)))
        unfold dropBreak
        split
        next heq => exact absurd (List.cons.inj heq).1 hc
        next => rfl

/-- What a bare text starts with. -/
theorem writeBasic_head {lines : Bool} {c : Char} (hbare : ¬ IsBare lines 0 c) (s : List Char) :
    ∃ d ds, writeBasic lines 0 (c :: s) = d :: ds ∧ d ≠ '"' ∧ (d = '\n' → c = '\n') := by
  obtain ⟨d, ds, hhead, hquote, hbreak⟩ := writeChar_head hbare
  exact ⟨d, ds ++ writeBasic lines (nextRun lines 0 c) s, by rw [writeBasic, hhead]; rfl,
    hquote, hbreak⟩

/-- An opening quote is not the first of three, if the text starts with
none, or is empty and not followed by one. -/
theorem isTriple_opening {q : Char} {body rest : List Char} (hbody : body.head? ≠ some q)
    (hrest : rest.head? ≠ some q) : isTriple q (q :: (body ++ q :: rest)) = false := by
  cases body with
  | nil => exact isTriple_two hrest
  | cons c body =>
      refine Bool.eq_false_iff.mpr fun h => hbody ?_
      cases hmore : body ++ q :: rest with
      | nil => simp at hmore
      | cons d more =>
          rw [List.cons_append, hmore] at h
          rw [(isTriple_cons.mp h).2.1]
          rfl

theorem read_double (tail : List Char) :
    read ('"' :: tail) =
      if isTriple '"' ('"' :: tail) then basicLines .text (dropBreak (tail.drop 2))
      else basic .text tail := rfl

theorem read_single (tail : List Char) :
    read ('\'' :: tail) =
      if isTriple '\'' ('\'' :: tail) then literalLines (dropBreak (tail.drop 2))
      else literal tail := rfl

/-- What is written is read, whatever follows that is no quote. -/
theorem read_write (s : List Char) {rest : List Char} (hrest : Unquoted rest) :
    read (write s ++ rest) = some (s, rest) := by
  cases hform : formOf s with
  | basic =>
      have hwrite : write s ++ rest = '"' :: (writeBasic false 0 s ++ '"' :: rest) := by
        simp [write, hform]
      have hhead : (writeBasic false 0 s).head? ≠ some '"' := by
        cases s with
        | nil => exact nofun
        | cons c s =>
            have hbare : ¬ IsBare false 0 c := fun h => absurd h.2 (by decide)
            obtain ⟨d, ds, hhead, hquote, -⟩ := writeBasic_head hbare s
            rw [hhead]
            exact fun h => hquote (Option.some.inj h)
      rw [hwrite, read_double, isTriple_opening hhead hrest.double, if_neg Bool.false_ne_true]
      exact basic_writeBasic s rest 0
  | literal =>
      obtain ⟨hquote, hplain⟩ := formOf_literal hform
      have hwrite : write s ++ rest = '\'' :: (s ++ '\'' :: rest) := by
        simp [write, hform]
      have hhead : s.head? ≠ some '\'' := fun h => hquote _ (List.mem_of_head? h) rfl
      rw [hwrite, read_single, isTriple_opening hhead hrest.single, if_neg Bool.false_ne_true]
      exact literal_append hquote hplain rest
  | basicLines =>
      have hwrite : write s ++ rest = '"' :: '"' :: '"' ::
          ((if s.contains '\n' then ['\n'] else []) ++
            (writeBasic true 0 s ++ triple '"' ++ rest)) := by
        simp [write, hform, triple]
      have hbreak : (writeBasic true 0 s ++ triple '"' ++ rest).head? = some '\n' → '\n' ∈ s := by
        cases s with
        | nil => exact fun h => absurd (Option.some.inj h) (by decide)
        | cons c s =>
            by_cases hbare : IsBare true 0 c
            · rw [hbare.1, writeBasic_bare (by decide)]
              exact fun h => absurd (Option.some.inj h) (by decide)
            · obtain ⟨d, ds, hhead, -, hd⟩ := writeBasic_head hbare s
              rw [hhead]
              exact fun h => hd (Option.some.inj h) ▸ List.mem_cons_self
      rw [hwrite, read_double, if_pos (isTriple_cons.mpr ⟨rfl, rfl, rfl⟩)]
      simp only [List.drop_succ_cons, List.drop_zero, dropBreak_start hbreak]
      exact basicLines_writeBasic s hrest.double 0
  | literalLines =>
      obtain ⟨hrun, hplain⟩ := formOf_literalLines hform
      have hwrite : write s ++ rest = '\'' :: '\'' :: '\'' ::
          ((if s.contains '\n' then ['\n'] else []) ++ (s ++ triple '\'' ++ rest)) := by
        simp [write, hform, triple]
      have hbreak : (s ++ triple '\'' ++ rest).head? = some '\n' → '\n' ∈ s := by
        cases s with
        | nil => exact fun h => absurd (Option.some.inj h) (by decide)
        | cons c s => exact fun h => List.mem_of_head? h
      rw [hwrite, read_single, if_pos (isTriple_cons.mpr ⟨rfl, rfl, rfl⟩)]
      simp only [List.drop_succ_cons, List.drop_zero, dropBreak_start hbreak]
      exact literalLines_append hrun hplain hrest.single

/-- What is written starts with a quote. -/
theorem write_cons (s : List Char) :
    ∃ q tail, write s = q :: tail ∧ (q = '"' ∨ q = '\'') := by
  cases hform : formOf s with
  | basic => exact ⟨'"', _, by simp only [write, hform]; rfl, .inl rfl⟩
  | literal => exact ⟨'\'', _, by simp only [write, hform]; rfl, .inr rfl⟩
  | basicLines => exact ⟨'"', _, by simp only [write, hform]; rfl, .inl rfl⟩
  | literalLines => exact ⟨'\'', _, by simp only [write, hform]; rfl, .inr rfl⟩

-- ================================================ carriage returns

theorem ne_return_of_isPlain {c : Char} (h : isPlain c = true) : c ≠ '\r' := by
  rintro rfl
  exact absurd h (by decide)

theorem ne_return_of_mem_writeChar {lines : Bool} {run : Nat} {c d : Char}
    (h : d ∈ writeChar lines run c) : d ≠ '\r' := by
  have digit : ∀ n < 16, (Nat.digitChar n).toUpper ≠ '\r' := by decide
  unfold writeChar at h
  split at h
  · split at h <;> split at h <;> exact ne_of_mem_of_not_mem h (by decide)
  split at h
  · exact ne_of_mem_of_not_mem h (by decide)
  split at h
  · split at h <;> exact ne_of_mem_of_not_mem h (by decide)
  iterate 4
    split at h
    · exact ne_of_mem_of_not_mem h (by decide)
  split at h
  next hplain => exact List.mem_singleton.mp h ▸ ne_return_of_isPlain hplain
  next =>
    simp only [hexDigits, List.map_cons, List.map_nil, List.mem_cons, List.not_mem_nil,
      or_false] at h
    rcases h with rfl | rfl | rfl | rfl | rfl | rfl
    · decide
    · decide
    iterate 4
      exact digit _ (Nat.mod_lt _ (by decide))

/-- A text in quotes has no carriage return: what stands for one is an
escape. -/
theorem ne_return_of_mem_write {s : List Char} {d : Char} (h : d ∈ write s) : d ≠ '\r' := by
  have basic {lines : Bool} (run : Nat) (s : List Char) (hd : d ∈ writeBasic lines run s) :
      d ≠ '\r' := by
    induction s generalizing run with
    | nil => cases hd
    | cons c s ih =>
        rcases List.mem_append.mp hd with hd | hd
        · exact ne_return_of_mem_writeChar hd
        · exact ih _ hd
  have start (hd : d ∈ if s.contains '\n' then ['\n'] else []) : d ≠ '\r' := by
    split at hd <;> exact ne_of_mem_of_not_mem hd (by decide)
  cases hform : formOf s with
  | basic =>
      simp only [write, hform, List.cons_append, List.mem_cons, List.mem_append,
        List.not_mem_nil, or_false] at h
      rcases h with rfl | h | rfl
      · decide
      · exact basic 0 s h
      · decide
  | literal =>
      simp only [write, hform, List.cons_append, List.mem_cons, List.mem_append,
        List.not_mem_nil, or_false] at h
      rcases h with rfl | h | rfl
      · decide
      · exact ne_return_of_isPlain ((formOf_literal hform).2 d h)
      · decide
  | basicLines =>
      simp only [write, hform, List.mem_append] at h
      rcases h with ((h | h) | h) | h
      · exact ne_of_mem_of_not_mem h (by decide)
      · exact start h
      · exact basic 0 s h
      · exact ne_of_mem_of_not_mem h (by decide)
  | literalLines =>
      simp only [write, hform, List.mem_append] at h
      rcases h with ((h | h) | h) | h
      · exact ne_of_mem_of_not_mem h (by decide)
      · exact start h
      · rcases (formOf_literalLines hform).2 d h with hplain | rfl
        · exact ne_return_of_isPlain hplain
        · decide
      · exact ne_of_mem_of_not_mem h (by decide)

end InstrumentBus.Toml.Quoted
