/-
Where an instrument sits on the bus: a primary address and an optional
secondary one. The type holds any pair of bytes, because discovery
reports whatever the driver saw; `Address.InRange` is the part of it that
a session may be opened for, and `Address.make?` is the door callers go
through.

A discovery result packs the pair into one sixteen-bit word, primary in
the low byte. `Address.word` and `Address.ofWord` are the two directions,
and neither loses anything (`Address.word_eq_iff`).
-/
namespace InstrumentBus

/-- The two-part address of an instrument. A zero secondary address means
that secondary addressing is not in use. -/
structure Address where
  primary : UInt8
  -- the secondary address, zero when unused
  secondary : UInt8
  deriving DecidableEq, Repr, Inhabited

namespace Address

/-- The lowest primary address a session may be opened for. -/
def minPrimary : UInt8 := 1

/-- The highest primary address a session may be opened for. -/
def maxPrimary : UInt8 := 30

/-- The highest secondary address. -/
def maxSecondary : UInt8 := 31

/-- The primary address is one a device can have. -/
def PrimaryInRange (p : UInt8) : Prop := minPrimary ≤ p ∧ p ≤ maxPrimary

instance (p : UInt8) : Decidable (PrimaryInRange p) :=
  inferInstanceAs (Decidable (_ ∧ _))

/-- Both parts are ones a device can have. -/
def InRange (a : Address) : Prop :=
  PrimaryInRange a.primary ∧ a.secondary ≤ maxSecondary

instance (a : Address) : Decidable a.InRange :=
  inferInstanceAs (Decidable (_ ∧ _))

/-- Whether secondary addressing is in use. -/
def hasSecondary (a : Address) : Bool := a.secondary != 0

/-- The resource name of the instrument: the secondary address appears
only when it is in use. -/
def text (a : Address) : String :=
  let p := toString a.primary
  if a.hasSecondary then
    let s := toString a.secondary
    s!"GPIB::{p}::{s}::INSTR"
  else s!"GPIB::{p}::INSTR"

-- ================================================= the packed word

/-- The packed form: primary in the low byte, secondary in the high. -/
def word (a : Address) : UInt16 :=
  .ofNat (a.primary.toNat + 256 * a.secondary.toNat)

/-- The address a packed word stands for. No range is checked: the
address is reported as the bus saw it. -/
def ofWord (w : UInt16) : Address :=
  ⟨.ofNat (w.toNat % 256), .ofNat (w.toNat / 256)⟩

theorem ofWord_word (a : Address) : ofWord a.word = a := by
  obtain ⟨p, s⟩ := a
  have hp : p.toNat < 256 := p.toNat_lt
  have hs : s.toNat < 256 := s.toNat_lt
  have hw : (UInt16.ofNat (p.toNat + 256 * s.toNat)).toNat = p.toNat + 256 * s.toNat := by
    simp only [UInt16.toNat_ofNat']; omega
  simp only [ofWord, word, hw, mk.injEq]
  constructor
  · apply UInt8.toNat_inj.1; simp only [UInt8.toNat_ofNat']; omega
  · apply UInt8.toNat_inj.1; simp only [UInt8.toNat_ofNat']; omega

theorem word_ofWord (w : UInt16) : (ofWord w).word = w := by
  have hw : w.toNat < 65536 := w.toNat_lt
  apply UInt16.toNat_inj.1
  simp only [ofWord, word, UInt8.toNat_ofNat', UInt16.toNat_ofNat']
  omega

theorem word_eq_iff {a : Address} {w : UInt16} : a.word = w ↔ a = ofWord w :=
  ⟨fun h => h ▸ (ofWord_word a).symm, fun h => h ▸ word_ofWord w⟩

-- ======================================================= the order

/-- Addresses in ascending order of primary, then secondary. -/
def le (a b : Address) : Bool :=
  a.primary < b.primary || (a.primary == b.primary && a.secondary ≤ b.secondary)

/-- `a` put in its place in an ascending list, in front of its equals. -/
def insertSorted (a : Address) : List Address → List Address
  | [] => [a]
  | b :: rest => if a.le b then a :: b :: rest else b :: insertSorted a rest

/-- The addresses in ascending order. -/
def sort (as : List Address) : List Address := as.foldr insertSorted []

/-- Equal neighbours reduced to one. -/
def dedup : List Address → List Address
  | [] => []
  | [a] => [a]
  | a :: b :: rest => if a = b then dedup (b :: rest) else a :: dedup (b :: rest)

end Address

end InstrumentBus
