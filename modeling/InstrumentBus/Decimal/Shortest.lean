/-
The shortest decimal text of a floating-point number: the fewest digits
that read back as the same number, and of the candidates with that many
digits the one nearest to it.

The numbers that read back as `x` fill an interval around it, half way to
its neighbour on either side, ends included exactly when the significand
of `x` is even. `search` walks decimal grids from coarse to fine; on each
it looks at the two grid points around `x`, and the first grid that has
one inside the interval has the fewest digits. The text is positional: no
exponent, whatever the size.
-/
import InstrumentBus.Decimal

namespace InstrumentBus.Decimal

/-- A positive number `value / scale` with the ends of the interval that
reads back as it. -/
structure Interval where
  low : Nat
  value : Nat
  high : Nat
  scale : Nat
  -- the ends themselves read back as the number
  closed : Bool

namespace Interval

/-- The interval of a positive double, from its significand and binary
exponent. Below a power of two the neighbour is half as far away. -/
def ofSignificand (f : Binary) (m : Nat) (q : Int) : Interval :=
  let below := if m = 1 <<< (f.precision - 1) ∧ f.minExponent < q then 1 else 2
  let up := 1 <<< (q - 2).toNat
  { low := (4 * m - below) * up
    value := 4 * m * up
    high := (4 * m + 2) * up
    scale := 1 <<< (2 - q).toNat
    closed := m % 2 == 0 }

/-- The grid point `n` of a grid with spacing `step` lies inside. -/
def contains (i : Interval) (unit step n : Nat) : Bool :=
  let p := n * step
  if i.closed then i.low * unit ≤ p && p ≤ i.high * unit
  else i.low * unit < p && p < i.high * unit

/-- The point of the grid `10 ^ t` that lies inside the interval, as its
number on that grid: the nearer of the two around the value. -/
def onGrid (i : Interval) (t : Int) : Option Nat :=
  let unit := Nat.pow 10 (-t).toNat
  let step := i.scale * Nat.pow 10 t.toNat
  let v := i.value * unit
  let n := v / step
  match i.contains unit step n, i.contains unit step (n + 1) with
  | true, true => if v - n * step < (n + 1) * step - v then some n else some (n + 1)
  | true, false => some n
  | false, true => some (n + 1)
  | false, false => none

/-- The coarsest grid, from `10 ^ t` down, that has a point inside. -/
def search (i : Interval) : Nat → Int → Nat × Int
  | 0, t => (i.value * Nat.pow 10 (-t).toNat / (i.scale * Nat.pow 10 t.toNat), t)
  | fuel + 1, t =>
    match i.onGrid t with
    | some n => (n, t)
    | none => search i fuel (t - 1)

end Interval

/-- `n · 10 ^ t` written out without an exponent. -/
def positional (n : Nat) (t : Int) : String :=
  let digits := Nat.toDigits 10 n
  if 0 ≤ t then String.ofList (digits ++ List.replicate t.toNat '0')
  else
    let places := (-t).toNat
    let padded := List.replicate (places + 1 - digits.length) '0' ++ digits
    let whole := padded.take (padded.length - places)
    let fraction := padded.drop (padded.length - places)
    String.ofList (whole ++ '.' :: fraction)

/-- A power of ten no double reaches, from which the search goes down. -/
def coarsest : Int := 310

/-- The text of a double, given by its bit pattern. -/
def textOfDouble (bits : Nat) : String :=
  let f := Binary.double
  let magnitude := bits % f.signBit
  let sign := if f.signBit ≤ bits then "-" else ""
  let half := 1 <<< (f.precision - 1)
  if f.infinity < magnitude then "NaN"
  else if magnitude = f.infinity then sign ++ "inf"
  else if magnitude = 0 then sign ++ "0"
  else
    let field := magnitude / half
    let (m, q) :=
      if field = 0 then (magnitude, f.minExponent)
      else (magnitude % half + half, f.minExponent + (field - 1 : Nat))
    let (n, t) := (Interval.ofSignificand f m q).search 700 coarsest
    sign ++ positional n t

end InstrumentBus.Decimal
