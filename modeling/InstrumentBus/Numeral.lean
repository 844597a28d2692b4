/-
Whole numbers in text: an optional sign and one or more ASCII digits,
nothing else. The value is exact, whatever the number of digits; whether
it fits the type it is wanted for is asked afterwards (`IntKind.holds`),
so nothing wraps and nothing saturates. A minus sign is part of the
grammar of the signed types alone: "-0" is no unsigned number.
-/
namespace InstrumentBus

/-- The integer types a response can be read as. -/
inductive IntKind where
  | i8 | i16 | i32 | i64 | u8 | u16 | u32 | u64 | usize
  deriving DecidableEq, Repr, Inhabited

namespace IntKind

/-- Every integer type. -/
def all : List IntKind := [.i8, .i16, .i32, .i64, .u8, .u16, .u32, .u64, .usize]

/-- The name of an integer type. -/
def name : IntKind → String
  | .i8 => "i8"
  | .i16 => "i16"
  | .i32 => "i32"
  | .i64 => "i64"
  | .u8 => "u8"
  | .u16 => "u16"
  | .u32 => "u32"
  | .u64 => "u64"
  | .usize => "usize"

/-- Whether the type has negative values. -/
def signed : IntKind → Bool
  | .i8 | .i16 | .i32 | .i64 => true
  | .u8 | .u16 | .u32 | .u64 | .usize => false

/-- The width of the type in bits. -/
def bits : IntKind → Nat
  | .i8 | .u8 => 8
  | .i16 | .u16 => 16
  | .i32 | .u32 => 32
  | .i64 | .u64 | .usize => 64

/-- The least value of the type. -/
def min (k : IntKind) : Int := if k.signed then -(1 <<< (k.bits - 1) : Nat) else 0

/-- The greatest value of the type. -/
def max (k : IntKind) : Int :=
  if k.signed then (1 <<< (k.bits - 1) : Nat) - 1 else (1 <<< k.bits : Nat) - 1

/-- The value lies in the type's range. -/
def holds (k : IntKind) (v : Int) : Bool := k.min ≤ v && v ≤ k.max

end IntKind

namespace Numeral

/-- An ASCII digit. -/
def isDigit (c : Char) : Bool := '0' ≤ c && c ≤ '9'

/-- The value of an ASCII digit. -/
def digitValue (c : Char) : Nat := c.toNat - 48

/-- The number a run of digits stands for. -/
def value (ds : List Char) : Nat := ds.foldl (fun acc c => acc * 10 + digitValue c) 0

/-- One or more digits, as the number they stand for. -/
def digits? (s : List Char) : Option Nat :=
  if s ≠ [] ∧ s.all isDigit then some (value s) else none

/-- A whole number: digits after an optional plus sign or, where `signed`
allows it, an optional minus sign. -/
def parse? (signed : Bool) (s : List Char) : Option Int :=
  match s with
  | '+' :: rest => (digits? rest).map Int.ofNat
  | '-' :: rest => if signed then (digits? rest).map fun n => -(n : Int) else none
  | s => (digits? s).map Int.ofNat

/-- A whole number of the given type. -/
def ofKind? (k : IntKind) (s : List Char) : Option Int :=
  (parse? k.signed s).bind fun v => if k.holds v then some v else none

end Numeral

end InstrumentBus
