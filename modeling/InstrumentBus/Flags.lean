/-
Words whose bits have names. A word is kept as it came, unknown bits
included; this file says which of the named bits are set, what is left
over, and how the whole is shown.
-/
namespace InstrumentBus.Flags

/-- A table of named bits, in declaration order. -/
abbrev Table := List (String × Nat)

/-- The named bit `mask` is set in `bits`. -/
def has (bits mask : Nat) : Bool := bits &&& mask == mask

/-- The named bits set in `bits`, in declaration order. -/
def names (table : Table) (bits : Nat) : List String :=
  (table.filter fun entry => has bits entry.2).map (·.1)

/-- All bits of a table. -/
def known (table : Table) : Nat := table.foldl (fun acc entry => acc ||| entry.2) 0

/-- The bits of a word that its table names. -/
def truncate (table : Table) (bits : Nat) : Nat := bits &&& known table

/-- The bits of a word that its table does not name. -/
def unknown (table : Table) (bits : Nat) : Nat := bits ^^^ truncate table bits

/-- A number in hexadecimal, with lower-case digits and no padding. -/
def hex (n : Nat) : String := String.ofList (Nat.toDigits 16 n)

/-- How a word is shown: its set names in declaration order, then the
unknown bits as one hexadecimal number; an empty word shows as zero. -/
def text (typeName : String) (table : Table) (bits : Nat) : String :=
  let rest := unknown table bits
  let parts := names table bits ++ (if rest = 0 then [] else ["0x" ++ hex rest])
  let inner := if parts.isEmpty then "0x0" else " | ".intercalate parts
  s!"{typeName}({inner})"

end InstrumentBus.Flags
