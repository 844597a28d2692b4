/-
The values of a TOML document. A table remembers how it came to be,
because that decides whether later lines of the document may add to it:
a table written inline is finished where it stands, one that a header has
named may not be named again, and one that came about as the parent of
another is still open to both.
-/
namespace InstrumentBus.Toml

/-- How a table came to be. -/
inductive Origin where
  -- it was written inline, as a value
  | inline
  -- a header named it
  | header
  -- a header named a table inside it
  | implied
  -- a dotted key led through it
  | dotted
  deriving DecidableEq, Repr, Inhabited

/-- A value. -/
inductive Value where
  | text (s : String)
  | integer (n : Int)
  -- a floating-point number by its bit pattern, if it is a number
  | float (bits : Option Nat)
  | boolean (b : Bool)
  -- a date, a time or both, as it was written
  | moment (s : String)
  | list (items : List Value)
  | table (origin : Origin) (fields : List (String × Value))
  -- the tables that headers in double brackets have added, in order
  | tables (elements : List (List (String × Value)))
  deriving Repr, Inhabited

/-- The contents of a table. -/
abbrev Fields := List (String × Value)

end InstrumentBus.Toml
