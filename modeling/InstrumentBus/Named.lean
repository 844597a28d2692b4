/-
Values that are written by name: a finite type with one spelling per
value, and the complaint made about a spelling that belongs to none of
them. The timeout ladder and the line terminators are both of this kind,
and configuration files and scripts name them alike.
-/
namespace InstrumentBus

/-- A finite type whose values are written by name. -/
class Named (α : Type) where
  -- every value, in the order they are listed to a reader
  all : List α
  -- the spelling of a value
  name : α → String

namespace Named

/-- The value a spelling belongs to. Spellings are compared exactly. -/
def ofName? {α : Type} [Named α] (s : String) : Option α :=
  (all : List α).find? (fun a => name a == s)

/-- Every spelling, in listing order. -/
def names (α : Type) [Named α] : List String := (all : List α).map name

/-- The spellings a reader may choose from, each in backticks. -/
def choices (α : Type) [Named α] : String :=
  ", ".intercalate ((names α).map fun n => s!"`{n}`")

/-- What is said of a spelling that belongs to no value. -/
def complaint (α : Type) [Named α] (found : String) : String :=
  let expected := choices α
  s!"unknown variant `{found}`, expected one of {expected}"

end Named

end InstrumentBus
