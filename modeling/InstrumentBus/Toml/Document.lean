/-
A TOML document put together from its lines. A header opens a table, and
the keys that follow it go into that table; keys in front of any header
go into the document itself. Nothing may be said twice: a key has one
value, a table one header, and a table that was written inline, or by
dotted keys, cannot be opened by a header.
-/
import InstrumentBus.Toml.Line

namespace InstrumentBus.Toml.Document

/-- A change made to the table that a header leads to. Tables on the way
that are not there come about; of an array of tables the last is meant. -/
def atHeader (under : Fields → Option Fields) : List String → Fields → Option Fields
  | [], fs => under fs
  | k :: rest, fs =>
    match Keyed.get? fs k with
    | none => (atHeader under rest []).map fun sub => Keyed.set fs k (.table .implied sub)
    | some (.table .inline _) => none
    | some (.table origin sub) =>
      (atHeader under rest sub).map fun sub => Keyed.set fs k (.table origin sub)
    | some (.tables elements) => do
      let last ← elements.getLast?
      let sub ← atHeader under rest last
      return Keyed.set fs k (.tables (elements.dropLast ++ [sub]))
    | some _ => none

/-- A table opened by its header. -/
def openTable (name : String) (fs : Fields) : Option Fields :=
  match Keyed.get? fs name with
  | none => some (Keyed.set fs name (.table .header []))
  | some (.table .implied sub) => some (Keyed.set fs name (.table .header sub))
  | some _ => none

/-- A further table of an array opened by its header. -/
def openElement (name : String) (fs : Fields) : Option Fields :=
  match Keyed.get? fs name with
  | none => some (Keyed.set fs name (.tables [[]]))
  | some (.tables elements) => some (Keyed.set fs name (.tables (elements ++ [[]])))
  | some _ => none

/-- A document in the making: the header in force, and the contents so
far. -/
structure Draft where
  header : List String
  fields : Fields

/-- A line added to a document. -/
def add (d : Draft) : Line → Option Draft
  | .pair key v => do
    let fields ← atHeader (Line.put key v) d.header d.fields
    return { d with fields }
  | .table key => do
    let name ← key.getLast?
    let fields ← atHeader (openTable name) key.dropLast d.fields
    return ⟨key, fields⟩
  | .element key => do
    let name ← key.getLast?
    let fields ← atHeader (openElement name) key.dropLast d.fields
    return ⟨key, fields⟩

/-- The contents of a document. -/
def ofLines? (lines : List Line) : Option Fields :=
  (lines.foldlM add ⟨[], []⟩).map (·.fields)

/-- The document that a text is. -/
def ofText? (s : String) : Option Fields := (Line.ofText? s.toList).bind ofLines?

end InstrumentBus.Toml.Document
