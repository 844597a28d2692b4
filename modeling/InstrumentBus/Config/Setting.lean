/-
Settings as they are found, before anybody asks what they should have
been: a tree of values, each of which knows where it came from. Trees of
several sources are laid over one another (`Setting.merge`): of two
tables every key is kept, and of anything else the later value wins.

The fields of a table are in ascending order of their keys, and each key
is there once.
-/
import InstrumentBus.Decimal.Shortest
import InstrumentBus.Keyed
import InstrumentBus.Toml.Document

namespace InstrumentBus

/-- Where a setting came from. -/
inductive Source where
  | builtIn
  | file (path : String)
  -- a text that was given as such
  | inline
  | environment
  deriving DecidableEq, Repr, Inhabited

/-- A setting as it is found. -/
inductive Setting where
  | boolean (source : Source) (b : Bool)
  -- a whole number, and whether it was read as one that may have a
  -- sign
  | integer (source : Source) (signed : Bool) (n : Int)
  -- a floating-point number by its bit pattern, if it is a number
  | float (source : Source) (bits : Option Nat)
  | text (source : Source) (s : String)
  -- one character that was written as such
  | letter (source : Source) (c : Char)
  | list (source : Source) (items : List Setting)
  | table (source : Source) (fields : List (String × Setting))
  deriving Repr, Inhabited

namespace Setting

/-- The contents of a table. -/
abbrev Fields := List (String × Setting)

/-- Where a setting came from. -/
def source : Setting → Source
  | .boolean source _ | .integer source _ _ | .float source _ | .text source _
  | .letter source _ | .list source _ | .table source _ => source

/-- A setting put under a key, in place of the one there. -/
def put (key : String) (v : Setting) : Fields → Fields
  | [] => [(key, v)]
  | (k, w) :: rest =>
    if key = k then (k, v) :: rest
    else if key < k then (key, v) :: (k, w) :: rest
    else (k, w) :: put key v rest

-- ========================================================= laid over

mutual

/-- A setting laid over another. -/
def merge (lower upper : Setting) : Setting :=
  match upper with
  | .table source fields =>
    match lower with
    | .table _ base => .table source (mergeFields base fields)
    | _ => .table source fields
  | upper => upper

/-- Fields laid over others, key by key. -/
def mergeFields (base fields : Fields) : Fields :=
  match fields with
  | [] => base
  | (k, v) :: rest =>
    let v := match Keyed.get? base k with
      | some w => merge w v
      | none => v
    mergeFields (put k v base) rest

end

-- ============================================================ of TOML

/-- What stands in for a date or time: a table of one field, whose name
nobody would choose. -/
def moment (source : Source) (s : String) : Setting :=
  .table source [("$__toml_private_datetime", .text source s)]

/-- The key in a table whose value stands for the whole table. -/
def wrapper : String := "___figment_value_value"

/-- The key in a table that is kept for numbering it, and not open to
documents. -/
def reserved : String := "___figment_value_id"

/-- A table of a document as a setting: the value under `wrapper`, where
there is one. -/
def ofTable (source : Source) (fields : Fields) : Setting :=
  (Keyed.get? fields wrapper).getD (.table source fields)

mutual

/-- A value of a TOML document as a setting. -/
def ofToml (source : Source) : Toml.Value → Setting
  | .text s => .text source s
  | .integer n => .integer source true n
  | .float bits => .float source bits
  | .boolean b => .boolean source b
  | .moment s => moment source s
  | .list items => .list source (ofItems source items)
  | .table _ fields => ofTable source (ofFields source fields)
  | .tables elements => .list source (ofElements source elements)

/-- The items of a list as settings. -/
def ofItems (source : Source) : List Toml.Value → List Setting
  | [] => []
  | v :: rest => ofToml source v :: ofItems source rest

/-- The contents of a table as settings. -/
def ofFields (source : Source) : List (String × Toml.Value) → Fields
  | [] => []
  | (k, v) :: rest => put k (ofToml source v) (ofFields source rest)

/-- Tables as settings. -/
def ofElements (source : Source) : List (List (String × Toml.Value)) → List Setting
  | [] => []
  | fields :: rest => ofTable source (ofFields source fields) :: ofElements source rest

end

mutual

/-- A value of a TOML document in which no table uses the reserved key. -/
def admits : Toml.Value → Bool
  | .list items => admitsItems items
  | .table _ fields => (Keyed.get? fields reserved).isNone && admitsFields fields
  | .tables elements => admitsElements elements
  | .text _ | .integer _ | .float _ | .boolean _ | .moment _ => true

/-- Items none of which use the reserved key. -/
def admitsItems : List Toml.Value → Bool
  | [] => true
  | v :: rest => admits v && admitsItems rest

/-- Contents of a table none of which use the reserved key. -/
def admitsFields : List (String × Toml.Value) → Bool
  | [] => true
  | (_, v) :: rest => admits v && admitsFields rest

/-- Tables that do not use the reserved key. -/
def admitsElements : List (List (String × Toml.Value)) → Bool
  | [] => true
  | fields :: rest =>
    (Keyed.get? fields reserved).isNone && admitsFields fields && admitsElements rest

end

end Setting

end InstrumentBus
