/-
Settings read as a configuration. Each part of a configuration is a list
of fields; a field has a name, and an update that a setting of the right
type makes to the part. A part is written as a table, whose fields are
taken in the order of their keys and whose unknown keys mean nothing, or
as a list of values in the order of the fields, which may be cut short.
What is not set keeps its standard value.

The first setting of a wrong type ends the reading, with a `Mismatch`
that says what was found, what was expected, and where.
-/
import InstrumentBus.Config.Setting
import InstrumentBus.Configuration
import InstrumentBus.Text.Printable

namespace InstrumentBus

/-- What is wrong with a setting. -/
inductive Problem where
  | wrongType (found expected : String)
  | outOfRange (found expected : String)
  -- it is a word that names nothing
  | unknownName (found : String) (choices : String)
  deriving DecidableEq, Repr

/-- A setting that does not fit, with the keys that lead to it. -/
structure Mismatch where
  problem : Problem
  path : List String
  source : Source
  deriving DecidableEq, Repr

/-- What is said of the problem. -/
def Problem.message : Problem → String
  | .wrongType found expected => s!"invalid type: found {found}, expected {expected}"
  | .outOfRange found expected => s!"invalid value {found}, expected {expected}"
  | .unknownName found choices =>
    s!"unknown variant: found `{found}`, expected `one of {choices}`"

/-- What a source is called. -/
def Source.text : Source → String
  | .builtIn => "built-in settings"
  | .file path => path ++ " TOML file"
  | .inline => "TOML source string"
  | .environment => "`RUST_GPIB_` environment variable(s)"

/-- How the keys that lead to a setting are written. -/
def Source.key (source : Source) (path : List String) : String :=
  match source with
  | .environment => ".".intercalate (path.map fun k => String.ofList (k.toList.map Char.toUpper))
  | _ => ".".intercalate ("default" :: path)

/-- What is said of a mismatch. -/
def Mismatch.message (m : Mismatch) : String :=
  let problem := m.problem.message
  let key := Text.Printable.quote (m.source.key m.path)
  let source := m.source.text
  s!"{problem} for key {key} in {source}"

/-- A mismatch further down. -/
def Mismatch.under (key : String) (m : Mismatch) : Mismatch := { m with path := key :: m.path }

namespace Setting

/-- What a setting is called where it does not fit. -/
def describe : Setting → String
  | .boolean _ b => "bool " ++ toString b
  | .integer _ signed n =>
    let n := toString n
    if signed then s!"signed int `{n}`" else s!"unsigned int `{n}`"
  | .float _ bits =>
    let x := match bits with
      | some bits => Decimal.textOfDouble bits
      | none => "NaN"
    s!"float `{x}`"
  | .text _ s => "string " ++ Text.Printable.quote s
  | .letter _ c => "string " ++ Text.Printable.quote c.toString
  | .list _ _ => "sequence"
  | .table _ _ => "map"

/-- A setting of the wrong type. -/
def refuse {α : Type} (v : Setting) (expected : String) : Except Mismatch α :=
  .error ⟨.wrongType v.describe expected, [], v.source⟩

/-- A setting read as a whole number of a type. -/
def asInt (k : IntKind) (v : Setting) : Except Mismatch Int :=
  match v with
  | .integer source _ n =>
    if k.holds n then .ok n else .error ⟨.outOfRange v.describe k.name, [], source⟩
  | v => v.refuse k.name

/-- A setting read as a truth value. -/
def asBool : Setting → Except Mismatch Bool
  | .boolean _ b => .ok b
  | v => v.refuse "a boolean"

/-- A setting read as a text. -/
def asText : Setting → Except Mismatch String
  | .text _ s => .ok s
  | .letter _ c => .ok c.toString
  | v => v.refuse "a string"

/-- A word read as one of the values that are written by name. -/
def nameOf {α : Type} [Named α] (source : Source) (word : String) : Except Mismatch α :=
  match Named.ofName? word with
  | some a => .ok a
  | none => .error ⟨.unknownName word (Named.choices α), [], source⟩

/-- A setting read as a value that is written by name. A table would be a
name with something to it, which no such value has; its first key is still
looked at as a name, and whatever is wrong is wrong under that key. A
single character is no name. -/
def asNamed {α : Type} [Named α] (type : String) (v : Setting) : Except Mismatch α :=
  match v with
  | .text source word => nameOf source word
  | .table _ [] => v.refuse "enum"
  | .table _ ((word, inner) :: _) =>
    match (nameOf inner.source word : Except Mismatch α) with
    | .error m => .error (m.under word)
    | .ok _ => (inner.refuse "unit").mapError (·.under word)
  | v => v.refuse ("enum " ++ type)

end Setting

/-- One field of a part of a configuration. -/
structure Field (σ : Type) where
  name : String
  -- the change a setting makes to the part
  read : Setting → Except Mismatch (σ → σ)

/-- A part of a configuration: its name, its fields in order, and the
values they have when nothing is set. -/
structure Part (σ : Type) where
  type : String
  fields : List (Field σ)
  standard : σ

namespace Part

variable {σ : Type}

/-- The change that one setting of a table makes. -/
def update (p : Part σ) (key : String) (v : Setting) (s : σ) : Except Mismatch σ :=
  match p.fields.find? (·.name == key) with
  | some f => ((f.read v).map (· s)).mapError (·.under key)
  | none => .ok s

/-- A part read from the fields of a table. -/
def readTable (p : Part σ) (fields : Setting.Fields) : Except Mismatch σ :=
  fields.foldlM (fun s (key, v) => p.update key v s) p.standard

/-- The changes that the items of a list make, the first of them item
`index`. -/
def readItems : List (Field σ) → Nat → List Setting → σ → Except Mismatch σ
  | f :: fields, index, v :: items, s =>
    match f.read v with
    | .ok change => readItems fields (index + 1) items (change s)
    | .error m => .error (m.under (toString index))
  | _, _, _, s => .ok s

/-- A part read from a setting. -/
def read (p : Part σ) (v : Setting) : Except Mismatch σ :=
  match v with
  | .table _ fields => p.readTable fields
  | .list _ items => readItems p.fields 0 items p.standard
  | v => v.refuse ("struct " ++ p.type)

end Part

/-- A field that is read as a value and put in its place. -/
def Field.ofLens {σ α : Type} (name : String) (read : Setting → Except Mismatch α)
    (place : α → σ → σ) : Field σ := ⟨name, fun v => (read v).map place⟩

/-- How sessions are opened. -/
def BusSettings.part : Part BusSettings where
  type := "BusConfig"
  standard := .standard
  fields :=
    [.ofLens "board_index" (·.asInt .i32) fun n s => { s with board := .ofInt n },
      .ofLens "timeout" (·.asNamed "TimeoutLevel") fun t s => { s with timeout := t },
      .ofLens "terminator" (·.asNamed "LineTerminator") fun t s => { s with terminator := t },
      .ofLens "assert_eoi" (·.asBool) fun b s => { s with assertEnd := b },
      .ofLens "eos_char" (·.asInt .u8) fun n s => { s with eosCharacter := .ofNat n.toNat },
      .ofLens "eos_flags" (·.asInt .u16) fun n s => { s with eosFlags := .ofNat n.toNat }]

/-- When sessions are given up. -/
def RegistrySettings.part : Part RegistrySettings where
  type := "RegistryConfig"
  standard := .standard
  fields :=
    [.ofLens "idle_threshold_secs" (·.asInt .u64) fun n s =>
        { s with idleThreshold := .ofNat n.toNat },
      .ofLens "sweep_interval_secs" (·.asInt .u64) fun n s =>
        { s with sweepInterval := .ofNat n.toNat }]

/-- How waits are paced. -/
def PollingSettings.part : Part PollingSettings where
  type := "PollingConfig"
  standard := .standard
  fields :=
    [.ofLens "interval_ms" (·.asInt .u64) fun n s => { s with interval := .ofNat n.toNat },
      .ofLens "timeout_ms" (·.asInt .u64) fun n s => { s with budget := .ofNat n.toNat }]

/-- Which addresses are looked at. -/
def ScanSettings.part : Part ScanSettings where
  type := "ScanConfig"
  standard := .standard
  fields :=
    [.ofLens "min_primary" (·.asInt .u8) fun n s => { s with lowest := .ofNat n.toNat },
      .ofLens "max_primary" (·.asInt .u8) fun n s => { s with highest := .ofNat n.toNat }]

/-- The whole configuration. -/
def Configuration.part : Part Configuration where
  type := "GpibConfig"
  standard := .standard
  fields :=
    [.ofLens "log_level" (·.asText) fun t s => { s with logLevel := t },
      .ofLens "bus" BusSettings.part.read fun b s => { s with bus := b },
      .ofLens "registry" RegistrySettings.part.read fun r s => { s with registry := r },
      .ofLens "polling" PollingSettings.part.read fun p s => { s with polling := p },
      .ofLens "scan" ScanSettings.part.read fun r s => { s with scan := r }]

end InstrumentBus
