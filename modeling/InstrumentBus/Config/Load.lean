/-
Loading a configuration: layers of settings laid over one another, read
as a configuration, and checked. The usual layers are the standard
settings, a file, and the environment, each winning over those before it.
-/
import InstrumentBus.Config.Environment
import InstrumentBus.Config.Schema

namespace InstrumentBus

/-- Why no configuration could be loaded. -/
inductive LoadFailure where
  -- a text is no TOML document, or one that uses a reserved key
  | malformed
  | mismatch (m : Mismatch)
  | invalid (o : Configuration.Objection)
  deriving DecidableEq, Repr

/-- One source of settings. -/
inductive Layer where
  | standard
  | document (source : Source) (text : String)
  | environment (env : Environment)
  deriving Repr

namespace Configuration

/-- A configuration as settings. -/
def toSetting (c : Configuration) : Setting :=
  let table (fields : List (String × Setting)) : Setting :=
    .table .builtIn (fields.foldl (fun fs p => Setting.put p.1 p.2 fs) [])
  let int (n : Int) : Setting := .integer .builtIn true n
  let text (s : String) : Setting := .text .builtIn s
  table
    [("log_level", text c.logLevel),
      ("bus", table
        [("board_index", int c.bus.board.toInt), ("timeout", text c.bus.timeout.name),
          ("terminator", text c.bus.terminator.name),
          ("assert_eoi", .boolean .builtIn c.bus.assertEnd),
          ("eos_char", int c.bus.eosCharacter.toNat), ("eos_flags", int c.bus.eosFlags.toNat)]),
      ("registry", table
        [("idle_threshold_secs", int c.registry.idleThreshold.toNat),
          ("sweep_interval_secs", int c.registry.sweepInterval.toNat)]),
      ("polling", table
        [("interval_ms", int c.polling.interval.toNat),
          ("timeout_ms", int c.polling.budget.toNat)]),
      ("scan", table
        [("min_primary", int c.scan.lowest.toNat), ("max_primary", int c.scan.highest.toNat)])]

end Configuration

/-- The settings of a layer. -/
def Layer.settings : Layer → Except LoadFailure Setting
  | .standard => .ok Configuration.standard.toSetting
  | .document source text =>
    match Toml.Document.ofText? text with
    | some fields =>
      if Setting.admitsFields fields then .ok (.table source (Setting.ofFields source fields))
      else .error .malformed
    | none => .error .malformed
  | .environment env => .ok env.settings

namespace Configuration

/-- The configuration that layers of settings make, the lowest first. A
text that is no document is reported before anything else. -/
def ofLayers (layers : List Layer) : Except LoadFailure Configuration := do
  let settings ← layers.mapM Layer.settings
  let merged := settings.foldl Setting.merge (.table .builtIn [])
  match part.read merged with
  | .error m => .error (.mismatch m)
  | .ok c =>
    match c.objection? with
    | some o => .error (.invalid o)
    | none => .ok c

/-- The layers of a program: standard settings, the file of a path if
there is one, the environment. -/
def usualLayers (path : String) (file : Option String) (env : Environment) : List Layer :=
  .standard :: (file.map fun text => Layer.document (.file path) text).toList ++
    [.environment env]

/-- The configuration of a program. -/
def load (path : String) (file : Option String) (env : Environment) :
    Except LoadFailure Configuration := ofLayers (usualLayers path file env)

end Configuration

/-- What is said of a failure to load. What is wrong with a text that is
no document is left to the reader of the text. -/
def LoadFailure.message : LoadFailure → String
  | .malformed => "Configuration load error: not a TOML document"
  | .mismatch m => "Configuration load error: " ++ m.message
  | .invalid o => "Configuration validation error: " ++ o.message

end InstrumentBus
