/-
The environment overrides a file one item at a time.

A file that can be loaded by itself is loaded again, with some items set
by the environment. What comes of it is the configuration that the file
made, with those items replaced and the others as they were
(`Configuration.load_overridden`); whether it makes sense is asked anew.

For this the parts that the file has must be tables once they are read.
A file can write a part as a list, and then an item of the part is not
laid over the list but takes its place; and it can write a part as a table
that is read as a list, because the table holds the key that stands for
the whole table (`Setting.wrapper`). That a part is written as a table is
therefore not enough (`Configuration.wrapped_part_is_replaced`).
-/
import InstrumentBus.Proofs.Config.Variables

namespace InstrumentBus

namespace Setting

/-- Whatever table a value is read as, its keys ascend: it is the table
that was written, or the one that stands for it, or a moment. -/
theorem ascending_of_ofToml (source : Source) (v : Toml.Value) {source' : Source} {fs : Fields}
    (h : ofToml source v = .table source' fs) : Ascending fs := by
  cases hv : v with
  | moment s =>
      subst hv
      obtain ⟨-, rfl⟩ := Setting.table.inj h
      exact List.pairwise_singleton _ _
  | table origin fields =>
      subst hv
      change ofTable source (ofFields source fields) = _ at h
      unfold ofTable at h
      rw [get?_ofFields] at h
      cases hw : Keyed.get? fields wrapper with
      | none =>
          rw [hw] at h
          obtain ⟨-, rfl⟩ := Setting.table.inj h
          exact ascending_ofFields source fields
      | some w =>
          rw [hw] at h
          have hmem : (wrapper, w) ∈ fields := Keyed.mem_of_get? hw
          exact ascending_of_ofToml source w h
  | _ => subst hv; cases h
termination_by sizeOf v
decreasing_by
  subst hv
  have hpair := List.sizeOf_lt_of_mem hmem
  have hvalue : sizeOf w < sizeOf (wrapper, w) := by simp only [Prod.mk.sizeOf_spec]; omega
  simp only [Toml.Value.table.sizeOf_spec]
  omega

end Setting

instance : DecidablePred Setting.IsTable
  | .table source fs => .isTrue ⟨source, fs, rfl⟩
  | .boolean .. | .integer .. | .float .. | .text .. | .letter .. | .list .. => .isFalse nofun

namespace Configuration

/-- The parts that a file has are read as tables. -/
def PartsAreTables (path text : String) : Prop :=
  ∀ fields ∈ Toml.Document.ofText? text, ∀ s ∈ Setting.sections, ∀ v ∈ Keyed.get? fields s,
    (Setting.ofToml (.file path) v).IsTable

instance (path text : String) : Decidable (PartsAreTables path text) :=
  inferInstanceAs (Decidable (∀ fields ∈ _, ∀ s ∈ _, ∀ v ∈ Keyed.get? fields s, _))

/-- A file says nothing of an item. -/
def Omits (path text : String) (i : Item) : Prop :=
  ∀ fields ∈ Toml.Document.ofText? text,
    Setting.find? (Setting.ofFields (.file path) fields) i.path = none

/-- What a file is read as, if its parts are read as tables. -/
theorem ofFields_sectioned {path text : String} (h : PartsAreTables path text)
    {fields : Toml.Fields} (hfields : Toml.Document.ofText? text = some fields) :
    Setting.Sectioned (Setting.ofFields (.file path) fields) := by
  refine ⟨Setting.ascending_ofFields _ _, fun s hs w hw => ?_⟩
  rw [Setting.get?_ofFields, Option.map_eq_some_iff] at hw
  obtain ⟨v, hv, rfl⟩ := hw
  obtain ⟨source, sub, htable⟩ := h fields hfields s hs v hv
  exact ⟨source, sub, htable, Setting.ascending_of_ofToml _ v htable⟩

/-- What a program is started on has tables for parts, and where the file
says nothing of an item it has what is standard. -/
theorem footing_spec {path : String} {file : Option String} {base : Setting.Fields}
    (hfile : ∀ text ∈ file, PartsAreTables path text) (h : footing path file = some base) :
    Setting.Sectioned base ∧
      ∀ i, (∀ text ∈ file, Omits path text i) → i.Holds (Setting.find? base i.path) standard := by
  have hlowest := (toSetting_gives standard).bottom
  cases file with
  | none =>
      obtain rfl := Option.some.inj h
      exact ⟨hlowest.sectioned, fun i _ => hlowest.holds (Finset.mem_univ i)⟩
  | some text =>
      simp only [footing, Option.bind_eq_some_iff] at h
      obtain ⟨fields, hfields, hbase⟩ := h
      split at hbase
      next =>
        obtain rfl := Option.some.inj hbase
        have hsectioned := ofFields_sectioned (hfile text rfl) hfields
        refine ⟨hlowest.sectioned.mergeFields hsectioned, fun i hi => ?_⟩
        rw [Setting.find?_mergeFields hlowest.sectioned hsectioned, hi text rfl fields hfields]
        exact hlowest.holds (Finset.mem_univ i)
      next => cases hbase

/-- An environment that sets some items replaces these and no others in
what the file makes by itself. Items that are in neither are standard. -/
theorem load_overridden {path : String} {file : Option String} {env : Environment}
    {S : Finset Item} {a c : Configuration} (hfile : ∀ text ∈ file, PartsAreTables path text)
    (ha : load path file [] = .ok a) (hlevel : c.logLevel ∈ logLevels) (henv : env.Sets S c) :
    load path file env = (overlay S c a).verdict ∧
      (∀ i, i.get (overlay S c a) = if i ∈ S then i.get c else i.get a) ∧
      ∀ i ∉ S, (∀ text ∈ file, Omits path text i) →
        i.get (overlay S c a) = i.get standard := by
  obtain ⟨upper, hsettings, hupper⟩ := Environment.settings_give hlevel henv
  rw [load_eq (show Environment.settings [] = .table .environment [] from rfl)] at ha
  cases hbase : footing path file with
  | none => rw [hbase] at ha; cases ha
  | some base =>
      rw [hbase] at ha
      obtain ⟨hsectioned, hstandard⟩ := footing_spec hfile hbase
      have hread : part.readTable base = .ok a := eq_ok_of_judge ha
      refine ⟨?_, get_overlay S c a, fun i hi homits => ?_⟩
      · rw [load_eq hsettings, hbase]
        show judge (part.readTable (Setting.mergeFields base upper)) = _
        rw [readTable_overlay hsectioned hupper hread]
        rfl
      · have hholds := (readTable_eq_ok_iff hsectioned a).mp hread i
        have hstd := hstandard i homits
        rw [get_overlay, if_neg hi]
        unfold Item.Holds at hholds hstd
        split at hholds
        next v hv =>
          rw [hv] at hstd
          exact Except.ok.inj (hholds.symm.trans hstd)
        next => exact hholds

/-- A file that sets two items. -/
def pacedFile : String := "[bus]\nboard_index = 3\n\n[polling]\ninterval_ms = 20\n"

/-- Three seconds, and the longest time that a session may go unused. -/
def patient : Configuration :=
  { standard with
    bus := { BusSettings.standard with timeout := .s3 }
    registry := ⟨18446744073709551615, 60⟩ }

/-- An environment that sets these, and is not about this program alone. -/
def patience : Environment :=
  [("rust_gpib_Bus__Timeout", "3s"), ("PATH", "/usr/bin"),
    ("RUST_GPIB_REGISTRY__IDLE_THRESHOLD_SECS", "18446744073709551615")]

theorem load_overridden_patient :
    load "gpib.toml" (some pacedFile) patience = .ok
      { patient with
        bus := { patient.bus with board := 3 }
        polling := { patient.polling with interval := 20 } } := by
  have hfile : ∀ text ∈ some pacedFile, PartsAreTables "gpib.toml" text := by decide +kernel
  have ha : load "gpib.toml" (some pacedFile) [] = .ok
      { standard with
        bus := { BusSettings.standard with board := 3 }
        polling := { PollingSettings.standard with interval := 20 } } := by
    decide +kernel
  have henv : patience.Sets {.timeout, .idleThreshold} patient := by decide +kernel
  have hload := (load_overridden hfile ha (by decide) henv).1
  exact hload.trans (by decide +kernel)

-- ================================================= written as tables

/-- The value is a table, whatever it is read as. -/
def IsWrittenTable : Toml.Value → Prop
  | .table _ _ => True
  | _ => False

instance : DecidablePred IsWrittenTable
  | .table .. => .isTrue trivial
  | .text _ | .integer _ | .float _ | .boolean _ | .moment _ | .list _ | .tables _ => .isFalse id

/-- The parts that a file has are written as tables. -/
def PartsWrittenAsTables (text : String) : Prop :=
  ∀ fields ∈ Toml.Document.ofText? text, ∀ s ∈ Setting.sections, ∀ v ∈ Keyed.get? fields s,
    IsWrittenTable v

instance (text : String) : Decidable (PartsWrittenAsTables text) :=
  inferInstanceAs (Decidable (∀ fields ∈ _, ∀ s ∈ _, ∀ v ∈ Keyed.get? fields s, _))

/-- A table with a list in its place: the first item of the part is three. -/
def wrappedFile : String := "[bus]\n___figment_value_value = [3]\n"

/-- It is not enough that the parts are written as tables: an item that
the environment sets takes the place of the list, and the board that the
list names is lost. -/
theorem wrapped_part_is_replaced :
    ¬ ∀ (path : String) (file : Option String) (env : Environment) (S : Finset Item)
        (a c : Configuration), (∀ text ∈ file, PartsWrittenAsTables text) →
      load path file [] = .ok a → c.logLevel ∈ logLevels → env.Sets S c →
        load path file env = (overlay S c a).verdict := by
  intro h
  have hwritten : ∀ text ∈ some wrappedFile, PartsWrittenAsTables text := by decide +kernel
  have ha : load "gpib.toml" (some wrappedFile) [] = .ok
      { standard with bus := { BusSettings.standard with board := 3 } } := by
    decide +kernel
  have henv : Environment.Sets [("RUST_GPIB_BUS__TIMEOUT", "3s")] {.timeout} patient := by
    decide +kernel
  have hload := h "gpib.toml" (some wrappedFile) _ _ _ _ hwritten ha (by decide) henv
  exact absurd hload (by decide +kernel)

end Configuration
end InstrumentBus
