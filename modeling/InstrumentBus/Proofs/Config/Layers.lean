/-
The layers of a configuration.

The standard settings lie at the bottom, a file may lie on them, and the
environment lies on top. The settings below the environment are what a
program is started on (`Configuration.footing`), and loading is: laying
the environment over them, reading, and checking
(`Configuration.load_eq`). The settings of a configuration, written out
as the bottom layer is, give back each of its items.
-/
import InstrumentBus.Proofs.Config.Items

namespace InstrumentBus

-- ======================================================= written out

/-- The contents of a table; of anything else, none. -/
def Setting.contents : Setting → Setting.Fields
  | .table _ fs => fs
  | _ => []

/-- An item as a setting. Its texts and truth values are written as such,
its numbers as whole numbers, and everything else by name. -/
def Item.setting (source : Source) (signed : Bool) : (i : Item) → i.Value → Setting
  | .logLevel, s => .text source s
  | .timeout, t => .text source t.name
  | .terminator, t => .text source t.name
  | .assertEnd, b => .boolean source b
  | .board, n | .eosCharacter, n | .eosFlags, n | .idleThreshold, n | .sweepInterval, n
  | .pollInterval, n | .pollBudget, n | .lowest, n | .highest, n => .integer source signed n

theorem Setting.asInt_integer {k : IntKind} {n : Int} (h : k.holds n = true) (source : Source)
    (signed : Bool) : asInt k (.integer source signed n) = .ok n := if_pos h

/-- What an item is written as is read as the item. -/
theorem Item.read_setting (source : Source) (signed : Bool) (c : Configuration) (i : Item) :
    i.read (i.setting source signed (i.get c)) = .ok (i.get c) := by
  cases i with
  | logLevel => rfl
  | assertEnd => rfl
  | timeout => cases h : c.bus.timeout <;> simp only [Item.get, h] <;> rfl
  | terminator => cases h : c.bus.terminator <;> simp only [Item.get, h] <;> rfl
  | board => exact Setting.asInt_integer (IntKind.holds_int32 _) _ _
  | eosCharacter => exact Setting.asInt_integer (IntKind.holds_uInt8 _) _ _
  | eosFlags => exact Setting.asInt_integer (IntKind.holds_uInt16 _) _ _
  | idleThreshold => exact Setting.asInt_integer (IntKind.holds_uInt64 _) _ _
  | sweepInterval => exact Setting.asInt_integer (IntKind.holds_uInt64 _) _ _
  | pollInterval => exact Setting.asInt_integer (IntKind.holds_uInt64 _) _ _
  | pollBudget => exact Setting.asInt_integer (IntKind.holds_uInt64 _) _ _
  | lowest => exact Setting.asInt_integer (IntKind.holds_uInt8 _) _ _
  | highest => exact Setting.asInt_integer (IntKind.holds_uInt8 _) _ _

namespace Setting

theorem sectioned_nil : Sectioned [] := ⟨List.Pairwise.nil, fun _ _ _ h => nomatch h⟩

theorem Sectioned.put {fs : Fields} (h : Sectioned fs) {key : String} {v : Setting}
    (hv : key ∈ sections → ∃ source sub, v = .table source sub ∧ Ascending sub) :
    Sectioned (put key v fs) := by
  refine ⟨h.ascending.put key v, fun s hs w hw => ?_⟩
  rw [get?_put] at hw
  split at hw
  next hk =>
    subst hk
    obtain rfl := Option.some.inj hw
    exact hv hs
  next => exact h.parts s hs w hw

/-- Keys put one after the other. -/
theorem ascending_foldl_put (ps : List (String × Setting)) {fs : Fields} (h : Ascending fs) :
    Ascending (ps.foldl (fun fs p => put p.1 p.2 fs) fs) := by
  induction ps generalizing fs with
  | nil => exact h
  | cons p rest ih => exact ih (h.put p.1 p.2)

end Setting

namespace Configuration

/-- The settings of a configuration give all of its items. -/
theorem toSetting_gives (c : Configuration) : Gives c.toSetting.contents Finset.univ c where
  sectioned := by
    have part {ps : List (String × Setting)} : ∃ source sub,
        Setting.table .builtIn (ps.foldl (fun fs p => Setting.put p.1 p.2 fs) []) =
          .table source sub ∧ Setting.Ascending sub :=
      ⟨_, _, rfl, Setting.ascending_foldl_put ps List.Pairwise.nil⟩
    have level : "log_level" ∉ Setting.sections := by decide
    exact ((((Setting.sectioned_nil.put (absurd · level)).put fun _ => part).put
      fun _ => part).put fun _ => part).put fun _ => part
  given i _ := by
    refine ⟨i.setting .builtIn true (i.get c), ?_, i.read_setting _ _ c⟩
    cases i <;> simp [Setting.find?, Item.path, toSetting, Setting.contents, Setting.get?_put,
      Item.setting, Item.get]
  others i hi := absurd (Finset.mem_univ i) hi

/-- Settings laid over none. -/
theorem Gives.bottom {fs : Setting.Fields} {S : Finset Item} {c : Configuration}
    (h : Gives fs S c) : Gives (Setting.mergeFields [] fs) S c := by
  have hfind (i : Item) : Setting.find? (Setting.mergeFields [] fs) i.path =
      Setting.find? fs i.path := by
    rw [Setting.find?_mergeFields Setting.sectioned_nil h.sectioned]
    cases i <;> cases Setting.find? fs _ <;> rfl
  refine ⟨Setting.sectioned_nil.mergeFields h.sectioned, fun i hi => ?_, fun i hi => ?_⟩
  · rw [hfind]
    exact h.given i hi
  · rw [hfind]
    exact h.others i hi

/-- Settings that give every item are read as the configuration. -/
theorem Gives.readTable {fs : Setting.Fields} {c : Configuration} (h : Gives fs Finset.univ c) :
    part.readTable fs = .ok c :=
  (readTable_eq_ok_iff h.sectioned c).mpr fun i => h.holds (Finset.mem_univ i)

-- =========================================================== loading

/-- What the check of a configuration comes to. -/
def verdict (c : Configuration) : Except LoadFailure Configuration :=
  match c.objection? with
  | some o => .error (.invalid o)
  | none => .ok c

/-- What comes of settings that have been read. -/
def judge : Except Mismatch Configuration → Except LoadFailure Configuration
  | .error m => .error (.mismatch m)
  | .ok c => c.verdict

theorem eq_ok_of_judge {r : Except Mismatch Configuration} {a : Configuration}
    (h : judge r = .ok a) : r = .ok a := by
  cases r with
  | error m => cases h
  | ok c =>
      simp only [judge, verdict] at h
      split at h
      · cases h
      · rw [Except.ok.inj h]

/-- The settings below the environment: the standard ones, and the file
over them. There are none if the file is no document. -/
def footing (path : String) (file : Option String) : Option Setting.Fields :=
  let lowest := Setting.mergeFields [] standard.toSetting.contents
  match file with
  | none => some lowest
  | some text =>
    (Toml.Document.ofText? text).bind fun fields =>
      if Setting.admitsFields fields then
        some (Setting.mergeFields lowest (Setting.ofFields (.file path) fields))
      else none

/-- Loading is laying the environment over what is below it, reading, and
checking. -/
theorem load_eq {path : String} {file : Option String} {env : Environment}
    {upper : Setting.Fields} (henv : env.settings = .table .environment upper) :
    load path file env =
      match footing path file with
      | none => .error .malformed
      | some base => judge (part.readTable (Setting.mergeFields base upper)) := by
  cases file with
  | none =>
      show judge (part.read (((Setting.table .builtIn []).merge standard.toSetting).merge
        env.settings)) = _
      rw [henv]
      rfl
  | some text =>
      have hload : load path (some text) env =
          (Layer.settings (.document (.file path) text)).bind fun document =>
            judge (part.read ((((Setting.table .builtIn []).merge standard.toSetting).merge
              document).merge env.settings)) := by
        unfold load ofLayers usualLayers
        simp only [Option.map_some, Option.toList_some, List.cons_append, List.nil_append,
          List.mapM_cons, List.mapM_nil]
        cases Layer.settings (.document (.file path) text) with
        | error e => rfl
        | ok document => rfl
      rw [hload, henv]
      simp only [Layer.settings, footing]
      cases Toml.Document.ofText? text with
      | none => rfl
      | some fields =>
          simp only [Option.bind_some]
          split <;> rfl

/-- Only what makes sense is loaded. -/
theorem isValid_of_load {path : String} {file : Option String} {env : Environment}
    {c : Configuration} (h : load path file env = .ok c) : c.IsValid := by
  unfold load ofLayers at h
  cases hsettings : (usualLayers path file env).mapM Layer.settings with
  | error f =>
      rw [hsettings] at h
      cases h
  | ok settings =>
      simp only [hsettings, bind, Except.bind] at h
      split at h
      · cases h
      · split at h
        · cases h
        next hnone =>
          cases h
          exact hnone

end Configuration
end InstrumentBus
