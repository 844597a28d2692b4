/-
The thirteen settings of a configuration, each by itself.

A configuration is a record of records, and its settings are a table of
tables. Both are looked at here one value at a time: an item has a place
in the configuration (`Item.get`), a path that leads to its setting
(`Item.path`), and a reader. Where the parts of a table of settings are
tables (`Setting.Sectioned`), a configuration is read from it exactly if
each item is read from what is found under its path, or has its standard
value where nothing is found (`Configuration.readTable_eq_ok_iff`).

Settings are laid over settings the same way, path by path. So whatever
gives some of the items, and gives nothing else, changes those and leaves
the others as they were (`Configuration.readTable_overlay`). Were one of
the parts below no table, this would fail: the other items of the part
would be lost with it.
-/
import InstrumentBus.Proofs.Config.Reading
import Mathlib.Data.Fintype.Basic

namespace InstrumentBus

/-- One setting of a configuration. -/
inductive Item where
  | logLevel
  | board | timeout | terminator | assertEnd | eosCharacter | eosFlags
  | idleThreshold | sweepInterval
  | pollInterval | pollBudget
  | lowest | highest
  deriving DecidableEq, Repr

namespace Item

instance : Fintype Item where
  elems := {.logLevel, .board, .timeout, .terminator, .assertEnd, .eosCharacter, .eosFlags,
    .idleThreshold, .sweepInterval, .pollInterval, .pollBudget, .lowest, .highest}
  complete i := by cases i <;> decide

/-- The keys that lead to an item. -/
def path : Item → List String
  | .logLevel => ["log_level"]
  | .board => ["bus", "board_index"]
  | .timeout => ["bus", "timeout"]
  | .terminator => ["bus", "terminator"]
  | .assertEnd => ["bus", "assert_eoi"]
  | .eosCharacter => ["bus", "eos_char"]
  | .eosFlags => ["bus", "eos_flags"]
  | .idleThreshold => ["registry", "idle_threshold_secs"]
  | .sweepInterval => ["registry", "sweep_interval_secs"]
  | .pollInterval => ["polling", "interval_ms"]
  | .pollBudget => ["polling", "timeout_ms"]
  | .lowest => ["scan", "min_primary"]
  | .highest => ["scan", "max_primary"]

/-- What an item is read as. -/
abbrev Value : Item → Type
  | .logLevel => String
  | .timeout => Timeout
  | .terminator => Terminator
  | .assertEnd => Bool
  | .board | .eosCharacter | .eosFlags | .idleThreshold | .sweepInterval
  | .pollInterval | .pollBudget | .lowest | .highest => Int

/-- An item of a configuration. -/
def get (c : Configuration) : (i : Item) → i.Value
  | .logLevel => c.logLevel
  | .board => c.bus.board.toInt
  | .timeout => c.bus.timeout
  | .terminator => c.bus.terminator
  | .assertEnd => c.bus.assertEnd
  | .eosCharacter => c.bus.eosCharacter.toNat
  | .eosFlags => c.bus.eosFlags.toNat
  | .idleThreshold => c.registry.idleThreshold.toNat
  | .sweepInterval => c.registry.sweepInterval.toNat
  | .pollInterval => c.polling.interval.toNat
  | .pollBudget => c.polling.budget.toNat
  | .lowest => c.scan.lowest.toNat
  | .highest => c.scan.highest.toNat

/-- How an item is read. -/
def read (v : Setting) : (i : Item) → Except Mismatch i.Value
  | .logLevel => v.asText
  | .board => v.asInt .i32
  | .timeout => v.asNamed "TimeoutLevel"
  | .terminator => v.asNamed "LineTerminator"
  | .assertEnd => v.asBool
  | .eosCharacter => v.asInt .u8
  | .eosFlags => v.asInt .u16
  | .idleThreshold => v.asInt .u64
  | .sweepInterval => v.asInt .u64
  | .pollInterval => v.asInt .u64
  | .pollBudget => v.asInt .u64
  | .lowest => v.asInt .u8
  | .highest => v.asInt .u8

/-- A configuration has in an item what was found for it; where nothing
was, the standard value. -/
def Holds (i : Item) (found : Option Setting) (c : Configuration) : Prop :=
  match found with
  | some v => i.read v = .ok (i.get c)
  | none => i.get c = i.get .standard

theorem path_injective : ∀ {i j : Item}, i.path = j.path → i = j := by decide +kernel

theorem forall_iff {P : Item → Prop} :
    (∀ i, P i) ↔ P .logLevel ∧ (P .board ∧ P .timeout ∧ P .terminator ∧ P .assertEnd ∧
      P .eosCharacter ∧ P .eosFlags) ∧ (P .idleThreshold ∧ P .sweepInterval) ∧
      (P .pollInterval ∧ P .pollBudget) ∧ P .lowest ∧ P .highest := by
  refine ⟨fun h => by simp only [h, and_self], fun h i => ?_⟩
  obtain ⟨h1, ⟨h2, h3, h4, h5, h6, h7⟩, ⟨h8, h9⟩, ⟨h10, h11⟩, h12, h13⟩ := h
  cases i <;> assumption

end Item

namespace Setting

-- ============================================================== paths

/-- The keys that parts of a configuration are under. -/
def sections : List String := ["bus", "registry", "polling", "scan"]

/-- What is found in a table under a path of keys. -/
def find? (fs : Fields) : List String → Option Setting
  | [] => none
  | [key] => Keyed.get? fs key
  | key :: path =>
    match Keyed.get? fs key with
    | some (.table _ sub) => find? sub path
    | _ => none

/-- The keys of a table ascend, and each part that it has is a table whose
keys ascend as well. -/
structure Sectioned (fs : Fields) : Prop where
  ascending : Ascending fs
  parts : ∀ s ∈ sections, ∀ w, Keyed.get? fs s = some w →
    ∃ source sub, w = .table source sub ∧ Ascending sub

/-- A key of a part that is a table, or not there. -/
theorem Sectioned.part {fs : Fields} (h : Sectioned fs) {s : String} (hs : s ∈ sections) :
    (Keyed.get? fs s = none ∧ ∀ key, find? fs [s, key] = none) ∨
      ∃ source sub, Keyed.get? fs s = some (.table source sub) ∧ Ascending sub ∧
        ∀ key, find? fs [s, key] = Keyed.get? sub key := by
  cases hw : Keyed.get? fs s with
  | none => exact .inl ⟨rfl, fun key => by simp only [find?, hw]⟩
  | some w =>
      obtain ⟨source, sub, rfl, hsub⟩ := h.parts s hs w hw
      exact .inr ⟨source, sub, rfl, hsub, fun key => by simp only [find?, hw]⟩

theorem Sectioned.mergeFields {base fs : Fields} (hbase : Sectioned base) (hfs : Sectioned fs) :
    Sectioned (mergeFields base fs) := by
  refine ⟨hbase.ascending.mergeFields fs, fun s hs w hw => ?_⟩
  rw [get?_mergeFields hfs.ascending] at hw
  rcases hfs.part hs with ⟨hupper, -⟩ | ⟨source, sub, hupper, hsub, -⟩
  · rw [hupper] at hw
    exact hbase.parts s hs w hw
  · rcases hbase.part hs with ⟨hlower, -⟩ | ⟨source', sub', hlower, hsub', -⟩ <;>
      rw [hupper, hlower] at hw <;> obtain rfl := Option.some.inj hw
    · exact ⟨source, sub, rfl, hsub⟩
    · exact ⟨source, _, rfl, hsub'.mergeFields sub⟩

/-- The path of an item: one key of the whole, or a key of a part. -/
theorem path_cases (i : Item) :
    i.path = ["log_level"] ∨ ∃ s ∈ sections, ∃ key, i.path = [s, key] := by
  cases i <;> simp [Item.path, sections]

/-- Two tables laid over one another, item by item. -/
theorem find?_mergeFields {base fs : Fields} (hbase : Sectioned base) (hfs : Sectioned fs)
    (i : Item) :
    find? (mergeFields base fs) i.path = laid (find? base i.path) (find? fs i.path) := by
  rcases path_cases i with hpath | ⟨s, hs, key, hpath⟩
  · rw [hpath]
    exact get?_mergeFields hfs.ascending base _
  · rw [hpath]
    have hmerge := get?_mergeFields hfs.ascending base s
    rcases hfs.part hs with ⟨hupper, hnone⟩ | ⟨source, sub, hupper, hsub, hfind⟩
    · rw [hupper] at hmerge
      rw [hnone]
      simp only [find?, hmerge, laid]
    · rcases hbase.part hs with ⟨hlower, hnone⟩ | ⟨source', sub', hlower, hsub', hfind'⟩ <;>
        rw [hupper, hlower] at hmerge
      · rw [hnone, hfind]
        simp only [find?, hmerge, laid]
        cases Keyed.get? sub key <;> rfl
      · rw [hfind', hfind]
        simp only [find?, hmerge, laid, merge_table]
        exact get?_mergeFields hsub sub' key

end Setting

-- ============================================================ reading

/-- A part of a configuration that is a table, or not there. -/
theorem Part.Laid.holds_section {σ : Type} {p : Part σ} {slots : List (Slot σ)} (h : p.Laid slots)
    {fs : Setting.Fields} (hfs : Setting.Sectioned fs) {s : String} (hs : s ∈ Setting.sections)
    (t : σ) :
    (match Keyed.get? fs s with
      | some v => p.read v = .ok t
      | none => t = p.standard) ↔
      ∀ l ∈ slots, l.Holds (Setting.find? fs [s, l.name]) p.standard t := by
  rcases hfs.part hs with ⟨hget, hnone⟩ | ⟨source, sub, hget, hsub, hfind⟩
  · simp only [hget, hnone]
    exact ⟨fun ht l _ => by rw [Slot.Holds, ht], h.whole t p.standard⟩
  · simp only [hget, hfind]
    exact h.readTable_eq_ok_iff hsub t

namespace Configuration

/-- A configuration is read item by item. -/
theorem readTable_eq_ok_iff {fs : Setting.Fields} (h : Setting.Sectioned fs) (c : Configuration) :
    part.readTable fs = .ok c ↔ ∀ i : Item, i.Holds (Setting.find? fs i.path) c := by
  have hbus := BusSettings.laid.holds_section h (s := "bus") (by decide) c.bus
  have hregistry := RegistrySettings.laid.holds_section h (s := "registry") (by decide) c.registry
  have hpolling := PollingSettings.laid.holds_section h (s := "polling") (by decide) c.polling
  have hscan := ScanSettings.laid.holds_section h (s := "scan") (by decide) c.scan
  rw [laid.readTable_eq_ok_iff h.ascending, Item.forall_iff]
  simp only [slots, BusSettings.slots, RegistrySettings.slots, PollingSettings.slots,
    ScanSettings.slots, List.forall_mem_cons, List.not_mem_nil, false_imp_iff, implies_true,
    and_true] at hbus hregistry hpolling hscan ⊢
  exact and_congr Iff.rfl
    (and_congr hbus (and_congr hregistry (and_congr hpolling hscan)))

-- ============================================================ overlay

/-- A configuration with some of its items replaced by those of
another. -/
def overlay (S : Finset Item) (c a : Configuration) : Configuration :=
  let pick {α : Type} (i : Item) (new old : α) : α := if i ∈ S then new else old
  { logLevel := pick .logLevel c.logLevel a.logLevel
    bus :=
      { board := pick .board c.bus.board a.bus.board
        timeout := pick .timeout c.bus.timeout a.bus.timeout
        terminator := pick .terminator c.bus.terminator a.bus.terminator
        assertEnd := pick .assertEnd c.bus.assertEnd a.bus.assertEnd
        eosCharacter := pick .eosCharacter c.bus.eosCharacter a.bus.eosCharacter
        eosFlags := pick .eosFlags c.bus.eosFlags a.bus.eosFlags }
    registry :=
      { idleThreshold := pick .idleThreshold c.registry.idleThreshold a.registry.idleThreshold
        sweepInterval := pick .sweepInterval c.registry.sweepInterval a.registry.sweepInterval }
    polling :=
      { interval := pick .pollInterval c.polling.interval a.polling.interval
        budget := pick .pollBudget c.polling.budget a.polling.budget }
    scan :=
      { lowest := pick .lowest c.scan.lowest a.scan.lowest
        highest := pick .highest c.scan.highest a.scan.highest } }

theorem get_overlay (S : Finset Item) (c a : Configuration) (i : Item) :
    i.get (overlay S c a) = if i ∈ S then i.get c else i.get a := by
  cases i <;> simp only [overlay, Item.get] <;> split <;> rfl

theorem overlay_univ (c a : Configuration) : overlay Finset.univ c a = c := by
  simp only [overlay, Finset.mem_univ, if_true]

/-- The settings give the items of `S` as `c` has them, and no others. -/
structure Gives (fs : Setting.Fields) (S : Finset Item) (c : Configuration) : Prop where
  sectioned : Setting.Sectioned fs
  given : ∀ i ∈ S, ∃ v, Setting.find? fs i.path = some v ∧ i.read v = .ok (i.get c)
  others : ∀ i ∉ S, Setting.find? fs i.path = none

theorem Gives.holds {fs : Setting.Fields} {S : Finset Item} {c : Configuration}
    (h : Gives fs S c) {i : Item} (hi : i ∈ S) : i.Holds (Setting.find? fs i.path) c := by
  obtain ⟨v, hfind, hread⟩ := h.given i hi
  rw [hfind]
  exact hread

/-- No item is read from a table. -/
theorem not_isTable_of_read {i : Item} {v : Setting} {x : i.Value} (h : i.read v = .ok x) :
    ¬ v.IsTable := by
  rintro ⟨source, fields, rfl⟩
  have named {α : Type} [Named α] (type : String) (y : α) :
      (Setting.table source fields).asNamed type ≠ .ok y := by
    intro hy
    unfold Setting.asNamed at hy
    split at hy
    · cases ‹Setting.table _ _ = .text _ _›
    · cases hy
    · split at hy <;> cases hy
    · cases hy
  cases i <;> first | exact named _ _ h | cases h

/-- Settings that give some items, laid over settings that give others. -/
theorem Gives.mergeFields {base upper : Setting.Fields} {S T : Finset Item} {c : Configuration}
    (hbase : Gives base S c) (hupper : Gives upper T c) :
    Gives (Setting.mergeFields base upper) (S ∪ T) c := by
  refine ⟨hbase.sectioned.mergeFields hupper.sectioned, fun i hi => ?_, fun i hi => ?_⟩ <;>
    rw [Setting.find?_mergeFields hbase.sectioned hupper.sectioned]
  · by_cases hT : i ∈ T
    · obtain ⟨v, hfind, hread⟩ := hupper.given i hT
      rw [hfind, Setting.laid_of_not_table (not_isTable_of_read hread)]
      exact ⟨v, rfl, hread⟩
    · rw [hupper.others i hT]
      exact hbase.given i ((Finset.mem_union.mp hi).resolve_right hT)
  · simp only [Finset.mem_union, not_or] at hi
    rw [hbase.others i hi.1, hupper.others i hi.2]
    rfl

/-- Settings laid over others replace the items that they give. -/
theorem readTable_overlay {base upper : Setting.Fields} {S : Finset Item} {a c : Configuration}
    (hbase : Setting.Sectioned base) (hupper : Gives upper S c)
    (ha : part.readTable base = .ok a) :
    part.readTable (Setting.mergeFields base upper) = .ok (overlay S c a) := by
  refine (readTable_eq_ok_iff (hbase.mergeFields hupper.sectioned) _).mpr fun i => ?_
  have hlower := (readTable_eq_ok_iff hbase a).mp ha i
  rw [Setting.find?_mergeFields hbase hupper.sectioned]
  by_cases hi : i ∈ S
  · obtain ⟨v, hfind, hread⟩ := hupper.given i hi
    rw [hfind, Setting.laid_of_not_table (not_isTable_of_read hread)]
    show i.read v = .ok (i.get (overlay S c a))
    rw [get_overlay, if_pos hi, hread]
  · rw [hupper.others i hi]
    show i.Holds (Setting.find? base i.path) (overlay S c a)
    unfold Item.Holds at hlower ⊢
    rw [get_overlay, if_neg hi]
    exact hlower

end Configuration
end InstrumentBus
