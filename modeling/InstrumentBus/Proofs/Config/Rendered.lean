/-
What a configuration is written as loads the configuration.

A configuration is written as a sheet: its level in front, its four parts
under their headers. Three kinds of value are written, and each is read
back at the end of its line: a text, in whichever quotes it needs; a whole
number, as long as a document can hold it; and a truth value. So the
document read back gives every item as it was, and laid over the standard
settings it leaves nothing of them (`Configuration.rendered_loads_back`).

Nothing is asked of the configuration. If it makes no sense it cannot be
loaded, but then it is refused for what is wrong with it and not for how
it was written.
-/
import InstrumentBus.Proofs.Config.Layers
import InstrumentBus.Proofs.Config.Sheet
import InstrumentBus.Proofs.Toml.Plain
import InstrumentBus.Proofs.Toml.Quoted

namespace InstrumentBus

namespace Toml

open InstrumentBus.Configuration (textValue intValue boolValue)

-- ============================================================= values

/-- A value that is not in brackets, at the end of its line. -/
theorem value?_simple {c : Char} {tail : List Char} (hblank : Quoted.isBlank c = false)
    (hlist : c ≠ '[') (htable : c ≠ '\x7b') :
    Line.value? Line.limit (Line.skipBlanks (' ' :: c :: tail)) = Line.simple? (c :: tail) := by
  show Line.value? _ (Line.skipBlanks (c :: tail)) = _
  rw [Line.skipBlanks_of_not_isBlank hblank]
  show Line.value? (78 + 1) (c :: tail) = _
  unfold Line.value?
  split
  next heq => exact absurd (List.cons.inj heq).1 hlist
  next heq => exact absurd (List.cons.inj heq).1 htable
  next => rfl

/-- A value that is neither in brackets nor in quotes. -/
theorem value?_token {t : List Char} (hne : t ≠ []) (htoken : ∀ c ∈ t, Plain.isToken c = true)
    (rest : List Char) :
    Line.value? Line.limit (Line.skipBlanks (' ' :: (t ++ rest))) = Plain.read (t ++ rest) := by
  obtain ⟨c, tail, rfl⟩ := List.exists_cons_of_ne_nil hne
  have other {d : Char} (hd : Plain.isToken d = false) : c ≠ d := by
    rintro rfl
    rw [htoken c List.mem_cons_self] at hd
    cases hd
  have hblank : Quoted.isBlank c = false := by
    simp [Quoted.isBlank, other (d := ' ') (by decide), other (d := '\t') (by decide)]
  rw [List.cons_append, value?_simple hblank (other (by decide)) (other (by decide))]
  unfold Line.simple?
  split
  next heq => exact absurd (List.cons.inj heq).1 (other (by decide))
  next heq => exact absurd (List.cons.inj heq).1 (other (by decide))
  next => rfl

/-- A text in quotes. -/
theorem value?_write (s : String) {rest : List Char} (hrest : Quoted.Unquoted rest) :
    Line.value? Line.limit (Line.skipBlanks (' ' :: (Quoted.write s.toList ++ rest))) =
      some (.text s, rest) := by
  have hread := Quoted.read_write s.toList hrest
  obtain ⟨q, tail, hwrite, hq⟩ := Quoted.write_cons s.toList
  rw [hwrite, List.cons_append] at hread ⊢
  rcases hq with rfl | rfl
  · rw [value?_simple (by decide) (by decide) (by decide)]
    simp only [Line.simple?, hread, Option.map_some, String.ofList_toList]
  · rw [value?_simple (by decide) (by decide) (by decide)]
    simp only [Line.simple?, hread, Option.map_some, String.ofList_toList]

/-- An entry with a text. -/
def Entry.ofText (key : String) (s : String) : Entry := ⟨key, textValue s, .text s⟩

/-- An entry with a whole number. -/
def Entry.ofInt (key : String) (n : Int) : Entry := ⟨key, intValue n, .integer n⟩

/-- An entry with a truth value. -/
def Entry.ofBool (key : String) (b : Bool) : Entry := ⟨key, boolValue b, .boolean b⟩

theorem Entry.fair_ofText {key : String} (hkey : IsBareKey key) (s : String) :
    (Entry.ofText key s).Fair where
  key := hkey
  noReturn := fun h => Quoted.ne_return_of_mem_write h rfl
  text _ := value?_write s ⟨nofun, nofun⟩

theorem Entry.fair_ofInt {key : String} (hkey : IsBareKey key) {n : Int}
    (hn : IntKind.i64.holds n = true) : (Entry.ofInt key n).Fair where
  key := hkey
  noReturn := fun h => by
    rcases Numeral.numeric_of_mem_toString h with h | h <;> exact absurd h (by decide)
  text rest := by
    have hne : (toString n).toList ≠ [] := by
      rcases Numeral.toList_toString n with ⟨-, hlist⟩ | ⟨-, hlist⟩ <;> rw [hlist]
      · exact Nat.toDigits_ne_nil
      · exact List.cons_ne_nil _ _
    have htoken : ∀ c ∈ (toString n).toList, Plain.isToken c = true := fun c hc =>
      Plain.isToken_of_numeric (Numeral.numeric_of_mem_toString hc)
    exact (value?_token hne htoken _).trans (Plain.read_toString hn rest)

theorem Entry.fair_ofBool {key : String} (hkey : IsBareKey key) (b : Bool) :
    (Entry.ofBool key b).Fair where
  key := hkey
  noReturn := by
    show '\r' ∉ (if b then "true" else "false").toList
    cases b <;> decide
  text rest := by
    have hne : (if b then "true" else "false").toList ≠ [] := by cases b <;> decide
    exact (value?_token hne (Plain.isToken_of_mem_truth b) _).trans (Plain.read_truth b rest)

end Toml

namespace Configuration

-- ======================================================== the document

/-- The sheet that a configuration is written as. -/
def sheet (c : Configuration) : Toml.Sheet where
  lead := [.ofText "log_level" c.logLevel]
  parts :=
    [("bus",
        [.ofInt "board_index" c.bus.board.toInt, .ofText "timeout" c.bus.timeout.name,
          .ofText "terminator" c.bus.terminator.name, .ofBool "assert_eoi" c.bus.assertEnd,
          .ofInt "eos_char" c.bus.eosCharacter.toNat, .ofInt "eos_flags" c.bus.eosFlags.toNat]),
      ("registry",
        [.ofInt "idle_threshold_secs" c.registry.idleThreshold.toNat,
          .ofInt "sweep_interval_secs" c.registry.sweepInterval.toNat]),
      ("polling",
        [.ofInt "interval_ms" c.polling.interval.toNat,
          .ofInt "timeout_ms" c.polling.budget.toNat]),
      ("scan",
        [.ofInt "min_primary" c.scan.lowest.toNat, .ofInt "max_primary" c.scan.highest.toNat])]

theorem document_eq (c : Configuration) : c.document = c.sheet.write := by
  simp only [document, sheet, Toml.Sheet.write, Toml.Sheet.writePart, Toml.Entry.write,
    Toml.Entry.ofText, Toml.Entry.ofInt, Toml.Entry.ofBool, List.flatMap_cons, List.flatMap_nil,
    List.append_nil, List.append_assoc]

/-- A number that a document can hold. -/
theorem holds_of_le_largest {n : UInt64} (h : n.toNat ≤ largest) :
    IntKind.i64.holds n.toNat = true := by
  refine IntKind.holds_iff.mpr ⟨Int.le_trans (by decide) (Int.natCast_nonneg n.toNat), ?_⟩
  exact Int.ofNat_le.mpr h

theorem sheet_fair {c : Configuration} (h : c.Writable) : c.sheet.Fair where
  lead := by
    simp only [sheet, List.forall_mem_cons]
    exact ⟨Toml.Entry.fair_ofText (by decide) _, nofun⟩
  names := by
    simp only [sheet, List.forall_mem_cons]
    exact ⟨by decide, by decide, by decide, by decide, nofun⟩
  entries := by
    obtain ⟨hidle, hsweep, hinterval, hbudget⟩ := h
    simp only [sheet, List.forall_mem_cons]
    refine ⟨⟨?_, ?_, ?_, ?_, ?_, ?_, nofun⟩, ⟨?_, ?_, nofun⟩, ⟨?_, ?_, nofun⟩, ⟨?_, ?_, nofun⟩,
      nofun⟩
    · exact Toml.Entry.fair_ofInt (by decide)
        (IntKind.holds_wider (IntKind.holds_int32 _) (by decide))
    · exact Toml.Entry.fair_ofText (by decide) _
    · exact Toml.Entry.fair_ofText (by decide) _
    · exact Toml.Entry.fair_ofBool (by decide) _
    · exact Toml.Entry.fair_ofInt (by decide)
        (IntKind.holds_wider (IntKind.holds_uInt8 _) (by decide))
    · exact Toml.Entry.fair_ofInt (by decide)
        (IntKind.holds_wider (IntKind.holds_uInt16 _) (by decide))
    · exact Toml.Entry.fair_ofInt (by decide) (holds_of_le_largest hidle)
    · exact Toml.Entry.fair_ofInt (by decide) (holds_of_le_largest hsweep)
    · exact Toml.Entry.fair_ofInt (by decide) (holds_of_le_largest hinterval)
    · exact Toml.Entry.fair_ofInt (by decide) (holds_of_le_largest hbudget)
    · exact Toml.Entry.fair_ofInt (by decide)
        (IntKind.holds_wider (IntKind.holds_uInt8 _) (by decide))
    · exact Toml.Entry.fair_ofInt (by decide)
        (IntKind.holds_wider (IntKind.holds_uInt8 _) (by decide))
  distinct := by
    show ["log_level", "bus", "registry", "polling", "scan"].Nodup
    decide
  within := by
    simp only [sheet, List.forall_mem_cons]
    refine ⟨?_, ?_, ?_, ?_, nofun⟩
    · show ["board_index", "timeout", "terminator", "assert_eoi", "eos_char", "eos_flags"].Nodup
      decide
    · show ["idle_threshold_secs", "sweep_interval_secs"].Nodup
      decide
    · show ["interval_ms", "timeout_ms"].Nodup
      decide
    · show ["min_primary", "max_primary"].Nodup
      decide

-- ========================================================= loaded again

/-- The sheet gives every item of the configuration. -/
theorem sheet_gives (source : Source) (c : Configuration) :
    Gives (Setting.ofFields source c.sheet.fields) Finset.univ c where
  sectioned := by
    have part {key : String} {es : List Toml.Entry}
        (h : Keyed.get? (es.map Toml.Entry.field) Setting.wrapper = none) :
        key ∈ Setting.sections → ∃ source' sub,
          Setting.ofToml source (Toml.Sheet.partField (key, es)).2 = .table source' sub ∧
            Setting.Ascending sub :=
      fun _ => ⟨_, _, Setting.ofToml_table source .header h, Setting.ascending_ofFields _ _⟩
    have level : "log_level" ∉ Setting.sections := by decide
    exact ((((Setting.sectioned_nil.put (part rfl)).put (part rfl)).put (part rfl)).put
      (part rfl)).put (absurd · level)
  given i _ := by
    refine ⟨i.setting source true (i.get c), ?_, i.read_setting source true c⟩
    cases i <;> simp [Setting.find?, Item.path, Setting.get?_ofFields, sheet, Toml.Sheet.fields,
      Toml.Sheet.partField, Toml.Entry.field, Keyed.get?, Setting.ofToml, Setting.ofTable,
      Setting.wrapper, Item.setting, Item.get, Toml.Entry.ofInt, Toml.Entry.ofText,
      Toml.Entry.ofBool]
  others i hi := absurd (Finset.mem_univ i) hi

theorem sheet_admitted (c : Configuration) : Setting.admitsFields c.sheet.fields = true := by
  rfl

/-- A configuration is written as a document if its numbers fit, and the
document is loaded as what the check of the configuration comes to: the
configuration, or what is wrong with it. -/
theorem rendered_loads_back (c : Configuration) :
    (c.render?.isSome ↔
        c.registry.idleThreshold.toNat ≤ 2 ^ 63 - 1 ∧ c.registry.sweepInterval.toNat ≤ 2 ^ 63 - 1 ∧
          c.polling.interval.toNat ≤ 2 ^ 63 - 1 ∧ c.polling.budget.toNat ≤ 2 ^ 63 - 1) ∧
      ∀ text ∈ c.render?, ∀ path, load path (some text) [] = c.verdict := by
  constructor
  · show (if c.Writable then some (String.ofList c.document) else none).isSome = true ↔ c.Writable
    split <;> simp [*]
  · intro text htext path
    unfold render? at htext
    split at htext
    next hwritable =>
      obtain rfl := Option.some.inj htext
      have hfields : Toml.Document.ofText? (String.ofList c.document) = some c.sheet.fields := by
        rw [document_eq]
        exact Toml.Sheet.ofText?_write (sheet_fair hwritable)
      have hlowest := (toSetting_gives standard).bottom
      have hread :=
        readTable_overlay hlowest.sectioned (sheet_gives (.file path) c) hlowest.readTable
      rw [overlay_univ] at hread
      rw [load_eq (show Environment.settings [] = .table .environment [] from rfl)]
      simp only [footing, hfields, Option.bind_some, sheet_admitted, if_true,
        Setting.mergeFields_nil, hread]
      rfl
    next => cases htext

/-- A configuration with a level that is none and needs its escapes, and
with the largest number that can be written. -/
def outlandish : Configuration :=
  { standard with
    logLevel := "\"\"\"\\ '''\ttrace\x00\r\ninfo\"\""
    bus := { BusSettings.standard with board := -1, timeout := .disabled }
    polling := ⟨0, 9223372036854775807⟩ }

theorem rendered_loads_back_outlandish :
    load "gpib.toml" (some (String.ofList outlandish.document)) [] =
        .error (.invalid (.logLevel outlandish.logLevel)) ∧
      load "gpib.toml" (some (String.ofList standard.document)) [] = .ok standard := by
  constructor
  · have hrender : outlandish.render? = some (String.ofList outlandish.document) :=
      if_pos (by decide)
    exact (rendered_loads_back outlandish).2 _ hrender _
  · have hrender : standard.render? = some (String.ofList standard.document) := if_pos (by decide)
    exact (rendered_loads_back standard).2 _ hrender _

end Configuration

end InstrumentBus
