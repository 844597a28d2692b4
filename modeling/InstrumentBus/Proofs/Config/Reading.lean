/-
A part of a configuration, read field by field.

A part is read from a table by going through the table, and what is read
is said by going through the part: each of its fields is what the table
has under the field's name, or what it was to begin with. For this a
field is taken together with the way it is read off the part (`Slot`);
the parts are laid out in such slots, of which no two share a name or a
place (`Part.Laid`), and what is read is then a matter of each slot alone
(`Part.readTable_eq_ok_iff`). The order of the keys does not show, and
neither does a key that is no field's.

A number is kept as a word of some width, and read as a number that the
word holds. The two ways of writing it agree because the reader refuses
every other number.
-/
import InstrumentBus.Proofs.Config.Fields
import Mathlib.Data.List.Pairwise

namespace InstrumentBus

variable {σ : Type}

-- ============================================================== slots

/-- A field of a part, and how it is read off the part. -/
structure Slot (σ : Type) where
  name : String
  Value : Type
  read : Setting → Except Mismatch Value
  get : σ → Value
  place : Value → σ → σ
  -- what has been read is there once it is put in its place
  get_place : ∀ {v x} s, read v = .ok x → get (place x s) = x

/-- The field of a slot. -/
def Slot.field (l : Slot σ) : Field σ := .ofLens l.name l.read l.place

/-- A part has in a slot what was found for it; where nothing was, what it
started with. -/
def Slot.Holds (l : Slot σ) (found : Option Setting) (start s : σ) : Prop :=
  match found with
  | some v => l.read v = .ok (l.get s)
  | none => l.get s = l.get start

/-- Two slots have different names, and neither is in the place of the
other. -/
structure Slot.Apart (l m : Slot σ) : Prop where
  name : l.name ≠ m.name
  left : ∀ x s, l.get (m.place x s) = l.get s
  right : ∀ x s, m.get (l.place x s) = m.get s

instance : Std.Symm (@Slot.Apart σ) := ⟨fun _ _ h => ⟨Ne.symm h.name, h.right, h.left⟩⟩

/-- A part is laid out in slots: they are its fields, any two of them are
apart, and there is nothing besides. -/
structure Part.Laid (p : Part σ) (slots : List (Slot σ)) : Prop where
  fields : p.fields = slots.map Slot.field
  apart : slots.Pairwise Slot.Apart
  whole : ∀ s t : σ, (∀ l ∈ slots, l.get s = l.get t) → s = t

namespace Part.Laid

variable {p : Part σ} {slots : List (Slot σ)}

theorem apart_of_ne (h : p.Laid slots) {l m : Slot σ} (hl : l ∈ slots) (hm : m ∈ slots)
    (hne : l ≠ m) : l.Apart m := h.apart.forall hl hm hne

/-- A slot is known by its name. -/
theorem eq_of_name (h : p.Laid slots) {l m : Slot σ} (hl : l ∈ slots) (hm : m ∈ slots)
    (hname : l.name = m.name) : l = m :=
  of_not_not fun hne => (h.apart_of_ne hl hm hne).name hname

theorem find?_fields (h : p.Laid slots) (key : String) :
    p.fields.find? (·.name == key) = (slots.find? (·.name == key)).map Slot.field := by
  rw [h.fields, List.find?_map]
  rfl

/-- A key that is the name of a slot. -/
theorem update_of_mem (h : p.Laid slots) {l : Slot σ} (hl : l ∈ slots) (v : Setting) (s : σ) :
    p.update l.name v s = ((l.read v).map (l.place · s)).mapError (·.under l.name) := by
  have hfind : slots.find? (·.name == l.name) = some l := by
    cases hf : slots.find? (·.name == l.name) with
    | none => exact absurd (beq_self_eq_true l.name) (List.find?_eq_none.mp hf l hl)
    | some m =>
        have hname := List.find?_some hf
        simp only [beq_iff_eq] at hname
        rw [h.eq_of_name (List.mem_of_find?_eq_some hf) hl hname]
  unfold update
  rw [h.find?_fields, hfind]
  show Except.mapError _ (Except.map _ (Except.map _ _)) = _
  cases l.read v <;> rfl

/-- A key that is not. -/
theorem update_of_not_mem (h : p.Laid slots) {key : String} (hkey : ∀ l ∈ slots, l.name ≠ key)
    (v : Setting) (s : σ) : p.update key v s = .ok s := by
  have hfind : slots.find? (·.name == key) = none :=
    List.find?_eq_none.mpr fun l hl hname => hkey l hl (eq_of_beq hname)
  unfold update
  rw [h.find?_fields, hfind]
  rfl

/-- The table from some start on, slot by slot. -/
theorem foldlM_eq_ok_iff (h : p.Laid slots) {fields : Setting.Fields}
    (hfields : Setting.Ascending fields) (start s : σ) :
    fields.foldlM (fun s field => p.update field.1 field.2 s) start = .ok s ↔
      ∀ l ∈ slots, l.Holds (Keyed.get? fields l.name) start s := by
  induction fields generalizing start with
  | nil =>
      show Except.ok start = .ok s ↔ ∀ l ∈ slots, l.get s = l.get start
      refine ⟨fun hs l _ => by rw [Except.ok.inj hs], fun hs => ?_⟩
      rw [h.whole s start hs]
  | cons q rest ih =>
      obtain ⟨key, v⟩ := q
      have hrest : Setting.Ascending rest := (List.pairwise_cons.mp hfields).2
      simp only [List.foldlM_cons]
      by_cases hkey : ∃ l ∈ slots, l.name = key
      · obtain ⟨l, hl, rfl⟩ := hkey
        rw [h.update_of_mem hl]
        cases hread : l.read v with
        | error m =>
            -- what cannot be read is in no part
            constructor
            · intro herror
              cases herror
            · intro hs
              have hholds := hs l hl
              simp only [Keyed.get?, if_true, Slot.Holds, hread] at hholds
              cases hholds
        | ok x =>
            refine (ih hrest (l.place x start)).trans (forall₂_congr fun m hm => ?_)
            by_cases hname : l.name = m.name
            · obtain rfl := h.eq_of_name hl hm hname
              simp only [Keyed.get?, if_true, Slot.Holds, hfields.get?_rest,
                l.get_place start hread, hread, Except.ok.injEq]
              exact eq_comm
            · simp only [Keyed.get?, hname, if_false]
              unfold Slot.Holds
              rw [(h.apart_of_ne hl hm fun heq => hname (heq ▸ rfl)).right]
      · have hkey' : ∀ l ∈ slots, l.name ≠ key := fun l hl hname => hkey ⟨l, hl, hname⟩
        rw [h.update_of_not_mem hkey']
        refine (ih hrest start).trans (forall₂_congr fun m hm => ?_)
        simp only [Keyed.get?, Ne.symm (hkey' m hm), if_false]

/-- What is read from a table is what the table says of each slot. -/
theorem readTable_eq_ok_iff (h : p.Laid slots) {fields : Setting.Fields}
    (hfields : Setting.Ascending fields) (s : σ) :
    p.readTable fields = .ok s ↔
      ∀ l ∈ slots, l.Holds (Keyed.get? fields l.name) p.standard s :=
  h.foldlM_eq_ok_iff hfields p.standard s

/-- A part with two slots. -/
theorem pair {l m : Slot σ} (hfields : p.fields = [l.field, m.field]) (hapart : l.Apart m)
    (hwhole : ∀ s t, l.get s = l.get t → m.get s = m.get t → s = t) : p.Laid [l, m] where
  fields := hfields
  apart := List.pairwise_pair.mpr hapart
  whole s t h := hwhole s t (h l List.mem_cons_self)
    (h m (List.mem_cons_of_mem l List.mem_cons_self))

end Part.Laid

-- ============================================================ numbers

namespace Setting

theorem holds_of_asInt {k : IntKind} {v : Setting} {n : Int} (h : v.asInt k = .ok n) :
    k.holds n = true := by
  unfold asInt at h
  split at h
  · split at h
    next hk =>
      rw [← Except.ok.inj h]
      exact hk
    next => cases h
  · cases h

end Setting

namespace IntKind

theorem holds_iff {k : IntKind} {n : Int} : k.holds n = true ↔ k.min ≤ n ∧ n ≤ k.max := by
  simp [holds]

/-- What one type holds, a wider one does. -/
theorem holds_wider {k l : IntKind} {n : Int} (h : k.holds n = true)
    (hkl : l.min ≤ k.min ∧ k.max ≤ l.max) : l.holds n = true :=
  holds_iff.mpr ⟨Int.le_trans hkl.1 (holds_iff.mp h).1, Int.le_trans (holds_iff.mp h).2 hkl.2⟩

theorem toInt_ofInt_of_holds {n : Int} (h : i32.holds n = true) : (Int32.ofInt n).toInt = n := by
  obtain ⟨hmin, hmax⟩ := holds_iff.mp h
  exact Int32.toInt_ofInt_of_le hmin (Int.lt_add_one_of_le hmax)

theorem uInt8_of_holds {n : Int} (h : u8.holds n = true) :
    ((UInt8.ofNat n.toNat).toNat : Int) = n := by
  obtain ⟨hmin, hmax⟩ := holds_iff.mp h
  have hmax : n ≤ 255 := hmax
  rw [UInt8.toNat_ofNat_of_lt' (by show n.toNat < 256; omega)]
  exact Int.toNat_of_nonneg hmin

theorem uInt16_of_holds {n : Int} (h : u16.holds n = true) :
    ((UInt16.ofNat n.toNat).toNat : Int) = n := by
  obtain ⟨hmin, hmax⟩ := holds_iff.mp h
  have hmax : n ≤ 65535 := hmax
  rw [UInt16.toNat_ofNat_of_lt' (by show n.toNat < 65536; omega)]
  exact Int.toNat_of_nonneg hmin

theorem uInt64_of_holds {n : Int} (h : u64.holds n = true) :
    ((UInt64.ofNat n.toNat).toNat : Int) = n := by
  obtain ⟨hmin, hmax⟩ := holds_iff.mp h
  have hmax : n ≤ 18446744073709551615 := hmax
  rw [UInt64.toNat_ofNat_of_lt' (by show n.toNat < 18446744073709551616; omega)]
  exact Int.toNat_of_nonneg hmin

/-- What a word of each width holds. -/
theorem holds_int32 (n : Int32) : i32.holds n.toInt = true :=
  holds_iff.mpr ⟨n.minValue_le_toInt, n.toInt_le⟩

theorem holds_uInt8 (n : UInt8) : u8.holds n.toNat = true :=
  holds_iff.mpr ⟨Int.natCast_nonneg _, by have := n.toNat_lt; show (_ : Int) ≤ 255; omega⟩

theorem holds_uInt16 (n : UInt16) : u16.holds n.toNat = true :=
  holds_iff.mpr ⟨Int.natCast_nonneg _, by have := n.toNat_lt; show (_ : Int) ≤ 65535; omega⟩

theorem holds_uInt64 (n : UInt64) : u64.holds n.toNat = true :=
  holds_iff.mpr ⟨Int.natCast_nonneg _, by
    have := n.toNat_lt; show (_ : Int) ≤ 18446744073709551615; omega⟩

end IntKind

-- ========================================================== the parts

/-- A slot that is read as a number. -/
def Slot.number (name : String) (k : IntKind) (get : σ → Int) (place : Int → σ → σ)
    (get_place : ∀ {n} s, k.holds n = true → get (place n s) = n) : Slot σ :=
  ⟨name, Int, (·.asInt k), get, place, fun s h => get_place s (Setting.holds_of_asInt h)⟩

/-- A slot that holds whatever is put there. -/
def Slot.plain {α : Type} (name : String) (read : Setting → Except Mismatch α) (get : σ → α)
    (place : α → σ → σ) (get_place : ∀ x s, get (place x s) = x) : Slot σ :=
  ⟨name, α, read, get, place, fun s _ => get_place _ s⟩

/-- The slots of how sessions are opened. -/
def BusSettings.slots : List (Slot BusSettings) :=
  [.number "board_index" .i32 (·.board.toInt) (fun n s => { s with board := .ofInt n })
      fun _ => IntKind.toInt_ofInt_of_holds,
    .plain "timeout" (·.asNamed "TimeoutLevel") timeout (fun t s => { s with timeout := t })
      fun _ _ => rfl,
    .plain "terminator" (·.asNamed "LineTerminator") terminator
      (fun t s => { s with terminator := t }) fun _ _ => rfl,
    .plain "assert_eoi" (·.asBool) assertEnd (fun b s => { s with assertEnd := b })
      fun _ _ => rfl,
    .number "eos_char" .u8 (·.eosCharacter.toNat)
      (fun n s => { s with eosCharacter := .ofNat n.toNat }) fun _ => IntKind.uInt8_of_holds,
    .number "eos_flags" .u16 (·.eosFlags.toNat)
      (fun n s => { s with eosFlags := .ofNat n.toNat }) fun _ => IntKind.uInt16_of_holds]

theorem BusSettings.laid : BusSettings.part.Laid slots where
  fields := rfl
  apart := by
    simp only [slots, List.pairwise_cons, List.forall_mem_cons, List.not_mem_nil, false_imp_iff,
      implies_true, List.Pairwise.nil, and_true]
    repeat' apply And.intro
    all_goals exact ⟨by decide, fun _ _ => rfl, fun _ _ => rfl⟩
  whole := by
    intro s t h
    simp only [slots, List.forall_mem_cons] at h
    obtain ⟨hboard, htimeout, hterminator, hend, hchar, hflags, -⟩ := h
    cases s
    cases t
    congr
    · exact Int32.toInt_inj.mp hboard
    · exact UInt8.toNat_inj.mp (Int.ofNat.inj hchar)
    · exact UInt16.toNat_inj.mp (Int.ofNat.inj hflags)

/-- The slots of when sessions are given up. -/
def RegistrySettings.slots : List (Slot RegistrySettings) :=
  [.number "idle_threshold_secs" .u64 (·.idleThreshold.toNat)
      (fun n s => { s with idleThreshold := .ofNat n.toNat }) fun _ => IntKind.uInt64_of_holds,
    .number "sweep_interval_secs" .u64 (·.sweepInterval.toNat)
      (fun n s => { s with sweepInterval := .ofNat n.toNat }) fun _ => IntKind.uInt64_of_holds]

theorem RegistrySettings.laid : RegistrySettings.part.Laid slots := by
  refine .pair rfl ⟨by decide, fun _ _ => rfl, fun _ _ => rfl⟩ fun s t hidle hsweep => ?_
  cases s
  cases t
  congr
  · exact UInt64.toNat_inj.mp (Int.ofNat.inj hidle)
  · exact UInt64.toNat_inj.mp (Int.ofNat.inj hsweep)

/-- The slots of how waits are paced. -/
def PollingSettings.slots : List (Slot PollingSettings) :=
  [.number "interval_ms" .u64 (·.interval.toNat)
      (fun n s => { s with interval := .ofNat n.toNat }) fun _ => IntKind.uInt64_of_holds,
    .number "timeout_ms" .u64 (·.budget.toNat)
      (fun n s => { s with budget := .ofNat n.toNat }) fun _ => IntKind.uInt64_of_holds]

theorem PollingSettings.laid : PollingSettings.part.Laid slots := by
  refine .pair rfl ⟨by decide, fun _ _ => rfl, fun _ _ => rfl⟩ fun s t hinterval hbudget => ?_
  cases s
  cases t
  congr
  · exact UInt64.toNat_inj.mp (Int.ofNat.inj hinterval)
  · exact UInt64.toNat_inj.mp (Int.ofNat.inj hbudget)

/-- The slots of which addresses are looked at. -/
def ScanSettings.slots : List (Slot ScanSettings) :=
  [.number "min_primary" .u8 (·.lowest.toNat)
      (fun n s => { s with lowest := .ofNat n.toNat }) fun _ => IntKind.uInt8_of_holds,
    .number "max_primary" .u8 (·.highest.toNat)
      (fun n s => { s with highest := .ofNat n.toNat }) fun _ => IntKind.uInt8_of_holds]

theorem ScanSettings.laid : ScanSettings.part.Laid slots := by
  refine .pair rfl ⟨by decide, fun _ _ => rfl, fun _ _ => rfl⟩ fun s t hlowest hhighest => ?_
  cases s
  cases t
  congr
  · exact UInt8.toNat_inj.mp (Int.ofNat.inj hlowest)
  · exact UInt8.toNat_inj.mp (Int.ofNat.inj hhighest)

/-- The slots of the whole configuration: one text, and the other parts. -/
def Configuration.slots : List (Slot Configuration) :=
  [.plain "log_level" (·.asText) logLevel (fun t s => { s with logLevel := t }) fun _ _ => rfl,
    .plain "bus" BusSettings.part.read bus (fun b s => { s with bus := b }) fun _ _ => rfl,
    .plain "registry" RegistrySettings.part.read registry
      (fun r s => { s with registry := r }) fun _ _ => rfl,
    .plain "polling" PollingSettings.part.read polling
      (fun p s => { s with polling := p }) fun _ _ => rfl,
    .plain "scan" ScanSettings.part.read scan (fun r s => { s with scan := r }) fun _ _ => rfl]

theorem Configuration.laid : Configuration.part.Laid slots where
  fields := rfl
  apart := by
    simp only [slots, List.pairwise_cons, List.forall_mem_cons, List.not_mem_nil, false_imp_iff,
      implies_true, List.Pairwise.nil, and_true]
    repeat' apply And.intro
    all_goals exact ⟨by decide, fun _ _ => rfl, fun _ _ => rfl⟩
  whole := by
    intro s t h
    simp only [slots, List.forall_mem_cons] at h
    obtain ⟨hlevel, hbus, hregistry, hpolling, hscan, -⟩ := h
    cases s
    cases t
    congr

end InstrumentBus
