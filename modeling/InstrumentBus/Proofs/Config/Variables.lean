/-
The variables of an environment that set items of a configuration.

Every item has a variable (`Item.variableName`), and a text that it is set to
(`Item.plain`). The name may be spelt in any letter case: a name is cut at
its points before letter case is dropped, and neither the cutting nor the
points know of letters (`Environment.joinPoints_map`,
`Environment.splitPoints_map`). The text is read as a value first and as
a text only if it is no value, so what has to be seen is that no name is a
value: "10s" begins like a number and is none, and "none" is no truth
value.

An environment that sets some items and no others (`Environment.Sets`)
gives just these (`Environment.settings_give`), whatever the order of its
variables.
-/
import InstrumentBus.Proofs.Config.Layers
import InstrumentBus.Proofs.Numeral
import InstrumentBus.Text.LetterCase
import Mathlib.Data.List.TakeWhile

namespace InstrumentBus

namespace Item

/-- The variable that sets an item. -/
def variableName : Item → String
  | .logLevel => "RUST_GPIB_LOG_LEVEL"
  | .board => "RUST_GPIB_BUS__BOARD_INDEX"
  | .timeout => "RUST_GPIB_BUS__TIMEOUT"
  | .terminator => "RUST_GPIB_BUS__TERMINATOR"
  | .assertEnd => "RUST_GPIB_BUS__ASSERT_EOI"
  | .eosCharacter => "RUST_GPIB_BUS__EOS_CHAR"
  | .eosFlags => "RUST_GPIB_BUS__EOS_FLAGS"
  | .idleThreshold => "RUST_GPIB_REGISTRY__IDLE_THRESHOLD_SECS"
  | .sweepInterval => "RUST_GPIB_REGISTRY__SWEEP_INTERVAL_SECS"
  | .pollInterval => "RUST_GPIB_POLLING__INTERVAL_MS"
  | .pollBudget => "RUST_GPIB_POLLING__TIMEOUT_MS"
  | .lowest => "RUST_GPIB_SCAN__MIN_PRIMARY"
  | .highest => "RUST_GPIB_SCAN__MAX_PRIMARY"

/-- A name is the variable of an item, in some letter case. -/
def Spelt (i : Item) (name : String) : Prop :=
  name.toList.map Char.toUpper = i.variableName.toList

instance (i : Item) (name : String) : Decidable (i.Spelt name) :=
  inferInstanceAs (Decidable (_ = _))

/-- An item as a plain text. -/
def plain : (i : Item) → i.Value → String
  | .logLevel, s => s
  | .timeout, t => t.name
  | .terminator, t => t.name
  | .assertEnd, b => if b then "true" else "false"
  | .board, n | .eosCharacter, n | .eosFlags, n | .idleThreshold, n | .sweepInterval, n
  | .pollInterval, n | .pollBudget, n | .lowest, n | .highest, n => toString n

end Item

-- ============================================================= names

namespace Environment

/-- What the upper case of a character can be is not in the way of what
marks the cuts in a name. -/
theorem toUpper_eq_iff {d : Char} (hd : d.isAlpha = false) (c : Char) :
    c.toUpper = d ↔ c = d := by
  have hletter : ¬ (97 ≤ d.toNat ∧ d.toNat ≤ 122) ∧ ¬ (65 ≤ d.toNat ∧ d.toNat ≤ 90) := by
    unfold Char.isAlpha at hd
    rw [Bool.or_eq_false_iff] at hd
    rw [← Text.isLower_iff, ← Text.isUpper_iff, hd.1, hd.2]
    exact ⟨Bool.false_ne_true, Bool.false_ne_true⟩
  rw [← Char.toNat_inj, ← Char.toNat_inj, Text.toNat_toUpper]
  split <;> omega

theorem joinPoints_map {f : Char → Char} (hscore : ∀ c, f c = '_' ↔ c = '_')
    (hpoint : f '.' = '.') (s : List Char) :
    joinPoints (s.map f) = (joinPoints s).map f := by
  induction s using joinPoints.induct with
  | case1 rest ih =>
      have hmark : f '_' = '_' := (hscore '_').mpr rfl
      simp only [List.map_cons, hmark, joinPoints, ih, hpoint]
  | case2 c rest hcut ih =>
      have hcut' : ∀ more, f c = '_' → rest.map f = '_' :: more → False := by
        intro more hc hrest
        obtain ⟨d, tail, rfl, hd, -⟩ := List.map_eq_cons_iff.mp hrest
        exact hcut tail ((hscore c).mp hc) (by rw [(hscore d).mp hd])
      rw [joinPoints.eq_2 c rest hcut, List.map_cons, joinPoints.eq_2 _ _ hcut', ih, List.map_cons]
  | case3 => rfl

theorem splitPoints_map {f : Char → Char} (hpoint : ∀ c, f c = '.' ↔ c = '.') (s : List Char) :
    splitPoints (s.map f) = (splitPoints s).map (List.map f) := by
  induction s with
  | nil => rfl
  | cons c rest ih =>
      simp only [List.map_cons, splitPoints, ih]
      cases splitPoints rest with
      | nil => rfl
      | cons part parts =>
          simp only [List.map_cons, hpoint]
          split <;> rfl

/-- Where there is nothing to be cut off, nothing is. -/
theorem trim_eq_self {p : Char → Bool} {s : List Char} (h : ∀ c ∈ s, p c = false) :
    Text.trim p s = s := by
  have hfront : s.dropWhile p = s := by
    cases s with
    | nil => rfl
    | cons c rest => exact List.dropWhile_cons_of_neg (by rw [h c List.mem_cons_self]; decide)
  rw [Text.trim, hfront]
  have hlast : ∀ c ∈ s.getLast?, p c = false := fun c hc => h c (List.mem_of_getLast? hc)
  simpa using Text.trimEnd_append (t := []) hlast nofun

/-- The keys behind the marker, in lower case. -/
def keysOf (rest : List Char) : List String :=
  (splitPoints (joinPoints rest)).map fun part => String.ofList (part.map Char.toLower)

theorem keysOf_toUpper (rest : List Char) : keysOf (rest.map Char.toUpper) = keysOf rest := by
  have hscore := toUpper_eq_iff (d := '_') (by decide)
  have hpoint := toUpper_eq_iff (d := '.') (by decide)
  unfold keysOf
  rw [joinPoints_map hscore ((hpoint '.').mpr rfl), splitPoints_map hpoint, List.map_map]
  simp only [List.map_map, Function.comp_def, Text.toLower_toUpper]

/-- A blank is no letter. -/
theorem toUpper_of_isBlank {c : Char} (h : Text.isBlank c = true) : c.toUpper = c := by
  refine Text.toUpper_of_not_small fun hlow => ?_
  simp only [Text.isBlank, Bool.or_eq_true, Bool.and_eq_true, decide_eq_true_eq,
    beq_iff_eq] at h
  omega

/-- However it is spelt, the variable of an item leads to the item. -/
theorem path?_of_spelt {i : Item} {name : String} (h : i.Spelt name) :
    path? name = some i.path := by
  have hnames : i.variableName.toList.all (!Text.isBlank ·) = true := by
    cases i <;> decide +kernel
  have hmarker : i.variableName.toList.take marker.length = marker := by
    cases i <;> decide +kernel
  have hkeys : keysOf (i.variableName.toList.drop marker.length) = i.path := by
    cases i <;> decide +kernel
  have hblank : ∀ c ∈ name.toList, Text.isBlank c = false := by
    intro c hc
    have hupper := List.all_eq_true.mp hnames c.toUpper (h ▸ List.mem_map_of_mem hc)
    cases hb : Text.isBlank c with
    | false => rfl
    | true => rw [toUpper_of_isBlank hb, hb] at hupper; cases hupper
  have hdrop : ∀ c ∈ name.toList.drop marker.length, Text.isBlank c = false :=
    fun c hc => hblank c (List.mem_of_mem_drop hc)
  unfold Item.Spelt at h
  unfold path?
  rw [trim_eq_self hblank]
  have hkeys' : keysOf (name.toList.drop marker.length) = i.path := by
    rw [← keysOf_toUpper, List.map_drop, h, hkeys]
  simp only [trim_eq_self hdrop, List.map_take, h, hmarker, if_true]
  have hfull : (splitPoints (joinPoints (name.toList.drop marker.length))).any (·.isEmpty) =
      false := by
    refine List.any_eq_false.mpr fun part hpart hempty => ?_
    have hkey : String.ofList (part.map Char.toLower) ∈ i.path :=
      hkeys' ▸ List.mem_map_of_mem (f := fun part => String.ofList (part.map Char.toLower)) hpart
    rw [List.isEmpty_iff.mp hempty] at hkey
    revert hkey
    cases i <;> decide
  rw [hfull]
  exact congrArg some hkeys'

-- ============================================================ values

/-- A character of a whole number. -/
def IsNumeric (c : Char) : Prop := Numeral.isDigit c = true ∨ c = '-'

theorem IsNumeric.ne {c d : Char} (hc : IsNumeric c) (hd : Numeral.isDigit d = false ∧ d ≠ '-') :
    c ≠ d := by
  rcases hc with hc | rfl
  · exact Numeral.ne_of_isDigit hc hd.1
  · exact Ne.symm hd.2

/-- It stands neither around a word nor at its end. -/
theorem IsNumeric.inWord {c : Char} (hc : IsNumeric c) :
    isSpace c = false ∧ isSeparator c = false ∧ Text.isBlank c = false := by
  refine ⟨?_, ?_, ?_⟩
  · simp (disch := decide) [isSpace, hc.ne]
  · simp (disch := decide) [isSeparator, hc.ne]
  · rcases hc with hc | rfl
    · simp only [Numeral.isDigit, Bool.and_eq_true, decide_eq_true_eq, Char.le_def] at hc
      have hc : 48 ≤ c.toNat ∧ c.toNat ≤ 57 := hc
      simp [Text.isBlank]
      omega
    · decide

/-- A text of such characters is read as a word. -/
theorem ofValue_numeric {s : String} (hs : s.toList ≠ []) (h : ∀ c ∈ s.toList, IsNumeric c) :
    ofValue s = ofWord s.toList := by
  unfold ofValue
  obtain ⟨c, rest, hcons⟩ := List.exists_cons_of_ne_nil hs
  rw [hcons] at h ⊢
  have hc : IsNumeric c := h c List.mem_cons_self
  have hskip : skipSpace (c :: rest) = c :: rest :=
    List.dropWhile_cons_of_neg (by rw [hc.inWord.1]; decide)
  have htruth : truth? (c :: rest) = none := by
    have ht : ('t' == c) = false := beq_false_of_ne (Ne.symm (hc.ne (by decide)))
    have hf : ('f' == c) = false := beq_false_of_ne (Ne.symm (hc.ne (by decide)))
    simp [truth?, List.isPrefixOf, ht, hf]
  have hword : ∀ d ∈ c :: rest, (!isSeparator d) = true := fun d hd => by
    rw [(h d hd).inWord.2.1]
    rfl
  have hvalue (n : Nat) : value? (n + 1) (c :: rest) = some (ofWord (c :: rest), []) := by
    unfold value?
    simp only [hskip, htruth]
    split
    next heq => exact absurd (List.cons.inj heq).1 (hc.ne (by decide))
    next heq => exact absurd (List.cons.inj heq).1 (hc.ne (by decide))
    next heq => exact absurd (List.cons.inj heq).1 (hc.ne (by decide))
    next heq => exact absurd (List.cons.inj heq).1 (hc.ne (by decide))
    next =>
      rw [List.takeWhile_eq_self_iff.mpr hword, List.dropWhile_eq_nil_iff.mpr hword,
        trim_eq_self fun d hd => (h d hd).inWord.2.2]
      rfl
  rw [hvalue]

theorem ofWord_numeric {s : List Char} (h : ∀ c ∈ s, IsNumeric c) :
    ofWord s =
      match Numeral.ofKind? .u64 s with
      | some n => .integer .environment false n
      | none =>
        match Numeral.ofKind? .i64 s with
        | some n => .integer .environment true n
        | none => .text .environment (String.ofList s) := by
  have hpoint : s.contains '.' = false := Bool.eq_false_iff.mpr fun hmem =>
    (h '.' (List.contains_iff_mem.mp hmem)).ne (by decide) rfl
  unfold ofWord
  rw [hpoint]
  rfl

/-- A number that 64 bits hold, with a sign or without, is read as the
number. -/
theorem ofValue_toString {n : Int} (h : IntKind.u64.holds n = true ∨ IntKind.i64.holds n = true) :
    ∃ signed, ofValue (toString n) = .integer .environment signed n := by
  have hnumeric : ∀ c ∈ (toString n).toList, IsNumeric c :=
    fun c hc => Numeral.numeric_of_mem_toString hc
  rcases Numeral.toList_toString n with ⟨hn, hlist⟩ | ⟨hn, hlist⟩
  · have hu64 : IntKind.u64.holds n = true := by
      rcases h with h | h
      · exact h
      · have hmax : n ≤ 9223372036854775807 := (IntKind.holds_iff.mp h).2
        refine IntKind.holds_iff.mpr ⟨hn, ?_⟩
        show n ≤ 18446744073709551615
        omega
    have hword : Numeral.ofKind? .u64 (Nat.toDigits 10 n.toNat) = some n := by
      unfold Numeral.ofKind?
      rw [Numeral.parse?_toDigits, Int.toNat_of_nonneg hn]
      exact if_pos hu64
    rw [ofValue_numeric (hlist ▸ Nat.toDigits_ne_nil) hnumeric, ofWord_numeric hnumeric, hlist,
      hword]
    exact ⟨false, rfl⟩
  · have hi64 : IntKind.i64.holds n = true := by
      rcases h with h | h
      · exact absurd (IntKind.holds_iff.mp h).1 (not_le.mpr hn)
      · exact h
    have hvalue : -((-n).toNat : Int) = n := by omega
    have hword : Numeral.ofKind? .i64 ('-' :: Nat.toDigits 10 (-n).toNat) = some n := by
      unfold Numeral.ofKind?
      rw [show IntKind.i64.signed = true from rfl, Numeral.parse?_neg_toDigits, hvalue]
      exact if_pos hi64
    rw [ofValue_numeric (hlist ▸ List.cons_ne_nil _ _) hnumeric, ofWord_numeric hnumeric, hlist,
      hword]
    exact ⟨true, rfl⟩

/-- The plain text of an item is read as the item. No name of a timeout, of
a terminator or of a level is taken for anything but a text. -/
theorem read_ofValue {c : Configuration} (hlevel : c.logLevel ∈ Configuration.logLevels)
    (i : Item) : i.read (ofValue (i.plain (i.get c))) = .ok (i.get c) := by
  have number {k : IntKind} {n : Int} (hk : k.holds n = true)
      (h64 : IntKind.u64.holds n = true ∨ IntKind.i64.holds n = true) :
      (ofValue (toString n)).asInt k = .ok n := by
    obtain ⟨signed, hvalue⟩ := ofValue_toString h64
    rw [hvalue]
    exact Setting.asInt_integer hk _ _
  have narrow {k : IntKind} {n : Int} (hk : k.holds n = true)
      (h64 : IntKind.i64.min ≤ k.min ∧ k.max ≤ IntKind.i64.max) :
      (ofValue (toString n)).asInt k = .ok n :=
    number hk (.inr (IntKind.holds_wider hk h64))
  have wide (n : UInt64) : (ofValue (toString (n.toNat : Int))).asInt .u64 = .ok (n.toNat : Int) :=
    number (IntKind.holds_uInt64 n) (.inl (IntKind.holds_uInt64 n))
  cases i with
  | logLevel =>
      have hlevels : ∀ level ∈ Configuration.logLevels, (ofValue level).asText = .ok level := by
        decide +kernel
      exact hlevels _ hlevel
  | timeout =>
      have hnames : ∀ t : Timeout, (ofValue t.name).asNamed "TimeoutLevel" = .ok t := by
        intro t
        cases t <;> decide +kernel
      exact hnames _
  | terminator =>
      have hnames : ∀ t : Terminator, (ofValue t.name).asNamed "LineTerminator" = .ok t := by
        intro t
        cases t <;> decide +kernel
      exact hnames _
  | assertEnd => cases h : c.bus.assertEnd <;> simp only [Item.get, h] <;> rfl
  | board => exact narrow (IntKind.holds_int32 _) (by decide)
  | eosCharacter => exact narrow (IntKind.holds_uInt8 _) (by decide)
  | eosFlags => exact narrow (IntKind.holds_uInt16 _) (by decide)
  | idleThreshold => exact wide _
  | sweepInterval => exact wide _
  | pollInterval => exact wide _
  | pollBudget => exact wide _
  | lowest => exact narrow (IntKind.holds_uInt8 _) (by decide)
  | highest => exact narrow (IntKind.holds_uInt8 _) (by decide)

-- ======================================================= all of them

/-- The environment sets the items of `S` to what `c` has, each by a
variable in some letter case, and no others; what else there is, is not
the name of a setting. -/
structure Sets (env : Environment) (S : Finset Item) (c : Configuration) : Prop where
  only : ∀ p ∈ env,
    (∃ i ∈ S, i.Spelt p.1 ∧ p.2 = i.plain (i.get c)) ∨ path? p.1 = none
  each : ∀ i ∈ S, ∃ p ∈ env, i.Spelt p.1

instance (env : Environment) (S : Finset Item) (c : Configuration) : Decidable (env.Sets S c) :=
  decidable_of_iff
    ((∀ p ∈ env, (∃ i ∈ S, i.Spelt p.1 ∧ p.2 = i.plain (i.get c)) ∨ path? p.1 = none) ∧
      ∀ i ∈ S, ∃ p ∈ env, i.Spelt p.1)
    ⟨fun h => ⟨h.1, h.2⟩, fun h => ⟨h.only, h.each⟩⟩

/-- A value under the path of an item gives the item, and no other. -/
theorem nest_gives {c : Configuration} {i : Item} {v : Setting} (h : i.read v = .ok (i.get c)) :
    ∃ u, nest i.path v = .table .environment u ∧ Configuration.Gives u {i} c := by
  have apart {s : String} (hs : s ∈ Setting.sections) : "log_level" ≠ s := by
    rintro rfl
    exact absurd hs (by decide)
  have other {j : Item} (hj : j ∉ ({i} : Finset Item)) : i.path ≠ j.path := fun hpath =>
    hj (Finset.mem_singleton.mpr (Item.path_injective hpath.symm))
  rcases Setting.path_cases i with hi | ⟨s, hs, key, hi⟩
  · refine ⟨[("log_level", v)], by rw [hi]; rfl, ?_, fun j hj => ?_, fun j hj => ?_⟩
    · exact Setting.sectioned_nil.put fun hmem => absurd hmem (by decide)
    · obtain rfl := Finset.mem_singleton.mp hj
      exact ⟨v, by rw [hi]; rfl, h⟩
    · rcases Setting.path_cases j with hpath | ⟨s, hs, key, hpath⟩
      · exact absurd (hi.trans hpath.symm) (other hj)
      · rw [hpath]
        simp only [Setting.find?, Keyed.get?, apart hs, if_false]
  · refine ⟨[(s, .table .environment [(key, v)])], by rw [hi]; rfl, ?_, fun j hj => ?_,
      fun j hj => ?_⟩
    · exact Setting.sectioned_nil.put fun _ => ⟨_, _, rfl, List.pairwise_singleton _ _⟩
    · obtain rfl := Finset.mem_singleton.mp hj
      exact ⟨v, by rw [hi]; simp only [Setting.find?, Keyed.get?, if_true], h⟩
    · rcases Setting.path_cases j with hpath | ⟨s', hs', key', hpath⟩
      · rw [hpath]
        simp only [Setting.find?, Keyed.get?, Ne.symm (apart hs), if_false]
      · have hne := other hj
        rw [hi, hpath] at hne
        rw [hpath]
        by_cases hpart : s = s'
        · subst hpart
          have hkey : key ≠ key' := fun hkey => hne (by rw [hkey])
          simp only [Setting.find?, Keyed.get?, if_true, hkey, if_false]
        · simp only [Setting.find?, Keyed.get?, hpart, if_false]

/-- What a variable adds to settings. -/
def extend (acc : Setting) : String × String → Setting
  | (name, value) =>
    match path? name with
    | some path => acc.merge (nest path (ofValue value))
    | none => acc

theorem settings_eq (env : Environment) :
    settings env =
      (env.foldl (fun vs v => Keyed.set vs v.1 v.2) []).foldl extend (.table .environment []) :=
  rfl

theorem spelt_unique {i j : Item} {name : String} (hi : i.Spelt name) (hj : j.Spelt name) :
    i = j := by
  have hpath := (path?_of_spelt hi).symm.trans (path?_of_spelt hj)
  exact Item.path_injective (Option.some.inj hpath)

/-- Variables laid over settings one after the other add the items that
they set. -/
theorem foldl_gives {c : Configuration} {S : Finset Item}
    (hlevel : c.logLevel ∈ Configuration.logLevels) (env : Environment)
    (honly : ∀ p ∈ env, (∃ i ∈ S, i.Spelt p.1 ∧ p.2 = i.plain (i.get c)) ∨ path? p.1 = none)
    {fs : Setting.Fields} {T : Finset Item} (hfs : Configuration.Gives fs T c) :
    ∃ u U, env.foldl extend (.table .environment fs) = .table .environment u ∧
      Configuration.Gives u U c ∧ ∀ i, i ∈ U ↔ i ∈ T ∨ i ∈ S ∧ ∃ p ∈ env, i.Spelt p.1 := by
  induction env generalizing fs T with
  | nil => exact ⟨fs, T, rfl, hfs, by simp⟩
  | cons p rest ih =>
      obtain ⟨name, value⟩ := p
      obtain ⟨hfirst, hrest⟩ := List.forall_mem_cons.mp honly
      simp only [List.foldl_cons, List.exists_mem_cons_iff]
      rcases hfirst with ⟨i, hi, hspelt, hvalue⟩ | hnone
      · obtain ⟨w, hnest, hw⟩ := nest_gives (read_ofValue hlevel i)
        obtain ⟨u, U, hfold, hu, hU⟩ := ih hrest (hfs.mergeFields hw)
        have hextend : extend (.table .environment fs) (name, value) =
            .table .environment (Setting.mergeFields fs w) := by
          simp only [extend, path?_of_spelt hspelt]
          rw [show value = _ from hvalue, hnest]
          rfl
        rw [hextend]
        refine ⟨u, U, hfold, hu, fun j => ?_⟩
        rw [hU]
        have hj : j ∈ ({i} : Finset Item) ↔ j ∈ S ∧ j.Spelt name := by
          refine Finset.mem_singleton.trans ⟨?_, fun h => spelt_unique h.2 hspelt⟩
          rintro rfl
          exact ⟨hi, hspelt⟩
        rw [Finset.mem_union, hj, and_or_left, or_assoc]
      · have hnone : path? name = none := hnone
        obtain ⟨u, U, hfold, hu, hU⟩ := ih hrest hfs
        have hextend : extend (.table .environment fs) (name, value) =
            .table .environment fs := by
          simp only [extend, hnone]
        have hspelt (j : Item) : ¬ j.Spelt name := fun h => by
          rw [path?_of_spelt h] at hnone
          cases hnone
        rw [hextend]
        refine ⟨u, U, hfold, hu, fun j => ?_⟩
        simp only [hU, hspelt, false_or]

/-- Every name is still there when of equal ones the last is kept, and
nothing new is. -/
theorem foldl_set_spec (env vs : Environment) :
    (∀ p ∈ env.foldl (fun vs v => Keyed.set vs v.1 v.2) vs, p ∈ vs ∨ p ∈ env) ∧
      ∀ name, (Keyed.get? vs name).isSome ∨ (∃ p ∈ env, p.1 = name) →
        (Keyed.get? (env.foldl (fun vs v => Keyed.set vs v.1 v.2) vs) name).isSome := by
  induction env generalizing vs with
  | nil => exact ⟨fun p hp => .inl hp, fun name h => h.resolve_right nofun⟩
  | cons v rest ih =>
      obtain ⟨hmem, hname⟩ := ih (Keyed.set vs v.1 v.2)
      refine ⟨fun p hp => ?_, fun name h => hname name ?_⟩
      · rcases hmem p hp with hp | hp
        · rcases Keyed.eq_or_mem_of_mem_set hp with rfl | hp
          · exact .inr List.mem_cons_self
          · exact .inl hp
        · exact .inr (List.mem_cons_of_mem v hp)
      · rw [Keyed.get?_set]
        by_cases hv : v.1 = name
        · exact .inl (by rw [if_pos hv]; rfl)
        · simp only [hv, if_false, List.exists_mem_cons_iff, false_or] at h ⊢
          exact h

/-- An environment that sets some items gives them, and no others. -/
theorem settings_give {env : Environment} {S : Finset Item} {c : Configuration}
    (hlevel : c.logLevel ∈ Configuration.logLevels) (h : env.Sets S c) :
    ∃ u, settings env = .table .environment u ∧ Configuration.Gives u S c := by
  obtain ⟨hmem, hname⟩ := foldl_set_spec env []
  have hempty : Configuration.Gives [] ∅ c :=
    ⟨Setting.sectioned_nil, fun i hi => absurd hi (Finset.notMem_empty i), fun i _ => by
      cases i <;> rfl⟩
  obtain ⟨u, U, hfold, hu, hU⟩ := foldl_gives hlevel _
    (fun p hp => h.only p ((hmem p hp).resolve_left nofun)) hempty
  refine ⟨u, (settings_eq env).trans hfold, ?_⟩
  have hUS : U = S := by
    ext i
    rw [hU]
    refine ⟨fun hi => (hi.resolve_left (Finset.notMem_empty i)).1, fun hi => .inr ⟨hi, ?_⟩⟩
    obtain ⟨p, hp, hspelt⟩ := h.each i hi
    obtain ⟨value, hvalue⟩ := Option.isSome_iff_exists.mp (hname p.1 (.inr ⟨p, hp, rfl⟩))
    exact ⟨(p.1, value), Keyed.mem_of_get? hvalue, hspelt⟩
  exact hUS ▸ hu

end Environment
end InstrumentBus
