/-
A configuration and those who use it.

What a configuration is checked for when it is loaded is checked again
where it is used, or taken for granted there: a scan looks at its range, a
wait at its interval, the driver is handed the end-of-string flags and
their character in one word, and a registry has no sweep if its interval
has no length. A configuration that makes sense passes everywhere
(`Configuration.Serves`), and one whose range does not is refused by a
scan as well.

A wait may pause, and be taken up again, any number of times. What it may
come to (`Act.ComesTo`) is said for any driver, and for any state in which
it finds the driver and its session each time. Nothing that happens in
between matters: the interval is looked at once, when the wait is begun,
and nothing that follows complains of it.
-/
import InstrumentBus.Bus.Simulated
import InstrumentBus.Configuration
import InstrumentBus.Proofs.Session.Exchange
import InstrumentBus.Registry.World
import Mathlib.Tactic.IntervalCases

namespace InstrumentBus

variable {β α γ : Type}

-- ================================================= complaints of an interval

/-- What is said of a poll interval that has no length. -/
def intervalRefused : Failure := .invalidArgument .zeroInterval

/-- An exchange does not complain of an interval, whatever the driver. -/
def Exchange.Spares (x : Exchange β α) : Prop := ∀ b, (x.run b).1 ≠ .error intervalRefused

/-- A failure is what it is, whatever would have been returned. -/
theorem error_spares {e : Failure} (h : (.error e : Except Failure α) ≠ .error intervalRefused) :
    (.error e : Except Failure γ) ≠ .error intervalRefused :=
  fun he => h (congrArg _ (Except.error.inj he))

theorem map_spares {r : Except Failure α} (f : α → γ) (h : r ≠ .error intervalRefused) :
    r.map f ≠ .error intervalRefused := by
  cases r with
  | ok a => nofun
  | error e => exact error_spares h

theorem Exchange.Spares.map {x : Exchange β α} (f : α → γ) (h : x.Spares) :
    (f <$> x).Spares := by
  intro b
  rw [run_map]
  exact map_spares f (h b)

namespace Session

variable [RawBus β] (s : Session)

theorem verdict_spares (b : β) (operation : String) (command : Option (List UInt8)) :
    verdict b operation command ≠ .error intervalRefused := by
  unfold verdict
  simp only
  split
  · nofun
  · split <;> nofun

theorem spares_write (command : String) : (s.write command : Exchange β Unit).Spares := by
  intro b
  rw [run_write]
  split
  · nofun
  · split
    · nofun
    · exact map_spares _ (verdict_spares _ _ _)

theorem spares_chunks (fuel : Nat) (buffer : List UInt8) :
    (s.chunks fuel buffer : Exchange β _).Spares := by
  induction fuel generalizing buffer with
  | zero => exact fun _ => nofun
  | succ fuel ih =>
      intro b
      cases hv : verdict (RawBus.read b s.descriptor buffer).1 "Read" none with
      | error e =>
          have hspares := verdict_spares (RawBus.read b s.descriptor buffer).1 "Read" none
          rw [hv] at hspares
          rw [run_chunks_error fuel hv]
          exact error_spares hspares
      | ok status =>
          rw [run_chunks_ok fuel hv]
          simp only
          split
          · nofun
          · exact map_spares _ (ih _ _)

theorem spares_read : (s.read : Exchange β String).Spares := by
  intro b
  rw [run_read]
  split
  · nofun
  · exact map_spares _ (s.spares_chunks _ _ b)

theorem ofText_spares (kind : ResponseKind) (text : List Char) :
    Response.ofText kind text ≠ .error intervalRefused := by
  unfold Response.ofText
  split
  · nofun
  · split <;> nofun

theorem spares_readAs (kind : ResponseKind) : (s.readAs kind : Exchange β Response).Spares := by
  intro b
  have hread := s.spares_read b
  rw [run_readAs]
  revert hread
  cases (s.read.run b).1 with
  | ok text => exact fun _ => ofText_spares kind text.toList
  | error e => exact error_spares

theorem spares_serialPoll : (s.serialPoll : Exchange β StatusByte).Spares := by
  intro b
  rw [run_serialPoll]
  split
  · nofun
  · exact map_spares _ (verdict_spares _ _ _)

theorem spares_poll (c : Condition) : (c.poll s : Exchange β Bool).Spares := by
  cases c with
  | message => exact s.spares_serialPoll.map _
  | service => exact s.spares_serialPoll.map _

end Session

-- ========================================================= what acts come to

namespace Act

/-- How long an act is to pause between two polls. -/
def interval? : Act → Option Duration
  | .await _ pace | .queryAsync _ _ pace => some pace.interval
  | _ => none

variable [RawBus β]

/-- How far an act may get: begun, and taken up again after each pause,
whatever has become of the clock, the session and the driver. -/
inductive ComesTo (β : Type) [RawBus β] (a : Act) : Progress → Prop where
  | begun (now : Instant) (l : Line β) : ComesTo β a ((a.start now).run l).1
  | resumed {p : Pending} (now : Instant) (l : Line β) (h : ComesTo β a (.paused p)) :
    ComesTo β a ((Act.resume p now).run l).1

/-- An act has not ended with a complaint of its interval. -/
def spared : Progress → Prop
  | .done r => r ≠ .error intervalRefused
  | .paused _ => True

/-- A part of an act does not end with such a complaint. -/
def Spares (x : StateM (Line β) Progress) : Prop := ∀ l, spared (x.run l).1

omit [RawBus β] in
theorem spares_exchange {x : Session → Exchange β Reply} (h : ∀ s, (x s).Spares) :
    Spares (exchange x) := fun l => h l.1 l.2

theorem spares_conclude (thenRead : Option ResponseKind) :
    Spares (conclude thenRead : StateM (Line β) Progress) := by
  cases thenRead with
  | none => exact fun _ => nofun
  | some kind => exact spares_exchange fun s => (s.spares_readAs kind).map _

/-- A poll is followed by a pause, by the reading of a message, or by the
end; and only the failure of the poll could bring a complaint. -/
theorem spares_pollOnce (w : Wait) (now : Instant) (thenRead : Option ResponseKind) :
    Spares (pollOnce w now thenRead : StateM (Line β) Progress) := by
  rintro ⟨s, b⟩
  rw [run_pollOnce, Wait.run_poll]
  by_cases hc : w.cancelled = true
  · rw [if_pos hc]
    nofun
  · rw [if_neg hc]
    have hpoll := s.spares_poll w.condition b
    revert hpoll
    rcases (w.condition.poll s).run b with ⟨r, b'⟩
    cases r with
    | error e => exact error_spares
    | ok found =>
        cases found with
        | true => exact fun _ => spares_conclude thenRead (s, b')
        | false =>
            intro _
            simp only [Wait.judge]
            split
            · nofun
            · trivial

theorem spares_resume (p : Pending) (now : Instant) :
    Spares (resume p now : StateM (Line β) Progress) := by
  cases p with
  | sleep wake => exact fun _ => nofun
  | await w wake thenRead => exact spares_pollOnce (w.resumed now) now thenRead

/-- A wait is begun, where its interval has a length. -/
theorem spares_startWait {pace : Pace} (h : pace.interval.isZero = false) (c : Condition)
    (now : Instant) (thenRead : Option ResponseKind) :
    Spares (startWait c pace now thenRead : StateM (Line β) Progress) := by
  unfold startWait Wait.begin?
  rw [if_neg (by rw [h]; exact Bool.false_ne_true)]
  exact spares_pollOnce _ now thenRead

theorem spares_start {a : Act} {d : Duration} (h : a.interval? = some d)
    (hd : d.isZero = false) (now : Instant) :
    Spares (a.start now : StateM (Line β) Progress) := by
  cases a with
  | await c pace =>
      cases h
      exact spares_startWait hd c now none
  | queryAsync command kind pace =>
      cases h
      rintro ⟨s, b⟩
      have hwrite := s.spares_write command b
      rcases hrun : (s.write command).run b with ⟨r, b'⟩
      rw [hrun] at hwrite
      have hx : (exchange fun s => (fun _ => Reply.nothing) <$> s.write command).run (s, b) =
          (.done (r.map fun _ => Reply.nothing), (s, b')) := by
        rw [run_exchange, Exchange.run_map, hrun]
      show spared ((exchange _ >>= _ : StateM (Line β) Progress).run (s, b)).1
      rw [stateful_bind _ hx]
      cases r with
      | ok _ => exact spares_startWait hd .message now (some kind) (s, b')
      | error e => exact error_spares hwrite
  | _ => cases h

/-- An act whose interval has a length never ends with a complaint of it. -/
theorem ComesTo.spared {a : Act} {d : Duration} (h : a.interval? = some d)
    (hd : d.isZero = false) {progress : Progress} (hc : ComesTo β a progress) :
    Act.spared progress := by
  cases hc with
  | begun now l => exact spares_start h hd now l
  | resumed now l _ => exact spares_resume _ now l

end Act

-- ============================================================== the scan

namespace Scan

variable [RawBus β] {lo hi : UInt8}

theorem run_scan_refused (h : ¬ ValidRange lo hi) (board : Int32) (b : β) :
    (scan board lo hi).run b = (.error (.invalidRange lo hi), b) := by
  unfold scan
  rw [if_pos h]
  rfl

theorem run_scan_valid (h : ValidRange lo hi) (board : Int32) (b : β) :
    ∃ outcome b', (scan board lo hi).run b = (.ok outcome, b') := by
  unfold scan
  rw [if_neg (not_not_intro h)]
  exact ⟨_, _, rfl⟩

end Scan

-- ================================================= the end-of-string word

namespace EndOfString

/-- Known flags lie above the character. -/
theorem known_disjoint (c : UInt8) : known &&& c.toUInt16 = 0 := by
  apply UInt16.eq_of_toBitVec_eq
  show 0x1C00#16 &&& c.toBitVec.setWidth 16 = 0#16
  ext i hi
  rw [BitVec.getElem_and, BitVec.getElem_setWidth, BitVec.getElem_zero]
  by_cases h8 : i < 8
  · interval_cases i <;> simp
  · rw [BitVec.getLsbD_of_ge _ i (Nat.le_of_not_lt h8), Bool.and_false]

theorem flags_disjoint {m : EndOfString} (h : FlagsKnown m.flags) :
    m.flags &&& m.character.toUInt16 = 0 := by
  have hk : m.flags &&& known = m.flags := h
  rw [← hk, UInt16.and_assoc, known_disjoint, UInt16.and_zero]

theorem toNat_word {m : EndOfString} (h : FlagsKnown m.flags) :
    m.word.toNat = m.flags.toNat + m.character.toNat := by
  have hd : m.flags.toBitVec &&& m.character.toUInt16.toBitVec = 0#16 :=
    congrArg UInt16.toBitVec (flags_disjoint h)
  calc m.word.toNat = (m.flags.toBitVec ||| m.character.toUInt16.toBitVec).toNat := rfl
    _ = (m.flags.toBitVec + m.character.toUInt16.toBitVec).toNat := by
      rw [BitVec.add_eq_or_of_and_eq_zero _ _ hd]
    _ = m.flags.toBitVec.toNat + m.character.toUInt16.toBitVec.toNat :=
      BitVec.toNat_add_of_and_eq_zero hd
    _ = m.flags.toNat + m.character.toNat := by
      rw [UInt16.toNat_toBitVec, UInt16.toNat_toBitVec, UInt8.toNat_toUInt16]

/-- Both can be had back from the word. -/
theorem word_and_known {m : EndOfString} (h : FlagsKnown m.flags) : m.word &&& known = m.flags := by
  have hk : m.flags &&& known = m.flags := h
  apply UInt16.eq_of_toBitVec_eq
  have hf : m.flags.toBitVec &&& known.toBitVec = m.flags.toBitVec := congrArg UInt16.toBitVec hk
  have hc : known.toBitVec &&& m.character.toUInt16.toBitVec = 0#16 :=
    congrArg UInt16.toBitVec (known_disjoint _)
  show (m.flags.toBitVec ||| m.character.toUInt16.toBitVec) &&& known.toBitVec = m.flags.toBitVec
  rw [BitVec.and_comm, BitVec.and_or_distrib_left, BitVec.and_comm _ m.flags.toBitVec, hf, hc,
    BitVec.or_zero]

theorem toUInt8_word {m : EndOfString} (h : FlagsKnown m.flags) : m.word.toUInt8 = m.character := by
  have hk : m.flags &&& known = m.flags := h
  have hz : m.flags.toUInt8 = 0 := by
    rw [← hk, UInt16.toUInt8_and]
    exact UInt8.and_zero
  unfold word
  rw [UInt16.toUInt8_or, hz, UInt8.zero_or]
  exact UInt8.toUInt8_toUInt16 _

end EndOfString

-- ======================================================== the configuration

namespace Configuration

/-- What those who use a configuration make of one that suits them. -/
structure Serves (c : Configuration) : Prop where
  -- a scan of its range looks for listeners, whatever the driver
  scans : ∀ {β : Type} [RawBus β] (board : Int32) (b : β), ∃ outcome b',
    (Scan.scan board c.scan.lowest c.scan.highest).run b = (.ok outcome, b')
  -- no wait at its interval, and no query that waits for its answer, ends
  -- with a complaint of the interval
  waits : ∀ {β : Type} [RawBus β] (a : Act), a.interval? = some c.pollInterval →
    ∀ r, a.ComesTo β (.done r) → r ≠ .error intervalRefused
  -- the word for the driver is the sum of its flags and its character, and
  -- shows both as they are
  word : c.sessionOptions.endOfString.word.toNat =
    c.bus.eosFlags.toNat + c.bus.eosCharacter.toNat
  flags : c.sessionOptions.endOfString.word &&& EndOfString.known = c.bus.eosFlags
  character : c.sessionOptions.endOfString.word.toUInt8 = c.bus.eosCharacter
  -- a registry made as it says has a sweep from the start
  sweeps : ∀ {β : Type} (b : β), (World.idle b c.newRegistry).startSweep =
    { site := ⟨b, 0, { c.newRegistry with sweepStarted := true }⟩, tasks := [.ticker .fresh] }

/-- What is known of a configuration that makes sense. -/
structure Sensible (c : Configuration) : Prop where
  logLevel : c.logLevel ∈ logLevels
  board : ¬ c.bus.board < 0
  flags : EndOfString.FlagsKnown c.bus.eosFlags
  interval : c.polling.interval ≠ 0
  sweep : c.registry.sweepInterval ≠ 0
  range : Scan.ValidRange c.scan.lowest c.scan.highest

theorem ite_some_eq_none {p : Prop} [Decidable p] {x : α} {o : Option α} :
    (if p then some x else o) = none ↔ ¬ p ∧ o = none := by
  by_cases h : p <;> simp [h]

theorem isValid_iff {c : Configuration} : c.IsValid ↔ c.Sensible := by
  unfold IsValid objection?
  simp only [ite_some_eq_none, not_not, and_true]
  exact ⟨fun ⟨hl, hb, hf, hi, hs, hr⟩ => ⟨hl, hb, hf, hi, hs, hr⟩,
    fun h => ⟨h.logLevel, h.board, h.flags, h.interval, h.sweep, h.range⟩⟩

theorem ite_some_eq_some {p : Prop} [Decidable p] {x y : α} {o : Option α} :
    (if p then some x else o) = some y ↔ p ∧ x = y ∨ ¬ p ∧ o = some y := by
  by_cases h : p <;> simp [h]

/-- An objection to the range is the last there can be. -/
theorem of_scanRange {c : Configuration} {lo hi : UInt8}
    (h : c.objection? = some (.scanRange lo hi)) :
    ¬ Scan.ValidRange c.scan.lowest c.scan.highest ∧ c.scan.lowest = lo ∧ c.scan.highest = hi := by
  unfold objection? at h
  simp only [ite_some_eq_some, reduceCtorEq, and_false, false_or, or_false] at h
  obtain ⟨-, -, -, -, -, hr, heq⟩ := h
  exact ⟨hr, Objection.scanRange.inj heq⟩

theorem isZero_length {n : UInt64} (h : n ≠ 0) {unit : Nat} (hu : 0 < unit) :
    Duration.isZero ⟨n.toNat * unit⟩ = false := by
  have hn : n.toNat ≠ 0 := fun h0 => h (UInt64.toNat_inj.mp h0)
  exact beq_false_of_ne (Nat.mul_ne_zero hn (Nat.pos_iff_ne_zero.mp hu))

theorem Sensible.serves {c : Configuration} (h : c.Sensible) : c.Serves := by
  have hflags : c.bus.eosFlags &&& EndOfString.known = c.bus.eosFlags := h.flags
  have hkept : c.sessionOptions.endOfString = ⟨c.bus.eosCharacter, c.bus.eosFlags⟩ :=
    congrArg (EndOfString.mk c.bus.eosCharacter) hflags
  have hknown : EndOfString.FlagsKnown c.sessionOptions.endOfString.flags := by
    rw [hkept]
    exact h.flags
  have hsweep : c.sweepPolicy.sweepInterval.isZero = false :=
    isZero_length h.sweep (by decide)
  refine
    { scans := fun board b => Scan.run_scan_valid h.range board b
      waits := fun a ha r hr => hr.spared ha (isZero_length h.interval (by decide))
      word := (EndOfString.toNat_word hknown).trans (by rw [hkept])
      flags := (EndOfString.word_and_known hknown).trans (by rw [hkept])
      character := (EndOfString.toUInt8_word hknown).trans (by rw [hkept])
      sweeps := fun b => ?_ }
  unfold World.startSweep
  exact if_neg (by rw [show (World.idle b c.newRegistry).site.registry.policy.sweepInterval.isZero =
    false from hsweep]; exact Bool.false_ne_true)

/-- A configuration that makes sense suits all who use it; and where it makes
no sense for its range alone, a scan of that range is refused with the same
bounds, and makes no call. -/
theorem valid_serves (c : Configuration) :
    (c.IsValid → c.Serves) ∧
      ∀ lo hi, c.objection? = some (.scanRange lo hi) →
        c.scan.lowest = lo ∧ c.scan.highest = hi ∧
          ∀ {β : Type} [RawBus β] (board : Int32) (b : β),
            (Scan.scan board lo hi).run b = (.error (.invalidRange lo hi), b) := by
  refine ⟨fun h => (isValid_iff.mp h).serves, fun lo hi h => ?_⟩
  obtain ⟨hr, rfl, rfl⟩ := of_scanRange h
  exact ⟨rfl, rfl, fun board b => Scan.run_scan_refused hr board b⟩

/-- A configuration at the edges of what makes sense: all flags with a
character of eight bits, the shortest interval, and a single address. -/
def narrow : Configuration :=
  { standard with
    bus := { BusSettings.standard with eosCharacter := 0xFF, eosFlags := 0x1C00 }
    polling := ⟨1, 0⟩
    scan := ⟨30, 30⟩ }

theorem valid_serves_narrow :
    (narrow.IsValid ∧ narrow.Serves) ∧
      { narrow with scan := ⟨30, 31⟩ }.objection? = some (.scanRange 30 31) ∧
      (Scan.scan 0 30 31).run Simulated.empty = (.error (.invalidRange 30 31), Simulated.empty) :=
  ⟨⟨by decide, (valid_serves narrow).1 (by decide)⟩, by decide,
    ((valid_serves { narrow with scan := ⟨30, 31⟩ }).2 30 31 (by decide)).2.2 0 _⟩

end Configuration

end InstrumentBus
