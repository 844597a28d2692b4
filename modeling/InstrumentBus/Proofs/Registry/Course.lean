/-
The course of a call, as far as the line for its session is concerned.

A call asks for the lock of the entry it has looked up and gets in line
for it, or takes it at once, which comes to the same: it stands at the
head of the line. From then on it stands there until its program is over,
or until it is cancelled, dropped or refused. `Call.Course` says so of a
step while the registry is in use, for a call that is granted what it asks
for; to be cancelled or dropped is one of its cases. Once the registry has
been disposed of less can happen (`Call.Ages`): nobody gets in line any
more, and no program is started.
-/
import InstrumentBus.Proofs.Registry.Settled

namespace InstrumentBus

-- ======================================================= going by the stage

namespace Call

/-- A call stands in line for a lock, at its head or behind. -/
def inLine : CallStage → Bool
  | .queued _ | .recheck _ | .confirm _ | .fill _ | .enter _ | .acting _ _ _ | .vacate _ _
  | .abandon _ _ | .leave _ _ => true
  | .check | .find | .request _ | .ended _ | .dropped => false

/-- A call has asked for a lock. -/
def asks : CallStage → Bool
  | .check | .find | .request _ => false
  | _ => true

/-- A call gets in line: it begins to wait for a lock, or takes it. -/
def linesUp (c c' : Call) : Bool := !inLine c.stage && inLine c'.stage

/-- The program of a call is started. -/
def isCalled (c c' : Call) : Bool := c.entered.isNone && c'.entered.isSome

/-- A call was dropped, cancelled or refused, and its program had not been
started. -/
def leftOut (c : Call) : Bool :=
  c.entered.isNone &&
    match c.stage with
    | .dropped => true
    | .ended (.error f) => f = lockCancelled c.address ∨ f = registryClosed
    | _ => false

end Call

-- ===================================================== lists and lines

/-- What is at the front of the selected stays there when fewer are
selected, none of them from the front. -/
theorem prefix_filter {α : Type} {l front : List α} {p q : α → Bool} (h : front <+: l.filter p)
    (hfront : ∀ x ∈ front, q x = true) (hq : ∀ x ∈ l, q x = true → p x = true) :
    front <+: l.filter q := by
  obtain ⟨rest, hrest⟩ := h
  have hfilter : l.filter q = (l.filter p).filter q := by
    rw [List.filter_filter]
    refine List.filter_congr fun x hx => ?_
    cases hqx : q x with
    | false => rfl
    | true => rw [hq x hx hqx]; rfl
  refine ⟨rest.filter q, ?_⟩
  rw [hfilter, ← hrest, List.filter_append, List.filter_eq_self.mpr hfront]

namespace Reline

variable {id : TaskId} {t t' : Task} {e : EntryId} {l l' : List TaskId} {p p' : TaskId → Bool}

/-- A task that is not looked at may come and go. -/
theorem filter_eq (h : Reline id t t' e l l') (hin : id ∈ l → p id = false)
    (hin' : id ∈ l' → p' id = false) (ho : ∀ j, j ≠ id → p' j = p j) :
    l'.filter p' = l.filter p := by
  have hsame : (id ∈ l → p' id = false) → l.filter p' = l.filter p := by
    intro hid
    refine List.filter_congr fun j hj => ?_
    by_cases hji : j = id
    · subst hji
      rw [hid hj, hin hj]
    · exact ho j hji
  cases h with
  | keep h hs =>
      rw [h] at hin' ⊢
      exact hsame hin'
  | joins h hs hs' =>
      have hnew : p' id = false := hin' (h ▸ List.mem_append_right l (List.mem_singleton.mpr rfl))
      rw [h, List.filter_append, hsame fun _ => hnew, List.filter_cons_of_neg (by simp [hnew])]
      exact List.append_nil _
  | leaves h hs' =>
      rw [h, List.filter_filter]
      refine List.filter_congr fun j hj => ?_
      by_cases hji : j = id
      · subst hji
        simp [hin hj]
      · simp [hji, ho j hji]

/-- A task that stands where it stood leaves the line as it is. -/
theorem eq_of_same (h : Reline id t t' e l l') (hin : id ∈ l ↔ t.StandsIn e)
    (hs : t'.StandsIn e ↔ t.StandsIn e) : l' = l := by
  cases h with
  | keep h _ => exact h
  | joins h hno hyes => exact absurd (hs.mp hyes) hno
  | leaves h hno =>
      rw [h, List.filter_eq_self]
      intro j hj
      refine decide_eq_true ?_
      rintro rfl
      exact hno (hs.mpr (hin.mp hj))

/-- A task that gets in line does so at its end. -/
theorem eq_of_joins (h : Reline id t t' e l l') (hno : ¬ t.StandsIn e) (hyes : t'.StandsIn e) :
    l' = l ++ [id] := by
  cases h with
  | keep h hs => exact absurd (hs.mp hyes) hno
  | joins h _ _ => exact h
  | leaves h hno' => exact absurd hyes hno'

/-- A task that has left the line. -/
theorem filter_gone (h : Reline id t t' e l l') (hin : id ∈ l ↔ t.StandsIn e)
    (hs' : ¬ t'.StandsIn e) (ho : ∀ j, j ≠ id → p' j = p j) :
    l'.filter p' = (l.filter p).filter (· ≠ id) := by
  have hmem : id ∉ l' := fun hm => hs' ((h.mem_self hin).mp hm)
  have hline : l' = l.filter (· ≠ id) := by
    cases h with
    | keep h hs =>
        subst h
        refine (List.filter_eq_self.mpr fun j hj => decide_eq_true ?_).symm
        rintro rfl
        exact hmem hj
    | joins h _ hs => exact absurd hs hs'
    | leaves h _ => exact h
  rw [hline, List.filter_filter, List.filter_filter]
  refine List.filter_congr fun j _ => ?_
  by_cases hji : j = id
  · simp [hji]
  · simp [hji, ho j hji]

end Reline

-- ================================================== the course of a call

namespace Call

variable {id : TaskId} {c c' : Call} {x x' : BusSite} {e : EntryId}

/-- What becomes of a call while the registry is in use, as far as the line
for its session is concerned. -/
inductive Course (c c' : Call) : Prop where
  -- it stays where it stands, in line or not
  | stays (ha : asks c.stage = true → asks c'.stage = true) (he : c'.entered = c.entered)
      (hl : c'.leftOut = c.leftOut)
      (hs : ∀ e, (Task.call c').StandsIn e ↔ (Task.call c).StandsIn e)
  -- it gets in line
  | lines (e : EntryId) (hs : c.stage = .request e) (hn : c.entered = none)
      (he : c'.entered = none) (hs' : c'.stage = .queued e ∨ c'.stage = .recheck e)
  -- it is called, at the head of the line
  | starts (e : EntryId) (hs : c.stage = .enter e) (hn : c.entered = none)
      (he : c'.entered ≠ none) (hs' : lockHeld c'.stage = some e)
  -- its program is over, or it is dropped in the midst of it
  | leaves (he : c.entered ≠ none) (he' : c'.entered = c.entered) (ha : asks c'.stage = true)
      (hs' : inLine c'.stage = false)
  -- it is left out
  | givesUp (hn : c.entered = none) (he : c'.entered = none) (ha : asks c'.stage = true)
      (hs' : inLine c'.stage = false) (hl : c'.leftOut = true)

theorem standsIn_iff : (Task.call c).StandsIn e ↔ inLine c.stage = true ∧ entry? c.stage = some e := by
  obtain ⟨address, program, cancelled, entered, replies, stage⟩ := c
  unfold Task.StandsIn
  cases stage <;> simp [Task.lockHeld, Task.queuedOn, lockHeld, inLine, entry?]

theorem standsIn_congr (hl : inLine c'.stage = inLine c.stage)
    (he : entry? c'.stage = entry? c.stage) (e : EntryId) :
    (Task.call c').StandsIn e ↔ (Task.call c).StandsIn e := by
  rw [standsIn_iff, standsIn_iff, hl, he]

/-- Who stands in line has an entry. -/
theorem entry_of_inLine {s : CallStage} (h : inLine s = true) : ∃ e, entry? s = some e := by
  cases s <;> first | exact ⟨_, rfl⟩ | cases h

theorem inLine_congr (h : ∀ e, (Task.call c').StandsIn e ↔ (Task.call c).StandsIn e) :
    inLine c'.stage = inLine c.stage := by
  refine Bool.eq_iff_iff.mpr ⟨?_, ?_⟩
  · intro hl
    obtain ⟨e, he⟩ := entry_of_inLine hl
    exact (standsIn_iff.mp ((h e).mp (standsIn_iff.mpr ⟨hl, he⟩))).1
  · intro hl
    obtain ⟨e, he⟩ := entry_of_inLine hl
    exact (standsIn_iff.mp ((h e).mpr (standsIn_iff.mpr ⟨hl, he⟩))).1

theorem asks_of_lockHeld {s : CallStage} (h : lockHeld s = some e) : asks s = true := by
  cases s <;> first | rfl | cases h

theorem isCalled_of_eq (h : c'.entered = c.entered) : isCalled c c' = false := by
  unfold isCalled
  rw [h]
  cases c.entered <;> rfl

/-- Who stays in line, or out of it, does not get in line. -/
theorem linesUp_of_eq (h : inLine c'.stage = inLine c.stage) : linesUp c c' = false := by
  unfold linesUp
  rw [h]
  cases inLine c.stage <;> rfl

/-- A call that has not left the line is not left out. -/
theorem leftOut_of_inLine (h : inLine c.stage = true) : c.leftOut = false := by
  obtain ⟨address, program, cancelled, entered, replies, stage⟩ := c
  cases stage <;> first | exact Bool.and_false _ | cases h

/-- A call whose program has been started is not left out. -/
theorem leftOut_of_entered (h : c.entered ≠ none) : c.leftOut = false := by
  obtain ⟨p, hp⟩ := Option.ne_none_iff_exists'.mp h
  unfold leftOut
  rw [hp]
  rfl

/-- The steps of a call that is granted what it asks for, while the
registry is in use. -/
theorem Stride.course (h : c.Stride id x c' x') (hs : c.steady = true)
    (hd : x.registry.disposed = false)
    (hcur : ∀ e, entry? c.stage = some e → x.registry.current? c.address = some e)
    (hu : Call.started c.stage = false → c.entered = none)
    (hg : ∀ f, Deed.asked (.error f) ∉ c.deeds x x') : c.Course c' := by
  have hact : ∀ {c : Call} {s : Session} {x : BusSite} {e : EntryId}
      {run : StateM (Line (Recorded Simulated)) Advance},
      inLine (c.act e s x run).1.stage = true ∧ entry? (c.act e s x run).1.stage = some e ∧
        lockHeld (c.act e s x run).1.stage = some e ∧ asks (c.act e s x run).1.stage = true ∧
        (c.act e s x run).1.entered = c.entered := by
    intro c s x e run
    obtain ⟨replies, stage, hcall, ⟨pending, rest, rfl⟩ | ⟨result, rfl⟩⟩ := act_call c e s x run
    · rw [hcall]
      exact ⟨rfl, rfl, rfl, rfl, rfl⟩
    · rw [hcall]
      exact ⟨rfl, rfl, rfl, rfl, rfl⟩
  obtain ⟨address, program, cancelled, entered, replies, stage⟩ := c
  cases h with
  | closed hstage hdis =>
      rw [hd] at hdis
      cases hdis
  | checked hstage | found hstage =>
      cases hstage
      exact .stays nofun rfl rfl fun _ => Iff.rfl
  | refused e hstage | withdrawn e hstage =>
      cases hstage
      cases hu rfl
      exact .givesUp rfl rfl rfl rfl (by simp [leftOut])
  | granted e hstage hc hgot =>
      cases hstage
      exact .lines e rfl (hu rfl) (hu rfl) (.inr rfl)
  | lined e hstage hc hgot =>
      cases hstage
      exact .lines e rfl (hu rfl) (hu rfl) (.inl rfl)
  | noticed e hstage | rechecked e hstage | confirmed e hstage | reused e s hstage
  | opened e s bus hstage =>
      -- the lock is held or has been handed over, and the line is the same
      cases hstage
      exact .stays (fun _ => rfl) rfl rfl (standsIn_congr rfl rfl)
  | barred e hstage hdis =>
      rw [hd] at hdis
      cases hdis
  | stale e hstage hno =>
      cases hstage
      exact absurd (hcur e rfl) hno
  | failed e f bus hstage hv hrun =>
      rw [deeds_of_asked hstage rfl] at hg
      refine absurd (List.mem_singleton.mpr ?_) (hg f)
      unfold answer
      rw [hrun]
      rfl
  | started e s hstage hslot =>
      cases hstage
      obtain ⟨-, -, hlock, -, hent⟩ := hact
      refine .starts e rfl (hu rfl) ?_ hlock
      rw [hent]
      exact Option.some_ne_none _
  | resumed e pending rest s hstage hdue hslot =>
      cases hstage
      obtain ⟨hline, hentry, -, hasks, hent⟩ := hact
      exact .stays (fun _ => hasks) hent
        ((leftOut_of_inLine hline).trans (leftOut_of_inLine rfl).symm)
        (standsIn_congr hline hentry)
  | vacated e f hstage | abandoned e f hstage =>
      cases hstage
      cases hs
  | left e result hstage =>
      cases hstage
      refine .leaves ?_ rfl rfl rfl
      exact Option.isSome_iff_ne_none.mp hs

/-- A call that is dropped is left out, unless it was over or its program
had been started. -/
theorem drop_course (id : TaskId) (c : Call) (x : BusSite) : c.Course (c.drop id x).1 := by
  by_cases hover : c.isOver = true
  · rw [World.Call.drop_of_isOver id x hover]
    exact .stays (fun h => h) rfl rfl fun _ => Iff.rfl
  · have hdrop : (c.drop id x).1 = { c with stage := .dropped } := by
      obtain ⟨address, program, cancelled, entered, replies, stage⟩ := c
      cases stage <;> first | rfl | exact absurd rfl hover
    rw [hdrop]
    by_cases he : c.entered = none
    · refine .givesUp he he rfl rfl ?_
      unfold leftOut
      rw [he]
      rfl
    · exact .leaves he rfl rfl rfl

/-- What a call keeps and does not do once the registry has been disposed
of. -/
structure Ages (c c' : Call) : Prop where
  address : c'.address = c.address
  asks : asks c.stage = true → asks c'.stage = true
  entered : c'.entered = c.entered
  leftOut : c.leftOut = true → c'.leftOut = true
  outside : linesUp c c' = false

theorem Ages.refl (c : Call) : c.Ages c :=
  ⟨rfl, fun h => h, rfl, fun h => h, linesUp_of_eq rfl⟩

theorem Stride.ages (h : c.Stride id x c' x') (hd : x.registry.disposed = true)
    (hs : within c.stage = false) : c.Ages c' := by
  obtain ⟨address, program, cancelled, entered, replies, stage⟩ := c
  have hnot : ∀ {s}, stage = s → within s = true → False := by
    rintro s rfl hw
    cases hs.symm.trans hw
  cases h with
  | closed hstage hdis =>
      cases hstage
      exact ⟨rfl, nofun, rfl, fun h => absurd h (by simp [Call.leftOut]), rfl⟩
  | checked hstage hdis =>
      rw [hd] at hdis
      cases hdis
  | rechecked e hstage hdis =>
      rw [hd] at hdis
      cases hdis
  | found hstage | refused e hstage | granted e hstage | lined e hstage | confirmed e hstage
  | stale e hstage | reused e s hstage | opened e s bus hstage | failed e f bus hstage
  | started e s hstage => exact (hnot hstage rfl).elim
  | resumed e pending rest s hstage hdue hslot =>
      cases hstage
      obtain ⟨replies', stage, hcall, ⟨pending', rest', rfl⟩ | ⟨result, rfl⟩⟩ :=
        act_call ⟨address, program, cancelled, entered, replies, .acting e pending rest⟩ e s x
          (Program.resume x.clock pending rest)
      · rw [hcall]
        exact ⟨rfl, fun _ => rfl, rfl, fun h => h, rfl⟩
      · rw [hcall]
        exact ⟨rfl, fun _ => rfl, rfl, fun h => h, rfl⟩
  | withdrawn e hstage | left e result hstage =>
      cases hstage
      exact ⟨rfl, fun _ => rfl, rfl, fun h => absurd h (by simp [Call.leftOut]), rfl⟩
  | noticed e hstage | barred e hstage | vacated e f hstage | abandoned e f hstage =>
      cases hstage
      exact ⟨rfl, fun _ => rfl, rfl, fun h => h, rfl⟩

/-- It is a refusal. -/
def Deed.isRefusal : Deed → Bool
  | .asked (.error _) => true
  | _ => false

/-- To cancel the token of a call changes nothing for now. -/
theorem cancel_course (c : Call) : c.Course { c with cancelled := true } :=
  .stays (fun h => h) rfl rfl fun _ => Iff.rfl

theorem cancel_ages (c : Call) : c.Ages { c with cancelled := true } :=
  ⟨rfl, fun h => h, rfl, fun h => h, linesUp_of_eq rfl⟩

theorem drop_ages (id : TaskId) (c : Call) (x : BusSite) : c.Ages (c.drop id x).1 := by
  obtain ⟨address, program, cancelled, entered, replies, stage⟩ := c
  cases stage with
  | ended result => exact .refl _
  | dropped => exact .refl _
  | _ => exact ⟨rfl, fun _ => rfl, rfl, fun h => absurd h (by simp [Call.leftOut]), rfl⟩

end Call

end InstrumentBus
