/-
The entries of calls that wait, in runs in which tasks change only where
they wait.

A call looks an entry up, gets in line for its lock and may wait there for
long. That the entry is still the current one of its address when its time
comes has three reasons. A sweep takes an entry out of the cache only
while it holds the lock, and it gets a lock only where there is no line;
since nobody else goes on before the sweep is through, nobody has got in
line behind it by then. A call takes its entry out of the cache when the
driver refused it a session, and then those behind it begin again; so let
no session be refused. And a disposal empties the cache, but it has marked
the registry before, and then nobody is let in any more.

In the midst of a turn not all of this is so. `World.Midway` says what is
so of the one task that is at it, the others being at rest, and it is kept
by each of its steps (`Midway.step`); at rest only `World.Settled` is
left. `World.Turns` are the runs, and `Turns.induct` is the induction that
goes through the steps of the turns.
-/
import InstrumentBus.Proofs.Registry.Stocked

namespace InstrumentBus

-- ======================================================= runs in turns

namespace World

variable {w w' w₁ v v' : BusWorld} {id : TaskId} {h : Happening} {hs : List Happening}

/-- A run in which tasks change only where they wait: its steps come in
turns, from where a task waits to where it waits again. -/
inductive Turns : BusWorld → List Happening → BusWorld → Prop where
  | done (w : BusWorld) : Turns w [] w
  | turn {w w₁ w' : BusWorld} {id : TaskId} {hs : List Happening} (n : Nat) (h : w.Rests id)
      (hr : w.run (List.replicate (n + 1) (.step id)) = some w₁) (h' : w₁.Rests id)
      (rest : Turns w₁ hs w') : Turns w (List.replicate (n + 1) (.step id) ++ hs) w'
  | beside {w w₁ w' : BusWorld} {h : Happening} {hs : List Happening} (hne : ∀ id, h ≠ .step id)
      (hp : w.perform h = some w₁) (rest : Turns w₁ hs w') : Turns w (h :: hs) w'

/-- A happening, or a turn, as it is written in a run. -/
def spelled (h : Happening) (n : Nat) : List Happening :=
  match h with
  | .step id => List.replicate (n + 1) (.step id)
  | h => [h]

/-- The run that a plan makes, which says how many steps a turn takes
beyond its first. -/
def turns? : BusWorld → List (Happening × Nat) → Option (List Happening × BusWorld)
  | w, [] => some ([], w)
  | w, (h, n) :: rest =>
    (w.occurs? h n).bind fun w₁ => (turns? w₁ rest).map fun p => (spelled h n ++ p.1, p.2)

theorem turns_of_turns? {plan : List (Happening × Nat)} (ht : w.turns? plan = some (hs, w')) :
    w.Turns hs w' := by
  induction plan generalizing w hs with
  | nil =>
      cases ht
      exact .done _
  | cons p rest ih =>
      obtain ⟨h, n⟩ := p
      obtain ⟨w₁, ho, hrest⟩ := Option.bind_eq_some_iff.mp ht
      obtain ⟨⟨hs', w₂⟩, hturns, heq⟩ := Option.map_eq_some_iff.mp hrest
      cases heq
      cases h with
      | step id =>
          obtain ⟨hrun, hrests⟩ := Option.filter_eq_some_iff.mp ho
          obtain ⟨hw, hw₁⟩ := of_decide_eq_true hrests
          exact .turn n hw hrun hw₁ (ih hturns)
      | _ => exact .beside nofun ho (ih hturns)

/-- A run gone on with. -/
theorem run_concat {w₀ : BusWorld} (hr : w₀.run hs = some w) (hp : w.perform h = some w') :
    w₀.run (hs ++ [h]) = some w' := by
  rw [run_append, hr]
  show (w.perform h).bind _ = _
  rw [hp]
  rfl

-- ============================================================== at rest

/-- All that a happening other than a step leaves is at rest. -/
theorem AtRest.perform (ha : w.AtRest) (hne : ∀ id, h ≠ .step id) (hp : w.perform h = some w') :
    w'.AtRest := by
  have hbegun : ∀ (t : Task) (x : BusSite), t.atRest = true →
      AtRest ⟨x, w.tasks ++ [t]⟩ := by
    intro t x ht j u hu
    rw [task?_append] at hu
    split at hu
    · cases hu
      exact ht
    · exact ha j u hu
  cases h with
  | execute a p cancelled =>
      cases hp
      exact hbegun _ _ rfl
  | evict =>
      cases hp
      exact hbegun _ _ rfl
  | dispose =>
      cases hp
      exact hbegun _ _ rfl
  | startSweep =>
      cases hp
      unfold World.startSweep
      simp only
      split
      · exact ha
      · exact hbegun _ _ rfl
  | step id => exact absurd rfl (hne id)
  | cancel id =>
      cases hp
      intro j u hu
      rw [task?_cancel] at hu
      split at hu
      next =>
        obtain ⟨t, ht, rfl⟩ := Option.map_eq_some_iff.mp hu
        have hrest := ha id t ht
        cases t <;> exact hrest
      next => exact ha j u hu
  | drop id =>
      cases hp
      cases ht : w.task? id with
      | none =>
          rw [drop_of_none ht]
          exact ha
      | some t =>
          rw [drop_of_some ht]
          intro j u hu
          rw [task?_set ht] at hu
          split at hu
          next =>
            cases hu
            have hrest := ha id t ht
            cases t with
            | call c =>
                obtain ⟨address, program, cancelled, entered, replies, stage⟩ := c
                cases stage <;> rfl
            | sweep s => exact hrest
            | disposal d => cases d <;> rfl
            | ticker k =>
                cases k with
                | sweeping s mark => cases hrest
                | _ => rfl
          next => exact ha j u hu
  | elapse d =>
      cases hp
      exact ha
  | stimulate s =>
      cases hp
      exact ha

/-- A step of one task leaves the others where they are. -/
theorem AtRestBut.step (ha : w.AtRestBut id) (hp : w.step? id = some w') : w'.AtRestBut id := by
  obtain ⟨t, t', x', ht, -, rfl⟩ := step?_eq_some hp
  intro j u hj hu
  rw [task?_set ht, if_neg hj] at hu
  exact ha j u hj hu

theorem AtRestBut.atRest (ha : w.AtRestBut id) (hr : w.Rests id) : w.AtRest := by
  intro j u hu
  by_cases hj : j = id
  · subst hj
    exact hr u hu
  · exact ha j u hj hu

/-- What holds at rest, together with what holds in the midst of a turn,
is shown of all that happens in such runs. -/
theorem Turns.induct {w₀ : BusWorld} {P : BusWorld → List Happening → Prop}
    {Q : TaskId → BusWorld → List Happening → Prop}
    (hbegin : ∀ id v hs, P v hs → Q id v hs)
    (hstep : ∀ id v v' hs, w₀.run hs = some v → v.AtRestBut id → Q id v hs →
      v.step? id = some v' → Q id v' (hs ++ [.step id]))
    (hend : ∀ id v hs, v.AtRest → Q id v hs → P v hs)
    (hbeside : ∀ v h v' hs, w₀.run hs = some v → v.AtRest → P v hs → (∀ id, h ≠ .step id) →
      v.perform h = some v' → P v' (hs ++ [h]))
    (ha : w₀.AtRest) (h₀ : P w₀ []) (ht : w₀.Turns hs w) : P w hs := by
  -- a turn, step by step
  have hturn : ∀ (n : Nat) (id : TaskId) (v v' : BusWorld) (before : List Happening),
      w₀.run before = some v → v.AtRestBut id → Q id v before →
      v.run (List.replicate n (.step id)) = some v' →
      v'.AtRestBut id ∧ Q id v' (before ++ List.replicate n (.step id)) := by
    intro n
    induction n with
    | zero =>
        intro id v v' before hr hav hq hrun
        cases hrun
        rw [List.replicate_zero, List.append_nil]
        exact ⟨hav, hq⟩
    | succ n ih =>
        intro id v v' before hr hav hq hrun
        obtain ⟨v₁, hp, hmore⟩ := Option.bind_eq_some_iff.mp hrun
        have hlast := ih id v₁ v' (before ++ [.step id]) (run_concat hr hp)
          (hav.step hp) (hstep id v v₁ before hr hav hq hp) hmore
        rwa [List.append_assoc, List.singleton_append, ← List.replicate_succ] at hlast
  have hall : ∀ {v v' : BusWorld} {hs : List Happening}, v.Turns hs v' →
      ∀ before, w₀.run before = some v → v.AtRest → P v before → P v' (before ++ hs) := by
    intro v v' hs ht
    induction ht with
    | done v =>
        intro before hr hav hp
        rwa [List.append_nil]
    | @turn v v₁ v' id hs n hrest hrun hrest' more ih =>
        intro before hr hav hp
        obtain ⟨hav₁, hq₁⟩ := hturn (n + 1) id v v₁ before hr
          (fun j u _ hu => hav j u hu) (hbegin id v before hp) hrun
        have hat := hav₁.atRest hrest'
        have hr₁ : w₀.run (before ++ List.replicate (n + 1) (.step id)) = some v₁ := by
          rw [run_append, hr]
          exact hrun
        rw [← List.append_assoc]
        exact ih _ hr₁ hat (hend id v₁ _ hat hq₁)
    | @beside v v₁ v' h hs hne hperform more ih =>
        intro before hr hav hp
        rw [← List.singleton_append, ← List.append_assoc]
        exact ih _ (run_concat hr hperform) (hav.perform hne hperform)
          (hbeside v h v₁ before hr hav hp hne hperform)
  exact hall ht [] rfl ha h₀

end World

-- ============================================= the entry that is current

namespace Call

variable {id : TaskId} {c c' : Call} {x x' : BusSite} {a : Address} {e : EntryId}

/-- A call has found the registry in use and does not wait, nor has it
started its program yet. -/
def within : CallStage → Bool
  | .find | .request _ | .confirm _ | .fill _ | .enter _ => true
  | _ => false

/-- A call does not turn back: it is not about to take its entry out of the
cache, and it leaves only after its program. -/
def steady (c : Call) : Bool :=
  match c.stage with
  | .vacate _ _ | .abandon _ _ => false
  | .leave _ _ => c.entered.isSome
  | _ => true

/-- A call keeps its address. -/
theorem Stride.address (h : c.Stride id x c' x') : c'.address = c.address := by
  have hact : ∀ (c : Call) (e : EntryId) (s : Session) (x : BusSite)
      (run : StateM (Line (Recorded Simulated)) Advance),
      (c.act e s x run).1.address = c.address := by
    intro c e s x run
    obtain ⟨replies, stage, hcall, -⟩ := act_call c e s x run
    rw [hcall]
  cases h with
  | started e s hs hslot => exact hact _ e s _ _
  | resumed e pending rest s hs hdue hslot => exact hact _ e s _ _
  | _ => rfl

/-- No call disposes of the registry. -/
theorem Stride.disposed (h : c.Stride id x c' x') :
    x'.registry.disposed = x.registry.disposed := by
  cases h with
  | found hs =>
      show (x.registry.resolve c.address x.clock).1.disposed = _
      unfold Registry.resolve
      split <;> rfl
  | started e s hs hslot => exact (act_frame _ e s _ _).2.2.2.1
  | resumed e pending rest s hs hdue hslot => exact (act_frame _ e s _ _).2.2.2.1
  | vacated e f hs => exact (Site.closeSlot_frame x e).2.2.1
  | abandoned e f hs => exact (Registry.forget_frame x.registry c.address e).1
  | _ => rfl

/-- A call that does not turn back leaves the cache as it is, but for the
entry it may make. -/
theorem Stride.cache (h : c.Stride id x c' x') (hs : c.steady = true) :
    x'.registry.cache = x.registry.cache ∨
      c.stage = .find ∧ x'.registry = (x.registry.resolve c.address x.clock).1 := by
  cases h with
  | found hstage => exact .inr ⟨hstage, rfl⟩
  | started e s hstage hslot => exact .inl (act_frame _ e s _ _).2.1
  | resumed e pending rest s hstage hdue hslot => exact .inl (act_frame _ e s _ _).2.1
  | vacated e f hstage => exact .inl (Site.closeSlot_frame x e).1
  | abandoned e f hstage =>
      unfold steady at hs
      rw [hstage] at hs
      cases hs
  | _ => exact .inl rfl

theorem Stride.current? (h : c.Stride id x c' x') (hs : c.steady = true) (a : Address) :
    x'.registry.current? a = x.registry.current? a ∨
      c.stage = .find ∧ c.address = a ∧ x.registry.current? a = none ∧
        x'.registry.current? a = some x.registry.entries.length := by
  rcases h.cache hs with hcache | ⟨hstage, hx⟩
  · exact .inl (congrArg (Keyed.get? · a) hcache)
  · rw [hx]
    cases hcur : x.registry.current? c.address with
    | some e =>
        rw [Registry.resolve_of_some hcur]
        exact .inl rfl
    | none =>
        rw [Registry.resolve_of_none hcur]
        have hset : Keyed.get? (Keyed.set x.registry.cache c.address x.registry.entries.length) a =
            if c.address = a then some x.registry.entries.length else x.registry.current? a :=
          Keyed.get?_set _ _ _ _
        by_cases ha : c.address = a
        · subst ha
          exact .inr ⟨hstage, rfl, hcur, hset.trans (if_pos rfl)⟩
        · exact .inl (hset.trans (if_neg ha))

/-- A call that has been granted what it asked for does not turn back while
the registry is in use. -/
theorem Stride.steady (h : c.Stride id x c' x') (hs : c.steady = true)
    (hsound : c.Sound x.registry) (hd : x.registry.disposed = false)
    (hg : ∀ f, Deed.asked (.error f) ∉ c.deeds x x') : c'.steady = true := by
  have hact : ∀ (c : Call) (e : EntryId) (s : Session) (x : BusSite)
      (run : StateM (Line (Recorded Simulated)) Advance), c.entered.isSome = true →
      (c.act e s x run).1.steady = true := by
    intro c e s x run hent
    obtain ⟨replies, stage, hcall, ⟨pending, rest, rfl⟩ | ⟨result, rfl⟩⟩ := act_call c e s x run
    · rw [hcall]
      rfl
    · rw [hcall]
      exact hent
  cases h with
  | barred e hstage hdis =>
      rw [hd] at hdis
      cases hdis
  | failed e f bus hstage hv hrun =>
      rw [deeds_of_asked hstage rfl] at hg
      refine absurd (List.mem_singleton.mpr ?_) (hg f)
      unfold answer
      rw [hrun]
      rfl
  | started e s hstage hslot => exact hact _ e s _ _ rfl
  | resumed e pending rest s hstage hdue hslot =>
      unfold Sound at hsound
      rw [hstage] at hsound
      obtain ⟨-, s', t, -, hent⟩ := hsound
      exact hact c e s _ _ (by rw [hent]; rfl)
  | vacated e f hstage | abandoned e f hstage =>
      unfold Call.steady at hs
      rw [hstage] at hs
      cases hs
  | _ => rfl

/-- Once the registry has been disposed of nobody is let in. -/
theorem Stride.shut (h : c.Stride id x c' x') (hd : x.registry.disposed = true)
    (hs : within c.stage = false) : within c'.stage = false := by
  cases h with
  | checked hstage hdis =>
      rw [hd] at hdis
      cases hdis
  | rechecked e hstage hdis =>
      rw [hd] at hdis
      cases hdis
  | resumed e pending rest s hstage hdue hslot =>
      obtain ⟨replies, stage, hcall, ⟨pending', rest', rfl⟩ | ⟨result, rfl⟩⟩ :=
        act_call c e s x (Program.resume x.clock pending rest)
      · rw [hcall]
        rfl
      · rw [hcall]
        rfl
  | found hstage | confirmed e hstage | reused e s hstage | opened e s bus hstage
  | started e s hstage =>
      rw [hstage] at hs
      cases hs
  | _ => rfl

end Call

/-- A sweep takes an entry out of the cache whose lock it holds. -/
theorem Sweep.Stride.current? {id : TaskId} {s s' : Sweep} {x x' : BusSite}
    (h : s.Stride id x s' x') (a : Address) :
    x'.registry.current? a = x.registry.current? a ∨
      x'.registry.current? a = none ∧
        ∃ e, x.registry.current? a = some e ∧ Sweep.lockHeld s.stage = some e := by
  cases h with
  | unlinked b e hstage =>
      show (x.registry.forget b e).current? a = _ ∨ (x.registry.forget b e).current? a = none ∧ _
      rw [Registry.current?_forget]
      by_cases hb : b = a ∧ x.registry.current? b = some e
      · rw [if_pos hb]
        obtain ⟨rfl, hb⟩ := hb
        exact .inr ⟨rfl, e, hb, by rw [hstage]; rfl⟩
      · exact .inl (if_neg hb)
  | closed e hstage => exact .inl (congrArg (Keyed.get? · a) (Site.closeSlot_frame x e).1)
  | _ => exact .inl rfl

namespace World

variable {w w' : BusWorld} {id : TaskId} {c : Call} {a : Address} {e : EntryId}

/-- The entry that a call has looked up is the current one of its address,
as long as the registry is in use. -/
def Settled (w : BusWorld) : Prop :=
  w.site.registry.disposed = false → ∀ id c e, w.call? id = some c →
    Call.entry? c.stage = some e → w.site.registry.current? c.address = some e

/-- What is so while one task is at its turn and the others are at rest. -/
structure Midway (w : BusWorld) (id : TaskId) : Prop where
  rests : w.AtRestBut id
  settled : w.Settled
  -- nobody is let in once the registry has been disposed of
  shut : w.site.registry.disposed = true → ∀ c, w.call? id = some c → Call.within c.stage = false
  -- until then nobody turns back
  steady : w.site.registry.disposed = false → ∀ c, w.call? id = some c → c.steady = true
  -- nobody waits for a lock that a sweep holds
  alone : ∀ t s e, w.task? id = some t → t.Sweeps s → Sweep.lockHeld s.stage = some e →
    w.site.registry.line e = [id]

/-- A turn begins at rest. -/
theorem Settled.midway (hs : w.Settled) (ha : w.AtRest) (id : TaskId) : w.Midway id where
  rests := fun j t _ ht => ha j t ht
  settled := hs
  shut := by
    intro _ c hc
    have hrest := ha id _ (call?_eq_some.mp hc)
    obtain ⟨address, program, cancelled, entered, replies, stage⟩ := c
    cases stage <;> first | rfl | cases hrest
  steady := by
    intro _ c hc
    have hrest := ha id _ (call?_eq_some.mp hc)
    obtain ⟨address, program, cancelled, entered, replies, stage⟩ := c
    cases stage <;> first | rfl | cases hrest
  alone := by
    intro t s e ht hsweeps hl
    have hrest := ha id t ht
    cases hsweeps with
    | own s =>
        obtain ⟨began, todo, evicted, stage⟩ := s
        have hfree : Sweep.lockHeld stage = none := by
          cases stage <;> first | rfl | cases hrest
        cases hfree.symm.trans hl
    | ticking s mark => cases hrest

/-- A call at rest that has an entry in mind stands in its line. -/
theorem Sound.mem_line (hw : w.Sound) (hc : w.call? id = some c)
    (hrest : (Task.call c).atRest = true) (he : Call.entry? c.stage = some e) :
    id ∈ w.site.registry.line e := by
  refine (hw.inLine.stands id e).mpr ⟨_, call?_eq_some.mp hc, ?_⟩
  obtain ⟨address, program, cancelled, entered, replies, stage⟩ := c
  cases stage with
  | queued e' => exact .inr he
  | acting e' pending rest => exact .inl he
  | check => cases he
  | ended result => cases he
  | dropped => cases he
  | _ => cases hrest

/-- A disposal that goes on leaves the registry disposed of. -/
theorem Sound.disposal_step {d : Disposal} (hw : w.Sound)
    (ht : w.task? id = some (.disposal d)) (hp : w.step? id = some w') :
    w'.site.registry.disposed = true := by
  obtain ⟨t, t', x', ht', hstep, rfl⟩ := step?_eq_some hp
  cases ht.symm.trans ht'
  obtain ⟨⟨d', y⟩, hd', heq⟩ := Option.map_eq_some_iff.mp hstep
  cases heq
  have hr := Reaches.perform (h := .step id) hp
  by_cases hdis : w.site.registry.disposed = true
  · exact hr.disposed hw hdis
  · have hno : w.site.registry.disposed = false := Bool.eq_false_iff.mpr hdis
    have hpending : ∀ l, d.pending? = some l → False := fun l hl =>
      hdis (hw.draining id _ l ht hl).disposed
    cases d with
    | mark =>
        simp only [Disposal.step, hno, Bool.false_eq_true, if_false] at hd'
        cases hd'
        rfl
    | list => exact absurd ((hw.tasks id _ ht).1 rfl) hdis
    | ended => cases hd'
    | dropped => cases hd'
    | _ => exact (hpending _ rfl).elim

/-- What may become of the current entry of an address in a step. -/
inductive Recurs (w w' : BusWorld) (id : TaskId) (a : Address) : Prop where
  | same (h : w'.site.registry.current? a = w.site.registry.current? a)
  -- a call that has found none makes one
  | made (c : Call) (hc : w.call? id = some c) (hs : c.stage = .find)
      (hnone : w.site.registry.current? a = none)
      (hcur : w'.site.registry.current? a = some w.site.registry.entries.length)
  -- a sweep behind which nobody waits takes it out of the cache
  | unlinked (e : EntryId) (hc : w.call? id = none)
      (hcur : w.site.registry.current? a = some e) (hl : w.site.registry.line e = [id])
      (hnone : w'.site.registry.current? a = none)

theorem Midway.recurs (hm : w.Midway id) (hw : w.Sound) (hp : w.step? id = some w')
    (hd : w'.site.registry.disposed = false) (a : Address) : Recurs w w' id a := by
  have hd₀ := (Reaches.perform (h := .step id) hp).inUse hw hd
  obtain ⟨t, t', x', ht, hstep, rfl⟩ := step?_eq_some hp
  have hsweep : ∀ s s', t.Sweeps s → s.Stride id w.site s' x' →
      Recurs w ⟨x', w.tasks.set id t'⟩ id a := by
    intro s s' hs hst
    rcases hst.current? a with hsame | ⟨hnone, e, hcur, hl⟩
    · exact .same hsame
    · refine .unlinked e ?_ hcur (hm.alone t s e ht hs hl) hnone
      unfold call?
      rw [ht]
      cases hs <;> rfl
  cases t with
  | call c =>
      have hc := call?_eq_some.mpr ht
      obtain ⟨⟨c', y⟩, hcall, heq⟩ := Option.map_eq_some_iff.mp hstep
      cases heq
      have hst := Call.step_stride hcall (hw.tasks id _ ht)
      rcases hst.current? (hm.steady hd₀ c hc) a with hsame | ⟨hstage, ha, hnone, hcur⟩
      · exact .same hsame
      · exact .made c hc hstage hnone hcur
  | sweep s =>
      obtain ⟨⟨s', y⟩, hs', heq⟩ := Option.map_eq_some_iff.mp hstep
      cases heq
      exact hsweep s s' (.own s) (Sweep.step_stride hs')
  | ticker k =>
      obtain ⟨⟨k', y⟩, hk', heq⟩ := Option.map_eq_some_iff.mp hstep
      cases heq
      rcases Ticker.step_cases hk' with hx | ⟨s, s', mark, rfl, hst⟩
      · exact .same (congrArg (fun x : BusSite => x.registry.current? a) hx)
      · exact hsweep s s' (.ticking s mark) hst
  | disposal d =>
      rw [hw.disposal_step ht hp] at hd
      cases hd

-- ======================================================= a step on the way

/-- What a happening that concerns a task does to the lines. -/
theorem Sound.reline {h : Happening} {t : Task} (hw : w.Sound) (hsub : h.subject? = some id)
    (ht : w.task? id = some t) (hp : w.perform h = some w') :
    ∃ t', w'.task? id = some t' ∧
      ∀ e, Reline id t t' e (w.site.registry.line e) (w'.site.registry.line e) := by
  have hch := hw.perform_change hp
  cases hch with
  | task j u u' hid hu htasks he hs hpend hf =>
      cases hsub.symm.trans hid
      cases ht.symm.trans hu
      refine ⟨u', (htasks id).trans (if_pos rfl), ?_⟩
      intro e
      have hq : ∀ e, t.queuedOn = some e → e < w.site.registry.entries.length := fun e hq =>
        Registry.lt_of_mem_line ((hw.inLine.stands id e).mpr ⟨t, ht, .inr hq⟩)
      exact (he.locks.relines hw.inLine.busy hw.inLine.once (hw.inLine.front id t · ht) hq e).1
  | begun u hf htasks hb hr =>
      refine ⟨t, ?_, fun e => .keep (Registry.line_congr (hr.locks e)) Iff.rfl⟩
      rw [htasks, if_neg]
      · exact ht
      · rintro rfl
        rw [task?_nextId] at ht
        cases ht
  | beside htasks hl htrace hr =>
      exact ⟨t, (htasks id).trans ht, fun e => .keep (by rw [hr]) Iff.rfl⟩

/-- The other calls stay where they are, and none appears, when something
happens to a task. -/
theorem call?_other {h : Happening} {j : TaskId} (hsub : h.subject? = some id)
    (hp : w.perform h = some w') (hj : j ≠ id) : w'.call? j = w.call? j := by
  unfold call?
  cases h with
  | step i =>
      cases hsub
      obtain ⟨t, t', x', ht, -, rfl⟩ := step?_eq_some hp
      rw [task?_set ht, if_neg hj]
  | cancel i =>
      cases hsub
      cases hp
      rw [task?_cancel, if_neg hj]
  | drop i =>
      cases hsub
      cases hp
      cases ht : w.task? id with
      | none => rw [drop_of_none ht]
      | some t => rw [drop_of_some ht, task?_set ht, if_neg hj]
  | _ => cases hsub

/-- What is a call after a step was one before. -/
theorem call_of_step {c' : Call} (hw : w.Sound) (hp : w.step? id = some w')
    (hc' : w'.call? id = some c') :
    ∃ c, w.call? id = some c ∧ c.Stride id w.site c' w'.site ∧
      w.deedsIn id (.step id) w' = c.deeds w.site w'.site := by
  rcases ((hw.perform_change (h := .step id) hp).came hc') with ⟨hnone, -⟩ | ⟨c, hc⟩
  · obtain ⟨t, t', x', ht, -⟩ := step?_eq_some hp
    cases hnone.symm.trans ht
  · obtain ⟨c₁, hstep, hc₁⟩ := step?_call_eq_some hc hp
    cases hc'.symm.trans hc₁
    exact ⟨c, hc, Call.step_stride hstep (hw.tasks id _ (call?_eq_some.mp hc)), deedsIn_step hc⟩

/-- The lock that a sweep takes has no line. -/
theorem Midway.alone_step (hm : w.Midway id) (hw : w.Sound) (hp : w.step? id = some w') :
    ∀ t s e, w'.task? id = some t → t.Sweeps s → Sweep.lockHeld s.stage = some e →
      w'.site.registry.line e = [id] := by
  intro t' s' e ht' hs' hl
  obtain ⟨t, t₁, x', ht, hstep, rfl⟩ := step?_eq_some hp
  rw [task?_set ht, if_pos rfl] at ht'
  cases ht'
  rcases hs'.of_step hstep with ⟨rfl, -⟩ | ⟨s, hs, hsweep⟩
  · cases hl
  · have hbefore := hm.alone t s e ht hs
    cases Sweep.step_stride hsweep with
    | listed hstage => cases hl
    | finished hstage hnil => cases hl
    | passed a e' rest hstage htodo htake =>
        rw [show Sweep.lockHeld s.stage = none by rw [hstage]; rfl] at hbefore
        change Sweep.lockHeld s.stage = some e at hl
        rw [hstage] at hl
        cases hl
    | took a e' rest lock hstage htodo htake =>
        cases hl
        obtain ⟨hfree, -, hholder, hwaiting⟩ := Registry.take?_eq_some htake
        show Registry.line (w.site.registry.modifyLock e fun _ => lock) e = [id]
        unfold Registry.line
        rw [hholder, hwaiting, hw.inLine.busy e hfree]
        rfl
    | spared a e' hstage hidle => exact hbefore (by rw [hstage]; exact hl)
    | condemned a e' hstage hidle => exact hbefore (by rw [hstage]; exact hl)
    | unlinked a e' hstage =>
        refine Eq.trans (Registry.line_congr ?_) (hbefore (by rw [hstage]; exact hl))
        exact ⟨Registry.readOff_forget _ _ _ _ _ _, Registry.readOff_forget _ _ _ _ _ _⟩
    | closed e' hstage =>
        refine Eq.trans (Registry.line_congr ?_) (hbefore (by rw [hstage]; exact hl))
        exact Site.sameLocks_closeSlot w.site e' e
    | unlocked e' hstage => cases hl

/-- What is so on the way stays so, unless a session is refused. -/
theorem Midway.step (hm : w.Midway id) (hw : w.Sound) (hp : w.step? id = some w')
    (hg : ∀ f, Call.Deed.asked (.error f) ∉ w.deedsIn id (.step id) w') : w'.Midway id where
  rests := hm.rests.step hp
  settled := by
    intro hd j c' e hc' he
    have hd₀ := (Reaches.perform (h := .step id) hp).inUse hw hd
    have hrecurs := hm.recurs hw hp hd c'.address
    by_cases hj : j = id
    · subst hj
      obtain ⟨c, hc, hst, -⟩ := call_of_step hw hp hc'
      have haddr : c'.address = c.address := hst.address
      rcases hst.entry he with hold | hnew
      · have hcur := hm.settled hd₀ j c e hc hold
        rw [← haddr] at hcur
        cases hrecurs with
        | same h => exact h.trans hcur
        | made c₁ hc₁ hs hnone => cases hnone.symm.trans hcur
        | unlinked e' hno => cases hno.symm.trans hc
      · rwa [haddr]
    · have hc : w.call? j = some c' := (call?_other (h := .step id) rfl hp hj).symm.trans hc'
      have hcur := hm.settled hd₀ j c' e hc he
      cases hrecurs with
      | same h => exact h.trans hcur
      | made c₁ hc₁ hs hnone => cases hnone.symm.trans hcur
      | unlinked e' hno hcur' hline =>
          -- the call would stand in the line of the sweep
          cases hcur.symm.trans hcur'
          have hmem := hw.mem_line hc (hm.rests j _ hj (call?_eq_some.mp hc)) he
          rw [hline] at hmem
          exact absurd (List.mem_singleton.mp hmem) hj
  shut := by
    intro hd c' hc'
    obtain ⟨c, hc, hst, -⟩ := call_of_step hw hp hc'
    have hd₀ : w.site.registry.disposed = true := hst.disposed.symm.trans hd
    exact hst.shut hd₀ (hm.shut hd₀ c hc)
  steady := by
    intro hd c' hc'
    have hd₀ := (Reaches.perform (h := .step id) hp).inUse hw hd
    obtain ⟨c, hc, hst, hdeeds⟩ := call_of_step hw hp hc'
    refine hst.steady (hm.steady hd₀ c hc) (hw.tasks id _ (call?_eq_some.mp hc)) hd₀ ?_
    rw [← hdeeds]
    exact hg
  alone := hm.alone_step hw hp

/-- Whatever happens at rest leaves the entries of the calls where they
are. -/
theorem Settled.perform {h : Happening} (hs : w.Settled) (hw : w.Sound)
    (hne : ∀ id, h ≠ .step id) (hp : w.perform h = some w') : w'.Settled := by
  intro hd id c' e hc' he
  have hd₀ := (Reaches.perform hp).inUse hw hd
  have hcur : w'.site.registry.current? c'.address = w.site.registry.current? c'.address :=
    congrArg (Keyed.get? · c'.address) (perform_quiet hp hne).1
  rw [hcur]
  rcases (hw.perform_change hp).came hc' with ⟨-, hstage⟩ | ⟨c, hc⟩
  · rw [hstage] at he
    cases he
  · cases hw.fate hc hp with
    | steps c₁ hstep hc₁ => exact absurd rfl (hne id)
    | cancelled hx hc₁ =>
        cases hc'.symm.trans hc₁
        exact hs hd₀ id c e hc he
    | dropped hx hc₁ =>
        cases hc'.symm.trans hc₁
        obtain ⟨address, program, cancelled, entered, replies, stage⟩ := c
        cases stage <;> cases he
    | stays hh hc₁ =>
        cases hc'.symm.trans hc₁
        exact hs hd₀ id c' e hc he

theorem settled_unused (b : Simulated) (options : SessionOptions) (policy : SweepPolicy) :
    (World.unused b options policy).Settled := fun _ _ _ _ hc => nomatch hc

end World
end InstrumentBus
