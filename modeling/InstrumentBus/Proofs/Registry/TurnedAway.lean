/-
What becomes of the calls that come too late.

Once the registry has been disposed of, a call that has not been let past
its second check never is: it ends with the failure that says so, or as
cancelled if its token was cancelled while it waited, and it neither
starts its program nor asks for a session (`Call.TurnedAway`).

That it does end takes two facts. Each step of such a call brings it
nearer to its end (`Call.stepsLeft`), for it cannot start over: the one
way back to the first check is from an entry that is no longer current,
and a call that is turned away does not look. And it never stands still
but in the queue, where the task at the head can take a step or carries
out a program that pauses (`World.Sound.waits_for`).
-/
import InstrumentBus.Proofs.Registry.Tenancy

namespace InstrumentBus

-- ================================================ where a call comes from

/-- How a call came to be as it is after a happening. -/
inductive World.CameOf (id : TaskId) (w w' : BusWorld) (c' : Call) : Prop where
  | begun (h : w.task? id = none) (hs : c'.stage = .check) (he : c'.entered = none)
  | kept (h : w.call? id = some c')
  | cancelled (c : Call) (h : w.call? id = some c) (hc : c' = { c with cancelled := true })
  | stepped (c : Call) (h : w.call? id = some c) (hs : c.step id w.site = some (c', w'.site))
  | dropped (c : Call) (h : w.call? id = some c) (hc : c' = (c.drop id w.site).1)

namespace World

variable {w w' : BusWorld} {id : TaskId} {c c' : Call}

theorem step?_call (hc : w.call? id = some c) :
    w.step? id = (c.step id w.site).map fun p => ⟨p.2, w.tasks.set id (.call p.1)⟩ := by
  unfold step?
  rw [call?_eq_some.mp hc]
  show Option.map _ (Option.map _ (c.step id w.site)) = _
  rw [Option.map_map]
  rfl

/-- A step of a call, as a step of the world. -/
theorem step?_call_eq_some (hc : w.call? id = some c) (h : w.step? id = some w') :
    ∃ c', c.step id w.site = some (c', w'.site) ∧ w'.call? id = some c' := by
  rw [step?_call hc] at h
  obtain ⟨⟨c', x'⟩, hstep, heq⟩ := Option.map_eq_some_iff.mp h
  cases heq
  refine ⟨c', hstep, call?_eq_some.mpr ?_⟩
  exact task?_set_self (call?_eq_some.mp hc) _ _

/-- A step that a call can take, as a step of the world. -/
theorem step?_of_call {c' : Call} {x' : BusSite} (hc : w.call? id = some c)
    (h : c.step id w.site = some (c', x')) :
    ∃ w', w.step? id = some w' ∧ w'.site = x' ∧ w'.call? id = some c' := by
  refine ⟨⟨x', w.tasks.set id (.call c')⟩, ?_, rfl, ?_⟩
  · rw [step?_call hc, h]
    rfl
  · exact call?_eq_some.mpr (task?_set_self (call?_eq_some.mp hc) _ _)

theorem cameOf_of_append {t : Task} {x : BusSite} (hf : t.Fresh)
    (hc : call? ⟨x, w.tasks ++ [t]⟩ id = some c') : CameOf id w ⟨x, w.tasks ++ [t]⟩ c' := by
  have ht := call?_eq_some.mp hc
  rw [task?_append] at ht
  split at ht
  next hid =>
    cases ht
    cases hf with
    | call hs he => exact .begun (hid ▸ task?_nextId w) hs he
  next => exact .kept (call?_eq_some.mpr ht)

theorem cameOf_step {j : TaskId} (hp : w.step? j = some w') (hc : w'.call? id = some c') :
    CameOf id w w' c' := by
  have ht := call?_eq_some.mp hc
  unfold step? at hp
  cases hj : w.task? j with
  | none =>
      rw [hj] at hp
      cases hp
  | some u =>
      rw [hj] at hp
      obtain ⟨⟨u', x'⟩, hstep, heq⟩ := Option.map_eq_some_iff.mp hp
      cases heq
      rw [task?_set hj] at ht
      split at ht
      next hid =>
        subst hid
        cases ht
        cases u with
        | call c =>
            obtain ⟨⟨c₁, y⟩, hcall, heq⟩ := Option.map_eq_some_iff.mp hstep
            cases heq
            exact .stepped c (call?_eq_some.mpr hj) hcall
        | _ =>
            -- no other task becomes a call
            obtain ⟨⟨_, y⟩, -, heq⟩ := Option.map_eq_some_iff.mp hstep
            cases heq
      next => exact .kept (call?_eq_some.mpr ht)

theorem cameOf_cancel {j : TaskId} (hc : (w.cancel j).call? id = some c') :
    CameOf id w (w.cancel j) c' := by
  have ht := call?_eq_some.mp hc
  rw [task?_cancel] at ht
  split at ht
  next hj =>
    subst hj
    obtain ⟨t, htask, heq⟩ := Option.map_eq_some_iff.mp ht
    cases t with
    | call c =>
        cases heq
        exact .cancelled c (call?_eq_some.mpr htask) rfl
    | _ => cases heq
  next => exact .kept (call?_eq_some.mpr ht)

theorem cameOf_drop {j : TaskId} (hc : (w.drop j).call? id = some c') :
    CameOf id w (w.drop j) c' := by
  unfold World.drop at hc ⊢
  cases hj : w.task? j with
  | none =>
      rw [hj] at hc
      exact .kept hc
  | some u =>
      rw [hj] at hc
      have ht := call?_eq_some.mp hc
      rw [task?_set hj] at ht
      split at ht
      next hid =>
        subst hid
        cases u with
        | call c =>
            cases ht
            exact .dropped c (call?_eq_some.mpr hj) rfl
        | disposal d => cases d <;> cases ht
        | sweep s => cases ht
        | ticker k => cases k <;> cases ht
      next => exact .kept (call?_eq_some.mpr ht)

theorem cameOf_perform {h : Happening} (hp : w.perform h = some w') (hc : w'.call? id = some c') :
    CameOf id w w' c' := by
  cases h with
  | execute a p cancelled =>
      cases hp
      exact cameOf_of_append (.call rfl rfl) hc
  | evict =>
      cases hp
      exact cameOf_of_append .sweep hc
  | dispose =>
      cases hp
      exact cameOf_of_append .disposal hc
  | startSweep =>
      have hsweep : w.startSweep = w' := Option.some.inj hp
      unfold startSweep at hsweep
      simp only at hsweep
      split at hsweep
      · exact .kept (hsweep ▸ hc)
      · subst hsweep
        exact cameOf_of_append .ticker hc
  | step j => exact cameOf_step hp hc
  | cancel j =>
      cases hp
      exact cameOf_cancel hc
  | drop j =>
      cases hp
      exact cameOf_drop hc
  | elapse d =>
      cases hp
      exact .kept hc
  | stimulate s =>
      cases hp
      exact .kept hc

end World

-- ============================================= calls that are turned away

namespace Call

variable {id : TaskId} {c c' : Call} {x x' : BusSite}

/-- The program of a call has been started, or the call was dropped, or it
is over. -/
def started : CallStage → Bool
  | .acting _ _ _ | .leave _ _ | .ended _ | .dropped => true
  | _ => false

/-- A call waits to be let past its second check. -/
def outside : CallStage → Bool
  | .check | .find | .request _ | .queued _ | .recheck _ => true
  | _ => false

/-- A call that the end of the registry turns away. -/
def TurnedAway (c : Call) : Prop :=
  c.entered = none ∧
  match c.stage with
  | .check | .find | .request _ | .queued _ | .recheck _ | .dropped => True
  | .vacate _ f | .abandon _ f => f = registryClosed
  | .leave _ result => result = .error registryClosed
  | .ended result =>
    result = .error registryClosed ∨
      c.cancelled = true ∧ result = .error (lockCancelled c.address)
  | .confirm _ | .fill _ | .enter _ | .acting _ _ _ => False

/-- How many steps a call that is turned away has before it at most. -/
def stepsLeft : CallStage → Nat
  | .find => 7
  | .request _ => 6
  | .queued _ => 5
  | .recheck _ => 4
  | .vacate _ _ => 3
  | .abandon _ _ => 2
  | .check | .leave _ _ => 1
  | _ => 0

/-- A program is started once: a call that has not come to it has started
nothing. -/
theorem step_unstarted (h : c.step id x = some (c', x')) (hs : started c'.stage = false) :
    started c.stage = false ∧ c'.entered = c.entered := by
  obtain ⟨address, program, cancelled, entered, replies, stage⟩ := c
  cases stage with
  | check =>
      simp only [step] at h
      split at h <;> cases h <;> exact ⟨rfl, rfl⟩
  | request e =>
      simp only [step] at h
      split at h <;> cases h <;> exact ⟨rfl, rfl⟩
  | queued e =>
      simp only [step] at h
      split at h
      · cases h
        exact ⟨rfl, rfl⟩
      · split at h <;> cases h
        exact ⟨rfl, rfl⟩
  | confirm e =>
      simp only [step] at h
      split at h <;> cases h <;> exact ⟨rfl, rfl⟩
  | fill e =>
      simp only [step] at h
      split at h <;> cases h <;> exact ⟨rfl, rfl⟩
  | enter e =>
      simp only [step] at h
      split at h
      · obtain rfl := congrArg Prod.fst (Option.some.inj h)
        obtain ⟨replies', stage', hcall, hstage⟩ :=
          act_call { address, program, cancelled, entered := _, replies, stage := .enter e } e _ _ _
        rw [hcall] at hs
        rcases hstage with ⟨_, _, rfl⟩ | ⟨_, rfl⟩ <;> cases hs
      · cases h
        cases hs
  | acting e pending rest =>
      simp only [step] at h
      split at h
      · split at h
        · obtain rfl := congrArg Prod.fst (Option.some.inj h)
          obtain ⟨replies', stage', hcall, hstage⟩ :=
            act_call { address, program, cancelled, entered, replies,
                       stage := .acting e pending rest } e _ _ _
          rw [hcall] at hs
          rcases hstage with ⟨_, _, rfl⟩ | ⟨_, rfl⟩ <;> cases hs
        · cases h
          cases hs
      · cases h
  | leave e result =>
      cases h
      cases hs
  | ended result => cases h
  | dropped => cases h
  | _ =>
      cases h
      exact ⟨rfl, rfl⟩

/-- A call that is turned away goes on being turned away, and each step
brings it nearer to its end. -/
theorem step_turnedAway (h : c.step id x = some (c', x')) (hd : x.registry.disposed = true)
    (ht : c.TurnedAway) : c'.TurnedAway ∧ stepsLeft c'.stage < stepsLeft c.stage := by
  obtain ⟨address, program, cancelled, entered, replies, stage⟩ := c
  obtain ⟨hent, ht⟩ := ht
  cases stage with
  | check =>
      simp only [step, hd, if_true] at h
      cases h
      exact ⟨⟨hent, .inl rfl⟩, Nat.zero_lt_one⟩
  | find =>
      cases h
      exact ⟨⟨hent, True.intro⟩, Nat.lt_succ_self 6⟩
  | request e =>
      simp only [step] at h
      split at h
      next hc =>
        cases h
        exact ⟨⟨hent, .inr ⟨hc, rfl⟩⟩, Nat.succ_pos 5⟩
      next =>
        cases hgot : (x.registry.modifyLock e (·.request id)).holds e id with
        | true =>
            simp only [Site.modifyRegistry, hgot, if_true] at h
            cases h
            exact ⟨⟨hent, True.intro⟩, Nat.lt_succ_of_lt (Nat.lt_succ_self 4)⟩
        | false =>
            simp only [Site.modifyRegistry, hgot, Bool.false_eq_true, if_false] at h
            cases h
            exact ⟨⟨hent, True.intro⟩, Nat.lt_succ_self 5⟩
  | queued e =>
      simp only [step] at h
      split at h
      next hc =>
        cases h
        exact ⟨⟨hent, .inr ⟨hc, rfl⟩⟩, Nat.succ_pos 4⟩
      next =>
        split at h <;> cases h
        exact ⟨⟨hent, True.intro⟩, Nat.lt_succ_self 4⟩
  | recheck e =>
      simp only [step, hd, if_true] at h
      cases h
      exact ⟨⟨hent, rfl⟩, Nat.lt_succ_self 3⟩
  | vacate e f =>
      cases h
      exact ⟨⟨hent, ht⟩, Nat.lt_succ_self 2⟩
  | abandon e f =>
      cases h
      exact ⟨⟨hent, congrArg _ ht⟩, Nat.lt_succ_self 1⟩
  | leave e result =>
      cases h
      exact ⟨⟨hent, .inl ht⟩, Nat.zero_lt_one⟩
  | ended result => cases h
  | dropped => cases h
  | _ => cases ht

/-- Nor does it matter to it that its token is cancelled, or that it is
dropped. -/
theorem TurnedAway.cancel (ht : c.TurnedAway) : TurnedAway { c with cancelled := true } := by
  obtain ⟨address, program, cancelled, entered, replies, stage⟩ := c
  obtain ⟨hent, ht⟩ := ht
  refine ⟨hent, ?_⟩
  cases stage with
  | ended result => exact ht.imp_right fun h => ⟨rfl, h.2⟩
  | _ => exact ht

theorem TurnedAway.drop (ht : c.TurnedAway) : (c.drop id x).1.TurnedAway := by
  obtain ⟨address, program, cancelled, entered, replies, stage⟩ := c
  obtain ⟨hent, ht⟩ := ht
  cases stage <;> first | exact ⟨hent, ht⟩ | exact ⟨hent, True.intro⟩

end Call

namespace World

variable {w w' : BusWorld} {id : TaskId} {c c' : Call} {e : EntryId}

-- ==================================================== along a whole run

/-- A call has started nothing before it comes to its program. -/
def Unstarted (w : BusWorld) : Prop :=
  ∀ id c, w.call? id = some c → Call.started c.stage = false → c.entered = none

theorem Unstarted.perform {h : Happening} (hu : w.Unstarted) (hp : w.perform h = some w') :
    w'.Unstarted := by
  intro id c' hc' hs
  cases cameOf_perform hp hc' with
  | begun h hs' he => exact he
  | kept h => exact hu id c' h hs
  | cancelled c h hc =>
      subst hc
      exact hu id c h hs
  | stepped c h hstep =>
      obtain ⟨hs₀, he⟩ := Call.step_unstarted hstep hs
      exact he.trans (hu id c h hs₀)
  | dropped c h hc =>
      subst hc
      obtain ⟨address, program, cancelled, entered, replies, stage⟩ := c
      cases stage <;> cases hs

theorem Unstarted.reaches (hu : w.Unstarted) (hr : w.Reaches w') : w'.Unstarted :=
  hr.induct hu fun _ _ _ hu hp => hu.perform hp

theorem unstarted_unused (b : Simulated) (options : SessionOptions) (policy : SweepPolicy) :
    (World.unused b options policy).Unstarted := fun _ _ hc => nomatch hc

/-- The calls that had not been let past their second check in a world are
turned away in another one. -/
def TurnsAway (w₀ w : BusWorld) : Prop :=
  ∀ id c, w.call? id = some c → (∀ c₀, w₀.call? id = some c₀ → Call.outside c₀.stage = true) →
    c.TurnedAway

theorem TurnsAway.perform {w₀ : BusWorld} {h : Happening} (ht : w₀.TurnsAway w)
    (hd : w.site.registry.disposed = true) (hp : w.perform h = some w') : w₀.TurnsAway w' := by
  intro id c' hc' hout
  cases cameOf_perform hp hc' with
  | begun h hs he =>
      obtain ⟨address, program, cancelled, entered, replies, stage⟩ := c'
      cases hs
      exact ⟨he, True.intro⟩
  | kept h => exact ht id c' h hout
  | cancelled c h hc =>
      subst hc
      exact (ht id c h hout).cancel
  | stepped c h hstep => exact (Call.step_turnedAway hstep hd (ht id c h hout)).1
  | dropped c h hc =>
      subst hc
      exact (ht id c h hout).drop

/-- A call outside its second check is turned away from the moment the
registry is disposed of. -/
theorem Unstarted.turnsAway (hu : w.Unstarted) : w.TurnsAway w := by
  intro id c hc hout
  have hs := hout c hc
  have he := hu id c hc
  obtain ⟨address, program, cancelled, entered, replies, stage⟩ := c
  cases stage <;> first | exact ⟨he rfl, True.intro⟩ | cases hs

-- ============================================================ progress

end World

/-- A call that holds a lock can take a step, unless its program pauses. -/
theorem Call.step_of_lockHeld (id : TaskId) {c : Call} {e : EntryId} (x : BusSite)
    (hl : lockHeld c.stage = some e) :
    (∃ pending rest, c.stage = .acting e pending rest) ∨ (c.step id x).isSome = true := by
  obtain ⟨address, program, cancelled, entered, replies, stage⟩ := c
  cases stage with
  | acting e' pending rest =>
      cases hl
      exact .inl ⟨pending, rest, rfl⟩
  | confirm e' =>
      refine .inr ?_
      simp only [step]
      split <;> rfl
  | fill e' =>
      refine .inr ?_
      simp only [step]
      split <;> rfl
  | enter e' =>
      refine .inr ?_
      simp only [step]
      split <;> rfl
  | recheck e' => exact .inr rfl
  | vacate e' f => exact .inr rfl
  | abandon e' f => exact .inr rfl
  | leave e' result => exact .inr rfl
  | _ => cases hl

namespace Task

variable {id : TaskId} {t : Task} {x : BusSite} {e : EntryId}

/-- A task that holds a lock can take a step, unless it is a call whose
program pauses. -/
theorem step_of_lockHeld (id : TaskId) (x : BusSite) (hl : t.lockHeld = some e) :
    (∃ c pending rest, t = .call c ∧ c.stage = .acting e pending rest) ∨
      (t.step id x).isSome = true := by
  have hsweep : ∀ s : Sweep, Sweep.lockHeld s.stage = some e → (s.step id x).isSome = true := by
      intro s hs
      cases h : s.step id x with
      | some p => rfl
      | none =>
          rw [Sweep.step_eq_none h] at hs
          cases hs
  cases t with
  | call c =>
      rcases Call.step_of_lockHeld id x hl with ⟨pending, rest, h⟩ | h
      · exact .inl ⟨c, pending, rest, rfl, h⟩
      · exact .inr (Option.isSome_map.trans h)
  | sweep s => exact .inr (Option.isSome_map.trans (hsweep s hl))
  | disposal d => cases d <;> first | exact .inr rfl | cases hl
  | ticker k =>
      cases k with
      | sweeping s mark =>
          refine .inr (Option.isSome_map.trans ?_)
          obtain ⟨p, hp⟩ := Option.isSome_iff_exists.mp (hsweep s hl)
          simp only [Ticker.step, hp]
          rfl
      | _ => cases hl

/-- A task that has been handed the lock it waits for can take a step. -/
theorem step_of_handed (hq : t.queuedOn = some e) (hh : x.registry.holder? e = some id) :
    (t.step id x).isSome = true := by
  have hholds := Registry.holds_iff.mpr hh
  cases t with
  | call c =>
      obtain ⟨address, program, cancelled, entered, replies, stage⟩ := c
      cases stage <;> cases hq
      refine Option.isSome_map.trans ?_
      simp only [Call.step, hholds, if_true]
      split <;> rfl
  | disposal d =>
      cases d <;> cases hq
      refine Option.isSome_map.trans ?_
      simp only [Disposal.step, hholds, if_true]
      rfl
  | _ => cases hq

end Task

namespace World

variable {w w' : BusWorld} {id : TaskId} {c c' : Call} {e : EntryId}

theorem step?_of_task {t : Task} (ht : w.task? id = some t) (h : (t.step id w.site).isSome = true) :
    ∃ w', w.step? id = some w' := by
  obtain ⟨p, hp⟩ := Option.isSome_iff_exists.mp h
  unfold step?
  rw [ht]
  exact ⟨_, congrArg (Option.map _) hp⟩

/-- Somebody is at the head of every line, and can take a step or carries
out a program that pauses. -/
theorem Sound.head_moves (hw : w.Sound) (hl : id ∈ w.site.registry.line e) :
    ∃ j, w.site.registry.holder? e = some j ∧
      ((∃ w', w.step? j = some w') ∨
        ∃ c pending rest, w.call? j = some c ∧ c.stage = .acting e pending rest) := by
  have hhead := (hw.inLine.busy e).head?
  cases hline : w.site.registry.line e with
  | nil =>
      rw [hline] at hl
      cases hl
  | cons j rest =>
      rw [hline] at hhead
      have hholder : w.site.registry.holder? e = some j := hhead.symm
      have hmem : j ∈ w.site.registry.line e := hline ▸ List.mem_cons_self
      obtain ⟨t, ht, hs⟩ := (hw.inLine.stands j e).mp hmem
      refine ⟨j, hholder, ?_⟩
      rcases hs with hheld | hqueued
      · rcases Task.step_of_lockHeld j w.site hheld with ⟨c, pending, rest, rfl, hstage⟩ | h
        · exact .inr ⟨c, pending, rest, call?_eq_some.mpr ht, hstage⟩
        · exact .inl (step?_of_task ht h)
      · exact .inl (step?_of_task ht (Task.step_of_handed hqueued hholder))

/-- A call that is turned away can take a step until it is over, or it is
in a queue whose head can take a step or carries out a program that
pauses. -/
theorem Sound.waits_for (hw : w.Sound) (hc : w.call? id = some c) (ht : c.TurnedAway) :
    c.isOver = true ∨ (∃ w', w.step? id = some w') ∨
      ∃ e j, c.stage = .queued e ∧ w.site.registry.holder? e = some j ∧
        ((∃ w', w.step? j = some w') ∨
          ∃ c pending rest, w.call? j = some c ∧ c.stage = .acting e pending rest) := by
  have htask := call?_eq_some.mp hc
  obtain ⟨address, program, cancelled, entered, replies, stage⟩ := c
  obtain ⟨-, ht⟩ := ht
  have hmoves : (Call.step id ⟨address, program, cancelled, entered, replies, stage⟩
      w.site).isSome = true → ∃ w', w.step? id = some w' := fun h =>
    step?_of_task htask (Option.isSome_map.trans h)
  cases stage with
  | queued e =>
      have hl : id ∈ w.site.registry.line e := (hw.inLine.stands id e).mpr ⟨_, htask, .inr rfl⟩
      obtain ⟨j, hholder, hj⟩ := hw.head_moves hl
      exact .inr (.inr ⟨e, j, rfl, hholder, hj⟩)
  | check =>
      refine .inr (.inl (hmoves ?_))
      simp only [Call.step]
      split <;> rfl
  | find => exact .inr (.inl (hmoves rfl))
  | request e =>
      refine .inr (.inl (hmoves ?_))
      simp only [Call.step]
      split <;> rfl
  | recheck e => exact .inr (.inl (hmoves rfl))
  | vacate e f => exact .inr (.inl (hmoves rfl))
  | abandon e f => exact .inr (.inl (hmoves rfl))
  | leave e result => exact .inr (.inl (hmoves rfl))
  | ended result => exact .inl rfl
  | dropped => exact .inl rfl
  | _ => cases ht

end World

end InstrumentBus
