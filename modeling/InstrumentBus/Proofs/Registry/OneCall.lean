/-
What one use of the registry may do, and what it may be told.

Whatever the others do and however often a call has to begin again, it
asks the driver for a session once at most and starts its program once at
most, and not after it has been refused a session. What it is told is
what came of this and of nothing else (`Call.Lawful`): the result of its
own program, the driver's answer to its own request, or, where it has
done nothing, that the registry is closed or that its own token was
cancelled.

The token is looked at only on the way to the lock. Behind it, to cancel
the call and then let things happen is the same as to let them happen and
then cancel it (`World.run_cancel`). A token that was cancelled before
the call was made takes the call to its end in three steps and nowhere
else (`World.Futile`).
-/
import InstrumentBus.Proofs.Registry.Refusal
import Mathlib.Data.List.Induction

namespace InstrumentBus

namespace Call

-- ==================================================== the law for a call

/-- It is a request for a session. -/
def Deed.isAsked : Deed → Bool
  | .asked _ => true
  | _ => false

/-- It is the start of a program. -/
def Deed.isStarted : Deed → Bool
  | .started => true
  | _ => false

/-- What the driver said to a call that has been refused and no more. -/
def Deed.refused? : List Deed → Option Failure
  | [.asked (.error f)] => some f
  | _ => none

theorem Deed.refused?_eq_some {ds : List Deed} {f : Failure} :
    Deed.refused? ds = some f ↔ ds = [.asked (.error f)] := by
  unfold refused?
  split <;> simp_all

/-- What a call does and is told, whatever happens beside it. -/
structure Lawful (c : Call) (ds : List Deed) : Prop where
  asks : ds.countP Deed.isAsked ≤ 1
  starts : ds.countP Deed.isStarted ≤ 1
  -- no program is started after a refusal
  refused : ∀ f, .asked (.error f) ∈ ds → .started ∉ ds
  -- a call that has started its program is told what came of it
  own : .started ∈ ds → ∀ result, c.outcome? = some result → ds.getLast? = some (.finished result)
  -- a call that was refused is told what the driver said to it
  told : ∀ f, .asked (.error f) ∈ ds → ∀ result, c.outcome? = some result → result = .error f
  -- any other call has done nothing
  idle : .started ∉ ds → (∀ f, .asked (.error f) ∉ ds) → ∀ result, c.outcome? = some result →
    ds = [] ∧ (result = .error registryClosed ∨
      c.cancelled = true ∧ result = .error (lockCancelled c.address))

section

variable {c : Call} {ds : List Deed}

/-- A program that was started was started on an open session. -/
theorem mem_whole {o : List Deed} (result : Except Failure Unit) (ho : Opens o) :
    (∀ f, .asked (.error f) ∉ o ++ [.started, .finished result]) ∧
      (o ++ [Deed.started, .finished result]).countP Deed.isAsked ≤ 1 ∧
      (o ++ [Deed.started, .finished result]).countP Deed.isStarted ≤ 1 := by
  rcases ho with rfl | rfl <;> simp [Deed.isAsked, Deed.isStarted, List.countP_cons]

/-- A call does at most what a story tells. -/
theorem Story.bounds (h : Story ds) : ds.countP Deed.isAsked ≤ 1 ∧
    ds.countP Deed.isStarted ≤ 1 ∧ ∀ f, .asked (.error f) ∈ ds → .started ∉ ds := by
  rcases h with ⟨f, rfl⟩ | ⟨o, result, ho, hpart⟩
  · simp [Deed.isAsked, Deed.isStarted]
  · obtain ⟨hrefused, hasks, hstarts⟩ := mem_whole result ho
    refine ⟨?_, ?_, ?_⟩
    · exact Nat.le_trans hpart.sublist.countP_le hasks
    · exact Nat.le_trans hpart.sublist.countP_le hstarts
    · intro f hf
      exact absurd (hpart.subset hf) (hrefused f)

theorem Earned.of_nil {result : Except Failure Unit} (h : Earned [] result) :
    result = .error registryClosed := by
  generalize hds : ([] : List Deed) = ds at h
  cases h with
  | closed => rfl
  | refused f => cases hds
  | own o result ho => simp at hds

/-- A call that has carried out part of its program has not come to its
end. -/
theorem outcome?_act (c : Call) (e : EntryId) (s : Session) (x : BusSite)
    (run : StateM (Line (Recorded Simulated)) Advance) :
    (c.act e s x run).1.outcome? = none := by
  obtain ⟨replies, stage, hcall, ⟨pending, rest, rfl⟩ | ⟨result, rfl⟩⟩ := act_call c e s x run
  · rw [hcall]
    rfl
  · rw [hcall]
    rfl

theorem Accounts.lawful (h : c.Accounts ds) : c.Lawful ds := by
  obtain ⟨hasks, hstarts, hrefused⟩ := h.story.bounds
  -- only of a call that is over is there more to say
  have hended : ∀ result, c.outcome? = some result → Earned ds result ∨
      ds = [] ∧ c.cancelled = true ∧ result = .error (lockCancelled c.address) := by
    intro result hout
    unfold outcome? at hout
    unfold Accounts at h
    split at hout
    next r hs =>
      cases hout
      rw [hs] at h
      exact h
    · cases hout
  refine ⟨hasks, hstarts, hrefused, ?_, ?_, ?_⟩
  · intro hmem result hout
    rcases hended result hout with he | ⟨rfl, -⟩
    · cases he with
      | closed => cases hmem
      | refused f => simp at hmem
      | own o result ho => simp
    · cases hmem
  · intro f hmem result hout
    rcases hended result hout with he | ⟨rfl, -⟩
    · cases he with
      | closed => cases hmem
      | refused f' =>
          simp at hmem
          rw [hmem]
      | own o result ho => exact absurd hmem ((mem_whole result ho).1 f)
    · cases hmem
  · intro hstart hask result hout
    rcases hended result hout with he | ⟨rfl, hcancel, hresult⟩
    · cases he with
      | closed => exact ⟨rfl, .inl rfl⟩
      | refused f => exact absurd (by simp) (hask f)
      | own o result ho => exact absurd (by simp) hstart
    · exact ⟨rfl, .inr ⟨hcancel, hresult⟩⟩

end

-- ==================================================== behind the lock

/-- The entry in which a call is about to make sure of a session. -/
def filling : CallStage → Option EntryId
  | .fill e => some e
  | _ => none

theorem filling_eq_some {stage : CallStage} {e : EntryId} :
    filling stage = some e ↔ stage = .fill e := by
  cases stage <;> simp [filling]

/-- The entry for whose lock a call is in the queue. -/
def queuing : CallStage → Option EntryId
  | .queued e => some e
  | _ => none

theorem queuing_eq_some {stage : CallStage} {e : EntryId} :
    queuing stage = some e ↔ stage = .queued e := by
  cases stage <;> simp [queuing]

/-- The call does not look at its token any more. -/
def heedless : CallStage → Bool
  | .fill _ | .enter _ | .acting _ _ _ | .vacate _ _ | .abandon _ _ | .leave _ _ | .ended _
  | .dropped => true
  | .check | .find | .request _ | .queued _ | .recheck _ | .confirm _ => false

/-- A call that has started its program is behind the lock. -/
theorem Accounts.heedless {c : Call} {ds : List Deed} (h : c.Accounts ds)
    (hmem : .started ∈ ds) : heedless c.stage = true := by
  unfold Accounts at h
  cases hs : c.stage <;> rw [hs] at h <;> first | rfl | subst h; simp at hmem

section

variable {id : TaskId} {c c' : Call} {x x' : BusSite}

/-- Carrying out a program leaves the token alone. -/
theorem act_cancel (c : Call) (e : EntryId) (s : Session) (x : BusSite)
    (run : StateM (Line (Recorded Simulated)) Advance) :
    act { c with cancelled := true } e s x run =
      ({ (c.act e s x run).1 with cancelled := true }, (c.act e s x run).2) := by
  unfold act
  rcases run.run (s, x.bus) with ⟨advance, s', bus⟩
  cases advance <;> rfl

theorem step_cancel (hs : heedless c.stage = true) :
    step id { c with cancelled := true } x =
      (c.step id x).map fun p => ({ p.1 with cancelled := true }, p.2) := by
  obtain ⟨address, program, cancelled, entered, replies, stage⟩ := c
  cases stage with
  | fill e =>
      simp only [step]
      split <;> rfl
  | enter e =>
      simp only [step]
      split
      next s hslot =>
        exact congrArg some
          (act_cancel ⟨address, program, cancelled, _, replies, .enter e⟩ e s _ _)
      · rfl
  | acting e pending rest =>
      simp only [step]
      split
      · split
        next s hslot =>
          exact congrArg some
            (act_cancel ⟨address, program, cancelled, entered, replies, .acting e pending rest⟩
              e s _ _)
        · rfl
      · rfl
  | vacate e f => rfl
  | abandon e f => rfl
  | leave e result => rfl
  | ended result => rfl
  | dropped => rfl
  | _ => cases hs

theorem step_heedless (h : c.step id x = some (c', x')) (hs : heedless c.stage = true) :
    heedless c'.stage = true := by
  obtain ⟨address, program, cancelled, entered, replies, stage⟩ := c
  have hact : ∀ (c : Call) e s (y : BusSite) run,
      heedless (c.act e s y run).1.stage = true := by
    intro c e s y run
    obtain ⟨replies, stage, hcall, ⟨pending, rest, rfl⟩ | ⟨result, rfl⟩⟩ := act_call c e s y run
    · rw [hcall]
      rfl
    · rw [hcall]
      rfl
  cases stage with
  | fill e =>
      simp only [step] at h
      split at h <;> cases h <;> rfl
  | enter e =>
      simp only [step] at h
      split at h
      · obtain rfl := congrArg Prod.fst (Option.some.inj h)
        exact hact _ _ _ _ _
      · cases h
        rfl
  | acting e pending rest =>
      simp only [step] at h
      split at h
      · split at h
        · obtain rfl := congrArg Prod.fst (Option.some.inj h)
          exact hact _ _ _ _ _
        · cases h
          rfl
      · cases h
  | vacate e f => cases h; rfl
  | abandon e f => cases h; rfl
  | leave e result => cases h; rfl
  | ended result => cases h
  | dropped => cases h
  | _ => cases hs

theorem drop_cancel (id : TaskId) (c : Call) (x : BusSite) :
    drop id { c with cancelled := true } x =
      ({ (c.drop id x).1 with cancelled := true }, (c.drop id x).2) := by
  obtain ⟨address, program, cancelled, entered, replies, stage⟩ := c
  cases stage <;> rfl

end

end Call

namespace World

variable {w w' v : BusWorld} {id j : TaskId} {c c' : Call} {e : EntryId} {a : Address}
  {f : Failure} {h : Happening}

/-- A task that begins does not meet a cancelled token. -/
theorem cancel_begun (hc : w.call? id = some c) (t : Task) (x : BusSite) :
    (⟨x, (w.cancel id).tasks ++ [t]⟩ : BusWorld) = World.cancel ⟨x, w.tasks ++ [t]⟩ id := by
  have ht := call?_eq_some.mp hc
  have hold : id ≠ w.nextId := by
    intro hid
    rw [hid, task?_nextId] at ht
    cases ht
  have hnext : (w.cancel id).nextId = w.nextId := List.length_modify _ _ _
  apply ext_tasks
  · rfl
  · intro j
    rw [task?_append, task?_cancel, task?_cancel, task?_append, task?_append, hnext, if_neg hold]
    by_cases hj : j = id
    · subst hj
      rw [if_neg hold, if_pos rfl, if_pos rfl]
    · rw [if_neg hj, if_neg hj]

/-- A task that goes on elsewhere does not meet it either. -/
theorem cancel_set {t t' : Task} (ht : w.task? j = some t) (hj : j ≠ id) (x : BusSite) :
    (⟨x, (w.cancel id).tasks.set j t'⟩ : BusWorld) = World.cancel ⟨x, w.tasks.set j t'⟩ id := by
  have ht' : (w.cancel id).task? j = some t := by
    rw [task?_cancel, if_neg hj, ht]
  apply ext_tasks
  · rfl
  · intro i
    rw [task?_set ht', task?_cancel, task?_cancel, task?_set ht, task?_set ht,
      if_neg (Ne.symm hj)]
    by_cases hi : i = j
    · subst hi
      rw [if_pos rfl, if_neg hj, if_pos rfl]
    · rw [if_neg hi, if_neg hi]

/-- The call itself goes on with its token cancelled as it would without. -/
theorem cancel_self (hc : w.call? id = some c) (c' : Call) (x : BusSite) :
    (⟨x, (w.cancel id).tasks.set id (.call { c' with cancelled := true })⟩ : BusWorld) =
      World.cancel ⟨x, w.tasks.set id (.call c')⟩ id := by
  have ht := call?_eq_some.mp hc
  have ht' : (w.cancel id).task? id = some (Task.call c).cancel := by
    rw [task?_cancel, if_pos rfl, ht]
    rfl
  apply ext_tasks
  · rfl
  · intro i
    rw [task?_set ht', task?_cancel, task?_cancel, task?_set ht, task?_set ht, if_pos rfl]
    by_cases hi : i = id
    · rw [if_pos hi, if_pos hi]
      rfl
    · rw [if_neg hi, if_neg hi, if_neg hi, if_neg hi]

/-- Cancelling a call that is behind the lock commutes with whatever
happens next. -/
theorem perform_cancel (hc : w.call? id = some c) (hs : Call.heedless c.stage = true)
    (h : Happening) : (w.cancel id).perform h = (w.perform h).map (·.cancel id) := by
  have ht := call?_eq_some.mp hc
  have ht' : (w.cancel id).task? id = some (.call { c with cancelled := true }) := by
    rw [task?_cancel, if_pos rfl, ht]
    rfl
  cases h with
  | execute a p cancelled => exact congrArg some (cancel_begun hc _ _)
  | evict => exact congrArg some (cancel_begun hc _ _)
  | dispose => exact congrArg some (cancel_begun hc _ _)
  | startSweep =>
      apply congrArg some
      show (w.cancel id).startSweep = w.startSweep.cancel id
      have hx : (w.cancel id).site = w.site := rfl
      unfold World.startSweep
      rw [hx]
      by_cases hidle : (w.site.registry.sweepStarted || w.site.registry.disposed ||
          w.site.registry.policy.sweepInterval.isZero) = true
      · simp only [hidle, if_true]
      · simp only [hidle, Bool.false_eq_true, if_false]
        exact cancel_begun hc _ _
  | step j =>
      show (w.cancel id).step? j = (w.step? j).map (·.cancel id)
      unfold step?
      by_cases hj : j = id
      · subst hj
        rw [ht', ht]
        simp only [Task.step, Option.map_map]
        rw [show (w.cancel j).site = w.site from rfl, Call.step_cancel hs, Option.map_map]
        cases c.step j w.site with
        | none => rfl
        | some p => exact congrArg some (cancel_self hc p.1 p.2)
      · rw [task?_cancel, if_neg hj]
        cases htask : w.task? j with
        | none => rfl
        | some t =>
            simp only [Option.map_map]
            rw [show (w.cancel id).site = w.site from rfl]
            cases t.step j w.site with
            | none => rfl
            | some p => exact congrArg some (cancel_set htask hj p.2)
  | cancel j =>
      apply congrArg some
      show (w.cancel id).cancel j = (w.cancel j).cancel id
      apply ext_tasks
      · rfl
      · intro i
        rw [task?_cancel, task?_cancel, task?_cancel, task?_cancel, task?_cancel, task?_cancel]
        by_cases hij : i = j <;> by_cases hid : i = id <;> simp_all
  | drop j =>
      apply congrArg some
      show (w.cancel id).drop j = (w.drop j).cancel id
      unfold World.drop
      by_cases hj : j = id
      · subst hj
        rw [ht', ht]
        simp only [Task.drop]
        rw [show (w.cancel j).site = w.site from rfl, Call.drop_cancel]
        exact cancel_self hc _ _
      · rw [task?_cancel, if_neg hj]
        cases htask : w.task? j with
        | none => rfl
        | some t => exact cancel_set htask hj _
  | elapse d => rfl
  | stimulate s => rfl

theorem Fate.heedless (hf : Fate id c w h w') (hs : Call.heedless c.stage = true)
    (hc' : w'.call? id = some c') : Call.heedless c'.stage = true := by
  cases hf with
  | steps c₁ hstep hc₁ =>
      cases hc'.symm.trans hc₁
      exact Call.step_heedless hstep hs
  | cancelled hx hc₁ =>
      cases hc'.symm.trans hc₁
      exact hs
  | dropped hx hc₁ =>
      cases hc'.symm.trans hc₁
      obtain ⟨address, program, cancelled, entered, replies, stage⟩ := c
      cases stage <;> rfl
  | stays hh hc₁ =>
      cases hc'.symm.trans hc₁
      exact hs

/-- And so it commutes with the rest of the run. -/
theorem run_cancel (hw : w.Sound) (hc : w.call? id = some c) (hs : Call.heedless c.stage = true)
    (hs' : List Happening) : (w.cancel id).run hs' = (w.run hs').map (·.cancel id) := by
  induction hs' generalizing w c with
  | nil => rfl
  | cons h rest ih =>
      show ((w.cancel id).perform h).bind _ = ((w.perform h).bind _).map _
      rw [perform_cancel hc hs]
      cases hp : w.perform h with
      | none => rfl
      | some w₁ =>
          have hf := hw.fate hc hp
          obtain ⟨c₁, hc₁⟩ := hf.call
          exact ih (hw.perform hp) hc₁ (hf.heedless hs hc₁)

-- ===================================================== the end of a call

/-- A call that has come to its end took the last step itself. -/
theorem Fate.ends {result : Except Failure Unit} (hf : Fate id c w h w')
    (hc' : w'.call? id = some c') (hout : c'.outcome? = some result) :
    c.outcome? = some result ∨
      h = .step id ∧ c.isOver = false ∧ c.step id w.site = some (c', w'.site) := by
  cases hf with
  | steps c₁ hstep hc₁ =>
      cases hc'.symm.trans hc₁
      refine .inr ⟨rfl, ?_, hstep⟩
      unfold Call.step at hstep
      unfold Call.isOver
      cases hs : c.stage <;> rw [hs] at hstep <;> first | rfl | cases hstep
  | cancelled hx hc₁ =>
      cases hc'.symm.trans hc₁
      exact .inl hout
  | dropped hx hc₁ =>
      cases hc'.symm.trans hc₁
      obtain ⟨address, program, cancelled, entered, replies, stage⟩ := c
      cases stage with
      | ended r => exact .inl hout
      | _ => cases hout
  | stays hh hc₁ =>
      cases hc'.symm.trans hc₁
      exact .inl hout

/-- The run up to the last step of a call that has come to its end. -/
theorem run_ended {w₀ : BusWorld} {result : Except Failure Unit} (hw₀ : w₀.Sound)
    (hnone : w₀.task? id = none) {hs : List Happening} (hr : w₀.run hs = some w)
    (hc : w.call? id = some c) (hout : c.outcome? = some result) :
    ∃ hs₁ hs₂ w₁ c₁ x₁ c₂, hs = hs₁ ++ .step id :: hs₂ ∧ w₀.run hs₁ = some w₁ ∧
      w₁.call? id = some c₁ ∧ c₁.isOver = false ∧ c₁.step id w₁.site = some (c₂, x₁) ∧
      c₂.outcome? = some result := by
  induction hs using List.reverseRecOn generalizing w c with
  | nil =>
      cases hr
      rw [call?_eq_some, hnone] at hc
      cases hc
  | append_singleton rest h ih =>
      rw [run_append] at hr
      obtain ⟨w₁, hrest, hlast⟩ := Option.bind_eq_some_iff.mp hr
      obtain ⟨w₂, hp, heq⟩ := Option.bind_eq_some_iff.mp hlast
      cases heq
      have hw₁ : w₁.Sound := Reaches.sound ⟨rest, hrest⟩ hw₀
      rcases (hw₁.perform_change hp).came hc with ⟨-, hs⟩ | ⟨c₁, hc₁⟩
      · unfold Call.outcome? at hout
        rw [hs] at hout
        cases hout
      · rcases (hw₁.fate hc₁ hp).ends hc hout with hold | ⟨rfl, hover, hstep⟩
        · obtain ⟨hs₁, hs₂, v, c₀, x₀, c₀', heq, h₀⟩ := ih hrest hc₁ hold
          exact ⟨hs₁, hs₂ ++ [h], v, c₀, x₀, c₀', by rw [heq]; simp, h₀⟩
        · exact ⟨rest, [], w₁, c₁, _, c, rfl, hrest, hc₁, hover, hstep, hout⟩

-- ================================================= cancelled in time

/-- A call that has done nothing and is told that it was cancelled was
told so on its way to the lock. -/
theorem Sound.gave_up {x' : BusSite} {b : Address} (hw : w.Sound) (hc : w.call? id = some c)
    (ha : c.Accounts []) (hstep : c.step id w.site = some (c', x'))
    (hout : c'.outcome? = some (.error (Call.lockCancelled b))) :
    c.cancelled = true ∧ ∃ e, c.stage = .request e ∨ c.stage = .queued e := by
  have hst := Call.step_stride hstep (hw.tasks id _ (call?_eq_some.mp hc))
  cases hst with
  | refused e hs hcancel => exact ⟨hcancel, e, .inl hs⟩
  | withdrawn e hs hcancel => exact ⟨hcancel, e, .inr hs⟩
  | closed hs => cases hout
  | left e result hs =>
      cases hout
      unfold Call.Accounts at ha
      rw [hs] at ha
      cases Call.Earned.of_nil ha
  | started e s hs hslot =>
      rw [Call.outcome?_act] at hout
      cases hout
  | resumed e pending rest s hs hdue hslot =>
      rw [Call.outcome?_act] at hout
      cases hout
  | _ => cases hout

/-- So its token was cancelled then, wherever in the run that was. -/
theorem Sound.cancelled_in_time {w₀ : BusWorld} {hs : List Happening} {b : Address}
    (hw₀ : w₀.Sound) (hacc : w₀.Accounted fun _ => []) (hnone : w₀.task? id = none)
    (hr : w₀.run hs = some w) (hc : w.call? id = some c)
    (hout : c.outcome? = some (.error (Call.lockCancelled b))) (hnil : w₀.deeds id hs = []) :
    ∃ hs₁ hs₂ w₁ c₁, hs = hs₁ ++ .step id :: hs₂ ∧ w₀.run hs₁ = some w₁ ∧
      w₁.call? id = some c₁ ∧ c₁.cancelled = true ∧
      ∃ e, c₁.stage = .request e ∨ c₁.stage = .queued e := by
  obtain ⟨hs₁, hs₂, w₁, c₁, x₁, c₂, rfl, hr₁, hc₁, -, hstep, hout₂⟩ :=
    run_ended hw₀ hnone hr hc hout
  have hw₁ : w₁.Sound := Reaches.sound ⟨hs₁, hr₁⟩ hw₀
  have hnil₁ : w₀.deeds id hs₁ = [] := by
    rw [deeds_append hr₁] at hnil
    exact (List.append_eq_nil_iff.mp hnil).1
  have hacc₁ : c₁.Accounts [] := by
    have h := (hacc.run hw₀ hr₁).calls id c₁ hc₁
    simpa [hnil₁] using h
  obtain ⟨hcancel, hway⟩ := hw₁.gave_up hc₁ hacc₁ hstep hout₂
  exact ⟨hs₁, hs₂, w₁, c₁, rfl, hr₁, hc₁, hcancel, hway⟩

/-- A call whose token was cancelled when it was about to look up its
address, or before it asked for the lock. -/
inductive Futile (w : BusWorld) (id : TaskId) : Prop where
  | finds (c : Call) (hc : w.call? id = some c) (hcancel : c.cancelled = true)
      (hs : c.stage = .find)
  | requests (c : Call) (e : EntryId) (hc : w.call? id = some c) (hcancel : c.cancelled = true)
      (hs : c.stage = .request e)
  | ended (c : Call) (hc : w.call? id = some c)
      (hs : c.stage = .ended (.error (Call.lockCancelled c.address)) ∨ c.stage = .dropped)

theorem step_find {x' : BusSite} (hs : c.stage = .find) (h : c.step id w.site = some (c', x')) :
    ∃ e, c' = { c with stage := .request e } ∧ x'.bus = w.site.bus ∧
      c.deeds w.site x' = [] := by
  have hsound : c.Sound w.site.registry := by
    unfold Call.Sound
    rw [hs]
    exact True.intro
  cases Call.step_stride h hsound with
  | found hs' =>
      refine ⟨_, rfl, rfl, ?_⟩
      rw [Call.deeds_of_created (Registry.created_resolve _ _ _), hs]
  | _ => cases hs.symm.trans ‹c.stage = _›

theorem step_refused {x' : BusSite} (hs : c.stage = .request e) (hcancel : c.cancelled = true)
    (h : c.step id w.site = some (c', x')) :
    c' = { c with stage := .ended (.error (Call.lockCancelled c.address)) } ∧ x' = w.site := by
  unfold Call.step at h
  rw [hs] at h
  simp only [hcancel, if_true] at h
  cases h
  exact ⟨by rw [hcancel], rfl⟩

theorem Futile.perform (hf : w.Futile id) (hw : w.Sound) (hp : w.perform h = some w') :
    w'.Futile id := by
  cases hf with
  | finds c hc hcancel hs =>
      cases hw.fate hc hp with
      | steps c' hstep hc' =>
          obtain ⟨e, rfl, -⟩ := step_find hs hstep
          exact .requests _ e hc' hcancel rfl
      | cancelled hx hc' => exact .finds _ hc' rfl hs
      | dropped hx hc' =>
          refine .ended _ hc' (.inr ?_)
          unfold Call.drop
          rw [hs]
          rfl
      | stays hh hc' => exact .finds c hc' hcancel hs
  | requests c e hc hcancel hs =>
      cases hw.fate hc hp with
      | steps c' hstep hc' =>
          obtain ⟨rfl, -⟩ := step_refused hs hcancel hstep
          exact .ended _ hc' (.inl rfl)
      | cancelled hx hc' => exact .requests _ e hc' rfl hs
      | dropped hx hc' =>
          refine .ended _ hc' (.inr ?_)
          unfold Call.drop
          rw [hs]
          rfl
      | stays hh hc' => exact .requests c e hc' hcancel hs
  | ended c hc hs =>
      obtain ⟨c', hc', hstage, ha⟩ := (hw.fate hc hp).over (Call.isOver_of hs)
      refine .ended c' hc' ?_
      rw [hstage, ha]
      exact hs

/-- What comes of a call that was cancelled in time. -/
structure InVain (w : BusWorld) (id : TaskId) : Prop where
  -- it is told so, unless it is dropped
  told : ∃ c, w.call? id = some c ∧ ∀ result, c.outcome? = some result →
    result = .error (Call.lockCancelled c.address)
  -- it goes on, and comes nearer to its end with each step
  moves : ∀ c, w.call? id = some c → c.isOver = true ∨ ∃ w' c', w.step? id = some w' ∧
    w'.call? id = some c' ∧ Call.stepsLeft c'.stage < Call.stepsLeft c.stage
  -- it does nothing, and makes no call on the bus
  quiet : ∀ w', w.step? id = some w' →
    w'.site.bus = w.site.bus ∧ w.deedsIn id (.step id) w' = []

theorem Futile.inVain (hf : w.Futile id) : w.InVain id where
  told := by
    cases hf with
    | finds c hc hcancel hs =>
        refine ⟨c, hc, ?_⟩
        intro result hout
        unfold Call.outcome? at hout
        rw [hs] at hout
        cases hout
    | requests c e hc hcancel hs =>
        refine ⟨c, hc, ?_⟩
        intro result hout
        unfold Call.outcome? at hout
        rw [hs] at hout
        cases hout
    | ended c hc hs =>
        refine ⟨c, hc, ?_⟩
        intro result hout
        unfold Call.outcome? at hout
        rcases hs with hs | hs <;> rw [hs] at hout <;> cases hout
        rfl
  moves := by
    intro c hc
    cases hf with
    | finds c₁ hc₁ hcancel hs =>
        cases hc.symm.trans hc₁
        have hstep : ∃ p, c.step id w.site = some p := by
          unfold Call.step
          rw [hs]
          exact ⟨_, rfl⟩
        obtain ⟨⟨c', x'⟩, hstep⟩ := hstep
        obtain ⟨w', hw', -, hc'⟩ := step?_of_call hc hstep
        obtain ⟨e, rfl, -⟩ := step_find hs hstep
        refine .inr ⟨w', _, hw', hc', ?_⟩
        rw [hs]
        exact Nat.lt_succ_self 6
    | requests c₁ e hc₁ hcancel hs =>
        cases hc.symm.trans hc₁
        have hstep : ∃ p, c.step id w.site = some p := by
          unfold Call.step
          rw [hs]
          simp only [hcancel, if_true]
          exact ⟨_, rfl⟩
        obtain ⟨⟨c', x'⟩, hstep⟩ := hstep
        obtain ⟨w', hw', -, hc'⟩ := step?_of_call hc hstep
        obtain ⟨rfl, -⟩ := step_refused hs hcancel hstep
        refine .inr ⟨w', _, hw', hc', ?_⟩
        rw [hs]
        exact Nat.succ_pos 5
    | ended c₁ hc₁ hs =>
        cases hc.symm.trans hc₁
        exact .inl (Call.isOver_of hs)
  quiet := by
    intro w' hp
    cases hf with
    | finds c hc hcancel hs =>
        obtain ⟨c', hstep, -⟩ := step?_call_eq_some hc hp
        obtain ⟨e, -, hbus, hd⟩ := step_find hs hstep
        exact ⟨hbus, (deedsIn_step hc).trans hd⟩
    | requests c e hc hcancel hs =>
        obtain ⟨c', hstep, -⟩ := step?_call_eq_some hc hp
        obtain ⟨-, hx⟩ := step_refused hs hcancel hstep
        refine ⟨congrArg Site.bus hx, ?_⟩
        rw [deedsIn_step hc, hx, Call.deeds_of_created rfl, hs]
    | ended c hc hs =>
        rw [step?_of_isOver hc (Call.isOver_of hs)] at hp
        cases hp

/-- On a registry in use, a call that was cancelled before it was made is
made in vain. -/
theorem futile (hc : w.call? id = some c) (hs : c.stage = .check)
    (hcancel : c.cancelled = true) (hd : w.site.registry.disposed = false) :
    ∃ w', w.step? id = some w' ∧ w'.site = w.site ∧ w'.Futile id := by
  have hstep : c.step id w.site = some ({ c with stage := .find }, w.site) := by
    unfold Call.step
    rw [hs]
    simp only [hd, Bool.false_eq_true, if_false]
  obtain ⟨w', hw', hx, hc'⟩ := step?_of_call hc hstep
  exact ⟨w', hw', hx, .finds _ hc' hcancel rfl⟩

-- ================================================ behind the refused

/-- A call that is not over can take a step, or carries out a program that
pauses, or is in a queue whose head can take a step or carries out a
program that pauses. -/
theorem Sound.proceeds (hw : w.Sound) (hc : w.call? id = some c) :
    c.isOver = true ∨ (∃ w', w.step? id = some w') ∨
      (∃ e pending rest, c.stage = .acting e pending rest) ∨
      ∃ e j, c.stage = .queued e ∧ w.site.registry.holder? e = some j ∧
        ((∃ w', w.step? j = some w') ∨
          ∃ c pending rest, w.call? j = some c ∧ c.stage = .acting e pending rest) := by
  have ht := call?_eq_some.mp hc
  have hmoves : (c.step id w.site).isSome = true → ∃ w', w.step? id = some w' := fun h =>
    step?_of_task ht (Option.isSome_map.trans h)
  have hholds : ∀ e, Call.lockHeld c.stage = some e → (∃ w', w.step? id = some w') ∨
      ∃ e pending rest, c.stage = .acting e pending rest := by
    intro e hl
    rcases Call.step_of_lockHeld id w.site hl with ⟨pending, rest, hs⟩ | h
    · exact .inr ⟨e, pending, rest, hs⟩
    · exact .inl (hmoves h)
  cases hl : Call.lockHeld c.stage with
  | some e => exact .inr ((hholds e hl).imp_right .inl)
  | none =>
      obtain ⟨address, program, cancelled, entered, replies, stage⟩ := c
      cases stage with
      | check =>
          refine .inr (.inl (hmoves ?_))
          simp only [Call.step]
          split <;> rfl
      | find => exact .inr (.inl (hmoves rfl))
      | request e =>
          refine .inr (.inl (hmoves ?_))
          simp only [Call.step]
          split <;> rfl
      | queued e =>
          have hline : id ∈ w.site.registry.line e := (hw.inLine.stands id e).mpr ⟨_, ht, .inr rfl⟩
          obtain ⟨j, hholder, hj⟩ := hw.head_moves hline
          exact .inr (.inr (.inr ⟨e, j, rfl, hholder, hj⟩))
      | ended result => exact .inl rfl
      | dropped => exact .inl rfl
      | _ => cases hl

/-- There is a session for a call to start its program on: it has asked
for one itself, or another call of the address was granted one. -/
def Provided (w : BusWorld) (hs : List Happening) (v : BusWorld) (a : Address) (j : TaskId) :
    Prop :=
  (∃ answer, .asked answer ∈ w.deeds j hs) ∨
    ∃ k c, k ≠ j ∧ v.call? k = some c ∧ c.address = a ∧ .asked (.ok ()) ∈ w.deeds k hs

/-- What becomes of a call that is in line where a session has just been
refused to another one. -/
structure Succeeds (w : BusWorld) (hs : List Happening) (v : BusWorld) (a : Address) (j : TaskId)
    (c : Call) : Prop where
  -- it starts its program on a session that was made since
  started : .started ∈ w.deeds j hs → w.Provided hs v a j
  -- when it is over, it was dropped, turned away or cancelled, or else
  -- it has asked for itself or found a session made since
  ended : c.isOver = true → c.stage = .dropped ∨
    c.outcome? = some (.error Call.registryClosed) ∨
    c.cancelled = true ∧ c.outcome? = some (.error (Call.lockCancelled c.address)) ∨
    w.Provided hs v a j
  -- until then it goes on, or waits for somebody who does or whose
  -- program pauses
  moves : c.isOver = true ∨ (∃ w', v.step? j = some w') ∨
    (∃ e pending rest, c.stage = .acting e pending rest) ∨
    ∃ e k, c.stage = .queued e ∧ v.site.registry.holder? e = some k ∧
      ((∃ w', v.step? k = some w') ∨
        ∃ c pending rest, v.call? k = some c ∧ c.stage = .acting e pending rest)

theorem Granted.provided {hs : List Happening} (hg : v.Granted a fun k => w.deeds k hs)
    (j : TaskId) : w.Provided hs v a j := by
  obtain ⟨k, c, hc, ha, hmem⟩ := hg
  by_cases hk : k = j
  · subst hk
    exact .inl ⟨_, hmem⟩
  · exact .inr ⟨k, c, hk, hc, ha, hmem⟩

theorem Sound.succeeds {hs : List Happening} {ds : TaskId → List Call.Deed} (hw : w.Sound)
    (hacc : w.Accounted ds) (hsup : w.Supplied a fun _ => []) (hr : w.run hs = some v)
    (hj : w.call? j = some c) (hq : c.stage = .queued e) (hv : v.call? j = some c')
    (ha : c'.address = a) : w.Succeeds hs v a j c' := by
  have hwv : v.Sound := Reaches.sound ⟨hs, hr⟩ hw
  have hsup' : v.Supplied a fun k => w.deeds k hs := hsup.run hw hr
  have hstarted : .started ∈ w.deeds j hs → w.Provided hs v a j := fun hmem =>
    (hsup'.started j c' hv ha hmem).provided j
  refine ⟨hstarted, ?_, hwv.proceeds hv⟩
  intro hover
  -- it had done nothing before
  have hbefore : ds j = [] := by
    have h := hacc.calls j c hj
    unfold Call.Accounts at h
    rwa [hq] at h
  have hnow := (hacc.run hw hr).calls j c' hv
  unfold Call.Accounts at hnow
  rw [hbefore, List.nil_append] at hnow
  unfold Call.isOver at hover
  split at hover
  next result hs' =>
    have hout : c'.outcome? = some result := by
      unfold Call.outcome?
      rw [hs']
    rw [hs'] at hnow
    rcases hnow with he | ⟨-, hcancel, rfl⟩
    · generalize hds : w.deeds j hs = ds' at he
      cases he with
      | closed => exact .inr (.inl hout)
      | refused f => exact .inr (.inr (.inr (.inl ⟨.error f, by rw [hds]; simp⟩)))
      | own o result ho => exact .inr (.inr (.inr (hstarted (by rw [hds]; simp))))
    · exact .inr (.inr (.inl ⟨hcancel, hout⟩))
  next hs' => exact .inl hs'
  · cases hover

-- ==================================================== the law, in all runs

/-- What one use of the registry may do, in every run. It is lawful. Once
its program has been started, a cancelled token makes no difference. A
call that is told that it was cancelled, and neither by its program nor
by the driver, had its token cancelled on its way to the lock; one that
was cancelled before it was made, on a registry in use, is made in vain.
And a call that is refused a session is told so, takes the address out of
the cache and passes on the lock, and those behind it ask for themselves
unless another call of the address is granted a session before. -/
theorem one_call {b : Simulated} {options : SessionOptions} {policy : SweepPolicy}
    {hs : List Happening} (hb : 0 ≤ b.nextDescriptor)
    (hr : (World.unused b options policy).run hs = some w) (hc : w.call? id = some c) :
    c.Lawful ((World.unused b options policy).deeds id hs) ∧
    (.started ∈ (World.unused b options policy).deeds id hs →
      ∀ hs', (w.cancel id).run hs' = (w.run hs').map (·.cancel id)) ∧
    (c.outcome? = some (.error (Call.lockCancelled c.address)) →
      .started ∉ (World.unused b options policy).deeds id hs →
      (∀ f, .asked (.error f) ∉ (World.unused b options policy).deeds id hs) →
      (World.unused b options policy).deeds id hs = [] ∧
        ∃ hs₁ hs₂ w₁ c₁, hs = hs₁ ++ .step id :: hs₂ ∧
          (World.unused b options policy).run hs₁ = some w₁ ∧ w₁.call? id = some c₁ ∧
          c₁.cancelled = true ∧ ∃ e, c₁.stage = .request e ∨ c₁.stage = .queued e) ∧
    (c.stage = .check → c.cancelled = true → w.site.registry.disposed = false →
      ∃ w', w.step? id = some w' ∧ w'.site = w.site ∧ ∀ v, w'.Reaches v → v.InVain id) ∧
    (∀ w' f, w.step? id = some w' → w.deedsIn id (.step id) w' = [.asked (.error f)] →
      ∃ e, c.stage = .fill e ∧ (∀ v, w'.Reaches v → v.Refused id c.address e f) ∧
        (∃ w₁ w₂ c₂, w'.step? id = some w₁ ∧ w₁.step? id = some w₂ ∧ w₂.call? id = some c₂ ∧
          c₂.outcome? = some (.error f) ∧ w₂.site.registry.contains c.address = false ∧
          ∀ e', id ∉ w₂.site.registry.line e') ∧
        ∀ j c₁, w'.call? j = some c₁ → c₁.stage = .queued e → c₁.address = c.address ∧
          ∀ hs' v c₂, w'.run hs' = some v → v.call? j = some c₂ →
            w'.Succeeds hs' v c.address j c₂) := by
  have hunused := sound_unused hb options policy
  have hw : w.Sound := Reaches.sound ⟨hs, hr⟩ hunused
  have hacc := (accounted_unused b options policy).run hunused hr
  have haccount : c.Accounts ((World.unused b options policy).deeds id hs) := by
    simpa using hacc.calls id c hc
  refine ⟨haccount.lawful, ?_, ?_, ?_, ?_⟩
  · intro hmem hs'
    exact run_cancel hw hc (haccount.heedless hmem) hs'
  · intro hout hstart hask
    have hnil := (haccount.lawful.idle hstart hask _ hout).1
    refine ⟨hnil, ?_⟩
    exact hunused.cancelled_in_time (accounted_unused b options policy) rfl hr hc hout hnil
  · intro hs hcancel hd
    obtain ⟨w', hw', hx, hfutile⟩ := futile hc hs hcancel hd
    refine ⟨w', hw', hx, ?_⟩
    intro v hv
    have hsound' := hw.perform (h := .step id) hw'
    have h : v.Futile id :=
      hsound'.induct (P := fun v => v.Futile id) hv hfutile fun _ _ _ hv hf hp => hf.perform hv hp
    exact h.inVain
  · intro w' f hstep hd
    have hsound' := hw.perform (h := .step id) hstep
    have hr' : (World.unused b options policy).run (hs ++ [.step id]) = some w' := by
      have hp : w.perform (.step id) = some w' := hstep
      rw [run_append, hr]
      show (w.perform (.step id)).bind _ = _
      rw [hp]
      rfl
    have hacc' := (accounted_unused b options policy).run hunused hr'
    have hhomed : w'.Homed := Reaches.homed ⟨_, hr'⟩ hunused (homed_unused b options policy)
    obtain ⟨e, c', hs, ha, hturns⟩ := hw.turnsBack hc hstep hd
    rw [← ha]
    refine ⟨e, hs, ?_, hturns.atOnce hsound', ?_⟩
    · intro v hv
      have h : v.WayOut id c'.address e f :=
        hsound'.induct (P := fun v => v.WayOut id c'.address e f) hv hturns.wayOut
          fun _ _ _ hv hout hp => hout.perform hv hp
      exact h.refused (hv.sound hsound')
    · intro j c₁ hc₁ hq
      have hentry : Call.entry? c₁.stage = some e := by
        rw [hq]
        rfl
      have hsame : c₁.address = c'.address :=
        (hhomed j c₁ e _ hc₁ hentry hturns.secure.current).symm
      refine ⟨hsame, ?_⟩
      intro hs' v c₂ hrun hc₂
      have hsame₂ := (hsound'.call?_reaches ⟨hs', hrun⟩ hc₁ hc₂).trans hsame
      exact hsound'.succeeds hacc' (supplied_vacant hturns.secure.current hturns.vacant) hrun
        hc₁ hq hc₂ hsame₂

/-- Two calls of an address on a bus that refuses every open: the first is
about to make sure of a session, the second is in line behind it. -/
def refusedAhead : List Happening :=
  [.stimulate (.refuseOpens true), .execute ⟨5, 0⟩ [] false, .execute ⟨5, 0⟩ [] false] ++
    List.replicate 5 (.step 0) ++ List.replicate 3 (.step 1)

theorem one_call_refused :
    ∃ w w' c f c₁, (World.unused .empty .standard .standard).run refusedAhead = some w ∧
      w.call? 0 = some c ∧ w.step? 0 = some w' ∧
      w.deedsIn 0 (.step 0) w' = [.asked (.error f)] ∧ w'.Refused 0 c.address 0 f ∧
      w'.call? 1 = some c₁ ∧ c₁.stage = .queued 0 ∧ w'.Succeeds [] w' c.address 1 c₁ := by
  have hrun : ((World.unused .empty .standard .standard).run refusedAhead).any (fun w =>
      ((w.call? 0).any fun c => Call.filling c.stage == some 0) &&
      (w.step? 0).any fun w' =>
        (Call.Deed.refused? (w.deedsIn 0 (.step 0) w')).isSome &&
        (w'.call? 1).any fun c => Call.queuing c.stage == some 0) = true := by
    decide +kernel
  obtain ⟨w, hw, hall⟩ := (Option.any_eq_true _ _).mp hrun
  simp only [Bool.and_eq_true] at hall
  obtain ⟨hcall, hstep⟩ := hall
  obtain ⟨c, hc, hfill⟩ := (Option.any_eq_true _ _).mp hcall
  obtain ⟨w', hw', hall⟩ := (Option.any_eq_true _ _).mp hstep
  simp only [Bool.and_eq_true] at hall
  obtain ⟨hasked, hnext⟩ := hall
  obtain ⟨c₁, hc₁, hqueued⟩ := (Option.any_eq_true _ _).mp hnext
  obtain ⟨f, hf⟩ := Option.isSome_iff_exists.mp hasked
  have hd := Call.Deed.refused?_eq_some.mp hf
  have hs₀ := Call.filling_eq_some.mp (beq_iff_eq.mp hfill)
  have hq := Call.queuing_eq_some.mp (beq_iff_eq.mp hqueued)
  obtain ⟨-, -, -, -, hrefused⟩ := one_call (by decide) hw hc
  obtain ⟨e, hs, hout, -, hbehind⟩ := hrefused w' f hw' hd
  cases hs₀.symm.trans hs
  obtain ⟨-, hsucceeds⟩ := hbehind 1 c₁ hc₁ hq
  exact ⟨w, w', c, f, c₁, hw, hc, hw', hd, hout w' (.refl w'), hc₁, hq,
    hsucceeds [] w' c₁ rfl hc₁⟩

end World

end InstrumentBus
