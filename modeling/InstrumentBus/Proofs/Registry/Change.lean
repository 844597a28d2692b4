/-
What one happening may do to a registry in use.

Every happening is one of three kinds: a task goes from one stage to
another (`Effect`), a task begins, or something happens beside the tasks
that leaves the registry and the descriptors as they are. Cancelling and
dropping a task are of the first kind, like a step: they have effects of
their own and are subject to the same invariants.
-/
import InstrumentBus.Proofs.Registry.Steps

namespace InstrumentBus

/-- A task that has done nothing yet. -/
inductive Task.Fresh : Task → Prop where
  | call {c : Call} (h : c.stage = .check) (he : c.entered = none) : Fresh (.call c)
  | sweep : Fresh (.sweep .new)
  | disposal : Fresh (.disposal .mark)
  | ticker : Fresh (.ticker .fresh)

namespace Task.Fresh

variable {t : Task}

theorem lockHeld (h : t.Fresh) : t.lockHeld = none := by
  cases h with
  | call h he => exact congrArg Call.lockHeld h
  | _ => rfl

theorem queuedOn (h : t.Fresh) : t.queuedOn = none := by
  cases h with
  | @call c h he =>
      obtain ⟨address, program, cancelled, entered, replies, stage⟩ := c
      cases h
      rfl
  | _ => rfl

theorem admitted (h : t.Fresh) : t.admitted = none := by
  cases h with
  | call h he => exact congrArg Call.admitted h
  | _ => rfl

theorem pending? (h : t.Fresh) : t.pending? = none := by
  cases h <;> rfl

theorem sound (h : t.Fresh) (r : Registry) : t.Sound r := by
  cases h with
  | call h he =>
      show Call.Sound _ r
      unfold Call.Sound
      rw [h]
      exact True.intro
  | sweep => exact True.intro
  | disposal => exact ⟨nofun, nofun⟩
  | ticker => exact True.intro

end Task.Fresh

/-- The task that a happening concerns, once it has begun. -/
def Happening.subject? : Happening → Option TaskId
  | .step id | .cancel id | .drop id => some id
  | _ => none

namespace World

variable {w w' : BusWorld} {id : TaskId} {t : Task}

/-- What a happening may do that concerns a certain task, or no task. -/
inductive Change (who : Option TaskId) (w w' : BusWorld) : Prop where
  -- a task goes on, is cancelled or is dropped
  | task (id : TaskId) (t t' : Task) (hid : who = some id) (ht : w.task? id = some t)
      (hw : ∀ j, w'.task? j = if j = id then some t' else w.task? j)
      (he : Effect id t w.site t' w'.site) (hs : t'.Sound w'.site.registry)
      (hp : ∀ l, t'.pending? = some l → Drains t t' w.site w'.site l) (hf : t.Follows t')
  | begun (t : Task) (hf : t.Fresh)
      (hw : ∀ j, w'.task? j = if j = w.nextId then some t else w.task? j)
      (hb : w'.site.bus = w.site.bus) (hr : w.site.registry.Alike w'.site.registry)
  -- something else happens: time passes, or the bus is touched from
  -- outside
  | beside (hw : ∀ j, w'.task? j = w.task? j) (hl : w.site.bus.bus.SameLinks w'.site.bus.bus)
      (ht : w'.site.bus.trace = w.site.bus.trace) (hr : w'.site.registry = w.site.registry)

/-- Worlds with the same site and the same tasks. -/
theorem ext_tasks (hx : w.site = w'.site) (ht : ∀ j, w.task? j = w'.task? j) : w = w' := by
  obtain ⟨x, tasks⟩ := w
  obtain ⟨x', tasks'⟩ := w'
  cases hx
  exact congrArg (World.mk x) (List.ext_getElem? ht)

theorem task?_nextId (w : BusWorld) : w.task? w.nextId = none :=
  List.getElem?_eq_none (Nat.le_refl _)

/-- The tasks after one of them has gone on. -/
theorem task?_set (ht : w.task? id = some t) (t' : Task) (x : BusSite) (j : TaskId) :
    task? ⟨x, w.tasks.set id t'⟩ j = if j = id then some t' else w.task? j := by
  have hlt : id < w.tasks.length := (List.getElem?_eq_some_iff.mp ht).1
  show (w.tasks.set id t')[j]? = _
  rw [List.getElem?_set]
  by_cases hj : id = j
  · rw [if_pos hj, if_pos (hj ▸ hlt), if_pos hj.symm]
  · rw [if_neg hj, if_neg (Ne.symm hj)]
    rfl

theorem task?_set_self (ht : w.task? id = some t) (t' : Task) (x : BusSite) :
    task? ⟨x, w.tasks.set id t'⟩ id = some t' := (task?_set ht t' x id).trans (if_pos rfl)

/-- The tasks after one has begun. -/
theorem task?_append (w : BusWorld) (t : Task) (x : BusSite) (j : TaskId) :
    task? ⟨x, w.tasks ++ [t]⟩ j = if j = w.nextId then some t else w.task? j := by
  show (w.tasks ++ [t])[j]? = _
  by_cases hj : j = w.nextId
  · rw [if_pos hj, hj]
    exact List.getElem?_concat_length
  · rw [if_neg hj]
    by_cases hlt : j < w.tasks.length
    · exact List.getElem?_append_left hlt
    · have hle : w.tasks.length + 1 ≤ j := by
        exact Nat.lt_of_le_of_ne (Nat.le_of_not_lt hlt) (Ne.symm hj)
      rw [List.getElem?_eq_none (List.length_append ▸ hle)]
      exact (List.getElem?_eq_none (Nat.le_of_succ_le hle)).symm

/-- The tasks after the token of one has been cancelled. -/
theorem task?_cancel (w : BusWorld) (id j : TaskId) :
    (w.cancel id).task? j = if j = id then (w.task? id).map Task.cancel else w.task? j := by
  show (w.tasks.modify id Task.cancel)[j]? = _
  rw [List.getElem?_modify]
  by_cases hj : id = j
  · rw [if_pos hj.symm, hj]
    show Option.map _ _ = Option.map _ (w.tasks[j]?)
    simp only [if_true]
  · rw [if_neg (Ne.symm hj)]
    simp only [if_neg hj]
    exact Option.map_id_apply

/-- A happening that changes nothing. -/
theorem Change.refl (who : Option TaskId) (w : BusWorld) : Change who w w :=
  .beside (fun _ => rfl) ⟨rfl, rfl⟩ rfl rfl

theorem Change.startSweep (w : BusWorld) : Change none w w.startSweep := by
  unfold World.startSweep
  simp only
  split
  · exact .refl _ w
  · exact .begun _ .ticker (task?_append w _ _) rfl
      ⟨fun _ => rfl, rfl, rfl, .refl _, rfl, rfl⟩

/-- A step of a task. -/
theorem Change.step (hp : w.step? id = some w')
    (hsound : ∀ t, w.task? id = some t → t.Sound w.site.registry)
    (hc : w.site.registry.Coherent)
    (hh : ∀ t e, w.task? id = some t → t.lockHeld = some e →
      w.site.registry.holder? e = some id)
    (hv : w.task? id = some (.disposal .clear) →
      ∀ p ∈ w.site.registry.cache, w.site.registry.slot? p.2 = none) : Change (some id) w w' := by
  unfold step? at hp
  cases ht : w.task? id with
  | none =>
      rw [ht] at hp
      cases hp
  | some t =>
      rw [ht] at hp
      obtain ⟨⟨t', x'⟩, hstep, heq⟩ := Option.map_eq_some_iff.mp hp
      cases heq
      obtain ⟨he, hs⟩ := Task.step_effect hstep (hsound t ht) hc (hh t · ht) fun h => hv (h ▸ ht)
      exact .task id t t' rfl ht (task?_set ht t' x') he hs (fun l => Task.step_drains hstep)
        (Task.step_follows hstep)

theorem Change.cancel (hsound : ∀ t, w.task? id = some t → t.Sound w.site.registry) :
    Change (some id) w (w.cancel id) := by
  have hw := task?_cancel w id
  cases ht : w.task? id with
  | none =>
      refine .beside (fun j => ?_) ⟨rfl, rfl⟩ rfl rfl
      rw [hw, ht]
      split
      next hj => rw [hj, ht]; rfl
      next => rfl
  | some t =>
      rw [ht] at hw
      obtain ⟨he, hs⟩ := Task.cancel_effect id (hsound t ht)
      exact .task id t t.cancel rfl ht hw he hs (fun l hl => .kept (Task.pending?_cancel t ▸ hl))
        (Task.cancel_follows t)

theorem Change.drop (w : BusWorld) (id : TaskId) : Change (some id) w (w.drop id) := by
  unfold World.drop
  cases ht : w.task? id with
  | none => exact .refl _ w
  | some t =>
      simp only
      rcases hd : t.drop id w.site with ⟨t', x'⟩
      obtain ⟨he, hs⟩ := Task.drop_effect hd
      refine .task id t t' rfl ht (task?_set ht t' x') he hs (fun l hl => ?_) (Task.drop_follows hd)
      rw [Task.pending?_drop hd] at hl
      cases hl

/-- Whatever happens is a change of one of the three kinds. -/
theorem Change.perform {h : Happening} (hp : w.perform h = some w')
    (hsound : ∀ id t, w.task? id = some t → t.Sound w.site.registry)
    (hc : w.site.registry.Coherent)
    (hh : ∀ id t e, w.task? id = some t → t.lockHeld = some e →
      w.site.registry.holder? e = some id)
    (hv : ∀ id, w.task? id = some (.disposal .clear) →
      ∀ p ∈ w.site.registry.cache, w.site.registry.slot? p.2 = none) : Change h.subject? w w' := by
  cases h with
  | execute a p cancelled =>
      cases hp
      exact .begun _ (.call rfl rfl) (task?_append w _ _) rfl (.refl _)
  | evict =>
      cases hp
      exact .begun _ .sweep (task?_append w _ _) rfl (.refl _)
  | dispose =>
      cases hp
      exact .begun _ .disposal (task?_append w _ _) rfl (.refl _)
  | startSweep =>
      cases hp
      exact .startSweep w
  | step id => exact .step hp (hsound id) hc (hh id) (hv id)
  | cancel id =>
      cases hp
      exact .cancel (hsound id)
  | drop id =>
      cases hp
      exact .drop w id
  | elapse d =>
      cases hp
      exact .beside (fun _ => rfl) ⟨rfl, rfl⟩ rfl rfl
  | stimulate s =>
      cases hp
      exact .beside (fun _ => rfl) (Simulated.sameLinks_stimulate _ s) rfl rfl

end World

end InstrumentBus
