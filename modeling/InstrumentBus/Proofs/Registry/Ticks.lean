/-
The background sweep, kept to its timetable.

The sweep is to tick at an instant of its own start and whole intervals
after it. It does where the clock is virtual, that is where time passes
only when nobody can go on, and never beyond the instant the ticker sleeps
until (`World.Punctual`). `World.Awaits` says where the ticker stands
before a certain tick: it has yet to set out, or sleeps until one of the
ticks before, or until that one. Whatever happens keeps it so, up to the
turn at the tick itself (`World.Awaits.occurs`).

A turn of the ticker is a sweep and nothing more. That there is a turn
which is one was seen before; here it is shown that there is no other
(`World.Calm.ticks`), because a ticker that has gone back to sleep cannot
go on at the same instant.
-/
import InstrumentBus.Proofs.Registry.Evicted
import InstrumentBus.Proofs.Registry.Settled

namespace InstrumentBus

/-- A sweep leaves the registry in use. -/
theorem Sweep.Stride.disposed {id : TaskId} {s s' : Sweep} {x x' : BusSite}
    (h : s.Stride id x s' x') : x'.registry.disposed = x.registry.disposed := by
  cases h with
  | unlinked a e hs => exact (Registry.forget_frame x.registry a e).1
  | closed e hs => exact (Site.closeSlot_frame x e).2.2.1
  | _ => rfl

theorem Task.Follows.refl (t : Task) : t.Follows t := by
  cases t with
  | call c => exact .call rfl rfl (.inl rfl)
  | sweep s => exact .sweep s s
  | disposal d => exact .disposal id .inl
  | ticker k => exact .ticker k k

/-- It is the background sweep. -/
def Task.isTicker : Task → Bool
  | .ticker _ => true
  | _ => false

/-- The instant a background sweep sleeps until. -/
def Task.wake? : Task → Option Instant
  | .ticker (.sleeping wake) => some wake
  | _ => none

namespace World

variable {w w' v v' : BusWorld} {h : Happening} {id : TaskId} {n n' : Nat}

-- ==================================================== what is assumed

/-- Each thing that happens on a path stands in a relation to the worlds
before and after. -/
def Along (R : BusWorld → Happening → BusWorld → Prop) :
    BusWorld → List (Happening × BusWorld) → Prop
  | _, [] => True
  | w, (h, w') :: rest => R w h w' ∧ Along R w' rest

/-- The clock is virtual: time passes only where no task can go on, and
not beyond the instant at which the background sweep is due. -/
def Punctual (w : BusWorld) : Happening → Prop
  | .elapse d => (∀ id, w.step? id = none) ∧
      ∀ id wake, w.task? id = some (.ticker (.sleeping wake)) → w.site.clock + d.nanos ≤ wake
  | _ => True

/-- The background sweep is left to itself: no sweep is asked for, nothing
is disposed of, and the ticker is not dropped. -/
def Unattended (w : BusWorld) : Happening → Prop
  | .evict | .dispose => False
  | .drop id => ∀ k, w.task? id ≠ some (.ticker k)
  | _ => True

instance decidableAlong {R : BusWorld → Happening → BusWorld → Prop}
    [∀ w h w', Decidable (R w h w')] :
    (w : BusWorld) → (path : List (Happening × BusWorld)) → Decidable (w.Along R path)
  | _, [] => .isTrue True.intro
  | w, (h, w') :: rest =>
    have : Decidable (w'.Along R rest) := decidableAlong w' rest
    inferInstanceAs (Decidable (R w h w' ∧ w'.Along R rest))

instance (w : BusWorld) (h : Happening) : Decidable (w.Punctual h) :=
  match h with
  | .elapse d =>
    decidable_of_iff ((∀ id < w.tasks.length, (w.step? id).isNone = true) ∧
        ∀ t ∈ w.tasks, ∀ wake ∈ t.wake?, w.site.clock + d.nanos ≤ wake) <| by
      refine and_congr ⟨fun h id => ?_, fun h id _ => by rw [h id]; rfl⟩
        ⟨fun h id wake ht => h _ (List.mem_of_getElem? ht) wake rfl, fun h t ht wake hwake => ?_⟩
      · by_cases hid : id < w.tasks.length
        · exact Option.isNone_iff_eq_none.mp (h id hid)
        · unfold step? task?
          rw [List.getElem?_eq_none (Nat.not_lt.mp hid)]
      · obtain ⟨id, hid⟩ := List.mem_iff_getElem?.mp ht
        refine h id wake (hid.trans (congrArg some ?_))
        unfold Task.wake? at hwake
        split at hwake <;> cases hwake
        rfl
  | .execute _ _ _ | .evict | .dispose | .startSweep | .step _ | .cancel _ | .drop _
  | .stimulate _ => .isTrue True.intro

instance (w : BusWorld) (h : Happening) : Decidable (w.Unattended h) :=
  match h with
  | .evict | .dispose => .isFalse fun h => h
  | .drop id =>
    decidable_of_iff ((w.task? id).all (!·.isTicker) = true) <| by
      show _ ↔ ∀ k, w.task? id ≠ some (.ticker k)
      cases w.task? id with
      | none => exact ⟨nofun, fun _ => rfl⟩
      | some t => cases t <;> simp [Task.isTicker]
  | .execute _ _ _ | .startSweep | .step _ | .cancel _ | .elapse _
  | .stimulate _ => .isTrue True.intro

/-- The background sweep sets out. -/
def setsOut (w : BusWorld) : Happening → Bool
  | .step id =>
    match w.task? id with
    | some (.ticker .fresh) => true
    | _ => false
  | _ => false

/-- When the background sweep sets out on a path, if it does. -/
def sweepStart? : BusWorld → List (Happening × BusWorld) → Option Instant
  | _, [] => none
  | w, (h, w') :: rest => if w.setsOut h then some w.site.clock else sweepStart? w' rest

/-- Nothing goes on but calls and the background sweep, in a registry in
use. -/
structure Calm (w : BusWorld) : Prop where
  orderly : w.Orderly
  homed : w.Homed
  unstarted : w.Unstarted
  inUse : w.site.registry.disposed = false
  kinds : ∀ i t, w.task? i = some t →
    (∃ c, t = .call c) ∨ ∃ k, t = .ticker k ∧ w.site.registry.sweepStarted = true
  -- there is one ticker at most
  single : ∀ i j k k', w.task? i = some (.ticker k) → w.task? j = some (.ticker k') → i = j

-- ========================================================= calm is kept

theorem calm_unused {b : Simulated} (hb : 0 ≤ b.nextDescriptor) (options : SessionOptions)
    (policy : SweepPolicy) : (World.unused b options policy).Calm where
  orderly := orderly_unused hb options policy
  homed := homed_unused b options policy
  unstarted := unstarted_unused b options policy
  inUse := rfl
  kinds := fun _ _ ht => nomatch ht
  single := fun _ _ _ _ ht => nomatch ht

/-- Calm is kept where every task is one that was there before. -/
theorem Calm.going (hc : w.Calm) (hp : w.perform h = some w')
    (hd : w'.site.registry.disposed = w.site.registry.disposed)
    (hs : w'.site.registry.sweepStarted = w.site.registry.sweepStarted)
    (hfrom : ∀ i t', w'.task? i = some t' → ∃ t, w.task? i = some t ∧ t.Follows t') :
    w'.Calm := by
  have hticker : ∀ i k', w'.task? i = some (.ticker k') → ∃ k, w.task? i = some (.ticker k) := by
    intro i k' hk'
    obtain ⟨t, ht, hf⟩ := hfrom i _ hk'
    cases hf with
    | ticker k _ => exact ⟨k, ht⟩
  refine
    { orderly := hc.orderly.perform hp
      homed := hc.homed.perform hc.orderly.sound hp
      unstarted := hc.unstarted.perform hp
      inUse := hd.trans hc.inUse
      kinds := fun i t' ht' => ?_
      single := fun i j k k' hk hk' => ?_ }
  · obtain ⟨t, ht, hf⟩ := hfrom i t' ht'
    rcases hc.kinds i t ht with ⟨c, rfl⟩ | ⟨k, rfl, hstarted⟩
    · cases hf with
      | @call _ c' _ _ _ => exact .inl ⟨c', rfl⟩
    · cases hf with
      | ticker _ k' => exact .inr ⟨k', rfl, hs.trans hstarted⟩
  · obtain ⟨k₀, hk₀⟩ := hticker i k hk
    obtain ⟨k₁, hk₁⟩ := hticker j k' hk'
    exact hc.single i j k₀ k₁ hk₀ hk₁

/-- No task that goes on disposes of the registry. -/
theorem Calm.disposed_step (hc : w.Calm) (hp : w.step? id = some w') :
    w'.site.registry.disposed = w.site.registry.disposed := by
  obtain ⟨t, t', x', ht, hstep, rfl⟩ := step?_eq_some hp
  rcases hc.kinds id t ht with ⟨c, rfl⟩ | ⟨k, rfl, -⟩
  · obtain ⟨p, hcall, heq⟩ := Option.map_eq_some_iff.mp hstep
    cases heq
    exact (Call.step_stride hcall (hc.orderly.sound.tasks id _ ht)).disposed
  · obtain ⟨p, hk, heq⟩ := Option.map_eq_some_iff.mp hstep
    cases heq
    have hcases : p.2 = w.site ∨ ∃ s s' mark, k = .sweeping s mark ∧
        s.Stride id w.site s' p.2 := Ticker.step_cases hk
    rcases hcases with hx | ⟨s, s', mark, -, hst⟩
    · exact congrArg (fun x : BusSite => x.registry.disposed) hx
    · exact hst.disposed

theorem Calm.startSweep (hc : w.Calm) : w.startSweep.Calm := by
  have hp : w.perform .startSweep = some w.startSweep := rfl
  by_cases hidle : (w.site.registry.sweepStarted || w.site.registry.disposed ||
      w.site.registry.policy.sweepInterval.isZero) = true
  · have hsame : w.startSweep = w := by
      unfold World.startSweep
      exact if_pos hidle
    rwa [hsame]
  · have hnew : w.startSweep = ⟨w.site.modifyRegistry fun r => { r with sweepStarted := true },
        w.tasks ++ [.ticker .fresh]⟩ := by
      unfold World.startSweep
      exact if_neg hidle
    have hnot : w.site.registry.sweepStarted ≠ true := fun hs => hidle (by rw [hs]; rfl)
    -- it has not been started, so there is no other
    have hnone : ∀ i k, w.task? i ≠ some (.ticker k) := by
      intro i k hk
      rcases hc.kinds i _ hk with ⟨c, hcall⟩ | ⟨k', -, hs⟩
      · cases hcall
      · exact hnot hs
    have hlast : ∀ i k, w.startSweep.task? i = some (.ticker k) → i = w.nextId := by
      intro i k hk
      rw [hnew, task?_append] at hk
      split at hk
      · assumption
      · exact absurd hk (hnone i k)
    refine
      { orderly := hc.orderly.perform hp
        homed := hc.homed.perform hc.orderly.sound hp
        unstarted := hc.unstarted.perform hp
        inUse := by rw [hnew]; exact hc.inUse
        kinds := fun i t ht => ?_
        single := fun i j k k' hk hk' => (hlast i k hk).trans (hlast j k' hk').symm }
    rw [hnew] at ht ⊢
    rw [task?_append] at ht
    split at ht
    · cases ht
      exact .inr ⟨_, rfl, rfl⟩
    · rcases hc.kinds i t ht with hcall | ⟨k, rfl, -⟩
      · exact .inl hcall
      · exact absurd ht (hnone i k)

theorem Calm.perform (hc : w.Calm) (hu : w.Unattended h) (hp : w.perform h = some w') :
    w'.Calm := by
  cases h with
  | execute a p cancelled =>
      have hp' := hp
      cases hp
      have hticker : ∀ i k, (w.start (.call { Call.new a p with cancelled })).task? i =
          some (.ticker k) → w.task? i = some (.ticker k) := by
        intro i k hk
        rw [show w.start _ = ⟨w.site, w.tasks ++ [_]⟩ from rfl, task?_append] at hk
        split at hk
        · cases hk
        · exact hk
      refine
        { orderly := hc.orderly.perform hp'
          homed := hc.homed.perform hc.orderly.sound hp'
          unstarted := hc.unstarted.perform hp'
          inUse := hc.inUse
          kinds := fun i t ht => ?_
          single := fun i j k k' hk hk' => hc.single i j k k' (hticker i k hk) (hticker j k' hk') }
      rw [show w.start _ = ⟨w.site, w.tasks ++ [_]⟩ from rfl, task?_append] at ht
      split at ht
      · cases ht
        exact .inl ⟨_, rfl⟩
      · exact hc.kinds i t ht
  | evict => exact hu.elim
  | dispose => exact hu.elim
  | startSweep =>
      cases hp
      exact hc.startSweep
  | step id =>
      refine hc.going hp (hc.disposed_step hp)
        (congrArg Prod.snd (hc.orderly.sound.standing_perform hp nofun)) fun i t' ht' => ?_
      obtain ⟨t, t₁, x', ht, hstep, rfl⟩ := step?_eq_some hp
      rw [task?_set ht] at ht'
      split at ht'
      next hi =>
        cases ht'
        exact ⟨t, hi ▸ ht, Task.step_follows hstep⟩
      · exact ⟨t', ht', .refl t'⟩
  | cancel id =>
      refine hc.going hp (by cases hp; rfl)
        (congrArg Prod.snd (hc.orderly.sound.standing_perform hp nofun)) fun i t' ht' => ?_
      cases hp
      rw [task?_cancel] at ht'
      split at ht'
      next hi =>
        obtain ⟨t, ht, rfl⟩ := Option.map_eq_some_iff.mp ht'
        exact ⟨t, hi ▸ ht, Task.cancel_follows t⟩
      · exact ⟨t', ht', .refl t'⟩
  | drop id =>
      have hquiet : w'.site.registry.disposed = w.site.registry.disposed := by
        cases hp
        cases ht : w.task? id with
        | none => rw [drop_of_none ht]
        | some t =>
            rw [drop_of_some ht]
            rcases hc.kinds id t ht with ⟨⟨address, program, cancelled, entered, replies, stage⟩, rfl⟩ |
              ⟨k, rfl, -⟩
            · cases stage <;> rfl
            · cases k <;> rfl
      refine hc.going hp hquiet
        (congrArg Prod.snd (hc.orderly.sound.standing_perform hp nofun)) fun i t' ht' => ?_
      cases hp
      cases ht : w.task? id with
      | none =>
          rw [drop_of_none ht] at ht'
          exact ⟨t', ht', .refl t'⟩
      | some t =>
          rw [drop_of_some ht, task?_set ht] at ht'
          split at ht'
          next hi =>
            cases ht'
            exact ⟨t, hi ▸ ht, Task.drop_follows rfl⟩
          · exact ⟨t', ht', .refl t'⟩
  | elapse d =>
      refine hc.going hp (by cases hp; rfl)
        (congrArg Prod.snd (hc.orderly.sound.standing_perform hp nofun)) fun i t' ht' => ?_
      cases hp
      exact ⟨t', ht', .refl t'⟩
  | stimulate s =>
      refine hc.going hp (by cases hp; rfl)
        (congrArg Prod.snd (hc.orderly.sound.standing_perform hp nofun)) fun i t' ht' => ?_
      cases hp
      exact ⟨t', ht', .refl t'⟩

-- ============================================================ the turns

/-- What one task's steps keep, while the others wait, is kept by as many
of them as there are. -/
theorem AtRestBut.induct {Q : BusWorld → Prop} (ha : w.AtRestBut id) (h₀ : Q w)
    (hstep : ∀ v v', v.AtRestBut id → Q v → v.step? id = some v' → Q v')
    (hr : w.run (List.replicate n (.step id)) = some w') : w'.AtRestBut id ∧ Q w' := by
  induction n generalizing w with
  | zero =>
      cases hr
      exact ⟨ha, h₀⟩
  | succ n ih =>
      obtain ⟨w₁, hp, hrest⟩ := Option.bind_eq_some_iff.mp hr
      exact ih (ha.step hp) (hstep w w₁ ha h₀ hp) hrest

theorem AtRest.but (ha : w.AtRest) (id : TaskId) : w.AtRestBut id := fun j t _ hj => ha j t hj

/-- The first step of a turn. -/
theorem Turn.first (ht : w.Turn id w') : ∃ w₁, w.step? id = some w₁ := by
  obtain ⟨-, -, n, hrun⟩ := ht
  obtain ⟨w₁, hfirst, -⟩ := Option.bind_eq_some_iff.mp hrun
  exact ⟨w₁, hfirst⟩

/-- What occurs is a turn, or happens beside the steps. -/
theorem Occurs.turn_or_beside (ho : w.Occurs h w') : (∃ id, h = .step id ∧ w.Turn id w') ∨
    (∀ id, h ≠ .step id) ∧ w.perform h = some w' := by
  cases h with
  | step id => exact .inl ⟨id, rfl, ho⟩
  | _ => exact .inr ⟨fun _ => Happening.noConfusion, ho⟩

/-- Calm is kept by as many steps of a task as there are. -/
theorem Calm.steps (hc : w.Calm) (hr : w.run (List.replicate n (.step id)) = some w') :
    w'.Calm := by
  induction n generalizing w with
  | zero =>
      cases hr
      exact hc
  | succ n ih =>
      obtain ⟨w₁, hp, hrest⟩ := Option.bind_eq_some_iff.mp hr
      exact ih (hc.perform (h := .step id) True.intro hp) hrest

/-- A turn leaves what its steps keep. -/
theorem Calm.turn {Q : BusWorld → Prop} (hc : w.Calm) (ha : w.AtRest) (ht : w.Turn id w')
    (h₀ : Q w) (hstep : ∀ v v', v.Calm → v.AtRestBut id → Q v → v.step? id = some v' → Q v') :
    w'.Calm ∧ w'.AtRest ∧ Q w' := by
  obtain ⟨-, hrests, n, hrun⟩ := ht
  have hall := (ha.but id).induct (Q := fun v => v.Calm ∧ Q v) ⟨hc, h₀⟩
    (fun v v' hv hq hp => ⟨hq.1.perform (h := .step id) True.intro hp, hstep v v' hq.1 hv hq.2 hp⟩)
    hrun
  exact ⟨hall.2.1, hall.1.atRest hrests, hall.2.2⟩

/-- Where nothing interferes, calm and rest are kept. -/
theorem Calm.occurs (hc : w.Calm) (ha : w.AtRest) (hu : w.Unattended h) (ho : w.Occurs h w') :
    w'.Calm ∧ w'.AtRest := by
  cases h with
  | step id =>
      have hturn := hc.turn (Q := fun _ => True) ha ho True.intro fun _ _ _ _ _ _ => True.intro
      exact ⟨hturn.1, hturn.2.1⟩
  | _ =>
      refine ⟨hc.perform hu ho, ha.perform ?_ ho⟩
      exact nofun

/-- A step takes no time, and is nobody else's. -/
theorem Sound.step_aside (hw : w.Sound) (hp : w.step? id = some w') :
    w'.site.clock = w.site.clock ∧ ∀ j, j ≠ id → w'.task? j = w.task? j := by
  obtain ⟨t, t', x', ht, hstep, rfl⟩ := step?_eq_some hp
  exact ⟨Task.clock_step hstep (hw.tasks id t ht),
    fun j hj => (task?_set ht t' x' j).trans (if_neg hj)⟩

/-- A turn takes no time, and is nobody else's. -/
theorem Calm.turn_aside (hc : w.Calm) (ha : w.AtRest) (ht : w.Turn id w') :
    w'.site.clock = w.site.clock ∧ ∀ j, j ≠ id → w'.task? j = w.task? j := by
  refine (hc.turn (Q := fun v => v.site.clock = w.site.clock ∧
    ∀ j, j ≠ id → v.task? j = w.task? j) ha ht ⟨rfl, fun _ _ => rfl⟩ ?_).2.2
  intro v v' hv _ hq hp
  obtain ⟨hclock, hothers⟩ := hv.orderly.sound.step_aside hp
  exact ⟨hclock.trans hq.1, fun j hj => (hothers j hj).trans (hq.2 j hj)⟩

/-- A task that cannot go on any more is where it gets to, however many
steps are counted. -/
theorem run_stuck (hr : w.run (List.replicate n (.step id)) = some v) (hv : v.step? id = none)
    (hr' : w.run (List.replicate n' (.step id)) = some v') (hv' : v'.step? id = none) :
    v = v' := by
  induction n generalizing w n' with
  | zero =>
      cases hr
      cases n' with
      | zero => exact Option.some.inj hr'
      | succ n' =>
          obtain ⟨w₁, hp, -⟩ := Option.bind_eq_some_iff.mp hr'
          cases hv.symm.trans hp
  | succ n ih =>
      obtain ⟨w₁, hp, hrest⟩ := Option.bind_eq_some_iff.mp hr
      cases n' with
      | zero =>
          cases hr'
          cases hv'.symm.trans hp
      | succ n' =>
          obtain ⟨w₂, hp', hrest'⟩ := Option.bind_eq_some_iff.mp hr'
          cases hp.symm.trans hp'
          exact ih hrest hrest'

-- ============================================================ the ticker

/-- The next tick is still to come. -/
theorem lt_next {interval : Duration} (now : Instant) (hp : 0 < interval.nanos) :
    now < Ticker.next now now interval := by
  have hlong : 0 < Clock.longestSleep.nanos := by decide
  unfold Ticker.next Clock.after?
  split
  · exact Nat.lt_add_of_pos_right hp
  · exact Nat.lt_add_of_pos_right hlong

/-- A tick that can be named is one interval after the one before. -/
theorem next_eq {last : Instant} {interval : Duration} (now : Instant)
    (h : last + interval.nanos < Clock.horizon) :
    Ticker.next last now interval = last + interval.nanos := by
  unfold Ticker.next Clock.after?
  rw [if_pos h]
  rfl

theorem rhythm_self (now : Instant) : Ticker.rhythm now now = now := by
  unfold Ticker.rhythm
  exact if_neg (Nat.not_lt.mpr (Nat.le_add_right _ _))

/-- A ticker that sleeps until later cannot go on. -/
theorem step?_asleep {wake : Instant} (hd : w.site.registry.disposed = false)
    (ht : w.task? id = some (.ticker (.sleeping wake))) (hlt : w.site.clock < wake) :
    w.step? id = none := by
  unfold step?
  rw [ht]
  show Option.map _ (Option.map _ (Ticker.step id (.sleeping wake) w.site)) = none
  unfold Ticker.step
  simp only [hd, Bool.false_eq_true, if_false, if_neg (Nat.not_le.mpr hlt)]
  rfl

/-- A ticker that cannot go on before its next tick. -/
def Asleep (id : TaskId) (w : BusWorld) : Prop :=
  ∃ wake, w.task? id = some (.ticker (.sleeping wake)) ∧ w.site.clock < wake

/-- A ticker that sweeps now. -/
def Sweeping (id : TaskId) (w : BusWorld) : Prop :=
  ∃ s, w.task? id = some (.ticker (.sweeping s w.site.clock))

/-- A ticker that sweeps goes on sweeping, or back to sleep. -/
theorem Calm.sweeping_step (hc : w.Calm) (hp : 0 < w.site.registry.policy.sweepInterval.nanos)
    (hs : Asleep id w ∨ Sweeping id w) (hstep : w.step? id = some w') :
    Asleep id w' ∨ Sweeping id w' := by
  rcases hs with ⟨wake, ht, hlt⟩ | ⟨s, ht⟩
  · cases (step?_asleep hc.inUse ht hlt).symm.trans hstep
  · obtain ⟨t, t', x', ht', hgoes, rfl⟩ := step?_eq_some hstep
    cases ht.symm.trans ht'
    have hclock : x'.clock = w.site.clock := Task.clock_step hgoes (hc.orderly.sound.tasks id _ ht)
    obtain ⟨⟨k', y⟩, hk, heq⟩ := Option.map_eq_some_iff.mp hgoes
    cases heq
    simp only [Ticker.step] at hk
    split at hk
    next s₁ x₁ hs =>
      cases hk
      refine .inr ⟨s₁, ?_⟩
      rw [hclock]
      exact task?_set_self ht _ _
    next =>
      cases hk
      exact .inl ⟨_, task?_set_self ht _ _, lt_next _ hp⟩

/-- A ticker that is due begins to sweep. -/
theorem Calm.begins (hc : w.Calm)
    (ht : w.task? id = some (.ticker (.sleeping w.site.clock))) (hp : w.step? id = some w') :
    Sweeping id w' := by
  obtain ⟨t, t', x', ht', hgoes, rfl⟩ := step?_eq_some hp
  cases ht.symm.trans ht'
  obtain ⟨⟨k', y⟩, hk, heq⟩ := Option.map_eq_some_iff.mp hgoes
  cases heq
  simp only [Ticker.step, hc.inUse, Bool.false_eq_true, if_false, if_pos (Nat.le_refl _),
    rhythm_self] at hk
  cases hk
  exact ⟨_, task?_set_self ht _ _⟩

/-- A turn of a ticker that is due is one sweep. -/
theorem Calm.ticks (hc : w.Calm) (ha : w.AtRest)
    (hp : 0 < w.site.registry.policy.sweepInterval.nanos)
    (ht : w.task? id = some (.ticker (.sleeping w.site.clock))) (hturn : w.Turn id w') :
    w' = ⟨w.site.sweptOver w.site.registry.cache,
      w.tasks.set id (.ticker (.sleeping (Ticker.next w.site.clock w.site.clock
        w.site.registry.policy.sweepInterval)))⟩ := by
  obtain ⟨n, hrun⟩ := hc.orderly.sweeps ht (.due _ hc.inUse (Nat.le_refl _))
  have hafter : Task.afterSweep (.ticker (.sleeping w.site.clock)) w.site w.condemned.length =
      .ticker (.sleeping (Ticker.next w.site.clock w.site.clock
        w.site.registry.policy.sweepInterval)) := by
    show Task.ticker (.sleeping (Ticker.next (Ticker.rhythm _ _) _ _)) = _
    rw [rhythm_self]
  rw [hafter] at hrun
  obtain ⟨-, hrests, n', hrun'⟩ := hturn
  -- the first step begins the sweep, and it goes on from there
  obtain ⟨w₁, hfirst, hmore⟩ := Option.bind_eq_some_iff.mp hrun'
  have hbegun : w₁.Calm ∧ w₁.site.registry.policy = w.site.registry.policy ∧
      (Asleep id w₁ ∨ Sweeping id w₁) :=
    ⟨hc.perform (h := .step id) True.intro hfirst, hc.orderly.sound.policy_perform hfirst,
      .inr (hc.begins ht hfirst)⟩
  have hbut : w₁.AtRestBut id := (ha.but id).step hfirst
  obtain ⟨-, hcalm', -, hend⟩ := hbut.induct (Q := fun v => v.Calm ∧
      v.site.registry.policy = w.site.registry.policy ∧ (Asleep id v ∨ Sweeping id v)) hbegun
    (fun v v' _ hq hstep => ⟨hq.1.perform (h := .step id) True.intro hstep,
      (hq.1.orderly.sound.policy_perform (h := .step id) hstep).trans hq.2.1,
      hq.1.sweeping_step (hq.2.1 ▸ hp) hq.2.2 hstep⟩) hmore
  have hstuck' : w'.step? id = none := by
    rcases hend with ⟨wake, ht', hlt⟩ | ⟨s, ht'⟩
    · exact step?_asleep hcalm'.inUse ht' hlt
    · cases hrests _ ht'
  refine run_stuck hrun' hstuck' hrun (step?_asleep (?_ : _ = false) (task?_set_self ht _ _) ?_)
  · show (w.site.sweptOver w.site.registry.cache).registry.disposed = false
    rw [hc.orderly.without.registry]
    exact hc.inUse
  · show (w.site.sweptOver w.site.registry.cache).clock < _
    rw [hc.orderly.without.clock]
    exact lt_next _ hp

/-- A ticker that sets out only takes note of its first tick. -/
theorem Calm.setsOut (hc : w.Calm) (hp : 0 < w.site.registry.policy.sweepInterval.nanos)
    (ht : w.task? id = some (.ticker .fresh)) (hturn : w.Turn id w') :
    w' = ⟨w.site, w.tasks.set id (.ticker (.sleeping (Ticker.next w.site.clock w.site.clock
      w.site.registry.policy.sweepInterval)))⟩ := by
  obtain ⟨-, hrests, n, hrun⟩ := hturn
  obtain ⟨w₁, hfirst, hmore⟩ := Option.bind_eq_some_iff.mp hrun
  have hw₁ : w.step? id = some ⟨w.site, w.tasks.set id (.ticker (.sleeping
      (Ticker.next w.site.clock w.site.clock w.site.registry.policy.sweepInterval)))⟩ :=
    step?_of_step ht rfl
  cases hw₁.symm.trans hfirst
  have hstuck := step?_asleep (w := ⟨w.site, w.tasks.set id (.ticker (.sleeping
    (Ticker.next w.site.clock w.site.clock w.site.registry.policy.sweepInterval)))⟩)
    hc.inUse (task?_set_self ht _ _) (lt_next w.site.clock hp)
  cases n with
  | zero => exact (Option.some.inj hmore).symm
  | succ n =>
      obtain ⟨w₂, hagain, -⟩ := Option.bind_eq_some_iff.mp hmore
      cases hstuck.symm.trans hagain

-- ========================================================= the timetable

theorem Sound.clock_reaches (hw : w.Sound) (hr : w.Reaches w') :
    w.site.clock ≤ w'.site.clock :=
  hw.induct (P := fun v => w.site.clock ≤ v.site.clock) hr (Nat.le_refl _)
    fun _ _ _ hv hle hp => Nat.le_trans hle (hv.clock_le hp)

/-- Time passes where it is said to, and in no other way beside the
steps. -/
theorem clock_beside (hne : ∀ id, h ≠ .step id) (hp : w.perform h = some w') :
    w'.site.clock = w.site.clock ∨ ∃ d, h = .elapse d ∧ w'.site.clock = w.site.clock + d.nanos := by
  cases h with
  | step id => exact absurd rfl (hne id)
  | elapse d =>
      cases hp
      exact .inr ⟨d, rfl, rfl⟩
  | drop id =>
      cases hp
      left
      cases ht : w.task? id with
      | none => rw [drop_of_none ht]
      | some t =>
          rw [drop_of_some ht]
          exact Task.clock_drop id t w.site
  | startSweep =>
      have hsweep : w.startSweep = w' := Option.some.inj hp
      subst hsweep
      left
      unfold World.startSweep
      simp only
      split <;> rfl
  | _ =>
      cases hp
      exact .inl rfl

section

variable {i : TaskId} {k : TickerStage}

/-- Nothing beside the steps moves a ticker that is left to itself. -/
theorem Unattended.ticker_stays (hu : w.Unattended h) (hw : w.Sound) (hne : ∀ id, h ≠ .step id)
    (hp : w.perform h = some w') (ht : w.task? i = some (.ticker k)) :
    w'.task? i = some (.ticker k) := by
  by_cases hs : h.subject? = some i
  · cases h with
    | step id => exact absurd rfl (hne id)
    | cancel j =>
        cases hs
        cases hp
        rw [task?_cancel, if_pos rfl, ht]
        rfl
    | drop j =>
        cases hs
        exact absurd ht (hu k)
    | _ => cases hs
  · exact (hw.perform_change hp).untouched hs ht

/-- A task that is there when something has happened beside the steps has
just begun, or was there; then it is as it was, or its token has been
cancelled, or it is a call that was dropped. -/
theorem Calm.before {t' : Task} (hc : w.Calm) (hu : w.Unattended h) (hne : ∀ id, h ≠ .step id)
    (hp : w.perform h = some w') (ht' : w'.task? i = some t') :
    t'.Fresh ∨ ∃ t, w.task? i = some t ∧
      (t' = t ∨ t' = t.cancel ∨ ∃ c, t = .call c ∧ t' = .call (c.drop i w.site).1) := by
  cases h with
  | evict => exact hu.elim
  | dispose => exact hu.elim
  | step id => exact absurd rfl (hne id)
  | cancel j =>
      cases hp
      rw [task?_cancel] at ht'
      split at ht'
      next hi =>
        obtain ⟨t, ht, hcancel⟩ := Option.map_eq_some_iff.mp ht'
        exact .inr ⟨t, hi ▸ ht, .inr (.inl hcancel.symm)⟩
      · exact .inr ⟨t', ht', .inl rfl⟩
  | drop j =>
      cases hp
      cases ht : w.task? j with
      | none =>
          rw [drop_of_none ht] at ht'
          exact .inr ⟨t', ht', .inl rfl⟩
      | some t =>
          rw [drop_of_some ht, task?_set ht] at ht'
          split at ht'
          next hi =>
            subst hi
            cases ht'
            rcases hc.kinds i t ht with ⟨c, rfl⟩ | ⟨k, rfl, -⟩
            · exact .inr ⟨_, ht, .inr (.inr ⟨c, rfl, rfl⟩)⟩
            · exact absurd ht (hu k)
          · exact .inr ⟨t', ht', .inl rfl⟩
  | _ =>
      -- the others at most begin a task
      cases hc.orderly.sound.perform_change hp with
      | task j t t₁ hid => cases hid
      | begun t hf htasks =>
          rw [htasks] at ht'
          split at ht'
          · cases ht'
            exact .inl hf
          · exact .inr ⟨t', ht', .inl rfl⟩
      | beside htasks => exact .inr ⟨t', (htasks i).symm.trans ht', .inl rfl⟩

/-- Nothing beside the steps makes a ticker that has set out. -/
theorem Calm.ticker_from (hc : w.Calm) (hu : w.Unattended h) (hne : ∀ id, h ≠ .step id)
    (hp : w.perform h = some w') (ht' : w'.task? i = some (.ticker k)) :
    w.task? i = some (.ticker k) ∨ k = .fresh := by
  rcases hc.before hu hne hp ht' with hf | ⟨t, ht, rfl | hcancel | ⟨c, -, hdrop⟩⟩
  · cases hf
    exact .inr rfl
  · exact .inl ht
  · cases t with
    | ticker k' =>
        cases hcancel
        exact .inl ht
    | _ => cases hcancel
  · cases hdrop

end

/-- A call is a call after its turn. -/
theorem Calm.turn_call {c : Call} (hc : w.Calm) (ha : w.AtRest) (hcall : w.call? id = some c)
    (ht : w.Turn id w') : ∃ c', w'.call? id = some c' := by
  refine (hc.turn (Q := fun v => ∃ c', v.call? id = some c') ha ht ⟨c, hcall⟩ ?_).2.2
  rintro v v' - - ⟨c₁, hc₁⟩ hp
  obtain ⟨c₂, -, hc₂⟩ := step?_call_eq_some hc₁ hp
  exact ⟨c₂, hc₂⟩

/-- Before its tick of a number the background sweep has yet to set out,
at an instant that is known, or sleeps until a tick up to that one. The
ticks come at whole intervals `p` after the start `s`. -/
inductive Awaits (s p K : Nat) (w : BusWorld) (rest : List (Happening × BusWorld)) : Prop where
  | unset (hs : w.sweepStart? rest = some s)
      (hfresh : ∀ i k, w.task? i = some (.ticker k) → k = .fresh)
  | asleep (i : TaskId) (m : Nat) (hm : 1 ≤ m) (hK : m ≤ K)
      (ht : w.task? i = some (.ticker (.sleeping (s + m * p)))) (hle : w.site.clock ≤ s + m * p)

section

variable {s p K : Nat} {rest : List (Happening × BusWorld)}

theorem sweepStart?_cons (hno : w.setsOut h = false) :
    w.sweepStart? ((h, w') :: rest) = w'.sweepStart? rest := by
  show (if w.setsOut h then _ else _) = _
  rw [hno]
  rfl

/-- The background sweep sets out now or later. -/
theorem sweepStart?_ge (hw : w.Sound) (hpath : w.Path rest) (hs : w.sweepStart? rest = some s) :
    w.site.clock ≤ s := by
  induction rest generalizing w with
  | nil => cases hs
  | cons q rest ih =>
      obtain ⟨h, w'⟩ := q
      change (if w.setsOut h then _ else _) = _ at hs
      split at hs
      · exact Nat.le_of_eq (Option.some.inj hs)
      · have hr := hpath.1.reaches
        exact Nat.le_trans (hw.clock_reaches hr) (ih (hr.sound hw) hpath.2 hs)

/-- Until the tick has come it is not past. -/
theorem Awaits.clock_le (hA : w.Awaits s p K rest) (hw : w.Sound) (hpath : w.Path rest) :
    w.site.clock ≤ s + K * p := by
  cases hA with
  | unset hs hfresh => exact Nat.le_trans (sweepStart?_ge hw hpath hs) (Nat.le_add_right _ _)
  | asleep i m hm hK ht hle =>
      exact Nat.le_trans hle (Nat.add_le_add_left (Nat.mul_le_mul_right p hK) s)

theorem Awaits.beside (hA : w.Awaits s p K ((h, w') :: rest)) (hc : w.Calm)
    (hne : ∀ id, h ≠ .step id) (hpunct : w.Punctual h) (hu : w.Unattended h)
    (hp : w.perform h = some w') : w'.Awaits s p K rest := by
  cases hA with
  | unset hs hfresh =>
      have hno : w.setsOut h = false := by
        cases h with
        | step id => exact absurd rfl (hne id)
        | _ => rfl
      rw [sweepStart?_cons hno] at hs
      refine .unset hs fun i k hk => ?_
      rcases hc.ticker_from hu hne hp hk with hold | hnew
      · exact hfresh i k hold
      · exact hnew
  | asleep i m hm hK ht hle =>
      refine .asleep i m hm hK (hu.ticker_stays hc.orderly.sound hne hp ht) ?_
      rcases clock_beside hne hp with hsame | ⟨d, rfl, hlater⟩
      · rwa [hsame]
      · rw [hlater]
        exact hpunct.2 i _ ht

theorem Awaits.call {c : Call} (hA : w.Awaits s p K ((.step id, w') :: rest)) (hc : w.Calm)
    (ha : w.AtRest) (hcall : w.call? id = some c) (hturn : w.Turn id w') :
    w'.Awaits s p K rest := by
  obtain ⟨hclock, hothers⟩ := hc.turn_aside ha hturn
  obtain ⟨c', hc'⟩ := hc.turn_call ha hcall hturn
  have htask := call?_eq_some.mp hcall
  cases hA with
  | unset hs hfresh =>
      have hno : w.setsOut (.step id) = false := by simp only [setsOut, htask]
      rw [sweepStart?_cons hno] at hs
      refine .unset hs fun i k hk => ?_
      by_cases hi : i = id
      · subst hi
        cases hk.symm.trans (call?_eq_some.mp hc')
      · exact hfresh i k ((hothers i hi).symm.trans hk)
  | asleep i m hm hK ht hle =>
      have hi : i ≠ id := by
        rintro rfl
        cases ht.symm.trans htask
      exact .asleep i m hm hK ((hothers i hi).trans ht) (hclock ▸ hle)

/-- A ticker that can go on is about to set out, or is at one of its
ticks. -/
theorem Awaits.ticker {k : TickerStage} (hA : w.Awaits s p K rest) (hc : w.Calm)
    (ht : w.task? id = some (.ticker k)) (hp : w.step? id = some w') :
    (k = .fresh ∧ w.sweepStart? rest = some s) ∨
      ∃ m, 1 ≤ m ∧ m ≤ K ∧ w.site.clock = s + m * p ∧ k = .sleeping w.site.clock := by
  cases hA with
  | unset hs hfresh => exact .inl ⟨hfresh id k ht, hs⟩
  | asleep i m hm hK hi hle =>
      cases hc.single i id _ k hi ht
      cases hi.symm.trans ht
      have hclock : w.site.clock = s + m * p := by
        refine Nat.le_antisymm hle (Nat.not_lt.mp fun hlt => ?_)
        cases (step?_asleep hc.inUse ht hlt).symm.trans hp
      exact .inr ⟨m, hm, hK, hclock, congrArg _ hclock.symm⟩

/-- The ticker goes on at the tick it sleeps until. -/
def TicksAt (T : Instant) (w : BusWorld) (h : Happening) : Prop :=
  w.site.clock = T ∧ ∃ i, h = .step i ∧ w.task? i = some (.ticker (.sleeping T))

/-- The background sweep keeps its timetable. Whatever happens before a
certain tick leaves it waiting for that tick, or is the tick. -/
theorem Awaits.occurs (hA : w.Awaits s p K ((h, w') :: rest)) (hc : w.Calm) (ha : w.AtRest)
    (hpunct : w.Punctual h) (hu : w.Unattended h)
    (hpol : w.site.registry.policy.sweepInterval.nanos = p) (hp : 0 < p) (hK : 1 ≤ K)
    (hnamed : s + K * p < Clock.horizon) (ho : w.Occurs h w') :
    w'.Awaits s p K rest ∨ w.TicksAt (s + K * p) h := by
  have hpos : 0 < w.site.registry.policy.sweepInterval.nanos := hpol.symm ▸ hp
  rcases ho.turn_or_beside with ⟨id, rfl, hturn⟩ | ⟨hne, hperform⟩
  · obtain ⟨w₁, hfirst⟩ := hturn.first
    obtain ⟨t, -, -, ht, -⟩ := step?_eq_some hfirst
    rcases hc.kinds id t ht with ⟨c, rfl⟩ | ⟨k, rfl, -⟩
    · exact .inl (hA.call hc ha (call?_eq_some.mpr ht) hturn)
    · rcases hA.ticker hc ht hfirst with ⟨rfl, hs⟩ | ⟨m, hm, hmK, hclock, rfl⟩
      · have hyes : w.setsOut (.step id) = true := by simp only [setsOut, ht]
        change (if w.setsOut (.step id) then _ else _) = _ at hs
        rw [hyes] at hs
        cases hs
        have hfirst : w.site.clock + p < Clock.horizon :=
          Nat.lt_of_le_of_lt (Nat.add_le_add_left (Nat.le_mul_of_pos_left p hK) _) hnamed
        cases hc.setsOut hpos ht hturn
        rw [next_eq _ (hpol.symm ▸ hfirst), hpol]
        refine .inl (.asleep id 1 (Nat.le_refl 1) hK ?_ (Nat.le_add_right _ _))
        rw [Nat.one_mul]
        exact task?_set_self ht _ _
      · rcases Nat.eq_or_lt_of_le hmK with rfl | hlt
        · exact .inr ⟨hclock, id, rfl, hclock ▸ ht⟩
        · have hnext : s + (m + 1) * p = w.site.clock + p := by
            rw [hclock, Nat.add_mul, Nat.one_mul, Nat.add_assoc]
          have hle' : s + (m + 1) * p ≤ s + K * p :=
            Nat.add_le_add_left (Nat.mul_le_mul_right p hlt) s
          cases hc.ticks ha hpos ht hturn
          refine .inl (.asleep id (m + 1) (Nat.le_add_left 1 m) hlt ?_ ?_)
          · rw [hnext, ← hpol, ← next_eq w.site.clock
              (hpol.symm ▸ hnext ▸ Nat.lt_of_le_of_lt hle' hnamed)]
            exact task?_set_self ht _ _
          · show (w.site.sweptOver w.site.registry.cache).clock ≤ _
            rw [hc.orderly.without.clock, hnext]
            exact Nat.le_add_right _ _
  · exact .inl (hA.beside hc hne hpunct hu hperform)

end

end World

end InstrumentBus
