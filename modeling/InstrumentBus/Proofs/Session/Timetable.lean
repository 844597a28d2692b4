/-
The timetable of a wait: at which instants it polls, and how it ends, for
any driver that others use meanwhile.

A `Vigil` is a wait with what is around it: when it begins, and in which
state it finds the driver each time it is taken up. It is taken up on the
dot, at the instant it has named (`Moment.takenUp?`), so a timer that is
set for an instant is taken to fire then. What is found by the polls is up
to the drivers, and so arbitrary.

The timetable (`Vigil.pollAt?`) has an instant for each interval, and the
deadline for the last of them; with a budget that reaches past the
horizon there is no deadline, and there are polls as long as their
instants can be named. A wait keeps to it (`Kept`) until a poll shows the
condition or fails, until the polls are used up, or until its token is
cancelled, which keeps the polls from being made that are not before it.
The first poll has nothing before it at which a cancellation could be
noticed but the beginning of the wait itself, so only a token that was
cancelled by then keeps it from being made.
-/
import InstrumentBus.Proofs.Session.Awaited
import InstrumentBus.Proofs.Session.Lifetime

namespace InstrumentBus

-- ================================================ taken up on the dot

section Portions

variable {β : Type} [RawBus β]

/-- An act that pauses, taken up at the instant it has named, on a driver
as others have left it. -/
def Moment.takenUp? (m : Moment β) (b : β) : Option (Moment β) :=
  match m.progress with
  | .done _ => none
  | .paused p => p.wake.map fun wake =>
    let now := max m.now wake
    .after now (Act.resume p now) (m.line.1, b)

/-- The `k`th portion of an act, if it has so many. `drivers k` is the
driver that it finds. -/
def Act.portion? (a : Act) (t : Instant) (s : Session) (drivers : Nat → β) :
    Nat → Option (Moment β)
  | 0 => some (a.begun t (s, drivers 0))
  | k + 1 => (a.portion? t s drivers k).bind fun m => m.takenUp? (drivers (k + 1))

end Portions

/-- A wait, with what is around it. -/
structure Vigil (β : Type) where
  condition : Condition
  pace : Pace
  began : Instant
  session : Session
  -- the driver, each time the wait is taken up
  drivers : Nat → Recorded β

namespace Vigil

variable {β : Type} (v : Vigil β)

-- ======================================================== the timetable

/-- The time between two polls. -/
def interval : Nat := v.pace.interval.nanos

variable {v} in
theorem interval_pos_of_pace {d : Duration} (h : v.pace.interval = d) (hd : 0 < d.nanos) :
    0 < v.interval := by
  unfold interval
  rwa [h]

/-- When the budget runs out. -/
def deadline : Instant := v.began + v.pace.budget.nanos

/-- The deadline can be named, so there is one. -/
def Limited : Prop := v.deadline < Clock.horizon

instance : Decidable v.Limited := inferInstanceAs (Decidable (_ < _))

/-- The number of the poll at the deadline. -/
def lastPoll : Nat := Wait.rounds v.pace.budget.nanos v.interval

/-- The instant of the `k`th poll, if there are so many. -/
def pollAt? (k : Nat) : Option Instant :=
  if v.Limited then
    if k ≤ v.lastPoll then some (min (v.began + k * v.interval) v.deadline) else none
  else if v.began + k * v.interval < Clock.horizon then some (v.began + k * v.interval)
  else none

/-- When the token is cancelled, unless that was beforehand. -/
def cancelAt : Option Instant := v.pace.cancelAfter.map fun d => v.began + d.nanos

/-- The token is cancelled before the `k`th poll, which is to be at `u`: it
has been beforehand, or it is by then and the poll is not the first. -/
def CancelledBefore (k : Nat) (u : Instant) : Prop :=
  v.pace.cancelled = true ∨ 0 < k ∧ ∃ x, v.cancelAt = some x ∧ x ≤ u

/-- The wait, once it has begun. -/
def wait : Wait where
  condition := v.condition
  interval := v.pace.interval
  budget := v.pace.budget
  deadline := Clock.after? v.began v.pace.budget
  cancelled := v.pace.cancelled
  cancelAt := v.cancelAt

/-- A wait that has a deadline, and one that has none. -/
theorem wait_deadline : v.wait.deadline = if v.Limited then some v.deadline else none := rfl

theorem expired_limited (hl : v.Limited) (u : Instant) :
    v.wait.expired u = decide (v.deadline ≤ u) := by
  unfold Wait.expired
  rw [wait_deadline, if_pos hl]

theorem expired_unlimited (hl : ¬ v.Limited) (u : Instant) : v.wait.expired u = false := by
  unfold Wait.expired
  rw [wait_deadline, if_neg hl]

theorem pollAt?_limited (hl : v.Limited) {k : Nat} {u : Instant} : v.pollAt? k = some u ↔
    k ≤ v.lastPoll ∧ u = min (v.began + k * v.interval) v.deadline := by
  unfold pollAt?
  rw [if_pos hl]
  by_cases hk : k ≤ v.lastPoll <;> simp [hk, eq_comm]

theorem pollAt?_unlimited (hl : ¬ v.Limited) (k : Nat) :
    v.pollAt? k =
      if v.began + k * v.interval < Clock.horizon then some (v.began + k * v.interval)
      else none :=
  if_neg hl

/-- Before the last poll the intervals are within the budget. -/
theorem lt_lastPoll (hi : 0 < v.interval) {k : Nat} :
    k < v.lastPoll ↔ v.began + k * v.interval < v.deadline := by
  have hlt : k < Wait.rounds v.pace.budget.nanos v.interval ↔ _ := Wait.lt_rounds hi
  unfold lastPoll deadline
  unfold Instant at *
  omega

/-- The last poll of the timetable is the one at the deadline. -/
theorem expired_iff {k : Nat} {u : Instant} (hi : 0 < v.interval) (h : v.pollAt? k = some u) :
    v.wait.expired u = true ↔ v.Limited ∧ k = v.lastPoll := by
  by_cases hl : v.Limited
  · obtain ⟨hk, hu⟩ := (v.pollAt?_limited hl).mp h
    have hlt := v.lt_lastPoll hi (k := k)
    rw [v.expired_limited hl, decide_eq_true_iff]
    simp only [hl, true_and]
    grind
  · simp [v.expired_unlimited hl, hl]

theorem pollAt?_last (hi : 0 < v.interval) (hl : v.Limited) :
    v.pollAt? v.lastPoll = some v.deadline := by
  have hlt := v.lt_lastPoll hi (k := v.lastPoll)
  refine (v.pollAt?_limited hl).mpr ⟨Nat.le_refl _, ?_⟩
  grind

/-- After a poll that is not the last the wait wants to poll at the next
instant of the timetable. -/
theorem next_eq {k : Nat} {u : Instant} (hi : 0 < v.interval) (h : v.pollAt? k = some u)
    (hk : v.Limited → k ≠ v.lastPoll) : v.wait.next u = v.pollAt? (k + 1) := by
  have hsucc : v.began + (k + 1) * v.interval = v.began + k * v.interval + v.interval :=
    Wait.add_succ_mul _ _ _
  have hnext : v.wait.next u =
      Clock.earlier (if u + v.interval < Clock.horizon then some (u + v.interval) else none)
        (if v.Limited then some v.deadline else none) := rfl
  rw [hnext]
  by_cases hl : v.Limited
  · obtain ⟨hle, hu⟩ := (v.pollAt?_limited hl).mp h
    have hbefore : k < v.lastPoll := Nat.lt_of_le_of_ne hle (hk hl)
    have hin := (v.lt_lastPoll hi).mp hbefore
    have hdeadline : v.deadline < Clock.horizon := hl
    rw [if_pos hl, (v.pollAt?_limited hl).mpr ⟨hbefore, rfl⟩]
    split
    · show some (min _ _) = _
      rw [hsucc]
      congr 2
      grind
    · -- the interval reaches past the horizon, and so past the deadline
      show some _ = _
      rw [hsucc]
      congr 1
      grind
  · rw [v.pollAt?_unlimited hl] at h ⊢
    split at h
    · cases h
      rw [if_neg hl, hsucc]
      split <;> rfl
    · cases h

/-- The timetable is in order. -/
theorem pollAt?_mono {k : Nat} {u u' : Instant} (h : v.pollAt? k = some u)
    (h' : v.pollAt? (k + 1) = some u') : u ≤ u' := by
  have hsucc : v.began + (k + 1) * v.interval = v.began + k * v.interval + v.interval :=
    Wait.add_succ_mul _ _ _
  by_cases hl : v.Limited
  · obtain ⟨-, hu⟩ := (v.pollAt?_limited hl).mp h
    obtain ⟨-, hu'⟩ := (v.pollAt?_limited hl).mp h'
    grind
  · rw [v.pollAt?_unlimited hl] at h h'
    grind

/-- It has no gaps, and nothing after the last poll. -/
theorem pollAt?_pred {k : Nat} {u' : Instant} (h : v.pollAt? (k + 1) = some u') :
    ∃ u, v.pollAt? k = some u ∧ (v.Limited → k ≠ v.lastPoll) := by
  have hsucc : v.began + (k + 1) * v.interval = v.began + k * v.interval + v.interval :=
    Wait.add_succ_mul _ _ _
  by_cases hl : v.Limited
  · obtain ⟨hk, -⟩ := (v.pollAt?_limited hl).mp h
    exact ⟨_, (v.pollAt?_limited hl).mpr ⟨by omega, rfl⟩, fun _ => by omega⟩
  · rw [v.pollAt?_unlimited hl] at h
    refine ⟨v.began + k * v.interval, ?_, fun hl' => absurd hl' hl⟩
    rw [v.pollAt?_unlimited hl]
    grind

/-- It comes to an end. -/
theorem pollAt?_late (hi : 0 < v.interval) :
    v.pollAt? (max (v.lastPoll + 1) Clock.horizon) = none := by
  unfold pollAt?
  by_cases hl : v.Limited
  · rw [if_pos hl, if_neg (by omega)]
  · rw [if_neg hl, if_neg]
    have hmany := Nat.le_mul_of_pos_right (max (v.lastPoll + 1) Clock.horizon) hi
    grind

/-- It starts where the wait begins. -/
theorem pollAt?_zero (ht : v.began < Clock.horizon) : v.pollAt? 0 = some v.began := by
  by_cases hl : v.Limited
  · refine (v.pollAt?_limited hl).mpr ⟨Nat.zero_le _, ?_⟩
    unfold deadline
    grind
  · rw [v.pollAt?_unlimited hl, Nat.zero_mul, Nat.add_zero, if_pos ht]

-- ================================================ what the wait comes to

variable [RawBus β]

/-- What the `k`th poll finds, if it is made. -/
def finding (k : Nat) : Except Failure Bool :=
  ((v.condition.poll v.session).run (v.drivers k)).1

/-- The `k`th portion of the wait. -/
def portion? (k : Nat) : Option (Moment (Recorded β)) :=
  (Act.await v.condition v.pace).portion? v.began v.session v.drivers k

/-- The `k`th poll is made, at `u`, and it is the one raw call that is made
there. -/
def Polls (k : Nat) (u : Instant) : Prop :=
  ∃ progress b', v.portion? k = some ⟨u, progress, (v.session, b')⟩ ∧
    b' = ((v.condition.poll v.session).run (v.drivers k)).2 ∧
    b'.calls = (v.drivers k).calls ++ [.serialPoll v.session.descriptor]

/-- The wait ends in its `k`th portion, at `u`. -/
def Ends (k : Nat) (u : Instant) (r : Except Failure Reply) : Prop :=
  ∃ b', v.portion? k = some ⟨u, .done r, (v.session, b')⟩

/-- What a wait is told whose token was cancelled. -/
def cancelled : Failure := .cancelled v.condition.operation

/-- The wait ends in its `k`th portion since its token is cancelled, and
makes no call there. -/
def CalledOff (k : Nat) (u : Instant) : Prop :=
  v.portion? k = some ⟨u, .done (.error v.cancelled), (v.session, v.drivers k)⟩

/-- A wait keeps to its timetable. -/
structure Kept : Prop where
  -- a poll is made as long as those before it did not show the condition
  -- and the token is not cancelled, at the instant that is in the timetable
  polls : ∀ k u, v.Polls k u ↔
    v.pollAt? k = some u ∧ (∀ j < k, v.finding j = .ok false) ∧ ¬ v.CancelledBefore k u
  -- a cancelled token keeps the next poll from being made, and ends the
  -- wait there and then
  calledOff : ∀ k u, v.CalledOff k u ↔ k = 0 ∧ v.pace.cancelled = true ∧ u = v.began ∨
    ∃ j before, k = j + 1 ∧ v.Polls j before ∧ v.finding j = .ok false ∧
      (v.Limited → j ≠ v.lastPoll) ∧ v.cancelAt = some u ∧
      ∀ after, v.pollAt? k = some after → u ≤ after
  -- nothing but a poll or a cancellation happens in a wait
  nothingElse : ∀ k m, v.portion? k = some m → (∃ u, v.Polls k u) ∨ ∃ u, v.CalledOff k u
  -- it ends with the first poll that shows the condition or fails, with the
  -- last poll, or cancelled
  ends : ∀ k u r, v.Ends k u r ↔
    v.Polls k u ∧ (v.finding k = .ok true ∧ r = .ok .nothing ∨
      (∃ f, v.finding k = .error f ∧ r = .error f) ∨
      v.finding k = .ok false ∧ v.Limited ∧ k = v.lastPoll ∧ u = v.deadline ∧
        r = .error (.waitTimeout v.condition.operation v.pace.budget)) ∨
    v.CalledOff k u ∧ r = .error v.cancelled
  -- it does come to an end, with a deadline or a token that is cancelled
  concludes : v.Limited ∨ v.cancelAt.isSome = true → ∃ k u r, v.Ends k u r

-- =========================================================== one portion

/-- What comes of a poll at `u`. -/
def outcome (u : Instant) : Except Failure Bool → Progress
  | .ok true => .done (.ok .nothing)
  | .error f => .done (.error f)
  | .ok false =>
    if v.wait.expired u then
      .done (.error (.waitTimeout v.condition.operation v.pace.budget))
    else .paused (.await v.wait (v.wait.next u) none)

/-- The wait after its `k`th poll, made at `u`. -/
def polled (k : Nat) (u : Instant) : Moment (Recorded β) :=
  ⟨u, v.outcome u (v.finding k),
    (v.session, ((v.condition.poll v.session).run (v.drivers k)).2)⟩

/-- The wait cancelled at `u` instead of its `k`th poll. -/
def stopped (k : Nat) (u : Instant) : Moment (Recorded β) :=
  ⟨u, .done (.error v.cancelled), (v.session, v.drivers k)⟩

/-- A poll is one raw call. -/
theorem calls_poll {s : Session} (hs : s.closed = false) (c : Condition) (b : Recorded β) :
    ((c.poll s).run b).2.calls = b.calls ++ [.serialPoll s.descriptor] := by
  have hpoll : ((c.poll s).run b).2 = (s.serialPoll.run b).2 := by
    cases c with
    | message => exact congrArg Prod.snd (s.run_messageAvailable b)
    | service => exact congrArg Prod.snd (s.run_serviceRequested b)
  rw [hpoll, Session.run_serialPoll, hs, if_neg Bool.false_ne_true]
  exact b.calls_note _ _ none

/-- A wait that is not cancelled polls. -/
theorem after_polled (k : Nat) (u : Instant) (h : v.pace.cancelled = false) :
    .after u (Act.pollOnce v.wait u none) (v.session, v.drivers k) = v.polled k u := by
  have hw : v.wait.cancelled = false := h
  unfold Moment.after polled finding
  rw [Act.run_pollOnce, Wait.run_poll, hw, if_neg Bool.false_ne_true]
  rcases hr : (v.condition.poll v.session).run (v.drivers k) with ⟨r, b'⟩
  have hr' : (v.wait.condition.poll v.session).run (v.drivers k) = (r, b') := hr
  rw [hr']
  cases r with
  | error f => rfl
  | ok found =>
      cases found with
      | true => rfl
      | false =>
          unfold Wait.judge outcome
          cases v.wait.expired u <;> rfl

/-- A wait that is cancelled does not. -/
theorem after_stopped (w : Wait) (k : Nat) (u : Instant) (h : w.cancelled = true)
    (hc : w.condition = v.condition) :
    .after u (Act.pollOnce w u none) (v.session, v.drivers k) = v.stopped k u := by
  unfold Moment.after stopped cancelled
  rw [Act.run_pollOnce, Wait.run_poll, h, if_pos rfl, hc]
  rfl

/-- The first portion, if the interval has a length. -/
theorem portion_zero (hi : 0 < v.interval) :
    v.portion? 0 = some (if v.pace.cancelled then v.stopped 0 v.began else v.polled 0 v.began) := by
  have hzero : v.pace.interval.isZero = false := beq_false_of_ne (Nat.ne_of_gt hi)
  have hbegin : Wait.begin? v.condition v.pace v.began = .ok v.wait := by
    unfold Wait.begin?
    rw [hzero]
    rfl
  show some (Moment.after v.began (Act.startWait v.condition v.pace v.began none) _) = _
  rw [Act.startWait_ok none hbegin]
  cases hc : v.pace.cancelled with
  | true => exact congrArg some (v.after_stopped v.wait 0 v.began hc rfl)
  | false => exact congrArg some (v.after_polled 0 v.began hc)

/-- The portion after a poll that leaves the wait pausing. -/
theorem portion_succ {k : Nat} {u : Instant} (h : v.portion? k = some (v.polled k u))
    (hf : v.finding k = .ok false) (he : v.wait.expired u = false) :
    v.portion? (k + 1) = (Clock.earlier (v.wait.next u) v.cancelAt).map fun wake =>
      .after (max u wake) (Act.pollOnce (v.wait.resumed (max u wake)) (max u wake) none)
        (v.session, v.drivers (k + 1)) := by
  have hpaused : (v.polled k u).progress = .paused (.await v.wait (v.wait.next u) none) := by
    show v.outcome u (v.finding k) = _
    rw [hf]
    show (if v.wait.expired u then _ else _) = _
    rw [he, if_neg Bool.false_ne_true]
  have hstep : v.portion? (k + 1) = (v.portion? k).bind (·.takenUp? (v.drivers (k + 1))) := rfl
  rw [hstep, h]
  show (v.polled k u).takenUp? _ = _
  unfold Moment.takenUp?
  rw [hpaused]
  rfl

/-- There is nothing after the end. -/
theorem portion_succ_of_done {k : Nat} {m : Moment (Recorded β)} {r : Except Failure Reply}
    (h : v.portion? k = some m) (hm : m.progress = .done r) : v.portion? (k + 1) = none := by
  have hstep : v.portion? (k + 1) = (v.portion? k).bind (·.takenUp? (v.drivers (k + 1))) := rfl
  rw [hstep, h]
  show m.takenUp? _ = none
  unfold Moment.takenUp?
  rw [hm]

-- ================================================ the timetable followed

/-- The `k`th poll is to be made, at `u`. -/
def Due (k : Nat) (u : Instant) : Prop :=
  v.pollAt? k = some u ∧ (∀ j < k, v.finding j = .ok false) ∧ ¬ v.CancelledBefore k u

/-- The wait pauses after its `k`th poll, which was made at `u`. -/
structure Pauses (k : Nat) (u : Instant) : Prop where
  due : v.Due k u
  unshown : v.finding k = .ok false
  more : v.Limited → k ≠ v.lastPoll

/-- The token is cancelled at `u`, in the pause before the `k`th poll. -/
def Interrupted (k : Nat) (u : Instant) : Prop :=
  k = 0 ∧ v.pace.cancelled = true ∧ u = v.began ∨
    ∃ j before, k = j + 1 ∧ v.Pauses j before ∧ v.cancelAt = some u ∧
      ∀ after, v.pollAt? k = some after → u ≤ after

variable {v} {k : Nat} {u x : Instant}

/-- A wait that pauses is not cancelled yet. -/
theorem Pauses.le (ht : v.began < Clock.horizon) (h : v.Pauses k u) (hx : v.cancelAt = some x) :
    u ≤ x := by
  cases k with
  | zero =>
      have hu := h.due.1
      rw [v.pollAt?_zero ht, Option.some.injEq] at hu
      obtain ⟨d, -, hd⟩ := Option.map_eq_some_iff.mp hx
      rw [← hu, ← hd]
      exact Nat.le_add_right _ _
  | succ k => exact Nat.le_of_not_le fun hle => h.due.2.2 (.inr ⟨Nat.succ_pos k, x, hx, hle⟩)

/-- A poll that is to be made has a pause before it. -/
theorem Due.pauses (h : v.Due (k + 1) u) : ∃ before, v.Pauses k before := by
  obtain ⟨hu, hunshown, hcancelled⟩ := h
  obtain ⟨before, hbefore, hmore⟩ := v.pollAt?_pred hu
  have hle := v.pollAt?_mono hbefore hu
  refine ⟨before, ⟨hbefore, fun j hj => hunshown j (Nat.lt_succ_of_lt hj), ?_⟩,
    hunshown k (Nat.lt_succ_self k), hmore⟩
  rintro (hc | ⟨-, x, hx, hxu⟩)
  · exact hcancelled (.inl hc)
  · exact hcancelled (.inr ⟨Nat.succ_pos k, x, hx, Nat.le_trans hxu hle⟩)

/-- A wait that pauses polls again, is interrupted, or waits for nothing. -/
theorem Pauses.next (h : v.Pauses k u) :
    (∃ after, v.Due (k + 1) after) ∨ (∃ x, v.Interrupted (k + 1) x) ∨
      v.pollAt? (k + 1) = none ∧ v.cancelAt = none := by
  have huncancelled : v.pace.cancelled ≠ true := fun hc => h.due.2.2 (.inl hc)
  have hunshown : ∀ j < k + 1, v.finding j = .ok false := by
    intro j hj
    rcases Nat.lt_succ_iff_lt_or_eq.mp hj with hj | rfl
    · exact h.due.2.1 j hj
    · exact h.unshown
  by_cases hx : ∃ x, v.cancelAt = some x ∧ ∀ after, v.pollAt? (k + 1) = some after → x ≤ after
  · obtain ⟨x, hx, hle⟩ := hx
    exact .inr (.inl ⟨x, .inr ⟨k, u, rfl, h, hx, hle⟩⟩)
  · cases hnext : v.pollAt? (k + 1) with
    | some after =>
        refine .inl ⟨after, hnext, hunshown, ?_⟩
        rintro (hc | ⟨-, x, hcancel, hle⟩)
        · exact huncancelled hc
        · refine hx ⟨x, hcancel, fun after' hafter' => ?_⟩
          rw [hnext, Option.some.injEq] at hafter'
          exact hafter' ▸ hle
    | none =>
        refine .inr (.inr ⟨rfl, ?_⟩)
        cases hcancel : v.cancelAt with
        | none => rfl
        | some x => exact absurd ⟨x, hcancel, by simp [hnext]⟩ hx

variable (hi : 0 < v.interval)
include hi

/-- The portion after a pause. -/
theorem Pauses.portion (h : v.Pauses k u) (hp : v.portion? k = some (v.polled k u)) :
    v.portion? (k + 1) = (Clock.earlier (v.pollAt? (k + 1)) v.cancelAt).map fun wake =>
      .after (max u wake) (Act.pollOnce (v.wait.resumed (max u wake)) (max u wake) none)
        (v.session, v.drivers (k + 1)) := by
  have hexpired : v.wait.expired u = false :=
    Bool.eq_false_iff.mpr fun he =>
      h.more ((v.expired_iff hi h.due.1).mp he).1 ((v.expired_iff hi h.due.1).mp he).2
  rw [v.portion_succ hp h.unshown hexpired, v.next_eq hi h.due.1 h.more]

/-- A token that is cancelled in a pause, be it at its end. -/
theorem Pauses.stopped (ht : v.began < Clock.horizon) (h : v.Pauses k u)
    (hp : v.portion? k = some (v.polled k u)) (hx : v.cancelAt = some x)
    (hle : ∀ after, v.pollAt? (k + 1) = some after → x ≤ after) :
    v.portion? (k + 1) = some (v.stopped (k + 1) x) := by
  have hwake : Clock.earlier (v.pollAt? (k + 1)) v.cancelAt = some x := by
    rw [hx]
    cases hnext : v.pollAt? (k + 1) with
    | none => rfl
    | some after => exact congrArg some (Nat.min_eq_right (hle after hnext))
  have hmax : max u x = x := Nat.max_eq_right (h.le ht hx)
  have hcancelled : (v.wait.resumed x).cancelled = true := by
    show (v.pace.cancelled || v.cancelAt.any (· ≤ x)) = true
    simp [hx]
  rw [h.portion hi hp, hwake, Option.map_some, hmax]
  exact congrArg some (v.after_stopped _ (k + 1) x hcancelled rfl)

/-- A pause that is not disturbed. -/
theorem Pauses.polled {after : Instant} (h : v.Pauses k u)
    (hp : v.portion? k = some (v.polled k u)) (hd : v.Due (k + 1) after) :
    v.portion? (k + 1) = some (v.polled (k + 1) after) := by
  have huncancelled : v.pace.cancelled = false :=
    Bool.eq_false_iff.mpr fun hc => hd.2.2 (.inl hc)
  have hlater : ∀ x, v.cancelAt = some x → after < x := fun x hx =>
    Nat.lt_of_not_le fun hle => hd.2.2 (.inr ⟨Nat.succ_pos k, x, hx, hle⟩)
  have hwake : Clock.earlier (v.pollAt? (k + 1)) v.cancelAt = some after := by
    rw [hd.1]
    cases hx : v.cancelAt with
    | none => rfl
    | some x => exact congrArg some (Nat.min_eq_left (Nat.le_of_lt (hlater x hx)))
  have hmax : max u after = after := Nat.max_eq_right (v.pollAt?_mono h.due.1 hd.1)
  have hresumed : v.wait.resumed after = v.wait := by
    have hno : (v.pace.cancelled || v.cancelAt.any (· ≤ after)) = v.pace.cancelled := by
      cases hx : v.cancelAt with
      | none => simp
      | some x => simp [Nat.not_le.mpr (hlater x hx)]
    unfold Wait.resumed
    rw [show (v.wait.cancelled || v.wait.cancelAt.any (· ≤ after)) = v.pace.cancelled from hno]
    rfl
  rw [h.portion hi hp, hwake, Option.map_some, hmax, hresumed]
  exact congrArg some (v.after_polled (k + 1) after huncancelled)

/-- A poll that is made ends the wait if it shows the condition, fails, or is
the last. -/
theorem Due.outcome_iff {r : Except Failure Reply} (h : v.Due k u) :
    v.outcome u (v.finding k) = .done r ↔
      v.finding k = .ok true ∧ r = .ok .nothing ∨ (∃ f, v.finding k = .error f ∧ r = .error f) ∨
      v.finding k = .ok false ∧ v.Limited ∧ k = v.lastPoll ∧ u = v.deadline ∧
        r = .error (.waitTimeout v.condition.operation v.pace.budget) := by
  have hlast := v.expired_iff hi h.1
  cases hf : v.finding k with
  | error f => simp [outcome, eq_comm]
  | ok found =>
      cases found with
      | true => simp [outcome, eq_comm]
      | false =>
          unfold outcome
          by_cases he : v.wait.expired u = true
          · obtain ⟨hl, hk⟩ := hlast.mp he
            have hu : u = v.deadline := by
              have hat := v.pollAt?_last hi hl
              rw [← hk, h.1] at hat
              exact Option.some.inj hat
            rw [if_pos he]
            refine ⟨fun hr => .inr (.inr ⟨rfl, hl, hk, hu, (Progress.done.inj hr).symm⟩), ?_⟩
            rintro (⟨hf', -⟩ | ⟨f, hf', -⟩ | ⟨-, -, -, -, rfl⟩)
            · cases hf'
            · cases hf'
            · rfl
          · rw [if_neg he]
            refine ⟨nofun, ?_⟩
            rintro (⟨hf', -⟩ | ⟨f, hf', -⟩ | ⟨-, hl, hk, -⟩)
            · cases hf'
            · cases hf'
            · exact absurd (hlast.mpr ⟨hl, hk⟩) he

/-- It ends the wait, or the wait pauses. -/
theorem Due.pauses_or_done (h : v.Due k u) :
    v.Pauses k u ∨ ∃ r, v.outcome u (v.finding k) = .done r := by
  have hlast := v.expired_iff hi h.1
  cases hf : v.finding k with
  | error f => exact .inr ⟨_, rfl⟩
  | ok found =>
      cases found with
      | true => exact .inr ⟨_, rfl⟩
      | false =>
          by_cases he : v.wait.expired u = true
          · exact .inr ⟨_, if_pos he⟩
          · exact .inl ⟨h, hf, fun hl hk => he (hlast.mpr ⟨hl, hk⟩)⟩

variable (ht : v.began < Clock.horizon)
include ht

/-- A poll that is to be made is made. -/
theorem Due.portion (h : v.Due k u) : v.portion? k = some (v.polled k u) := by
  induction k generalizing u with
  | zero =>
      have huncancelled : v.pace.cancelled = false :=
        Bool.eq_false_iff.mpr fun hc => h.2.2 (.inl hc)
      have hu := h.1
      rw [v.pollAt?_zero ht, Option.some.injEq] at hu
      rw [v.portion_zero hi, huncancelled, if_neg Bool.false_ne_true, hu]
  | succ k ih =>
      obtain ⟨before, hpauses⟩ := h.pauses
      exact hpauses.polled hi (ih hpauses.due) h

/-- A wait that is interrupted is called off. -/
theorem Interrupted.portion (h : v.Interrupted k u) : v.portion? k = some (v.stopped k u) := by
  rcases h with ⟨rfl, hc, rfl⟩ | ⟨j, before, rfl, hpauses, hx, hle⟩
  · rw [v.portion_zero hi, hc, if_pos rfl]
  · exact hpauses.stopped hi ht (hpauses.due.portion hi ht) hx hle

/-- And nothing else happens. -/
theorem due_or_interrupted {m : Moment (Recorded β)} (h : v.portion? k = some m) :
    (∃ u, v.Due k u ∧ m = v.polled k u) ∨ ∃ u, v.Interrupted k u ∧ m = v.stopped k u := by
  induction k generalizing m with
  | zero =>
      rw [v.portion_zero hi] at h
      cases hc : v.pace.cancelled with
      | true =>
          rw [hc, if_pos rfl, Option.some.injEq] at h
          exact .inr ⟨v.began, .inl ⟨rfl, hc, rfl⟩, h.symm⟩
      | false =>
          rw [hc, if_neg Bool.false_ne_true, Option.some.injEq] at h
          refine .inl ⟨v.began, ⟨v.pollAt?_zero ht, nofun, ?_⟩, h.symm⟩
          rintro (hc' | ⟨hpos, -⟩)
          · simp [hc] at hc'
          · exact absurd hpos (Nat.lt_irrefl 0)
  | succ k ih =>
      obtain ⟨m', hm'⟩ : ∃ m', v.portion? k = some m' := by
        cases hp : v.portion? k with
        | some m' => exact ⟨m', rfl⟩
        | none =>
            have hstep : v.portion? (k + 1) =
              (v.portion? k).bind (·.takenUp? (v.drivers (k + 1))) := rfl
            rw [hstep, hp] at h
            cases h
      rcases ih hm' with ⟨u, hdue, rfl⟩ | ⟨u, -, rfl⟩
      · rcases hdue.pauses_or_done hi with hpauses | ⟨r, hr⟩
        · rcases hpauses.next with ⟨after, hnext⟩ | ⟨x, hx⟩ | ⟨hnone, hcancel⟩
          · rw [hnext.portion hi ht, Option.some.injEq] at h
            exact .inl ⟨after, hnext, h.symm⟩
          · rw [hx.portion hi ht, Option.some.injEq] at h
            exact .inr ⟨x, hx, h.symm⟩
          · rw [hpauses.portion hi hm', hnone, hcancel] at h
            cases h
        · rw [v.portion_succ_of_done hm' hr] at h
          cases h
      · rw [v.portion_succ_of_done hm' rfl] at h
        cases h

/-- The polls that are made are those that are to be made. -/
theorem polls_iff (hs : v.session.closed = false) : v.Polls k u ↔ v.Due k u := by
  constructor
  · rintro ⟨progress, b', hp, -, hcalls⟩
    rcases due_or_interrupted hi ht hp with ⟨u', hdue, hm⟩ | ⟨u', -, hm⟩
    · cases hm
      exact hdue
    · -- a call more than there are where no poll is made
      cases hm
      exact absurd hcalls (by simp)
  · exact fun h => ⟨_, _, h.portion hi ht, rfl, calls_poll hs v.condition (v.drivers k)⟩

/-- It is called off just when it is interrupted. -/
theorem calledOff_iff (hs : v.session.closed = false) : v.CalledOff k u ↔ v.Interrupted k u := by
  constructor
  · intro hp
    rcases due_or_interrupted hi ht hp with ⟨u', -, hm⟩ | ⟨u', hx, hm⟩
    · have hcalls := calls_poll hs v.condition (v.drivers k)
      rw [← show v.drivers k = ((v.condition.poll v.session).run (v.drivers k)).2 from
        congrArg (·.line.2) hm] at hcalls
      exact absurd hcalls (by simp)
    · cases hm
      exact hx
  · exact fun h => h.portion hi ht

/-- A wait ends with a poll or cancelled. -/
theorem ends_iff (hs : v.session.closed = false) {r : Except Failure Reply} :
    v.Ends k u r ↔
      v.Polls k u ∧ v.outcome u (v.finding k) = .done r ∨
        v.CalledOff k u ∧ r = .error v.cancelled := by
  rw [polls_iff hi ht hs, calledOff_iff hi ht hs]
  constructor
  · rintro ⟨b', hp⟩
    rcases due_or_interrupted hi ht hp with ⟨u', hdue, hm⟩ | ⟨u', hx, hm⟩
    · obtain rfl : u = u' := congrArg (·.now) hm
      exact .inl ⟨hdue, (congrArg (·.progress) hm).symm⟩
    · cases hm
      exact .inr ⟨hx, rfl⟩
  · rintro (⟨hdue, hr⟩ | ⟨hx, rfl⟩)
    · refine ⟨((v.condition.poll v.session).run (v.drivers k)).2, ?_⟩
      rw [hdue.portion hi ht]
      unfold polled
      rw [hr]
    · exact ⟨_, hx.portion hi ht⟩

/-- Unless it comes to an end before, there is a poll at every instant of the
timetable. -/
theorem over_or_due (hs : v.session.closed = false) (hover : v.Limited ∨ v.cancelAt.isSome = true)
    (k : Nat) : (∃ j u r, v.Ends j u r) ∨ ∃ u, v.Due k u := by
  have hends := fun {k u r} => ends_iff hi ht hs (k := k) (u := u) (r := r)
  induction k with
  | zero =>
      cases hc : v.pace.cancelled with
      | true =>
          have hoff := (calledOff_iff hi ht hs (k := 0) (u := v.began)).mpr (.inl ⟨rfl, hc, rfl⟩)
          exact .inl ⟨0, v.began, _, hends.mpr (.inr ⟨hoff, rfl⟩)⟩
      | false =>
          refine .inr ⟨v.began, v.pollAt?_zero ht, nofun, ?_⟩
          rintro (hc' | ⟨hpos, -⟩)
          · simp [hc] at hc'
          · exact absurd hpos (Nat.lt_irrefl 0)
  | succ k ih =>
      rcases ih with hover | ⟨u, hdue⟩
      · exact .inl hover
      · rcases hdue.pauses_or_done hi with hpauses | ⟨r, hr⟩
        · rcases hpauses.next with hnext | ⟨x, hx⟩ | ⟨hnone, hcancel⟩
          · exact .inr hnext
          · have hoff := (calledOff_iff hi ht hs).mpr hx
            exact .inl ⟨k + 1, x, _, hends.mpr (.inr ⟨hoff, rfl⟩)⟩
          · -- nothing to wait for, although there is a deadline or a token
            rcases hover with hl | hsome
            · obtain ⟨hle, -⟩ := (v.pollAt?_limited hl).mp hdue.1
              have hbefore : k + 1 ≤ v.lastPoll := Nat.lt_of_le_of_ne hle (hpauses.more hl)
              have hsome := (v.pollAt?_limited hl).mpr ⟨hbefore, rfl⟩
              rw [hnone] at hsome
              cases hsome
            · rw [hcancel] at hsome
              cases hsome
        · exact .inl ⟨k, u, r, hends.mpr (.inl ⟨(polls_iff hi ht hs).mpr hdue, hr⟩)⟩

end Vigil

namespace Vigil

variable {β : Type} [RawBus β] {v : Vigil β}

/-- A wait whose session is open and whose interval has a length keeps to its
timetable, whatever its budget, its driver and its token. -/
theorem wait_keeps_timetable (hs : v.session.closed = false) (hi : 0 < v.interval)
    (ht : v.began < Clock.horizon) : v.Kept where
  polls k u := polls_iff hi ht hs
  calledOff k u := by
    rw [calledOff_iff hi ht hs]
    unfold Interrupted
    refine or_congr_right (exists_congr fun j => exists_congr fun before => ?_)
    rw [polls_iff hi ht hs]
    exact ⟨fun ⟨hk, hp, hx, hle⟩ => ⟨hk, hp.due, hp.unshown, hp.more, hx, hle⟩,
      fun ⟨hk, hdue, hf, hmore, hx, hle⟩ => ⟨hk, ⟨hdue, hf, hmore⟩, hx, hle⟩⟩
  nothingElse k m h := by
    rcases due_or_interrupted hi ht h with ⟨u, hdue, -⟩ | ⟨u, hx, -⟩
    · exact .inl ⟨u, (polls_iff hi ht hs).mpr hdue⟩
    · exact .inr ⟨u, (calledOff_iff hi ht hs).mpr hx⟩
  ends k u r := by
    rw [ends_iff hi ht hs]
    refine or_congr_left (and_congr_right fun hp => ?_)
    exact ((polls_iff hi ht hs).mp hp).outcome_iff hi
  concludes hover := by
    -- the timetable has no instant for a poll of so large a number
    rcases over_or_due hi ht hs hover (max (v.lastPoll + 1) Clock.horizon) with hover | ⟨u, hdue⟩
    · exact hover
    · exact absurd hdue.1 (by rw [v.pollAt?_late hi]; nofun)

/-- A wait for service that is never requested, with a budget of two and a
half intervals; and one whose token is cancelled just when the second poll is
due. -/
def vain (cancelAfter : Option Duration) : Vigil Scripted where
  condition := .service
  pace := ⟨.ofMillis 10, .ofMillis 25, false, cancelAfter⟩
  began := 7 * Duration.perMilli
  session := Session.benched .lf
  drivers _ := .fresh (.ofReplies [.standard])

theorem finding_vain (c : Option Duration) (k : Nat) : (vain c).finding k = .ok false := by
  dsimp only [finding, vain, Condition.poll]
  rw [Session.run_serviceRequested, Session.run_serialPoll]
  rfl

theorem wait_keeps_timetable_vain :
    (Session.benched .lf).closed = false ∧ 0 < (vain none).interval ∧
      (vain none).began < Clock.horizon ∧
      (vain none).Polls 2 (27 * Duration.perMilli) ∧
      (vain none).Ends 3 (32 * Duration.perMilli)
        (.error (.waitTimeout "WaitForServiceRequest" (.ofMillis 25))) ∧
      (vain (some (.ofMillis 10))).CalledOff 1 (17 * Duration.perMilli) := by
  have hpositive : ∀ c, 0 < (vain c).interval :=
    fun c => interval_pos_of_pace (v := vain c) rfl
      (show 0 < (Duration.ofMillis 10).nanos by decide)
  have hbegan : ∀ c, (vain c).began < Clock.horizon :=
    fun _ => show 7 * Duration.perMilli < Clock.horizon by decide
  have hkept := fun c => wait_keeps_timetable (v := vain c) rfl (hpositive c) (hbegan c)
  have hpolls : ∀ k u, (vain none).pollAt? k = some u → (vain none).Polls k u := fun k u hu =>
    ((hkept none).polls k u).mpr ⟨hu, fun j _ => finding_vain none j, by
      rintro (hc | ⟨-, x, hx, -⟩)
      · cases hc
      · cases hx⟩
  refine ⟨rfl, hpositive none, hbegan none, hpolls 2 _ (by decide), ?_, ?_⟩
  · exact ((hkept none).ends 3 _ _).mpr (.inl ⟨hpolls 3 _ (by decide),
      .inr (.inr ⟨finding_vain none 3, by decide, by decide, by decide, rfl⟩)⟩)
  · have hfirst : (vain (some (.ofMillis 10))).Polls 0 (7 * Duration.perMilli) :=
      ((hkept _).polls 0 _).mpr ⟨by decide, nofun, by
        rintro (hc | ⟨hpos, -⟩)
        · cases hc
        · cases hpos⟩
    refine ((hkept _).calledOff 1 _).mpr (.inr ⟨0, _, rfl, hfirst, finding_vain _ 0,
      fun _ => by decide, rfl, fun after hafter => ?_⟩)
    rw [show (vain (some (.ofMillis 10))).pollAt? 1 = some (17 * Duration.perMilli) by decide]
      at hafter
    cases hafter
    exact Nat.le_refl _

end Vigil

end InstrumentBus
