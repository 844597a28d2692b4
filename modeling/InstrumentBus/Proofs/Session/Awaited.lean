/-
The query that waits for its answer, from the first byte written to the
last byte read.

A command is written, the instrument is polled until it shows that it has
a message, and the message is read. An instrument with a poll delay hides
its answer for so many polls, so what comes of the query is decided by how
many polls there are within the budget: one at once, and one for each
interval that the budget has or begins (`Wait.rounds`), the last of them
at the deadline.

`Wait.GoesOn` says that a wait polls at the instants of a sequence, up to
one of them; how it came by them, with a deadline or without, is all that
the two kinds of budget differ in. A budget that reaches past the clock's
horizon is none. Then the query can only fail to see its answer where its
polls themselves would reach past the horizon, and in that case it waits
forever.
-/
import InstrumentBus.Proofs.Session.Alone
import InstrumentBus.Proofs.Session.Meeting

namespace InstrumentBus

-- ====================================================== one poll

namespace Session.Meets

variable {s : Session} {b : Recorded Simulated} {a : Address} {i : Instrument} {w : Wait}
  {now : Instant}

/-- A poll of a wait for a message, and what the wait makes of it. -/
theorem run_poll (h : s.Meets b a i) (hw : w.condition = .message) (hc : w.cancelled = false)
    (now : Instant) :
    ∃ b', (w.poll s now).run b = (w.judge now (.ok i.shown.messageAvailable), b') ∧
      s.Meets b' a i.polled ∧ b'.polls s.descriptor = b.polls s.descriptor + 1 := by
  obtain ⟨b', hpoll, hmeets, hpolls⟩ := h.messageAvailable
  refine ⟨b', ?_, hmeets, hpolls⟩
  rw [Wait.run_poll, hc, hw]
  show (w.judge now (s.messageAvailable.run b).1, (s.messageAvailable.run b).2) = _
  rw [hpoll]

/-- A poll that shows the message, which is then read. -/
theorem poll_shown (h : s.Meets b a i) (hm : i.status.messageAvailable = false)
    (ho : i.output ≠ []) (hp : i.pollsRemaining = 0) (hw : w.condition = .message)
    (hc : w.cancelled = false) (now : Instant) :
    ∃ b' j, (Act.pollOnce w now (some .text)).run (s, b) =
        (.done (.ok (.value (.text (textOf i.output)))), (s, b')) ∧
      s.Meets b' a j ∧ j.output = [] ∧
      b'.polls s.descriptor = b.polls s.descriptor + 1 := by
  obtain ⟨b₁, hpoll, hmeets₁, hpolls₁⟩ := h.run_poll hw hc now
  obtain ⟨b₂, hread, hmeets₂, hpolls₂⟩ := hmeets₁.readAs
  refine ⟨b₂, _, ?_, hmeets₂, rfl, hpolls₂.trans hpolls₁⟩
  have hshown : i.shown.messageAvailable = true := by
    rw [Instrument.shown_messageAvailable hm ho, hp]
    rfl
  rw [Act.run_pollOnce, hpoll, hshown]
  show (Act.exchange fun s => .value <$> s.readAs .text).run (s, b₁) = _
  rw [Act.run_exchange, Exchange.run_map, hread]
  rfl

/-- A poll that does not show it. -/
theorem poll_hidden (h : s.Meets b a i) (hm : i.status.messageAvailable = false)
    (ho : i.output ≠ []) (hp : i.pollsRemaining ≠ 0) (hw : w.condition = .message)
    (hc : w.cancelled = false) (now : Instant) :
    ∃ b', (Act.pollOnce w now (some .text)).run (s, b) =
        (if w.expired now then .done (.error (.waitTimeout "WaitForMessage" w.budget))
          else .paused (.await w (w.next now) (some .text)), (s, b')) ∧
      s.Meets b' a i.polled ∧ b'.polls s.descriptor = b.polls s.descriptor + 1 := by
  obtain ⟨b₁, hpoll, hmeets₁, hpolls₁⟩ := h.run_poll hw hc now
  refine ⟨b₁, ?_, hmeets₁, hpolls₁⟩
  have hshown : i.shown.messageAvailable = false := by
    rw [Instrument.shown_messageAvailable hm ho]
    exact beq_eq_false_iff_ne.mpr hp
  rw [Act.run_pollOnce, hpoll, hshown]
  unfold Wait.judge
  cases w.expired now with
  | true =>
      show (Progress.done (.error (.waitTimeout w.condition.operation w.budget)), (s, b₁)) = _
      rw [hw]
      rfl
  | false => rfl

end Session.Meets

-- ==================================================== one poll after another

namespace Wait

/-- The instants of a sequence are those at which a wait polls, up to the
one of a number, and nobody cancels it. -/
structure GoesOn (w : Wait) (at_ : Nat → Instant) (c : Nat) : Prop where
  message : w.condition = .message
  uncancelled : w.cancelled = false
  forever : w.cancelAt = none
  onward : ∀ k < c, w.expired (at_ k) = false ∧ w.next (at_ k) = some (at_ (k + 1))
  full : ∀ k < c, max (at_ k) (Clock.tick (at_ (k + 1))) = at_ (k + 1)

/-- A wait that is about to poll, and to read what there is. -/
def moment {β : Type} [RawBus β] (w : Wait) (now : Instant) (l : Line β) : Moment β :=
  .after now (Act.pollOnce w now (some .text)) l

namespace GoesOn

variable {w : Wait} {at_ : Nat → Instant} {c k : Nat} {s : Session} {b : Recorded Simulated}
  {a : Address} {i : Instrument}

/-- A poll that does not show the message is followed by the next. -/
theorem next (hg : w.GoesOn at_ c) (hk : k < c) (h : s.Meets b a i)
    (hm : i.status.messageAvailable = false) (ho : i.output ≠ []) (hp : i.pollsRemaining ≠ 0) :
    ∃ b', (w.moment (at_ k) (s, b)).next? = some (w.moment (at_ (k + 1)) (s, b')) ∧
      s.Meets b' a i.polled ∧ b'.polls s.descriptor = b.polls s.descriptor + 1 := by
  obtain ⟨b', hpoll, hmeets, hpolls⟩ := h.poll_hidden hm ho hp hg.message hg.uncancelled
    (at_ k)
  refine ⟨b', ?_, hmeets, hpolls⟩
  obtain ⟨hexpired, hnext⟩ := hg.onward k hk
  rw [hexpired, hnext] at hpoll
  have hresumed : w.resumed (at_ (k + 1)) = w := by
    have hno : (w.cancelled || w.cancelAt.any (· ≤ at_ (k + 1))) = w.cancelled := by
      rw [hg.forever]
      exact Bool.or_false _
    unfold resumed
    rw [hno]
  unfold moment Moment.after
  rw [hpoll]
  show (Clock.earlier (some (at_ (k + 1))) w.cancelAt).map _ = _
  rw [hg.forever]
  show some (Moment.after (max (at_ k) (Clock.tick (at_ (k + 1)))) _ (s, b')) = _
  rw [hg.full k hk]
  show some (Moment.after _ (Act.pollOnce (w.resumed (at_ (k + 1))) _ _) _) = _
  rw [hresumed]
  rfl

/-- An answer that is shown in time is read. -/
theorem answered (hg : w.GoesOn at_ c) {m : Nat} (hmc : k + m ≤ c) (h : s.Meets b a i)
    (hm : i.status.messageAvailable = false) (ho : i.output ≠ []) (hp : i.pollsRemaining = m) :
    ∃ b' j, (w.moment (at_ k) (s, b)).Ends (at_ (k + m))
        (.ok (.value (.text (Session.textOf i.output)))) (s, b') ∧
      s.Meets b' a j ∧ j.output = [] ∧
      b'.polls s.descriptor = b.polls s.descriptor + (m + 1) := by
  induction m generalizing k b i with
  | zero =>
      obtain ⟨b', j, hpoll, hmeets, hj, hpolls⟩ := h.poll_shown hm ho hp hg.message
        hg.uncancelled (at_ k)
      refine ⟨b', j, ?_, hmeets, hj, hpolls⟩
      unfold moment Moment.after
      rw [hpoll]
      exact .here _
  | succ m ih =>
      obtain ⟨b₁, hnext, hmeets₁, hpolls₁⟩ := hg.next (k := k) (by omega) h hm ho (by omega)
      have hremaining : i.polled.pollsRemaining = m := by
        show i.pollsRemaining - 1 = m
        rw [hp]
        rfl
      obtain ⟨b', j, hend, hmeets, hj, hpolls⟩ :=
        ih (k := k + 1) (by omega) hmeets₁ (Instrument.mav_polled hm) ho hremaining
      refine ⟨b', j, .next hnext ?_, hmeets, hj, by omega⟩
      rw [show k + (m + 1) = k + 1 + m by omega]
      exact hend

/-- Up to the last of the polls an answer may stay hidden. -/
theorem outlasted (hg : w.GoesOn at_ c) {n : Nat} (hkc : k + n = c) (h : s.Meets b a i)
    (hm : i.status.messageAvailable = false) (ho : i.output ≠ []) (hp : n < i.pollsRemaining) :
    ∃ b' j, (w.moment (at_ k) (s, b)).Leads ⟨at_ c,
        if w.expired (at_ c) then .done (.error (.waitTimeout "WaitForMessage" w.budget))
          else .paused (.await w (w.next (at_ c)) (some .text)), (s, b')⟩ ∧
      s.Meets b' a j ∧ j.output = i.output ∧
      b'.polls s.descriptor = b.polls s.descriptor + (n + 1) := by
  induction n generalizing k b i with
  | zero =>
      cases hkc
      obtain ⟨b', hpoll, hmeets, hpolls⟩ := h.poll_hidden hm ho (by omega) hg.message
        hg.uncancelled (at_ k)
      refine ⟨b', i.polled, ?_, hmeets, rfl, hpolls⟩
      unfold moment Moment.after
      rw [hpoll]
      exact .here _
  | succ n ih =>
      obtain ⟨b₁, hnext, hmeets₁, hpolls₁⟩ := hg.next (k := k) (by omega) h hm ho (by omega)
      have hremaining : n < i.polled.pollsRemaining := by
        show n < i.pollsRemaining - 1
        omega
      obtain ⟨b', j, hlast, hmeets, hj, hpolls⟩ :=
        ih (k := k + 1) (by omega) hmeets₁ (Instrument.mav_polled hm) ho hremaining
      exact ⟨b', j, .next hnext hlast, hmeets, hj, by omega⟩

end GoesOn

end Wait

-- ========================================================= the schedule

namespace Wait

/-- How many intervals a budget has or begins. -/
def rounds (budget interval : Nat) : Nat := (budget + interval - 1) / interval

theorem lt_rounds {budget interval k : Nat} (hn : 0 < interval) :
    k < rounds budget interval ↔ k * interval < budget := by
  unfold rounds
  rw [Nat.lt_iff_add_one_le, Nat.le_div_iff_mul_le hn, Nat.add_mul, Nat.one_mul]
  omega

/-- A timer that is set to a full millisecond fires on time. -/
theorem tick_millis (t : Nat) : Clock.tick (t * Duration.perMilli) = t * Duration.perMilli := by
  unfold Clock.tick
  have hdiv : (t * Duration.perMilli + (Duration.perMilli - 1)) / Duration.perMilli = t := by
    unfold Duration.perMilli
    omega
  rw [hdiv]

/-- Who sleeps until a full millisecond to come is woken then. -/
theorem max_tick_millis {t u : Nat} (h : t ≤ u) :
    max (t * Duration.perMilli) (Clock.tick (u * Duration.perMilli)) = u * Duration.perMilli := by
  rw [tick_millis]
  exact Nat.max_eq_right (Nat.mul_le_mul_right _ h)

/-- Full milliseconds after a full millisecond. -/
theorem after?_millis (t n : Nat) :
    Clock.after? (t * Duration.perMilli) (.ofMillis n) =
      if (t + n) * Duration.perMilli < Clock.horizon then some ((t + n) * Duration.perMilli)
      else none := by
  unfold Clock.after? Duration.ofMillis
  rw [← Nat.add_mul]

/-- One interval more. -/
theorem add_succ_mul (t j n : Nat) : t + (j + 1) * n = t + j * n + n := by
  rw [Nat.succ_mul, Nat.add_assoc]

/-- A wait for a message that nobody cancels, begun at a full millisecond
with an interval of full milliseconds. -/
structure Begins (w : Wait) (t n : Nat) (budget : Duration) : Prop where
  message : w.condition = .message
  uncancelled : w.cancelled = false
  forever : w.cancelAt = none
  interval : w.interval = .ofMillis n
  budgeted : w.budget = budget
  deadline : w.deadline = Clock.after? (t * Duration.perMilli) budget

namespace Begins

variable {w : Wait} {t n k : Nat} {budget : Duration}

/-- With a deadline it polls at the intervals and, for the last time, at
the deadline. -/
theorem bounded (h : w.Begins t n (.ofMillis k)) (hn : 0 < n)
    (hk : (t + k) * Duration.perMilli < Clock.horizon) :
    w.GoesOn (fun j => min (t + j * n) (t + k) * Duration.perMilli) (rounds k n) ∧
      w.expired ((t + k) * Duration.perMilli) = true := by
  have hdeadline : w.deadline = some ((t + k) * Duration.perMilli) := by
    rw [h.deadline, after?_millis, if_pos hk]
  refine ⟨⟨h.message, h.uncancelled, h.forever, fun j hj => ⟨?_, ?_⟩, fun j hj => ?_⟩, ?_⟩
  · have hlt := (lt_rounds hn).mp hj
    unfold expired
    rw [hdeadline]
    refine decide_eq_false (Nat.not_le.mpr (Nat.mul_lt_mul_of_pos_right ?_ (by decide)))
    omega
  · have hlt := (lt_rounds hn).mp hj
    have hnow : min (t + j * n) (t + k) = t + j * n := by omega
    unfold next
    simp only [hdeadline, h.interval, hnow, add_succ_mul, after?_millis]
    by_cases hin : (t + j * n + n) * Duration.perMilli < Clock.horizon
    · rw [if_pos hin]
      show some (min _ _) = _
      rw [Nat.mul_min_mul_right]
    · -- the interval reaches past the horizon, and so past the deadline
      rw [if_neg hin]
      show some _ = _
      have hlate : t + k ≤ t + j * n + n := by
        refine Nat.le_of_mul_le_mul_right ?_ (show 0 < Duration.perMilli by decide)
        omega
      rw [Nat.min_eq_right hlate]
  · refine max_tick_millis ?_
    rw [add_succ_mul]
    omega
  · unfold expired
    rw [hdeadline]
    exact decide_eq_true (Nat.le_refl _)

/-- Without one it polls at the intervals, as long as these can be named. -/
theorem unbounded (h : w.Begins t n budget)
    (hb : Clock.horizon ≤ t * Duration.perMilli + budget.nanos) {c : Nat}
    (hc : (t + c * n) * Duration.perMilli < Clock.horizon) :
    w.GoesOn (fun j => (t + j * n) * Duration.perMilli) c ∧
      (∀ now, w.expired now = false) ∧
      (Clock.horizon ≤ (t + (c + 1) * n) * Duration.perMilli →
        w.next ((t + c * n) * Duration.perMilli) = none) := by
  have hdeadline : w.deadline = none := by
    rw [h.deadline]
    unfold Clock.after?
    rw [if_neg (Nat.not_lt.mpr hb)]
  have hexpired : ∀ now, w.expired now = false := by
    intro now
    unfold expired
    rw [hdeadline]
  have hnext : ∀ j, w.next ((t + j * n) * Duration.perMilli) =
      if (t + (j + 1) * n) * Duration.perMilli < Clock.horizon then
        some ((t + (j + 1) * n) * Duration.perMilli) else none := by
    intro j
    unfold next
    simp only [hdeadline, h.interval, add_succ_mul, after?_millis]
    split <;> rfl
  refine ⟨⟨h.message, h.uncancelled, h.forever, fun j hj => ⟨hexpired _, ?_⟩, fun j hj => ?_⟩,
    hexpired, fun hpast => ?_⟩
  · refine (hnext j).trans (if_pos (Nat.lt_of_le_of_lt ?_ hc))
    refine Nat.mul_le_mul_right _ (Nat.add_le_add_left ?_ t)
    exact Nat.mul_le_mul_right n hj
  · refine max_tick_millis ?_
    rw [add_succ_mul]
    exact Nat.le_add_right _ n
  · rw [hnext, if_neg (Nat.not_lt.mpr hpast)]

end Begins

end Wait

-- ============================================================ the query

namespace Act

variable {s : Session} {b : Recorded Simulated} {a : Address} {i : Instrument}
  {command response : String} {t n : Nat} {budget : Duration}

/-- An instant, in milliseconds. -/
abbrev at_ (millis : Nat) : Instant := millis * Duration.perMilli

/-- The act ends well after so many polls, with what a query would have
been answered on the same line, and the queue of the instrument is
empty. -/
def Answers (m : Moment (Recorded Simulated)) (s : Session) (b : Recorded Simulated) (a : Address)
    (command : String) (polls : Nat) (now : Instant) : Prop :=
  ∃ b' v j, m.Ends now (.ok (.value v)) (s, b') ∧
    ((s.query command .text).run b).1 = .ok v ∧
    b'.polls s.descriptor = b.polls s.descriptor + polls ∧
    b'.bus.instrument? a = some j ∧ j.output = []

/-- The act gives up after so many polls. The whole response is in the
queue of the instrument, and a read that follows returns what a query would
have been answered. -/
def GivesUp (m : Moment (Recorded Simulated)) (s : Session) (b : Recorded Simulated) (a : Address)
    (command response : String) (budget : Duration) (polls : Nat) (now : Instant) : Prop :=
  ∃ b' text j, m.Ends now (.error (.waitTimeout "WaitForMessage" budget)) (s, b') ∧
    b'.polls s.descriptor = b.polls s.descriptor + polls ∧
    b'.bus.instrument? a = some j ∧
    j.output = Text.Unicode.encode response.toList ++ [10] ∧
    (s.read.run b').1 = .ok text ∧ ((s.query command .text).run b).1 = .ok (.text text)

/-- A wait that may begin polls at once. -/
theorem startWait_ok {β : Type} [RawBus β] {c : Condition} {p : Pace} {now : Instant} {w : Wait}
    (thenRead : Option ResponseKind) (h : Wait.begin? c p now = .ok w) :
    (startWait c p now thenRead : StateM (Line β) Progress) = pollOnce w now thenRead := by
  unfold startWait
  rw [h]

/-- The query that waits for its answer is a wait, once its command has been
written. -/
theorem begun_queryAsync {b' : Recorded Simulated} (hn : 0 < n)
    (h : (s.write command).run b = (.ok (), b')) (t : Nat) (budget : Duration) :
    ∃ w : Wait, w.Begins t n budget ∧
      (Act.queryAsync command .text ⟨.ofMillis n, budget, false, none⟩).begun (at_ t) (s, b) =
        w.moment (at_ t) (s, b') := by
  refine ⟨⟨.message, .ofMillis n, budget, Clock.after? (at_ t) budget, false, none⟩,
    ⟨rfl, rfl, rfl, rfl, rfl, rfl⟩, ?_⟩
  have hinterval : (Duration.ofMillis n).isZero = false := by
    show (n * Duration.perMilli == 0) = false
    refine beq_eq_false_iff_ne.mpr (Nat.ne_of_gt (Nat.mul_pos hn (by decide)))
  have hwait : Wait.begin? .message ⟨.ofMillis n, budget, false, none⟩ (at_ t) =
      .ok ⟨.message, .ofMillis n, budget, Clock.after? (at_ t) budget, false, none⟩ := by
    unfold Wait.begin?
    rw [hinterval]
    rfl
  have hwrite : (exchange fun s => (fun _ => .nothing) <$> s.write command).run (s, b) =
      (.done (.ok .nothing), (s, b')) := by
    rw [run_exchange, Exchange.run_map, h]
    rfl
  have hstart : (start (.queryAsync command .text ⟨.ofMillis n, budget, false, none⟩)
      (at_ t)).run (s, b) = (startWait .message ⟨.ofMillis n, budget, false, none⟩ (at_ t)
        (some .text)).run (s, b') := stateful_bind _ hwrite
  unfold begun Wait.moment Moment.after
  rw [hstart, startWait_ok _ hwait]

/-- The last interval that ends before the horizon. -/
theorem exists_last {d : Nat} (ht : at_ t < Clock.horizon)
    (hd : Clock.horizon ≤ at_ (t + d * n)) :
    ∃ c, c < d ∧ at_ (t + c * n) < Clock.horizon ∧ Clock.horizon ≤ at_ (t + (c + 1) * n) := by
  induction d with
  | zero =>
      rw [Nat.zero_mul, Nat.add_zero] at hd
      exact absurd ht (Nat.not_lt.mpr hd)
  | succ d ih =>
      by_cases hlast : at_ (t + d * n) < Clock.horizon
      · exact ⟨d, Nat.lt_succ_self d, hlast, hd⟩
      · obtain ⟨c, hc, hbefore, hpast⟩ := ih (Nat.le_of_not_lt hlast)
        exact ⟨c, Nat.lt_succ_of_lt hc, hbefore, hpast⟩

/-- A command has been written, the answer to it is in the queue of the
instrument, and so many polls will not show it. -/
structure Written (s : Session) (b b' : Recorded Simulated) (a : Address)
    (command response : String) (i : Instrument) (hidden : Nat) : Prop where
  meets : s.Meets b' a i
  extra : i.status.messageAvailable = false
  output : i.output = Text.Unicode.encode response.toList ++ [10]
  remaining : i.pollsRemaining = hidden
  polls : b'.polls s.descriptor = b.polls s.descriptor
  query : ((s.query command .text).run b).1 = .ok (.text (Session.textOf i.output))

theorem run_written (h : s.Meets b a i) (ho : i.output = [])
    (hm : i.status.messageAvailable = false) (hne : command ≠ "")
    (hk : Keyed.get? i.responses
      (Instrument.commandOf (Text.Latin.encode command.toList)) = some response) :
    ∃ b' j, (s.write command).run b = (.ok (), b') ∧
      Written s b b' a command response j i.pollDelay := by
  have hanswer : i.answer? (s.payload command) = some response := by
    unfold Instrument.answer? Session.payload
    rw [Instrument.commandOf_append]
    exact hk
  obtain ⟨b', hwrite, hmeets, hpolls⟩ := h.write hne
  rw [Instrument.receive_of_answer hanswer] at hmeets
  obtain ⟨b₂, hread, -⟩ := hmeets.readAs
  refine ⟨b', _, hwrite, hmeets, hm, ?_, rfl, hpolls, ?_⟩
  · show i.output ++ _ = _
    rw [ho, List.nil_append]
  · rw [Session.run_query_ok hwrite, hread]

namespace Written

variable {b' : Recorded Simulated} {w : Wait} {f : Nat → Instant} {c k d : Nat}

theorem output_ne (hw : Written s b b' a command response i d) : i.output ≠ [] := by
  rw [hw.output]
  exact List.append_ne_nil_of_right_ne_nil _ (List.cons_ne_nil _ _)

/-- The polls go on long enough. -/
theorem answers (hw : Written s b b' a command response i d) (hg : w.GoesOn f c) (hd : d ≤ c) :
    Answers (w.moment (f 0) (s, b')) s b a command (d + 1) (f d) := by
  obtain ⟨b₂, j, hend, hmeets, hj, hpolls⟩ := hg.answered (k := 0) (m := d)
    (by rwa [Nat.zero_add]) hw.meets hw.extra hw.output_ne hw.remaining
  rw [Nat.zero_add] at hend
  exact ⟨b₂, _, j, hend, hw.query, by rw [hpolls, hw.polls], hmeets.there, hj⟩

/-- The polls do not go on long enough. -/
theorem outlasts (hw : Written s b b' a command response i d) (hg : w.GoesOn f c) (hd : c < d) :
    ∃ b₂ j, (w.moment (f 0) (s, b')).Leads ⟨f c,
        if w.expired (f c) then .done (.error (.waitTimeout "WaitForMessage" w.budget))
          else .paused (.await w (w.next (f c)) (some .text)), (s, b₂)⟩ ∧
      s.Meets b₂ a j ∧ j.output = i.output ∧
      b₂.polls s.descriptor = b.polls s.descriptor + (c + 1) := by
  obtain ⟨b₂, j, hleads, hmeets, hj, hpolls⟩ := hg.outlasted (k := 0) (n := c) (Nat.zero_add c)
    hw.meets hw.extra hw.output_ne (by rwa [hw.remaining])
  exact ⟨b₂, j, hleads, hmeets, hj, by rw [hpolls, hw.polls]⟩

/-- With a budget. -/
theorem bounded (hw : Written s b b' a command response i d) (hb : w.Begins t n (.ofMillis k))
    (hn : 0 < n) (hk : at_ (t + k) < Clock.horizon) :
    (d ≤ Wait.rounds k n → Answers (w.moment (at_ t) (s, b')) s b a command (d + 1)
      (at_ (min (t + d * n) (t + k)))) ∧
    (Wait.rounds k n < d → GivesUp (w.moment (at_ t) (s, b')) s b a command response
      (.ofMillis k) (Wait.rounds k n + 1) (at_ (t + k))) := by
  obtain ⟨hg, hexpired⟩ := hb.bounded hn hk
  have hfirst : min (t + 0 * n) (t + k) = t := by
    rw [Nat.zero_mul, Nat.add_zero, Nat.min_eq_left (Nat.le_add_right t k)]
  have hlast : min (t + Wait.rounds k n * n) (t + k) = t + k := by
    have hover := mt (Wait.lt_rounds hn).mpr (Nat.lt_irrefl (Wait.rounds k n))
    exact Nat.min_eq_right (Nat.add_le_add_left (Nat.le_of_not_lt hover) t)
  refine ⟨fun hd => ?_, fun hd => ?_⟩
  · have hanswers := hw.answers hg hd
    rwa [hfirst] at hanswers
  · obtain ⟨b₂, j, hleads, hmeets, hj, hpolls⟩ := hw.outlasts hg hd
    rw [hfirst, hlast, hexpired, hb.budgeted] at hleads
    obtain ⟨b₃, hread, -⟩ := hmeets.read
    refine ⟨b₂, _, j, hleads, hpolls, hmeets.there, hj.trans hw.output, ?_, hw.query⟩
    rw [hread, hj]

/-- With a budget that reaches past the horizon. -/
theorem unbounded (hw : Written s b b' a command response i d) (hb : w.Begins t n budget)
    (ht : at_ t < Clock.horizon) (hpast : Clock.horizon ≤ at_ t + budget.nanos) :
    (at_ (t + d * n) < Clock.horizon → Answers (w.moment (at_ t) (s, b')) s b a command (d + 1)
      (at_ (t + d * n))) ∧
    (Clock.horizon ≤ at_ (t + d * n) → (w.moment (at_ t) (s, b')).Forever) := by
  have hfirst : t + 0 * n = t := by rw [Nat.zero_mul, Nat.add_zero]
  refine ⟨fun hd => ?_, fun hd => ?_⟩
  · have hanswers := hw.answers (hb.unbounded hpast hd).1 (Nat.le_refl d)
    rwa [hfirst] at hanswers
  · obtain ⟨c, hc, hbefore, hafter⟩ := exists_last ht hd
    obtain ⟨hg, hexpired, hnext⟩ := hb.unbounded hpast hbefore
    obtain ⟨b₂, j, hleads, -⟩ := hw.outlasts hg hc
    rw [hfirst, hexpired, hnext hafter] at hleads
    refine hleads.forever ?_
    show (Clock.earlier none w.cancelAt).isNone = true
    rw [hb.forever]
    rfl

end Written

theorem Answers.succeeds {m : Moment (Recorded Simulated)} {polls : Nat} {now : Instant}
    (h : Answers m s b a command polls now) : m.Succeeds := by
  obtain ⟨b', v, j, hend, -⟩ := h
  exact ⟨now, .value v, (s, b'), hend⟩

theorem GivesUp.fails {m : Moment (Recorded Simulated)} {polls : Nat} {now : Instant}
    (h : GivesUp m s b a command response budget polls now) : ¬ m.Succeeds := by
  obtain ⟨b', text, j, hend, -⟩ := h
  exact hend.fails

/-- A query that waits for its answer, asked of an instrument that knows the
command and has nothing in its queue. With a budget it is answered just when
the polls that hide the answer are no more than the intervals the budget has
or begins, at the first poll that shows it; otherwise it gives up at the
deadline. Without one it is answered as long as that poll can be named. -/
theorem query_async_end_to_end (h : s.Meets b a i) (ho : i.output = [])
    (hm : i.status.messageAvailable = false) (hne : command ≠ "")
    (hk : Keyed.get? i.responses
      (Instrument.commandOf (Text.Latin.encode command.toList)) = some response)
    (hn : 0 < n) (ht : at_ t < Clock.horizon) (budget : Duration) :
    let m := (Act.queryAsync command .text ⟨.ofMillis n, budget, false, none⟩).begun (at_ t) (s, b)
    (∀ k, budget = .ofMillis k → at_ (t + k) < Clock.horizon →
      (m.Succeeds ↔ i.pollDelay ≤ Wait.rounds k n) ∧
      (i.pollDelay ≤ Wait.rounds k n →
        Answers m s b a command (i.pollDelay + 1) (at_ (min (t + i.pollDelay * n) (t + k)))) ∧
      (Wait.rounds k n < i.pollDelay →
        GivesUp m s b a command response budget (Wait.rounds k n + 1) (at_ (t + k)))) ∧
    (Clock.horizon ≤ at_ t + budget.nanos →
      (m.Succeeds ↔ at_ (t + i.pollDelay * n) < Clock.horizon) ∧
      (at_ (t + i.pollDelay * n) < Clock.horizon →
        Answers m s b a command (i.pollDelay + 1) (at_ (t + i.pollDelay * n))) ∧
      (Clock.horizon ≤ at_ (t + i.pollDelay * n) → m.Forever)) := by
  obtain ⟨b', j, hwrite, hw⟩ := run_written h ho hm hne hk
  obtain ⟨w, hb, hbegun⟩ := begun_queryAsync hn hwrite t budget
  rw [hbegun]
  refine ⟨?_, fun hpast => ?_⟩
  · rintro k rfl hk
    obtain ⟨hin, hout⟩ := hw.bounded hb hn hk
    refine ⟨⟨fun hs => ?_, fun hd => (hin hd).succeeds⟩, hin, hout⟩
    exact Nat.le_of_not_lt fun hd => (hout hd).fails hs
  · obtain ⟨hin, hout⟩ := hw.unbounded hb ht hpast
    refine ⟨⟨fun hs => ?_, fun hd => (hin hd).succeeds⟩, hin, hout⟩
    exact Nat.lt_of_not_le fun hd => (hout hd).fails hs

/-- A session opened to an instrument that knows one command and hides its
answer for a number of polls. -/
def opened : Session := ⟨16, ⟨5, 0⟩, 0, .standard, .standard, false⟩

def answering (command : String) (delay : Nat) : Instrument :=
  { Instrument.silent.respond command "ACME" with pollDelay := delay }

def bench (command : String) (delay : Nat) : Recorded Simulated :=
  .fresh ((Simulated.empty.attach ⟨5, 0⟩ (answering command delay)).openDevice
    (Session.request ⟨5, 0⟩ .standard)).1

theorem opened_meets (command : String) (delay : Nat) :
    opened.Meets (bench command delay) ⟨5, 0⟩ (answering command delay) where
  opened := rfl
  calm := rfl
  online := rfl
  there := rfl

/-- The answer is hidden for two polls: one a hundred intervals long waits
for it, and one that is a single interval long does not. -/
theorem query_async_end_to_end_hidden :
    Answers ((Act.queryAsync "*IDN?" .text ⟨.ofMillis 10, .ofMillis 1000, false, none⟩).begun
        (at_ 7) (opened, bench "*IDN?" 2)) opened (bench "*IDN?" 2) ⟨5, 0⟩ "*IDN?" 3 (at_ 27) ∧
      GivesUp ((Act.queryAsync "*IDN?" .text ⟨.ofMillis 10, .ofMillis 10, false, none⟩).begun
        (at_ 7) (opened, bench "*IDN?" 2)) opened (bench "*IDN?" 2) ⟨5, 0⟩ "*IDN?" "ACME"
        (.ofMillis 10) 2 (at_ 17) := by
  have hk : Keyed.get? (answering "*IDN?" 2).responses
      (Instrument.commandOf (Text.Latin.encode "*IDN?".toList)) = some "ACME" := by
    decide +kernel
  have h := query_async_end_to_end (t := 7) (n := 10) (opened_meets "*IDN?" 2) rfl (by decide)
    (by decide) hk (by decide) (by decide)
  refine ⟨?_, ?_⟩
  · obtain ⟨-, hin, -⟩ := (h (.ofMillis 1000)).1 1000 rfl (by decide)
    exact hin (by decide)
  · obtain ⟨-, -, hout⟩ := (h (.ofMillis 10)).1 10 rfl (by decide)
    exact hout (by decide)

/-- It is not so for the empty command, which is not even sent to an
instrument that knows it; where neither the budget nor the interval can be
named, for it waits forever; and between two milliseconds, for its timers
fire late. -/
theorem query_async_end_to_end_otherwise :
    (Keyed.get? (answering "" 0).responses (Instrument.commandOf (Text.Latin.encode "".toList)) =
        some "ACME" ∧ opened.Meets (bench "" 0) ⟨5, 0⟩ (answering "" 0) ∧
      ((Act.queryAsync "" .text ⟨.ofMillis 10, .ofMillis 1000, false, none⟩).begun (at_ 0)
        (opened, bench "" 0)).Ends (at_ 0) (.error (.invalidArgument .emptyCommand))
        (opened, bench "" 0)) ∧
    (opened.Meets (bench "*IDN?" 1) ⟨5, 0⟩ (answering "*IDN?" 1) ∧
      ((Act.queryAsync "*IDN?" .text ⟨.ofSecs 0xFFFFFFFFFFFFFFFF, .ofSecs 0xFFFFFFFFFFFFFFFF, false,
        none⟩).begun (at_ 0) (opened, bench "*IDN?" 1)).Forever) ∧
    (opened.Meets (bench "*IDN?" 1) ⟨5, 0⟩ (answering "*IDN?" 1) ∧
      ∃ r l, ((Act.queryAsync "*IDN?" .text ⟨.ofMillis 1, .ofMillis 10, false, none⟩).begun 500000
        (opened, bench "*IDN?" 1)).Ends 2000000 (.ok r) l) := by
  refine ⟨⟨by decide +kernel, opened_meets "" 0, .here _⟩, ⟨opened_meets "*IDN?" 1, ?_⟩,
    opened_meets "*IDN?" 1, ?_⟩
  · refine Moment.Leads.forever (.here _) ?_
    decide +kernel
  · have hnext : (((Act.queryAsync "*IDN?" .text ⟨.ofMillis 1, .ofMillis 10, false, none⟩).begun
        500000 (opened, bench "*IDN?" 1)).next?).any (fun m =>
          m.now == 2000000 && m.progress.good) = true := by
      decide +kernel
    obtain ⟨m, hm, hall⟩ := (Option.any_eq_true _ _).mp hnext
    rw [Bool.and_eq_true, beq_iff_eq] at hall
    obtain ⟨r, l, hend⟩ := Moment.ends_of_good hall.2
    rw [hall.1] at hend
    exact ⟨r, l, .next hm hend⟩

end Act

end InstrumentBus
