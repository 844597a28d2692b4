/-
What a call does in the course of a run.

A call may go round many times before it gets anywhere: the lock it has
waited for may be that of an entry that has left the cache, and then it
begins again. What it does that matters is little: it secures the lock of
the current entry of its address, it asks the driver for a session, it
starts its program and it comes to the end of it. These are its deeds,
and `World.deeds` lists them along a run.

`Call.Accounts` says what a call has done by the time it stands where it
stands. It is shown stride by stride (`Call.Stride.accounts`) and then
along a run (`World.Accounted`); whatever is to be known of one call in a
run of many is read off the list.
-/
import InstrumentBus.Proofs.Registry.Stride

namespace InstrumentBus

-- ========================================================== the deeds

/-- Something a call does. -/
inductive Call.Deed where
  -- it holds the lock of the current entry of its address
  | secured
  -- it asks the driver for a session, and is answered
  | asked (answer : Except Failure Unit)
  -- it starts its program
  | started
  -- its program comes to an end
  | finished (result : Except Failure Unit)

/-- The end of a program, if a portion of it comes that far. -/
def Advance.deeds : Advance → List Call.Deed
  | .done _ result => [.finished result]
  | .paused _ _ _ => []

namespace Call

/-- What the driver would answer a call that asks for a session. -/
def answer (c : Call) (x : BusSite) : Except Failure Unit :=
  ((Session.connect c.address x.registry.options).run x.bus).1.map fun _ => ()

/-- The end of the program, if the next portion of it comes that far. -/
def ending (c : Call) (e : EntryId) (x : BusSite) : List Deed :=
  match x.registry.slot? e with
  | some s => ((c.portion x.clock).run (s, x.bus)).1.deeds
  | none => []

/-- What a call does in a step that leads from the site `x` to the site
`x'`. It has asked for a session if the registry counts one more. -/
def deeds (c : Call) (x x' : BusSite) : List Deed :=
  (if x'.registry.created = x.registry.created then [] else [.asked (c.answer x)]) ++
    match c.stage with
    | .confirm e => if x.registry.isCurrent c.address e then [.secured] else []
    | .enter e => .started :: c.ending e x
    | .acting e _ _ => c.ending e x
    | _ => []

end Call

namespace World

/-- What a call does in a happening. It does something only when it takes
a step. -/
def deedsIn (id : TaskId) (w : BusWorld) (h : Happening) (w' : BusWorld) : List Call.Deed :=
  match h with
  | .step j =>
    if j = id then (w.call? id).elim [] fun c => c.deeds w.site w'.site else []
  | _ => []

/-- What a call does in a run, in order. -/
def deeds (id : TaskId) : BusWorld → List Happening → List Call.Deed
  | _, [] => []
  | w, h :: rest =>
    match w.perform h with
    | some w' => w.deedsIn id h w' ++ deeds id w' rest
    | none => []

end World

/-- No session is asked for where an address is looked up. -/
theorem Registry.created_resolve (r : Registry) (a : Address) (now : Instant) :
    (r.resolve a now).1.created = r.created := by
  unfold resolve
  split <;> rfl

-- ================================================== accounts of a call

namespace Call

/-- A call has its session: there was an open one, or it was granted one. -/
def Opens (ds : List Deed) : Prop := ds = [.secured] ∨ ds = [.secured, .asked (.ok ())]

/-- What a call is told in the end, and what it has done for it. -/
inductive Earned : List Deed → Except Failure Unit → Prop where
  -- the registry is disposed of, and it has done nothing
  | closed : Earned [] (.error registryClosed)
  -- the driver has refused the session it asked for itself
  | refused (f : Failure) : Earned [.secured, .asked (.error f)] (.error f)
  -- its own program has come to its end
  | own (o : List Deed) (result : Except Failure Unit) (ho : Opens o) :
      Earned (o ++ [.started, .finished result]) result

/-- What a call may have done when it is dropped: something up to the
refusal, or up to the end of its program. -/
def Story (ds : List Deed) : Prop :=
  (∃ f, ds = [.secured, .asked (.error f)]) ∨
    ∃ o result, Opens o ∧ ds <+: o ++ [.started, .finished result]

/-- What a call has done by the time it stands where it stands. -/
def Accounts (c : Call) (ds : List Deed) : Prop :=
  match c.stage with
  | .check | .find | .request _ | .queued _ | .recheck _ | .confirm _ => ds = []
  | .fill _ => ds = [.secured]
  | .enter _ => Opens ds
  | .acting _ _ _ => ∃ o, Opens o ∧ ds = o ++ [.started]
  | .vacate _ f => ds = [] ∧ f = registryClosed
  | .abandon _ f => ds = [] ∧ f = registryClosed ∨ ds = [.secured, .asked (.error f)]
  | .leave _ result => Earned ds result
  | .ended result =>
    Earned ds result ∨
      ds = [] ∧ c.cancelled = true ∧ result = .error (lockCancelled c.address)
  | .dropped => Story ds

theorem Earned.story {ds : List Deed} {result : Except Failure Unit} (h : Earned ds result) :
    Story ds := by
  cases h with
  | closed => exact .inr ⟨_, .ok (), .inl rfl, List.nil_prefix⟩
  | refused f => exact .inl ⟨f, rfl⟩
  | own o result ho => exact .inr ⟨o, result, ho, List.prefix_refl _⟩

/-- Wherever a call stands, what it has done is the beginning of a story. -/
theorem Accounts.story {c : Call} {ds : List Deed} (h : c.Accounts ds) : Story ds := by
  have hbegun : ∀ {ds : List Deed}, Opens ds → Story ds := fun {ds} ho =>
    .inr ⟨ds, .ok (), ho, List.prefix_append _ _⟩
  have hnone : Story [] := .inr ⟨_, .ok (), .inl rfl, List.nil_prefix⟩
  obtain ⟨address, program, cancelled, entered, replies, stage⟩ := c
  cases stage with
  | fill e => exact hbegun (.inl h)
  | enter e => exact hbegun h
  | acting e pending rest =>
      obtain ⟨o, ho, rfl⟩ := h
      exact .inr ⟨o, .ok (), ho, List.prefix_append_right_inj o |>.mpr ⟨_, rfl⟩⟩
  | vacate e f =>
      obtain ⟨rfl, -⟩ := h
      exact hnone
  | abandon e f =>
      rcases h with ⟨rfl, -⟩ | h
      · exact hnone
      · exact .inl ⟨f, h⟩
  | leave e result => exact Earned.story h
  | ended result =>
      rcases h with h | ⟨rfl, -⟩
      · exact Earned.story h
      · exact hnone
  | dropped => exact h
  | _ =>
      cases (show ds = [] from h)
      exact hnone

/-- That its token is cancelled says nothing new of a call. -/
theorem Accounts.cancel {c : Call} {ds : List Deed} (h : c.Accounts ds) :
    Accounts { c with cancelled := true } ds := by
  obtain ⟨address, program, cancelled, entered, replies, stage⟩ := c
  cases stage with
  | ended result =>
      apply Or.imp_right _ h
      intro ⟨hd, _, hr⟩
      exact ⟨hd, rfl, hr⟩
  | _ => exact h

theorem Accounts.drop {c : Call} {ds : List Deed} {id : TaskId} {x : BusSite}
    (h : c.Accounts ds) : (c.drop id x).1.Accounts ds := by
  have hstory := h.story
  obtain ⟨address, program, cancelled, entered, replies, stage⟩ := c
  cases stage with
  | ended result => exact h
  | dropped => exact h
  | _ => exact hstory

-- ====================================================== what a stride adds

section

variable {id : TaskId} {c c' : Call} {x x' : BusSite} {e : EntryId} {s : Session} {ds : List Deed}

/-- A program that is carried out further pauses, or comes to its end. -/
theorem stage_act (c : Call) (e : EntryId) (s : Session) (x : BusSite)
    (run : StateM (Line (Recorded Simulated)) Advance) :
    (∃ pending rest, (c.act e s x run).1.stage = .acting e pending rest ∧
      (run.run (s, x.bus)).1.deeds = []) ∨
    ∃ result, (c.act e s x run).1.stage = .leave e result ∧
      (run.run (s, x.bus)).1.deeds = [.finished result] := by
  unfold act
  rcases run.run (s, x.bus) with ⟨advance, s', bus⟩
  cases advance with
  | paused replies pending rest => exact .inl ⟨pending, rest, rfl, rfl⟩
  | done replies result => exact .inr ⟨result, rfl, rfl⟩

theorem accounts_act {o : List Deed} {run : StateM (Line (Recorded Simulated)) Advance}
    (ho : Opens o) :
    (c.act e s x run).1.Accounts (o ++ [.started] ++ (run.run (s, x.bus)).1.deeds) := by
  unfold Accounts
  rcases stage_act c e s x run with ⟨pending, rest, hstage, hd⟩ | ⟨result, hstage, hd⟩
  · rw [hstage, hd, List.append_nil]
    exact ⟨o, ho, rfl⟩
  · rw [hstage, hd, List.append_assoc]
    exact .own o result ho

/-- A stride asks for a session where it finds none that is open. -/
theorem Stride.created (h : c.Stride id x c' x') :
    x'.registry.created = x.registry.created ∨
      x'.registry.created = x.registry.created + 1 ∧ ∃ e, c.stage = .fill e := by
  cases h with
  | found hs => exact .inl (Registry.created_resolve _ _ _)
  | opened e s bus hs => exact .inr ⟨rfl, e, hs⟩
  | failed e f bus hs => exact .inr ⟨rfl, e, hs⟩
  | started e s hs hslot => exact .inl (act_frame _ e s _ _).2.2.2.2
  | resumed e pending rest s hs hdue hslot => exact .inl (act_frame _ e s _ _).2.2.2.2
  | vacated e f hs => exact .inl (Site.closeSlot_frame x e).2.2.2
  | abandoned e f hs => exact .inl (Registry.forget_frame x.registry c.address e).2
  | _ => exact .inl rfl

/-- What a call does that asks for nothing. -/
theorem deeds_of_created (hk : x'.registry.created = x.registry.created) :
    c.deeds x x' =
      match c.stage with
      | .confirm e => if x.registry.isCurrent c.address e then [.secured] else []
      | .enter e => .started :: c.ending e x
      | .acting e _ _ => c.ending e x
      | _ => [] := by
  unfold deeds
  rw [if_pos hk]
  rfl

/-- What a call does that asks for a session. -/
theorem deeds_of_asked (hs : c.stage = .fill e)
    (hk : x'.registry.created = x.registry.created + 1) : c.deeds x x' = [.asked (c.answer x)] := by
  unfold deeds
  rw [if_neg (by omega), hs]
  rfl

/-- Each stride adds to the account what it does. -/
theorem Stride.accounts (h : c.Stride id x c' x') (ha : c.Accounts ds) :
    c'.Accounts (ds ++ c.deeds x x') := by
  have hk := h.created
  unfold Accounts at ha
  cases h with
  | closed hs hd =>
      rw [hs] at ha
      rw [deeds_of_created rfl, hs, ha]
      exact .inl .closed
  | checked hs hd =>
      rw [hs] at ha
      rw [deeds_of_created rfl, hs, ha]
      rfl
  | found hs =>
      rw [hs] at ha hk
      rw [deeds_of_created (hk.resolve_right fun ⟨_, _, h⟩ => nomatch h), hs, ha]
      rfl
  | refused e hs hc =>
      rw [hs] at ha
      rw [deeds_of_created rfl, hs, ha]
      exact .inr ⟨rfl, hc, rfl⟩
  | granted e hs hc hg =>
      rw [hs] at ha hk
      rw [deeds_of_created (hk.resolve_right fun ⟨_, _, h⟩ => nomatch h), hs, ha]
      rfl
  | lined e hs hc hg =>
      rw [hs] at ha hk
      rw [deeds_of_created (hk.resolve_right fun ⟨_, _, h⟩ => nomatch h), hs, ha]
      rfl
  | withdrawn e hs hc =>
      rw [hs] at ha hk
      rw [deeds_of_created (hk.resolve_right fun ⟨_, _, h⟩ => nomatch h), hs, ha]
      exact .inr ⟨rfl, hc, rfl⟩
  | noticed e hs hc hg =>
      rw [hs] at ha
      rw [deeds_of_created rfl, hs, ha]
      rfl
  | barred e hs hd =>
      rw [hs] at ha
      rw [deeds_of_created rfl, hs, ha]
      exact ⟨rfl, rfl⟩
  | rechecked e hs hd =>
      rw [hs] at ha
      rw [deeds_of_created rfl, hs, ha]
      rfl
  | confirmed e hs hcur =>
      rw [hs] at ha
      rw [deeds_of_created rfl, hs, ha]
      simp only [if_pos (Registry.isCurrent_iff.mpr hcur)]
      rfl
  | stale e hs hcur =>
      rw [hs] at ha hk
      rw [deeds_of_created (hk.resolve_right fun ⟨_, _, h⟩ => nomatch h), hs, ha]
      simp only [if_neg fun h => hcur (Registry.isCurrent_iff.mp h)]
      rfl
  | reused e s hs hslot hopen =>
      rw [hs] at ha
      rw [deeds_of_created rfl, hs, ha]
      exact .inl rfl
  | opened e s bus hs hv hrun =>
      rw [hs] at ha
      rw [deeds_of_asked hs rfl, ha, answer, hrun]
      exact .inr rfl
  | failed e f bus hs hv hrun =>
      rw [hs] at ha
      rw [deeds_of_asked hs rfl, ha, answer, hrun]
      exact .inr rfl
  | started e s hs hslot =>
      rw [hs] at ha
      have hk := hk.resolve_right fun ⟨_, _, h⟩ => nomatch hs.symm.trans h
      rw [deeds_of_created hk, hs]
      simp only [ending, hslot, portion, hs]
      rw [← List.singleton_append, ← List.append_assoc]
      exact accounts_act ha
  | resumed e pending rest s hs hdue hslot =>
      rw [hs] at ha hk
      obtain ⟨o, ho, rfl⟩ := ha
      rw [deeds_of_created (hk.resolve_right fun ⟨_, _, h⟩ => nomatch h), hs]
      simp only [ending, hslot, portion, hs]
      exact accounts_act ho
  | vacated e f hs =>
      rw [hs] at ha hk
      obtain ⟨rfl, hf⟩ := ha
      rw [deeds_of_created (hk.resolve_right fun ⟨_, _, h⟩ => nomatch h), hs]
      exact .inl ⟨rfl, hf⟩
  | abandoned e f hs =>
      rw [hs] at ha hk
      rw [deeds_of_created (hk.resolve_right fun ⟨_, _, h⟩ => nomatch h), hs, List.append_nil]
      rcases ha with ⟨rfl, rfl⟩ | rfl
      · exact .closed
      · exact .refused f
  | left e result hs =>
      rw [hs] at ha hk
      rw [deeds_of_created (hk.resolve_right fun ⟨_, _, h⟩ => nomatch h), hs, List.append_nil]
      exact .inl ha

end

end Call

-- =================================================== along a whole run

namespace World

variable {w w' : BusWorld} {id : TaskId} {c c' : Call} {h : Happening}

/-- A call was a call before, or has just begun. -/
theorem Change.came {who : Option TaskId} (hc : Change who w w') (hcall : w'.call? id = some c') :
    (w.task? id = none ∧ c'.stage = .check) ∨ ∃ c, w.call? id = some c := by
  have ht := call?_eq_some.mp hcall
  cases hc with
  | task j t t' hid htask hw he hs hp hf =>
      rw [hw] at ht
      split at ht
      next hj =>
        subst hj
        cases ht
        cases hf with
        | @call c _ ha hprogram he => exact .inr ⟨c, call?_eq_some.mpr htask⟩
      next => exact .inr ⟨c', call?_eq_some.mpr ht⟩
  | begun t hf hw hb hr =>
      rw [hw] at ht
      split at ht
      next hj =>
        subst hj
        cases ht
        cases hf with
        | call hs he => exact .inl ⟨task?_nextId w, hs⟩
      next => exact .inr ⟨c', call?_eq_some.mpr ht⟩
  | beside hw hl htrace hr => exact .inr ⟨c', call?_eq_some.mpr ((hw id).symm.trans ht)⟩

/-- A task that nothing is done about stays as it is. -/
theorem Change.untouched {who : Option TaskId} {t : Task} (hc : Change who w w')
    (hne : who ≠ some id) (ht : w.task? id = some t) : w'.task? id = some t := by
  cases hc with
  | task j u u' hid hu hw he hs hp hf =>
      rw [hw, if_neg fun hj => hne (hid.trans (congrArg some hj.symm))]
      exact ht
  | begun u hf hw hb hr =>
      have hold : id ≠ w.nextId := by
        intro hj
        rw [hj, task?_nextId] at ht
        cases ht
      rw [hw, if_neg hold]
      exact ht
  | beside hw hl htrace hr => exact (hw id).trans ht

theorem Call.isOver_of {result : Except Failure Unit}
    (hs : c.stage = .ended result ∨ c.stage = .dropped) : c.isOver = true := by
  unfold Call.isOver
  rcases hs with hs | hs <;> rw [hs]

theorem Call.step_of_isOver (id : TaskId) (x : BusSite) (hover : c.isOver = true) :
    c.step id x = none := by
  obtain ⟨address, program, cancelled, entered, replies, stage⟩ := c
  cases stage with
  | ended result => rfl
  | dropped => rfl
  | _ => cases hover

theorem Call.drop_of_isOver (id : TaskId) (x : BusSite) (hover : c.isOver = true) :
    c.drop id x = (c, x) := by
  obtain ⟨address, program, cancelled, entered, replies, stage⟩ := c
  cases stage with
  | ended result => rfl
  | dropped => rfl
  | _ => cases hover

/-- A call that is over takes no step. -/
theorem step?_of_isOver (hc : w.call? id = some c) (hover : c.isOver = true) :
    w.step? id = none := by
  rw [step?_call hc, Call.step_of_isOver id w.site hover]
  rfl

/-- What becomes of a call when something happens. -/
inductive Fate (id : TaskId) (c : Call) (w : BusWorld) : Happening → BusWorld → Prop where
  | steps {w' : BusWorld} (c' : Call) (hs : c.step id w.site = some (c', w'.site))
      (hc : w'.call? id = some c') : Fate id c w (.step id) w'
  | cancelled {w' : BusWorld} (hx : w'.site = w.site)
      (hc : w'.call? id = some { c with cancelled := true }) : Fate id c w (.cancel id) w'
  | dropped {w' : BusWorld} (hx : w'.site = (c.drop id w.site).2)
      (hc : w'.call? id = some (c.drop id w.site).1) : Fate id c w (.drop id) w'
  -- it is somebody else's turn
  | stays {h : Happening} {w' : BusWorld} (hh : h.subject? ≠ some id)
      (hc : w'.call? id = some c) : Fate id c w h w'

theorem Sound.fate (hw : w.Sound) (hc : w.call? id = some c) (hp : w.perform h = some w') :
    Fate id c w h w' := by
  have ht := call?_eq_some.mp hc
  by_cases hh : h.subject? = some id
  · cases h with
    | step j =>
        cases hh
        obtain ⟨c', hstep, hc'⟩ := step?_call_eq_some hc hp
        exact .steps c' hstep hc'
    | cancel j =>
        cases hh
        cases hp
        refine .cancelled rfl (call?_eq_some.mpr ?_)
        rw [task?_cancel, if_pos rfl, ht]
        rfl
    | drop j =>
        cases hh
        cases hp
        unfold World.drop
        rw [ht]
        exact .dropped rfl (call?_eq_some.mpr (task?_set_self ht _ _))
    | _ => cases hh
  · exact .stays hh (call?_eq_some.mpr ((hw.perform_change hp).untouched hh ht))

/-- A call that is over is over for good. -/
theorem Fate.over (hf : Fate id c w h w') (hover : c.isOver = true) :
    ∃ c', w'.call? id = some c' ∧ c'.stage = c.stage ∧ c'.address = c.address := by
  cases hf with
  | steps c' hs hc' =>
      rw [Call.step_of_isOver id w.site hover] at hs
      cases hs
  | cancelled hx hc' => exact ⟨_, hc', rfl, rfl⟩
  | dropped hx hc' =>
      rw [Call.drop_of_isOver id w.site hover] at hc'
      exact ⟨c, hc', rfl, rfl⟩
  | stays hh hc' => exact ⟨c, hc', rfl, rfl⟩

/-- What the calls have done is accounted for, and a call that has not
begun has done nothing. -/
structure Accounted (w : BusWorld) (ds : TaskId → List Call.Deed) : Prop where
  calls : ∀ id c, w.call? id = some c → c.Accounts (ds id)
  unborn : ∀ id, w.task? id = none → ds id = []

theorem deedsIn_of_ne (hne : h ≠ .step id) : w.deedsIn id h w' = [] := by
  cases h with
  | step j => exact if_neg fun hj => hne (congrArg _ hj)
  | _ => rfl

theorem deedsIn_step (hc : w.call? id = some c) :
    w.deedsIn id (.step id) w' = c.deeds w.site w'.site := by
  show (if id = id then (w.call? id).elim [] _ else []) = _
  rw [if_pos rfl, hc]
  rfl

theorem deedsIn_of_none (ht : w.task? id = none) : w.deedsIn id h w' = [] := by
  by_cases hne : h = .step id
  · subst hne
    show (if id = id then (w.call? id).elim [] _ else []) = _
    rw [if_pos rfl]
    unfold call?
    rw [ht]
    rfl
  · exact deedsIn_of_ne hne

theorem deeds_cons {rest : List Happening} (hp : w.perform h = some w') :
    w.deeds id (h :: rest) = w.deedsIn id h w' ++ w'.deeds id rest := by
  show (match w.perform h with | some w' => _ | none => _) = _
  rw [hp]

theorem deeds_append {hs hs' : List Happening} (hr : w.run hs = some w') :
    w.deeds id (hs ++ hs') = w.deeds id hs ++ w'.deeds id hs' := by
  induction hs generalizing w with
  | nil =>
      cases hr
      rfl
  | cons h rest ih =>
      obtain ⟨w₁, hp, hrest⟩ := Option.bind_eq_some_iff.mp hr
      rw [List.cons_append, deeds_cons hp, deeds_cons hp, ih hrest, List.append_assoc]

/-- A task that is there stays there. -/
theorem Change.task_stays {who : Option TaskId} {t : Task} (hc : Change who w w')
    (ht : w.task? id = some t) : ∃ t', w'.task? id = some t' := by
  by_cases hne : who = some id
  · cases hc with
    | task j u u' hid hu hw he hs hp hf =>
        cases hid.symm.trans hne
        exact ⟨u', (hw id).trans (if_pos rfl)⟩
    | begun u hf hw hb hr =>
        rw [hw]
        split
        · exact ⟨u, rfl⟩
        · exact ⟨t, ht⟩
    | beside hw hl htrace hr => exact ⟨t, (hw id).trans ht⟩
  · exact ⟨t, hc.untouched hne ht⟩

theorem Change.unborn {who : Option TaskId} {ds : TaskId → List Call.Deed}
    (hc : Change who w w') (hds : ∀ id, w.task? id = none → ds id = [])
    (hnone : w'.task? id = none) : ds id ++ w.deedsIn id h w' = [] := by
  have hnone₀ : w.task? id = none := by
    cases ht : w.task? id with
    | none => rfl
    | some t =>
        obtain ⟨u, hu⟩ := hc.task_stays ht
        rw [hu] at hnone
        cases hnone
  rw [hds id hnone₀, deedsIn_of_none hnone₀]
  rfl

/-- What is said of a world and of all that its calls have done, and is
kept by whatever happens, is kept by a run. -/
theorem Sound.deeds_induct {P : BusWorld → (TaskId → List Call.Deed) → Prop}
    {ds : TaskId → List Call.Deed} {hs : List Happening} (hw : w.Sound)
    (hr : w.run hs = some w') (h₀ : P w ds)
    (hstep : ∀ v ds h v', v.Sound → P v ds → v.perform h = some v' →
      P v' fun id => ds id ++ v.deedsIn id h v') : P w' fun id => ds id ++ w.deeds id hs := by
  induction hs generalizing w ds with
  | nil =>
      cases hr
      have hnil : (fun id => ds id ++ w'.deeds id []) = ds := funext fun id => List.append_nil _
      rw [hnil]
      exact h₀
  | cons h rest ih =>
      obtain ⟨w₁, hp, hrest⟩ := Option.bind_eq_some_iff.mp hr
      have h₁ := ih (hw.perform hp) hrest (hstep w ds h w₁ hw h₀ hp)
      have heq : (fun id => ds id ++ w.deeds id (h :: rest)) =
          fun id => ds id ++ w.deedsIn id h w₁ ++ w₁.deeds id rest :=
        funext fun id => by rw [deeds_cons hp, List.append_assoc]
      rw [heq]
      exact h₁

theorem Accounted.perform {ds : TaskId → List Call.Deed} (ha : w.Accounted ds) (hw : w.Sound)
    (hp : w.perform h = some w') : w'.Accounted fun id => ds id ++ w.deedsIn id h w' := by
  have hch := hw.perform_change hp
  refine ⟨fun id c' hc' => ?_, fun id ht => hch.unborn ha.unborn ht⟩
  · show c'.Accounts (ds id ++ w.deedsIn id h w')
    rcases hch.came hc' with ⟨hnone, hs⟩ | ⟨c, hc⟩
    · rw [ha.unborn id hnone, deedsIn_of_none hnone]
      unfold Call.Accounts
      rw [hs]
      rfl
    · have hold := ha.calls id c hc
      cases hw.fate hc hp with
      | steps c₁ hstep hc₁ =>
          cases hc'.symm.trans hc₁
          have hstride := Call.step_stride hstep (hw.tasks id _ (call?_eq_some.mp hc))
          rw [deedsIn_step hc]
          exact hstride.accounts hold
      | cancelled hx hc₁ =>
          cases hc'.symm.trans hc₁
          show Call.Accounts _ (ds id ++ [])
          rw [List.append_nil]
          exact hold.cancel
      | dropped hx hc₁ =>
          cases hc'.symm.trans hc₁
          show Call.Accounts _ (ds id ++ [])
          rw [List.append_nil]
          exact hold.drop
      | stays hh hc₁ =>
          cases hc'.symm.trans hc₁
          have hne : h ≠ .step id := by
            intro heq
            exact hh (congrArg Happening.subject? heq)
          rw [deedsIn_of_ne hne, List.append_nil]
          exact hold

/-- The account of a run. -/
theorem Accounted.run {ds : TaskId → List Call.Deed} (ha : w.Accounted ds) (hw : w.Sound)
    {hs : List Happening} (hr : w.run hs = some w') :
    w'.Accounted fun id => ds id ++ w.deeds id hs :=
  hw.deeds_induct (P := Accounted) hr ha fun _ _ _ _ hv ha hp => ha.perform hv hp

theorem accounted_unused (b : Simulated) (options : SessionOptions) (policy : SweepPolicy) :
    (World.unused b options policy).Accounted fun _ => [] :=
  ⟨fun _ _ hc => (nomatch hc), fun _ _ => rfl⟩

end World

end InstrumentBus
