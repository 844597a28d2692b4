/-
When the background sweep gives up a session.

A call carries out its program on a session and leaves it open. From then
on nobody starts a program at the address. The session stays online, tick
after tick, up to the first tick that is at least the threshold away, and
at that tick it is taken offline (`World.idle_session_expires`). It does
not matter what goes on at other addresses, nor who asks for the lock of
this one in vain.

The session is followed from the end of the program (`World.Calm.keeps`)
through everything that happens to the tick (`World.Kept.occurs`), and the
address from there (`World.Bare.occurs`). What a call finds that gets the
lock afterwards is told in `World.Bare.renews`.
-/
import InstrumentBus.Proofs.Registry.Idle
import InstrumentBus.Proofs.Registry.OneCall

namespace InstrumentBus

-- ============================================== the end of a program

namespace Call

variable {id : TaskId} {c c' : Call} {x x' : BusSite} {e : EntryId} {s : Session} {d : Int}
  {i : Instant} {result : Except Failure Unit}

theorem stage_of_outcome? (h : c.outcome? = some result) : c.stage = .ended result := by
  unfold outcome? at h
  split at h
  next r hs =>
    cases h
    exact hs
  · cases h

/-- A program that has come to its end leaves its session in the slot, and
the entry used now. -/
theorem act_leaves {run : StateM (Line (Recorded Simulated)) Advance} (hrun : Orderly run)
    {e' : EntryId} (hslot : x.registry.slot? e' = some s)
    (hcur : x.registry.current? c.address = some e')
    (hs : (c.act e' s x run).1.stage = .leave e result) :
    (c.act e' s x run).2.registry.current? c.address = some e ∧
      (∃ s', (c.act e' s x run).2.registry.slot? e = some s' ∧ s'.descriptor = s.descriptor) ∧
      (c.act e' s x run).2.registry.lastUsed? e = some x.clock := by
  rcases stage_act c e' s x run with ⟨pending, rest, hstage, -⟩ | ⟨r, hstage, hdeeds⟩
  · cases hstage.symm.trans hs
  · cases hstage.symm.trans hs
    refine ⟨?_, ⟨_, (slot?_act c e s x run hslot).1, (hrun (s, x.bus)).descriptor⟩, ?_⟩
    · unfold Registry.current?
      rw [(act_frame c e s x run).2.1]
      exact hcur
    · rcases act_dates c e s x run (Registry.lt_of_slot? hslot) with ⟨hnil, -⟩ | ⟨-, hnow⟩
      · rw [hdeeds] at hnil
        cases hnil
      · exact hnow

/-- A call that comes to the end of the program it started leaves its
session in the slot, and the entry used now. -/
theorem Stride.leaves (h : c.Stride id x c' x') (hsound : c.Sound x.registry)
    (hun : Call.started c.stage = false → c.entered = none) (hs : c'.stage = .leave e result)
    (he : c'.entered = some (i, d)) : x'.registry.current? c.address = some e ∧
      (∃ s, x'.registry.slot? e = some s ∧ s.descriptor = d) ∧
      x'.registry.lastUsed? e = some x.clock := by
  unfold Sound at hsound
  cases h with
  | abandoned e' f hs' =>
      rw [show c.entered = none from hun (by rw [hs']; rfl)] at he
      cases he
  | started e' s hs' hslot =>
      rw [hs'] at hsound
      obtain ⟨replies, stage, hcall, -⟩ := act_call
        { c with entered := some (x.clock, s.descriptor) } e' s
        (x.modifyRegistry (·.touch e' x.clock)) (Program.run x.clock c.program)
      have hd : s.descriptor = d := by
        rw [hcall] at he
        exact congrArg Prod.snd (Option.some.inj he)
      have hleft := act_leaves (c := { c with entered := some (x.clock, s.descriptor) })
        (x := x.modifyRegistry (·.touch e' x.clock)) (.run _ _)
        ((Registry.slot?_touch _ _ _ _).trans hslot) hsound.1 hs
      exact hleft.imp_right (.imp_left fun ⟨s', hs', hd'⟩ => ⟨s', hs', hd'.trans hd⟩)
  | resumed e' pending rest s hs' hdue hslot =>
      rw [hs'] at hsound
      obtain ⟨hcur, s', t, hslot', hent⟩ := hsound
      cases hslot.symm.trans hslot'
      obtain ⟨replies, stage, hcall, -⟩ := act_call c e' s x (Program.resume x.clock pending rest)
      have hd : s.descriptor = d := by
        rw [hcall] at he
        exact congrArg Prod.snd (Option.some.inj (hent.symm.trans he))
      have hleft := act_leaves (.resumeProgram _ _ _) hslot hcur hs
      exact hleft.imp_right (.imp_left fun ⟨s', hs', hd'⟩ => ⟨s', hs', hd'.trans hd⟩)
  | _ => cases hs

/-- A call that is over and had started its program has let go of the lock
of its entry last. -/
theorem Stride.ends (h : c.Stride id x c' x')
    (hun : Call.started c.stage = false → c.entered = none) (hs : c'.stage = .ended result)
    (he : c'.entered ≠ none) : ∃ e, c.stage = .leave e result ∧ c'.entered = c.entered ∧
      x' = x.modifyRegistry (·.modifyLock e (·.release)) := by
  cases h with
  | left e result' hs' =>
      cases hs
      exact ⟨e, hs', rfl, rfl⟩
  | closed hs' | refused e hs' | withdrawn e hs' =>
      exact absurd (hun (by rw [hs']; rfl)) he
  | started e s hs' hslot | resumed e pending rest s hs' hdue hslot =>
      rcases stage_act _ e s _ _ with ⟨p, r, hstage, -⟩ | ⟨r, hstage, -⟩ <;>
        cases hstage.symm.trans hs
  | _ => cases hs

end Call

namespace World

variable {w w' v v' : BusWorld} {h : Happening} {id j : TaskId} {c : Call} {a : Address}
  {e : EntryId} {d : Int} {u : Instant} {n : Nat}

/-- A call has come to the end of the program it started, on a descriptor
of an address. -/
def Returned (w : BusWorld) (id : TaskId) (a : Address) (d : Int) : Prop :=
  ∃ c i result, w.call? id = some c ∧ c.address = a ∧ c.entered = some (i, d) ∧
    c.outcome? = some result

/-- The last of some steps. -/
theorem run_last (hr : w.run (List.replicate (n + 1) (.step id)) = some w') :
    ∃ v, w.run (List.replicate n (.step id)) = some v ∧ v.step? id = some w' := by
  rw [List.replicate_succ', run_append] at hr
  obtain ⟨v, hv, hlast⟩ := Option.bind_eq_some_iff.mp hr
  obtain ⟨v', hp, hnil⟩ := Option.bind_eq_some_iff.mp hlast
  cases hnil
  exact ⟨v, hv, hp⟩

/-- A call that is about to let go of the lock after its program has left
its session in the slot, and the entry used now. -/
theorem Calm.leaving {i : Instant} {result : Except Failure Unit} (hc : v.Calm) (ha : v.AtRest)
    (hrun : v.run (List.replicate n (.step id)) = some w) (hcall : w.call? id = some c)
    (hs : c.stage = .leave e result) (hent : c.entered = some (i, d)) :
    w.site.registry.current? c.address = some e ∧
      (∃ s, w.site.registry.slot? e = some s ∧ s.descriptor = d) ∧
      w.site.registry.lastUsed? e = some w.site.clock := by
  cases n with
  | zero =>
      -- nobody rests who is about to let go of a lock
      cases hrun
      have hrest := ha id _ (call?_eq_some.mp hcall)
      obtain ⟨address, program, cancelled, entered, replies, stage⟩ := c
      cases hs
      cases hrest
  | succ n =>
      obtain ⟨w₁, hrun₁, hp⟩ := run_last hrun
      have hc₁ := hc.steps hrun₁
      have hw₁ := hc₁.orderly.sound
      obtain ⟨c₁, hcall₁, hst, -⟩ := call_of_step hw₁ hp hcall
      obtain ⟨hcur, hslot, hused⟩ := hst.leaves (hw₁.tasks id _ (call?_eq_some.mp hcall₁))
        (hc₁.unstarted id c₁ hcall₁) hs hent
      rw [hst.address, (hw₁.step_aside hp).1]
      exact ⟨hcur, hslot, hused⟩

/-- The session of a descriptor that is online is open. -/
theorem Sound.open_of_online {s : Session} (hw : w.Sound) (hslot : w.site.registry.slot? e = some s)
    (hon : w.Online s.descriptor a) : s.closed = false := by
  have hlink := (hw.owned.slot e s hslot).2
  rw [hon.2] at hlink
  cases hclosed : s.closed with
  | false => rfl
  | true =>
      rw [hclosed] at hlink
      cases hlink

/-- The session that a program leaves open is one that has not been used
since. -/
theorem Calm.keeps (hc : v.Calm) (ha : v.AtRest) (hturn : v.Turn id w)
    (hret : w.Returned id a d) (hon : w.Online d a) : ∃ e, w.Kept a e d w.site.clock := by
  obtain ⟨c, i, result, hcall, rfl, hent, hout⟩ := hret
  have hstage := Call.stage_of_outcome? hout
  obtain ⟨-, -, n, hrun⟩ := hturn
  have hw := (hc.steps hrun).orderly.sound
  -- in its last step the call lets go of the lock
  obtain ⟨w₁, hrun₁, hp⟩ := run_last hrun
  have hc₁ := hc.steps hrun₁
  have hw₁ := hc₁.orderly.sound
  obtain ⟨c₁, hcall₁, hst, -⟩ := call_of_step hw₁ hp hcall
  obtain ⟨e, hs₁, hsame, hsite⟩ := hst.ends (hc₁.unstarted id c₁ hcall₁) hstage
    (by rw [hent]; exact Option.some_ne_none _)
  obtain ⟨hcur, ⟨s, hslot, hsd⟩, hused⟩ := hc.leaving ha hrun₁ hcall₁ hs₁ (hsame.symm.trans hent)
  obtain ⟨hclock, hothers⟩ := hw₁.step_aside hp
  have hslot' : w.site.registry.slot? e = some s := by
    rw [hsite]
    exact (Registry.slot?_modifyLock _ _ _ _).trans hslot
  refine ⟨e, ?_, ⟨s, hslot', hsd, hw.open_of_online hslot' (hsd ▸ hon)⟩, ?_, Nat.le_refl _,
    fun i t ht hl => ?_, fun _ _ => .inl rfl⟩
  · rw [hsite, hst.address]
    exact hcur
  · rw [hclock, hsite]
    exact (Registry.lastUsed?_modifyLock _ _ _ _).trans hused
  · -- the lock was its own, and it is over
    exfalso
    by_cases hid : i = id
    · subst hid
      cases (call?_eq_some.mp hcall).symm.trans ht
      rw [show (Task.call c).lockHeld = Call.lockHeld c.stage from rfl, hstage] at hl
      cases hl
    · refine hid (hw₁.lock_inj ((hothers i hid).symm.trans ht) (call?_eq_some.mp hcall₁) hl ?_)
      exact congrArg Call.lockHeld hs₁

-- ============================================================ the tick

/-- A session that has not been used for the threshold is one that a sweep
gives up. -/
theorem Kept.condemned (hk : w.Kept a e d u) (ha : w.AtRest)
    (hpos : 0 < w.site.registry.policy.idleThreshold.nanos)
    (hlate : u + w.site.registry.policy.idleThreshold.nanos ≤ w.site.clock) :
    (a, e) ∈ w.condemned ∧ d ∈ w.openOf w.condemned := by
  have hlapsed : w.site.lapsed e = true := by
    unfold Site.lapsed
    rw [Bool.and_eq_true, Option.isNone_iff_eq_none, decide_eq_true_iff, Registry.idle_eq hk.used]
    refine ⟨?_, Nat.le_sub_of_add_le (Nat.add_comm u _ ▸ hlate)⟩
    cases hholder : w.site.registry.holder? e with
    | none => rfl
    | some i =>
        have hnow := (hk.line i (Registry.mem_line_of_holder? hholder)).resolve_right
          (ha.not_nears i)
        rw [hnow] at hlate
        exact absurd hlate (Nat.not_le.mpr (Nat.lt_add_of_pos_right hpos))
  have hcond : (a, e) ∈ w.condemned :=
    List.mem_filter.mpr ⟨Keyed.mem_of_get? hk.current, hlapsed⟩
  obtain ⟨s, hslot, hsd, hopen⟩ := hk.session
  refine ⟨hcond, List.mem_filterMap.mpr ⟨(a, e), hcond, ?_⟩⟩
  unfold Registry.open?
  rw [hslot, Option.filter_some, hopen]
  exact congrArg some hsd

/-- At a tick that comes late enough the session is taken offline. -/
theorem Kept.lapses (hk : w.Kept a e d u) (hc : w.Calm) (ha : w.AtRest)
    (hp : 0 < w.site.registry.policy.sweepInterval.nanos)
    (ht : w.task? id = some (.ticker (.sleeping w.site.clock))) (hturn : w.Turn id w')
    (hpos : 0 < w.site.registry.policy.idleThreshold.nanos)
    (hlate : u + w.site.registry.policy.idleThreshold.nanos ≤ w.site.clock) :
    w'.Offline d ∧ Bare a w' := by
  have hw := hc.orderly.sound
  have hw' : w'.Sound := (hc.occurs (h := .step id) ha True.intro hturn).1.orderly.sound
  have hopened := hw.opened_reaches (Occurs.reaches (h := .step id) hturn) (hk.online hw).1
  obtain ⟨-, hothers⟩ := hc.turn_aside ha hturn
  obtain ⟨hcond, hmem⟩ := hk.condemned ha hpos hlate
  have hafter := hc.ticks ha hp ht hturn
  have hswept : Swept w.condemned w w' := hafter ▸ hc.orderly.swept _
  refine ⟨hw'.offline_of_link (a := a) hopened ?_, fun e' s hcur _ => ?_, fun i c e' hcall haddr => ?_⟩
  · rw [hswept.links, if_pos hmem, (hk.online hw).2]
    rfl
  · -- the entry has left the cache, and the address has no other
    have hin : (a, e') ∈ w'.site.registry.cache := Keyed.mem_of_get? hcur
    rw [hswept.cache] at hin
    obtain ⟨hold, hnot⟩ := List.mem_filter.mp hin
    cases hk.current.symm.trans (hw.coherent.listed _ hold)
    exact absurd hcond (of_decide_eq_true hnot)
  · have hid : i ≠ id := by
      rintro rfl
      rw [call?_eq_some, hafter, show World.task? ⟨_, w.tasks.set i _⟩ i = _ from
        task?_set_self ht _ _] at hcall
      cases hcall
    exact hk.not_acting hw ha ((call?_congr (hothers i hid)).symm.trans hcall) haddr e'

end World

-- ======================================================== the next call

namespace Call

variable {id : TaskId} {c c' : Call} {x x' : BusSite} {e : EntryId} {ds : List Deed}

/-- No call drops itself. -/
theorem Stride.not_dropped (h : c.Stride id x c' x') : c'.stage ≠ .dropped := by
  intro hs
  cases h with
  | started e s hs' hslot | resumed e pending rest s hs' hdue hslot =>
      rcases stage_act _ e s _ _ with ⟨p, r, hstage, -⟩ | ⟨r, hstage, -⟩ <;>
        cases hstage.symm.trans hs
  | _ => cases hs

/-- A portion of a program asks for no session. -/
theorem countP_ending (c : Call) (e : EntryId) (x : BusSite) :
    (c.ending e x).countP Deed.isAsked = 0 := by
  unfold ending
  split
  next s hslot =>
    cases ((c.portion x.clock).run (s, x.bus)).1 with
    | done replies result => rfl
    | paused replies pending rest => rfl
  next => rfl

/-- The registry counts a session for each time a call asks for one. -/
theorem Stride.counts (h : c.Stride id x c' x') :
    x'.registry.created = x.registry.created + (c.deeds x x').countP Deed.isAsked := by
  rcases h.created with hsame | ⟨hmore, e, hs⟩
  · rw [deeds_of_created hsame]
    split
    · split
      · exact hsame
      · exact hsame
    · rw [List.countP_cons_of_neg (by decide), countP_ending]
      exact hsame
    · rw [countP_ending]
      exact hsame
    · exact hsame
  · rw [deeds_of_asked hs hmore]
    exact hmore

/-- A call that goes on to its program has made sure of a session, and has
asked for it where there was none that is open. -/
theorem Stride.asks (h : c.Stride id x c' x') (hs : c'.stage = .enter e) :
    c.stage = .fill e ∧ ((∀ s, x.registry.slot? e = some s → s.closed = true) →
      .asked (c.answer x) ∈ c.deeds x x') := by
  cases h with
  | reused e' s hfill hslot hopen =>
      cases hs
      refine ⟨hfill, fun hclosed => ?_⟩
      rw [hclosed s hslot] at hopen
      cases hopen
  | opened e' s bus hfill =>
      cases hs
      refine ⟨hfill, fun _ => ?_⟩
      rw [deeds_of_asked hfill rfl]
      exact List.mem_cons_self
  | started e' s hs' hslot | resumed e' pending rest s hs' hdue hslot =>
      rcases stage_act _ e' s _ _ with ⟨p, r, hstage, -⟩ | ⟨r, hstage, -⟩ <;>
        cases hstage.symm.trans hs
  | _ => cases hs

/-- A call at rest that has got the lock, and neither started a program
nor has one before it, has asked for a session. -/
theorem Accounts.asked (h : c.Accounts ds) (hrest : (Task.call c).atRest = true)
    (hgoes : c.stage ≠ .dropped) (hidle : ∀ e, engaged c.stage ≠ some e)
    (hstart : .started ∉ ds) (hmem : .secured ∈ ds) : ∃ answer, .asked answer ∈ ds := by
  have hnil : ds ≠ [] := List.ne_nil_of_mem hmem
  obtain ⟨address, program, cancelled, entered, replies, stage⟩ := c
  cases stage with
  | check | queued e => exact absurd h hnil
  | acting e pending rest => exact absurd rfl (hidle e)
  | ended result =>
      rcases h with h | ⟨hnone, -⟩
      · cases h with
        | closed => exact absurd rfl hnil
        | refused f => exact ⟨.error f, List.mem_cons_of_mem _ List.mem_cons_self⟩
        | own o result ho => exact absurd (by simp) hstart
      · exact absurd hnone hnil
  | dropped => exact absurd rfl hgoes
  | _ => cases hrest

end Call

namespace World

variable {w w' v v' : BusWorld} {h : Happening} {id j : TaskId} {c : Call} {a : Address}
  {e : EntryId} {d : Int} {u : Instant} {n : Nat}

/-- How far a call has come at an address where there was no session. -/
structure Renewing (a : Address) (j : TaskId) (n : Nat) (v : BusWorld) (ds : List Call.Deed) :
    Prop where
  call : ∃ c, v.call? j = some c ∧ c.address = a ∧ c.Accounts ds ∧ c.stage ≠ .dropped
  created : v.site.registry.created = n + ds.countP Call.Deed.isAsked
  -- it starts no program before it has asked for a session
  asks : Bare a v ∧ .started ∉ ds ∨ ∃ answer, .asked answer ∈ ds

theorem Renewing.step {ds : List Call.Deed} (hr : Renewing a j n v ds) (hc : v.Calm)
    (hp : v.step? j = some v') : Renewing a j n v' (ds ++ v.deedsIn j (.step j) v') := by
  obtain ⟨⟨c, hcall, haddr, hacc, -⟩, hcreated, hasks⟩ := hr
  obtain ⟨c', hstep, hc'⟩ := step?_call_eq_some hcall hp
  have hst := Call.step_stride hstep (hc.orderly.sound.tasks j _ (call?_eq_some.mp hcall))
  rw [deedsIn_step hcall]
  refine ⟨⟨c', hc', hst.address.trans haddr, hst.accounts hacc, hst.not_dropped⟩, ?_, ?_⟩
  · rw [List.countP_append, ← Nat.add_assoc, ← hcreated]
    exact hst.counts
  · rcases hasks with ⟨hbare, hstart⟩ | ⟨answer, hmem⟩
    · rcases hbare.step hc hcall hp with hbare' | ⟨c₁, e, hc₁, -, hs⟩
      · refine .inl ⟨hbare', fun hmem => (List.mem_append.mp hmem).elim hstart fun hnow => ?_⟩
        obtain ⟨e, hs⟩ := Call.stage_of_started hnow
        exact hbare.idle j c e hcall haddr (by rw [hs]; rfl)
      · -- it goes on to its program, so it was granted a session just now
        cases hc'.symm.trans hc₁
        obtain ⟨hfill, hasked⟩ := hst.asks hs
        have hcur := (hc.orderly.sound.secure hcall hfill).current
        exact .inr ⟨_, List.mem_append_right _ (hasked fun s => hbare.vacant e s (haddr ▸ hcur))⟩
    · exact .inr ⟨answer, List.mem_append_left _ hmem⟩

theorem Renewing.run {m : Nat} {ds : List Call.Deed} (hr : Renewing a j m v ds) (hc : v.Calm)
    (hrun : v.run (List.replicate n (.step j)) = some v') :
    Renewing a j m v' (ds ++ v.deeds j (List.replicate n (.step j))) := by
  induction n generalizing v ds with
  | zero =>
      cases hrun
      show Renewing a j m _ (ds ++ [])
      rwa [List.append_nil]
  | succ n ih =>
      obtain ⟨v₁, hp, hrest⟩ := Option.bind_eq_some_iff.mp hrun
      rw [List.replicate_succ, deeds_cons hp, ← List.append_assoc]
      exact ih (hr.step hc hp) (hc.perform (h := .step j) True.intro hp) hrest

/-- A call that goes on at an address without a session has done nothing
yet. -/
theorem Bare.begins (hb : Bare a v) (ha : v.AtRest) (hcall : v.call? j = some c)
    (haddr : c.address = a) (hp : v.step? j = some v') :
    Renewing a j v.site.registry.created v [] := by
  have hrest := ha j _ (call?_eq_some.mp hcall)
  have hidle := fun e => hb.idle j c e hcall haddr
  have hgoes : c.isOver ≠ true := fun hover => by
    cases (step?_of_isOver hcall hover).symm.trans hp
  have hstage : c.Accounts [] ∧ c.stage ≠ .dropped := by
    obtain ⟨address, program, cancelled, entered, replies, stage⟩ := c
    cases stage with
    | check | queued e => exact ⟨rfl, nofun⟩
    | acting e pending rest => exact absurd rfl (hidle e)
    | ended result | dropped => exact absurd rfl hgoes
    | _ => cases hrest
  exact ⟨⟨c, hcall, haddr, hstage⟩, rfl, .inl ⟨hb, List.not_mem_nil⟩⟩

/-- A call that gets the lock at an address without a session asks for one
session. -/
theorem Bare.renews (hb : Bare a v) (hc : v.Calm) (ha : v.AtRest) (hcall : v.call? j = some c)
    (haddr : c.address = a) (hrun : v.run (List.replicate n (.step j)) = some v')
    (hrests : v'.Rests j) (hmem : .secured ∈ v.deeds j (List.replicate n (.step j))) :
    (v.deeds j (List.replicate n (.step j))).countP Call.Deed.isAsked = 1 ∧
      v'.site.registry.created = v.site.registry.created + 1 := by
  have hfirst : ∃ v₁, v.step? j = some v₁ := by
    cases n with
    | zero => cases hmem
    | succ n =>
        obtain ⟨v₁, hp, -⟩ := Option.bind_eq_some_iff.mp hrun
        exact ⟨v₁, hp⟩
  obtain ⟨v₁, hp⟩ := hfirst
  obtain ⟨⟨c', hc', haddr', hacc, hgoes⟩, hcreated, hasks⟩ :=
    (hb.begins ha hcall haddr hp).run hc hrun
  rw [List.nil_append] at hacc hcreated hasks
  have hasked : ∃ answer, .asked answer ∈ v.deeds j (List.replicate n (.step j)) := by
    rcases hasks with ⟨hbare, hstart⟩ | hasked
    · exact hacc.asked (hrests _ (call?_eq_some.mp hc')) hgoes
        (fun e => hbare.idle j c' e hc' haddr') hstart hmem
    · exact hasked
  obtain ⟨answer, hin⟩ := hasked
  have hone : (v.deeds j (List.replicate n (.step j))).countP Call.Deed.isAsked = 1 :=
    Nat.le_antisymm hacc.story.bounds.1 (List.countP_pos_iff.mpr ⟨_, hin, rfl⟩)
  exact ⟨hone, hone ▸ hcreated⟩

-- =============================================== from tick to tick

/-- Of the ticks that come at whole intervals `p` after `s`, the `k`-th is
the first that is due. -/
structure FirstTick (s p due k : Nat) : Prop where
  pos : 1 ≤ k
  late : due ≤ s + k * p
  first : ∀ m, 1 ≤ m → due ≤ s + m * p → k ≤ m

/-- The registry between turns, with nothing in it but calls and the
background sweep. -/
structure Stands (policy : SweepPolicy) (w : BusWorld) : Prop where
  calm : w.Calm
  atRest : w.AtRest
  policy : w.site.registry.policy = policy

section

variable {policy : SweepPolicy} {s K : Nat} {rest : List (Happening × BusWorld)}

theorem Stands.occurs (hw : w.Stands policy) (hu : w.Unattended h) (ho : w.Occurs h w') :
    w'.Stands policy := by
  obtain ⟨hc, ha⟩ := hw.calm.occurs hw.atRest hu ho
  exact ⟨hc, ha, (hw.calm.orderly.sound.policy_reaches ho.reaches).trans hw.policy⟩

/-- A session that is not used stays as it is until the first tick that is
due. -/
theorem Kept.occurs (hk : w.Kept a e d u) (hw : w.Stands policy)
    (hA : w.Awaits s policy.sweepInterval.nanos K ((h, w') :: rest))
    (hpunct : w.Punctual h) (hu : w.Unattended h) (hpos : 0 < policy.sweepInterval.nanos)
    (hfirst : FirstTick s policy.sweepInterval.nanos (u + policy.idleThreshold.nanos) K)
    (hidle : Idle a w w') (ho : w.Occurs h w') :
    w'.Kept a e d u ∨ w.TicksAt (s + K * policy.sweepInterval.nanos) h := by
  obtain ⟨hc, ha, rfl⟩ := hw
  rcases ho.turn_or_beside with ⟨id, rfl, hturn⟩ | ⟨hne, hp⟩
  · obtain ⟨w₁, hstep⟩ := hturn.first
    obtain ⟨t, -, -, ht, -⟩ := step?_eq_some hstep
    rcases hc.kinds id t ht with ⟨c, rfl⟩ | ⟨k, rfl, -⟩
    · exact .inl (hk.call hc ha (call?_eq_some.mpr ht) hturn hidle)
    · rcases hA.ticker hc ht hstep with ⟨rfl, -⟩ | ⟨m, hm, hmK, hclock, rfl⟩
      · exact .inl (hk.setsOut hc hpos ht hturn)
      · rcases Nat.eq_or_lt_of_le hmK with rfl | hlt
        · exact .inr ⟨hclock, id, rfl, hclock ▸ ht⟩
        · -- it is too early for the sweep to take the session
          refine .inl (hk.spared hc ha hpos ht hturn (Nat.not_le.mp fun hle => ?_))
          exact Nat.not_le.mpr hlt (hfirst.first m hm (hclock ▸ hle))
  · exact .inl (hk.beside hc ha hne hpunct hu hp)

/-- Whatever happens leaves the background sweep waiting for a tick, or
the tick is past. -/
theorem Stands.waits (hw : w.Stands policy)
    (hA : w.Awaits s policy.sweepInterval.nanos K ((h, w') :: rest) ∨
      s + K * policy.sweepInterval.nanos ≤ w.site.clock)
    (hpunct : w.Punctual h) (hu : w.Unattended h) (hpos : 0 < policy.sweepInterval.nanos)
    (hK : 1 ≤ K) (hnamed : s + K * policy.sweepInterval.nanos < Clock.horizon)
    (ho : w.Occurs h w') : w'.Awaits s policy.sweepInterval.nanos K rest ∨
      s + K * policy.sweepInterval.nanos ≤ w'.site.clock := by
  obtain ⟨hc, ha, rfl⟩ := hw
  have hlater := hc.orderly.sound.clock_reaches ho.reaches
  rcases hA with hA | hpast
  · rcases hA.occurs hc ha hpunct hu rfl hpos hK hnamed ho with hA' | ⟨hclock, -⟩
    · exact .inl hA'
    · exact .inr (hclock ▸ hlater)
  · exact .inr (Nat.le_trans hpast hlater)

end

-- ========================================================== along a path

section

variable {I : BusWorld → List (Happening × BusWorld) → Prop}
  {P R : BusWorld → Happening → BusWorld → Prop} {path rest : List (Happening × BusWorld)}

theorem Along.and (hP : w.Along P path) (hR : w.Along R path) :
    w.Along (fun v h v' => P v h v' ∧ R v h v') path := by
  induction path generalizing w with
  | nil => exact True.intro
  | cons q path ih => exact ⟨⟨hP.1, hR.1⟩, ih hP.2 hR.2⟩

/-- What is kept by whatever happens on a path is so at each point of
it. -/
theorem Path.upTo (hpath : w.Path (path ++ rest)) (hP : w.Along P (path ++ rest))
    (h₀ : I w (path ++ rest))
    (hstep : ∀ v h v' rest, v.Occurs h v' → P v h v' → I v ((h, v') :: rest) → I v' rest) :
    ∃ v, v.Path rest ∧ v.Along P rest ∧ I v rest := by
  induction path generalizing w with
  | nil => exact ⟨w, hpath, hP, h₀⟩
  | cons q path ih =>
      exact ih hpath.2 hP.2 (hstep w q.1 q.2 _ hpath.1 hP.1 h₀)

/-- And what follows from it for each thing that happens is so along the
path. -/
theorem Path.along (hpath : w.Path path) (hP : w.Along P path) (h₀ : I w path)
    (hstep : ∀ v h v' rest, v.Occurs h v' → v'.Path rest → P v h v' → I v ((h, v') :: rest) →
      R v h v' ∧ I v' rest) : w.Along R path := by
  induction path generalizing w with
  | nil => exact True.intro
  | cons q path ih =>
      obtain ⟨hR, hI⟩ := hstep w q.1 q.2 path hpath.1 hpath.2 hP.1 h₀
      exact ⟨hR, ih hpath.2 hP.2 hI⟩

end

-- ====================================================== the whole story

/-- What becomes of a session, on descriptor `d`, that is not used at its
address until the tick at the instant `T`. -/
structure Expires (T : Instant) (d : Int) (a : Address) (w : BusWorld) (h : Happening)
    (w' : BusWorld) : Prop where
  before : w'.site.clock < T → w'.Online d a
  -- nothing takes it offline but the tick, and the tick does
  tick : w.Online d a → (¬ w'.Online d a ↔ w.TicksAt T h)
  once : ¬ w'.Online d a → w'.site.bus.offlineCalls d = 1
  after : T < w'.site.clock → ¬ w'.Online d a
  -- and then a call that gets the lock in its turn asks for one session
  renewed : ¬ w'.Online d a → ∀ j n v c, w'.call? j = some c → c.address = a →
    w'.run (List.replicate n (.step j)) = some v → v.Rests j →
    .secured ∈ w'.deeds j (List.replicate n (.step j)) →
    (w'.deeds j (List.replicate n (.step j))).countP Call.Deed.isAsked = 1 ∧
      v.site.registry.created = w'.site.registry.created + 1

section

variable {policy : SweepPolicy} {T : Instant}

theorem Expires.kept (hk : w'.Kept a e d u) (hw' : w'.Sound) (hle : w'.site.clock ≤ T)
    (hno : ¬ w.TicksAt T h) : w.Expires T d a h w' where
  before := fun _ => hk.online hw'
  tick := fun _ => ⟨fun hoff => absurd (hk.online hw') hoff, fun ht => absurd ht hno⟩
  once := fun hoff => absurd (hk.online hw') hoff
  after := fun hlt => absurd hle (Nat.not_le.mpr hlt)
  renewed := fun hoff => absurd (hk.online hw') hoff

theorem Expires.gone (hoff : w'.Offline d) (hb : Bare a w') (hw' : w'.Stands policy)
    (hle : T ≤ w'.site.clock) (hby : w.Online d a → w.TicksAt T h) : w.Expires T d a h w' where
  before := fun hlt => absurd hle (Nat.not_le.mpr hlt)
  tick := fun hon => ⟨fun _ => hby hon, fun _ => hoff.not_online hw'.calm.orderly.sound⟩
  once := fun _ => hoff.2
  after := fun _ => hoff.not_online hw'.calm.orderly.sound
  renewed := fun _ _ _ _ _ hcall haddr hrun hrests hmem =>
    hb.renews hw'.calm hw'.atRest hcall haddr hrun hrests hmem

end

/-- When the background sweep gives up a session. It sets out at `s` in
some run, and looks for unused sessions every `p`. A call of the address
`a` comes to the end of its program on the descriptor `d` and leaves the
session open, at the instant that is then on the clock; the threshold is
`h`, and the `K`-th tick is the first that is due. As long as no program
is started at `a`, the session is online before that tick, is taken
offline at that tick, once, and the next call to get the lock asks for
exactly one new session.

The clock is virtual, so the tasks go on in turns, and the tick can be
named. No sweep is asked for, nothing is disposed of and the ticker is not
dropped. Otherwise anything may happen: other addresses are used, faults
are injected, calls of `a` ask for the lock in vain or are dropped. -/
theorem idle_session_expires {b : Simulated} {options : SessionOptions} {h p : Duration}
    {s K : Nat} {before quiet : List (Happening × BusWorld)} (hb : 0 ≤ b.nextDescriptor)
    (hh : 0 < h.nanos) (hp : 0 < p.nanos)
    (hpath : (World.unused b options ⟨h, p⟩).Path (before ++ (.step id, w) :: quiet))
    (hrules : (World.unused b options ⟨h, p⟩).Along (fun v g _ => v.Punctual g ∧ v.Unattended g)
      (before ++ (.step id, w) :: quiet))
    (hstart : (World.unused b options ⟨h, p⟩).sweepStart? (before ++ (.step id, w) :: quiet) =
      some s)
    (hret : w.Returned id a d) (hon : w.Online d a)
    (hidle : w.Along (fun v _ v' => Idle a v v') quiet)
    (hfirst : FirstTick s p.nanos (w.site.clock + h.nanos) K)
    (hnamed : s + K * p.nanos < Clock.horizon) :
    w.Along (Expires (s + K * p.nanos) d a) quiet := by
  -- up to the end of the program
  obtain ⟨v, hpathv, hrulesv, hv, hAv⟩ := hpath.upTo
    (I := fun v rest => v.Stands ⟨h, p⟩ ∧
      (v.Awaits s p.nanos K rest ∨ s + K * p.nanos ≤ v.site.clock)) hrules
    ⟨⟨calm_unused hb options _, (fun _ _ ht => nomatch ht), rfl⟩,
      .inl (.unset hstart fun _ _ ht => nomatch ht)⟩
    fun v g v' rest ho hr hI => ⟨hI.1.occurs hr.2 ho,
      hI.1.waits hI.2 hr.1 hr.2 hp hfirst.pos hnamed ho⟩
  have hw : w.Stands ⟨h, p⟩ := hv.occurs hrulesv.1.2 hpathv.1
  have hA : w.Awaits s p.nanos K quiet := by
    refine (hv.waits hAv hrulesv.1.1 hrulesv.1.2 hp hfirst.pos hnamed hpathv.1).resolve_right
      fun hpast => ?_
    exact Nat.not_lt.mpr (Nat.le_trans hfirst.late hpast) (Nat.lt_add_of_pos_right hh)
  obtain ⟨e, hk⟩ := hv.calm.keeps hv.atRest hpathv.1 hret hon
  -- and from there on
  refine hpathv.2.along (I := fun v rest => v.Stands ⟨h, p⟩ ∧
      (v.Kept a e d w.site.clock ∧ v.Awaits s p.nanos K rest ∨
        v.Offline d ∧ Bare a v ∧ s + K * p.nanos ≤ v.site.clock))
    (hrulesv.2.and hidle) ⟨hw, .inl ⟨hk, hA⟩⟩ ?_
  rintro v g v' rest ho hpath' ⟨⟨hpunct, hu⟩, hidle'⟩ ⟨hv, hI⟩
  have hv' := hv.occurs hu ho
  have hlater := hv.calm.orderly.sound.clock_reaches ho.reaches
  rcases hI with ⟨hkv, hAv⟩ | ⟨hoff, hbare, hpast⟩
  · by_cases htick : v.TicksAt (s + K * p.nanos) g
    · obtain ⟨hclock, i, rfl, ht⟩ := htick
      obtain ⟨hoff, hbare⟩ := hkv.lapses hv.calm hv.atRest (by rw [hv.policy]; exact hp)
        (hclock ▸ ht) ho (by rw [hv.policy]; exact hh)
        (by rw [hv.policy, hclock]; exact hfirst.late)
      have hpast : s + K * p.nanos ≤ v'.site.clock := hclock ▸ hlater
      exact ⟨.gone hoff hbare hv' hpast fun _ => ⟨hclock, i, rfl, ht⟩, hv',
        .inr ⟨hoff, hbare, hpast⟩⟩
    · have hk' := (hkv.occurs hv hAv hpunct hu hp hfirst hidle' ho).resolve_right htick
      have hA' := (hAv.occurs hv.calm hv.atRest hpunct hu (congrArg (·.sweepInterval.nanos) hv.policy)
        hp hfirst.pos hnamed ho).resolve_right htick
      exact ⟨.kept hk' hv'.calm.orderly.sound
        (hA'.clock_le hv'.calm.orderly.sound hpath') htick, hv', .inl ⟨hk', hA'⟩⟩
  · have hpast' := Nat.le_trans hpast hlater
    have hoff' := hoff.reaches hv.calm.orderly.sound ho.reaches
    have hbare' := hbare.occurs hv.calm hv.atRest hu ho hidle'
    exact ⟨.gone hoff' hbare' hv' hpast'
      fun hon => absurd hon (hoff.not_online hv.calm.orderly.sound), hv',
      .inr ⟨hoff', hbare', hpast'⟩⟩

/-- What the first turn on a path leads to, and what happens then. -/
def afterTurn? (id : TaskId) :
    List (Happening × BusWorld) → Option (BusWorld × List (Happening × BusWorld))
  | (.step i, w) :: rest => if i = id then some (w, rest) else none
  | _ => none

theorem afterTurn?_eq_some {path rest : List (Happening × BusWorld)}
    (h : afterTurn? id path = some (w, rest)) : path = (.step id, w) :: rest := by
  unfold afterTurn? at h
  split at h
  · split at h
    next hi =>
      cases h
      rw [hi]
    next => cases h
  · cases h

/-- A call that is over at once, two ticks a second apart, and another call
that is made after them. -/
def idleForTwoTicks : List (Happening × Nat) :=
  [(.startSweep, 0), (.step 0, 0), (.execute ⟨5, 0⟩ [] false, 0), (.step 1, 7),
    (.elapse (.ofSecs 1), 0), (.step 0, 6), (.elapse (.ofSecs 1), 0), (.step 0, 8),
    (.execute ⟨5, 0⟩ [] false, 0)]

/-- With a threshold of two seconds the session is given up at the second
tick. -/
theorem idle_session_expires_at_second_tick :
    ∃ before w quiet, (World.unused .empty .standard ⟨.ofSecs 2, .ofSecs 1⟩).Path
        (before ++ (.step 1, w) :: quiet) ∧
      quiet.map (·.1) = (idleForTwoTicks.map (·.1)).drop 4 ∧
      w.site.clock = 0 ∧ w.Returned 1 ⟨5, 0⟩ 16 ∧ w.Online 16 ⟨5, 0⟩ ∧
      w.Along (Expires (0 + 2 * Duration.nanos (.ofSecs 1)) 16 ⟨5, 0⟩) quiet := by
  have hrun : ((World.unused .empty .standard ⟨.ofSecs 2, .ofSecs 1⟩).path? idleForTwoTicks).any
      (fun path =>
        (World.unused .empty .standard ⟨.ofSecs 2, .ofSecs 1⟩).Along
          (fun v g _ => v.Punctual g ∧ v.Unattended g) path &&
        (World.unused .empty .standard ⟨.ofSecs 2, .ofSecs 1⟩).sweepStart? path == some 0 &&
        (afterTurn? 1 (path.drop 3)).any fun q =>
          q.1.Along (fun v _ v' => Idle ⟨5, 0⟩ v v') q.2 && q.1.site.clock == 0 &&
          ((q.1.call? 1).any fun c => c.address == ⟨5, 0⟩ && c.entered == some (0, 16) &&
            c.outcome?.isSome) &&
          decide (16 ∈ q.1.site.bus.opened ∧
            q.1.site.bus.bus.link? 16 = some ⟨⟨5, 0⟩, true⟩)) = true := by
    decide +kernel
  obtain ⟨path, hpath, hall⟩ := (Option.any_eq_true _ _).mp hrun
  obtain ⟨hp, hmap⟩ := path_of_path? hpath
  rw [← List.take_append_drop 3 path] at hp
  simp only [Bool.and_eq_true, beq_iff_eq, decide_eq_true_iff] at hall
  obtain ⟨⟨hrules, hstart⟩, hrest⟩ := hall
  rw [← List.take_append_drop 3 path] at hrules hstart
  have hafter : (path.drop 3).map (·.1) = (idleForTwoTicks.map (·.1)).drop 3 := by
    rw [← hmap, List.map_drop]
  obtain ⟨⟨w, quiet⟩, hdrop, hrest⟩ := (Option.any_eq_true _ _).mp hrest
  rw [afterTurn?_eq_some hdrop] at hp hrules hstart hafter
  simp only [Bool.and_eq_true, beq_iff_eq, decide_eq_true_iff] at hrest
  obtain ⟨⟨⟨hidle, hclock⟩, hcall⟩, hon⟩ := hrest
  obtain ⟨c, hc, hcall⟩ := (Option.any_eq_true _ _).mp hcall
  simp only [Bool.and_eq_true, beq_iff_eq] at hcall
  obtain ⟨⟨haddr, hent⟩, hout⟩ := hcall
  obtain ⟨result, hresult⟩ := Option.isSome_iff_exists.mp hout
  have hret : w.Returned 1 ⟨5, 0⟩ 16 := ⟨c, 0, result, hc, haddr, hent, hresult⟩
  have hfirst : FirstTick 0 (Duration.nanos (.ofSecs 1))
      (w.site.clock + Duration.nanos (.ofSecs 2)) 2 := by
    rw [hclock]
    refine ⟨by decide, by decide, fun m _ hle => ?_⟩
    rw [show Duration.nanos (.ofSecs 1) = 1000000000 from rfl,
      show Duration.nanos (.ofSecs 2) = 2000000000 from rfl] at hle
    omega
  exact ⟨_, w, quiet, hp, (List.cons.inj hafter).2, hclock, hret, hon,
    idle_session_expires (by decide) (by decide) (by decide) hp hrules hstart hret hon hidle
      hfirst (by decide)⟩

end World

end InstrumentBus
