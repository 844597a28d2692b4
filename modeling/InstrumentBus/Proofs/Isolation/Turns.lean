/-
Runs in which tasks change only where they wait, on both sides.

A turn of a task is all it does from where it waits to where it waits
again. A run of turns (`World.Path`) is a run whose steps come in turns;
that is how a scheduler that is never told to yield goes about it, and it
is coarse enough for a sweep, which never waits, to be one event on both
sides although it has fewer entries to look at on one.

`World.Mirrors` puts the pieces of the earlier files together. Whatever
happens keeps it: done on both sides, unless it is done by or to a task
that works on another address, which is done on one.
-/
import InstrumentBus.Proofs.Isolation.Steps
import InstrumentBus.Proofs.Registry.Sound

namespace InstrumentBus

-- ============================================================= turns

namespace World

/-- A task waits, has not begun, or is over. -/
def Rests (w : BusWorld) (id : TaskId) : Prop := ∀ t, w.task? id = some t → t.atRest = true

/-- A task goes on from where it waits to where it waits again. -/
def Turn (w : BusWorld) (id : TaskId) (w' : BusWorld) : Prop :=
  w.Rests id ∧ w'.Rests id ∧ ∃ n, w.run (List.replicate (n + 1) (.step id)) = some w'

/-- Something happens, and if it is a task that goes on, then for a whole
turn. -/
def Occurs (w : BusWorld) (h : Happening) (w' : BusWorld) : Prop :=
  match h with
  | .step id => w.Turn id w'
  | h => w.perform h = some w'

/-- What happens one after the other, each with the world it leads to. -/
def Path : BusWorld → List (Happening × BusWorld) → Prop
  | _, [] => True
  | w, (h, w') :: rest => w.Occurs h w' ∧ Path w' rest

instance (w : BusWorld) (id : TaskId) : Decidable (w.Rests id) :=
  decidable_of_iff ((w.task? id).all (·.atRest) = true) <| by
    unfold Rests
    cases w.task? id with
    | none => exact ⟨fun _ t ht => absurd ht.symm (Option.some_ne_none t), fun _ => rfl⟩
    | some t => exact ⟨fun h _ ht => Option.some.inj ht ▸ h, fun h => h t rfl⟩

/-- What a happening leads to, given how many steps a turn takes beyond
its first. -/
def occurs? (w : BusWorld) (h : Happening) (n : Nat) : Option BusWorld :=
  match h with
  | .step id =>
    (w.run (List.replicate (n + 1) (.step id))).filter fun w' => w.Rests id ∧ w'.Rests id
  | h => w.perform h

/-- The path that happenings make, one after the other. -/
def path? : BusWorld → List (Happening × Nat) → Option (List (Happening × BusWorld))
  | _, [] => some []
  | w, (h, n) :: rest => (w.occurs? h n).bind fun w' => (path? w' rest).map ((h, w') :: ·)

theorem occurs_of_occurs? {w w' : BusWorld} {h : Happening} {n : Nat}
    (ho : w.occurs? h n = some w') : w.Occurs h w' := by
  cases h with
  | step id =>
      obtain ⟨hrun, hrest⟩ := Option.filter_eq_some_iff.mp ho
      obtain ⟨hw, hw'⟩ := of_decide_eq_true hrest
      exact ⟨hw, hw', n, hrun⟩
  | _ => exact ho

theorem path_of_path? {w : BusWorld} {plan : List (Happening × Nat)}
    {path : List (Happening × BusWorld)} (hp : w.path? plan = some path) :
    w.Path path ∧ path.map (·.1) = plan.map (·.1) := by
  induction plan generalizing w path with
  | nil =>
      cases hp
      exact ⟨True.intro, rfl⟩
  | cons p rest ih =>
      obtain ⟨h, n⟩ := p
      obtain ⟨w', ho, hrest⟩ := Option.bind_eq_some_iff.mp hp
      obtain ⟨path', hp', rfl⟩ := Option.map_eq_some_iff.mp hrest
      obtain ⟨hpath, hmap⟩ := ih hp'
      exact ⟨⟨occurs_of_occurs? ho, hpath⟩, congrArg (h :: ·) hmap⟩

/-- A registry whose background sweep starts with it. -/
def begun (b : Simulated) (options : SessionOptions) (policy : SweepPolicy) : BusWorld :=
  (unused b options policy).startSweep

/-- What happens is done by or to a call of another address. -/
def Elsewhere (A : Address) (w : BusWorld) (h : Happening) : Prop :=
  ∃ id c, h.subject? = some id ∧ w.call? id = some c ∧ c.address ≠ A

end World

/-- No fault is injected, no open is refused by force, and nothing is
disposed of. -/
def Happening.isCalm : Happening → Bool
  | .dispose | .stimulate (.injectFault _) | .stimulate (.refuseOpens _) => false
  | _ => true

/-- A task keeps working on the address it was begun for. -/
theorem Task.Follows.address? {t t' : Task} (h : t.Follows t') : t'.address? = t.address? := by
  cases h with
  | call ha _ _ => exact congrArg some ha
  | _ => rfl

/-- The same is done to both buses from outside. -/
theorem Recorded.Mirrors.stimulated {A : Address} {ρ : Naming} {b c : Recorded Simulated}
    (h : b.Mirrors A ρ c) {s : Stimulus} (hs : Happening.isCalm (.stimulate s) = true) :
    ({ b with bus := b.bus.stimulate s } : Recorded Simulated).Mirrors A ρ
      { c with bus := c.bus.stimulate s } := by
  -- the links stay, and so does what the instruments differ in elsewhere
  have hmodify : ∀ a f, (c.bus.modifyInstrument a f).instrument? A =
      (b.bus.modifyInstrument a f).instrument? A := by
    intro a f
    rw [Simulated.instrument?_modify, Simulated.instrument?_modify, h.instrument]
  cases s with
  | attach a i =>
      refine { h with instrument := ?_ }
      show Keyed.get? (Keyed.set _ a i) A = Keyed.get? (Keyed.set _ a i) A
      rw [Keyed.get?_set, Keyed.get?_set]
      split
      · rfl
      · exact h.instrument
  | pushOutput a bytes => exact { h with instrument := hmodify a _ }
  | setStatus a status => exact { h with instrument := hmodify a _ }
  | scriptDiscovery words reported => exact { h with }
  | refuseOpens refuse => cases hs
  | injectFault f => cases hs

-- =============================================== what only ever grows

namespace Site

variable {x x' : BusSite} {held : Option EntryId}

/-- Descriptors are handed out in order. -/
theorem Turnover.next_le (h : Turnover held x x') :
    x.bus.bus.nextDescriptor ≤ x'.bus.bus.nextDescriptor := by
  cases h with
  | idle hl ht hs => exact Int.le_of_eq hl.2.symm
  | acted e s s' kept hh hk h h' hs hc => exact Int.le_of_eq hc.next.symm
  | asked e a o r hh ha h h' hs hc =>
      obtain ⟨bus, d, hopen, hrun⟩ := run_connect_recorded a o x.bus
      have hbus : x'.bus.bus = bus := by
        rw [hc] at hrun
        split at hrun <;> exact congrArg (fun p => p.2.bus) hrun
      rw [hbus]
      unfold Simulated.openDevice at hopen
      split at hopen
      · cases hopen
        exact Int.le_refl _
      · split at hopen
        · cases hopen
          exact Int.le_refl _
        · cases hopen
          exact Int.le_add_one (Int.le_refl _)

end Site

namespace World

variable {A : Address} {ρ : Naming} {w w' w₁ v : BusWorld} {id : TaskId}

/-- Entries and descriptors are added and never taken away. -/
structure Grows (w w' : BusWorld) : Prop where
  entries : w.site.registry.entries.length ≤ w'.site.registry.entries.length
  descriptors : w.site.bus.bus.nextDescriptor ≤ w'.site.bus.bus.nextDescriptor

theorem Grows.refl (w : BusWorld) : Grows w w := ⟨Nat.le_refl _, Int.le_refl _⟩

theorem Grows.trans (h : Grows w w₁) (h' : Grows w₁ w') : Grows w w' :=
  ⟨Nat.le_trans h.entries h'.entries, Int.le_trans h.descriptors h'.descriptors⟩

theorem Change.grows {who : Option TaskId} (hc : Change who w w') : Grows w w' := by
  cases hc with
  | task id t t' hid ht hw he hs hp hf => exact ⟨he.cache.length_le, he.slots.next_le⟩
  | begun t hf hw hb hr =>
      exact ⟨Nat.le_of_eq hr.length.symm, Int.le_of_eq (by rw [hb])⟩
  | beside hw hl ht hr =>
      exact ⟨Nat.le_of_eq (by rw [hr]), Int.le_of_eq hl.2.symm⟩

theorem Sound.grows (hw : w.Sound) (hr : w.Reaches w') : w'.Sound ∧ Grows w w' :=
  hr.induct (P := fun w' => w'.Sound ∧ Grows w w') ⟨hw, .refl w⟩ fun _ _ _ h hp =>
    ⟨h.1.change (h.1.perform_change hp), h.2.trans (h.1.perform_change hp).grows⟩

theorem Occurs.reaches {h : Happening} (ho : w.Occurs h w') : w.Reaches w' := by
  cases h with
  | step id =>
      obtain ⟨-, -, n, hrun⟩ := ho
      exact ⟨_, hrun⟩
  | _ => exact .perform ho

-- ==================================================== worlds mirrored

/-- The world `v` is what is left of the world `w` when only the address
`A` is looked at. -/
structure Mirrors (A : Address) (ρ : Naming) (w v : BusWorld) : Prop where
  site : w.site.Mirrors A ρ v.site
  length : v.tasks.length = w.tasks.length
  tasks : ∀ j t, w.task? j = some t →
    ∃ t', v.task? j = some t' ∧ t.Mirrors A ρ w.site.registry.entries.length t'

namespace Mirrors

variable {ρ' : Naming} {x' y' : BusSite} {t t' t₁ t₁' : Task}

theorem task?_none (h : w.Mirrors A ρ v) (ht : w.task? id = none) : v.task? id = none := by
  have hle : w.tasks.length ≤ id := List.getElem?_eq_none_iff.mp ht
  exact List.getElem?_eq_none (h.length ▸ hle)

/-- A task has gone on, on both sides. -/
theorem both (h : w.Mirrors A ρ v) (ht : w.task? id = some t) (ht' : v.task? id = some t')
    (hext : ρ.Extends ρ' w.site.registry.entries.length w.site.bus.bus.nextDescriptor)
    (hlen : w.site.registry.entries.length ≤ x'.registry.entries.length) (hx : x'.Mirrors A ρ' y')
    (hm : t₁.Mirrors A ρ' x'.registry.entries.length t₁') :
    Mirrors A ρ' ⟨x', w.tasks.set id t₁⟩ ⟨y', v.tasks.set id t₁'⟩ := by
  refine ⟨hx, by simp only [List.length_set, h.length], fun j u hu => ?_⟩
  rw [task?_set ht] at hu
  rw [task?_set ht']
  split at hu
  next hj =>
    cases hu
    exact ⟨t₁', if_pos hj, hm⟩
  next hj =>
    obtain ⟨u', hu', hm'⟩ := h.tasks j u hu
    exact ⟨u', (if_neg hj).trans hu', hm'.extends hext hlen⟩

/-- A task has gone on, on one side. -/
theorem one (h : w.Mirrors A ρ v) (ht : w.task? id = some t) (ht' : v.task? id = some t')
    (hlen : w.site.registry.entries.length ≤ x'.registry.entries.length)
    (hx : x'.Mirrors A ρ v.site) (hm : t₁.Mirrors A ρ x'.registry.entries.length t') :
    Mirrors A ρ ⟨x', w.tasks.set id t₁⟩ v := by
  refine ⟨hx, by simp only [List.length_set, h.length], fun j u hu => ?_⟩
  rw [task?_set ht] at hu
  split at hu
  next hj =>
    cases hu
    exact ⟨t', hj ▸ ht', hm⟩
  next hj =>
    obtain ⟨u', hu', hm'⟩ := h.tasks j u hu
    exact ⟨u', hu', hm'.extends (.refl ρ _ 0) hlen⟩

/-- A task has begun, on both sides. -/
theorem begin_ (h : w.Mirrors A ρ v) (hx : x'.Mirrors A ρ y')
    (hlen : x'.registry.entries.length = w.site.registry.entries.length)
    (hm : t.Mirrors A ρ w.site.registry.entries.length t') :
    Mirrors A ρ ⟨x', w.tasks ++ [t]⟩ ⟨y', v.tasks ++ [t']⟩ := by
  refine ⟨hx, by simp only [List.length_append, h.length, List.length_singleton], fun j u hu => ?_⟩
  show ∃ u', _ ∧ u.Mirrors A ρ x'.registry.entries.length u'
  rw [hlen]
  rw [task?_append] at hu
  rw [task?_append]
  have hnext : v.nextId = w.nextId := h.length
  rw [hnext]
  split at hu
  next hj =>
    cases hu
    exact ⟨t', if_pos hj, hm⟩
  next hj =>
    obtain ⟨u', hu', hm'⟩ := h.tasks j u hu
    exact ⟨u', (if_neg hj).trans hu', hm'⟩

end Mirrors

-- ======================================================== one at a time

theorem step?_eq_some (h : w.step? id = some w₁) :
    ∃ t t₁ x', w.task? id = some t ∧ t.step id w.site = some (t₁, x') ∧
      w₁ = ⟨x', w.tasks.set id t₁⟩ := by
  unfold step? at h
  cases ht : w.task? id with
  | none =>
      rw [ht] at h
      cases h
  | some t =>
      rw [ht] at h
      obtain ⟨⟨t₁, x'⟩, hstep, rfl⟩ := Option.map_eq_some_iff.mp h
      exact ⟨t, t₁, x', rfl, hstep, rfl⟩

theorem step?_of_step {t t₁ : Task} {x' : BusSite} (ht : w.task? id = some t)
    (h : t.step id w.site = some (t₁, x')) : w.step? id = some ⟨x', w.tasks.set id t₁⟩ := by
  unfold step?
  rw [ht]
  exact Option.map_eq_some_iff.mpr ⟨(t₁, x'), h, rfl⟩

theorem drop_of_none (ht : w.task? id = none) : w.drop id = w := by
  unfold World.drop
  rw [ht]

theorem drop_of_some {t : Task} (ht : w.task? id = some t) :
    w.drop id = ⟨(t.drop id w.site).2, w.tasks.set id (t.drop id w.site).1⟩ := by
  unfold World.drop
  rw [ht]

/-- A task works on another address, or it does not. -/
theorem elsewhere_iff {h : Happening} {t : Task} (hs : h.subject? = some id)
    (ht : w.task? id = some t) : Elsewhere A w h ↔ ∃ a, t.address? = some a ∧ a ≠ A := by
  constructor
  · rintro ⟨id', c, hid, hc, hne⟩
    rw [hs] at hid
    cases hid
    rw [call?_eq_some, ht] at hc
    cases hc
    exact ⟨c.address, rfl, hne⟩
  · rintro ⟨a, ha, hne⟩
    cases t with
    | call c =>
        cases ha
        exact ⟨id, c, hs, call?_eq_some.mpr ht, hne⟩
    | _ => cases ha

theorem here_of_not_elsewhere {h : Happening} {t : Task} (hs : h.subject? = some id)
    (ht : w.task? id = some t) (hne : ¬ Elsewhere A w h) :
    ∀ a, t.address? = some a → a = A := by
  intro a ha
  by_cases heq : a = A
  · exact heq
  · exact absurd ((elsewhere_iff hs ht).mpr ⟨a, ha, heq⟩) hne

/-- A task keeps working on what it works on. -/
theorem elsewhere_step (h : w.step? id = some w₁) :
    Elsewhere A w₁ (.step id) ↔ Elsewhere A w (.step id) := by
  obtain ⟨t, t₁, x', ht, hstep, rfl⟩ := step?_eq_some h
  have ht₁ : task? ⟨x', w.tasks.set id t₁⟩ id = some t₁ :=
    (task?_set ht t₁ x' id).trans (if_pos rfl)
  rw [elsewhere_iff rfl ht₁, elsewhere_iff rfl ht, (Task.step_follows hstep).address?]

theorem elsewhere_steps {k : Nat} (h : w.run (List.replicate k (.step id)) = some w') :
    Elsewhere A w' (.step id) ↔ Elsewhere A w (.step id) := by
  induction k generalizing w with
  | zero =>
      cases h
      exact Iff.rfl
  | succ k ih =>
      obtain ⟨w₁, hstep, hrest⟩ := Option.bind_eq_some_iff.mp h
      exact (ih hrest).trans (elsewhere_step hstep)

theorem Sound.step_grows (hw : w.Sound) (h : w.step? id = some w₁) : w₁.Sound ∧ Grows w w₁ := by
  have hp : w.perform (.step id) = some w₁ := h
  exact hw.grows (.perform hp)

namespace Mirrors

/-- A step is taken on both sides, or it is not the first of a turn. -/
theorem step (h : w.Mirrors A ρ v) (hw : w.Sound) (hne : ¬ Elsewhere A w (.step id))
    (hstep : w.step? id = some w₁) :
    (∃ ρ' v₁, ρ.Extends ρ' w.site.registry.entries.length w.site.bus.bus.nextDescriptor ∧
      v.step? id = some v₁ ∧ w₁.Mirrors A ρ' v₁) ∨ (¬ w.Rests id ∧ w₁.Mirrors A ρ v) := by
  obtain ⟨t, t₁, x', ht, hs, rfl⟩ := step?_eq_some hstep
  obtain ⟨t', ht', hm⟩ := h.tasks id t ht
  have hlen := (hw.step_grows hstep).2.entries
  cases hm.step h.site hw.owned (here_of_not_elsewhere rfl ht hne) hs with
  | same ρ' t₁' y₁ hext hy hx hm₁ =>
      exact .inl ⟨ρ', _, hext, step?_of_step ht' hy,
        h.both ht ht' hext hlen hx (hm₁.extends (.refl ρ' _ 0) hlen)⟩
  | unseen hl hx hm₁ =>
      refine .inr ⟨fun hrest => ?_, h.one ht ht' hlen hx (hm₁.extends (.refl ρ _ 0) hlen)⟩
      rw [hrest t ht] at hl
      cases hl

/-- A step of a task that works on another address is not noticed. -/
theorem step_apart (h : w.Mirrors A ρ v) (hw : w.Sound) (he : Elsewhere A w (.step id))
    (hstep : w.step? id = some w₁) : w₁.Mirrors A ρ v := by
  obtain ⟨t, t₁, x', ht, hs, rfl⟩ := step?_eq_some hstep
  obtain ⟨t', ht', hm⟩ := h.tasks id t ht
  have hlen := (hw.step_grows hstep).2.entries
  obtain ⟨a, ha, hne⟩ := (elsewhere_iff rfl ht).mp he
  obtain ⟨hx, hm₁⟩ := hm.step_apart h.site hw.owned ha hne hlen hs
  exact h.one ht ht' hlen hx hm₁

/-- Steps of a task, one after the other. -/
theorem steps (h : w.Mirrors A ρ v) (hw : w.Sound) (hne : ¬ Elsewhere A w (.step id)) {k : Nat}
    (hrun : w.run (List.replicate k (.step id)) = some w') :
    ∃ ρ' k' v', ρ.Extends ρ' w.site.registry.entries.length w.site.bus.bus.nextDescriptor ∧
      v.run (List.replicate k' (.step id)) = some v' ∧ w'.Mirrors A ρ' v' := by
  induction k generalizing w v ρ with
  | zero =>
      cases hrun
      exact ⟨ρ, 0, v, .refl ρ _ _, rfl, h⟩
  | succ k ih =>
      obtain ⟨w₁, hstep, hrest⟩ := Option.bind_eq_some_iff.mp hrun
      obtain ⟨hw₁, hgrows⟩ := hw.step_grows hstep
      have hne₁ : ¬ Elsewhere A w₁ (.step id) := fun he => hne ((elsewhere_step hstep).mp he)
      rcases h.step hw hne hstep with ⟨ρ₁, v₁, hext, hv, h₁⟩ | ⟨-, h₁⟩
      · obtain ⟨ρ', k', v', hext', hv', h'⟩ := ih h₁ hw₁ hne₁ hrest
        refine ⟨ρ', k' + 1, v', hext.trans hext' hgrows.entries hgrows.descriptors, ?_, h'⟩
        exact Option.bind_eq_some_iff.mpr ⟨v₁, hv, hv'⟩
      · obtain ⟨ρ', k', v', hext', hv', h'⟩ := ih h₁ hw₁ hne₁ hrest
        exact ⟨ρ', k', v', (Naming.Extends.refl ρ _ _).trans hext' hgrows.entries
          hgrows.descriptors, hv', h'⟩

theorem steps_apart (h : w.Mirrors A ρ v) (hw : w.Sound) (he : Elsewhere A w (.step id)) {k : Nat}
    (hrun : w.run (List.replicate k (.step id)) = some w') : w'.Mirrors A ρ v := by
  induction k generalizing w with
  | zero =>
      cases hrun
      exact h
  | succ k ih =>
      obtain ⟨w₁, hstep, hrest⟩ := Option.bind_eq_some_iff.mp hrun
      exact ih (h.step_apart hw he hstep) (hw.step_grows hstep).1 ((elsewhere_step hstep).mpr he)
        hrest

/-- A task that waits is found waiting. -/
theorem rests (h : w.Mirrors A ρ v) (hne : ¬ Elsewhere A w (.step id)) (hr : w.Rests id) :
    v.Rests id := by
  intro t' ht'
  cases ht : w.task? id with
  | none =>
      rw [h.task?_none ht] at ht'
      cases ht'
  | some t =>
      obtain ⟨u, hu, hm⟩ := h.tasks id t ht
      rw [hu] at ht'
      cases ht'
      rw [hm.atRest fun c hc => here_of_not_elsewhere rfl ht hne c.address (hc ▸ rfl)]
      exact hr t ht

/-- A turn is taken on both sides. -/
theorem turn (h : w.Mirrors A ρ v) (hw : w.Sound) (hne : ¬ Elsewhere A w (.step id))
    (ht : w.Turn id w') :
    ∃ ρ' v', ρ.Extends ρ' w.site.registry.entries.length w.site.bus.bus.nextDescriptor ∧
      v.Turn id v' ∧ w'.Mirrors A ρ' v' := by
  obtain ⟨hrest, hrest', n, hrun⟩ := ht
  have hne' : ¬ Elsewhere A w' (.step id) := fun he => hne ((elsewhere_steps hrun).mp he)
  obtain ⟨w₁, hstep, hmore⟩ := Option.bind_eq_some_iff.mp hrun
  obtain ⟨hw₁, hgrows⟩ := hw.step_grows hstep
  have hne₁ : ¬ Elsewhere A w₁ (.step id) := fun he => hne ((elsewhere_step hstep).mp he)
  rcases h.step hw hne hstep with ⟨ρ₁, v₁, hext, hv, h₁⟩ | ⟨hno, -⟩
  · obtain ⟨ρ', k, v', hext', hv', h'⟩ := h₁.steps hw₁ hne₁ hmore
    exact ⟨ρ', v', hext.trans hext' hgrows.entries hgrows.descriptors,
      ⟨h.rests hne hrest, h'.rests hne' hrest', k, Option.bind_eq_some_iff.mpr ⟨v₁, hv, hv'⟩⟩, h'⟩
  · exact absurd hrest hno

/-- A task that has just begun on both sides, or on one only in name. -/
theorem fresh_call (a : Address) (p : Program) (cancelled : Bool) (n : Nat) :
    Call.Mirrors A ρ n { Call.new a p with cancelled } { Call.new a p with cancelled } := by
  by_cases ha : a = A
  · exact .ours ⟨ha, ha, rfl, rfl, .not, .nil, .check⟩
  · exact .apart ha rfl nofun

/-- Anything else happens on both sides. -/
theorem perform (h : w.Mirrors A ρ v) (hw : w.Sound) {a : Happening} (hcalm : a.isCalm = true)
    (hne : ¬ Elsewhere A w a) (hstep : ∀ id, a ≠ .step id) (hp : w.perform a = some w') :
    ∃ v', v.perform a = some v' ∧ w'.Mirrors A ρ v' := by
  cases a with
  | execute a p cancelled =>
      cases hp
      exact ⟨_, rfl, h.begin_ h.site rfl (.call (fresh_call a p cancelled _))⟩
  | evict =>
      cases hp
      exact ⟨_, rfl, h.begin_ h.site rfl
        (.sweep ⟨rfl, rfl, fun _ hp => absurd hp List.not_mem_nil, .list⟩)⟩
  | dispose => cases hcalm
  | startSweep =>
      cases hp
      refine ⟨_, rfl, ?_⟩
      obtain ⟨hdis, hdis'⟩ := h.site.registry.disposed
      unfold World.startSweep
      simp only [h.site.registry.sweepStarted, hdis, hdis', h.site.registry.policy]
      split
      · exact h
      · refine h.begin_ (h.site.modifyRegistry ?_) rfl (.ticker .fresh)
        exact { h.site.registry with sweepStarted := rfl }
  | step id => exact absurd rfl (hstep id)
  | cancel id =>
      cases hp
      refine ⟨_, rfl, h.site, by simp only [World.cancel, List.length_modify, h.length],
        fun j u hu => ?_⟩
      rw [task?_cancel] at hu
      rw [task?_cancel]
      split at hu
      next hj =>
        obtain ⟨t, ht, rfl⟩ := Option.map_eq_some_iff.mp hu
        obtain ⟨t', ht', hm⟩ := h.tasks id t ht
        refine ⟨t'.cancel, ?_, hm.cancel⟩
        rw [if_pos hj, ht']
        rfl
      next hj =>
        obtain ⟨u', hu', hm⟩ := h.tasks j u hu
        exact ⟨u', (if_neg hj).trans hu', hm⟩
  | drop id =>
      have hlen := (hw.grows (.perform hp)).2.entries
      cases hp
      refine ⟨_, rfl, ?_⟩
      cases ht : w.task? id with
      | none =>
          rw [drop_of_none ht, drop_of_none (h.task?_none ht)]
          exact h
      | some t =>
          obtain ⟨t', ht', hm⟩ := h.tasks id t ht
          obtain ⟨hx, hm'⟩ := hm.drop h.site (here_of_not_elsewhere rfl ht hne) id
          rw [drop_of_some ht] at hlen ⊢
          rw [drop_of_some ht']
          exact h.both ht ht' (.refl ρ _ _) hlen hx (hm'.extends (.refl ρ _ 0) hlen)
  | elapse d =>
      cases hp
      exact ⟨_, rfl, ⟨congrArg (· + d.nanos) h.site.clock, h.site.registry, h.site.bus⟩, h.length,
        h.tasks⟩
  | stimulate s =>
      cases hp
      exact ⟨_, rfl, ⟨h.site.clock, h.site.registry, h.site.bus.stimulated hcalm⟩, h.length,
        h.tasks⟩

/-- What is done by or to a task that works on another address is not
noticed. -/
theorem occurs_apart (h : w.Mirrors A ρ v) (hw : w.Sound) {a : Happening}
    (he : Elsewhere A w a) (ho : w.Occurs a w') : w'.Mirrors A ρ v := by
  have hlen := (hw.grows ho.reaches).2.entries
  obtain ⟨id, c, hid, hc, hne⟩ := he
  have ht := call?_eq_some.mp hc
  obtain ⟨t', ht', hm⟩ := h.tasks id _ ht
  cases a with
  | step j =>
      cases hid
      obtain ⟨-, -, n, hrun⟩ := ho
      exact h.steps_apart hw ⟨id, c, rfl, hc, hne⟩ hrun
  | cancel j =>
      cases hid
      cases ho
      refine ⟨h.site, by simp only [World.cancel, List.length_modify, h.length], fun j u hu => ?_⟩
      rw [task?_cancel] at hu
      split at hu
      next hj =>
        rw [ht] at hu
        cases hu
        exact ⟨t', hj ▸ ht', hm.cancel_apart rfl hne⟩
      next hj => exact h.tasks j u hu
  | drop j =>
      cases hid
      cases ho
      obtain ⟨hx, hm'⟩ := hm.drop_apart h.site rfl hne id
      rw [drop_of_some ht] at hlen ⊢
      exact h.one ht ht' hlen hx (hm'.extends (.refl ρ _ 0) hlen)
  | _ => cases hid

end Mirrors

end World

end InstrumentBus
