/-
What one address sees of the others: nothing.

Take any run of turns on one bus, without disposal, injected faults and
opens refused by force, and one address. Delete everything that calls of
other addresses do or have done to them. What is left is a run, and at
every point of it the address is where it was: its calls have given the
same answers and come to the same end at the same time, and the raw calls
made for it are the same, with the same registers after each. Only
descriptors have other names (`World.Thinned`).

The registers are shared, and a status, error or count that stands in
them may well be another address's. That it is never reported is part of
the statement: in the thinned run no call concerns another address
(`Alike.alone`), so there is none to report.
-/
import InstrumentBus.Proofs.Isolation.Turns

namespace InstrumentBus

-- ================================================== what is compared

/-- The address that a descriptor leads to. -/
def Simulated.home? (b : Simulated) (d : Int) : Option Address := (b.link? d).map (·.address)

namespace Recorded

/-- A call concerns an address: it asks for a session there, or it is made
on a descriptor that leads there. -/
def concerns (b : Recorded Simulated) (A : Address) (r : RawRecord) : Bool :=
  match r.call with
  | .openDevice request => request.address == A
  | call => call.descriptor?.bind b.bus.home? == some A

/-- The calls on record that concern an address. -/
def callsAt (b : Recorded Simulated) (A : Address) : List RawRecord := b.trace.filter (b.concerns A)

end Recorded

/-- The same call, but for the names of descriptors: asked for the same,
started at the same time, with the same answers, and over with the same
outcome if it is over. -/
structure Call.Alike (name : Int → Int) (c c' : Call) : Prop where
  address : c'.address = c.address
  program : c'.program = c.program
  cancelled : c'.cancelled = c.cancelled
  entered : c'.entered = c.entered.map fun p => (p.1, name p.2)
  replies : List.Forall₂ (Reply.Alike fun d d' => d' = name d) c.replies c'.replies
  outcome : c'.outcome? = c.outcome?
  isOver : c'.isOver = c.isOver

namespace World

/-- The worlds `w` and `v` look the same to the address `A`, but for the
names of descriptors. -/
structure Alike (A : Address) (name : Int → Int) (w v : BusWorld) : Prop where
  clock : v.site.clock = w.site.clock
  -- the calls of the address are alike
  calls : ∀ j c, w.call? j = some c → c.address = A → ∃ c', v.call? j = some c' ∧ c.Alike name c'
  -- the raw calls are those that concern the address, with the same
  -- registers after each
  trace : v.site.bus.trace = (w.site.bus.callsAt A).map (·.renamed name)
  -- no raw call concerns another address
  alone : v.site.bus.callsAt A = v.site.bus.trace
  -- the instrument at the address is in the same state
  instrument : v.site.bus.bus.instrument? A = w.site.bus.bus.instrument? A
  -- different descriptors of the address have different names
  names : ∀ d ∈ w.site.bus.opened, ∀ d' ∈ w.site.bus.opened, w.site.bus.bus.home? d = some A →
    w.site.bus.bus.home? d' = some A → name d = name d' → d = d'

/-- The second run is the first one without what is done by or to calls of
other addresses, and the two look the same to the address at every
point. -/
inductive Thinned (A : Address) (name : Int → Int) : BusWorld → BusWorld →
    List (Happening × BusWorld) → List (Happening × BusWorld) → Prop where
  | done {w v : BusWorld} (ha : w.Alike A name v) : Thinned A name w v [] []
  | kept {w w' v v' : BusWorld} {h : Happening} {p p' : List (Happening × BusWorld)}
      (ha : w.Alike A name v) (hk : ¬ w.Elsewhere A h) (hr : Thinned A name w' v' p p') :
      Thinned A name w v ((h, w') :: p) ((h, v') :: p')
  | left {w w' v : BusWorld} {h : Happening} {p p' : List (Happening × BusWorld)}
      (ha : w.Alike A name v) (hk : w.Elsewhere A h) (hr : Thinned A name w' v p p') :
      Thinned A name w v ((h, w') :: p) p'

end World

-- ================================================= mirrored, so alike

variable {A : Address} {ρ ρ' : Naming} {n : Nat} {m : Int}

theorem Call.Reflects.alike {c c' : Call} (h : c.Reflects A ρ c') (hext : ρ.Extends ρ' n m) :
    c.Alike ρ'.called c' := by
  have hnames : ∀ d d', ρ.Names d d' → d' = ρ'.called d :=
    fun d d' hd => (Naming.called_of_name (hext.still d d' hd)).symm
  obtain ⟨address, program, cancelled, entered, replies, stage⟩ := c
  obtain ⟨address', program', cancelled', entered', replies', stage'⟩ := c'
  have hstage : stage.Mirrors ρ stage' := h.stage
  refine
    { address := h.address'.trans h.address.symm
      program := h.program
      cancelled := h.cancelled
      entered := ?_
      replies := h.replies.imp fun _ _ hr => hr.mono hnames
      outcome := by cases hstage <;> rfl
      isOver := by cases hstage <;> rfl }
  have hent : ρ.Entered entered entered' := h.entered
  cases hent with
  | not => rfl
  | at_ t hd => exact congrArg (fun d => some (t, d)) (hnames _ _ hd)

namespace Recorded.Mirrors

variable {b c : Recorded Simulated}

theorem concerns_of_descriptor {r : RawRecord} {d : Int} (hd : r.call.descriptor? = some d) :
    b.concerns A r = (b.bus.home? d == some A) := by
  obtain ⟨call, answer, registers⟩ := r
  cases call <;> first | (cases hd; rfl) | cases hd

/-- The descriptors with a name are those that lead to the address. -/
theorem home?_iff (h : b.Mirrors A ρ c) {d : Int} (hd : d ∈ b.opened) :
    b.bus.home? d = some A ↔ ∃ d', ρ.name d = some d' := by
  unfold Simulated.home?
  constructor
  · intro hhome
    obtain ⟨⟨a, online⟩, hl, rfl⟩ := Option.map_eq_some_iff.mp hhome
    exact Option.isSome_iff_exists.mp (h.named d hd online hl)
  · rintro ⟨d', hname⟩
    obtain ⟨online, hl, -⟩ := h.link d d' hname
    rw [hl]
    rfl

/-- The calls that are found on the other side are those that concern the
address. -/
theorem keeps_eq (h : b.Mirrors A ρ c) {r : RawRecord}
    (hk : ∀ d, r.call.descriptor? = some d → d ∈ b.opened) : ρ.keeps A r = b.concerns A r := by
  cases hd : r.call.descriptor? with
  | some d =>
      rw [Naming.keeps_of_descriptor hd, concerns_of_descriptor hd, Bool.eq_iff_iff,
        Option.isSome_iff_exists, beq_iff_eq, h.home?_iff (hk d hd)]
  | none =>
      obtain ⟨call, answer, registers⟩ := r
      cases call with
      | openDevice request => rfl
      | discover board probes capacity => rfl
      | _ => cases hd

/-- On the other side every call concerns the address. -/
theorem alone (h : b.Mirrors A ρ c) : c.callsAt A = c.trace := by
  refine List.filter_eq_self.mpr fun r' hr' => ?_
  rw [h.trace] at hr'
  obtain ⟨r, hr, rfl⟩ := List.mem_map.mp hr'
  obtain ⟨-, hkeep⟩ := List.mem_filter.mp hr
  have hhome : ∀ d d', ρ.name d = some d' → c.bus.home? (ρ.called d) = some A := by
    intro d d' hd
    obtain ⟨online, -, hl⟩ := h.link d d' hd
    unfold Simulated.home?
    rw [Naming.called_of_name hd, hl]
    rfl
  cases hd : r.call.descriptor? with
  | some d =>
      rw [Naming.keeps_of_descriptor hd] at hkeep
      obtain ⟨d', hname⟩ := Option.isSome_iff_exists.mp hkeep
      have hd' : (r.renamed ρ.called).call.descriptor? = some (ρ.called d) := by
        obtain ⟨call, answer, registers⟩ := r
        cases call <;> first | (cases hd; rfl) | cases hd
      rw [concerns_of_descriptor hd', beq_iff_eq]
      exact hhome d d' hname
  | none =>
      obtain ⟨call, answer, registers⟩ := r
      cases call with
      | openDevice request => exact hkeep
      | discover board probes capacity => cases hkeep
      | _ => cases hd

end Recorded.Mirrors

namespace World

variable {w w' v : BusWorld}

/-- Worlds that mirror each other look the same to the address, under the
names given then or later. -/
theorem Mirrors.alike (h : w.Mirrors A ρ v) (hw : w.Sound)
    (hext : ρ.Extends ρ' n w.site.bus.bus.nextDescriptor) : w.Alike A ρ'.called v := by
  have hb := h.site.bus
  have ho := hw.owned
  refine
    { clock := h.site.clock
      calls := ?calls
      trace := ?trace
      alone := hb.alone
      instrument := hb.instrument
      names := ?names }
  case calls =>
    intro j c hc ha
    obtain ⟨t', ht', hm⟩ := h.tasks j _ (call?_eq_some.mp hc)
    cases hm with
    | call hm =>
        cases hm with
        | ours hm => exact ⟨_, call?_eq_some.mpr ht', hm.alike hext⟩
        | apart hne => exact absurd ha hne
  case trace =>
    have hkeep : w.site.bus.trace.filter (ρ.keeps A) = w.site.bus.callsAt A :=
      List.filter_congr fun r hr => hb.keeps_eq (ho.known r hr)
    have hkeep' : w.site.bus.trace.filter (ρ'.keeps A) = w.site.bus.trace.filter (ρ.keeps A) :=
      List.filter_congr fun r hr => Naming.keeps_congr fun d hd =>
        hext.name d ((ho.covers r hr).1 d hd)
    rw [hb.trace, ← hext.records A ho.covers, hkeep', hkeep]
  case names =>
    intro d hd d' hd' hhome hhome' heq
    obtain ⟨x, hx⟩ := (hb.home?_iff hd).mp hhome
    obtain ⟨x', hx'⟩ := (hb.home?_iff hd').mp hhome'
    rw [Naming.called_of_name (hext.still d x hx), Naming.called_of_name (hext.still d' x' hx')]
      at heq
    exact hb.inj d d' x hx (heq ▸ hx')

/-- A refusal keeps its name. -/
theorem Mirrors.called_neg (h : w.Mirrors A ρ v)
    (hext : ρ.Extends ρ' n w.site.bus.bus.nextDescriptor) {d : Int} (hd : d < 0) :
    ρ'.called d = d := by
  have hn := h.site.bus.nonneg.1
  refine Naming.called_of_none ((hext.name d (by omega)).trans ?_)
  cases hname : ρ.name d with
  | none => rfl
  | some d' =>
      have := h.site.bus.below d d' hname
      omega

/-- Whatever happens on both sides leaves worlds that mirror each other. -/
theorem Mirrors.occurs (h : w.Mirrors A ρ v) (hw : w.Sound) {a : Happening}
    (hcalm : a.isCalm = true) (hne : ¬ Elsewhere A w a) (ho : w.Occurs a w') :
    ∃ ρ' v', ρ.Extends ρ' w.site.registry.entries.length w.site.bus.bus.nextDescriptor ∧
      v.Occurs a v' ∧ w'.Mirrors A ρ' v' := by
  by_cases hstep : ∃ id, a = .step id
  · obtain ⟨id, rfl⟩ := hstep
    exact h.turn hw hne ho
  · have hno : ∀ id, a ≠ .step id := fun id heq => hstep ⟨id, heq⟩
    have hocc : ∀ u u' : BusWorld, u.Occurs a u' ↔ u.perform a = some u' := by
      intro u u'
      cases a with
      | step id => exact absurd rfl (hno id)
      | _ => exact Iff.rfl
    obtain ⟨v', hv, h'⟩ := h.perform hw hcalm hne hno ((hocc w w').mp ho)
    exact ⟨ρ, v', .refl ρ _ _, (hocc v v').mpr hv, h'⟩

/-- A run, thinned. -/
theorem Mirrors.thinned {path : List (Happening × BusWorld)} (h : w.Mirrors A ρ v) (hw : w.Sound)
    (hcalm : ∀ q ∈ path, q.1.isCalm = true) (hp : w.Path path) :
    ∃ ρ' path', ρ.Extends ρ' w.site.registry.entries.length w.site.bus.bus.nextDescriptor ∧
      v.Path path' ∧ Thinned A ρ'.called w v path path' := by
  induction path generalizing w v ρ with
  | nil =>
      have hext := Naming.Extends.refl ρ w.site.registry.entries.length
        w.site.bus.bus.nextDescriptor
      exact ⟨ρ, [], hext, True.intro, .done (h.alike hw hext)⟩
  | cons q rest ih =>
      obtain ⟨a, w'⟩ := q
      obtain ⟨ho, hrest⟩ := hp
      have hcalm' : ∀ q ∈ rest, q.1.isCalm = true := fun q hq => hcalm q (List.mem_cons_of_mem _ hq)
      obtain ⟨hw', hgrows⟩ := hw.grows ho.reaches
      by_cases he : w.Elsewhere A a
      · have h' := h.occurs_apart hw he ho
        obtain ⟨ρ', path', hext, hp', hthin⟩ := ih h' hw' hcalm' hrest
        have hext' := (Naming.Extends.refl ρ _ _).trans hext hgrows.entries hgrows.descriptors
        exact ⟨ρ', path', hext', hp', .left (h.alike hw hext') he hthin⟩
      · obtain ⟨ρ₁, v', hext₁, hv, h'⟩ := h.occurs hw (hcalm _ List.mem_cons_self) he ho
        obtain ⟨ρ', path', hext, hp', hthin⟩ := ih h' hw' hcalm' hrest
        have hext' := hext₁.trans hext hgrows.entries hgrows.descriptors
        exact ⟨ρ', (a, v') :: path', hext', ⟨hv, hp'⟩, .kept (h.alike hw hext') he hthin⟩

/-- A registry that has not been used yet mirrors itself. -/
theorem mirrors_begun {b : Simulated} (hf : b.faults = []) (ho : b.failOpen = false)
    (hn : 0 ≤ b.nextDescriptor) (options : SessionOptions) (policy : SweepPolicy) (A : Address) :
    (begun b options policy).Mirrors A .blank (begun b options policy) := by
  have hunused : (unused b options policy).Mirrors A .blank (unused b options policy) :=
    { site :=
        { clock := rfl
          registry :=
            ⟨rfl, rfl, ⟨rfl, rfl⟩, rfl, rfl, nofun, nofun, nofun, fun e s _ hs => nomatch hs⟩
          bus := ⟨⟨hf, hf⟩, ⟨ho, ho⟩, ⟨hn, hn⟩, rfl, nofun, nofun, nofun, nofun, rfl⟩ }
      length := rfl
      tasks := fun j t ht => nomatch ht }
  have hp : (unused b options policy).perform .startSweep = some (begun b options policy) := rfl
  obtain ⟨v', hv, h⟩ := hunused.perform (a := .startSweep) (sound_unused hn options policy)
    rfl (fun ⟨_, _, hs, _⟩ => nomatch hs) nofun hp
  rw [hp] at hv
  cases hv
  exact h

/-- Isolation between addresses. Delete from a run what is done by or to
the calls of other addresses, and a run is left in which, at every point,
everything looks the same to the address, but for the names of
descriptors. -/
theorem addresses_isolated {b : Simulated} {options : SessionOptions} {policy : SweepPolicy}
    {path : List (Happening × BusWorld)} (A : Address) (hf : b.faults = [])
    (ho : b.failOpen = false) (hn : 0 ≤ b.nextDescriptor) (hcalm : ∀ q ∈ path, q.1.isCalm = true)
    (hp : (begun b options policy).Path path) :
    ∃ name path', (∀ d < 0, name d = d) ∧ (begun b options policy).Path path' ∧
      Thinned A name (begun b options policy) (begun b options policy) path path' := by
  have hw : (begun b options policy).Sound :=
    (Reaches.perform (h := .startSweep) rfl).sound (sound_unused hn options policy)
  have h := mirrors_begun hf ho hn options policy A
  obtain ⟨ρ, path', hext, hp', hthin⟩ := h.thinned hw hcalm hp
  exact ⟨ρ.called, path', fun d => h.called_neg hext, hp', hthin⟩

/-- A call that pauses in its program, and one of another address that
goes from its beginning to its end meanwhile. -/
def interleaved : List (Happening × Nat) :=
  [(.stimulate (.attach ⟨6, 0⟩ .silent), 0),
    (.execute ⟨6, 0⟩ [.write "A?", .sleep (.ofSecs 1)] false, 0),
    (.execute ⟨5, 0⟩ [.serialPoll] false, 0), (.step 0, 0), (.step 1, 6), (.step 2, 7),
    (.elapse (.ofSecs 1), 0), (.step 1, 1)]

theorem addresses_isolated_interleaved :
    ∃ path, (begun .empty .standard .standard).Path path ∧
      path.map (·.1) = interleaved.map (·.1) ∧ (∀ q ∈ path, q.1.isCalm = true) ∧
      Simulated.empty.faults = [] ∧ Simulated.empty.failOpen = false ∧
      0 ≤ Simulated.empty.nextDescriptor ∧
      ∃ name path', (∀ d < 0, name d = d) ∧ (begun .empty .standard .standard).Path path' ∧
        Thinned ⟨5, 0⟩ name (begun .empty .standard .standard)
          (begun .empty .standard .standard) path path' := by
  have hsome : ((begun .empty .standard .standard).path? interleaved).isSome = true := by
    decide +kernel
  obtain ⟨path, hpath⟩ := Option.isSome_iff_exists.mp hsome
  obtain ⟨hp, hmap⟩ := path_of_path? hpath
  have hplan : ∀ h ∈ interleaved.map (·.1), h.isCalm = true := by decide +kernel
  have hcalm : ∀ q ∈ path, q.1.isCalm = true := fun q hq =>
    hplan q.1 (hmap ▸ List.mem_map_of_mem (f := (·.1)) hq)
  exact ⟨path, hp, hmap, hcalm, rfl, rfl, by decide,
    addresses_isolated ⟨5, 0⟩ rfl rfl (by decide) hcalm hp⟩

end World

end InstrumentBus
