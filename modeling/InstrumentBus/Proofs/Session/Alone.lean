/-
An act that is left to itself.

Most of what is said of an act stops where it pauses, since anything may
happen then. Here nothing does: whoever carries out the act does nothing
but wait, and takes it up again when it wants to be. Timers fire at full
milliseconds, so that is at the first of these not before the instant it
has named. `Moment.next?` is one such pause gone by, and `Moment.Leads`
any number of them. What it leads to in the end is determined
(`Leads.unique`); it may be that there is no end, for an act may wait for
what cannot come.
-/
import InstrumentBus.Session.Act

namespace InstrumentBus

variable {β : Type}

namespace Progress

/-- An act has come to a good end. -/
def good : Progress → Bool
  | .done (.ok _) => true
  | _ => false

/-- An act pauses, and there is nothing it waits for. -/
def stuck : Progress → Bool
  | .paused p => p.wake.isNone
  | .done _ => false

end Progress

/-- The time, how far an act has got, and its line. -/
structure Moment (β : Type) where
  now : Instant
  progress : Progress
  line : Line β

/-- What a part of an act leaves. -/
def Moment.after (now : Instant) (run : StateM (Line β) Progress) (l : Line β) : Moment β :=
  ⟨now, (run.run l).1, (run.run l).2⟩

/-- An act begun. -/
def Act.begun [RawBus β] (a : Act) (now : Instant) (l : Line β) : Moment β :=
  .after now (a.start now) l

namespace Moment

variable [RawBus β] {m m' m₁ m₂ : Moment β} {t t' : Instant} {r r' : Except Failure Reply}
  {l l' : Line β}

/-- A pause gone by, if it ends by itself. -/
def next? (m : Moment β) : Option (Moment β) :=
  match m.progress with
  | .done _ => none
  | .paused p => p.wake.map fun wake =>
    let now := max m.now (Clock.tick wake)
    .after now (Act.resume p now) m.line

/-- What becomes of an act with time. -/
inductive Leads : Moment β → Moment β → Prop where
  | here (m : Moment β) : Leads m m
  | next {m m₁ m' : Moment β} (h : m.next? = some m₁) (hl : Leads m₁ m') : Leads m m'

/-- An act comes to its end. -/
def Ends (m : Moment β) (t : Instant) (r : Except Failure Reply) (l : Line β) : Prop :=
  m.Leads ⟨t, .done r, l⟩

/-- An act comes to a good end. -/
def Succeeds (m : Moment β) : Prop := ∃ t r l, m.Ends t (.ok r) l

/-- An act does not come to an end. -/
def Forever (m : Moment β) : Prop := ∀ t r l, ¬ m.Ends t r l

/-- There is one outcome. -/
theorem Leads.unique (h₁ : m.Leads m₁) (hn₁ : m₁.next? = none) (h₂ : m.Leads m₂)
    (hn₂ : m₂.next? = none) : m₁ = m₂ := by
  induction h₁ with
  | here m =>
      cases h₂ with
      | here => rfl
      | next h hl => cases hn₁.symm.trans h
  | next h hl ih =>
      cases h₂ with
      | here => cases hn₂.symm.trans h
      | next h' hl' =>
          cases h.symm.trans h'
          exact ih hn₁ hl'

theorem Ends.unique (h : m.Ends t r l) (h' : m.Ends t' r' l') : t = t' ∧ r = r' ∧ l = l' := by
  cases Leads.unique h rfl h' rfl
  exact ⟨rfl, rfl, rfl⟩

/-- An act that fails does not come to a good end. -/
theorem Ends.fails {f : Failure} (h : m.Ends t (.error f) l) : ¬ m.Succeeds := by
  rintro ⟨t', r, l', h'⟩
  obtain ⟨-, hr, -⟩ := h.unique h'
  cases hr

/-- An act that has come to a good end. -/
theorem ends_of_good (h : m.progress.good = true) : ∃ r l, m.Ends m.now (.ok r) l := by
  obtain ⟨now, progress, l⟩ := m
  cases progress with
  | done r =>
      cases r with
      | ok r => exact ⟨r, l, .here _⟩
      | error f => cases h
  | paused p => cases h

/-- An act that waits for nothing waits forever. -/
theorem Leads.forever (h : m.Leads m₁) (hs : m₁.progress.stuck = true) : m.Forever := by
  obtain ⟨now, progress, l⟩ := m₁
  cases progress with
  | done r => cases hs
  | paused p =>
      have hnone : next? (⟨now, .paused p, l⟩ : Moment β) = none := by
        show p.wake.map _ = none
        rw [Option.isNone_iff_eq_none.mp hs]
        rfl
      intro t r l' h'
      cases Leads.unique h hnone h' rfl

theorem Forever.fails (h : m.Forever) : ¬ m.Succeeds := fun ⟨t, r, l, hend⟩ => h t (.ok r) l hend

end Moment

end InstrumentBus
