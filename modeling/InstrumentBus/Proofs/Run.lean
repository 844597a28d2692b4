/-
A registry put to use on a bus in memory: everything that can happen to
it, in any order.

# Runs

A `Happening` is one thing that happens: a task begins, takes one step,
has its token cancelled or is dropped; time passes; or something is done
to the bus from outside. `World.run` makes a list of them happen one
after the other. Tasks begin at their first stage and nowhere else, and
in between nothing is left out: any happening may follow any other, so a
run may stop a task between any two of its steps and let any other task
go on. The runs of a scheduler that changes tasks only where they wait
are among these, and so are those of a scheduler with many threads.

The bus is recorded from the beginning of the run, so that the record
tells the sessions that were opened in the run (`Recorded.opened`) from
those that were there before, and how often each was taken offline.
The bus may have a past, with sessions on it and instruments in any state.
All that is asked of it is that the next descriptor it hands out is no
refusal, which holds of the empty bus and is kept by all it does.

# Where a task stands

`Task.atRest` singles out the stages at which a task is seen by others
when tasks change only where they wait. A task that has not begun or is
over is at rest too. A sweep never waits, so it is at rest only before
its beginning and after its end.
-/
import InstrumentBus.Bus.Recorded
import InstrumentBus.Bus.Simulated
import InstrumentBus.Registry.World

namespace InstrumentBus

-- ======================================================== the record

/-- The descriptor a call is made on. An open is made on none. -/
def RawCall.descriptor? : RawCall → Option Int
  | .openDevice _ | .discover _ _ _ => none
  | .takeOffline d _ | .write d _ | .read d _ | .clear d | .serialPoll d => some d

namespace RawRecord

/-- The descriptor a recorded open was granted. -/
def opened? (r : RawRecord) : Option Int := r.answer.filter (0 ≤ ·)

/-- The record is of a descriptor taken offline. -/
def isOfflineOf (d : Int) (r : RawRecord) : Bool := r.call == .takeOffline d 0

end RawRecord

namespace Recorded

variable {β : Type}

/-- The descriptors opened so far, the latest first. -/
def opened (r : Recorded β) : List Int := r.trace.filterMap (·.opened?)

/-- How often a descriptor has been taken offline so far. -/
def offlineCalls (r : Recorded β) (d : Int) : Nat := r.trace.countP (·.isOfflineOf d)

end Recorded

/-- What the bus knows about a descriptor. -/
def Simulated.link? (b : Simulated) (d : Int) : Option Link := Keyed.get? b.links d

/-- The instrument at an address. -/
def Simulated.instrument? (b : Simulated) (a : Address) : Option Instrument :=
  Keyed.get? b.instruments a

-- ========================================================= happenings

/-- Something done to a bus in memory beside the sessions on it. -/
inductive Stimulus where
  | attach (a : Address) (i : Instrument)
  | pushOutput (a : Address) (bytes : List UInt8)
  | setStatus (a : Address) (status : StatusByte)
  -- every open is refused from now on, or none
  | refuseOpens (refuse : Bool)
  | injectFault (f : Fault)
  -- discoveries report something else from now on
  | scriptDiscovery (words : List UInt16) (reported : Nat)

/-- The bus after something was done to it from outside. -/
def Simulated.stimulate (b : Simulated) : Stimulus → Simulated
  | .attach a i => b.attach a i
  | .pushOutput a bytes => b.pushOutput a bytes
  | .setStatus a status => b.setStatus a status
  | .refuseOpens refuse => { b with failOpen := refuse }
  | .injectFault f => b.injectFault f
  | .scriptDiscovery words reported => { b with discovery := some (words, reported) }

/-- A registry in use on a bus in memory, with the record of its calls. -/
abbrev BusWorld := World (Recorded Simulated)

/-- What can happen to a registry in use. -/
inductive Happening where
  -- a program is to be carried out on the session of an address. The
  -- token may be cancelled beforehand
  | execute (a : Address) (p : Program) (cancelled : Bool)
  | evict
  | dispose
  -- the background sweep starts, unless it has been started before
  | startSweep
  | step (id : TaskId)
  | cancel (id : TaskId)
  | drop (id : TaskId)
  | elapse (length : Duration)
  -- something is done to the bus from outside
  | stimulate (s : Stimulus)

namespace World

/-- A registry that has not been used yet. -/
def unused (b : Simulated) (options : SessionOptions) (policy : SweepPolicy) : BusWorld :=
  World.idle (Recorded.fresh b) (Registry.empty options policy)

/-- The world after something was done to its bus from outside. -/
def stimulate (w : BusWorld) (s : Stimulus) : BusWorld :=
  { w with site.bus.bus := w.site.bus.bus.stimulate s }

/-- What a happening makes of a world, when it is possible. -/
def perform (w : BusWorld) : Happening → Option BusWorld
  | .execute a p cancelled => w.apply (.start (.call { Call.new a p with cancelled }))
  | .evict => w.apply (.start (.sweep .new))
  | .dispose => w.apply (.start (.disposal .mark))
  | .startSweep => some w.startSweep
  | .step id => w.apply (.step id)
  | .cancel id => w.apply (.cancel id)
  | .drop id => w.apply (.drop id)
  | .elapse d => w.apply (.elapse d)
  | .stimulate s => some (w.stimulate s)

/-- What happenings make of a world, one after the other, when all of
them are possible. -/
def run (w : BusWorld) : List Happening → Option BusWorld
  | [] => some w
  | h :: rest => (w.perform h).bind fun w => w.run rest

/-- A world that some run from another one leads to. -/
def Reaches (w w' : BusWorld) : Prop := ∃ hs, w.run hs = some w'

theorem Reaches.refl (w : BusWorld) : w.Reaches w := ⟨[], rfl⟩

theorem run_append (w : BusWorld) (hs hs' : List Happening) :
    w.run (hs ++ hs') = (w.run hs).bind fun w => w.run hs' := by
  induction hs generalizing w with
  | nil => rfl
  | cons h rest ih =>
      show (w.perform h).bind _ = ((w.perform h).bind _).bind _
      cases w.perform h with
      | none => rfl
      | some w₁ => exact ih w₁

theorem Reaches.trans {w₁ w₂ w₃ : BusWorld} (h : w₁.Reaches w₂) (h' : w₂.Reaches w₃) :
    w₁.Reaches w₃ := by
  obtain ⟨hs, hrun⟩ := h
  obtain ⟨hs', hrun'⟩ := h'
  refine ⟨hs ++ hs', ?_⟩
  rw [run_append, hrun]
  exact hrun'

theorem Reaches.perform {w w' : BusWorld} {h : Happening} (hp : w.perform h = some w') :
    w.Reaches w' := by
  refine ⟨[h], ?_⟩
  show (w.perform h).bind _ = _
  rw [hp]
  rfl

/-- What holds of a world and is kept by every happening holds of every
world that is reached. -/
theorem Reaches.induct {P : BusWorld → Prop} {w w' : BusWorld} (hr : w.Reaches w') (h₀ : P w)
    (hstep : ∀ w h w', P w → w.perform h = some w' → P w') : P w' := by
  obtain ⟨hs, hrun⟩ := hr
  induction hs generalizing w with
  | nil =>
      cases hrun
      exact h₀
  | cons h rest ih =>
      change (w.perform h).bind _ = _ at hrun
      cases hp : w.perform h with
      | none =>
          rw [hp] at hrun
          cases hrun
      | some w₁ =>
          rw [hp] at hrun
          exact ih (hstep w h w₁ h₀ hp) hrun

end World

-- ================================================ where a task stands

/-- The entry that a sweep has taken out of the cache and whose session it
is about to close. -/
def Sweep.closing : SweepStage → Option EntryId
  | .close e => some e
  | _ => none

namespace Task

/-- The entry whose lock a task holds, going by its stage. -/
def lockHeld : Task → Option EntryId
  | .call c => Call.lockHeld c.stage
  | .sweep s => Sweep.lockHeld s.stage
  | .disposal d => d.lockHeld
  | .ticker (.sweeping s _) => Sweep.lockHeld s.stage
  | .ticker _ => none

/-- The entry for whose lock a task is in the queue. -/
def queuedOn : Task → Option EntryId
  | .call c =>
    match c.stage with
    | .queued e => some e
    | _ => none
  | .disposal (.queued e _) => some e
  | _ => none

/-- The entry that a task has taken out of the cache and whose session it
is about to close. Only sweeps do that. -/
def closing : Task → Option EntryId
  | .sweep s | .ticker (.sweeping s _) => Sweep.closing s.stage
  | _ => none

/-- The task waits, has not begun, or is over. -/
def atRest : Task → Bool
  | .call c =>
    match c.stage with
    | .check | .queued _ | .acting _ _ _ | .ended _ | .dropped => true
    | _ => false
  | .sweep s =>
    match s.stage with
    | .list | .ended => true
    | _ => false
  | .disposal d =>
    match d with
    | .mark | .queued _ _ | .ended | .dropped => true
    | _ => false
  | .ticker t =>
    match t with
    | .sweeping _ _ => false
    | _ => true

theorem closing_of_atRest {t : Task} (h : t.atRest = true) : t.closing = none := by
  cases t with
  | call c => rfl
  | disposal d => rfl
  | sweep s =>
      obtain ⟨began, todo, evicted, stage⟩ := s
      cases stage with
      | close e => cases h
      | _ => rfl
  | ticker t =>
      cases t with
      | sweeping s mark => cases h
      | _ => rfl

end Task

namespace World

/-- Every task waits, has not begun, or is over. -/
def AtRest (w : BusWorld) : Prop := ∀ id t, w.task? id = some t → t.atRest = true

/-- Every task but one waits, has not begun, or is over. -/
def AtRestBut (w : BusWorld) (id : TaskId) : Prop :=
  ∀ id' t, id' ≠ id → w.task? id' = some t → t.atRest = true

/-- The call of a name. -/
def call? (w : BusWorld) (id : TaskId) : Option Call :=
  match w.task? id with
  | some (.call c) => some c
  | _ => none

/-- The disposal of a name. -/
def disposal? (w : BusWorld) (id : TaskId) : Option Disposal :=
  match w.task? id with
  | some (.disposal d) => some d
  | _ => none

theorem call?_eq_some {w : BusWorld} {id : TaskId} {c : Call} :
    w.call? id = some c ↔ w.task? id = some (.call c) := by
  unfold call?
  cases w.task? id with
  | none => exact ⟨nofun, nofun⟩
  | some t =>
      cases t with
      | call c' => exact ⟨fun h => congrArg _ (congrArg _ (Option.some.inj h)),
          fun h => congrArg _ (Task.call.inj (Option.some.inj h))⟩
      | _ => exact ⟨nofun, nofun⟩

theorem disposal?_eq_some {w : BusWorld} {id : TaskId} {d : Disposal} :
    w.disposal? id = some d ↔ w.task? id = some (.disposal d) := by
  unfold disposal?
  cases w.task? id with
  | none => exact ⟨nofun, nofun⟩
  | some t =>
      cases t with
      | disposal d' => exact ⟨fun h => congrArg _ (congrArg _ (Option.some.inj h)),
          fun h => congrArg _ (Task.disposal.inj (Option.some.inj h))⟩
      | _ => exact ⟨nofun, nofun⟩

end World

end InstrumentBus
