/-
Scripts carried out.

# Taking turns

A bench runs one task at a time, each up to where it has to wait. Tasks
that can go on are taken in the order in which that came about. The step
in hand is the first to be taken up whenever time has passed, and after
that it goes on when no task can.

# Time

Time passes only when the step in hand and every task wait, and then at
once to the first instant at which one of them is woken: the next full
millisecond after the instant it asked for, since timers are no finer.
Whatever is timed to happen beside the step in hand, or beside the act
that a task is at, happens on the way, and is forgotten when the step or
the act is over.

# Records

After each step all tasks run to where they have to wait; only then is
the record of the step made.
-/
import InstrumentBus.Bench.Probe
import InstrumentBus.Registry.World

namespace InstrumentBus

/-- A task started by a script. -/
structure Background where
  id : TaskId
  name : String
  silent : Bool

/-- What is timed to happen beside the acts of a task. -/
structure Beside where
  task : TaskId
  -- what is timed to happen beside each act, in order
  schedules : List (List Timed)
  -- the act the task pauses in
  current : Option Nat
  timers : List (Instant × BusStep)

/-- When something beside a task is next due. -/
def Beside.wake (s : Beside) : Option Instant :=
  s.timers.foldl (fun t p => Clock.earlier t (some p.1)) none

/-- The registry of a script. -/
structure RegistryPlan where
  options : SessionOptions
  policy : SweepPolicy
  -- the background sweep does not start before the registry is first
  -- used
  lateSweep : Bool
  counted : Bool
  deriving Repr

/-- A script in progress. -/
structure Bench where
  world : World (Recorded BenchBus)
  sessions : List (String × Session)
  -- the tasks started by the script, the latest first
  started : List Background
  -- what is timed to happen beside the acts of tasks
  beside : List Beside
  -- the tasks that can go on, in the order in which that came about
  ready : List TaskId
  -- the task of the step in hand
  own : Option TaskId
  holding : Bool
  counted : Bool
  -- how many of the recorded calls are in an earlier record
  reported : Nat
  -- the tasks that ended since the last record, in order
  events : List Event

/-- Something timed to happen beside the step in hand. -/
inductive TimedAction where
  | cancel
  | probe (s : BusStep)

/-- What the step in hand waits for. -/
inductive Waiting where
  | act (name : String) (pending : Pending)
  | own (id : TaskId) (silent : Bool)
  | join (id : TaskId)
  | sleep (wake : Instant)

/-- The step in hand: what it waits for, or its result, and what is timed
to happen beside it. -/
structure InHand where
  state : Waiting ⊕ StepResult
  timers : List (Instant × TimedAction)

/-- When the step in hand is next woken. -/
def InHand.wake (h : InHand) : Option Instant :=
  let timers := h.timers.foldl (fun t p => Clock.earlier t (some p.1)) none
  match h.state with
  | .inl (.act _ pending) => Clock.earlier pending.wake timers
  | .inl (.sleep wake) => Clock.earlier (some wake) timers
  | .inl (.own _ _) | .inl (.join _) => timers
  | .inr _ => none

namespace Bench

-- ===================================================== looking at it

/-- The time. -/
def now (b : Bench) : Instant := b.world.site.clock

/-- The bus. -/
def bus (b : Bench) : Recorded BenchBus := b.world.site.bus

/-- The bench with another bus. Calls that are no longer on record have
not been reported either. -/
def withBus (b : Bench) (bus : Recorded BenchBus) : Bench :=
  { b with
    world := { b.world with site := { b.world.site with bus } }
    reported := min b.reported bus.trace.length }

/-- The task of a name: the latest of that name. -/
def task? (b : Bench) (name : String) : Option Background := b.started.find? (·.name == name)

/-- A task will take no further step. -/
def isOver (b : Bench) (id : TaskId) : Bool := (b.world.task? id).any Task.isOver

/-- How a use of the registry ended. -/
def outcome? (t : Task) (silent : Bool) : Option Outcome :=
  match t with
  | .call c =>
    c.outcome?.map fun result =>
      { entered := c.entered.map fun (at_, d) => (Clock.millis at_, d)
        replies := c.replies
        silent
        result }
  | _ => none

/-- How a task ended, unless it was dropped. -/
def ending? (t : Task) (silent : Bool) : Option Ending :=
  match t with
  | .disposal .ended => some .disposed
  | t => (outcome? t silent).map .used

-- ==================================================== taking turns

/-- A task still has the registry in use. -/
def usesRegistry : Task → Bool
  | .call c => !c.isOver
  | .disposal d => !(d = .ended ∨ d = .dropped)
  | .sweep _ | .ticker _ => false

/-- A registry that nobody has in use any more is let go of, and its
background sweep stops. -/
def releaseRegistry (b : Bench) : Bench :=
  if b.holding || b.world.tasks.any usesRegistry then b
  else
    { b with world :=
        { site := b.world.site.discard
          tasks := b.world.tasks.map fun
            | .ticker _ => .ticker .ended
            | t => t } }

/-- The tasks that have become able to go on put at the end of the line. -/
def refresh (b : Bench) : Bench :=
  let able := (List.range b.world.tasks.length).filter fun id =>
    b.world.enabled id && !b.ready.contains id && b.own != some id
  { b with ready := b.ready ++ able }

/-- What ended with a task noted down. -/
def note (b : Bench) (id : TaskId) : Bench :=
  match b.started.find? (·.id == id), b.world.task? id with
  | some s, some t =>
    match ending? t s.silent with
    | some ending =>
      { b with events := b.events ++ [⟨s.name, Clock.millis b.now, ending⟩] }
    | none => b
  | _, _ => b

/-- The act that a task pauses in, counted from its first. -/
def pausedIn? : Task → Option Nat
  | .call { stage := .acting _ _ _, replies, .. } => some replies.length
  | _ => none

/-- What is timed to happen beside a task, set anew when the task has
come to another act: it is begun now, for acts do not pause unnoticed. -/
def retime (b : Bench) (id : TaskId) : Bench :=
  let current := (b.world.task? id).bind pausedIn?
  let timers (s : Beside) :=
    ((current.bind (s.schedules[·]?)).getD []).map fun t => (b.now + t.after.nanos, t.step)
  { b with
    beside := b.beside.map fun s =>
      if s.task ≠ id ∨ s.current = current then s else { s with current, timers := timers s } }

/-- A task taken up and run to where it has to wait. -/
def resume (b : Bench) (id : TaskId) : Bench :=
  releaseRegistry ({ b with world := b.world.settle id }.retime id)

/-- The first task in line taken up. -/
def turn (b : Bench) : Bench :=
  match b.ready with
  | [] => b
  | id :: rest => ((({ b with ready := rest }).resume id).note id).refresh

-- ============================================================= time

/-- When a task, or something beside one, is next due. -/
def nextWake (b : Bench) : Option Instant :=
  (b.world.tasks.map Task.wake ++ b.beside.map Beside.wake).foldl Clock.earlier none

/-- A bus step carried out for its effect alone. -/
def probe (b : Bench) (s : BusStep) : Bench :=
  ((s.run b.bus).map fun (bus, _) => b.withBus bus).getD b

/-- What is timed to happen beside the step in hand happens. -/
def fire (b : Bench) (h : InHand) (a : TimedAction) : Bench :=
  match a, h.state with
  | .cancel, .inl (.own id _) => { b with world := b.world.cancel id }
  | .cancel, _ => b
  | .probe s, _ => b.probe s

/-- What is due beside the acts of tasks happens. -/
def fireBeside (b : Bench) : Bench :=
  let due := b.beside.flatMap fun s => s.timers.filter fun p => p.1 ≤ b.now
  let b := { b with
    beside := b.beside.map fun s =>
      { s with timers := s.timers.filter fun p => b.now < p.1 } }
  due.foldl (fun b p => b.probe p.2) b

/-- Time passed up to an instant, and what is timed until then has
happened. -/
def advance (b : Bench) (h : InHand) (at_ : Instant) : Bench × InHand :=
  let b := { b with world := b.world.elapse (Clock.since at_ b.now) }
  let due := h.timers.filter fun p => p.1 ≤ at_
  ((due.foldl (fun b p => b.fire h p.2) b).fireBeside,
    { h with timers := h.timers.filter fun p => at_ < p.1 })

-- ================================================= the step in hand

/-- The step in hand can go on. -/
def canGoOn (b : Bench) (h : InHand) : Bool :=
  match h.state with
  | .inl (.act _ pending) => pending.due b.now
  | .inl (.own id _) => b.world.enabled id
  | .inl (.join id) => b.isOver id
  | .inl (.sleep wake) => wake ≤ b.now
  | .inr _ => false

/-- What a request to a session has come to. -/
def progress (name : String) : Progress → Waiting ⊕ StepResult
  | .done (.ok r) => .inr (.reply r)
  | .done (.error f) => .inr (.failure f)
  | .paused pending => .inl (.act name pending)

/-- Part of a request carried out on the session of a name. -/
def onSession (b : Bench) (name : String) (run : StateM (Line (Recorded BenchBus)) Progress) :
    Bench × (Waiting ⊕ StepResult) :=
  match Keyed.get? b.sessions name with
  | some s =>
    let (p, s, bus) := run.run (s, b.bus)
    ({ b.withBus bus with sessions := Keyed.set b.sessions name s }, progress name p)
  | none => (b, .inr .noSession)

/-- What the step's own task has come to. -/
def ownResult (t : Task) (silent : Bool) : Option StepResult :=
  match t with
  | .sweep s => if s.stage = .ended then some (.number s.evicted) else none
  | .disposal .ended => some .nothing
  | t => (outcome? t silent).map .outcome

/-- The step in hand taken up. -/
def goOn (b : Bench) (w : Waiting) : Bench × (Waiting ⊕ StepResult) :=
  match w with
  | .act name pending => b.onSession name (Act.resume pending b.now)
  | .own id silent =>
    let b := b.resume id
    match (b.world.task? id).bind (ownResult · silent) with
    | some r => ({ b with own := none }, .inr r)
    | none => (b, .inl w)
  | .join id => (b, .inr (.joined ((b.world.task? id).bind (ending? · true)).isSome))
  | .sleep _ => (b, .inr .nothing)

/-- The step in hand taken up, if it can go on. -/
def takeUp (b : Bench) (h : InHand) : Bench × InHand :=
  match h.state with
  | .inl w =>
    if b.canGoOn h then
      let (b, state) := b.goOn w
      (b.refresh, { h with state })
    else (b.refresh, h)
  | .inr _ => (b.refresh, h)

/-- A step in hand carried to its result, at most `fuel` turns of it. A
step that nothing will ever wake has no result. -/
def finish : Nat → Bench → InHand → Bench × StepResult
  | 0, b, _ => (b, .nothing)
  | fuel + 1, b, h =>
    if !b.ready.isEmpty then finish fuel b.turn h
    else
      let b := b.fireBeside
      match h.state with
      | .inr r => (b, r)
      | .inl _ =>
        if b.canGoOn h then
          let (b, h) := b.takeUp h
          finish fuel b h
        else
          match Clock.earlier h.wake b.nextWake with
          | some wake =>
            let (b, h) := b.advance h (max b.now (Clock.tick wake))
            let (b, h) := b.takeUp h
            finish fuel b h
          | none => (b, .nothing)

/-- More turns than any step takes that comes to an end. -/
def patience : Nat := 1000000000

-- ============================================================ steps

/-- A step that is over at once. -/
def done (b : Bench) (r : StepResult) : Option (Bench × InHand) := some (b, ⟨.inr r, []⟩)

/-- What is timed to happen beside a step begun now. -/
def timers (b : Bench) (cancelAfter : Option Duration) (schedule : List Timed) :
    List (Instant × TimedAction) :=
  (cancelAfter.map fun d => (b.now + d.nanos, .cancel)).toList ++
    schedule.map fun t => (b.now + t.after.nanos, .probe t.step)

/-- A step that starts a task of its own. -/
def runOwn (b : Bench) (t : Task) (silent : Bool) (timers : List (Instant × TimedAction)) :
    Option (Bench × InHand) :=
  let id := b.world.nextId
  some ({ b with world := b.world.start t, own := some id }, ⟨.inl (.own id silent), timers⟩)

/-- A task of a name started. -/
def launch (b : Bench) (name : String) (t : Task) (silent : Bool) : Option (Bench × InHand) :=
  { b with
    world := b.world.start t
    started := ⟨b.world.nextId, name, silent⟩ :: b.started }.done .nothing

/-- The bench on which the registry is about to be used by the next task,
with what is timed to happen beside its acts. -/
def beforeUse (b : Bench) (u : Use) : Bench :=
  let world := b.world.startSweep
  let beside : Beside := ⟨world.nextId, u.acts.map (·.schedule), none, []⟩
  { b with world, beside := b.beside ++ [beside] }

/-- The call of a use of the registry. -/
def callOf (u : Use) (cancelled : Bool) : Call :=
  { Call.new u.address (u.acts.map (·.act)) with cancelled }

/-- A session opened under a name. The one it replaces is let go of after
that. -/
def connect (b : Bench) (name : String) (primary secondary : UInt8) (o : SessionOptions) :
    Bench × StepResult :=
  match Address.make? primary secondary with
  | .error f => (b, .failure f)
  | .ok a =>
    match (Session.connect a o).run b.bus with
    | (.error f, bus) => (b.withBus bus, .failure f)
    | (.ok s, bus) =>
      let bus := match Keyed.get? b.sessions name with
        | some old => (old.close bus).2
        | none => bus
      ({ b.withBus bus with sessions := Keyed.set b.sessions name s }, .number s.descriptor)

/-- A session let go of. -/
def dropSession (b : Bench) (name : String) : Bench × StepResult :=
  match Keyed.get? b.sessions name with
  | some s =>
    ({ b.withBus (s.close b.bus).2 with sessions := Keyed.erase b.sessions name }, .flag true)
  | none => (b, .flag false)

/-- A step begun; nothing where it makes no sense. -/
def begin? (b : Bench) (s : Step) : Option (Bench × InHand) :=
  match s with
  | .bus s => do let (bus, r) ← s.run b.bus; (b.withBus bus).done r
  | .sleep d =>
    if d.isZero then b.done .nothing
    else some (b, ⟨.inl (.sleep (Clock.sleepEnd b.now d)), []⟩)
  | .connect name p q o => let (b, r) := b.connect name p q o; b.done r
  | .drop name => let (b, r) := b.dropSession name; b.done r
  | .act name a =>
    let timers := b.timers none a.schedule
    let (b, state) := b.onSession name (a.act.start b.now)
    some (b, ⟨state, timers⟩)
  | .execute u cancelled cancelAfter schedule =>
    if b.holding then
      (b.beforeUse u).runOwn (.call (callOf u cancelled)) u.silent
        (b.timers cancelAfter schedule)
    else none
  | .spawn name u =>
    if b.holding then (b.beforeUse u).launch name (.call (callOf u false)) u.silent else none
  | .cancel name => do
    let t ← b.task? name
    { b with world := b.world.cancel t.id }.done .nothing
  | .abort name => do
    let t ← b.task? name
    (releaseRegistry ({ b with world := b.world.drop t.id }.retime t.id)).done .nothing
  | .join name => do
    let t ← b.task? name
    some (b, ⟨.inl (.join t.id), []⟩)
  | .dispose => if b.holding then b.runOwn (.disposal .mark) false [] else none
  | .spawnDispose name => if b.holding then b.launch name (.disposal .mark) false else none
  | .evictIdle => if b.holding then b.runOwn (.sweep .new) false [] else none
  | .contains a => if b.holding then b.done (.flag (b.world.site.registry.contains a)) else none
  | .dropRegistry =>
    if b.holding then (releaseRegistry { b with holding := false }).done .nothing else none

-- ========================================================== records

/-- The descriptor a call takes offline. -/
def offlineOf? : RawCall → Option Int
  | .takeOffline d _ => some d
  | _ => none

/-- A call put in front of a list; among calls that take a descriptor
offline, in its place by descriptor. -/
def insertOffline (c : RawCall) : List RawCall → List RawCall
  | [] => [c]
  | c' :: rest =>
    match offlineOf? c, offlineOf? c' with
    | some d, some d' => if d ≤ d' then c :: c' :: rest else c' :: insertOffline c rest
    | _, _ => c :: c' :: rest

/-- The calls, with each run of calls that take descriptors offline put
in order of descriptor: a registry closes its sessions in no particular
order. -/
def sortOffline (calls : List RawCall) : List RawCall := calls.foldr insertOffline []

/-- The record of a step that is over. -/
def record (b : Bench) (result : StepResult) : Bench × Record :=
  let trace := b.bus.trace
  let r := b.world.site.registry
  ({ b with reported := trace.length, events := [] },
    { result
      time := Clock.millis b.now
      registers := RawBus.registers b.bus
      calls := sortOffline ((trace.take (trace.length - b.reported)).map (·.call)).reverse
      events := b.events
      registry :=
        if b.holding then some ⟨r.size, r.disposed, if b.counted then r.created else 0⟩
        else none })

/-- A step carried out and recorded. -/
def step (b : Bench) (s : Step) : Option (Bench × Record) := do
  let (b, h) ← b.begin? s
  let (b, h) := b.takeUp h
  let (b, r) := finish patience b h
  return b.record r

/-- A script carried out, step by step. -/
def run (b : Bench) : List Step → Option (List Record)
  | [] => some []
  | s :: rest => do
    let (b, record) ← b.step s
    let records ← run b rest
    return record :: records

/-- A bench before the first step. -/
def setUp (bus : BenchBus) (plan : Option RegistryPlan) : Bench :=
  let (options, policy) :=
    match plan with
    | some p => (p.options, p.policy)
    | none => (.standard, .standard)
  let world := World.idle (Recorded.fresh bus) (Registry.empty options policy)
  let b : Bench :=
    { world := if plan.any (!·.lateSweep) then world.startSweep else world
      sessions := []
      started := []
      beside := []
      ready := []
      own := none
      holding := plan.isSome
      counted := plan.any (·.counted)
      reported := 0
      events := [] }
  b.refresh

end Bench

end InstrumentBus
