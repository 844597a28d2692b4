/-
A registry in use: any number of tasks on one site, taking steps in any
order.

`World.apply` is the transition relation. A move lets one task take one
step, starts a task, cancels the token of one, drops one, or lets time
pass; a move that is not possible has no result. A run is any list of
moves, so whatever is shown of every run holds however the tasks are
scheduled, be it on one thread or on many.

A scheduler that runs one task at a time until it has to wait makes some
of these runs. `World.settle` is the move it works with: all steps a task
can take, up to the next point where it has to wait.
-/
import InstrumentBus.Registry.Call
import InstrumentBus.Registry.Disposal
import InstrumentBus.Registry.Sweep

namespace InstrumentBus

/-- Something that uses the registry. -/
inductive Task where
  | call (c : Call)
  | sweep (s : Sweep)
  | disposal (d : Disposal)
  | ticker (t : TickerStage)

namespace Task

/-- The task will take no further step. -/
def isOver : Task → Bool
  | .call c => c.isOver
  | .sweep s => s.stage = .ended
  | .disposal d => d = .ended ∨ d = .dropped
  | .ticker t => t = .ended

/-- When the task goes on by itself. -/
def wake : Task → Option Instant
  | .call c => c.wake
  | .ticker t => Ticker.wake t
  | .sweep _ | .disposal _ => none

variable {β : Type}

/-- The task can take a step. -/
def enabled (id : TaskId) (t : Task) (x : Site β) : Bool :=
  match t with
  | .call c => c.enabled id x
  | .sweep s => s.stage ≠ .ended
  | .disposal d => d.enabled id x
  | .ticker t => Ticker.enabled t x

/-- The token of the task cancelled. Only a call has one. -/
def cancel : Task → Task
  | .call c => .call { c with cancelled := true }
  | t => t

variable [RawBus β]

/-- The next step of the task, when it can take one. -/
def step (id : TaskId) (t : Task) (x : Site β) : Option (Task × Site β) :=
  match t with
  | .call c => (c.step id x).map fun (c, x) => (.call c, x)
  | .sweep s => (s.step id x).map fun (s, x) => (.sweep s, x)
  | .disposal d => (d.step id x).map fun (d, x) => (.disposal d, x)
  | .ticker t => (Ticker.step id t x).map fun (t, x) => (.ticker t, x)

omit [RawBus β] in
/-- The task dropped where it stands. A sweep cannot be dropped, for it
never waits; a ticker simply stops. -/
def drop (id : TaskId) (t : Task) (x : Site β) : Task × Site β :=
  match t with
  | .call c => let (c, x) := c.drop id x; (.call c, x)
  | .disposal d => let (d, x) := d.drop id x; (.disposal d, x)
  | .ticker (.sweeping s w) => (.ticker (.sweeping s w), x)
  | .ticker _ => (.ticker .ended, x)
  | .sweep s => (.sweep s, x)

end Task

/-- Tasks on a site. A task's name is its place in the list. -/
structure World (β : Type) where
  site : Site β
  tasks : List Task

/-- What can happen next. -/
inductive Move where
  | start (t : Task)
  | step (id : TaskId)
  | cancel (id : TaskId)
  | drop (id : TaskId)
  | elapse (length : Duration)

namespace World

variable {β : Type}

/-- A world without tasks. -/
def idle (bus : β) (registry : Registry) : World β := ⟨⟨bus, 0, registry⟩, []⟩

/-- The task of a name. -/
def task? (w : World β) (id : TaskId) : Option Task := w.tasks[id]?

/-- The name of the next task. -/
def nextId (w : World β) : TaskId := w.tasks.length

/-- A task added. -/
def start (w : World β) (t : Task) : World β := { w with tasks := w.tasks ++ [t] }

/-- The background sweep started, unless it runs already, the registry
has no use for it, or the registry has been disposed of. -/
def startSweep (w : World β) : World β :=
  let r := w.site.registry
  if r.sweepStarted || r.disposed || r.policy.sweepInterval.isZero then w
  else
    { site := w.site.modifyRegistry fun r => { r with sweepStarted := true }
      tasks := w.tasks ++ [.ticker .fresh] }

/-- The token of a task cancelled. -/
def cancel (w : World β) (id : TaskId) : World β :=
  { w with tasks := w.tasks.modify id Task.cancel }

/-- A task dropped where it stands. -/
def drop (w : World β) (id : TaskId) : World β :=
  match w.task? id with
  | some t => let (t, x) := t.drop id w.site; ⟨x, w.tasks.set id t⟩
  | none => w

/-- Time passed. -/
def elapse (w : World β) (d : Duration) : World β :=
  { w with site := { w.site with clock := w.site.clock + d.nanos } }

/-- A task can take a step. -/
def enabled (w : World β) (id : TaskId) : Bool :=
  match w.task? id with
  | some t => t.enabled id w.site
  | none => false

variable [RawBus β]

/-- A task takes its next step, if it can. -/
def step? (w : World β) (id : TaskId) : Option (World β) :=
  match w.task? id with
  | some t => (t.step id w.site).map fun (t, x) => ⟨x, w.tasks.set id t⟩
  | none => none

/-- What a move makes of a world, when it is possible. -/
def apply (m : Move) (w : World β) : Option (World β) :=
  match m with
  | .start t => some (w.start t)
  | .step id => w.step? id
  | .cancel id => some (w.cancel id)
  | .drop id => some (w.drop id)
  | .elapse d => some (w.elapse d)

/-- The steps of a task up to where it has to wait, at most `fuel` of
them. -/
def stepMany : Nat → World β → TaskId → World β
  | 0, w, _ => w
  | fuel + 1, w, id =>
    match w.step? id with
    | some w => stepMany fuel w id
    | none => w

/-- More steps than a task can take without waiting: a call goes through
its stages at most twice, and a sweep or a disposal takes a handful for
each cached entry. -/
def patience (w : World β) : Nat := 64 + 8 * w.site.registry.cache.length

/-- A task run to where it has to wait. -/
def settle (w : World β) (id : TaskId) : World β := stepMany w.patience w id

end World

end InstrumentBus
