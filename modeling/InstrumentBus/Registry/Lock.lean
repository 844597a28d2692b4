/-
The lock of one cached session. One task holds it, the others queue in
the order they asked, and a release hands it to the first of the queue
directly: between the release and the moment the next holder notices, the
lock is held already, so nobody can slip in between.

A task that gives up waiting may have been handed the lock without having
noticed. `Lock.withdraw` covers both cases, and passes the lock on in the
second.
-/
namespace InstrumentBus

/-- The name of a task. -/
abbrev TaskId := Nat

/-- A first-come-first-served lock. -/
structure Lock where
  holder : Option TaskId
  -- the tasks waiting for it, the first to ask first
  waiters : List TaskId
  deriving DecidableEq, Repr, Inhabited

namespace Lock

/-- A lock nobody holds. -/
def free : Lock := ⟨none, []⟩

/-- The lock after a task has asked for it: its own at once when nobody
holds it, and otherwise with the task at the end of the queue. -/
def request (l : Lock) (t : TaskId) : Lock :=
  match l.holder with
  | none => { l with holder := some t }
  | some _ => { l with waiters := l.waiters ++ [t] }

/-- The lock taken without waiting, which only a free lock can be. -/
def take? (l : Lock) (t : TaskId) : Option Lock :=
  match l.holder with
  | none => some { l with holder := some t }
  | some _ => none

/-- The lock after its holder let go of it. -/
def release (l : Lock) : Lock :=
  match l.waiters with
  | [] => free
  | t :: rest => ⟨some t, rest⟩

/-- The lock after a task has given up on it, as a waiter or as a holder
that was handed it without noticing. -/
def withdraw (l : Lock) (t : TaskId) : Lock :=
  if l.holder = some t then l.release
  else { l with waiters := l.waiters.filter (· ≠ t) }

end Lock

end InstrumentBus
