/-
Signals between tasks.

Tasks wait for a signal in the order in which they came. Notifying one wakes the
oldest, or leaves a permit for the next task to come when nobody waits; there is
at most one permit. Notifying all leaves none.
-/

namespace PolicyReplica

abbrev TaskId := Nat

structure Signal where
  /-- The waiting tasks, the oldest first. -/
  waiters : List TaskId
  permit : Bool
  /-- The tasks that were woken and have not run since, in order. -/
  woken : List TaskId
  deriving DecidableEq, Repr

namespace Signal

def initial : Signal :=
  { waiters := [], permit := false, woken := [] }

def notifyOne (signal : Signal) : Signal :=
  match signal.waiters with
  | [] => { signal with permit := true }
  | oldest :: rest => { signal with waiters := rest, woken := signal.woken ++ [oldest] }

def notifyAll (signal : Signal) : Signal :=
  { signal with waiters := [], woken := signal.woken ++ signal.waiters }

/-- Takes a permit that was left, and gives up an earlier place. -/
def enter (signal : Signal) (task : TaskId) : Signal :=
  { signal with waiters := signal.waiters.filter (· ≠ task), permit := false }

def wait (signal : Signal) (task : TaskId) : Signal :=
  { signal with waiters := signal.waiters ++ [task] }

def leave (signal : Signal) (task : TaskId) : Signal :=
  { signal with waiters := signal.waiters.filter (· ≠ task) }

def wake (signal : Signal) (task : TaskId) : Signal :=
  { signal with woken := signal.woken ++ [task] }

end Signal

end PolicyReplica
