import PolicyReplica.Queue.Basic
import PolicyReplica.Queue.RateLimiter
import PolicyReplica.Queue.Signal

/-
A work queue that several workers share.

Whatever makes a key ready, or gives a worker an earlier time to wait for, wakes
one worker; a worker that takes a key while others are ready wakes the next one.
-/

namespace PolicyReplica

structure SharedQueue (κ : Type) where
  queue : WorkQueue κ
  limiter : RateLimiter κ
  signal : Signal

namespace SharedQueue

variable {κ : Type}

def ofInterval (interval : Nat) : SharedQueue κ :=
  { queue := .empty, limiter := .ofInterval interval, signal := .initial }

def alert (shared : SharedQueue κ) (changed : Bool × WorkQueue κ) : SharedQueue κ :=
  { shared with
    queue := changed.2
    signal := if changed.1 then shared.signal.notifyOne else shared.signal }

variable [DecidableEq κ]

def add (shared : SharedQueue κ) (key : κ) : SharedQueue κ :=
  shared.alert (shared.queue.add key)

def addAfter (shared : SharedQueue κ) (now delay : Nat) (key : κ) : SharedQueue κ :=
  if delay = 0 then shared.add key
  else shared.alert (shared.queue.delay (now + delay) key)

def addRateLimited (shared : SharedQueue κ) (now : Nat) (key : κ) : SharedQueue κ :=
  let (delay, limiter) := shared.limiter.reserve now key
  { shared with limiter }.addAfter now delay key

def forget (shared : SharedQueue κ) (key : κ) : SharedQueue κ :=
  { shared with limiter := shared.limiter.forget key }

def requeues (shared : SharedQueue κ) (key : κ) : Nat :=
  shared.limiter.count key

def take (shared : SharedQueue κ) (now : Nat) (task : TaskId) : Handout κ × SharedQueue κ :=
  let entered := shared.signal.enter task
  let (handout, queue) := shared.queue.take now
  let signal := match handout with
    | .item _ => if queue.isEmpty then entered else entered.notifyOne
    | .closed => entered
    | .wait _ => entered.wait task
  (handout, { shared with queue, signal })

def leave (shared : SharedQueue κ) (task : TaskId) : SharedQueue κ :=
  { shared with signal := shared.signal.leave task }

def complete (shared : SharedQueue κ) (key : κ) : SharedQueue κ :=
  shared.alert (shared.queue.complete key)

def close (shared : SharedQueue κ) : SharedQueue κ :=
  { shared with queue := shared.queue.close, signal := shared.signal.notifyAll }

def takeWoken (shared : SharedQueue κ) : List TaskId × SharedQueue κ :=
  (shared.signal.woken, { shared with signal := { shared.signal with woken := [] } })

def size (shared : SharedQueue κ) : Nat :=
  shared.queue.size

end SharedQueue

end PolicyReplica
