import PolicyReplica.Table

/-
A work queue that hands out each key to one worker at a time.

A key that is added while it waits to be handed out is not added twice, and a key
that is added while a worker holds it becomes ready again when the worker is
done. Keys can be delayed. A delayed key has one deadline, its earliest; an entry
that was superseded by an earlier one stays in line but has no effect. After the
queue is closed it hands out what is ready and admits nothing.
-/

namespace PolicyReplica

structure Delayed (κ : Type) where
  time : Nat
  key : κ
  deriving DecidableEq, Repr

structure WorkQueue (κ : Type) where
  /-- The keys to hand out, the oldest first. -/
  ready : List κ
  /-- The keys that need work: those that are ready, and those that were added
  while a worker held them. -/
  dirty : List κ
  /-- The keys that workers hold. -/
  processing : List κ
  /-- The delayed keys by time, and in the order of their entry at the same time. -/
  delayed : List (Delayed κ)
  /-- The deadlines of the delayed keys. -/
  deadlines : Table κ Nat
  closed : Bool

inductive Handout (κ : Type) where
  | item (key : κ)
  /-- Nothing is ready and nothing will be. -/
  | closed
  /-- Nothing is ready; the first entry in line is due at the time, if there is one. -/
  | wait (due : Option Nat)
  deriving DecidableEq, Repr

namespace WorkQueue

variable {κ : Type}

def empty : WorkQueue κ :=
  { ready := []
    dirty := []
    processing := []
    delayed := []
    deadlines := .empty
    closed := false }

/-- Puts an entry in line behind those that are not due later. -/
def enqueue (entry : Delayed κ) : List (Delayed κ) → List (Delayed κ)
  | [] => [entry]
  | first :: rest =>
      if first.time ≤ entry.time then first :: enqueue entry rest else entry :: first :: rest

def size (queue : WorkQueue κ) : Nat :=
  queue.ready.length

def isEmpty (queue : WorkQueue κ) : Bool :=
  queue.ready.isEmpty

variable [DecidableEq κ]

/-- Admits a key; tells whether it became ready. -/
def add (queue : WorkQueue κ) (key : κ) : Bool × WorkQueue κ :=
  if queue.closed ∨ key ∈ queue.dirty then (false, queue)
  else
    let marked := { queue with dirty := key :: queue.dirty }
    if key ∈ queue.processing then (false, marked)
    else (true, { marked with ready := queue.ready ++ [key] })

/-- Delays a key until a time; tells whether that changed its deadline. -/
def delay (queue : WorkQueue κ) (time : Nat) (key : κ) : Bool × WorkQueue κ :=
  if queue.closed ∨ (queue.deadlines.get? key).any (· ≤ time) then (false, queue)
  else
    (true,
      { queue with
        deadlines := queue.deadlines.insert key time
        delayed := enqueue { time, key } queue.delayed })

/-- Admits the key of an entry that is due, unless the entry was superseded. -/
def promoteEntry (queue : WorkQueue κ) (entry : Delayed κ) : WorkQueue κ :=
  if queue.deadlines.get? entry.key = some entry.time then
    ({ queue with deadlines := queue.deadlines.erase entry.key }.add entry.key).2
  else queue

def promote (queue : WorkQueue κ) (now : Nat) : WorkQueue κ :=
  (queue.delayed.takeWhile (·.time ≤ now)).foldl promoteEntry
    { queue with delayed := queue.delayed.dropWhile (·.time ≤ now) }

def handOut (queue : WorkQueue κ) : Handout κ × WorkQueue κ :=
  match queue.ready with
  | key :: rest =>
      (.item key,
        { queue with
          ready := rest
          dirty := queue.dirty.erase key
          processing := key :: queue.processing })
  | [] =>
      if queue.closed then (.closed, queue)
      else (.wait (queue.delayed.head?.map Delayed.time), queue)

def take (queue : WorkQueue κ) (now : Nat) : Handout κ × WorkQueue κ :=
  (queue.promote now).handOut

/-- Takes back a key; tells whether it became ready again. -/
def complete (queue : WorkQueue κ) (key : κ) : Bool × WorkQueue κ :=
  let released := { queue with processing := queue.processing.filter (· ≠ key) }
  if key ∈ queue.dirty then
    (true, { released with ready := queue.ready ++ [key] })
  else (false, released)

def close (queue : WorkQueue κ) : WorkQueue κ :=
  { queue with delayed := [], deadlines := .empty, closed := true }

end WorkQueue

end PolicyReplica
