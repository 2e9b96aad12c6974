import PolicyReplica.Controller.Basic
import PolicyReplica.Service.Basic
import PolicyReplica.Time.Span

/-
Polling: asking the policy service what changed, and queueing everything once in
a while.

A poller remembers the cursor of the last listing that had one. A listing that
fails is tried again after growing pauses, as long as the pauses together take at
most half of the time between two polls. Pauses are whole milliseconds.
-/

namespace PolicyReplica

structure Poller where
  /-- What the next listing is asked with. -/
  cursor : String
  updateInterval : Span
  resyncInterval : Span
  deriving DecidableEq

def Poller.ofController (controller : Controller) (updateInterval resyncInterval : Span) :
    Poller :=
  { cursor := controller.index.latestCursor, updateInterval, resyncInterval }

inductive PollMove where
  /-- A listed domain is queued if it is valid. -/
  | visit (domain : String)
  | advance (cursor : String)
  | record (cursor : String)
  deriving DecidableEq, Repr

/-- All listed domains come first. Then the poller goes on to the cursor, and the
cursor is recorded, if there is one. -/
def ChangeList.moves (changes : ChangeList) : List PollMove :=
  changes.domains.map (fun snapshot => .visit snapshot.name) ++
    if changes.cursor = "" then [] else [.advance changes.cursor, .record changes.cursor]

namespace Controller

/-- Every domain that a resync queues, in order and each once: those of
namespaces, the fixed ones, and the trusted ones that have replicas. -/
def resyncDomains (controller : Controller) : List String :=
  let names := controller.names
  let live := controller.namespaces.names.filter fun name => !names.isExcluded name
  let trusted := controller.index.trustTargets.filter controller.index.contains
  distinct (Text.sorted (live.map names.domainOf ++ controller.fixedDomains ++ trusted))

def resync (now : Nat) (controller : Controller) : Controller :=
  let queued := controller.enqueueAll now controller.resyncDomains
  { queued with metrics := queued.metrics.countPoll .resync .ok }

end Controller

structure Backoff where
  /-- The next pause. -/
  pause : Nat
  /-- All pauses so far. -/
  spent : Nat
  pauses : 0 < pause
  deriving DecidableEq, Repr

namespace Backoff

def initial : Backoff :=
  { pause := 2000, spent := 0, pauses := by decide }

def later (backoff : Backoff) : Backoff :=
  { pause := 2 * backoff.pause
    spent := backoff.spent + backoff.pause
    pauses := Nat.mul_pos (by decide) backoff.pauses }

/-- The next pause, unless it would bring the sum of the pauses over half of the
interval. -/
def next? (backoff : Backoff) (interval : Span) : Option (Nat × Backoff) :=
  if backoff.later.spent * 1000000 ≤ interval.nanoseconds / 2 then
    some (backoff.pause, backoff.later)
  else none

end Backoff

end PolicyReplica
