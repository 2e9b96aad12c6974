import PolicyReplica.Counts
import PolicyReplica.Metrics
import PolicyReplica.Store

/-
What a controller counts.
-/

namespace PolicyReplica

inductive Outcome where
  | created
  | updated
  | unchanged
  | deleted
  /-- There was no replica and there had to be none. -/
  | absent
  | failed
  deriving DecidableEq, Repr

def Outcome.label : Outcome → String
  | .created => "Created"
  | .updated => "Updated"
  | .unchanged => "Unchanged"
  | .deleted => "Deleted"
  | .absent => "Absent"
  | .failed => "Failed"

def Outcome.ofApplied : Applied → Outcome
  | .created => .created
  | .updated => .updated
  | .unchanged => .unchanged

inductive PollKind where
  | changes
  | resync
  deriving DecidableEq, Repr

def PollKind.label : PollKind → String
  | .changes => "Changes"
  | .resync => "Resync"

inductive PollResult where
  | ok
  | retried
  | failed
  deriving DecidableEq, Repr

def PollResult.label : PollResult → String
  | .ok => "Ok"
  | .retried => "Retried"
  | .failed => "Failed"

inductive IndexKind where
  | namespaces
  | domains
  deriving DecidableEq, Repr

def IndexKind.label : IndexKind → String
  | .namespaces => "namespaces"
  | .domains => "domains"

structure ControllerMetrics where
  syncs : Counts Outcome
  /-- Failed syncs that were queued again. -/
  requeues : Nat
  /-- Failed syncs that had no retries left. -/
  dropped : Nat
  polls : Counts (PollKind × PollResult)
  applies : Counts IndexKind

namespace ControllerMetrics

def initial : ControllerMetrics :=
  { syncs := .empty, requeues := 0, dropped := 0, polls := .empty, applies := .empty }

def countSync (metrics : ControllerMetrics) (outcome : Outcome) : ControllerMetrics :=
  { metrics with syncs := metrics.syncs.increment outcome }

def countPoll (metrics : ControllerMetrics) (kind : PollKind) (result : PollResult) :
    ControllerMetrics :=
  { metrics with polls := metrics.polls.increment (kind, result) }

def countApply (metrics : ControllerMetrics) (kind : IndexKind) : ControllerMetrics :=
  { metrics with applies := metrics.applies.increment kind }

def samples (metrics : ControllerMetrics) : List Sample :=
  [{ name := "requeues_total", labels := [], value := metrics.requeues },
    { name := "dropped_total", labels := [], value := metrics.dropped }] ++
    metrics.syncs.entries.map (fun (outcome, value) =>
      { name := "sync_total", labels := [("outcome", outcome.label)], value }) ++
    metrics.polls.entries.map (fun ((kind, result), value) =>
      { name := "poll_total"
        labels := [("kind", kind.label), ("result", result.label)]
        value }) ++
    metrics.applies.entries.map (fun (kind, value) =>
      { name := "index_applies_total", labels := [("kind", kind.label)], value })

end ControllerMetrics

end PolicyReplica
