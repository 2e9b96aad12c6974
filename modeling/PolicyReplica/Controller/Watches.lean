import PolicyReplica.Controller.Basic
import PolicyReplica.Watch

/-
What a controller does with the reports of its watches.

Namespaces and replicas are indexed. The domain of a namespace that changes is
queued, and so is a replica that was changed by somebody else. Writes of the
controller itself are in the index before the watch reports them; they are known
by their version.
-/

namespace PolicyReplica.Controller

def markListed (controller : Controller) : Controller :=
  { controller with pendingLists := controller.pendingLists - 1 }

def applyNamespace (now : Nat) (object : Namespace) (controller : Controller) : Controller :=
  let name := object.metadata.anyName
  { controller with
    namespaces := (controller.namespaces.apply name).2
    metrics := controller.metrics.countApply .namespaces }.enqueueNamespace now name

def deleteNamespace (now : Nat) (object : Namespace) (controller : Controller) : Controller :=
  let name := object.metadata.anyName
  { controller with
    namespaces := (controller.namespaces.delete name).2
    metrics := controller.metrics.countApply .namespaces }.enqueueNamespace now name

def acceptNamespace (now : Nat) (controller : Controller) :
    WatchReport Namespace → Controller
  | .added object | .updated _ object => controller.applyNamespace now object
  | .deleted object _ => controller.deleteNamespace now object
  | .synced => controller.markListed

/-- Puts a replica into the index, and queues it if the index held another
version. -/
def applyReplica (now : Nat) (replica : Replica) (controller : Controller) : Controller :=
  let (prior, index) := controller.index.apply replica
  let indexed := { controller with index, metrics := controller.metrics.countApply .domains }
  if prior.bind Replica.version ≠ replica.version then indexed.enqueue now replica.name
  else indexed

def deleteReplica (now : Nat) (replica : Replica) (controller : Controller) : Controller :=
  let (prior, index) := controller.index.delete replica.name
  let indexed := { controller with index, metrics := controller.metrics.countApply .domains }
  if prior.isSome then indexed.enqueue now replica.name else indexed

def acceptReplica (now : Nat) (controller : Controller) : WatchReport Replica → Controller
  | .added replica | .updated _ replica => controller.applyReplica now replica
  | .deleted replica _ => controller.deleteReplica now replica
  | .synced => controller.markListed

end PolicyReplica.Controller
