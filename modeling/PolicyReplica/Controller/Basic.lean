import PolicyReplica.Controller.Metrics
import PolicyReplica.Index.Samples
import PolicyReplica.NameMapping
import PolicyReplica.Queue.Shared

/-
Controllers: what they know, and which domains they replicate.

A controller replicates the admin domain, the domains of system namespaces, the
domains of live namespaces, and the domains that a replica trusts; excluded
namespaces count for none of these. The names of domains that need a sync go
through a rate limited queue.
-/

namespace PolicyReplica

structure SyncSettings where
  /-- How often a failed sync is retried. -/
  retryLimit : Nat
  /-- Whether the generated roles and policies are left out of replicas. -/
  excludeGenerated : Bool
  /-- The time between rate limited admissions, in milliseconds. -/
  queueInterval : Nat
  deriving DecidableEq, Repr

def SyncSettings.standard : SyncSettings :=
  { retryLimit := 3, excludeGenerated := false, queueInterval := 250 }

structure Controller where
  names : NameMapping
  settings : SyncSettings
  namespaces : NamespaceIndex
  index : DomainIndex
  queue : SharedQueue String
  metrics : ControllerMetrics
  /-- How many watches have still to deliver their first listing. -/
  pendingLists : Nat

namespace Controller

def watches : Nat := 2

def ofSettings (names : NameMapping) (settings : SyncSettings) : Controller :=
  { names, settings
    namespaces := .empty
    index := .empty
    queue := .ofInterval settings.queueInterval
    metrics := .initial
    pendingLists := watches }

def isSynced (controller : Controller) : Bool :=
  controller.pendingLists = 0

/-- Holds of the domain of a live namespace that is not excluded. A namespace
whose name leads to another domain than it came from does not count. -/
def hasNamespace (controller : Controller) (domain : String) : Bool :=
  let name := controller.names.namespaceOf domain
  controller.names.domainOf name = domain && !controller.names.isExcluded name &&
    controller.namespaces.contains name

def isValid (controller : Controller) (domain : String) : Bool :=
  controller.names.isAdminDomain domain || controller.names.isSystemDomain domain ||
    controller.hasNamespace domain || controller.index.isTrustTarget domain

def enqueue (now : Nat) (controller : Controller) (domain : String) : Controller :=
  { controller with queue := controller.queue.addRateLimited now domain }

def enqueueAll (now : Nat) (domains : List String) (controller : Controller) : Controller :=
  domains.foldl (enqueue now) controller

def enqueueNamespace (now : Nat) (controller : Controller) (name : String) : Controller :=
  if controller.names.isExcluded name then controller
  else controller.enqueue now (controller.names.domainOf name)

def fixedDomains (controller : Controller) : List String :=
  controller.names.adminDomain.toList ++ controller.names.systemDomains

def samples (controller : Controller) : List Sample :=
  controller.metrics.samples ++ indexSamples controller.index controller.namespaces

end Controller

end PolicyReplica
