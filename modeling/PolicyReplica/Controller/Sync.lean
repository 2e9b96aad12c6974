import PolicyReplica.Controller.Basic
import PolicyReplica.Domain.Generated
import PolicyReplica.Service.Basic

/-
Syncs: bringing the replica of one domain in line with the policy service.

A domain that is not to be replicated loses its replica without a question to the
service, and so does one that the service does not know. A failure of the service
leaves the contents of the replica alone and is recorded in its status. When the
domain of a live namespace, or the admin domain, is synced, the domains it trusts
are queued unless they have replicas already.
-/

namespace PolicyReplica

inductive SyncError where
  | fetch (error : ServiceError)
  | store (error : StoreError)
  /-- The sync broke off. -/
  | broken
  deriving DecidableEq

/-- The text of an error; one of the store is left to that error. -/
def SyncError.message? : SyncError → Option String
  | .fetch error => some ("failed to fetch domain: " ++ error.message)
  | .store error => error.message?
  | .broken => none

abbrev SyncResult := Except SyncError Outcome

structure Deployment (σ : Type) where
  controller : Controller
  server : σ

namespace Deployment

variable {σ α : Type} [ApiBackend σ]

def modify (deployment : Deployment σ) (change : Controller → Controller) : Deployment σ :=
  { deployment with controller := change deployment.controller }

def perform (exchange : Exchange α) (deployment : Deployment σ) : α × Deployment σ :=
  let (result, index, server) := exchange.run (deployment.controller.index, deployment.server)
  (result, { controller := { deployment.controller with index }, server })

def removeReplica (domain : String) (deployment : Deployment σ) : SyncResult × Deployment σ :=
  let (removed, after) := deployment.perform (Store.remove domain)
  match removed with
  | .ok true => (.ok .deleted, after)
  | .ok false => (.ok .absent, after)
  | .error error => (.error (.store error), after)

def prepared (deployment : Deployment σ) (snapshot : Snapshot) : Snapshot :=
  if deployment.controller.settings.excludeGenerated then snapshot.withoutGeneratedRules
  else snapshot

/-- Queues the domains that a synced domain trusts and that have no replica. -/
def cascade (now : Nat) (domain : String) (snapshot : Snapshot) (controller : Controller) :
    Controller :=
  if controller.names.isAdminDomain domain || controller.hasNamespace domain then
    controller.enqueueAll now
      (snapshot.trustDomains.filter fun target =>
        target ≠ domain && !controller.index.contains target)
  else controller

def storeSnapshot (now : Nat) (domain : String) (snapshot : Snapshot)
    (deployment : Deployment σ) : SyncResult × Deployment σ :=
  let (applied, after) := deployment.perform (Store.createOrUpdate domain snapshot)
  match applied with
  | .ok applied => (.ok (.ofApplied applied), after.modify (cascade now domain snapshot))
  | .error error => (.error (.store error), after)

/-- Records a failure of the service in the status of the replica; it does not
matter whether that succeeds. -/
def recordFailure (domain : String) (error : ServiceError) (deployment : Deployment σ) :
    SyncResult × Deployment σ :=
  (.error (.fetch error), (deployment.perform (Store.setErrorStatus domain error.message)).2)

def accept (now : Nat) (domain : String) (answer : FetchAnswer) (deployment : Deployment σ) :
    SyncResult × Deployment σ :=
  match answer with
  | .answered (some snapshot) =>
      deployment.storeSnapshot now domain (deployment.prepared snapshot)
  | .answered none => deployment.removeReplica domain
  | .failed error =>
      if error.isNotFound then deployment.removeReplica domain
      else deployment.recordFailure domain error
  | .broken => (.error .broken, deployment)

/-- A sync whose question to the service is answered at once. -/
def sync (now : Nat) (domain : String) (fetch : String → FetchAnswer)
    (deployment : Deployment σ) : SyncResult × Deployment σ :=
  if deployment.controller.isValid domain then deployment.accept now domain (fetch domain)
  else deployment.removeReplica domain

end Deployment

namespace Controller

/-- Counts a sync and queues a failed one again while it has retries left. -/
def countResult (now : Nat) (domain : String) (result : SyncResult) (controller : Controller) :
    Controller :=
  match result with
  | .ok outcome =>
      { controller with
        metrics := controller.metrics.countSync outcome
        queue := controller.queue.forget domain }
  | .error _ =>
      let metrics := controller.metrics.countSync .failed
      if controller.queue.requeues domain ≤ controller.settings.retryLimit then
        { controller with metrics := { metrics with requeues := metrics.requeues + 1 } }.enqueue
          now domain
      else
        { controller with
          metrics := { metrics with dropped := metrics.dropped + 1 }
          queue := controller.queue.forget domain }

def conclude (now : Nat) (domain : String) (result : SyncResult) (controller : Controller) :
    Controller :=
  let counted := controller.countResult now domain result
  { counted with queue := counted.queue.complete domain }

end Controller

end PolicyReplica
