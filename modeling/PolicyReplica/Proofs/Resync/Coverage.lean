import PolicyReplica.Proofs.Sync.Reachable

/-
Which domains a resync queues.

A resync starts from the namespaces and from the targets that were ever trusted, and not from
the replicas. Main statement: in each state that a controller comes to, it queues the roots
and the replicas that were trusted at some time, each once; every replica that is still valid
is among them. A replica that was never trusted is missed if its namespace is gone and its
removal was given up.
-/

namespace PolicyReplica

theorem SharedQueue.requeues_addRateLimited (shared : SharedQueue String) (now : Nat)
    (key other : String) :
    (shared.addRateLimited now key).requeues other =
      shared.requeues other + if other = key then 1 else 0 := by
  have reserved : (shared.addRateLimited now key).limiter =
      (shared.limiter.reserve now key).2 := by
    unfold addRateLimited addAfter
    by_cases immediate : (shared.limiter.reserve now key).1 = 0
    · simp only [if_pos immediate]
      rfl
    · simp only [if_neg immediate]
      rfl
  unfold requeues
  rw [reserved]
  exact Counts.count_increment shared.limiter.admissions key other

/-- What is trusted now was trusted when the replica that trusts it was put into the index. -/
theorem DomainIndex.exists_applied_of_isTrustTarget {changes : List IndexChange} {target : String}
    (trusted : (replay changes).isTrustTarget target = true) :
    ∃ replica, .apply replica ∈ changes ∧ replica.Trusts target := by
  obtain ⟨source, replica, found, trusts⟩ :=
    ((replay_consistent changes).isTrustTarget_iff target).mp trusted
  rw [get?_replay] at found
  exact ⟨replica, (mem_of_lastApplied found).1, trusts⟩

namespace Controller

theorem requeues_enqueueAll (now : Nat) (domains : List String) (controller : Controller)
    (domain : String) :
    (controller.enqueueAll now domains).queue.requeues domain =
      controller.queue.requeues domain + domains.count domain := by
  induction domains generalizing controller with
  | nil => rfl
  | cons first rest ih =>
      have admitted : (controller.enqueue now first).queue.requeues domain =
          controller.queue.requeues domain + if domain = first then 1 else 0 :=
        controller.queue.requeues_addRateLimited now first domain
      rw [enqueueAll_cons, ih, admitted, List.count_cons]
      by_cases here : domain = first
      · simp [here]
        omega
      · have apart : ¬ first = domain := fun same => here same.symm
        simp [here, apart]

end Controller

namespace ControllerWorld

/-- In whatever state, a resync queues the roots and each replica that some replica trusted at
some time, and nothing else, each once. Every replica that is still valid is among them. -/
theorem run_resync_queues (names : NameMapping) (settings : SyncSettings) (steps : List Step)
    (now : Nat) :
    let controller := ((ofSettings names settings).run steps).controller
    let resynced := controller.resync now
    ∃ changes queued,
      controller.index = DomainIndex.replay changes ∧
      resynced.queue = (controller.enqueueAll now queued).queue ∧
      (∀ domain, resynced.queue.requeues domain =
        controller.queue.requeues domain + if domain ∈ queued then 1 else 0) ∧
      (∀ domain, domain ∈ queued ↔
        controller.IsRoot domain ∨ controller.index.contains domain = true ∧
          ∃ replica, .apply replica ∈ changes ∧ replica.Trusts domain) ∧
      ∀ domain, controller.index.contains domain = true → controller.isValid domain = true →
        domain ∈ queued := by
  intro controller resynced
  have sound := sound_run (sound_ofSettings names settings) steps
  obtain ⟨changes, replayed⟩ := sound.replayed
  have indexed : controller.index = DomainIndex.replay changes := replayed
  have members : ∀ domain, domain ∈ controller.resyncDomains ↔
      controller.IsRoot domain ∨ controller.index.contains domain = true ∧
        ∃ replica, .apply replica ∈ changes ∧ replica.Trusts domain := by
    intro domain
    rw [controller.mem_resyncDomains_iff, ← DomainIndex.mem_seenTrust_replay, ← indexed,
      and_comm]
  refine ⟨changes, controller.resyncDomains, indexed, rfl, fun domain => ?_, members, ?_⟩
  · have nodup : controller.resyncDomains.Nodup := nodup_distinct _
    rw [← nodup.count]
    exact controller.requeues_enqueueAll now controller.resyncDomains domain
  · intro domain contained valid
    refine (members domain).mpr ?_
    rcases Controller.root_or_trusted_of_isValid valid with root | trusted
    · exact .inl root
    · rw [indexed] at trusted
      exact .inr ⟨contained, DomainIndex.exists_applied_of_isTrustTarget trusted⟩

def impatient : ControllerWorld :=
  .ofSettings { adminDomain := none, systemNamespaces := [], excludedNamespaces := [] }
    { SyncSettings.standard with retryLimit := 0 }

def passingShop : ControllerWorld :=
  let object : Namespace := { metadata := { Metadata.empty with name := some "shop" } }
  { impatient with
    service := StagedService.empty.publish "shop" (Store.shop none)
    namespaceFeeds :=
      [{ Feed.initial with
        events := [.listing, .listingDone, .applied object, .deleted object] }] }

/-- The shop is replicated before its namespace goes, and the request to delete it fails. -/
def shopSteps : List Step :=
  let told : Step := .turn 0 1 (.watchNamespaces 0)
  [.around passingShop, told, told, told, .turn 0 2 (.work .taking), told,
    .server (.injected [(.delete, { code := 500, reason := "" })]), .turn 250 2 (.work .taking)]

/-- The sync that should have removed a replica was given up, and no resync tries again. -/
theorem run_resync_misses :
    let controller := (impatient.run shopSteps).controller
    controller.metrics.dropped = 1 ∧ controller.index.contains "shop" = true ∧
      controller.isValid "shop" = false ∧
      ∀ now, "shop" ∉ controller.resyncDomains ∧
        (controller.resync now).queue = controller.queue := by
  intro controller
  have nothing : controller.resyncDomains = [] := by
    refine List.eq_nil_iff_forall_not_mem.mpr fun domain member => ?_
    have noAdmin : controller.names.adminDomain = none := by decide
    have noSystem : controller.names.systemDomains = [] := by decide
    have noNamespace : controller.namespaces.members = [] := by decide
    have noTrust : controller.index.seenTrust = [] := by decide
    rcases (controller.mem_resyncDomains_iff domain).mp member with
      (admin | system | ⟨name, live, _⟩) | ⟨seen, _⟩
    · rw [noAdmin] at admin
      cases admin
    · rw [noSystem] at system
      cases system
    · unfold NamespaceIndex.contains at live
      rw [noNamespace] at live
      cases live
    · rw [noTrust] at seen
      cases seen
  refine ⟨by decide, by decide, by decide, fun now => ⟨?_, ?_⟩⟩
  · rw [nothing]
    exact List.not_mem_nil
  · unfold Controller.resync
    rw [nothing]
    rfl

end ControllerWorld

end PolicyReplica
