import PolicyReplica.Proofs.Watch.Intake
import PolicyReplica.Proofs.Watch.OwnChanges

/-
A controller that starts.

Two tasks read the watches of namespaces and of replicas, in any order of their steps, and
nobody else writes to the two indexes. Main statement: the controller is synced exactly when
both first listings have been handled to their ends, and at every moment its indexes hold
what the reports that were handled add up to.
-/

namespace PolicyReplica

open WatchReport (settle isSynced)
open WatcherEvent (isDone AllUnscoped)

theorem NamespaceIndex.contains_delete (index : NamespaceIndex) (name other : String) :
    (index.delete name).2.contains other = true ↔ other ≠ name ∧ index.contains other = true := by
  unfold delete contains
  rw [List.contains_iff_mem, List.contains_iff_mem]
  exact index.distinctMembers.mem_erase_iff

def NamespaceIndex.settle (index : NamespaceIndex) : WatchReport Namespace → NamespaceIndex
  | .added object | .updated _ object => (index.apply object.metadata.anyName).2
  | .deleted object _ => (index.delete object.metadata.anyName).2
  | .synced => index

def DomainIndex.settle (index : DomainIndex) (report : WatchReport Replica) : DomainIndex :=
  report.change?.elim index index.change

/-- A report about a named object tells both the same. -/
theorem NamespaceIndex.contains_settle {index : NamespaceIndex} {held : Table String Namespace}
    (same : ∀ name, index.contains name = held.contains name) {report : WatchReport Namespace}
    (named : ∀ object, report.object? = some object →
      ∃ name, object.metadata.name = some name ∧ Watch.key? object = some name) (other : String) :
    (index.settle report).contains other = (report.settle held).contains other := by
  cases about : report.object? with
  | none =>
      cases report with
      | synced => exact same other
      | added | updated | deleted => cases about
  | some object =>
      obtain ⟨name, own, key⟩ := named object about
      have spelled : object.metadata.anyName = name := by
        unfold Metadata.anyName
        rw [own]
        rfl
      have known := same other
      unfold Table.contains at known ⊢
      rw [WatchReport.get?_settle about key, Bool.eq_iff_iff]
      cases report with
      | added added =>
          obtain rfl := Option.some.inj about
          rw [settle, contains_apply, spelled, known]
          by_cases here : other = name <;> simp [here, WatchReport.present?]
      | updated old new =>
          obtain rfl := Option.some.inj about
          rw [settle, contains_apply, spelled, known]
          by_cases here : other = name <;> simp [here, WatchReport.present?]
      | deleted gone already =>
          obtain rfl := Option.some.inj about
          rw [settle, contains_delete, spelled, known]
          by_cases here : other = name <;> simp [here, WatchReport.present?]
      | synced => cases about

theorem DomainIndex.get?_settle {index : DomainIndex} {held : Table String Replica}
    (same : ∀ name, index.get? name = held.get? name) {report : WatchReport Replica}
    (named : ∀ object, report.object? = some object →
      ∃ name, object.metadata.name = some name ∧ Watch.key? object = some name) (other : String) :
    (index.settle report).get? other = (report.settle held).get? other := by
  cases about : report.object? with
  | none =>
      cases report with
      | synced => exact same other
      | added | updated | deleted => cases about
  | some object =>
      obtain ⟨name, own, key⟩ := named object about
      have spelled : object.name = name := by
        unfold Replica.name Metadata.anyName
        rw [own]
        rfl
      rw [WatchReport.get?_settle about key, ← same other, ← spelled]
      cases report with
      | added added =>
          obtain rfl := Option.some.inj about
          exact index.get?_apply added other
      | updated old new =>
          obtain rfl := Option.some.inj about
          exact index.get?_apply new other
      | deleted gone already =>
          obtain rfl := Option.some.inj about
          exact index.get?_delete gone.name other
      | synced => cases about

namespace Controller

/-- All that a report about namespaces does, apart from what it queues and counts. -/
theorem acceptNamespace_settles (now : Nat) (controller : Controller)
    (report : WatchReport Namespace) :
    ∃ queue metrics, controller.acceptNamespace now report =
      { controller with
        queue, metrics
        namespaces := controller.namespaces.settle report
        pendingLists := controller.pendingLists - if report.isSynced then 1 else 0 } := by
  have enqueued : ∀ (indexed : Controller) (name : String),
      ∃ queue, indexed.enqueueNamespace now name = { indexed with queue } :=
    fun indexed name => ⟨_, enqueueNamespace_eq now indexed name⟩
  cases report with
  | added object => exact (enqueued _ _).imp fun queue same => ⟨_, same⟩
  | updated old object => exact (enqueued _ _).imp fun queue same => ⟨_, same⟩
  | deleted object gone => exact (enqueued _ _).imp fun queue same => ⟨_, same⟩
  | synced => exact ⟨controller.queue, controller.metrics, rfl⟩

/-- All that a report about replicas does, apart from what it queues and counts. -/
theorem acceptReplica_settles (now : Nat) (controller : Controller)
    (report : WatchReport Replica) :
    ∃ queue metrics, controller.acceptReplica now report =
      { controller with
        queue, metrics
        index := controller.index.settle report
        pendingLists := controller.pendingLists - if report.isSynced then 1 else 0 } := by
  have applied : ∀ replica : Replica, ∃ queue metrics, controller.applyReplica now replica =
      { controller with queue, metrics, index := (controller.index.apply replica).2 } := by
    intro replica
    unfold applyReplica
    by_cases other : (controller.index.apply replica).1.bind Replica.version ≠ replica.version
    · simp only [if_pos other]
      exact ⟨_, _, rfl⟩
    · simp only [if_neg other]
      exact ⟨_, _, rfl⟩
  cases report with
  | added replica => exact applied replica
  | updated old replica => exact applied replica
  | deleted replica gone =>
      unfold acceptReplica deleteReplica
      by_cases present : (controller.index.delete replica.name).1.isSome = true
      · simp only [if_pos present]
        exact ⟨_, _, rfl⟩
      · simp only [if_neg present]
        exact ⟨_, _, rfl⟩
  | synced => exact ⟨controller.queue, controller.metrics, rfl⟩

end Controller

structure Startup where
  controller : Controller
  namespaces : Intake Namespace
  replicas : Intake Replica

namespace Startup

inductive Turn where
  | namespaces (now : Nat)
  | replicas (now : Nat)
  /-- Other tasks use the queue and the counts. -/
  | elsewhere (queue : SharedQueue String) (metrics : ControllerMetrics)

def ofEvents (names : NameMapping) (settings : SyncSettings)
    (namespaceEvents : List (WatcherEvent Namespace))
    (replicaEvents : List (WatcherEvent Replica)) : Startup :=
  { controller := .ofSettings names settings
    namespaces := .ofEvents namespaceEvents
    replicas := .ofEvents replicaEvents }

def step (startup : Startup) : Turn → Startup
  | .namespaces now =>
      let (report?, namespaces) := startup.namespaces.turn
      { startup with
        namespaces
        controller :=
          report?.elim startup.controller (startup.controller.acceptNamespace now) }
  | .replicas now =>
      let (report?, replicas) := startup.replicas.turn
      { startup with
        replicas
        controller := report?.elim startup.controller (startup.controller.acceptReplica now) }
  | .elsewhere queue metrics =>
      { startup with controller := { startup.controller with queue, metrics } }

def run (startup : Startup) (turns : List Turn) : Startup :=
  turns.foldl step startup

structure Sound (namespaceEvents : List (WatcherEvent Namespace))
    (replicaEvents : List (WatcherEvent Replica)) (startup : Startup) : Prop where
  namespaces : startup.namespaces.Told namespaceEvents
  replicas : startup.replicas.Told replicaEvents
  pending : startup.controller.pendingLists = Controller.watches -
    (startup.namespaces.handled.countP isSynced + startup.replicas.handled.countP isSynced)
  live : ∀ name,
    startup.controller.namespaces.contains name = startup.namespaces.held.contains name
  indexed : ∀ name, startup.controller.index.get? name = startup.replicas.held.get? name

variable {namespaceEvents : List (WatcherEvent Namespace)}
  {replicaEvents : List (WatcherEvent Replica)} {startup : Startup}

theorem ofEvents_sound (names : NameMapping) (settings : SyncSettings)
    (namespaceEvents : List (WatcherEvent Namespace))
    (replicaEvents : List (WatcherEvent Replica)) :
    (ofEvents names settings namespaceEvents replicaEvents).Sound namespaceEvents replicaEvents :=
  ⟨Intake.ofEvents_told namespaceEvents, Intake.ofEvents_told replicaEvents, rfl,
    fun _ => rfl, fun _ => rfl⟩

theorem step_namespaces (startup : Startup) (now : Nat) :
    ∃ queue metrics, startup.step (.namespaces now) =
      { startup with
        namespaces := startup.namespaces.turn.2
        controller :=
          { startup.controller with
            queue, metrics
            namespaces := startup.namespaces.turn.1.elim startup.controller.namespaces
              startup.controller.namespaces.settle
            pendingLists :=
              startup.controller.pendingLists - Intake.completed startup.namespaces.turn.1 } } := by
  unfold step
  rcases startup.namespaces.turn with ⟨report?, namespaces⟩
  cases report? with
  | none => exact ⟨startup.controller.queue, startup.controller.metrics, rfl⟩
  | some report =>
      obtain ⟨queue, metrics, settled⟩ := startup.controller.acceptNamespace_settles now report
      exact ⟨queue, metrics, by simp only [Option.elim_some, settled, Intake.completed]⟩

theorem step_replicas (startup : Startup) (now : Nat) :
    ∃ queue metrics, startup.step (.replicas now) =
      { startup with
        replicas := startup.replicas.turn.2
        controller :=
          { startup.controller with
            queue, metrics
            index := startup.replicas.turn.1.elim startup.controller.index
              startup.controller.index.settle
            pendingLists :=
              startup.controller.pendingLists - Intake.completed startup.replicas.turn.1 } } := by
  unfold step
  rcases startup.replicas.turn with ⟨report?, replicas⟩
  cases report? with
  | none => exact ⟨startup.controller.queue, startup.controller.metrics, rfl⟩
  | some report =>
      obtain ⟨queue, metrics, settled⟩ := startup.controller.acceptReplica_settles now report
      exact ⟨queue, metrics, by simp only [Option.elim_some, settled, Intake.completed]⟩

theorem Sound.step (sound : startup.Sound namespaceEvents replicaEvents)
    (namespacesUnscoped : AllUnscoped namespaceEvents)
    (replicasUnscoped : AllUnscoped replicaEvents) (turn : Turn) :
    (startup.step turn).Sound namespaceEvents replicaEvents := by
  have pending := sound.pending
  cases turn with
  | elsewhere queue metrics =>
      exact ⟨sound.namespaces, sound.replicas, pending, sound.live, sound.indexed⟩
  | namespaces now =>
      obtain ⟨queue, metrics, stepped⟩ := startup.step_namespaces now
      rw [stepped]
      refine ⟨sound.namespaces.turn, sound.replicas, ?_, fun name => ?_, sound.indexed⟩
      · change startup.controller.pendingLists - _ = Controller.watches -
          (startup.namespaces.turn.2.handled.countP isSynced +
            startup.replicas.handled.countP isSynced)
        rw [startup.namespaces.countP_synced_turn]
        omega
      · rw [startup.namespaces.held_turn]
        cases handed : startup.namespaces.turn.1 with
        | none => exact sound.live name
        | some report =>
            exact NamespaceIndex.contains_settle sound.live
              (fun _ about => sound.namespaces.named namespacesUnscoped handed about) name
  | replicas now =>
      obtain ⟨queue, metrics, stepped⟩ := startup.step_replicas now
      rw [stepped]
      refine ⟨sound.namespaces, sound.replicas.turn, ?_, sound.live, fun name => ?_⟩
      · change startup.controller.pendingLists - _ = Controller.watches -
          (startup.namespaces.handled.countP isSynced +
            startup.replicas.turn.2.handled.countP isSynced)
        rw [startup.replicas.countP_synced_turn]
        omega
      · rw [startup.replicas.held_turn]
        cases handed : startup.replicas.turn.1 with
        | none => exact sound.indexed name
        | some report =>
            exact DomainIndex.get?_settle sound.indexed
              (fun _ about => sound.replicas.named replicasUnscoped handed about) name

theorem Sound.run (sound : startup.Sound namespaceEvents replicaEvents)
    (namespacesUnscoped : AllUnscoped namespaceEvents)
    (replicasUnscoped : AllUnscoped replicaEvents) (turns : List Turn) :
    (startup.run turns).Sound namespaceEvents replicaEvents := by
  induction turns generalizing startup with
  | nil => exact sound
  | cons turn rest ih => exact ih (sound.step namespacesUnscoped replicasUnscoped turn)

theorem Sound.isSynced_iff (sound : startup.Sound namespaceEvents replicaEvents) :
    startup.controller.isSynced = true ↔
      startup.namespaces.processed.any isDone = true ∧
        startup.replicas.processed.any isDone = true := by
  have pending := sound.pending
  rw [sound.namespaces.countP_synced, sound.replicas.countP_synced] at pending
  unfold Controller.isSynced Controller.watches at *
  rw [decide_eq_true_eq, pending]
  cases startup.namespaces.processed.any isDone <;>
    cases startup.replicas.processed.any isDone <;> simp

/-- No turn makes a listing missing again. -/
theorem step_pendingLists_le (startup : Startup) (turn : Turn) :
    (startup.step turn).controller.pendingLists ≤ startup.controller.pendingLists := by
  cases turn with
  | elsewhere queue metrics => exact Nat.le_refl _
  | namespaces now =>
      obtain ⟨queue, metrics, stepped⟩ := startup.step_namespaces now
      rw [stepped]
      exact Nat.sub_le _ _
  | replicas now =>
      obtain ⟨queue, metrics, stepped⟩ := startup.step_replicas now
      rw [stepped]
      exact Nat.sub_le _ _

theorem isSynced_run (synced : startup.controller.isSynced = true) (turns : List Turn) :
    (startup.run turns).controller.isSynced = true := by
  induction turns generalizing startup with
  | nil => exact synced
  | cons turn rest ih =>
      refine @ih (startup.step turn) ?_
      have bound := startup.step_pendingLists_le turn
      unfold Controller.isSynced at synced ⊢
      rw [decide_eq_true_eq] at synced ⊢
      omega

/-- In whatever order two tasks read their watches of unscoped objects: the controller is
synced exactly when both have handled all reports on an end of a listing, and stays so. Its
indexes hold what the reports that were handled so far add up to. Once it is synced, every
named object of both first listings is indexed, unless its deletion has been handled since. -/
theorem run_barrier (names : NameMapping) (settings : SyncSettings)
    (namespaceEvents : List (WatcherEvent Namespace))
    (replicaEvents : List (WatcherEvent Replica))
    (unscoped : AllUnscoped namespaceEvents ∧ AllUnscoped replicaEvents) (turns : List Turn) :
    let startup := (ofEvents names settings namespaceEvents replicaEvents).run turns
    let controller := startup.controller
    startup.namespaces.Told namespaceEvents ∧ startup.replicas.Told replicaEvents ∧
      (controller.isSynced = true ↔
        startup.namespaces.processed.any isDone = true ∧
          startup.replicas.processed.any isDone = true) ∧
      (controller.isSynced = true → ∀ later, (startup.run later).controller.isSynced = true) ∧
      (∀ name, controller.namespaces.contains name = startup.namespaces.held.contains name) ∧
      (∀ name, controller.index.get? name = startup.replicas.held.get? name) ∧
      (controller.isSynced = true →
        startup.namespaces.Brought (fun name => controller.namespaces.contains name = true) ∧
          startup.replicas.Brought fun name => controller.index.contains name = true) := by
  intro startup controller
  have sound : startup.Sound namespaceEvents replicaEvents :=
    (ofEvents_sound names settings namespaceEvents replicaEvents).run unscoped.1 unscoped.2 turns
  refine ⟨sound.namespaces, sound.replicas, sound.isSynced_iff, isSynced_run, sound.live,
    sound.indexed, fun synced => ?_⟩
  obtain ⟨namespacesDone, replicasDone⟩ := sound.isSynced_iff.mp synced
  have brought := sound.namespaces.brought unscoped.1 namespacesDone
  have replicasBrought := sound.replicas.brought unscoped.2 replicasDone
  have live : controller.namespaces.contains = startup.namespaces.held.contains :=
    funext sound.live
  have indexed : controller.index.contains = startup.replicas.held.contains :=
    funext fun name => congrArg Option.isSome (sound.indexed name)
  rw [live, indexed]
  exact ⟨brought, replicasBrought⟩

/-- A listing that breaks off after it has shown bank, and one that does not show it. -/
def relisted : List (WatcherEvent Namespace) :=
  [.listing, .listed (Watch.seen "bank" "1"), .listed ⟨Metadata.empty⟩, .failed, .listing,
    .listed (Watch.seen "cart" "2"), .listingDone]

def shopListed : List (WatcherEvent Replica) :=
  [.listing, .listed (WatchedServer.storedShop (some "bank") "3"), .listingDone]

def relisting : Startup :=
  ofEvents (.ofSettings "k8s" [] []) .standard relisted shopListed

def untilGone : List Turn :=
  List.replicate 5 (.namespaces 0) ++ List.replicate 5 (.replicas 0) ++
    List.replicate 5 (.namespaces 1000)

/-- The end of a listing counts when it has been handled, not when it has been heard. -/
theorem run_barrier_relisted :
    let waiting := relisting.run untilGone
    let last := relisting.run (untilGone ++ [.namespaces 1000])
    (AllUnscoped relisted ∧ AllUnscoped shopListed) ∧
      waiting.namespaces.heard.any isDone = true ∧ waiting.controller.isSynced = false ∧
      last.controller.isSynced = true ∧ last.controller.namespaces.contains "cart" = true ∧
      last.controller.namespaces.contains "bank" = false ∧
      last.controller.index.contains "shop" = true := by
  have unscoped : AllUnscoped relisted ∧ AllUnscoped shopListed := by decide
  obtain ⟨_, _, early, _⟩ := run_barrier (.ofSettings "k8s" [] []) .standard relisted shopListed
    unscoped untilGone
  obtain ⟨_, _, synced, _, live, _, brought⟩ :=
    run_barrier (.ofSettings "k8s" [] []) .standard relisted shopListed unscoped
      (untilGone ++ [.namespaces 1000])
  have unfinished : ¬ (relisting.run untilGone).namespaces.processed.any isDone = true := by
    decide +kernel
  have lastSynced := synced.mpr (by decide +kernel)
  obtain ⟨report, since, handled, _, indexed⟩ :=
    (brought lastSynced).2 [.listing] (WatchedServer.storedShop (some "bank") "3") [.listingDone]
      "shop" rfl rfl rfl
  refine ⟨unscoped, by decide +kernel, ?_, lastSynced, ?_, ?_, ?_⟩
  · exact Bool.eq_false_iff.mpr fun done => unfinished (early.mp done).1
  · exact (live "cart").trans (by decide +kernel)
  · exact (live "bank").trans (by decide +kernel)
  · obtain ⟨_, rfl⟩ : report = .added (WatchedServer.storedShop (some "bank") "3") ∧
        since = [.synced] := List.cons.inj handled.symm
    refine indexed fun told member => ?_
    rw [List.mem_singleton.mp member]
    exact nofun

end Startup

end PolicyReplica
