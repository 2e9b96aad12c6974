import PolicyReplica.Proofs.Names.Admission
import PolicyReplica.Proofs.Store.Relaying
import PolicyReplica.Proofs.Sync.InLine
import PolicyReplica.Proofs.Watch.OwnChanges

/-
The states that a controller comes to.

Tasks take turns in any order, others write to the API server, let its requests fail and ask
for syncs, and the service, the watches and the pollers around the deployment are changed at
will. Whatever comes, the index of replicas is one that changes of single replicas made from
the empty one.
-/

namespace PolicyReplica

namespace Deployment

/-- The index came about by changes, and the server stores each replica under its own name. -/
structure Sound (deployment : Deployment MemoryServer) : Prop where
  replayed : DomainIndex.empty.Becomes deployment.controller.index
  named : deployment.server.Named

variable {deployment : Deployment MemoryServer}

theorem Sound.consistent (sound : deployment.Sound) : deployment.controller.index.Consistent := by
  obtain ⟨changes, replayed⟩ := sound.replayed
  rw [replayed]
  exact DomainIndex.replay_consistent changes

theorem Sound.becomes {after : Deployment MemoryServer} (sound : deployment.Sound)
    (becomes : deployment.controller.index.Becomes after.controller.index)
    (server : after.server = deployment.server) : after.Sound where
  replayed := sound.replayed.trans becomes
  named := by
    rw [server]
    exact sound.named

/-- Only the index and the server matter. -/
theorem Sound.congr {after : Deployment MemoryServer} (sound : deployment.Sound)
    (index : after.controller.index = deployment.controller.index)
    (server : after.server = deployment.server) : after.Sound := by
  refine sound.becomes ?_ server
  rw [index]
  exact .refl deployment.controller.index

theorem Sound.perform {α : Type} (sound : deployment.Sound) {name : String}
    {ends : Option (Option Replica) → α → Prop} {exchange : Exchange α}
    (relays : exchange.Relays name ends none) : (deployment.perform exchange).2.Sound := by
  obtain ⟨becomes, named⟩ :=
    relays.run (MemoryServer.truthful name) sound.consistent sound.named
  exact ⟨sound.replayed.trans becomes, named⟩

theorem Sound.removeReplica (sound : deployment.Sound) (domain : String) :
    (deployment.removeReplica domain).2.Sound := by
  have afterwards := sound.perform (Store.remove_relays domain)
  unfold Deployment.removeReplica
  rcases removed : deployment.perform (Store.remove domain) with ⟨result, after⟩
  rw [removed] at afterwards
  cases result with
  | ok present =>
      cases present with
      | true => exact afterwards
      | false => exact afterwards
  | error error => exact afterwards

theorem Sound.storeSnapshot (sound : deployment.Sound) (now : Nat) (domain : String)
    (snapshot : Snapshot) : (deployment.storeSnapshot now domain snapshot).2.Sound := by
  have afterwards := sound.perform (Store.createOrUpdate_relays domain snapshot)
  unfold Deployment.storeSnapshot
  rcases stored : deployment.perform (Store.createOrUpdate domain snapshot) with ⟨result, after⟩
  rw [stored] at afterwards
  cases result with
  | ok applied => exact afterwards.congr (cascade_index now domain snapshot after.controller) rfl
  | error error => exact afterwards

theorem Sound.recordFailure (sound : deployment.Sound) (domain : String) (error : ServiceError) :
    (deployment.recordFailure domain error).2.Sound := by
  have afterwards := sound.perform (Store.setErrorStatus_relays domain error.message)
  exact afterwards

theorem Sound.accept (sound : deployment.Sound) (now : Nat) (domain : String)
    (answer : FetchAnswer) : (deployment.accept now domain answer).2.Sound := by
  cases answer with
  | answered snapshot? =>
      cases snapshot? with
      | some snapshot => exact sound.storeSnapshot now domain (deployment.prepared snapshot)
      | none => exact sound.removeReplica domain
  | failed error =>
      unfold Deployment.accept
      by_cases gone : error.isNotFound = true
      · simp only [if_pos gone]
        exact sound.removeReplica domain
      · simp only [if_neg gone]
        exact sound.recordFailure domain error
  | broken => exact sound

end Deployment

/-! ### What a controller does to its index -/

namespace Controller

theorem conclude_index (now : Nat) (domain : String) (result : SyncResult)
    (controller : Controller) :
    (controller.conclude now domain result).index = controller.index := by
  unfold conclude countResult
  cases result with
  | ok outcome => rfl
  | error error =>
      simp only
      split
      · rfl
      · rfl

theorem acceptNamespace_index (now : Nat) (controller : Controller)
    (report : WatchReport Namespace) :
    (controller.acceptNamespace now report).index = controller.index := by
  have enqueued : ∀ (controller : Controller) (name : String),
      (controller.enqueueNamespace now name).index = controller.index := by
    intro controller name
    rw [enqueueNamespace_eq]
  cases report with
  | added object => exact enqueued _ _
  | updated old new => exact enqueued _ _
  | deleted object gone => exact enqueued _ _
  | synced => rfl

theorem acceptReplica_becomes (now : Nat) (controller : Controller)
    (report : WatchReport Replica) :
    controller.index.Becomes (controller.acceptReplica now report).index := by
  cases tells : report.change? with
  | some change =>
      rw [acceptReplica_index now controller tells]
      exact controller.index.becomes_change change
  | none =>
      cases report with
      | synced => exact .refl controller.index
      | added replica => cases tells
      | updated old new => cases tells
      | deleted replica gone => cases tells

theorem becomes_reports {ρ : Type} {accept : Controller → ρ → Controller}
    (each : ∀ (controller : Controller) (report : ρ),
      controller.index.Becomes (accept controller report).index)
    (reports : List ρ) (controller : Controller) :
    controller.index.Becomes (reports.foldl accept controller).index := by
  induction reports generalizing controller with
  | nil => exact .refl controller.index
  | cons report later ih => exact (each controller report).trans (ih (accept controller report))

end Controller

namespace ControllerWorld

variable {world : ControllerWorld}

theorem sound_endSync (sound : world.deployment.Sound) (now : Nat) (domain : String) :
    (world.endSync now domain).2.deployment.Sound :=
  sound.accept now domain (world.service.answer domain)

theorem sound_startSync (sound : world.deployment.Sound) (now : Nat) (domain : String) :
    (world.startSync now domain).2.deployment.Sound := by
  unfold startSync
  by_cases valid : world.controller.isValid domain = true
  · simp only [if_pos valid]
    by_cases prompt : (world.service.note now (.fetch domain)).latency = 0
    · simp only [if_pos prompt]
      exact sound_endSync sound now domain
    · simp only [if_neg prompt]
      exact sound
  · simp only [if_neg valid]
    exact sound.removeReplica domain

theorem sound_concluded (sound : world.deployment.Sound) (now : Nat) (domain : String)
    (result : SyncResult) :
    (world.modify (Controller.conclude now domain result)).deployment.Sound :=
  sound.congr (Controller.conclude_index now domain result world.controller) rfl

theorem sound_process (sound : world.deployment.Sound) (now : Nat) (task : TaskId)
    (stage : SyncStage) : (world.process now task stage).2.deployment.Sound := by
  cases stage with
  | taking =>
      have taken : (world.take now task).2.deployment.Sound := sound.congr rfl rfl
      unfold process
      rcases handedOut : world.take now task with ⟨handout, after⟩
      rw [handedOut] at taken
      cases handout with
      | closed => exact taken
      | wait due => exact taken
      | item domain =>
          have begun := sound_startSync taken now domain
          simp only
          rcases started : after.startSync now domain with ⟨progress, asked⟩
          rw [started] at begun
          cases progress with
          | fetching time => exact begun
          | ended result => exact sound_concluded begun now domain result
  | fetching domain time =>
      unfold process
      by_cases due : time ≤ now
      · simp only [if_pos due]
        exact sound_concluded (sound_endSync sound now domain) now domain _
      · simp only [if_neg due]
        exact sound

theorem sound_makeMove {polling : Polling} (sound : polling.world.deployment.Sound)
    (now number : Nat) (move : PollMove) :
    (makeMove now number polling move).world.deployment.Sound := by
  cases move with
  | visit domain =>
      unfold makeMove visit
      by_cases valid : polling.world.controller.isValid domain = true
      · simp only [if_pos valid]
        exact sound.congr rfl rfl
      · simp only [if_neg valid]
        exact sound
  | advance cursor => exact sound
  | record cursor => exact sound

theorem sound_makeMoves {polling : Polling} (sound : polling.world.deployment.Sound)
    (now number : Nat) (moves : List PollMove) :
    (moves.foldl (makeMove now number) polling).world.deployment.Sound := by
  induction moves generalizing polling with
  | nil => exact sound
  | cons move later ih => exact ih (sound_makeMove sound now number move)

theorem sound_pollChanges (sound : world.deployment.Sound) (now number : Nat) (poller : Poller) :
    (world.pollChanges now number poller).2.deployment.Sound := by
  unfold pollChanges
  rcases world.service.list now poller.cursor with ⟨answer, service⟩
  cases answer with
  | error error => exact sound
  | ok changes =>
      have listed : ({ world with service } : ControllerWorld).deployment.Sound := sound
      exact sound_makeMoves listed now number changes.moves

theorem sound_attemptPoll (sound : world.deployment.Sound) (now number : Nat) (backoff : Backoff)
    (poller : Poller) : (world.attemptPoll now number backoff poller).2.deployment.Sound := by
  have afterwards := sound_pollChanges sound now number poller
  unfold attemptPoll
  rcases polled : world.pollChanges now number poller with ⟨answer, after⟩
  rw [polled] at afterwards
  have counted : ∀ result, (after.countPoll result).deployment.Sound :=
    fun result => afterwards.congr rfl rfl
  cases answer with
  | ok count => exact counted .ok
  | error error =>
      cases backoff.next? poller.updateInterval with
      | none => exact counted .failed
      | some next => exact counted .retried

theorem sound_turnPoll (sound : world.deployment.Sound) (now number : Nat) (stage : PollStage) :
    (world.turnPoll now number stage).2.deployment.Sound := by
  unfold turnPoll
  cases world.pollers[number]? with
  | none => exact sound
  | some poller =>
      have attempted : ∀ backoff,
          (world.attemptPoll now number backoff poller).2.deployment.Sound :=
        fun backoff => sound_attemptPoll sound now number backoff poller
      cases stage with
      | resting time =>
          by_cases due : time ≤ now
          · simp only [if_pos due]
            cases (world.attemptPoll now number .initial poller).1 with
            | retrying backoff time => exact attempted .initial
            | ended succeeded => exact attempted .initial
          · simp only [if_neg due]
            exact sound
      | retrying backoff time =>
          by_cases due : time ≤ now
          · simp only [if_pos due]
            cases (world.attemptPoll now number backoff poller).1 with
            | retrying later time => exact attempted backoff
            | ended succeeded => exact attempted backoff
          · simp only [if_neg due]
            exact sound

theorem sound_turnResync (sound : world.deployment.Sound) (now interval time : Nat) :
    (world.turnResync now interval time).2.deployment.Sound := by
  unfold turnResync
  by_cases due : time ≤ now
  · simp only [if_pos due]
    exact sound.congr (Controller.enqueueAll_index now _ world.controller) rfl
  · simp only [if_neg due]
    exact sound

theorem sound_turnNamespaces (sound : world.deployment.Sound) (now number : Nat) :
    (world.turnNamespaces now number).2.deployment.Sound := by
  unfold turnNamespaces
  cases world.namespaceFeeds[number]? with
  | none => exact sound
  | some feed =>
      by_cases pauses : now < feed.resumes
      · simp only [if_pos pauses]
        exact sound
      · simp only [if_neg pauses]
        cases readFeed now feed with
        | some read =>
            have each : ∀ (controller : Controller) (report : WatchReport Namespace),
                controller.index.Becomes (controller.acceptNamespace now report).index := by
              intro controller report
              rw [controller.acceptNamespace_index]
              exact .refl controller.index
            exact sound.becomes (Controller.becomes_reports each read.1 world.controller) rfl
        | none =>
            by_cases closed : feed.closed = true
            · simp only [if_pos closed]
              exact sound
            · simp only [if_neg closed]
              exact sound

theorem sound_turnReplicas (sound : world.deployment.Sound) (now number : Nat) :
    (world.turnReplicas now number).2.deployment.Sound := by
  unfold turnReplicas
  cases world.replicaFeeds[number]? with
  | none => exact sound
  | some feed =>
      by_cases pauses : now < feed.resumes
      · simp only [if_pos pauses]
        exact sound
      · simp only [if_neg pauses]
        cases readFeed now feed with
        | some read =>
            exact sound.becomes (Controller.becomes_reports
              (Controller.acceptReplica_becomes now) read.1 world.controller) rfl
        | none =>
            by_cases closed : feed.closed = true
            · simp only [if_pos closed]
              exact sound
            · simp only [if_neg closed]
              exact sound

theorem sound_turn (sound : world.deployment.Sound) (now : Nat) (id : TaskId) (job : Job) :
    (world.turn now id job).2.deployment.Sound := by
  cases job with
  | work stage =>
      have afterwards := sound_process sound now id stage
      unfold turn
      simp only
      rcases processed : world.process now id stage with ⟨call, after⟩
      rw [processed] at afterwards
      cases call with
      | waits stage deadline => exact afterwards
      | returned more =>
          cases more with
          | true => exact afterwards
          | false => exact afterwards
  | pollChanges number stage => exact sound_turnPoll sound now number stage
  | resync interval time => exact sound_turnResync sound now interval time
  | watchNamespaces feed => exact sound_turnNamespaces sound now feed
  | watchReplicas feed => exact sound_turnReplicas sound now feed

/-! ### Runs -/

inductive Step where
  | turn (now : Nat) (id : TaskId) (job : Job)
  /-- Somebody else than a worker starts a sync. -/
  | startSync (now : Nat) (domain : String)
  | endSync (now : Nat) (domain : String)
  | server (event : MemoryServer.Event)
  /-- A call of the store that is under way puts an answer into the index. -/
  | write (change : IndexChange)
  | queue (queue : SharedQueue String)
  /-- All is changed but the deployment. -/
  | around (other : ControllerWorld)

def step (world : ControllerWorld) : Step → ControllerWorld
  | .turn now id job => (world.turn now id job).2
  | .startSync now domain => (world.startSync now domain).2
  | .endSync now domain => (world.endSync now domain).2
  | .server event =>
      { world with
        deployment := { world.deployment with server := world.deployment.server.happen event } }
  | .write change =>
      world.modify fun controller => { controller with index := controller.index.change change }
  | .queue queue => world.modify fun controller => { controller with queue }
  | .around other => { other with deployment := world.deployment }

def run (world : ControllerWorld) (steps : List Step) : ControllerWorld :=
  steps.foldl step world

theorem sound_step (sound : world.deployment.Sound) (step : Step) :
    (world.step step).deployment.Sound := by
  cases step with
  | turn now id job => exact sound_turn sound now id job
  | startSync now domain => exact sound_startSync sound now domain
  | endSync now domain => exact sound_endSync sound now domain
  | server event => exact ⟨sound.replayed, sound.named.happen event⟩
  | write change => exact sound.becomes (world.controller.index.becomes_change change) rfl
  | queue queue => exact sound.congr rfl rfl
  | around other => exact sound

theorem sound_run (sound : world.deployment.Sound) (steps : List Step) :
    (world.run steps).deployment.Sound := by
  induction steps generalizing world with
  | nil => exact sound
  | cons step later ih => exact ih (sound_step sound step)

theorem sound_ofSettings (names : NameMapping) (settings : SyncSettings) :
    (ofSettings names settings).deployment.Sound :=
  ⟨.refl .empty, MemoryServer.replay_named []⟩

end ControllerWorld

end PolicyReplica
