import PolicyReplica.Proofs.Names.RoundTrip
import PolicyReplica.Proofs.Queue.Pending
import PolicyReplica.Proofs.Store.InStep
import PolicyReplica.Simulation.ControllerWorld

/-
One worker and its queue, while nobody else writes and the service does not fail.

A step of the worker either syncs the first ready domain or waits. What each of them
does to the replicas and to the queue is said once here, and the proofs about runs of
steps use nothing else.
-/

namespace PolicyReplica

namespace Deployment

/-- Processes the next domain. When nothing is ready, the clock moves to the time of the
first entry in line instead. -/
def processNext {σ : Type} [ApiBackend σ] (fetch : String → FetchAnswer) (task : TaskId)
    (now : Nat) (deployment : Deployment σ) : Nat × Deployment σ :=
  let (handout, queue) := deployment.controller.queue.take now task
  let taken := deployment.modify fun controller => { controller with queue }
  match handout with
  | .item domain =>
      let (result, synced) := taken.sync now domain fetch
      (now, synced.modify (Controller.conclude now domain result))
  | .wait due => (due.getD now, taken)
  | .closed => (now, taken)

end Deployment

theorem ControllerWorld.startSync_prompt (world : ControllerWorld) (now : Nat) (domain : String)
    (prompt : world.service.latency = 0) :
    ∃ service : StagedService, service.answer = world.service.answer ∧ service.latency = 0 ∧
      world.startSync now domain =
        (.ended (world.deployment.sync now domain world.service.answer).1,
          { world with
            service
            deployment := (world.deployment.sync now domain world.service.answer).2 }) := by
  unfold startSync Deployment.sync
  change ∃ service : StagedService, _ ∧ _ ∧
    (if world.deployment.controller.isValid domain then _ else _) = _
  by_cases valid : world.deployment.controller.isValid domain = true
  · refine ⟨world.service.note now (.fetch domain), rfl, prompt, ?_⟩
    rw [if_pos valid, if_pos valid]
    exact if_pos prompt
  · refine ⟨world.service, rfl, prompt, ?_⟩
    rw [if_neg valid, if_neg valid]

/-- A task that processes the next domain takes such a step if the service is not slow,
and what it waits for is the time that the clock moves to. -/
theorem ControllerWorld.process_taking (world : ControllerWorld) (now : Nat) (task : TaskId)
    (prompt : world.service.latency = 0) :
    (world.process now task .taking).2.deployment =
        (world.deployment.processNext world.service.answer task now).2 ∧
      (world.process now task .taking).2.service.answer = world.service.answer ∧
      (world.process now task .taking).2.service.latency = 0 ∧
      (world.deployment.processNext world.service.answer task now).1 =
        match (world.process now task .taking).1 with
        | .waits _ due => due.getD now
        | .returned _ => now := by
  unfold ControllerWorld.process Deployment.processNext ControllerWorld.take
  unfold ControllerWorld.controller
  rcases taken : world.deployment.controller.queue.take now task with ⟨handout, queue⟩
  cases handout with
  | closed => exact ⟨rfl, rfl, prompt, rfl⟩
  | wait due => exact ⟨rfl, rfl, prompt, rfl⟩
  | item domain =>
      obtain ⟨service, same, stillPrompt, started⟩ :=
        (world.modify fun controller => { controller with queue }).startSync_prompt now domain
          prompt
      simp only [started]
      exact ⟨rfl, same, stillPrompt, trivial⟩

/-! ### Syncs -/

def FetchAnswer.IsMissing (answer : FetchAnswer) : Prop :=
  answer = .answered none ∨ answer = .failed .notFound ∨
    ∃ message, answer = .failed (.status 404 message)

theorem ServiceError.isNotFound_iff (error : ServiceError) :
    error.isNotFound = true ↔ (FetchAnswer.failed error).IsMissing := by
  unfold FetchAnswer.IsMissing
  cases error with
  | notFound => exact ⟨fun _ => .inr (.inl rfl), fun _ => rfl⟩
  | status code text =>
      constructor
      · intro notFound
        obtain rfl : code = 404 := of_decide_eq_true notFound
        exact .inr (.inr ⟨text, rfl⟩)
      · intro missing
        rcases missing with impossible | impossible | ⟨message, same⟩
        · cases impossible
        · cases impossible
        · cases same
          rfl
  | transport text =>
      constructor
      · intro impossible
        cases impossible
      · intro missing
        rcases missing with impossible | impossible | ⟨message, impossible⟩ <;> cases impossible

/-- Holds of a service that has a domain of each name, or says that it has not. -/
def FetchAnswer.Steady (fetch : String → FetchAnswer) : Prop :=
  ∀ name, (∃ snapshot, fetch name = .answered (some snapshot) ∧ snapshot.name = name) ∨
    fetch name = .answered none ∨ ∃ error, fetch name = .failed error ∧ error.isNotFound = true

namespace Controller

theorem enqueueAll_cons (now : Nat) (domain : String) (domains : List String)
    (controller : Controller) :
    controller.enqueueAll now (domain :: domains) =
      (controller.enqueue now domain).enqueueAll now domains := rfl

theorem gains_enqueueAll (now : Nat) (domains : List String) (controller : Controller)
    (placed : controller.queue.queue.Placed) (isOpen : controller.queue.queue.closed = false)
    (free : ∀ domain ∈ domains, domain ∉ controller.queue.queue.processing) :
    ∃ queue : SharedQueue String, controller.enqueueAll now domains = { controller with queue } ∧
      controller.queue.queue.Gains queue.queue domains := by
  induction domains generalizing controller with
  | nil => exact ⟨controller.queue, rfl, .refl placed isOpen⟩
  | cons domain rest ih =>
      have first : controller.queue.queue.Gains (controller.enqueue now domain).queue.queue
          [domain] :=
        controller.queue.gains_addRateLimited placed isOpen now (free domain List.mem_cons_self)
      have stillFree : ∀ other ∈ rest,
          other ∉ (controller.enqueue now domain).queue.queue.processing := by
        intro other member
        rw [first.grows.processing]
        exact free other (List.mem_cons_of_mem domain member)
      obtain ⟨queue, queued, later⟩ :=
        ih (controller.enqueue now domain) first.grows.placed first.grows.isOpen stillFree
      refine ⟨queue, ?_, first.trans later⟩
      rw [enqueueAll_cons, queued]
      rfl

theorem isValid_of_leads {controller : Controller} {domain : String}
    (leads : controller.leads domain = true) : controller.isValid domain = true := by
  unfold isValid
  unfold Controller.leads at leads
  rcases Bool.or_eq_true_iff.mp leads with admin | live
  · simp [admin]
  · simp [live]

end Controller

namespace Deployment

variable {σ : Type}

def wanted? (deployment : Deployment σ) (fetch : String → FetchAnswer) (domain : String) :
    Option Snapshot :=
  match fetch domain with
  | .answered snapshot? => snapshot?.map deployment.prepared
  | .failed _ | .broken => none

def targets (deployment : Deployment σ) (fetch : String → FetchAnswer) (domain : String) :
    List String :=
  if deployment.controller.leads domain then
    ((deployment.wanted? fetch domain).map Snapshot.trustDomains).getD []
  else []

structure SameSetup (first second : Deployment σ) : Prop where
  names : second.controller.names = first.controller.names
  settings : second.controller.settings = first.controller.settings
  namespaces : second.controller.namespaces = first.controller.namespaces

theorem SameSetup.wanted? {first second : Deployment σ} (same : SameSetup first second)
    (fetch : String → FetchAnswer) (domain : String) :
    second.wanted? fetch domain = first.wanted? fetch domain := by
  unfold Deployment.wanted? prepared
  rw [same.settings]

theorem SameSetup.leads {first second : Deployment σ} (same : SameSetup first second)
    (domain : String) : second.controller.leads domain = first.controller.leads domain := by
  unfold Controller.leads Controller.hasNamespace
  rw [same.names, same.namespaces]

theorem SameSetup.targets {first second : Deployment σ} (same : SameSetup first second)
    (fetch : String → FetchAnswer) (domain : String) :
    second.targets fetch domain = first.targets fetch domain := by
  unfold Deployment.targets
  rw [same.leads, same.wanted?]

theorem prepared_name (deployment : Deployment σ) (snapshot : Snapshot) :
    (deployment.prepared snapshot).name = snapshot.name := by
  unfold prepared
  by_cases excluded : deployment.controller.settings.excludeGenerated = true
  · rw [if_pos excluded]
    rfl
  · rw [if_neg excluded]

section Answers

variable [ApiBackend σ] {deployment : Deployment σ} {fetch : String → FetchAnswer} {domain : String}

theorem sync_of_missing (now : Nat)
    (missing : deployment.controller.isValid domain = true → (fetch domain).IsMissing) :
    deployment.sync now domain fetch = deployment.removeReplica domain := by
  unfold sync accept
  by_cases valid : deployment.controller.isValid domain = true
  · rw [if_pos valid]
    rcases missing valid with answered | answered | ⟨message, answered⟩
    · rw [answered]
    · rw [answered]
      rfl
    · rw [answered]
      rfl
  · rw [if_neg valid]

theorem sync_of_answered (now : Nat) (valid : deployment.controller.isValid domain = true)
    {snapshot : Snapshot} (answered : fetch domain = .answered (some snapshot)) :
    deployment.sync now domain fetch =
      deployment.storeSnapshot now domain (deployment.prepared snapshot) := by
  unfold sync accept
  rw [if_pos valid, answered]

theorem sync_of_failed (now : Nat) (valid : deployment.controller.isValid domain = true)
    {error : ServiceError} (answered : fetch domain = .failed error)
    (known : ¬ error.isNotFound = true) :
    deployment.sync now domain fetch = deployment.recordFailure domain error := by
  unfold sync accept
  rw [if_pos valid, answered]
  exact if_neg known

theorem storeSnapshot_of_run (now : Nat) {snapshot : Snapshot} {applied : Applied}
    {index : DomainIndex} {server : σ}
    (run : (Store.createOrUpdate domain snapshot).run
      (deployment.controller.index, deployment.server) = (.ok applied, index, server)) :
    deployment.storeSnapshot now domain snapshot =
      (.ok (.ofApplied applied),
        { controller := cascade now domain snapshot { deployment.controller with index }
          server }) := by
  unfold storeSnapshot perform
  simp only [run]
  rfl

theorem recordFailure_of_run {error : ServiceError} {recorded : Except StoreError Unit}
    {index : DomainIndex} {server : σ}
    (run : (Store.setErrorStatus domain error.message).run
      (deployment.controller.index, deployment.server) = (recorded, index, server)) :
    deployment.recordFailure domain error =
      (.error (.fetch error), { controller := { deployment.controller with index }, server }) := by
  unfold recordFailure perform
  rw [run]

end Answers

end Deployment

namespace Deployment

variable {deployment : Deployment MemoryServer} {fetch : String → FetchAnswer}

theorem removeReplica_run
    (inStep : Store.InStep deployment.controller.index deployment.server) (domain : String) :
    ∃ outcome index server,
      deployment.removeReplica domain =
        (.ok outcome, { controller := { deployment.controller with index }, server }) ∧
      Store.Changed deployment.controller.index index server domain none := by
  obtain ⟨removed, index, server, run, changed⟩ := inStep.remove domain
  unfold removeReplica perform
  rw [run]
  cases removed with
  | true => exact ⟨.deleted, index, server, rfl, changed⟩
  | false => exact ⟨.absent, index, server, rfl, changed⟩

/-- The service is asked for a domain that is to be replicated, and has it. -/
theorem sync_answered (inStep : Store.InStep deployment.controller.index deployment.server)
    (now : Nat) {domain : String} (valid : deployment.controller.isValid domain = true)
    {snapshot : Snapshot} (answered : fetch domain = .answered (some snapshot))
    (named : snapshot.name = domain) :
    ∃ outcome index server replica,
      deployment.sync now domain fetch =
        (.ok outcome,
          { controller := cascade now domain (deployment.prepared snapshot)
              { deployment.controller with index }
            server }) ∧
      Store.Changed deployment.controller.index index server domain (some replica) ∧
      replica.Mirrors (deployment.prepared snapshot) := by
  obtain ⟨applied, index, server, replica, run, changed, mirrors⟩ :=
    inStep.createOrUpdate ((deployment.prepared_name snapshot).trans named)
  refine ⟨.ofApplied applied, index, server, replica, ?_, changed, mirrors⟩
  rw [sync_of_answered now valid answered, storeSnapshot_of_run now run]

/-- The domain is not to be replicated, or the service does not know it. -/
theorem sync_missing (inStep : Store.InStep deployment.controller.index deployment.server)
    (now : Nat) {domain : String}
    (missing : deployment.controller.isValid domain = true → (fetch domain).IsMissing) :
    ∃ outcome index server,
      deployment.sync now domain fetch =
        (.ok outcome, { controller := { deployment.controller with index }, server }) ∧
      Store.Changed deployment.controller.index index server domain none := by
  rw [sync_of_missing now missing]
  exact removeReplica_run inStep domain

theorem sync_served (inStep : Store.InStep deployment.controller.index deployment.server)
    (steady : FetchAnswer.Steady fetch) (now : Nat) {domain : String}
    (valid : deployment.controller.isValid domain = true) {snapshot : Snapshot}
    (found : deployment.wanted? fetch domain = some snapshot) :
    ∃ outcome index server replica,
      deployment.sync now domain fetch =
        (.ok outcome,
          { controller := cascade now domain snapshot { deployment.controller with index }
            server }) ∧
      Store.Changed deployment.controller.index index server domain (some replica) ∧
      replica.Mirrors snapshot := by
  unfold wanted? at found
  rcases steady domain with ⟨served, answered, named⟩ | answered | ⟨error, answered, _⟩
  · rw [answered] at found
    obtain rfl := Option.some.inj found
    exact sync_answered inStep now valid answered named
  · rw [answered] at found
    cases found
  · rw [answered] at found
    cases found

theorem sync_unserved (inStep : Store.InStep deployment.controller.index deployment.server)
    (steady : FetchAnswer.Steady fetch) (now : Nat) {domain : String}
    (unserved : deployment.controller.isValid domain = true →
      deployment.wanted? fetch domain = none) :
    ∃ outcome index server,
      deployment.sync now domain fetch =
        (.ok outcome, { controller := { deployment.controller with index }, server }) ∧
      Store.Changed deployment.controller.index index server domain none := by
  refine sync_missing inStep now fun valid => ?_
  have nothing := unserved valid
  unfold wanted? at nothing
  rcases steady domain with ⟨served, answered, _⟩ | answered | ⟨error, answered, notFound⟩
  · rw [answered] at nothing
    cases nothing
  · exact .inl answered
  · rw [answered]
    exact error.isNotFound_iff.mp notFound

def fresh (deployment : Deployment MemoryServer) (fetch : String → FetchAnswer)
    (domain : String) (index : DomainIndex) : List String :=
  (deployment.targets fetch domain).filter fun target =>
    target ≠ domain && !index.contains target

/-- What a sync does: it brings the replica of its domain in line, and queues the targets
that have no replicas. -/
theorem sync_run (inStep : Store.InStep deployment.controller.index deployment.server)
    (steady : FetchAnswer.Steady fetch) (now : Nat) (domain : String) :
    ∃ outcome index server held,
      deployment.sync now domain fetch =
        (.ok outcome,
          { controller :=
              Controller.enqueueAll now (deployment.fresh fetch domain index)
                { deployment.controller with index }
            server }) ∧
      Store.Changed deployment.controller.index index server domain held ∧
      index.Shows domain
        (if deployment.controller.isValid domain then deployment.wanted? fetch domain
          else none) := by
  by_cases valid : deployment.controller.isValid domain = true
  · rw [if_pos valid]
    cases found : deployment.wanted? fetch domain with
    | some snapshot =>
        obtain ⟨outcome, index, server, replica, synced, changed, mirrors⟩ :=
          sync_served inStep steady now valid found
        refine ⟨outcome, index, server, some replica, ?_, changed, replica, changed.here, mirrors⟩
        rw [synced]
        unfold cascade fresh targets
        by_cases leads : deployment.controller.leads domain = true
        · rw [if_pos leads, found]
          exact congrArg (fun controller => (Except.ok outcome,
            ({ controller, server } : Deployment MemoryServer))) (if_pos leads)
        · rw [if_neg leads]
          exact congrArg (fun controller => (Except.ok outcome,
            ({ controller, server } : Deployment MemoryServer))) (if_neg leads)
    | none =>
        obtain ⟨outcome, index, server, synced, changed⟩ :=
          sync_unserved inStep steady now fun _ => found
        have nothing : deployment.fresh fetch domain index = [] := by
          unfold fresh targets
          rw [found]
          by_cases leads : deployment.controller.leads domain = true
          · rw [if_pos leads]
            rfl
          · rw [if_neg leads]
            rfl
        refine ⟨outcome, index, server, none, ?_, changed, changed.here⟩
        rw [synced, nothing]
        rfl
  · obtain ⟨outcome, index, server, synced, changed⟩ :=
      sync_unserved inStep steady now fun impossible => absurd impossible valid
    have nothing : deployment.fresh fetch domain index = [] := by
      unfold fresh targets
      rw [if_neg fun leads => valid (Controller.isValid_of_leads leads)]
      rfl
    rw [if_neg valid]
    refine ⟨outcome, index, server, none, ?_, changed, changed.here⟩
    rw [synced, nothing]
    rfl

/-! ### Steps -/

def line (deployment : Deployment MemoryServer) : WorkQueue String :=
  deployment.controller.queue.queue

structure AtWork (deployment : Deployment MemoryServer) : Prop where
  inStep : Store.InStep deployment.controller.index deployment.server
  placed : deployment.line.Placed
  isOpen : deployment.line.closed = false
  lined : deployment.line.Lined
  free : deployment.line.processing = []

structure Synced (fetch : String → FetchAnswer) (before after : Deployment MemoryServer)
    (domain : String) : Prop where
  atWork : after.AtWork
  setup : SameSetup before after
  shows : after.controller.index.Shows domain
    (if before.controller.isValid domain then before.wanted? fetch domain else none)
  elsewhere : ∀ other, other ≠ domain →
    after.controller.index.get? other = before.controller.index.get? other
  wasPending : before.line.Pending domain
  pending : ∀ other, other ≠ domain →
    (after.line.Pending other ↔
      before.line.Pending other ∨ other ∈ before.fresh fetch domain after.controller.index)
  load : ∀ weight, after.line.load weight + weight domain ≤
    before.line.load weight +
      WorkQueue.weigh weight (before.fresh fetch domain after.controller.index)

structure Waited (before after : Deployment MemoryServer) (now later : Nat) : Prop where
  atWork : after.AtWork
  setup : SameSetup before after
  index : after.controller.index = before.controller.index
  pending : ∀ domain, after.line.Pending domain ↔ before.line.Pending domain
  load : ∀ weight, after.line.load weight ≤ before.line.load weight
  lag : before.line.delayed ≠ [] → after.line.lag later < before.line.lag now
  noneReady : before.line.delayed = [] → before.line.ready = []

theorem not_mem_fresh_self (deployment : Deployment MemoryServer) (fetch : String → FetchAnswer)
    (domain : String) (index : DomainIndex) : domain ∉ deployment.fresh fetch domain index := by
  intro member
  have kept := (List.mem_filter.mp member).2
  simp at kept

theorem AtWork.synced (atWork : deployment.AtWork) (steady : FetchAnswer.Steady fetch)
    (now : Nat) {domain : String} {queue : SharedQueue String}
    (hands : deployment.line.Hands queue.queue domain) :
    ∃ outcome after,
      (deployment.modify fun controller => { controller with queue }).sync now domain fetch =
        (.ok outcome, after) ∧
      Synced fetch deployment (after.modify (Controller.conclude now domain (.ok outcome)))
        domain := by
  let taken : Deployment MemoryServer :=
    deployment.modify fun controller => { controller with queue }
  obtain ⟨outcome, index, server, held, run, changed, shows⟩ :=
    taken.sync_run atWork.inStep steady now domain
  have setup : SameSetup deployment taken := ⟨rfl, rfl, rfl⟩
  have sameFresh : taken.fresh fetch domain index = deployment.fresh fetch domain index := by
    unfold fresh
    rw [setup.targets]
  have others : ∀ target ∈ deployment.fresh fetch domain index, target ≠ domain := by
    rintro target member rfl
    exact deployment.not_mem_fresh_self fetch target index member
  have free : ∀ target ∈ deployment.fresh fetch domain index,
      target ∉ queue.queue.processing := by
    intro target member
    rw [hands.processing, List.mem_singleton]
    exact others target member
  obtain ⟨later, queued, gains⟩ :=
    Controller.gains_enqueueAll now (deployment.fresh fetch domain index)
      { taken.controller with index } hands.placed hands.isOpen free
  rw [sameFresh, queued] at run
  refine ⟨outcome, _, run, ?_⟩
  have clean : domain ∉ later.queue.dirty := by
    intro marked
    rcases gains.dirty domain marked with before | added
    · exact hands.clean before
    · exact others domain added rfl
  have processing : later.queue.processing = [domain] :=
    gains.grows.processing.trans hands.processing
  have held : domain ∈ later.queue.processing := by
    rw [processing]
    exact List.mem_singleton_self domain
  have released : (later.queue.complete domain).2 =
      { later.queue with processing := later.queue.processing.filter (· ≠ domain) } :=
    WorkQueue.complete_of_clean clean
  refine ⟨⟨changed.inStep, ?_, ?_, ?_, ?_⟩, ⟨rfl, rfl, rfl⟩, shows, changed.elsewhere,
    (hands.pending domain).mpr (.inl rfl), ?_, ?_⟩
  · exact gains.grows.placed.complete domain held
  · change (later.queue.complete domain).2.closed = false
    rw [released]
    exact gains.grows.isOpen
  · change (later.queue.complete domain).2.Lined
    rw [released]
    exact gains.lined hands.lined
  · change (later.queue.complete domain).2.processing = []
    rw [released]
    change later.queue.processing.filter (· ≠ domain) = []
    rw [processing]
    simp
  · intro other different
    change (later.queue.complete domain).2.Pending other ↔ _
    rw [released]
    change later.queue.Pending other ↔ _
    rw [gains.grows.pending, hands.pending, or_iff_right different]
    exact Iff.rfl
  · intro weight
    have grown : later.queue.load weight ≤ queue.queue.load weight +
        WorkQueue.weigh weight (deployment.fresh fetch domain index) := gains.grows.load weight
    have lighter := hands.load weight
    change (later.queue.complete domain).2.load weight + weight domain ≤
      deployment.line.load weight + WorkQueue.weigh weight (deployment.fresh fetch domain index)
    rw [released]
    change later.queue.load weight + weight domain ≤ _
    omega

end Deployment

end PolicyReplica
