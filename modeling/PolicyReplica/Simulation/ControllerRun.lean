import PolicyReplica.Simulation.ControllerWorld

/-
Runs of a controller, step by step.

A step changes what is around the controller, asks the controller for something,
or waits. Background tasks run while a step waits, and when they are settled
after it.
-/

namespace PolicyReplica

structure ControllerRun where
  schedule : Schedule ControllerWorld Job
  /-- Whether workers were ever started. -/
  hasCrew : Bool
  /-- Whether a shutdown was asked for. -/
  isDraining : Bool

namespace ControllerRun

def ofSettings (names : NameMapping) (settings : SyncSettings) : ControllerRun :=
  { schedule := .ofState (.ofSettings names settings), hasCrew := false, isDraining := false }

def now (run : ControllerRun) : Nat :=
  run.schedule.now

def world (run : ControllerRun) : ControllerWorld :=
  run.schedule.state

def controller (run : ControllerRun) : Controller :=
  run.world.controller

def server (run : ControllerRun) : MemoryServer :=
  run.world.deployment.server

def change (run : ControllerRun) (change : ControllerWorld → ControllerWorld) : ControllerRun :=
  { run with schedule := run.schedule.modify change }

def modify (run : ControllerRun) (change : Controller → Controller) : ControllerRun :=
  run.change (·.modify change)

def stage (run : ControllerRun) (change : StagedService → StagedService) : ControllerRun :=
  run.change fun world => { world with service := change world.service }

def settle (run : ControllerRun) : ControllerRun :=
  { run with schedule := run.schedule.settle ControllerWorld.conduct Schedule.turnLimit }

def sleep (run : ControllerRun) (span : Nat) : ControllerRun :=
  { run with schedule := run.schedule.sleep ControllerWorld.conduct span }

def call {φ ρ : Type} (run : ControllerRun) (errand : Errand ControllerWorld φ ρ)
    (limit : Option Nat) (stage : φ) : Option ρ × ControllerRun :=
  let (result, schedule) := run.schedule.call ControllerWorld.conduct errand limit stage
  (result, { run with schedule })

def processWithin (run : ControllerRun) (span : Nat) : Option Bool × ControllerRun :=
  run.call ControllerWorld.processing (some span) .taking

def skipWithin (run : ControllerRun) (span : Nat) : Option (Option String) × ControllerRun :=
  run.call ControllerWorld.skipping (some span) ()

/-- Syncs a domain, however long it takes. -/
def sync (run : ControllerRun) (domain : String) : Option SyncResult × ControllerRun :=
  run.call (ControllerWorld.syncing domain) none none

def start (run : ControllerRun) (job : Job) : ControllerRun :=
  { run with schedule := run.schedule.start job }

/-- Starts workers, at least one. -/
def startWorkers (run : ControllerRun) (count : Nat) : ControllerRun :=
  let workers := max 1 count
  let counted := run.change fun world => { world with workers := world.workers + workers }
  let started := (List.replicate workers (Job.work .taking)).foldl start counted
  let crewed := { started with hasCrew := true }
  if run.isDraining then
    crewed.modify fun controller => { controller with queue := controller.queue.close }
  else crewed

/-- The last poller that was created, with its number. -/
def poller? (run : ControllerRun) : Option (Nat × Poller) :=
  run.world.pollers.getLast?.map fun poller => (run.world.pollers.length - 1, poller)

def startPolling (run : ControllerRun) (job : Nat → Poller → Job) : ControllerRun :=
  match run.poller? with
  | none => run
  | some (number, poller) => if run.isDraining then run else run.start (job number poller)

def startUpdates (run : ControllerRun) : ControllerRun :=
  run.startPolling fun number poller =>
    .pollChanges number (.resting (run.now + poller.updateInterval.milliseconds))

def startResyncs (run : ControllerRun) : ControllerRun :=
  run.startPolling fun _ poller =>
    let interval := poller.resyncInterval.milliseconds
    .resync interval (run.now + interval)

/-- How long a shutdown may take, in milliseconds. -/
def drainLimit : Nat := 3600000

structure Shutdown where
  /-- Whether the workers ended before the limit. -/
  inTime : Bool
  /-- Whether they had ended once everything due at its end was done. -/
  isComplete : Bool
  deriving DecidableEq, Repr

/-- Shuts down: polling ends, the queue is closed if there are workers, and these
end when it is empty. -/
def drain (run : ControllerRun) : Shutdown × ControllerRun :=
  let polling := run.schedule.tasks.filter fun entry => entry.2.isPolling
  let stopped := polling.foldl (fun schedule entry => schedule.dismiss entry.1) run.schedule
  let asked := { run with schedule := stopped, isDraining := true }
  let closed :=
    if asked.hasCrew then
      asked.modify fun controller => { controller with queue := controller.queue.close }
    else asked
  let (ended, drained) := closed.call ControllerWorld.draining (some drainLimit) ()
  let settled := drained.settle
  ({ inTime := ended.isSome, isComplete := settled.world.workers = 0 }, settled)

/-! ### Watches -/

/-- Ends the feed of every namespace watch; a watch ends when it has read it. -/
def closeNamespaceFeeds (run : ControllerRun) : ControllerRun :=
  run.change fun world =>
    { world with
      namespaceFeeds := world.namespaceFeeds.map Feed.close
      called := world.called ++ world.namespaceFeeds.flatMap (Feed.waitingReader run.now) }

def closeReplicaFeeds (run : ControllerRun) : ControllerRun :=
  run.change fun world =>
    { world with
      replicaFeeds := world.replicaFeeds.map Feed.close
      called := world.called ++ world.replicaFeeds.flatMap (Feed.waitingReader run.now) }

def closeWatches (run : ControllerRun) : ControllerRun :=
  run.closeNamespaceFeeds.closeReplicaFeeds

/-- Starts a namespace watch with a feed of its own; an earlier one is not fed any
more. -/
def watchNamespaces (run : ControllerRun) : ControllerRun :=
  let feed := { Feed.initial with reader := some run.schedule.nextTask }
  (run.closeNamespaceFeeds.change fun world =>
    { world with namespaceFeeds := world.namespaceFeeds ++ [feed] }).start
      (.watchNamespaces run.world.namespaceFeeds.length)

def watchReplicas (run : ControllerRun) : ControllerRun :=
  let feed := { Feed.initial with reader := some run.schedule.nextTask }
  (run.closeReplicaFeeds.change fun world =>
    { world with replicaFeeds := world.replicaFeeds ++ [feed] }).start
      (.watchReplicas run.world.replicaFeeds.length)

/-- Feeds an event to the last namespace watch; tells whether it still listens. -/
def feedNamespace (run : ControllerRun) (event : WatcherEvent Namespace) : Bool × ControllerRun :=
  match run.world.namespaceFeeds.getLast?.filter Feed.isRead with
  | none => (false, run)
  | some feed =>
      (true, run.change fun world =>
        { world with
          namespaceFeeds := world.namespaceFeeds.dropLast ++ [feed.push event]
          called := world.called ++ feed.waitingReader run.now })

def feedReplica (run : ControllerRun) (event : WatcherEvent Replica) : Bool × ControllerRun :=
  match run.world.replicaFeeds.getLast?.filter Feed.isRead with
  | none => (false, run)
  | some feed =>
      (true, run.change fun world =>
        { world with
          replicaFeeds := world.replicaFeeds.dropLast ++ [feed.push event]
          called := world.called ++ feed.waitingReader run.now })

/-! ### The poller -/

def createPoller (run : ControllerRun) (updateInterval resyncInterval : Nat) : ControllerRun :=
  run.change
    (·.createPoller (.ofMilliseconds updateInterval) (.ofMilliseconds resyncInterval))

def pollChanges (run : ControllerRun) : Option (Except ServiceError Nat) × ControllerRun :=
  match run.poller? with
  | none => (none, run)
  | some (number, poller) =>
      let (answer, world) := run.world.pollChanges run.now number poller
      (some answer, run.change fun _ => world)

def resync (run : ControllerRun) : Nat × ControllerRun :=
  (run.controller.resyncDomains.length, run.modify (Controller.resync run.now))

/-! ### What was noted -/

/-- What was asked of the API server and of the service, and the cursors that
were recorded, since they were last taken. -/
structure Notes where
  api : List ApiRequest
  service : List (Nat × ServiceRequest)
  cursors : List String

def takeNotes (run : ControllerRun) : Notes × ControllerRun :=
  let world := run.world
  let (api, server) := world.deployment.server.takeRequests
  ({ api, service := world.service.requests, cursors := world.record.recorded },
    run.change fun world =>
      { world with
        deployment := { world.deployment with server }
        service := { world.service with requests := [] }
        record := { world.record with recorded := [] } })

end ControllerRun

end PolicyReplica
