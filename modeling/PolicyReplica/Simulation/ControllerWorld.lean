import PolicyReplica.Api.MemoryServer
import PolicyReplica.Controller.Polling
import PolicyReplica.Controller.Sync
import PolicyReplica.Controller.Watches
import PolicyReplica.Simulation.Schedule
import PolicyReplica.Simulation.StagedService

/-
A controller at work between a staged policy service and an API server in memory.

Its workers, its watches and its poller are tasks on a clock that moves only when
all of them wait. Only requests for domains take time, if the service is slow;
everything else happens at once.
-/

namespace PolicyReplica

structure Feed (α : Type) where
  watch : Watch α
  events : List (WatcherEvent α)
  /-- When the watch goes on reading. -/
  resumes : Nat
  reader : Option TaskId
  closed : Bool

namespace Feed

variable {α : Type}

def initial : Feed α :=
  { watch := .initial, events := [], resumes := 0, reader := none, closed := false }

def isRead (feed : Feed α) : Bool :=
  feed.reader.isSome && !feed.closed

def push (event : WatcherEvent α) (feed : Feed α) : Feed α :=
  { feed with events := feed.events ++ [event] }

def close (feed : Feed α) : Feed α :=
  { feed with closed := true }

def leave (feed : Feed α) : Feed α :=
  { feed with reader := none }

def waitingReader (now : Nat) (feed : Feed α) : List TaskId :=
  if feed.resumes ≤ now then feed.reader.toList else []

end Feed

structure ControllerWorld where
  deployment : Deployment MemoryServer
  service : StagedService
  record : StagedRecord
  /-- The pollers in the order in which they were created. -/
  pollers : List Poller
  /-- The feeds of the namespace watches in the order of their starts; only the last
  one is fed. -/
  namespaceFeeds : List (Feed Namespace)
  /-- The feeds of the replica watches, likewise. -/
  replicaFeeds : List (Feed Replica)
  /-- How many workers are at work. -/
  workers : Nat
  /-- The tasks woken by other things than the queue. -/
  called : List TaskId

inductive SyncStage where
  /-- Taking the next domain from the queue. -/
  | taking
  /-- Waiting until the service answers. -/
  | fetching (domain : String) (time : Nat)

inductive PollStage where
  | resting (time : Nat)
  | retrying (backoff : Backoff) (time : Nat)

inductive Job where
  | work (stage : SyncStage)
  /-- Watching namespaces through the feed of that number. -/
  | watchNamespaces (feed : Nat)
  /-- Watching replicas through the feed of that number. -/
  | watchReplicas (feed : Nat)
  /-- Polling with the poller of that number. -/
  | pollChanges (poller : Nat) (stage : PollStage)
  /-- Queueing everything at a time, and again after the interval. -/
  | resync (interval time : Nat)

/-- Holds of the tasks that end as soon as a shutdown is asked for. -/
def Job.isPolling : Job → Bool
  | .pollChanges _ _ | .resync _ _ => true
  | _ => false

structure Polling where
  queued : Nat
  world : ControllerWorld

inductive PollProgress where
  | retrying (backoff : Backoff) (time : Nat)
  | ended (succeeded : Bool)

inductive SyncProgress where
  | fetching (time : Nat)
  | ended (result : SyncResult)

namespace ControllerWorld

def ofSettings (names : NameMapping) (settings : SyncSettings) : ControllerWorld :=
  { deployment := { controller := .ofSettings names settings, server := .empty }
    service := .empty
    record := .empty
    pollers := []
    namespaceFeeds := []
    replicaFeeds := []
    workers := 0
    called := [] }

def controller (world : ControllerWorld) : Controller :=
  world.deployment.controller

def modify (change : Controller → Controller) (world : ControllerWorld) : ControllerWorld :=
  { world with deployment := world.deployment.modify change }

/-! ### Syncs -/

def endSync (now : Nat) (domain : String) (world : ControllerWorld) :
    SyncResult × ControllerWorld :=
  let (result, deployment) := world.deployment.accept now domain (world.service.answer domain)
  (result, { world with deployment })

def startSync (now : Nat) (domain : String) (world : ControllerWorld) :
    SyncProgress × ControllerWorld :=
  if world.controller.isValid domain then
    let asked := { world with service := world.service.note now (.fetch domain) }
    if asked.service.latency = 0 then
      let (result, after) := asked.endSync now domain
      (.ended result, after)
    else (.fetching (now + asked.service.latency), asked)
  else
    let (result, deployment) := world.deployment.removeReplica domain
    (.ended result, { world with deployment })

def take (now : Nat) (task : TaskId) (world : ControllerWorld) :
    Handout String × ControllerWorld :=
  let (handout, queue) := world.controller.queue.take now task
  (handout, world.modify fun controller => { controller with queue })

/-- Processes the next domain: whether there was one, or what is waited for. -/
def process (now : Nat) (task : TaskId) (stage : SyncStage) (world : ControllerWorld) :
    Call SyncStage Bool × ControllerWorld :=
  match stage with
  | .taking =>
      let (handout, taken) := world.take now task
      match handout with
      | .closed => (.returned false, taken)
      | .wait due => (.waits .taking due, taken)
      | .item domain =>
          let (progress, started) := taken.startSync now domain
          match progress with
          | .fetching time => (.waits (.fetching domain time) (some time), started)
          | .ended result =>
              (.returned true, started.modify (Controller.conclude now domain result))
  | .fetching domain time =>
      if time ≤ now then
        let (result, ended) := world.endSync now domain
        (.returned true, ended.modify (Controller.conclude now domain result))
      else (.waits stage (some time), world)

/-! ### Polls -/

def createPoller (updateInterval resyncInterval : Span) (world : ControllerWorld) :
    ControllerWorld :=
  { world with
    pollers := world.pollers ++ [.ofController world.controller updateInterval resyncInterval] }

def visit (now : Nat) (domain : String) (polling : Polling) : Polling :=
  if polling.world.controller.isValid domain then
    { queued := polling.queued + 1
      world := polling.world.modify fun controller => controller.enqueue now domain }
  else polling

def advance (number : Nat) (cursor : String) (polling : Polling) : Polling :=
  let pollers := polling.world.pollers.modify number fun poller => { poller with cursor }
  { polling with world := { polling.world with pollers } }

def recordCursor (cursor : String) (polling : Polling) : Polling :=
  let record := polling.world.record.record cursor
  { polling with world := { polling.world with record } }

def makeMove (now number : Nat) (polling : Polling) : PollMove → Polling
  | .visit domain => visit now domain polling
  | .advance cursor => advance number cursor polling
  | .record cursor => recordCursor cursor polling

def pollChanges (now number : Nat) (poller : Poller) (world : ControllerWorld) :
    Except ServiceError Nat × ControllerWorld :=
  let (answer, service) := world.service.list now poller.cursor
  let listed := { world with service }
  match answer with
  | .error error => (.error error, listed)
  | .ok changes =>
      let polled := changes.moves.foldl (makeMove now number) { queued := 0, world := listed }
      (.ok polled.queued, polled.world)

def countPoll (result : PollResult) (world : ControllerWorld) : ControllerWorld :=
  world.modify fun controller =>
    { controller with metrics := controller.metrics.countPoll .changes result }

def attemptPoll (now number : Nat) (backoff : Backoff) (poller : Poller)
    (world : ControllerWorld) : PollProgress × ControllerWorld :=
  let (answer, polled) := world.pollChanges now number poller
  match answer with
  | .ok _ => (.ended true, polled.countPoll .ok)
  | .error _ =>
      match backoff.next? poller.updateInterval with
      | none => (.ended false, polled.countPoll .failed)
      | some (pause, backoff) => (.retrying backoff (now + pause), polled.countPoll .retried)

/-! ### Turns -/

def readFeed {α : Type} [Watched α] (now : Nat) (feed : Feed α) :
    Option (List (WatchReport α) × Feed α) :=
  match feed.events with
  | [] => none
  | event :: rest =>
      let (reports, watch) := feed.watch.receive event
      some (reports, { feed with watch, events := rest, resumes := now + Watch.pause event })

def turnPoll (now number : Nat) (stage : PollStage) (world : ControllerWorld) :
    Turn Job × ControllerWorld :=
  match world.pollers[number]? with
  | none => (.ended, world)
  | some poller =>
      let (due, backoff) := match stage with
        | .resting time => (time, Backoff.initial)
        | .retrying backoff time => (time, backoff)
      if due ≤ now then
        let (progress, polled) := world.attemptPoll now number backoff poller
        match progress with
        | .retrying backoff time =>
            (.waits (.pollChanges number (.retrying backoff time)) (some time), polled)
        | .ended _ =>
            let rested := now + poller.updateInterval.milliseconds
            (.waits (.pollChanges number (.resting rested)) (some rested), polled)
      else (.waits (.pollChanges number stage) (some due), world)

def turnResync (now interval time : Nat) (world : ControllerWorld) : Turn Job × ControllerWorld :=
  if time ≤ now then
    let next := now + interval
    (.waits (.resync interval next) (some next), world.modify (Controller.resync now))
  else (.waits (.resync interval time) (some time), world)

def turnNamespaces (now number : Nat) (world : ControllerWorld) : Turn Job × ControllerWorld :=
  let job := Job.watchNamespaces number
  let put (feed : Feed Namespace) : ControllerWorld :=
    { world with namespaceFeeds := world.namespaceFeeds.set number feed }
  match world.namespaceFeeds[number]? with
  | none => (.ended, world)
  | some feed =>
      if now < feed.resumes then (.waits job (some feed.resumes), world)
      else match readFeed now feed with
        | some (reports, feed) =>
            (.goesOn job,
              (put feed).modify fun controller =>
                reports.foldl (Controller.acceptNamespace now) controller)
        | none => if feed.closed then (.ended, put feed.leave) else (.waits job none, world)

def turnReplicas (now number : Nat) (world : ControllerWorld) : Turn Job × ControllerWorld :=
  let job := Job.watchReplicas number
  let put (feed : Feed Replica) : ControllerWorld :=
    { world with replicaFeeds := world.replicaFeeds.set number feed }
  match world.replicaFeeds[number]? with
  | none => (.ended, world)
  | some feed =>
      if now < feed.resumes then (.waits job (some feed.resumes), world)
      else match readFeed now feed with
        | some (reports, feed) =>
            (.goesOn job,
              (put feed).modify fun controller =>
                reports.foldl (Controller.acceptReplica now) controller)
        | none => if feed.closed then (.ended, put feed.leave) else (.waits job none, world)

def turn (now : Nat) (id : TaskId) (job : Job) (world : ControllerWorld) :
    Turn Job × ControllerWorld :=
  match job with
  | .work stage =>
      let (call, after) := world.process now id stage
      match call with
      | .waits stage deadline => (.waits (.work stage) deadline, after)
      | .returned true => (.goesOn (.work .taking), after)
      | .returned false =>
          (.ended, { after with workers := after.workers - 1, called := after.called ++ [caller] })
  | .pollChanges number stage => world.turnPoll now number stage
  | .resync interval time => world.turnResync now interval time
  | .watchNamespaces feed => world.turnNamespaces now feed
  | .watchReplicas feed => world.turnReplicas now feed

def takeWoken (world : ControllerWorld) : List TaskId × ControllerWorld :=
  let (woken, queue) := world.controller.queue.takeWoken
  (woken ++ world.called,
    { world.modify fun controller => { controller with queue } with called := [] })

def conduct : Conduct ControllerWorld Job :=
  { turn, takeWoken }

/-! ### Errands of the caller -/

def leaveQueue (world : ControllerWorld) : ControllerWorld :=
  world.modify fun controller => { controller with queue := controller.queue.leave caller }

def processing : Errand ControllerWorld SyncStage Bool :=
  { proceed := fun now stage world => world.process now caller stage
    giveUp := fun _ => leaveQueue }

def skipping : Errand ControllerWorld Unit (Option String) :=
  { proceed := fun now _ world =>
      let (handout, taken) := world.take now caller
      match handout with
      | .closed => (.returned none, taken)
      | .wait due => (.waits () due, taken)
      | .item domain =>
          (.returned (some domain),
            taken.modify fun controller =>
              { controller with queue := controller.queue.complete domain })
    giveUp := fun _ => leaveQueue }

/-- Syncing a domain; the stage is when the service answers. -/
def syncing (domain : String) : Errand ControllerWorld (Option Nat) SyncResult :=
  { proceed := fun now stage world =>
      match stage with
      | none =>
          let (progress, started) := world.startSync now domain
          match progress with
          | .ended result => (.returned result, started)
          | .fetching time => (.waits (some time) (some time), started)
      | some time =>
          if time ≤ now then
            let (result, ended) := world.endSync now domain
            (.returned result, ended)
          else (.waits stage (some time), world)
    giveUp := fun _ world => world }

def draining : Errand ControllerWorld Unit Unit :=
  { proceed := fun _ _ world =>
      (if world.workers = 0 then .returned () else .waits () none, world)
    giveUp := fun _ world => world }

end ControllerWorld

end PolicyReplica
