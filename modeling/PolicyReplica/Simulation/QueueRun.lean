import PolicyReplica.Queue.Shared
import PolicyReplica.Simulation.Schedule

/-
A shared queue with workers that hold each key for a while.
-/

namespace PolicyReplica

inductive WorkerEventKind where
  | got
  | done
  | exit
  deriving DecidableEq, Repr

namespace WorkerEventKind

def label : WorkerEventKind → String
  | .got => "got"
  | .done => "done"
  | .exit => "exit"

end WorkerEventKind

structure WorkerEvent where
  time : Nat
  kind : WorkerEventKind
  key : String
  deriving DecidableEq, Repr

/-- Events by time, then by the label of their kind, then by key. -/
def WorkerEvent.precedes (left right : WorkerEvent) : Bool :=
  left.time < right.time ||
    left.time = right.time &&
      (left.kind.label < right.kind.label ||
        left.kind.label = right.kind.label && left.key ≤ right.key)

inductive WorkerStage where
  | taking
  /-- Holding a key until a time. -/
  | holding (key : String) (free : Nat)

structure Worker where
  /-- How long the worker holds a key. -/
  hold : Nat
  stage : WorkerStage

structure WorkedQueue where
  shared : SharedQueue String
  events : List WorkerEvent

namespace WorkedQueue

def note (worked : WorkedQueue) (time : Nat) (kind : WorkerEventKind) (key : String) :
    WorkedQueue :=
  { worked with events := worked.events ++ [{ time, kind, key }] }

def finish (worked : WorkedQueue) (now : Nat) (key : String) : WorkedQueue :=
  let noted := worked.note now .done key
  { noted with shared := noted.shared.complete key }

def turn (now : Nat) (id : TaskId) (worker : Worker) (worked : WorkedQueue) :
    Turn Worker × WorkedQueue :=
  match worker.stage with
  | .taking =>
      let (handout, shared) := worked.shared.take now id
      let taken := { worked with shared }
      match handout with
      | .closed => (.ended, taken.note now .exit "")
      | .wait due => (.waits worker due, taken)
      | .item key =>
          let noted := taken.note now .got key
          if worker.hold = 0 then (.goesOn worker, noted.finish now key)
          else
            let free := now + worker.hold
            (.waits { worker with stage := .holding key free } (some free), noted)
  | .holding key free =>
      if free ≤ now then (.goesOn { worker with stage := .taking }, worked.finish now key)
      else (.waits worker (some free), worked)

def takeWoken (worked : WorkedQueue) : List TaskId × WorkedQueue :=
  let (woken, shared) := worked.shared.takeWoken
  (woken, { worked with shared })

def conduct : Conduct WorkedQueue Worker :=
  { turn, takeWoken }

def taking : Errand WorkedQueue Unit (Option String) :=
  { proceed := fun now _ worked =>
      let (handout, shared) := worked.shared.take now caller
      let call := match handout with
        | .item key => .returned (some key)
        | .closed => .returned none
        | .wait due => .waits () due
      (call, { worked with shared })
    giveUp := fun _ worked => { worked with shared := worked.shared.leave caller } }

end WorkedQueue

structure QueueRun where
  schedule : Schedule WorkedQueue Worker
  /-- How many workers were ever started. -/
  started : Nat

namespace QueueRun

def ofInterval (interval : Nat) : QueueRun :=
  { schedule := .ofState { shared := .ofInterval interval, events := [] }, started := 0 }

def shared (run : QueueRun) : SharedQueue String :=
  run.schedule.state.shared

def now (run : QueueRun) : Nat :=
  run.schedule.now

def apply (run : QueueRun) (operation : SharedQueue String → SharedQueue String) : QueueRun :=
  { run with
    schedule := run.schedule.modify fun worked =>
      { worked with shared := operation worked.shared } }

/-- Takes a key within a time: nothing if the time runs out, and the key unless
the queue is closed. -/
def takeWithin (run : QueueRun) (span : Nat) : Option (Option String) × QueueRun :=
  let (result, schedule) := run.schedule.call WorkedQueue.conduct WorkedQueue.taking (some span) ()
  (result, { run with schedule })

def sleep (run : QueueRun) (span : Nat) : QueueRun :=
  { run with schedule := run.schedule.sleep WorkedQueue.conduct span }

def startWorkers (run : QueueRun) (count hold : Nat) : QueueRun :=
  { schedule :=
      (List.replicate count { hold, stage := WorkerStage.taking }).foldl Schedule.start run.schedule
    started := run.started + count }

def settle (run : QueueRun) : QueueRun :=
  { run with schedule := run.schedule.settle WorkedQueue.conduct Schedule.turnLimit }

/-- The events since they were last taken; with several workers they are sorted,
because which of them runs first is left open. -/
def takeEvents (run : QueueRun) : List WorkerEvent × QueueRun :=
  let events := run.schedule.state.events
  (if run.started > 1 then events.mergeSort WorkerEvent.precedes else events,
    { run with schedule := run.schedule.modify fun worked => { worked with events := [] } })

end QueueRun

end PolicyReplica
