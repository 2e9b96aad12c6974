import PolicyReplica.Queue.Signal

/-
Tasks on a clock that moves only when all of them wait.

Tasks take turns: the one that became runnable first runs until it waits or ends.
When nothing is runnable the clock goes straight to the next deadline, and the
tasks whose deadlines have come run in the order of their deadlines, and of the
start of the wait among equal ones.

Beside the tasks there is one caller, which may wait for the tasks and for the
clock, too. It goes first whenever it is woken, and is known as task zero.
-/

namespace PolicyReplica

inductive Turn (τ : Type) where
  /-- The task has more to do at once. -/
  | goesOn (task : τ)
  /-- The task waits to be woken, at most until the deadline. -/
  | waits (task : τ) (deadline : Option Nat)
  | ended

structure Conduct (σ τ : Type) where
  /-- A turn of a task at a time. -/
  turn : Nat → TaskId → τ → σ → Turn τ × σ
  /-- The tasks that were woken, and the state without note of them. -/
  takeWoken : σ → List TaskId × σ

structure Timer where
  deadline : Nat
  task : TaskId
  deriving DecidableEq, Repr

structure Schedule (σ τ : Type) where
  now : Nat
  state : σ
  tasks : List (TaskId × τ)
  /-- The tasks that can run, the next one first. -/
  runnable : List TaskId
  /-- The deadlines of waiting tasks, the next one first. -/
  timers : List Timer
  /-- The number of the next task to be started. -/
  nextTask : TaskId
  /-- Whether the caller was woken. -/
  callerWoken : Bool

inductive Call (φ ρ : Type) where
  | waits (stage : φ) (deadline : Option Nat)
  | returned (result : ρ)

/-- What a caller does when it goes on at a time, and when it gives up. -/
structure Errand (σ φ ρ : Type) where
  proceed : Nat → φ → σ → Call φ ρ × σ
  giveUp : φ → σ → σ

def caller : TaskId := 0

namespace Schedule

variable {σ τ φ ρ : Type}

def ofState (state : σ) : Schedule σ τ :=
  { now := 0
    state
    tasks := []
    runnable := []
    timers := []
    nextTask := 1
    callerWoken := false }

/-- Puts a timer behind those that are not due later. -/
def insertTimer (timer : Timer) : List Timer → List Timer
  | [] => [timer]
  | first :: rest =>
      if first.deadline ≤ timer.deadline then first :: insertTimer timer rest
      else timer :: first :: rest

def start (schedule : Schedule σ τ) (task : τ) : Schedule σ τ :=
  { schedule with
    tasks := schedule.tasks ++ [(schedule.nextTask, task)]
    runnable := schedule.runnable ++ [schedule.nextTask]
    nextTask := schedule.nextTask + 1 }

def collect (conduct : Conduct σ τ) (schedule : Schedule σ τ) : Schedule σ τ :=
  let (woken, state) := conduct.takeWoken schedule.state
  { schedule with
    state
    callerWoken := schedule.callerWoken || woken.contains caller
    runnable := schedule.runnable ++ woken.filter fun task =>
      task ≠ caller && !schedule.runnable.contains task }

def park (schedule : Schedule σ τ) (id : TaskId) (task : τ) (deadline : Option Nat) :
    Schedule σ τ :=
  let timers := schedule.timers.filter (·.task ≠ id)
  { schedule with
    tasks := schedule.tasks.map fun entry => if entry.1 = id then (id, task) else entry
    timers := match deadline with
      | none => timers
      | some deadline => insertTimer { deadline, task := id } timers }

def dismiss (schedule : Schedule σ τ) (id : TaskId) : Schedule σ τ :=
  { schedule with
    tasks := schedule.tasks.filter (·.1 ≠ id)
    timers := schedule.timers.filter (·.task ≠ id)
    runnable := schedule.runnable.filter (· ≠ id) }

def runTurn (conduct : Conduct σ τ) (schedule : Schedule σ τ) (id : TaskId) : Schedule σ τ :=
  match schedule.tasks.find? (·.1 = id) with
  | none => schedule
  | some (_, task) =>
      let (turn, state) := conduct.turn schedule.now id task schedule.state
      let ran := { schedule with state }
      match turn with
      | .goesOn next =>
          let parked := ran.park id next none
          { parked with runnable := id :: parked.runnable }
      | .waits next deadline => ran.park id next deadline
      | .ended => ran.dismiss id

/-- Runs tasks until all of them wait, for at most so many turns. -/
def settle (conduct : Conduct σ τ) : Nat → Schedule σ τ → Schedule σ τ
  | 0, schedule => schedule
  | turns + 1, schedule =>
      let collected := schedule.collect conduct
      match collected.runnable with
      | [] => collected
      | id :: rest => settle conduct turns ({ collected with runnable := rest }.runTurn conduct id)

def moveTo (schedule : Schedule σ τ) (time : Nat) : Schedule σ τ :=
  { schedule with
    now := time
    timers := schedule.timers.filter (time < ·.deadline)
    runnable :=
      schedule.runnable ++ (schedule.timers.filter (·.deadline ≤ time)).map Timer.task }

def earliest (times : List (Option Nat)) : Option Nat :=
  (times.filterMap id).min?

/-- The bound on turns and on waits, above what any run needs. -/
def turnLimit : Nat := 1000000000

mutual
def proceed (conduct : Conduct σ τ) (errand : Errand σ φ ρ) (limit : Option Nat) :
    Nat → φ → Schedule σ τ → Option ρ × Schedule σ τ
  | 0, stage, schedule =>
      (none, { schedule with state := errand.giveUp stage schedule.state })
  | waits + 1, stage, schedule =>
      let (call, state) := errand.proceed schedule.now stage schedule.state
      let proceeded := { schedule with state, callerWoken := false }
      match call with
      | .returned result => (some result, proceeded)
      | .waits stage deadline =>
          if limit.any (· ≤ schedule.now) then
            (none, { proceeded with state := errand.giveUp stage state })
          else wait conduct errand limit waits stage deadline proceeded

def wait (conduct : Conduct σ τ) (errand : Errand σ φ ρ) (limit : Option Nat) :
    Nat → φ → Option Nat → Schedule σ τ → Option ρ × Schedule σ τ
  | 0, stage, _, schedule =>
      (none, { schedule with state := errand.giveUp stage schedule.state })
  | waits + 1, stage, deadline, schedule =>
      let settled := schedule.settle conduct turnLimit
      if settled.callerWoken then proceed conduct errand limit waits stage settled
      else
        match earliest [settled.timers.head?.map Timer.deadline, deadline, limit] with
        | none => (none, { settled with state := errand.giveUp stage settled.state })
        | some time =>
            let moved := settled.moveTo time
            if (earliest [deadline, limit]).any (· ≤ time) then
              proceed conduct errand limit waits stage moved
            else wait conduct errand limit waits stage deadline moved
end

def call (conduct : Conduct σ τ) (errand : Errand σ φ ρ) (limit : Option Nat) (stage : φ)
    (schedule : Schedule σ τ) : Option ρ × Schedule σ τ :=
  proceed conduct errand (limit.map (schedule.now + ·)) turnLimit stage schedule

def sleep (conduct : Conduct σ τ) (span : Nat) (schedule : Schedule σ τ) : Schedule σ τ :=
  let errand : Errand σ Unit Unit :=
    { proceed := fun _ stage state => (.waits stage none, state), giveUp := fun _ state => state }
  (schedule.call conduct errand (some span) ()).2

def modify (change : σ → σ) (schedule : Schedule σ τ) : Schedule σ τ :=
  { schedule with state := change schedule.state }

end Schedule

end PolicyReplica
