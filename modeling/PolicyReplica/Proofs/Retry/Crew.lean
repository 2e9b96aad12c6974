import PolicyReplica.Controller.Sync

/-
Tasks that share a controller, in any order of their smallest steps.

A task enqueues a domain, or it takes one from the queue, syncs it and gives it back. The
limiter and the queue are asked one after the other, and so are all the parts of what
follows a sync; between any two of them other tasks may go on. How a sync ends is left
open, and so is whatever others do to the rest of the controller. Main statement: what the
controller does in one piece is what a task does that nobody interrupts.
-/

namespace PolicyReplica

inductive Stage where
  | syncing
  /-- The snapshot is stored, and these targets are left to be looked at. -/
  | cascading (outcome : Outcome) (targets : List String)
  /-- The limiter admitted a target, of which the queue has not been told yet. -/
  | extending (outcome : Outcome) (target : String) (delay : Nat) (targets : List String)
  | judging (result : SyncResult)
  | retrying
  /-- The limiter admitted the domain again, of which the queue has not been told yet. -/
  | readmitting (delay : Nat)
  | dropping
  | returning

inductive Activity where
  | idle
  /-- The limiter admitted a domain, of which the queue has not been told yet. -/
  | calling (domain : String) (delay : Nat)
  | holding (domain : String) (stage : Stage)

inductive Mark where
  /-- Its enqueueing was begun, but not as a retry. -/
  | called
  /-- The queue was told of it, but not as a retry. -/
  | queued
  | handed
  | succeeded
  /-- A failed sync is to be retried. -/
  | requeued
  /-- A failed sync is not retried any more. -/
  | dropped
  /-- Its count was cleared while the queue knew that it needs work. -/
  | lapsed
  deriving DecidableEq, Repr

structure Note where
  domain : String
  mark : Mark
  deriving DecidableEq, Repr

structure Crew where
  clock : Nat
  controller : Controller
  tasks : TaskId → Activity

/-- A step of a task that reads the clock reads any time. -/
inductive CrewStep where
  /-- An idle task begins to enqueue a domain. -/
  | call (task : TaskId) (read : Nat) (domain : String)
  /-- An idle task asks the queue for a domain. -/
  | take (task : TaskId)
  /-- A sync ends without anything to cascade. -/
  | finish (task : TaskId) (result : SyncResult)
  /-- A sync has stored a snapshot. -/
  | mirror (task : TaskId) (outcome : Outcome) (snapshot : Snapshot)
  /-- A task goes on with what it is at. -/
  | work (task : TaskId) (read : Nat)
  | close
  | advance (span : Nat)
  /-- Everything but the queue, the names and the settings becomes as it is there. -/
  | around (other : Controller)

def reassign (tasks : TaskId → Activity) (task : TaskId) (activity : Activity) :
    TaskId → Activity :=
  fun other => if other = task then activity else tasks other

@[simp] theorem reassign_self (tasks : TaskId → Activity) (task : TaskId) (activity : Activity) :
    reassign tasks task activity task = activity :=
  if_pos rfl

theorem reassign_of_ne (tasks : TaskId → Activity) {task other : TaskId} (activity : Activity)
    (apart : other ≠ task) : reassign tasks task activity other = tasks other :=
  if_neg apart

theorem reassign_reassign (tasks : TaskId → Activity) (task : TaskId)
    (first second : Activity) :
    reassign (reassign tasks task first) task second = reassign tasks task second := by
  funext other
  unfold reassign
  split <;> rfl

def WorkQueue.needs (queue : WorkQueue String) (domain : String) : Bool :=
  domain ∈ queue.dirty || (queue.deadlines.get? domain).isSome

namespace Controller

def cascadeTargets (domain : String) (snapshot : Snapshot) (controller : Controller) :
    List String :=
  if controller.names.isAdminDomain domain || controller.hasNamespace domain then
    snapshot.trustDomains
  else []

def isNewTarget (controller : Controller) (domain target : String) : Bool :=
  target ≠ domain && !controller.index.contains target

def forget (domain : String) (controller : Controller) : Controller :=
  { controller with queue := controller.queue.forget domain }

def lapse (domain : String) (controller : Controller) : List Mark :=
  if controller.queue.queue.needs domain then [.lapsed] else []

def reserve (read : Nat) (domain : String) (controller : Controller) : Nat × Controller :=
  let (delay, limiter) := controller.queue.limiter.reserve read domain
  (delay, { controller with queue := { controller.queue with limiter } })

def tell (read delay : Nat) (domain : String) (controller : Controller) : Controller :=
  { controller with queue := controller.queue.addAfter read delay domain }

def judge (domain : String) (controller : Controller) : Stage × Mark × Controller :=
  let metrics := controller.metrics.countSync .failed
  if controller.queue.requeues domain ≤ controller.settings.retryLimit then
    (.retrying, .requeued,
      { controller with metrics := { metrics with requeues := metrics.requeues + 1 } })
  else
    (.dropping, .dropped,
      { controller with metrics := { metrics with dropped := metrics.dropped + 1 } })

def proceed (read : Nat) (domain : String) (stage : Stage) (controller : Controller) :
    List Note × Activity × Controller :=
  match stage with
  | .syncing => ([], .holding domain .syncing, controller)
  | .cascading outcome [] => ([], .holding domain (.judging (.ok outcome)), controller)
  | .cascading outcome (target :: targets) =>
      if controller.isNewTarget domain target then
        let (delay, reserved) := controller.reserve read target
        ([⟨target, .called⟩], .holding domain (.extending outcome target delay targets), reserved)
      else ([], .holding domain (.cascading outcome targets), controller)
  | .extending outcome target delay targets =>
      ([⟨target, .queued⟩], .holding domain (.cascading outcome targets),
        controller.tell read delay target)
  | .judging (.ok outcome) =>
      let counted := { controller with metrics := controller.metrics.countSync outcome }
      ((.succeeded :: controller.lapse domain).map (Note.mk domain),
        .holding domain .returning, counted.forget domain)
  | .judging (.error _) =>
      let (stage, mark, judged) := controller.judge domain
      ([⟨domain, mark⟩], .holding domain stage, judged)
  | .retrying =>
      let (delay, reserved) := controller.reserve read domain
      ([], .holding domain (.readmitting delay), reserved)
  | .readmitting delay => ([], .holding domain .returning, controller.tell read delay domain)
  | .dropping =>
      ((controller.lapse domain).map (Note.mk domain), .holding domain .returning,
        controller.forget domain)
  | .returning =>
      ([], .idle, { controller with queue := controller.queue.complete domain })

end Controller

namespace Crew

def turn (crew : Crew) (task : TaskId) (activity : Activity) (controller : Controller) : Crew :=
  { crew with controller, tasks := reassign crew.tasks task activity }

def call (crew : Crew) (task : TaskId) (read : Nat) (domain : String) : List Note × Crew :=
  match crew.tasks task with
  | .idle =>
      let (delay, reserved) := crew.controller.reserve read domain
      ([⟨domain, .called⟩], crew.turn task (.calling domain delay) reserved)
  | .calling _ _ | .holding _ _ => ([], crew)

def take (crew : Crew) (task : TaskId) : List Note × Crew :=
  match crew.tasks task with
  | .idle =>
      let (handout, queue) := crew.controller.queue.take crew.clock task
      let taken := { crew.controller with queue }
      match handout with
      | .item domain => ([⟨domain, .handed⟩], crew.turn task (.holding domain .syncing) taken)
      | .closed | .wait _ => ([], crew.turn task .idle taken)
  | .calling _ _ | .holding _ _ => ([], crew)

def conclude (crew : Crew) (task : TaskId) (follow : String → Stage) : Crew :=
  match crew.tasks task with
  | .holding domain .syncing => crew.turn task (.holding domain (follow domain)) crew.controller
  | _ => crew

def work (crew : Crew) (task : TaskId) (read : Nat) : List Note × Crew :=
  match crew.tasks task with
  | .idle => ([], crew)
  | .calling domain delay =>
      ([⟨domain, .queued⟩], crew.turn task .idle (crew.controller.tell read delay domain))
  | .holding domain stage =>
      let (notes, activity, controller) := crew.controller.proceed read domain stage
      (notes, crew.turn task activity controller)

def step (crew : Crew) : CrewStep → List Note × Crew
  | .call task read domain => crew.call task read domain
  | .take task => crew.take task
  | .finish task result => ([], crew.conclude task fun _ => .judging result)
  | .mirror task outcome snapshot =>
      ([], crew.conclude task fun domain =>
        .cascading outcome (crew.controller.cascadeTargets domain snapshot))
  | .work task read => crew.work task read
  | .close =>
      let queue := crew.controller.queue.close
      ([], { crew with controller := { crew.controller with queue } })
  | .advance span => ([], { crew with clock := crew.clock + span })
  | .around other =>
      let { names, settings, queue, .. } := crew.controller
      ([], { crew with controller := { other with names, settings, queue } })

def run (crew : Crew) : List CrewStep → List Note × Crew
  | [] => ([], crew)
  | step :: rest =>
      let (notes, after) := crew.step step
      let (later, final) := after.run rest
      (notes ++ later, final)

theorem run_cons (crew : Crew) (step : CrewStep) (rest : List CrewStep) :
    crew.run (step :: rest) =
      ((crew.step step).1 ++ ((crew.step step).2.run rest).1, ((crew.step step).2.run rest).2) :=
  rfl

/-! ### What is done in one piece -/

variable {crew : Crew} {task : TaskId} {domain : String}

@[simp] theorem turn_tasks (crew : Crew) (task : TaskId) (activity : Activity)
    (controller : Controller) : (crew.turn task activity controller).tasks task = activity :=
  reassign_self crew.tasks task activity

@[simp] theorem turn_controller (crew : Crew) (task : TaskId) (activity : Activity)
    (controller : Controller) : (crew.turn task activity controller).controller = controller :=
  rfl

theorem turn_turn (crew : Crew) (task : TaskId) (first second : Activity)
    (controller final : Controller) :
    (crew.turn task first controller).turn task second final = crew.turn task second final := by
  unfold turn
  simp only [reassign_reassign]

def alone (crew : Crew) (task : TaskId) (now : Nat) : Nat → Crew
  | 0 => crew
  | steps + 1 => (crew.work task now).2.alone task now steps

theorem run_alone (crew : Crew) (task : TaskId) (now steps : Nat) :
    (crew.run (List.replicate steps (.work task now))).2 = crew.alone task now steps := by
  induction steps generalizing crew with
  | zero => rfl
  | succ steps ih => exact ih (crew.work task now).2

theorem alone_add (crew : Crew) (task : TaskId) (now first second : Nat) :
    crew.alone task now (first + second) =
      (crew.alone task now first).alone task now second := by
  induction first generalizing crew with
  | zero => rw [Nat.zero_add]; rfl
  | succ first ih =>
      rw [Nat.succ_add]
      exact ih (crew.work task now).2

theorem work_holding {stage : Stage} (holds : crew.tasks task = .holding domain stage)
    (read : Nat) :
    (crew.work task read).2 =
      crew.turn task (crew.controller.proceed read domain stage).2.1
        (crew.controller.proceed read domain stage).2.2 := by
  unfold work
  simp only [holds]

/-- Enqueueing a domain. -/
theorem call_alone (idle : crew.tasks task = .idle) (now : Nat) :
    (crew.call task now domain).2.alone task now 1 =
      crew.turn task .idle (crew.controller.enqueue now domain) := by
  unfold call
  simp only [idle]
  change ((crew.turn task _ _).work task now).2 = _
  unfold work
  simp only [turn_tasks, turn_turn]
  rfl

/-- Enqueueing what a stored snapshot trusts. -/
theorem cascading_alone {outcome : Outcome} {targets : List String}
    (holds : crew.tasks task = .holding domain (.cascading outcome targets)) (now : Nat) :
    ∃ steps, crew.alone task now steps =
      crew.turn task (.holding domain (.judging (.ok outcome)))
        (crew.controller.enqueueAll now
          (targets.filter (crew.controller.isNewTarget domain))) := by
  induction targets generalizing crew with
  | nil => exact ⟨1, work_holding holds now⟩
  | cons target rest ih =>
      have first := work_holding holds now
      unfold Controller.proceed at first
      by_cases unknown : crew.controller.isNewTarget domain target = true
      · simp only [if_pos unknown] at first
        -- The target is enqueued by two steps, and the others by what remains.
        have second : ((crew.work task now).2.work task now).2 =
            crew.turn task (.holding domain (.cascading outcome rest))
              (crew.controller.enqueue now target) := by
          rw [first, work_holding (turn_tasks ..), turn_turn]
          rfl
        obtain ⟨steps, later⟩ := ih (turn_tasks crew task (.holding domain (.cascading outcome rest))
          (crew.controller.enqueue now target))
        refine ⟨steps + 2, ?_⟩
        rw [List.filter_cons_of_pos unknown]
        change ((crew.work task now).2.work task now).2.alone task now steps = _
        rw [second, later, turn_turn]
        rfl
      · simp only [if_neg unknown] at first
        obtain ⟨steps, later⟩ := ih (turn_tasks crew task (.holding domain (.cascading outcome rest))
          crew.controller)
        refine ⟨steps + 1, ?_⟩
        rw [List.filter_cons_of_neg unknown]
        change (crew.work task now).2.alone task now steps = _
        rw [first, later, turn_turn]
        rfl

/-- What follows a sync. -/
theorem judging_alone {result : SyncResult}
    (holds : crew.tasks task = .holding domain (.judging result)) (now : Nat) :
    ∃ steps, crew.alone task now steps =
      crew.turn task .idle (crew.controller.conclude now domain result) := by
  have first := work_holding holds now
  unfold Controller.proceed at first
  cases result with
  | ok outcome =>
      refine ⟨2, ?_⟩
      change ((crew.work task now).2.work task now).2 = _
      rw [first, work_holding (turn_tasks ..), turn_turn]
      rfl
  | error error =>
      unfold Controller.conclude Controller.countResult
      unfold Controller.judge at first
      by_cases retried : crew.controller.queue.requeues domain ≤ crew.controller.settings.retryLimit
      · simp only [if_pos retried] at first ⊢
        refine ⟨4, ?_⟩
        change ((((crew.work task now).2.work task now).2.work task now).2.work task now).2 = _
        rw [first, work_holding (turn_tasks ..), turn_turn]
        unfold Controller.proceed
        rw [work_holding (turn_tasks ..), turn_turn]
        unfold Controller.proceed
        rw [work_holding (turn_tasks ..), turn_turn]
        rfl
      · simp only [if_neg retried] at first ⊢
        refine ⟨3, ?_⟩
        change (((crew.work task now).2.work task now).2.work task now).2 = _
        rw [first, work_holding (turn_tasks ..), turn_turn]
        unfold Controller.proceed
        rw [work_holding (turn_tasks ..), turn_turn]
        rfl

theorem conclude_of_syncing (holds : crew.tasks task = .holding domain .syncing)
    (follow : String → Stage) :
    crew.conclude task follow =
      crew.turn task (.holding domain (follow domain)) crew.controller := by
  unfold conclude
  simp only [holds]

/-- A task that is not syncing has no sync to end. -/
theorem conclude_cases (crew : Crew) (task : TaskId) (follow : String → Stage) :
    (∃ domain, crew.tasks task = .holding domain .syncing ∧
      crew.conclude task follow =
        crew.turn task (.holding domain (follow domain)) crew.controller) ∨
    (∀ domain, crew.tasks task ≠ .holding domain .syncing) ∧
      crew.conclude task follow = crew := by
  unfold conclude
  split
  next domain holds => exact .inl ⟨domain, holds, rfl⟩
  next other => exact .inr ⟨other, rfl⟩

theorem finish_alone (crew : Crew) (holds : crew.tasks task = .holding domain .syncing) (now : Nat)
    (result : SyncResult) :
    ∃ steps, (crew.run steps).2 =
      crew.turn task .idle (crew.controller.conclude now domain result) := by
  obtain ⟨steps, judged⟩ := judging_alone (turn_tasks crew task
    (.holding domain (.judging result)) crew.controller) now
  refine ⟨.finish task result :: List.replicate steps (.work task now), ?_⟩
  change ((crew.conclude task _).run _).2 = _
  rw [run_alone, conclude_of_syncing holds, judged, turn_turn]
  rfl

theorem mirror_alone (crew : Crew) (holds : crew.tasks task = .holding domain .syncing) (now : Nat)
    (outcome : Outcome) (snapshot : Snapshot) :
    ∃ steps, (crew.run steps).2 =
      crew.turn task .idle
        ((Deployment.cascade now domain snapshot crew.controller).conclude now domain
          (.ok outcome)) := by
  let stage := Stage.cascading outcome (crew.controller.cascadeTargets domain snapshot)
  have ended : crew.conclude task (fun domain =>
        .cascading outcome (crew.controller.cascadeTargets domain snapshot)) =
      crew.turn task (.holding domain stage) crew.controller := conclude_of_syncing holds _
  have enqueued : crew.controller.enqueueAll now
      ((crew.controller.cascadeTargets domain snapshot).filter
        (crew.controller.isNewTarget domain)) =
      Deployment.cascade now domain snapshot crew.controller := by
    unfold Controller.cascadeTargets Deployment.cascade
    split <;> rfl
  obtain ⟨first, cascaded⟩ := cascading_alone (turn_tasks crew task (.holding domain stage)
    crew.controller) now
  rw [turn_turn, turn_controller, enqueued] at cascaded
  obtain ⟨second, judged⟩ := judging_alone (turn_tasks crew task
    (.holding domain (.judging (.ok outcome)))
    (Deployment.cascade now domain snapshot crew.controller)) now
  refine ⟨.mirror task outcome snapshot :: List.replicate (first + second) (.work task now), ?_⟩
  change ((crew.conclude task _).run _).2 = _
  rw [run_alone, alone_add, ended, cascaded, judged, turn_turn]
  rfl

/-- Others may bring the controller to any state with the same names, settings and queue. -/
theorem run_around (crew : Crew) {other : Controller}
    (names : other.names = crew.controller.names)
    (settings : other.settings = crew.controller.settings)
    (queue : other.queue = crew.controller.queue) (steps : List CrewStep) :
    (crew.run (.around other :: steps)).2 = ({ crew with controller := other }.run steps).2 := by
  rw [run_cons]
  unfold step
  simp only [← names, ← settings, ← queue]

section Exchanges

variable {σ : Type} [ApiBackend σ] {deployment : Deployment σ}

/-- An exchange changes nothing of the controller but its index. -/
theorem exchange_alone (same : crew.controller = deployment.controller)
    (holds : crew.tasks task = .holding domain .syncing) (now : Nat) {α : Type}
    (exchange : Exchange α) (result : SyncResult) :
    ∃ steps, (crew.run steps).2 = crew.turn task .idle
      ((deployment.perform exchange).2.controller.conclude now domain result) := by
  let other := (deployment.perform exchange).2.controller
  obtain ⟨steps, finished⟩ :=
    finish_alone { crew with controller := other } holds now result
  refine ⟨.around other :: steps, ?_⟩
  rw [crew.run_around (by rw [same]; rfl) (by rw [same]; rfl) (by rw [same]; rfl), finished]
  rfl

theorem removeReplica_alone (same : crew.controller = deployment.controller)
    (holds : crew.tasks task = .holding domain .syncing) (now : Nat) :
    ∃ steps, (crew.run steps).2 = crew.turn task .idle
      ((deployment.removeReplica domain).2.controller.conclude now domain
        (deployment.removeReplica domain).1) := by
  have removed := exchange_alone same holds now (Store.remove domain)
  unfold Deployment.removeReplica
  generalize deployment.perform (Store.remove domain) = performed at removed ⊢
  obtain ⟨answer, after⟩ := performed
  cases answer with
  | error error => exact removed _
  | ok existed => cases existed <;> exact removed _

theorem storeSnapshot_alone (same : crew.controller = deployment.controller)
    (holds : crew.tasks task = .holding domain .syncing) (now : Nat) (snapshot : Snapshot) :
    ∃ steps, (crew.run steps).2 = crew.turn task .idle
      ((deployment.storeSnapshot now domain snapshot).2.controller.conclude now domain
        (deployment.storeSnapshot now domain snapshot).1) := by
  have refused := exchange_alone same holds now (Store.createOrUpdate domain snapshot)
  have mirrored : ∀ outcome, ∃ steps, (crew.run steps).2 = crew.turn task .idle
      ((Deployment.cascade now domain snapshot
        (deployment.perform (Store.createOrUpdate domain snapshot)).2.controller).conclude now
          domain (.ok outcome)) := by
    intro outcome
    let other := (deployment.perform (Store.createOrUpdate domain snapshot)).2.controller
    obtain ⟨steps, mirrored⟩ :=
      mirror_alone { crew with controller := other } holds now outcome snapshot
    refine ⟨.around other :: steps, ?_⟩
    rw [crew.run_around (by rw [same]; rfl) (by rw [same]; rfl) (by rw [same]; rfl), mirrored]
    rfl
  unfold Deployment.storeSnapshot
  generalize deployment.perform (Store.createOrUpdate domain snapshot) = performed
    at refused mirrored ⊢
  obtain ⟨answer, after⟩ := performed
  cases answer with
  | error error => exact refused _
  | ok applied => exact mirrored _

/-- All that a controller does with a domain that was handed out is what a task does that
others interrupt nowhere but in its exchange with the API server. -/
theorem sync_alone (same : crew.controller = deployment.controller)
    (holds : crew.tasks task = .holding domain .syncing) (now : Nat)
    (fetch : String → FetchAnswer) :
    ∃ steps, (crew.run steps).2 = crew.turn task .idle
      ((deployment.sync now domain fetch).2.controller.conclude now domain
        (deployment.sync now domain fetch).1) := by
  unfold Deployment.sync
  by_cases valid : deployment.controller.isValid domain = true
  · rw [if_pos valid]
    unfold Deployment.accept
    cases fetch domain with
    | broken =>
        obtain ⟨steps, finished⟩ := finish_alone crew holds now (.error .broken)
        exact ⟨steps, by rw [finished, same]⟩
    | failed error =>
        by_cases unknown : error.isNotFound = true
        · simp only [if_pos unknown]
          exact removeReplica_alone same holds now
        · simp only [if_neg unknown]
          exact exchange_alone same holds now (Store.setErrorStatus domain error.message) _
    | answered content =>
        cases content with
        | none => exact removeReplica_alone same holds now
        | some snapshot => exact storeSnapshot_alone same holds now (deployment.prepared snapshot)
  · rw [if_neg valid]
    exact removeReplica_alone same holds now

end Exchanges

end Crew

end PolicyReplica
