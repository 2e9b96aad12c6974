import Mathlib.Data.List.DropRight
import Mathlib.Data.List.TakeWhile
import Mathlib.Logic.Function.Basic
import PolicyReplica.Proofs.Queue.Session

/-
Workers that share a queue, and their calls in parts between which others may come.

A worker that asks for a key first gets in line for the signal, or takes the permit. Then it
looks at the queue. Then it either gets out of line with what it found, or waits to be called
or for the first entry to be due, and asks anew. Whoever changes the queue gives the signal
later, so that a call can reach a worker that has its answer already and is about to leave;
such a call is handed on. Main statement: without a break the parts are what the shared queue
does at once.
-/

namespace PolicyReplica

inductive PoolStage (κ : Type) where
  | starting
  /-- It is in line, or was called, and has not looked at the queue. -/
  | entered
  /-- It found nothing, and waits to be called or for the time. -/
  | waiting (timer : Option Nat)
  /-- It has its answer, nothing if the queue is closed, and may still be in line. -/
  | leaving (found : Option κ)
  | holding (key : κ)
  | gone
  deriving DecidableEq, Repr

structure WorkerPool (κ : Type) where
  clock : Nat
  queue : WorkQueue κ
  signal : Signal
  stages : TaskId → PoolStage κ
  /-- How often one worker is still to be called. -/
  calls : Nat
  /-- How often all of them are. -/
  callsToAll : Nat

inductive PoolStep (κ : Type) where
  /-- A worker does the next part of what it is at. -/
  | act (worker : TaskId)
  | add (key : κ)
  | addAfter (read delay : Nat) (key : κ)
  | close
  | call
  | callAll
  /-- A call is due that nobody needs, such as one handed on by a worker that got it in time. -/
  | nudge
  | advance (span : Nat)

def Signal.heed (signal : Signal) (task : TaskId) : Signal :=
  { signal with woken := signal.woken.filter (· ≠ task) }

namespace Signal

variable {signal : Signal} {task : TaskId}

theorem filter_ne_self {tasks : List TaskId} (out : task ∉ tasks) :
    tasks.filter (· ≠ task) = tasks :=
  List.filter_eq_self.mpr fun other member =>
    decide_eq_true fun same : other = task => out (same ▸ member)

theorem filter_ne_concat {tasks : List TaskId} (out : task ∉ tasks) :
    (tasks ++ [task]).filter (· ≠ task) = tasks := by
  rw [List.filter_append, filter_ne_self out]
  simp

theorem heed_wake (uncalled : task ∉ signal.woken) : (signal.wake task).heed task = signal := by
  unfold wake heed
  rw [filter_ne_concat uncalled]

theorem heed_of_uncalled (uncalled : task ∉ signal.woken) : signal.heed task = signal := by
  unfold heed
  rw [filter_ne_self uncalled]

theorem leave_of_out (out : task ∉ signal.waiters) : signal.leave task = signal := by
  unfold leave
  rw [filter_ne_self out]

theorem leave_wait (out : task ∉ signal.waiters) : (signal.wait task).leave task = signal := by
  unfold wait leave
  rw [filter_ne_concat out]

/-- Gets a task out of line that has its answer; the call is passed on that it got since. -/
def dismiss (signal : Signal) (task : TaskId) : Signal :=
  if task ∈ signal.woken then ((signal.leave task).heed task).notifyOne
  else (signal.leave task).heed task

theorem dismiss_of_out (out : task ∉ signal.waiters) (uncalled : task ∉ signal.woken) :
    signal.dismiss task = signal := by
  unfold dismiss
  rw [if_neg uncalled, leave_of_out out, heed_of_uncalled uncalled]

theorem dismiss_wait (out : task ∉ signal.waiters) (uncalled : task ∉ signal.woken) :
    (signal.wait task).dismiss task = signal := by
  have stillUncalled : task ∉ (signal.wait task).woken := uncalled
  unfold dismiss
  rw [if_neg stillUncalled, leave_wait out, heed_of_uncalled uncalled]

theorem dismiss_notifyOne (out : task ∉ signal.waiters) (uncalled : task ∉ signal.woken) :
    signal.notifyOne.dismiss task = signal.notifyOne := by
  obtain ⟨waiters, permit, woken⟩ := signal
  cases waiters with
  | nil => exact dismiss_of_out out uncalled
  | cons oldest rest =>
      refine dismiss_of_out (fun member => out (List.mem_cons_of_mem oldest member)) ?_
      intro member
      rcases List.mem_append.mp member with before | own
      · exact uncalled before
      · exact out (List.mem_singleton.mp own ▸ List.mem_cons_self)

theorem dismiss_notifyOne_wait (out : task ∉ signal.waiters) (uncalled : task ∉ signal.woken) :
    (signal.wait task).notifyOne.dismiss task = signal.notifyOne := by
  obtain ⟨waiters, permit, woken⟩ := signal
  cases waiters with
  | nil =>
      -- Alone in line it is the one that is called; the call that it hands on is the permit.
      have own : task ∈ woken ++ [task] :=
        List.mem_append_right woken (List.mem_singleton.mpr rfl)
      refine (if_pos own).trans ?_
      change ({ waiters := [], permit := true,
                woken := (woken ++ [task]).filter (· ≠ task) } : Signal) = _
      rw [filter_ne_concat uncalled]
      rfl
  | cons oldest rest =>
      have other : task ∉ woken ++ [oldest] := by
        rw [List.mem_append, List.mem_singleton, not_or]
        exact ⟨uncalled, fun same => out (same ▸ List.mem_cons_self)⟩
      refine (if_neg other).trans ?_
      change ({ waiters := (rest ++ [task]).filter (· ≠ task), permit,
                woken := (woken ++ [oldest]).filter (· ≠ task) } : Signal) = _
      rw [filter_ne_concat fun member => out (List.mem_cons_of_mem oldest member),
        filter_ne_self other]
      rfl

end Signal

theorem WorkQueue.promote_promote {κ : Type} [DecidableEq κ] (queue : WorkQueue κ) (now : Nat) :
    (queue.promote now).promote now = queue.promote now := by
  have past := queue.promote_delayed now
  have again : (queue.promote now).delayed.dropWhile (·.time ≤ now) =
      (queue.promote now).delayed := by
    rw [past, List.dropWhile_idempotent]
  have none : (queue.promote now).delayed.takeWhile (·.time ≤ now) = [] := by
    have whole := List.takeWhile_append_dropWhile
      (p := fun entry : Delayed κ => entry.time ≤ now) (l := (queue.promote now).delayed)
    rw [again] at whole
    exact List.append_left_eq_self.mp whole
  generalize queue.promote now = promoted at again none
  unfold promote
  rw [again, none]
  rfl

namespace WorkerPool

variable {κ : Type}

def ofSize (size : Nat) : WorkerPool κ :=
  { clock := 0
    queue := .empty
    signal := .initial
    stages := fun worker => if worker < size then .starting else .gone
    calls := 0
    callsToAll := 0 }

def place (pool : WorkerPool κ) (worker : TaskId) (stage : PoolStage κ) : WorkerPool κ :=
  { pool with stages := Function.update pool.stages worker stage }

def change (pool : WorkerPool κ) (changed : Bool × WorkQueue κ) : WorkerPool κ :=
  { pool with queue := changed.2, calls := pool.calls + changed.1.toNat }

def enter (pool : WorkerPool κ) (worker : TaskId) : WorkerPool κ :=
  let signal := pool.signal.enter worker
  { pool.place worker .entered with
    signal := if pool.signal.permit then signal.wake worker else signal.wait worker }

def resume (pool : WorkerPool κ) (worker : TaskId) (timer : Option Nat) : WorkerPool κ :=
  if worker ∈ pool.signal.woken ∨ timer.any (· ≤ pool.clock) then
    { pool.place worker .starting with signal := (pool.signal.leave worker).heed worker }
  else pool

/-- Gets out of line; a call that came too late for the worker is handed on. -/
def depart (pool : WorkerPool κ) (worker : TaskId) (found : Option κ) : WorkerPool κ :=
  { pool.place worker (found.elim .gone .holding) with
    signal := (pool.signal.leave worker).heed worker
    calls := pool.calls + if worker ∈ pool.signal.woken then 1 else 0 }

def call (pool : WorkerPool κ) : WorkerPool κ :=
  match pool.calls with
  | 0 => pool
  | rest + 1 => { pool with calls := rest, signal := pool.signal.notifyOne }

def callAll (pool : WorkerPool κ) : WorkerPool κ :=
  match pool.callsToAll with
  | 0 => pool
  | rest + 1 => { pool with callsToAll := rest, signal := pool.signal.notifyAll }

def shared (pool : WorkerPool κ) (limiter : RateLimiter κ) : SharedQueue κ :=
  { queue := pool.queue, limiter, signal := pool.signal }

theorem change_call {pool : WorkerPool κ} (settled : pool.calls = 0) (limiter : RateLimiter κ)
    (changed : Bool × WorkQueue κ) :
    ((pool.change changed).call).shared limiter = (pool.shared limiter).alert changed := by
  obtain ⟨ready, queue⟩ := changed
  unfold change call
  rw [settled]
  cases ready <;> rfl

theorem depart_call {pool : WorkerPool κ} (settled : pool.calls = 0) (worker : TaskId)
    (found : Option κ) : (pool.depart worker found).call =
      { pool.place worker (found.elim .gone .holding) with
        signal := pool.signal.dismiss worker } := by
  obtain ⟨clock, queue, signal, stages, calls, callsToAll⟩ := pool
  obtain rfl : calls = 0 := settled
  unfold depart Signal.dismiss
  by_cases called : worker ∈ signal.woken
  · simp only [if_pos called]
    rfl
  · simp only [if_neg called]
    rfl

variable [DecidableEq κ]

/-- Looks at the queue; a worker that finds what it came for needs no call any more. -/
def look (pool : WorkerPool κ) (worker : TaskId) : WorkerPool κ :=
  let looked := { pool with queue := (pool.queue.take pool.clock).2 }
  match (pool.queue.take pool.clock).1 with
  | .item key =>
      { looked.place worker (.leaving (some key)) with
        signal := pool.signal.heed worker
        calls := pool.calls + (!looked.queue.isEmpty).toNat }
  | .closed => { looked.place worker (.leaving none) with signal := pool.signal.heed worker }
  | .wait due => looked.place worker (.waiting due)

theorem look_item {pool : WorkerPool κ} {key : κ} {rest : WorkQueue κ}
    (taken : pool.queue.take pool.clock = (.item key, rest)) (worker : TaskId) :
    pool.look worker =
      { pool.place worker (.leaving (some key)) with
        queue := rest
        signal := pool.signal.heed worker
        calls := pool.calls + (!rest.isEmpty).toNat } := by
  unfold look
  simp only [taken]
  rfl

theorem look_closed {pool : WorkerPool κ} {rest : WorkQueue κ}
    (taken : pool.queue.take pool.clock = (.closed, rest)) (worker : TaskId) :
    pool.look worker =
      { pool.place worker (.leaving none) with
        queue := rest
        signal := pool.signal.heed worker } := by
  unfold look
  simp only [taken]
  rfl

theorem look_wait {pool : WorkerPool κ} {due : Option Nat} {rest : WorkQueue κ}
    (taken : pool.queue.take pool.clock = (.wait due, rest)) (worker : TaskId) :
    pool.look worker = { pool.place worker (.waiting due) with queue := rest } := by
  unfold look
  simp only [taken]
  rfl

def act (pool : WorkerPool κ) (worker : TaskId) : WorkerPool κ :=
  match pool.stages worker with
  | .starting => pool.enter worker
  | .entered => pool.look worker
  | .waiting timer => pool.resume worker timer
  | .leaving found => pool.depart worker found
  | .holding key => (pool.change (pool.queue.complete key)).place worker .starting
  | .gone => pool

theorem act_starting {pool : WorkerPool κ} {worker : TaskId}
    (starting : pool.stages worker = .starting) : pool.act worker = pool.enter worker := by
  unfold act
  rw [starting]

theorem act_entered {pool : WorkerPool κ} {worker : TaskId}
    (entered : pool.stages worker = .entered) : pool.act worker = pool.look worker := by
  unfold act
  rw [entered]

theorem act_leaving {pool : WorkerPool κ} {worker : TaskId} {found : Option κ}
    (leaving : pool.stages worker = .leaving found) :
    pool.act worker = pool.depart worker found := by
  unfold act
  rw [leaving]

theorem act_waiting {pool : WorkerPool κ} {worker : TaskId} {timer : Option Nat}
    (waiting : pool.stages worker = .waiting timer) :
    pool.act worker = pool.resume worker timer := by
  unfold act
  rw [waiting]

def step (pool : WorkerPool κ) : PoolStep κ → WorkerPool κ
  | .act worker => pool.act worker
  | .add key => pool.change (pool.queue.add key)
  | .addAfter read delay key =>
      pool.change (if delay = 0 then pool.queue.add key else pool.queue.delay (read + delay) key)
  | .close => { pool with queue := pool.queue.close, callsToAll := pool.callsToAll + 1 }
  | .call => pool.call
  | .callAll => pool.callAll
  | .nudge => { pool with calls := pool.calls + 1 }
  | .advance span => { pool with clock := pool.clock + span }

def run (pool : WorkerPool κ) (steps : List (PoolStep κ)) : WorkerPool κ :=
  steps.foldl step pool

/-! ### Calls without a break -/

/-- Whoever changes the queue and gives the signal at once does what the shared queue does. -/
theorem change_unbroken {pool : WorkerPool κ} (settled : pool.calls = 0)
    (settledToAll : pool.callsToAll = 0) (limiter : RateLimiter κ) :
    (∀ key, (pool.run [.add key, .call]).shared limiter = (pool.shared limiter).add key) ∧
      (∀ read delay key, (pool.run [.addAfter read delay key, .call]).shared limiter =
        (pool.shared limiter).addAfter read delay key) ∧
      (∀ worker key, pool.stages worker = .holding key →
        (pool.run [.act worker, .call]).shared limiter = (pool.shared limiter).complete key) ∧
      (pool.run [.close, .callAll]).shared limiter = (pool.shared limiter).close := by
  refine ⟨fun key => change_call settled limiter _, fun read delay key => ?_, ?_, ?_⟩
  · refine (change_call settled limiter _).trans ?_
    unfold SharedQueue.addAfter
    split <;> rfl
  · intro worker key holds
    have completed : pool.act worker =
        (pool.change (pool.queue.complete key)).place worker .starting := by
      unfold act
      rw [holds]
    have stillSettled : (pool.place worker .starting).calls = 0 := settled
    change ((pool.act worker).call).shared limiter = _
    rw [completed]
    exact change_call stillSettled limiter _
  · unfold run
    simp only [List.foldl_cons, List.foldl_nil, step, callAll, settledToAll]
    rfl

theorem leave_unbroken {pool : WorkerPool κ} {worker : TaskId} {signal : Signal}
    {found : Option κ} {rest : WorkQueue κ} {more : Bool} (settled : pool.calls = 0)
    (out : worker ∉ signal.waiters) (uncalled : worker ∉ signal.woken)
    (line : pool.signal.heed worker = signal ∨ pool.signal.heed worker = signal.wait worker)
    (looked : pool.act worker =
      { pool.place worker (.leaving found) with
        queue := rest
        signal := pool.signal.heed worker
        calls := more.toNat }) :
    pool.run [.act worker, .call, .act worker, .call] =
      { pool.place worker (found.elim .gone .holding) with
        queue := rest
        signal := if more then signal.notifyOne else signal } := by
  let heeded := pool.signal.heed worker
  let called : WorkerPool κ :=
    { pool.place worker (.leaving found) with
      queue := rest
      signal := if more then heeded.notifyOne else heeded }
  have next : (pool.act worker).call = called := by
    obtain ⟨clock, queue, signal, stages, calls, callsToAll⟩ := pool
    obtain rfl : calls = 0 := settled
    rw [looked]
    cases more <;> rfl
  have noCalls : called.calls = 0 := settled
  have leaving : called.stages worker = .leaving found := Function.update_self worker _ _
  have stages : Function.update called.stages worker (found.elim .gone .holding) =
      Function.update pool.stages worker (found.elim .gone .holding) := Function.update_idem _ _ _
  have dismissed : called.signal.dismiss worker = if more then signal.notifyOne else signal := by
    change (if more then heeded.notifyOne else heeded).dismiss worker = _
    rcases line with permitted | waited
    · rw [show heeded = signal from permitted]
      split
      · exact Signal.dismiss_notifyOne out uncalled
      · exact Signal.dismiss_of_out out uncalled
    · rw [show heeded = signal.wait worker from waited]
      split
      · exact Signal.dismiss_notifyOne_wait out uncalled
      · exact Signal.dismiss_wait out uncalled
  calc pool.run [.act worker, .call, .act worker, .call]
      = (((pool.act worker).call).act worker).call := rfl
    _ = (called.depart worker found).call := by rw [next, act_leaving leaving]
    _ = { called.place worker (found.elim .gone .holding) with
          signal := called.signal.dismiss worker } := depart_call noCalls worker found
    _ = _ := by
        unfold place
        rw [dismissed, stages]
        rfl

def answered : Handout κ → PoolStage κ
  | .item key => .holding key
  | .closed => .gone
  | .wait due => .waiting due

theorem wait_unbroken {pool : WorkerPool κ} {worker : TaskId} {due : Option Nat}
    {rest : WorkQueue κ} (starting : pool.stages worker = .starting)
    (permit : pool.signal.permit = false)
    (taken : pool.queue.take pool.clock = (.wait due, rest)) :
    pool.run [.act worker, .act worker] =
      { pool.place worker (.waiting due) with
        queue := rest
        signal := (pool.signal.enter worker).wait worker } := by
  let entered := pool.enter worker
  have stage : entered.stages worker = .entered := Function.update_self worker _ _
  have asked : entered.queue.take entered.clock = (.wait due, rest) := taken
  have joined : entered.signal = (pool.signal.enter worker).wait worker := by
    change (if pool.signal.permit then _ else _) = _
    rw [permit]
    rfl
  have stages : Function.update entered.stages worker (.waiting due) =
      Function.update pool.stages worker (.waiting due) := Function.update_idem _ _ _
  calc pool.run [.act worker, .act worker]
      = (pool.act worker).act worker := rfl
    _ = entered.look worker := by rw [act_starting starting, act_entered stage]
    _ = _ := by
        rw [look_wait asked]
        unfold place
        rw [stages, joined]
        rfl

theorem permit_unbroken {pool : WorkerPool κ} {worker : TaskId} {due : Option Nat}
    {rest : WorkQueue κ} (starting : pool.stages worker = .starting)
    (out : worker ∉ pool.signal.waiters) (uncalled : worker ∉ pool.signal.woken)
    (permit : pool.signal.permit = true)
    (taken : pool.queue.take pool.clock = (.wait due, rest)) :
    pool.run [.act worker, .act worker, .act worker] =
      { pool.place worker .starting with
        queue := rest
        signal := pool.signal.enter worker } := by
  let ready := pool.signal.enter worker
  let entered := pool.enter worker
  let waiting : WorkerPool κ := { entered.place worker (.waiting due) with queue := rest }
  have stage : entered.stages worker = .entered := Function.update_self worker _ _
  have asked : entered.queue.take entered.clock = (.wait due, rest) := taken
  have joined : waiting.signal = ready.wake worker := by
    change (if pool.signal.permit then _ else _) = _
    rw [permit]
    rfl
  have called : worker ∈ waiting.signal.woken := by
    rw [joined]
    exact List.mem_append_right _ (List.mem_singleton.mpr rfl)
  have left : (waiting.signal.leave worker).heed worker = ready := by
    have readyOut : worker ∉ (ready.wake worker).waiters := fun member =>
      out (List.mem_filter.mp member).1
    rw [joined, Signal.leave_of_out readyOut]
    exact Signal.heed_wake uncalled
  have stages : Function.update waiting.stages worker .starting =
      Function.update pool.stages worker .starting := by
    change Function.update (Function.update (Function.update _ _ _) _ _) _ _ = _
    rw [Function.update_idem, Function.update_idem]
  calc pool.run [.act worker, .act worker, .act worker]
      = ((pool.act worker).act worker).act worker := rfl
    _ = waiting.act worker := by
        rw [act_starting starting, act_entered stage, look_wait asked]
    _ = waiting.resume worker due := act_waiting (Function.update_self worker _ _)
    _ = _ := by
        unfold resume place
        rw [if_pos (.inl called), left, stages]
        rfl

/-- A worker that asks without a break gets what the shared queue hands out, and leaves the
queue and the signal as the shared queue does. -/
theorem ask_unbroken {pool : WorkerPool κ} {worker : TaskId} (settled : pool.calls = 0)
    (starting : pool.stages worker = .starting) (out : worker ∉ pool.signal.waiters)
    (uncalled : worker ∉ pool.signal.woken) (limiter : RateLimiter κ) :
    ∃ steps : List (PoolStep κ), (∀ step ∈ steps, step = .act worker ∨ step = .call) ∧
      pool.run steps =
        { pool.place worker (answered ((pool.shared limiter).take pool.clock worker).1) with
          queue := ((pool.shared limiter).take pool.clock worker).2.queue
          signal := ((pool.shared limiter).take pool.clock worker).2.signal } := by
  let ready := pool.signal.enter worker
  let entered := pool.enter worker
  have act : pool.act worker = entered := act_starting starting
  have stage : entered.stages worker = .entered := Function.update_self worker _ _
  have noCalls : entered.calls = 0 := settled
  have readyOut : worker ∉ ready.waiters := fun member => out (List.mem_filter.mp member).1
  have waitUncalled : worker ∉ (ready.wait worker).woken := uncalled
  have joined : entered.signal =
      if pool.signal.permit then ready.wake worker else ready.wait worker := rfl
  have line : entered.signal.heed worker = ready ∨
      entered.signal.heed worker = ready.wait worker := by
    rw [joined]
    cases pool.signal.permit with
    | true => exact .inl (Signal.heed_wake uncalled)
    | false => exact .inr (Signal.heed_of_uncalled waitUncalled)
  have again : ∀ stage, Function.update entered.stages worker stage =
      Function.update pool.stages worker stage := fun _ => Function.update_idem _ _ _
  obtain ⟨key, others, _, handed⟩ | ⟨_, _, handed⟩ | ⟨_, _, handed⟩ :=
    (pool.queue.promote pool.clock).handOut_cases
  · obtain ⟨rest, taken⟩ : ∃ rest, pool.queue.take pool.clock = (.item key, rest) := ⟨_, handed⟩
    have asked : entered.queue.take entered.clock = (.item key, rest) := taken
    have looked : entered.act worker = _ := (act_entered stage).trans (look_item asked worker)
    rw [noCalls, Nat.zero_add] at looked
    refine ⟨[.act worker, .act worker, .call, .act worker, .call], by simp, ?_⟩
    change (pool.act worker).run [.act worker, .call, .act worker, .call] = _
    rw [act, leave_unbroken noCalls readyOut uncalled line looked]
    unfold place SharedQueue.take shared
    simp only [taken, again]
    cases rest.isEmpty <;> rfl
  · obtain ⟨rest, taken⟩ : ∃ rest, pool.queue.take pool.clock = (.closed, rest) := ⟨_, handed⟩
    have asked : entered.queue.take entered.clock = (.closed, rest) := taken
    have looked : entered.act worker =
        { entered.place worker (.leaving none) with
          queue := rest
          signal := entered.signal.heed worker
          calls := false.toNat } := by
      rw [act_entered stage, look_closed asked]
      unfold place
      rw [noCalls]
      rfl
    refine ⟨[.act worker, .act worker, .call, .act worker, .call], by simp, ?_⟩
    change (pool.act worker).run [.act worker, .call, .act worker, .call] = _
    rw [act, leave_unbroken noCalls readyOut uncalled line looked]
    unfold place SharedQueue.take shared
    simp only [taken, again]
    rfl
  · obtain ⟨due, taken⟩ : ∃ due, pool.queue.take pool.clock =
        (.wait due, pool.queue.promote pool.clock) := ⟨_, handed⟩
    cases permit : pool.signal.permit with
    | false =>
        refine ⟨[.act worker, .act worker], by simp, ?_⟩
        rw [wait_unbroken starting permit taken]
        unfold place SharedQueue.take shared
        simp only [taken]
        rfl
    | true =>
        -- The permit lets it ask anew; at the same time it finds the queue as it left it.
        let anew : WorkerPool κ :=
          { pool.place worker .starting with
            queue := pool.queue.promote pool.clock
            signal := ready }
        have stage : anew.stages worker = .starting := Function.update_self worker _ _
        have sameAnswer : anew.queue.take anew.clock =
            (.wait due, pool.queue.promote pool.clock) := by
          change ((pool.queue.promote pool.clock).promote pool.clock).handOut = _
          rw [WorkQueue.promote_promote]
          exact taken
        have readyAgain : anew.signal.enter worker = ready := by
          unfold Signal.enter
          rw [Signal.filter_ne_self readyOut]
          rfl
        have stages : Function.update anew.stages worker (.waiting due) =
            Function.update pool.stages worker (.waiting due) := Function.update_idem _ _ _
        refine ⟨[.act worker, .act worker, .act worker, .act worker, .act worker], by simp, ?_⟩
        change (pool.run [.act worker, .act worker, .act worker]).run [.act worker, .act worker] = _
        rw [permit_unbroken starting out uncalled permit taken]
        change anew.run [.act worker, .act worker] = _
        rw [wait_unbroken stage rfl sameAnswer, readyAgain]
        unfold place SharedQueue.take shared
        simp only [taken, stages]
        rfl

end WorkerPool

end PolicyReplica
