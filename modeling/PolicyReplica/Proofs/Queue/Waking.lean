import Mathlib.Data.Finset.Card
import Mathlib.Data.List.Nodup
import Mathlib.Data.List.Pairwise
import PolicyReplica.Proofs.Queue.Interleaving
import PolicyReplica.Proofs.Queue.Pending

/-
No call is lost.

A worker sleeps on what it saw of the queue when it looked. What was added since and is due
before its timer it has not seen. Each such thing is matched by a call still to be made, or
by a worker that will look at the queue later: one that is about to ask, one that was called,
or one that stands behind the sleeper in line. The last one in line has nobody behind it.
Main statement: when nobody has anything to do but wait, and some worker waits for a key, then
nothing is ready, the queue is open, and a worker waits no longer than to the first deadline.
-/

namespace PolicyReplica

variable {κ : Type}

namespace WorkQueue

/-- What a worker has not seen that sleeps with the timer: the keys that are ready, and the
entries in line before the timer. -/
def unseen (queue : WorkQueue κ) (timer : Option Nat) : Nat :=
  queue.ready.length + queue.delayed.countP fun entry => timer.all (entry.time < ·)

theorem countP_enqueue (counts : Delayed κ → Bool) (entry : Delayed κ) (line : List (Delayed κ)) :
    (enqueue entry line).countP counts = line.countP counts + (counts entry).toNat := by
  have single : ∀ rest : List (Delayed κ),
      (entry :: rest).countP counts = rest.countP counts + (counts entry).toNat := by
    intro rest
    rw [List.countP_cons]
    cases counts entry <;> rfl
  induction line with
  | nil => exact single []
  | cons first rest ih =>
      unfold enqueue
      split
      · rw [List.countP_cons, ih, List.countP_cons]
        omega
      · exact single (first :: rest)

theorem pairwise_enqueue {line : List (Delayed κ)} (ordered : line.Pairwise (·.time ≤ ·.time))
    (entry : Delayed κ) : (enqueue entry line).Pairwise (·.time ≤ ·.time) := by
  induction line with
  | nil => exact List.pairwise_singleton _ _
  | cons first rest ih =>
      obtain ⟨least, others⟩ := List.pairwise_cons.mp ordered
      unfold enqueue
      split
      · next earlier =>
          refine List.pairwise_cons.mpr ⟨fun other member => ?_, ih others⟩
          rcases (mem_enqueue entry other rest).mp member with rfl | inRest
          · exact earlier
          · exact least other inRest
      · next later =>
          refine List.pairwise_cons.mpr ⟨fun other member => ?_, ordered⟩
          rcases List.mem_cons.mp member with rfl | inRest
          · omega
          · have least := least other inRest
            omega

theorem unseen_head {queue : WorkQueue κ} (ordered : queue.delayed.Pairwise (·.time ≤ ·.time))
    (none : queue.ready = []) : queue.unseen (queue.delayed.head?.map Delayed.time) = 0 := by
  unfold unseen
  rw [none, List.length_nil, Nat.zero_add, List.countP_eq_zero]
  intro entry member
  cases line : queue.delayed with
  | nil =>
      rw [line] at member
      cases member
  | cons first rest =>
      rw [line] at member ordered
      have least : first.time ≤ entry.time := by
        rcases List.mem_cons.mp member with rfl | inRest
        · exact Nat.le_refl _
        · exact (List.pairwise_cons.mp ordered).1 entry inRest
      simpa using least

theorem unseen_close (queue : WorkQueue κ) (timer : Option Nat) :
    queue.close.unseen timer ≤ queue.unseen timer :=
  Nat.add_le_add_left (Nat.zero_le _) _

variable [DecidableEq κ]

theorem unseen_add (queue : WorkQueue κ) (key : κ) (timer : Option Nat) :
    (queue.add key).2.unseen timer ≤ queue.unseen timer + (queue.add key).1.toNat := by
  unfold unseen
  obtain ⟨_, added⟩ | ⟨_, _, _, added⟩ | ⟨_, _, _, added⟩ := queue.add_cases key
  · rw [added]
    exact Nat.le_add_right _ _
  · rw [added]
    exact Nat.le_add_right _ _
  · rw [added]
    simp only [List.length_append, List.length_singleton, Bool.toNat_true]
    omega

theorem unseen_delay (queue : WorkQueue κ) (time : Nat) (key : κ) (timer : Option Nat) :
    (queue.delay time key).2.unseen timer ≤
      queue.unseen timer + (queue.delay time key).1.toNat := by
  unfold unseen
  obtain ⟨delayed, _⟩ | ⟨_, delayed⟩ := queue.delay_cases time key
  · rw [delayed]
    exact Nat.le_add_right _ _
  · rw [delayed]
    have atMostOne := Bool.toNat_le (timer.all (time < ·))
    simp only [countP_enqueue, Bool.toNat_true]
    omega

theorem unseen_complete (queue : WorkQueue κ) (key : κ) (timer : Option Nat) :
    (queue.complete key).2.unseen timer ≤ queue.unseen timer + (queue.complete key).1.toNat := by
  unfold unseen
  obtain ⟨_, completed⟩ | ⟨_, completed⟩ := queue.complete_cases key
  · rw [completed]
    simp only [List.length_append, List.length_singleton, Bool.toNat_true]
    omega
  · rw [completed]
    exact Nat.le_add_right _ _

theorem unseen_promoteEntry (queue : WorkQueue κ) (entry : Delayed κ) (timer : Option Nat) :
    (queue.promoteEntry entry).unseen timer ≤ queue.unseen timer + 1 := by
  obtain ⟨_, promoted⟩ | ⟨_, promoted⟩ := queue.promoteEntry_cases entry
  · let released : WorkQueue κ := { queue with deadlines := queue.deadlines.erase entry.key }
    have added := released.unseen_add entry.key timer
    have atMostOne := Bool.toNat_le (released.add entry.key).1
    rw [promoted]
    change (released.add entry.key).2.unseen timer ≤ released.unseen timer + 1
    omega
  · rw [promoted]
    exact Nat.le_add_right _ _

theorem unseen_promoteEntries (entries : List (Delayed κ)) (queue : WorkQueue κ)
    (timer : Option Nat) :
    (entries.foldl promoteEntry queue).unseen timer ≤ queue.unseen timer + entries.length := by
  induction entries generalizing queue with
  | nil => exact Nat.le_refl _
  | cons entry rest ih =>
      have first := queue.unseen_promoteEntry entry timer
      have later := ih (queue.promoteEntry entry)
      rw [List.foldl_cons, List.length_cons]
      omega

theorem unseen_promote (queue : WorkQueue κ) {now : Nat} {timer : Option Nat}
    (early : ∀ due, timer = some due → now < due) :
    (queue.promote now).unseen timer ≤ queue.unseen timer := by
  let due := queue.delayed.takeWhile (·.time ≤ now)
  let left := queue.delayed.dropWhile (·.time ≤ now)
  let counts : Delayed κ → Bool := fun entry => timer.all (entry.time < ·)
  have promoted := unseen_promoteEntries due { queue with delayed := left } timer
  -- Whoever sleeps longer has not seen the entries that are due now, so that each of them
  -- may become a ready key.
  have allDue : due.countP counts = due.length := by
    rw [List.countP_eq_length]
    intro entry member
    have past : entry.time ≤ now := by simpa using List.mem_takeWhile_imp member
    change timer.all (entry.time < ·) = true
    cases timer with
    | none => rfl
    | some time =>
        have later := early time rfl
        simp only [Option.all_some, decide_eq_true_eq]
        omega
  have whole : queue.delayed.countP counts = due.countP counts + left.countP counts := by
    rw [← List.countP_append, List.takeWhile_append_dropWhile]
  have before : queue.unseen timer = queue.ready.length + queue.delayed.countP counts := rfl
  have between : ({ queue with delayed := left } : WorkQueue κ).unseen timer =
      queue.ready.length + left.countP counts := rfl
  change (due.foldl promoteEntry { queue with delayed := left }).unseen timer ≤ _
  omega

structure Timetable (queue : WorkQueue κ) : Prop where
  lined : queue.Lined
  ordered : queue.delayed.Pairwise (·.time ≤ ·.time)
  closed_line : queue.closed = true → queue.delayed = []

namespace Timetable

variable {queue other : WorkQueue κ}

theorem of_lists (timetable : queue.Timetable) (delayed : other.delayed = queue.delayed)
    (deadlines : other.deadlines = queue.deadlines) (closed : other.closed = queue.closed) :
    other.Timetable := by
  constructor
  · intro key time found
    rw [deadlines] at found
    rw [delayed]
    exact timetable.lined key time found
  · rw [delayed]
    exact timetable.ordered
  · rw [closed, delayed]
    exact timetable.closed_line

theorem empty : (WorkQueue.empty : WorkQueue κ).Timetable :=
  ⟨fun _ _ found => (nomatch found), List.Pairwise.nil, fun _ => rfl⟩

theorem add (timetable : queue.Timetable) (key : κ) : (queue.add key).2.Timetable :=
  timetable.of_lists (queue.add_delayed key) (queue.add_deadlines key) (queue.add_closed key)

theorem complete (timetable : queue.Timetable) (key : κ) : (queue.complete key).2.Timetable :=
  timetable.of_lists (queue.complete_delayed key) (queue.complete_deadlines key)
    (queue.complete_closed key)

theorem delay (timetable : queue.Timetable) (time : Nat) (key : κ) :
    (queue.delay time key).2.Timetable := by
  refine ⟨timetable.lined.delay time key, ?_, ?_⟩
  · obtain ⟨delayed, _⟩ | ⟨_, delayed⟩ := queue.delay_cases time key
    · rw [delayed]
      exact timetable.ordered
    · rw [delayed]
      exact pairwise_enqueue timetable.ordered _
  · intro closed
    rw [delay_closed] at closed
    rw [queue.delay_of_closed closed]
    exact timetable.closed_line closed

theorem close (queue : WorkQueue κ) : queue.close.Timetable :=
  ⟨fun _ _ found => (nomatch found), List.Pairwise.nil, fun _ => rfl⟩

theorem promote (timetable : queue.Timetable) (now : Nat) : (queue.promote now).Timetable := by
  refine ⟨timetable.lined.promote now, ?_, ?_⟩
  · rw [promote_delayed]
    exact timetable.ordered.sublist (List.dropWhile_sublist _)
  · intro closed
    rw [promote_closed] at closed
    rw [promote_delayed, timetable.closed_line closed]
    rfl

theorem handOut (timetable : queue.Timetable) : queue.handOut.2.Timetable := by
  obtain ⟨_, _, _, handed⟩ | ⟨_, _, handed⟩ | ⟨_, _, handed⟩ := queue.handOut_cases
  · rw [handed]
    exact timetable.of_lists rfl rfl rfl
  all_goals rw [handed]; exact timetable

theorem take (timetable : queue.Timetable) (now : Nat) : (queue.take now).2.Timetable :=
  (timetable.promote now).handOut

end Timetable

/-- What a worker gets that looks, and what it leaves unseen for those that sleep longer. -/
theorem Timetable.look_cases {queue : WorkQueue κ} (timetable : queue.Timetable) (now : Nat) :
    (∃ key rest, queue.take now = (.item key, rest) ∧ rest.closed = queue.closed ∧
      ∀ timer, (∀ due, timer = some due → now < due) →
        rest.unseen timer + 1 ≤ queue.unseen timer) ∨
    (∃ rest, queue.take now = (.closed, rest) ∧ rest.closed = queue.closed ∧
      ∀ timer, rest.unseen timer = 0) ∨
    (∃ due rest, queue.take now = (.wait due, rest) ∧ rest.closed = queue.closed ∧
      queue.closed = false ∧ rest.unseen due = 0 ∧
      ∀ timer, (∀ due, timer = some due → now < due) →
        rest.unseen timer ≤ queue.unseen timer) := by
  have same := queue.promote_closed now
  obtain ⟨key, others, line, handed⟩ | ⟨none, closed, handed⟩ | ⟨none, isOpen, handed⟩ :=
    (queue.promote now).handOut_cases
  · refine .inl ⟨key, _, handed, same, fun timer early => ?_⟩
    have promoted := queue.unseen_promote early
    have one : (queue.promote now).unseen timer = others.length + 1 + _ :=
      congrArg (· + _) (congrArg List.length line)
    unfold unseen at promoted one ⊢
    simp only at one ⊢
    omega
  · refine .inr (.inl ⟨_, handed, same, fun timer => ?_⟩)
    unfold unseen
    rw [none, (timetable.promote now).closed_line closed]
    rfl
  · refine .inr (.inr ⟨_, _, handed, same, same.symm.trans isOpen, ?_, ?_⟩)
    · exact unseen_head (timetable.promote now).ordered none
    · exact fun timer early => queue.unseen_promote early

end WorkQueue

/-! ### The line of workers -/

namespace PoolStage

def standing : PoolStage κ → Bool
  | .entered | .waiting _ | .leaving _ => true
  | .starting | .holding _ | .gone => false

def attending : PoolStage κ → Bool
  | .entered | .waiting _ => true
  | .starting | .leaving _ | .holding _ | .gone => false

end PoolStage

namespace WorkerPool

structure Orderly (size : Nat) (pool : WorkerPool κ) : Prop where
  single : pool.signal.waiters.Nodup
  apart : ∀ worker ∈ pool.signal.waiters, worker ∉ pool.signal.woken
  standing : ∀ worker, worker ∈ pool.signal.waiters ∨ worker ∈ pool.signal.woken →
    (pool.stages worker).standing = true
  attending : ∀ worker, (pool.stages worker).attending = true →
    worker ∈ pool.signal.waiters ∨ worker ∈ pool.signal.woken
  permit : pool.signal.permit = true → pool.signal.waiters = []
  absent : ∀ worker, size ≤ worker → pool.stages worker = .gone

structure Waits (pool : WorkerPool κ) (worker : TaskId) (timer : Option Nat) : Prop where
  stage : pool.stages worker = .waiting timer
  inLine : worker ∈ pool.signal.waiters

/-- A worker will look at the queue, or was called; those that are behind the sleeper in line
are called before the sleeper has nobody behind it. -/
def Alert (pool : WorkerPool κ) (sleeper worker : TaskId) : Prop :=
  pool.stages worker = .starting ∨ worker ∈ pool.signal.woken ∨
    [sleeper, worker].Sublist pool.signal.waiters ∧ (pool.stages worker).attending = true

structure Aside (worker : TaskId) (pool next : WorkerPool κ) : Prop where
  stages : ∀ other, other ≠ worker → next.stages other = pool.stages other
  waiters : next.signal.waiters.filter (· ≠ worker) = pool.signal.waiters.filter (· ≠ worker)
  woken : ∀ other, other ≠ worker → (other ∈ next.signal.woken ↔ other ∈ pool.signal.woken)

namespace Aside

variable {worker : TaskId} {pool next : WorkerPool κ}

theorem mem_waiters (aside : Aside worker pool next) {other : TaskId} (apart : other ≠ worker) :
    other ∈ next.signal.waiters ↔ other ∈ pool.signal.waiters := by
  have both : other ∈ next.signal.waiters.filter (· ≠ worker) ↔
      other ∈ pool.signal.waiters.filter (· ≠ worker) := by rw [aside.waiters]
  simpa [apart] using both

theorem sublist (aside : Aside worker pool next) {first second : TaskId}
    (firstApart : first ≠ worker) (secondApart : second ≠ worker)
    (behind : [first, second].Sublist pool.signal.waiters) :
    [first, second].Sublist next.signal.waiters := by
  have kept := behind.filter (· ≠ worker)
  rw [← aside.waiters] at kept
  have both : [first, second].filter (· ≠ worker) = [first, second] := by
    simp [firstApart, secondApart]
  rw [both] at kept
  exact kept.trans List.filter_sublist

theorem waits (aside : Aside worker pool next) {other : TaskId} {timer : Option Nat}
    (apart : other ≠ worker) (waits : next.Waits other timer) : pool.Waits other timer :=
  ⟨(aside.stages other apart).symm.trans waits.stage, (aside.mem_waiters apart).mp waits.inLine⟩

theorem alert (aside : Aside worker pool next) {sleeper other : TaskId}
    (sleeperApart : sleeper ≠ worker) (apart : other ≠ worker)
    (alert : pool.Alert sleeper other) : next.Alert sleeper other := by
  unfold Alert at alert ⊢
  rw [aside.stages other apart, aside.woken other apart]
  rcases alert with starting | called | ⟨behind, attending⟩
  · exact .inl starting
  · exact .inr (.inl called)
  · exact .inr (.inr ⟨aside.sublist sleeperApart apart behind, attending⟩)

end Aside

theorem Orderly.turn {size : Nat} {worker : TaskId} {pool next : WorkerPool κ}
    (orderly : pool.Orderly size) (aside : Aside worker pool next)
    (present : pool.stages worker ≠ .gone) (single : next.signal.waiters.Nodup)
    (apart : worker ∈ next.signal.waiters → worker ∉ next.signal.woken)
    (standing : worker ∈ next.signal.waiters ∨ worker ∈ next.signal.woken →
      (next.stages worker).standing = true)
    (attending : (next.stages worker).attending = true →
      worker ∈ next.signal.waiters ∨ worker ∈ next.signal.woken)
    (permit : next.signal.permit = true → next.signal.waiters = []) : next.Orderly size := by
  refine ⟨single, ?_, ?_, ?_, permit, ?_⟩
  · intro other inLine
    by_cases same : other = worker
    · subst same
      exact apart inLine
    · rw [aside.woken other same]
      exact orderly.apart other ((aside.mem_waiters same).mp inLine)
  · intro other
    by_cases same : other = worker
    · subst same
      exact standing
    · rw [aside.woken other same, aside.mem_waiters same, aside.stages other same]
      exact orderly.standing other
  · intro other
    by_cases same : other = worker
    · subst same
      exact attending
    · rw [aside.woken other same, aside.mem_waiters same, aside.stages other same]
      exact orderly.attending other
  · intro other outside
    have apart : other ≠ worker := by
      rintro rfl
      exact present (orderly.absent other outside)
    rw [aside.stages other apart]
    exact orderly.absent other outside

theorem Orderly.out {size : Nat} {pool : WorkerPool κ} (orderly : pool.Orderly size)
    {worker : TaskId} (elsewhere : (pool.stages worker).standing = false) :
    worker ∉ pool.signal.waiters ∧ worker ∉ pool.signal.woken := by
  constructor
  · intro inLine
    rw [orderly.standing worker (.inl inLine)] at elsewhere
    cases elsewhere
  · intro called
    rw [orderly.standing worker (.inr called)] at elsewhere
    cases elsewhere

theorem Orderly.summon {size : Nat} {pool next : WorkerPool κ} {oldest : TaskId}
    {behind : List TaskId} (orderly : pool.Orderly size)
    (line : pool.signal.waiters = oldest :: behind)
    (signal : next.signal =
      { pool.signal with waiters := behind, woken := pool.signal.woken ++ [oldest] })
    (stages : next.stages = pool.stages) : next.Orderly size := by
  have single := orderly.single
  rw [line] at single
  obtain ⟨once, others⟩ := List.nodup_cons.mp single
  have members : ∀ worker, worker ∈ next.signal.waiters ∨ worker ∈ next.signal.woken ↔
      worker ∈ pool.signal.waiters ∨ worker ∈ pool.signal.woken := by
    intro worker
    rw [signal, line]
    simp only [List.mem_append, List.mem_cons]
    tauto
  constructor
  · rw [signal]
    exact others
  · rw [signal]
    intro worker inLine called
    rcases List.mem_append.mp called with before | own
    · refine orderly.apart worker ?_ before
      rw [line]
      exact List.mem_cons_of_mem oldest inLine
    · rw [List.mem_singleton.mp own] at inLine
      exact once inLine
  · intro worker
    rw [members, stages]
    exact orderly.standing worker
  · intro worker
    rw [members, stages]
    exact orderly.attending worker
  · intro permit
    rw [signal] at permit
    rw [orderly.permit permit] at line
    cases line
  · rw [stages]
    exact orderly.absent

theorem aside_place (pool : WorkerPool κ) (worker : TaskId) (stage : PoolStage κ) :
    Aside worker pool (pool.place worker stage) :=
  ⟨fun _ apart => Function.update_of_ne apart _ _, rfl, fun _ _ => Iff.rfl⟩

/-- Nobody has anything to do but wait: no call is due, and each worker waits uncalled for a
time that has not come, works on a key, or is gone. -/
structure Quiet (pool : WorkerPool κ) : Prop where
  calls : pool.calls = 0
  callsToAll : pool.callsToAll = 0
  workers : ∀ worker,
    (∃ timer, pool.stages worker = .waiting timer ∧ worker ∉ pool.signal.woken ∧
      ∀ due, timer = some due → pool.clock < due) ∨
    (∃ key, pool.stages worker = .holding key) ∨ pool.stages worker = .gone

theorem Quiet.waiting {size : Nat} {pool : WorkerPool κ} (quiet : pool.Quiet)
    (orderly : pool.Orderly size) {worker : TaskId}
    (standing : (pool.stages worker).standing = true) :
    ∃ timer, pool.Waits worker timer ∧ worker ∉ pool.signal.woken ∧
      ∀ due, timer = some due → pool.clock < due := by
  rcases quiet.workers worker with ⟨timer, stage, uncalled, early⟩ | ⟨key, stage⟩ | stage
  · have attending : (pool.stages worker).attending = true := by
      rw [stage]
      rfl
    exact ⟨timer, ⟨stage, (orderly.attending worker attending).resolve_right uncalled⟩,
      uncalled, early⟩
  · rw [stage] at standing
    cases standing
  · rw [stage] at standing
    cases standing

/-! ### What matches the unseen -/

variable [DecidableEq κ]

instance (pool : WorkerPool κ) (sleeper worker : TaskId) : Decidable (pool.Alert sleeper worker) :=
  inferInstanceAs (Decidable (_ ∨ _ ∨ _ ∧ _))

def watchers (pool : WorkerPool κ) (size : Nat) (sleeper : TaskId) : Finset TaskId :=
  (Finset.range size).filter (pool.Alert sleeper)

theorem mem_watchers {pool : WorkerPool κ} {size : Nat} {sleeper worker : TaskId} :
    worker ∈ pool.watchers size sleeper ↔ worker < size ∧ pool.Alert sleeper worker := by
  unfold watchers
  rw [Finset.mem_filter, Finset.mem_range]

theorem Aside.watchers_subset {worker : TaskId} {pool next : WorkerPool κ}
    (aside : Aside worker pool next) {size : Nat} {sleeper : TaskId} (apart : sleeper ≠ worker) :
    pool.watchers size sleeper ⊆ insert worker (next.watchers size sleeper) := by
  intro other member
  obtain ⟨inside, alert⟩ := mem_watchers.mp member
  by_cases same : other = worker
  · exact Finset.mem_insert.mpr (.inl same)
  · exact Finset.mem_insert_of_mem (mem_watchers.mpr ⟨inside, aside.alert apart same alert⟩)

theorem Aside.card_watchers_le {worker : TaskId} {pool next : WorkerPool κ}
    (aside : Aside worker pool next) {size : Nat} {sleeper : TaskId} (apart : sleeper ≠ worker) :
    (pool.watchers size sleeper).card ≤ (next.watchers size sleeper).card + 1 :=
  (Finset.card_le_card (aside.watchers_subset apart)).trans (Finset.card_insert_le _ _)

theorem Aside.card_watchers_le_of_alert {worker : TaskId} {pool next : WorkerPool κ}
    (aside : Aside worker pool next) {size : Nat} {sleeper : TaskId} (apart : sleeper ≠ worker)
    (own : pool.Alert sleeper worker → next.Alert sleeper worker) :
    (pool.watchers size sleeper).card ≤ (next.watchers size sleeper).card := by
  refine Finset.card_le_card fun other member => ?_
  obtain ⟨inside, alert⟩ := mem_watchers.mp member
  refine mem_watchers.mpr ⟨inside, ?_⟩
  by_cases same : other = worker
  · subst same
    exact own alert
  · exact aside.alert apart same alert

/-- What a worker that waits has not seen is matched by calls and by other workers, and after
the closing everybody will be called. -/
structure Watchful (size : Nat) (pool : WorkerPool κ) : Prop where
  orderly : pool.Orderly size
  timetable : pool.queue.Timetable
  attentive : ∀ sleeper timer, pool.Waits sleeper timer →
    (∀ due, timer = some due → pool.clock < due) →
      pool.queue.unseen timer ≤ pool.calls + (pool.watchers size sleeper).card
  shut : pool.queue.closed = true → 0 < pool.callsToAll ∨
    ∀ sleeper timer, ¬ pool.Waits sleeper timer

namespace Watchful

variable {size : Nat} {worker : TaskId} {pool next : WorkerPool κ}

/-- A worker that acts may see something, or become inattentive against a call. -/
theorem turn (watchful : pool.Watchful size) (aside : Aside worker pool next)
    (orderly : next.Orderly size) (timetable : next.queue.Timetable)
    (clock : next.clock = pool.clock) (callsToAll : next.callsToAll = pool.callsToAll)
    (closed : next.queue.closed = pool.queue.closed)
    (own : ∀ timer, next.Waits worker timer →
      next.queue.closed = false ∧ next.queue.unseen timer = 0)
    (others : ∀ sleeper timer, sleeper ≠ worker → next.Waits sleeper timer →
      (∀ due, timer = some due → pool.clock < due) →
        (pool.Alert sleeper worker → next.Alert sleeper worker) ∧
            next.queue.unseen timer + pool.calls ≤ pool.queue.unseen timer + next.calls ∨
          next.queue.unseen timer + pool.calls + 1 ≤ pool.queue.unseen timer + next.calls ∨
          next.queue.unseen timer = 0) : next.Watchful size := by
  refine ⟨orderly, timetable, ?_, ?_⟩
  · intro sleeper timer waits early
    rw [clock] at early
    by_cases same : sleeper = worker
    · subst same
      rw [(own timer waits).2]
      exact Nat.zero_le _
    · have before := watchful.attentive sleeper timer (aside.waits same waits) early
      rcases others sleeper timer same waits early with ⟨stays, matched⟩ | matched | nothing
      · have kept : (pool.watchers size sleeper).card ≤ (next.watchers size sleeper).card :=
          aside.card_watchers_le_of_alert same stays
        omega
      · have kept : (pool.watchers size sleeper).card ≤ (next.watchers size sleeper).card + 1 :=
          aside.card_watchers_le same
        omega
      · omega
  · intro shut
    rw [callsToAll]
    refine (watchful.shut (closed.symm.trans shut)).imp_right fun nobody sleeper timer waits => ?_
    by_cases same : sleeper = worker
    · subst same
      rw [(own timer waits).1] at shut
      cases shut
    · exact nobody sleeper timer (aside.waits same waits)

theorem enter (watchful : pool.Watchful size) (starting : pool.stages worker = .starting) :
    (pool.enter worker).Watchful size := by
  have orderly := watchful.orderly
  have present : pool.stages worker ≠ .gone := fun gone => nomatch starting.symm.trans gone
  have elsewhere : (pool.stages worker).standing = false := by
    rw [starting]
    rfl
  obtain ⟨out, uncalled⟩ := orderly.out elsewhere
  have stage : (pool.enter worker).stages worker = .entered := Function.update_self _ _ _
  have stages : ∀ other, other ≠ worker →
      (pool.enter worker).stages other = pool.stages other :=
    fun _ apart => Function.update_of_ne apart _ _
  have notOwn : ∀ timer, ¬ (pool.enter worker).Waits worker timer := by
    intro timer waits
    cases stage.symm.trans waits.stage
  cases permit : pool.signal.permit with
  | true =>
      -- A permit is left only when nobody is in line.
      have signal : (pool.enter worker).signal =
          { waiters := [], permit := false, woken := pool.signal.woken ++ [worker] } := by
        unfold WorkerPool.enter Signal.enter
        rw [orderly.permit permit, permit]
        rfl
      have nobody : ∀ other timer, ¬ (pool.enter worker).Waits other timer := by
        intro other timer waits
        have inLine := waits.inLine
        rw [signal] at inLine
        cases inLine
      have aside : Aside worker pool (pool.enter worker) := by
        refine ⟨stages, ?_, fun other apart => ?_⟩
        · rw [signal, orderly.permit permit]
        · rw [signal]
          simp [apart]
      refine watchful.turn aside ?_ watchful.timetable rfl rfl rfl
        (fun timer waits => absurd waits (notOwn timer))
        (fun other timer _ waits _ => absurd waits (nobody other timer))
      refine orderly.turn aside present ?_ ?_ ?_ ?_ ?_
      all_goals rw [signal]; simp [stage, PoolStage.standing]
  | false =>
      have signal : (pool.enter worker).signal =
          { waiters := pool.signal.waiters ++ [worker], permit := false,
            woken := pool.signal.woken } := by
        unfold WorkerPool.enter Signal.enter
        rw [Signal.filter_ne_self out, permit]
        rfl
      have aside : Aside worker pool (pool.enter worker) := by
        refine ⟨stages, ?_, fun other apart => ?_⟩
        · rw [signal]
          simp
        · rw [signal]
      refine watchful.turn aside ?_ watchful.timetable rfl rfl rfl
        (fun timer waits => absurd waits (notOwn timer)) ?_
      · refine orderly.turn aside present ?_ ?_ ?_ ?_ ?_
        · rw [signal, ← List.concat_eq_append]
          exact orderly.single.concat out
        all_goals rw [signal]; simp [stage, uncalled, PoolStage.standing]
      -- The worker was about to ask; now it stands behind everybody who sleeps.
      · intro sleeper timer apart waits _
        have before : [sleeper].Sublist pool.signal.waiters :=
          List.singleton_sublist.mpr (aside.waits apart waits).inLine
        have behind : [sleeper, worker].Sublist (pool.enter worker).signal.waiters := by
          rw [signal]
          exact before.append (List.Sublist.refl [worker])
        have alert : (pool.enter worker).Alert sleeper worker := by
          refine .inr (.inr ⟨behind, ?_⟩)
          rw [stage]
          rfl
        exact .inl ⟨fun _ => alert, Nat.le_refl _⟩

/-- A worker that has its answer looks at nothing any more; it has seen something itself, or
nothing is left to be seen. -/
theorem answer (watchful : pool.Watchful size) (entered : pool.stages worker = .entered)
    {rest : WorkQueue κ} (timetable : rest.Timetable) (closed : rest.closed = pool.queue.closed)
    (found : Option κ) (more : Nat)
    (seen : ∀ timer, (∀ due, timer = some due → pool.clock < due) →
      rest.unseen timer + 1 ≤ pool.queue.unseen timer ∨ rest.unseen timer = 0) :
    { pool.place worker (.leaving found) with
      queue := rest
      signal := pool.signal.heed worker
      calls := pool.calls + more : WorkerPool κ }.Watchful size := by
  let next : WorkerPool κ :=
    { pool.place worker (.leaving found) with
      queue := rest
      signal := pool.signal.heed worker
      calls := pool.calls + more }
  have present : pool.stages worker ≠ .gone := fun gone => nomatch entered.symm.trans gone
  have stage : next.stages worker = .leaving found := Function.update_self _ _ _
  have aside : Aside worker pool next := by
    refine ⟨(pool.aside_place worker (.leaving found)).stages, rfl, fun other apart => ?_⟩
    change other ∈ pool.signal.woken.filter (· ≠ worker) ↔ _
    simp [apart]
  have orderly : next.Orderly size := by
    refine watchful.orderly.turn aside present watchful.orderly.single ?_ ?_ ?_
      watchful.orderly.permit
    · intro _ called
      simpa using (List.mem_filter.mp called).2
    · intro _
      rw [stage]
      rfl
    · rw [stage]
      nofun
  refine watchful.turn aside orderly timetable rfl rfl closed ?_ ?_
  · intro timer waits
    cases stage.symm.trans waits.stage
  · intro sleeper timer _ _ early
    change _ ∨ rest.unseen timer + pool.calls + 1 ≤
      pool.queue.unseen timer + (pool.calls + more) ∨ _
    rcases seen timer early with one | nothing
    · refine .inr (.inl ?_)
      omega
    · exact .inr (.inr nothing)

theorem look (watchful : pool.Watchful size) (entered : pool.stages worker = .entered) :
    (pool.look worker).Watchful size := by
  have timetable := watchful.timetable.take pool.clock
  obtain ⟨key, rest, taken, closed, seen⟩ | ⟨rest, taken, closed, seen⟩ |
      ⟨due, rest, taken, closed, isOpen, allSeen, seen⟩ :=
    watchful.timetable.look_cases pool.clock
  · rw [taken] at timetable
    rw [look_item taken]
    exact watchful.answer entered timetable closed (some key) _ fun timer early =>
      .inl (seen timer early)
  · rw [taken] at timetable
    rw [look_closed taken]
    exact watchful.answer entered timetable closed none 0 fun timer _ => .inr (seen timer)
  · rw [taken] at timetable
    rw [look_wait taken]
    let next : WorkerPool κ := { pool.place worker (.waiting due) with queue := rest }
    have present : pool.stages worker ≠ .gone := fun gone => nomatch entered.symm.trans gone
    have inLine : worker ∈ pool.signal.waiters ∨ worker ∈ pool.signal.woken := by
      apply watchful.orderly.attending
      rw [entered]
      rfl
    have stage : next.stages worker = .waiting due := Function.update_self _ _ _
    have aside : Aside worker pool next :=
      ⟨(pool.aside_place worker (.waiting due)).stages, rfl, fun _ _ => Iff.rfl⟩
    have orderly : next.Orderly size := by
      refine watchful.orderly.turn aside present watchful.orderly.single
        (watchful.orderly.apart worker) ?_ (fun _ => inLine) watchful.orderly.permit
      rw [stage]
      exact fun _ => rfl
    refine watchful.turn aside orderly timetable rfl rfl closed ?_ ?_
    · intro timer waits
      cases stage.symm.trans waits.stage
      exact ⟨closed.trans isOpen, allSeen⟩
    -- It keeps its place in line, or its call, and looks again for the others.
    · intro sleeper timer _ _ early
      refine .inl ⟨fun alert => ?_, Nat.add_le_add_right (seen timer early) _⟩
      rcases alert with starting | called | ⟨behind, _⟩
      · cases entered.symm.trans starting
      · exact .inr (.inl called)
      · refine .inr (.inr ⟨behind, ?_⟩)
        rw [stage]
        rfl

theorem outOfLine (watchful : pool.Watchful size) (present : pool.stages worker ≠ .gone)
    {stage : PoolStage κ} (elsewhere : stage.standing = false) (calls : Nat)
    (missed : ∀ sleeper, pool.Alert sleeper worker → stage = .starting ∨ pool.calls < calls)
    (kept : pool.calls ≤ calls) :
    { pool.place worker stage with
      signal := (pool.signal.leave worker).heed worker
      calls := calls : WorkerPool κ }.Watchful size := by
  let next : WorkerPool κ :=
    { pool.place worker stage with
      signal := (pool.signal.leave worker).heed worker
      calls := calls }
  have placed : next.stages worker = stage := Function.update_self _ _ _
  have out : worker ∉ next.signal.waiters := by
    intro inLine
    simpa using (List.mem_filter.mp inLine).2
  have uncalled : worker ∉ next.signal.woken := by
    intro called
    simpa using (List.mem_filter.mp called).2
  have aside : Aside worker pool next := by
    refine ⟨(pool.aside_place worker stage).stages, ?_, fun other apart => ?_⟩
    · change (pool.signal.waiters.filter (· ≠ worker)).filter (· ≠ worker) = _
      exact Signal.filter_ne_self out
    · change other ∈ pool.signal.woken.filter (· ≠ worker) ↔ _
      simp [apart]
  have orderly : next.Orderly size := by
    refine watchful.orderly.turn aside present (watchful.orderly.single.filter _)
      (fun inLine => absurd inLine out) ?_ ?_ ?_
    · rintro (inLine | called)
      · exact absurd inLine out
      · exact absurd called uncalled
    · rw [placed]
      intro attending
      cases stage with
      | entered | waiting timer => cases elsewhere
      | starting | leaving found | holding key | gone => cases attending
    · intro permit
      change pool.signal.waiters.filter (· ≠ worker) = []
      rw [watchful.orderly.permit permit]
      rfl
  refine watchful.turn aside orderly watchful.timetable rfl rfl rfl ?_ ?_
  · intro timer waits
    exact absurd waits.inLine out
  · intro sleeper timer _ _ _
    change (_ ∧ pool.queue.unseen timer + pool.calls ≤ pool.queue.unseen timer + calls) ∨
      pool.queue.unseen timer + pool.calls + 1 ≤ pool.queue.unseen timer + calls ∨ _
    by_cases alert : pool.Alert sleeper worker
    · rcases missed sleeper alert with starting | more
      · refine .inl ⟨fun _ => .inl (placed.trans starting), ?_⟩
        omega
      · refine .inr (.inl ?_)
        omega
    · refine .inl ⟨fun other => absurd other alert, ?_⟩
      omega

theorem resume (watchful : pool.Watchful size) {timer : Option Nat}
    (waiting : pool.stages worker = .waiting timer) : (pool.resume worker timer).Watchful size := by
  have present : pool.stages worker ≠ .gone := fun gone => nomatch waiting.symm.trans gone
  unfold WorkerPool.resume
  split
  · exact watchful.outOfLine present rfl pool.calls (fun _ _ => .inl rfl) (Nat.le_refl _)
  · exact watchful

theorem depart (watchful : pool.Watchful size) {found : Option κ}
    (leaving : pool.stages worker = .leaving found) : (pool.depart worker found).Watchful size := by
  have present : pool.stages worker ≠ .gone := fun gone => nomatch leaving.symm.trans gone
  have elsewhere : (found.elim .gone .holding : PoolStage κ).standing = false := by
    cases found <;> rfl
  refine watchful.outOfLine present elsewhere _ ?_ (Nat.le_add_right _ _)
  intro sleeper alert
  rcases alert with starting | called | ⟨_, attending⟩
  · cases leaving.symm.trans starting
  -- Called after it had its answer, it leaves the call to another one.
  · refine .inr ?_
    rw [if_pos called]
    exact Nat.lt_succ_self _
  · rw [leaving] at attending
    cases attending

theorem start (watchful : pool.Watchful size) {key : κ}
    (holding : pool.stages worker = .holding key) :
    (pool.place worker .starting).Watchful size := by
  have present : pool.stages worker ≠ .gone := fun gone => nomatch holding.symm.trans gone
  have elsewhere : (pool.stages worker).standing = false := by
    rw [holding]
    rfl
  obtain ⟨out, uncalled⟩ := watchful.orderly.out elsewhere
  have aside := pool.aside_place worker .starting
  have stage : (pool.place worker .starting).stages worker = .starting :=
    Function.update_self _ _ _
  have orderly : (pool.place worker .starting).Orderly size := by
    refine watchful.orderly.turn aside present watchful.orderly.single
      (watchful.orderly.apart worker) ?_ ?_ watchful.orderly.permit
    · exact fun either => absurd either (not_or.mpr ⟨out, uncalled⟩)
    · rw [stage]
      nofun
  refine watchful.turn aside orderly watchful.timetable rfl rfl rfl ?_ ?_
  · exact fun timer waits => absurd waits.inLine out
  · exact fun sleeper timer _ _ _ => .inl ⟨fun _ => .inl stage, Nat.le_refl _⟩

theorem stay (watchful : pool.Watchful size) {clock calls callsToAll : Nat} {queue : WorkQueue κ}
    (later : pool.clock ≤ clock) (timetable : queue.Timetable)
    (closed : queue.closed = true →
      pool.queue.closed = true ∧ callsToAll = pool.callsToAll ∨ 0 < callsToAll)
    (seen : ∀ timer, queue.unseen timer + pool.calls ≤ pool.queue.unseen timer + calls) :
    ({ pool with clock, queue, calls, callsToAll } : WorkerPool κ).Watchful size := by
  let next : WorkerPool κ := { pool with clock, queue, calls, callsToAll }
  obtain ⟨single, apart, standing, attending, permit, absent⟩ := watchful.orderly
  have sameWaits : ∀ sleeper timer, next.Waits sleeper timer → pool.Waits sleeper timer :=
    fun _ _ waits => ⟨waits.stage, waits.inLine⟩
  refine ⟨⟨single, apart, standing, attending, permit, absent⟩, timetable, ?_, ?_⟩
  · intro sleeper timer waits early
    have before := watchful.attentive sleeper timer (sameWaits sleeper timer waits)
      fun due same => Nat.lt_of_le_of_lt later (early due same)
    have matched := seen timer
    change queue.unseen timer ≤ calls + (pool.watchers size sleeper).card
    omega
  · intro shut
    rcases closed shut with ⟨before, same⟩ | due
    · refine (watchful.shut before).imp (fun due => Nat.lt_of_lt_of_eq due same.symm) ?_
      exact fun nobody sleeper timer waits =>
        nobody sleeper timer (sameWaits sleeper timer waits)
    · exact .inl due

theorem change (watchful : pool.Watchful size) {changed : Bool × WorkQueue κ}
    (timetable : changed.2.Timetable) (closed : changed.2.closed = pool.queue.closed)
    (seen : ∀ timer, changed.2.unseen timer ≤ pool.queue.unseen timer + changed.1.toNat) :
    (pool.change changed).Watchful size := by
  refine watchful.stay (Nat.le_refl _) timetable ?_ fun timer => ?_
  · exact fun shut => .inl ⟨closed.symm.trans shut, rfl⟩
  · have matched := seen timer
    change changed.2.unseen timer + pool.calls ≤ _ + (pool.calls + changed.1.toNat)
    omega

theorem act (watchful : pool.Watchful size) (worker : TaskId) :
    (pool.act worker).Watchful size := by
  unfold WorkerPool.act
  cases stage : pool.stages worker with
  | starting => exact watchful.enter stage
  | entered => exact watchful.look stage
  | waiting timer => exact watchful.resume stage
  | leaving found => exact watchful.depart stage
  | holding key =>
      have completed : (pool.change (pool.queue.complete key)).Watchful size :=
        watchful.change (watchful.timetable.complete key) (pool.queue.complete_closed key)
          (pool.queue.unseen_complete key)
      exact completed.start stage
  | gone => exact watchful

/-- The oldest in line becomes a watcher for all that are behind it. -/
theorem watchers_summoned {oldest : TaskId} {behind : List TaskId}
    (orderly : pool.Orderly size) (line : pool.signal.waiters = oldest :: behind)
    (signal : next.signal =
      { pool.signal with waiters := behind, woken := pool.signal.woken ++ [oldest] })
    (stages : next.stages = pool.stages) {sleeper : TaskId} (inLine : sleeper ∈ behind) :
    (pool.watchers size sleeper).card + 1 ≤ (next.watchers size sleeper).card := by
  have single := orderly.single
  rw [line] at single
  obtain ⟨once, _⟩ := List.nodup_cons.mp single
  have first : oldest ∈ pool.signal.waiters := by
    rw [line]
    exact List.mem_cons_self
  have standing := orderly.standing oldest (.inl first)
  have apart : sleeper ≠ oldest := fun same => once (same ▸ inLine)
  have stillBehind : ∀ other, [sleeper, other].Sublist pool.signal.waiters →
      [sleeper, other].Sublist behind := by
    intro other sublist
    rw [line] at sublist
    cases sublist with
    | cons _ later => exact later
    | cons_cons _ later => exact absurd rfl apart
  -- The oldest is before the sleeper, so that it counts only from now on.
  have unwatchful : oldest ∉ pool.watchers size sleeper := by
    intro member
    rcases (mem_watchers.mp member).2 with starting | called | ⟨sublist, _⟩
    · rw [starting] at standing
      cases standing
    · exact orderly.apart oldest first called
    · exact once ((stillBehind oldest sublist).subset (by simp))
  have inside : oldest < size := by
    refine Nat.lt_of_not_le fun outside => ?_
    rw [orderly.absent oldest outside] at standing
    cases standing
  rw [← Finset.card_insert_of_notMem unwatchful]
  refine Finset.card_le_card fun other member => ?_
  rw [mem_watchers]
  unfold Alert
  rw [signal, stages]
  rcases Finset.mem_insert.mp member with rfl | before
  · exact ⟨inside, .inr (.inl (List.mem_append_right _ (List.mem_singleton.mpr rfl)))⟩
  · obtain ⟨bounded, starting | called | ⟨sublist, attending⟩⟩ := mem_watchers.mp before
    · exact ⟨bounded, .inl starting⟩
    · exact ⟨bounded, .inr (.inl (List.mem_append_left _ called))⟩
    · exact ⟨bounded, .inr (.inr ⟨stillBehind other sublist, attending⟩)⟩

theorem of_empty (watchful : pool.Watchful size) (stages : next.stages = pool.stages)
    (queue : next.queue = pool.queue) (nobody : next.signal.waiters = [])
    (called : ∀ worker, worker ∈ next.signal.woken ↔
      worker ∈ pool.signal.waiters ∨ worker ∈ pool.signal.woken) : next.Watchful size := by
  have noneWaits : ∀ sleeper timer, ¬ next.Waits sleeper timer := by
    intro sleeper timer waits
    have inLine := waits.inLine
    rw [nobody] at inLine
    cases inLine
  have members : ∀ worker, worker ∈ next.signal.waiters ∨ worker ∈ next.signal.woken ↔
      worker ∈ pool.signal.waiters ∨ worker ∈ pool.signal.woken := by
    intro worker
    rw [nobody, called]
    simp
  refine ⟨⟨?_, ?_, ?_, ?_, fun _ => nobody, ?_⟩, ?_, ?_, fun _ => .inr noneWaits⟩
  · rw [nobody]
    exact List.nodup_nil
  · rw [nobody]
    exact fun _ => nofun
  · intro worker
    rw [members, stages]
    exact watchful.orderly.standing worker
  · intro worker
    rw [members, stages]
    exact watchful.orderly.attending worker
  · rw [stages]
    exact watchful.orderly.absent
  · rw [queue]
    exact watchful.timetable
  · exact fun sleeper timer waits _ => absurd waits (noneWaits sleeper timer)

theorem call (watchful : pool.Watchful size) : pool.call.Watchful size := by
  unfold WorkerPool.call
  split
  · exact watchful
  · next rest due =>
      let next : WorkerPool κ := { pool with calls := rest, signal := pool.signal.notifyOne }
      cases line : pool.signal.waiters with
      | nil =>
          have signal : next.signal = { pool.signal with waiters := [], permit := true } := by
            change pool.signal.notifyOne = _
            unfold Signal.notifyOne
            rw [line]
          refine watchful.of_empty rfl rfl (congrArg Signal.waiters signal) fun worker => ?_
          change worker ∈ next.signal.woken ↔ _
          rw [signal, line]
          simp
      | cons oldest behind =>
          have signal : next.signal =
              { pool.signal with waiters := behind, woken := pool.signal.woken ++ [oldest] } := by
            change pool.signal.notifyOne = _
            unfold Signal.notifyOne
            rw [line]
          have waits : ∀ sleeper timer, next.Waits sleeper timer →
              sleeper ∈ behind ∧ pool.Waits sleeper timer := by
            intro sleeper timer waits
            have inLine := waits.inLine
            rw [signal] at inLine
            refine ⟨inLine, waits.stage, ?_⟩
            rw [line]
            exact List.mem_cons_of_mem oldest inLine
          refine ⟨watchful.orderly.summon line signal rfl, watchful.timetable, ?_, ?_⟩
          · intro sleeper timer waiting early
            obtain ⟨inLine, before⟩ := waits sleeper timer waiting
            have matched := watchful.attentive sleeper timer before early
            have gained := watchers_summoned watchful.orderly line signal rfl inLine
            change pool.queue.unseen timer ≤ rest + (next.watchers size sleeper).card
            omega
          · intro shut
            exact (watchful.shut shut).imp_right fun nobody sleeper timer waiting =>
              nobody sleeper timer (waits sleeper timer waiting).2

theorem callAll (watchful : pool.Watchful size) : pool.callAll.Watchful size := by
  unfold WorkerPool.callAll
  split
  · exact watchful
  · refine watchful.of_empty rfl rfl rfl fun worker => ?_
    change worker ∈ pool.signal.woken ++ pool.signal.waiters ↔ _
    rw [List.mem_append, or_comm]

theorem step (watchful : pool.Watchful size) (step : PoolStep κ) :
    (pool.step step).Watchful size := by
  cases step with
  | act worker => exact watchful.act worker
  | add key =>
      exact watchful.change (watchful.timetable.add key) (pool.queue.add_closed key)
        (pool.queue.unseen_add key)
  | addAfter read delay key =>
      change (pool.change (if delay = 0 then _ else _)).Watchful size
      split
      · exact watchful.change (watchful.timetable.add key) (pool.queue.add_closed key)
          (pool.queue.unseen_add key)
      · exact watchful.change (watchful.timetable.delay _ key) (pool.queue.delay_closed _ key)
          (pool.queue.unseen_delay _ key)
  | close =>
      refine watchful.stay (Nat.le_refl _) (.close pool.queue) ?_ fun timer => ?_
      · exact fun _ => .inr (Nat.zero_lt_succ _)
      · exact Nat.add_le_add_right (pool.queue.unseen_close timer) _
  | call => exact watchful.call
  | callAll => exact watchful.callAll
  | nudge =>
      refine watchful.stay (Nat.le_refl _) watchful.timetable (fun shut => .inl ⟨shut, rfl⟩) ?_
      exact fun timer => Nat.add_le_add_left (Nat.le_succ _) _
  | advance span =>
      exact watchful.stay (Nat.le_add_right _ _) watchful.timetable
        (fun shut => .inl ⟨shut, rfl⟩) fun _ => Nat.le_refl _

theorem run (watchful : pool.Watchful size) (steps : List (PoolStep κ)) :
    (pool.run steps).Watchful size := by
  induction steps generalizing pool with
  | nil => exact watchful
  | cons step rest ih => exact ih (watchful.step step)

end Watchful

theorem ofSize_watchful (size : Nat) : (ofSize size : WorkerPool κ).Watchful size := by
  have stages : ∀ worker, (ofSize size : WorkerPool κ).stages worker =
      if worker < size then .starting else .gone := fun _ => rfl
  refine ⟨⟨List.nodup_nil, fun _ => nofun, ?_, ?_, fun _ => rfl, ?_⟩, .empty, ?_, nofun⟩
  · rintro worker (inLine | called)
    · cases inLine
    · cases called
  · intro worker
    rw [stages]
    split <;> nofun
  · intro worker outside
    rw [stages, if_neg (Nat.not_lt.mpr outside)]
  · exact fun _ _ waits => nomatch waits.inLine

theorem Quiet.watchers_last {size : Nat} {pool : WorkerPool κ} (quiet : pool.Quiet)
    (orderly : pool.Orderly size) {earlier : List TaskId} {last : TaskId}
    (line : pool.signal.waiters = earlier ++ [last]) : pool.watchers size last = ∅ := by
  have single := orderly.single
  rw [line] at single
  -- Whoever has somebody behind it is not the last one.
  have ends : (earlier ++ [last]).Pairwise fun first _ => first ≠ last := by
    obtain ⟨_, _, apart⟩ := List.nodup_append.mp single
    refine List.pairwise_append.mpr ⟨?_, List.pairwise_singleton _ _, ?_⟩
    · exact List.pairwise_of_forall_mem_list fun first member _ _ =>
        apart first member last (List.mem_singleton.mpr rfl)
    · exact fun first member _ _ => apart first member last (List.mem_singleton.mpr rfl)
  rw [Finset.eq_empty_iff_forall_notMem]
  intro other member
  rcases (mem_watchers.mp member).2 with starting | called | ⟨behind, _⟩
  · rcases quiet.workers other with ⟨timer, stage, _⟩ | ⟨key, stage⟩ | stage
    all_goals cases starting.symm.trans stage
  · obtain ⟨_, _, uncalled, _⟩ := quiet.waiting orderly (orderly.standing other (.inr called))
    exact uncalled called
  · rw [line] at behind
    exact List.pairwise_iff_forall_sublist.mp ends behind rfl

/-- However many workers take keys, for however long, and however their calls and those of
others come between each other: when nobody has anything to do but wait, and a worker waits
for a key, then no key is ready, the queue is open, and a worker waits that will look at the
queue no later than at the first deadline. -/
theorem run_attends (size : Nat) (steps : List (PoolStep κ)) :
    let pool := (ofSize size : WorkerPool κ).run steps
    pool.Quiet → ∀ worker timer, pool.stages worker = .waiting timer →
      pool.queue.ready = [] ∧ pool.queue.closed = false ∧
        ∃ sleeper wakes, pool.stages sleeper = .waiting wakes ∧
          ∀ key time, pool.queue.deadlines.get? key = some time →
            ∃ due, wakes = some due ∧ due ≤ time := by
  intro pool quiet worker timer stage
  have watchful : pool.Watchful size := (ofSize_watchful size).run steps
  have standing : (pool.stages worker).standing = true := by
    rw [stage]
    rfl
  obtain ⟨_, waits, _, _⟩ := quiet.waiting watchful.orderly standing
  rcases List.eq_nil_or_concat pool.signal.waiters with nobody | ⟨earlier, last, line⟩
  · have inLine := waits.inLine
    rw [nobody] at inLine
    cases inLine
  · rw [List.concat_eq_append] at line
    have inLine : last ∈ pool.signal.waiters := by
      rw [line]
      exact List.mem_append_right earlier (List.mem_singleton.mpr rfl)
    obtain ⟨wakes, lastWaits, _, early⟩ :=
      quiet.waiting watchful.orderly (watchful.orderly.standing last (.inl inLine))
    -- Nothing is left that could match what the last one has not seen.
    have seen := watchful.attentive last wakes lastWaits early
    rw [quiet.calls, quiet.watchers_last watchful.orderly line, Finset.card_empty] at seen
    obtain ⟨noneReady, noneEarlier⟩ := Nat.add_eq_zero_iff.mp (Nat.le_zero.mp seen)
    refine ⟨List.length_eq_zero_iff.mp noneReady, ?_, last, wakes, lastWaits.stage, ?_⟩
    · cases closed : pool.queue.closed with
      | false => rfl
      | true =>
          rcases watchful.shut closed with due | nobody
          · rw [quiet.callsToAll] at due
            cases due
          · exact absurd waits (nobody worker _)
    · intro key time found
      have later := List.countP_eq_zero.mp noneEarlier _ (watchful.timetable.lined key time found)
      cases wakes with
      | none => exact absurd rfl later
      | some due => exact ⟨due, rfl, by simpa using later⟩

/-- A call reaches a worker that has its key already, and goes on to the other one, which
sleeps anew when it finds nothing; it is called again for a delayed key. -/
theorem run_attends_lateCall :
    let pool := (ofSize 2 : WorkerPool Nat).run
      [.act 1, .act 0, .act 0, .add 3, .act 1, .call, .act 1, .call, .act 0, .act 0, .act 0,
        .addAfter 0 5 7, .call, .act 0, .act 0, .act 0]
    pool.Quiet ∧ pool.stages 0 = .waiting (some 5) ∧ pool.queue.deadlines.get? 7 = some 5 ∧
      pool.queue.ready = [] ∧ pool.queue.closed = false ∧
        ∃ sleeper wakes, pool.stages sleeper = .waiting wakes ∧
          ∀ key time, pool.queue.deadlines.get? key = some time →
            ∃ due, wakes = some due ∧ due ≤ time := by
  intro pool
  have first : pool.stages 0 = .waiting (some 5) := by decide +kernel
  have second : pool.stages 1 = .holding 3 := by decide +kernel
  have uncalled : 0 ∉ pool.signal.woken := by decide +kernel
  have early : pool.clock < 5 := by decide +kernel
  have deadline : pool.queue.deadlines.get? 7 = some 5 := by decide +kernel
  have quiet : pool.Quiet := by
    refine ⟨by decide +kernel, by decide +kernel, fun worker => ?_⟩
    match worker with
    | 0 => exact .inl ⟨some 5, first, uncalled, fun due same => Option.some.inj same ▸ early⟩
    | 1 => exact .inr (.inl ⟨3, second⟩)
    | other + 2 =>
        have watchful : pool.Watchful 2 := (ofSize_watchful 2).run _
        exact .inr (.inr (watchful.orderly.absent (other + 2) (Nat.le_add_left 2 other)))
  exact ⟨quiet, first, deadline, run_attends 2 _ quiet 0 (some 5) first⟩

end WorkerPool

end PolicyReplica
