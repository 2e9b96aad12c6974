import Mathlib.Data.List.Nodup
import PolicyReplica.Proofs.Queue.Placement

/-
A shared queue and the workers that use it, in any order of their steps.

A session knows which worker holds which key, and keeps a history of what
happened to the keys. Main statement: whatever the steps were, no key is ready
twice or held by two workers, and a key that needs work is ready or held.
-/

namespace PolicyReplica

inductive QueueEvent (κ : Type) where
  /-- The key was added to the open queue, or its delay ended. -/
  | admitted (key : κ)
  /-- The key became ready. -/
  | entered (key : κ)
  | handed (worker : TaskId) (key : κ)
  deriving DecidableEq, Repr

namespace WorkQueue

variable {κ : Type} [DecidableEq κ]

def admission (queue : WorkQueue κ) (key : κ) : List (QueueEvent κ) :=
  .admitted key :: if (queue.add key).1 then [.entered key] else []

def addEvents (queue : WorkQueue κ) (key : κ) : List (QueueEvent κ) :=
  if queue.closed then [] else queue.admission key

def promoteEvents : List (Delayed κ) → WorkQueue κ → List (QueueEvent κ)
  | [], _ => []
  | entry :: rest, queue =>
      (if queue.deadlines.get? entry.key = some entry.time then
        { queue with deadlines := queue.deadlines.erase entry.key }.admission entry.key
      else []) ++ promoteEvents rest (queue.promoteEntry entry)

def handOutEvents (queue : WorkQueue κ) (worker : TaskId) : List (QueueEvent κ) :=
  match queue.handOut.1 with
  | .item key => [.handed worker key]
  | .closed | .wait _ => []

def takeEvents (queue : WorkQueue κ) (now : Nat) (worker : TaskId) : List (QueueEvent κ) :=
  promoteEvents (queue.delayed.takeWhile (·.time ≤ now))
    { queue with delayed := queue.delayed.dropWhile (·.time ≤ now) } ++
    (queue.promote now).handOutEvents worker

def completeEvents (queue : WorkQueue κ) (key : κ) : List (QueueEvent κ) :=
  if (queue.complete key).1 then [.entered key] else []

end WorkQueue

namespace SharedQueue

variable {κ : Type} [DecidableEq κ]

@[simp] theorem add_queue (shared : SharedQueue κ) (key : κ) :
    (shared.add key).queue = (shared.queue.add key).2 := rfl

theorem addAfter_queue (shared : SharedQueue κ) (now delay : Nat) (key : κ) :
    (shared.addAfter now delay key).queue =
      if delay = 0 then (shared.queue.add key).2
      else (shared.queue.delay (now + delay) key).2 := by
  unfold addAfter
  by_cases immediate : delay = 0
  · rw [if_pos immediate, if_pos immediate]
    rfl
  · rw [if_neg immediate, if_neg immediate]
    rfl

theorem addAfter_limiter (shared : SharedQueue κ) (now delay : Nat) (key : κ) :
    (shared.addAfter now delay key).limiter = shared.limiter := by
  unfold addAfter
  split <;> rfl

theorem addRateLimited_queue (shared : SharedQueue κ) (now : Nat) (key : κ) :
    (shared.addRateLimited now key).queue =
      if (shared.limiter.reserve now key).1 = 0 then (shared.queue.add key).2
      else (shared.queue.delay (now + (shared.limiter.reserve now key).1) key).2 :=
  addAfter_queue { shared with limiter := (shared.limiter.reserve now key).2 } now _ key

@[simp] theorem forget_queue (shared : SharedQueue κ) (key : κ) :
    (shared.forget key).queue = shared.queue := rfl

@[simp] theorem complete_queue (shared : SharedQueue κ) (key : κ) :
    (shared.complete key).queue = (shared.queue.complete key).2 := rfl

end SharedQueue

/-- What callers and workers do with a queue. A caller that asks for a delay has
read the clock before, and that reading may be any. -/
inductive QueueStep (κ : Type) where
  | add (key : κ)
  | addAfter (read delay : Nat) (key : κ)
  | addRateLimited (read : Nat) (key : κ)
  /-- The part of a rate limited addition that concerns the limiter alone. Others may
  come before the part that concerns the queue, which is then an addition after a
  delay. -/
  | reserve (read : Nat) (key : κ)
  | forget (key : κ)
  | take (worker : TaskId)
  | leave (worker : TaskId)
  | complete (worker : TaskId) (key : κ)
  | close
  | advance (span : Nat)
  deriving DecidableEq, Repr

structure QueueSession (κ : Type) where
  clock : Nat
  shared : SharedQueue κ
  /-- The workers with the keys they hold. -/
  held : List (TaskId × κ)
  /-- What happened so far, the oldest first. -/
  history : List (QueueEvent κ)

namespace QueueSession

variable {κ : Type}

def ofInterval (interval : Nat) : QueueSession κ :=
  { clock := 0, shared := .ofInterval interval, held := [], history := [] }

def queue (session : QueueSession κ) : WorkQueue κ :=
  session.shared.queue

def operate (session : QueueSession κ) (operation : SharedQueue κ → SharedQueue κ)
    (events : List (QueueEvent κ)) : QueueSession κ :=
  { session with shared := operation session.shared, history := session.history ++ events }

/-- A session whose workers hold exactly the keys that the queue has given out. -/
structure Sound (session : QueueSession κ) : Prop where
  placed : session.queue.Placed
  held_keys : session.held.map Prod.snd = session.queue.processing
  closed_line : session.queue.closed = true → session.queue.delayed = []

theorem ofInterval_sound (interval : Nat) : (ofInterval interval : QueueSession κ).Sound :=
  { placed := WorkQueue.empty_placed
    held_keys := rfl
    closed_line := fun _ => rfl }

theorem Sound.holder_unique {session : QueueSession κ} (sound : session.Sound)
    {worker other : TaskId} {key : κ} (here : (worker, key) ∈ session.held)
    (there : (other, key) ∈ session.held) : worker = other := by
  have distinct : (session.held.map Prod.snd).Nodup := by
    rw [sound.held_keys]
    exact sound.placed.processingNodup
  have same := List.inj_on_of_nodup_map distinct here there rfl
  exact congrArg Prod.fst same

theorem Sound.held_processing {session : QueueSession κ} (sound : session.Sound)
    (key : κ) : key ∈ session.queue.processing ↔ ∃ worker, (worker, key) ∈ session.held := by
  rw [← sound.held_keys, List.mem_map]
  constructor
  · intro given
    obtain ⟨⟨worker, _⟩, held, rfl⟩ := given
    exact ⟨worker, held⟩
  · intro given
    obtain ⟨worker, held⟩ := given
    exact ⟨(worker, key), held, rfl⟩

theorem Sound.operate {session : QueueSession κ} (sound : session.Sound)
    (operation : SharedQueue κ → SharedQueue κ) (events : List (QueueEvent κ))
    (placed : (operation session.shared).queue.Placed)
    (processing : (operation session.shared).queue.processing = session.queue.processing)
    (closed_line : (operation session.shared).queue.closed = true →
      (operation session.shared).queue.delayed = []) :
    (session.operate operation events).Sound :=
  { placed
    held_keys := sound.held_keys.trans processing.symm
    closed_line }

variable [DecidableEq κ]

def take (session : QueueSession κ) (worker : TaskId) : QueueSession κ :=
  let (handout, shared) := session.shared.take session.clock worker
  { session with
    shared
    held := match handout with
      | .item key => (worker, key) :: session.held
      | .closed | .wait _ => session.held
    history := session.history ++ session.queue.takeEvents session.clock worker }

def complete (session : QueueSession κ) (worker : TaskId) (key : κ) : QueueSession κ :=
  if (worker, key) ∈ session.held then
    { session.operate (·.complete key) (session.queue.completeEvents key) with
      held := session.held.erase (worker, key) }
  else session

def step (session : QueueSession κ) : QueueStep κ → QueueSession κ
  | .add key => session.operate (·.add key) (session.queue.addEvents key)
  | .addAfter read delay key =>
      session.operate (·.addAfter read delay key)
        (if delay = 0 then session.queue.addEvents key else [])
  | .addRateLimited read key =>
      session.operate (·.addRateLimited read key)
        (if (session.shared.limiter.reserve read key).1 = 0 then session.queue.addEvents key
        else [])
  | .reserve read key =>
      session.operate
        (fun shared => { shared with limiter := (shared.limiter.reserve read key).2 }) []
  | .forget key => session.operate (·.forget key) []
  | .take worker => session.take worker
  | .leave worker => session.operate (·.leave worker) []
  | .complete worker key => session.complete worker key
  | .close => session.operate SharedQueue.close []
  | .advance span => { session with clock := session.clock + span }

def run (interval : Nat) (steps : List (QueueStep κ)) : QueueSession κ :=
  steps.foldl step (ofInterval interval)

theorem run_induction {motive : QueueSession κ → Prop} (interval : Nat)
    (start : motive (ofInterval interval))
    (keep : ∀ session step, motive session → motive (session.step step))
    (steps : List (QueueStep κ)) : motive (run interval steps) := by
  unfold run
  generalize ofInterval interval = session at start ⊢
  induction steps generalizing session with
  | nil => exact start
  | cons step rest ih => exact ih _ (keep session step start)

/-! ### What the steps keep -/

theorem Sound.add {session : QueueSession κ} (sound : session.Sound) (key : κ)
    (events : List (QueueEvent κ)) : (session.operate (·.add key) events).Sound := by
  apply sound.operate
  · exact sound.placed.add key
  · exact session.queue.add_processing key
  · intro closed
    change (session.queue.add key).2.closed = true at closed
    rw [WorkQueue.add_closed] at closed
    exact (session.queue.add_delayed key).trans (sound.closed_line closed)

theorem Sound.delay {session : QueueSession κ} (sound : session.Sound) (time : Nat) (key : κ)
    (operation : SharedQueue κ → SharedQueue κ)
    (delays : (operation session.shared).queue = (session.queue.delay time key).2)
    (events : List (QueueEvent κ)) : (session.operate operation events).Sound := by
  apply sound.operate
  · rw [delays]
    exact sound.placed.delay time key
  · rw [delays, WorkQueue.delay_processing]
  · intro closed
    rw [delays, WorkQueue.delay_closed] at closed
    rw [delays, session.queue.delay_of_closed closed]
    exact sound.closed_line closed

theorem Sound.addAfter {session : QueueSession κ} (sound : session.Sound) (time : Nat)
    (immediate : Prop) [Decidable immediate] (key : κ)
    (operation : SharedQueue κ → SharedQueue κ)
    (adds : (operation session.shared).queue =
      if immediate then (session.queue.add key).2 else (session.queue.delay time key).2)
    (events : List (QueueEvent κ)) : (session.operate operation events).Sound := by
  by_cases now : immediate
  · rw [if_pos now] at adds
    obtain ⟨placed, held_keys, closed_line⟩ := sound.add key events
    exact sound.operate operation events (adds ▸ placed)
      (adds ▸ session.queue.add_processing key) (adds ▸ closed_line)
  · rw [if_neg now] at adds
    exact sound.delay time key operation adds events

theorem Sound.take {session : QueueSession κ} (sound : session.Sound) (worker : TaskId) :
    (session.take worker).Sound := by
  have promoted := sound.placed.promote session.clock
  have placed : (session.take worker).queue.Placed := promoted.handOut
  have closed_line : (session.queue.promote session.clock).closed = true →
      (session.queue.promote session.clock).delayed = [] := by
    intro closed
    rw [WorkQueue.promote_closed] at closed
    rw [WorkQueue.promote_delayed, sound.closed_line closed]
    rfl
  have held : (session.queue.promote session.clock).processing = session.held.map Prod.snd := by
    rw [WorkQueue.promote_processing]
    exact sound.held_keys.symm
  refine ⟨placed, ?_, ?_⟩
  · change (match (session.queue.promote session.clock).handOut.1 with
      | .item key => (worker, key) :: session.held
      | .closed | .wait _ => session.held).map Prod.snd =
        (session.queue.promote session.clock).handOut.2.processing
    obtain ⟨key, rest, _, handed⟩ | ⟨_, _, handed⟩ | ⟨_, _, handed⟩ :=
      (session.queue.promote session.clock).handOut_cases
    · rw [handed, held]
      rfl
    all_goals rw [handed, held]
  · change (session.queue.promote session.clock).handOut.2.closed = true →
      (session.queue.promote session.clock).handOut.2.delayed = []
    obtain ⟨key, rest, _, handed⟩ | ⟨_, _, handed⟩ | ⟨_, _, handed⟩ :=
      (session.queue.promote session.clock).handOut_cases <;> rw [handed] <;> exact closed_line

private theorem map_snd_erase {held : List (TaskId × κ)} {worker : TaskId}
    {key : κ} (distinct : (held.map Prod.snd).Nodup) (member : (worker, key) ∈ held) :
    (held.erase (worker, key)).map Prod.snd = (held.map Prod.snd).filter (· ≠ key) := by
  induction held with
  | nil => cases member
  | cons first rest ih =>
      obtain ⟨passed, restDistinct⟩ := List.nodup_cons.mp distinct
      by_cases same : first = (worker, key)
      · subst same
        have kept : (rest.map Prod.snd).filter (· ≠ key) = rest.map Prod.snd := by
          rw [List.filter_eq_self]
          intro other inRest
          have differs : other ≠ key := fun equal => passed (equal ▸ inRest)
          simpa using differs
        simpa using kept.symm
      · have inRest : (worker, key) ∈ rest :=
          (List.mem_cons.mp member).resolve_left fun equal => same equal.symm
        have differs : first.2 ≠ key := fun equal =>
          passed (equal ▸ List.mem_map.mpr ⟨_, inRest, rfl⟩)
        rw [List.erase_cons_tail (by simpa using same), List.map_cons, List.map_cons,
          List.filter_cons_of_pos (by simpa using differs), ih restDistinct inRest]

theorem Sound.complete {session : QueueSession κ} (sound : session.Sound) (worker : TaskId)
    (key : κ) : (session.complete worker key).Sound := by
  unfold QueueSession.complete
  by_cases holds : (worker, key) ∈ session.held
  · rw [if_pos holds]
    have held := (sound.held_processing key).mpr ⟨worker, holds⟩
    have distinct : (session.held.map Prod.snd).Nodup := by
      rw [sound.held_keys]
      exact sound.placed.processingNodup
    refine ⟨sound.placed.complete key held, ?_, ?_⟩
    · refine (map_snd_erase distinct holds).trans ?_
      rw [sound.held_keys]
      exact (session.queue.complete_processing key).symm
    · intro closed
      refine (session.queue.complete_delayed key).trans (sound.closed_line ?_)
      exact (session.queue.complete_closed key).symm.trans closed
  · rw [if_neg holds]
    exact sound

/-- A worker that gives back a key leaves what is delayed, and the limiter. -/
theorem complete_frame (session : QueueSession κ) (worker : TaskId)
    (key : κ) :
    (session.complete worker key).clock = session.clock ∧
      (session.complete worker key).shared.limiter = session.shared.limiter ∧
      (session.complete worker key).queue.deadlines = session.queue.deadlines ∧
      (session.complete worker key).history = session.history ++
        if session.held.contains (worker, key) then session.queue.completeEvents key else [] := by
  unfold complete
  by_cases holds : (worker, key) ∈ session.held
  · rw [if_pos holds, if_pos (List.contains_iff_mem.mpr holds)]
    exact ⟨rfl, rfl, session.queue.complete_deadlines key, rfl⟩
  · rw [if_neg holds, if_neg fun given => holds (List.contains_iff_mem.mp given)]
    exact ⟨rfl, rfl, rfl, (List.append_nil _).symm⟩

theorem Sound.step {session : QueueSession κ} (sound : session.Sound) (step : QueueStep κ) :
    (session.step step).Sound := by
  cases step with
  | add key => exact sound.add key _
  | addAfter read delay key =>
      exact sound.addAfter _ _ key (·.addAfter read delay key)
        (session.shared.addAfter_queue read delay key) _
  | addRateLimited read key =>
      exact sound.addAfter _ _ key (·.addRateLimited read key)
        (session.shared.addRateLimited_queue read key) _
  | reserve read key => exact ⟨sound.placed, sound.held_keys, sound.closed_line⟩
  | forget key => exact ⟨sound.placed, sound.held_keys, sound.closed_line⟩
  | take worker => exact sound.take worker
  | leave worker => exact ⟨sound.placed, sound.held_keys, sound.closed_line⟩
  | complete worker key => exact sound.complete worker key
  | close => exact ⟨sound.placed.close, sound.held_keys, fun _ => rfl⟩
  | advance span => exact ⟨sound.placed, sound.held_keys, sound.closed_line⟩

theorem run_sound (interval : Nat) (steps : List (QueueStep κ)) : (run interval steps).Sound :=
  run_induction interval (ofInterval_sound interval) (fun _ step sound => sound.step step) steps

/-- Whatever callers and workers do, the lists of keys agree and each key has at
most one worker; the workers hold exactly the keys that were given out. -/
theorem run_exclusive (interval : Nat) (steps : List (QueueStep κ)) :
    let session := run interval steps
    session.queue.ready.Nodup ∧
      (∀ key ∈ session.queue.ready, key ∉ session.queue.processing) ∧
      (∀ key ∈ session.queue.dirty,
        key ∈ session.queue.ready ∨ key ∈ session.queue.processing) ∧
      (∀ key ∈ session.queue.ready, key ∈ session.queue.dirty) ∧
      (∀ key, key ∈ session.queue.processing ↔ ∃ worker, (worker, key) ∈ session.held) ∧
      (session.held.map Prod.snd).Nodup ∧
      ∀ worker other key, (worker, key) ∈ session.held → (other, key) ∈ session.held →
        worker = other := by
  intro session
  have sound : session.Sound := run_sound interval steps
  have placed := sound.placed
  refine ⟨placed.readyNodup, placed.ready_free, placed.dirty_placed, placed.ready_dirty,
    sound.held_processing, ?_, ?_⟩
  · rw [sound.held_keys]
    exact placed.processingNodup
  · intro worker other key here there
    exact sound.holder_unique here there

end QueueSession

end PolicyReplica
