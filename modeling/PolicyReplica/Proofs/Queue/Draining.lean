import PolicyReplica.Proofs.Queue.Delivery

/-
Workers that take keys until the queue is closed and drained.

Each worker asks for a key, works on it and gives it back, until it is told that the
queue is closed. A worker may be told so while another one still holds a key that has
to be done again; that other one then finds it ready. Main statement: when all workers
are gone nothing is left, what was marked at the closing was handed out once more and
given back, and nothing else was handed out after it.
-/

namespace PolicyReplica

inductive WorkerState (κ : Type) where
  | asking
  | holding (key : κ)
  /-- It was told that the queue is closed. -/
  | gone
  deriving DecidableEq, Repr

inductive LogEntry (κ : Type) where
  | queue (event : QueueEvent κ)
  | completed (worker : TaskId) (key : κ)
  deriving DecidableEq, Repr

structure Workforce (κ : Type) where
  session : QueueSession κ
  workers : TaskId → WorkerState κ
  log : List (LogEntry κ)

inductive WorkforceStep (κ : Type) where
  | act (worker : TaskId)
  | call (step : QueueStep κ)

def QueueStep.isCall {κ : Type} : QueueStep κ → Bool
  | .take _ | .leave _ | .complete _ _ => false
  | .add _ | .addAfter _ _ _ | .addRateLimited _ _ | .reserve _ _ | .forget _ | .close
  | .advance _ => true

/-! ### Logs -/

variable {κ : Type}

/-- Holds if the worker got the key after its last admission. -/
def InHand (worker : TaskId) (key : κ) (log : List (LogEntry κ)) : Prop :=
  ∃ before after, log = before ++ .queue (.handed worker key) :: after ∧
    .queue (.admitted key) ∉ after

/-- Holds if the key was handed out, and then given back, after its last admission. -/
def Served (key : κ) (log : List (LogEntry κ)) : Prop :=
  ∃ worker before after, log = before ++ .completed worker key :: after ∧
    InHand worker key before ∧ .queue (.admitted key) ∉ after

theorem InHand.append {worker : TaskId} {key : κ} {log more : List (LogEntry κ)}
    (inHand : InHand worker key log) (quiet : .queue (.admitted key) ∉ more) :
    InHand worker key (log ++ more) := by
  obtain ⟨before, after, rfl, untouched⟩ := inHand
  refine ⟨before, after ++ more, by simp, fun admitted => ?_⟩
  rcases List.mem_append.mp admitted with earlier | later
  · exact untouched earlier
  · exact quiet later

theorem Served.append {key : κ} {log more : List (LogEntry κ)} (served : Served key log)
    (quiet : .queue (.admitted key) ∉ more) : Served key (log ++ more) := by
  obtain ⟨worker, before, after, rfl, inHand, untouched⟩ := served
  refine ⟨worker, before, after ++ more, by simp, inHand, fun admitted => ?_⟩
  rcases List.mem_append.mp admitted with earlier | later
  · exact untouched earlier
  · exact quiet later

theorem InHand.completed {worker : TaskId} {key : κ} {log : List (LogEntry κ)}
    (inHand : InHand worker key log) : Served key (log ++ [.completed worker key]) :=
  ⟨worker, log, [], rfl, inHand, List.not_mem_nil⟩

theorem not_mem_map_queue {key : κ} {events : List (QueueEvent κ)}
    (quiet : .admitted key ∉ events) : .queue (.admitted key) ∉ events.map LogEntry.queue := by
  intro member
  obtain ⟨event, present, same⟩ := List.mem_map.mp member
  cases same
  exact quiet present

theorem Awaits.append {key : κ} {history more : List (QueueEvent κ)} (waits : Awaits key history)
    (kept : ∀ worker, .handed worker key ∉ more) : Awaits key (history ++ more) := by
  obtain ⟨before, after, rfl, untouched⟩ := waits
  refine ⟨before, after ++ more, by simp, fun worker handed => ?_⟩
  rcases List.mem_append.mp handed with earlier | later
  · exact untouched worker earlier
  · exact kept worker later

theorem awaits_of_admitted {key : κ} {history : List (QueueEvent κ)}
    (admitted : .admitted key ∈ history) (kept : ∀ worker, .handed worker key ∉ history) :
    Awaits key history := by
  obtain ⟨before, after, rfl⟩ := List.append_of_mem admitted
  exact ⟨before, after, rfl, fun worker handed => kept worker (by simp [handed])⟩

/-- Every key that was ever admitted awaits a worker, is in the hands of one, or was
given back. -/
def Attended (holders : TaskId → κ → Prop) (history : List (QueueEvent κ))
    (log : List (LogEntry κ)) : Prop :=
  ∀ key, .admitted key ∈ history → Awaits key history ∨
    (∃ worker, holders worker key ∧ InHand worker key log) ∨ Served key log

namespace Attended

variable {holders others : TaskId → κ → Prop} {history events : List (QueueEvent κ)}
  {log : List (LogEntry κ)}

theorem mono (attended : Attended holders history log)
    (keep : ∀ worker key, holders worker key → others worker key) :
    Attended others history log := by
  intro key admitted
  rcases attended key admitted with waits | ⟨worker, holds, inHand⟩ | served
  · exact .inl waits
  · exact .inr (.inl ⟨worker, keep worker key holds, inHand⟩)
  · exact .inr (.inr served)

/-- Admissions make their keys wait, and leave all others as they are. -/
theorem admissions (attended : Attended holders history log)
    (kept : ∀ worker key, .handed worker key ∉ events) :
    Attended holders (history ++ events) (log ++ events.map .queue) := by
  intro key admitted
  by_cases fresh : .admitted key ∈ events
  · obtain ⟨before, after, split, untouched⟩ :=
      awaits_of_admitted fresh fun worker => kept worker key
    exact .inl ⟨history ++ before, after, by simp [split], untouched⟩
  · have quiet := not_mem_map_queue fresh
    have before : .admitted key ∈ history :=
      (List.mem_append.mp admitted).resolve_right fresh
    rcases attended key before with waits | ⟨worker, holds, inHand⟩ | served
    · exact .inl (waits.append fun worker => kept worker key)
    · exact .inr (.inl ⟨worker, holds, inHand.append quiet⟩)
    · exact .inr (.inr (served.append quiet))

theorem handed (attended : Attended holders history log) (worker : TaskId) (key : κ)
    (holds : others worker key) (keep : ∀ other k, holders other k → others other k) :
    Attended others (history ++ [.handed worker key]) (log ++ [.queue (.handed worker key)]) := by
  intro k admitted
  have before : .admitted k ∈ history := by simpa using admitted
  by_cases same : k = key
  · subst same
    exact .inr (.inl ⟨worker, holds, log, [], rfl, List.not_mem_nil⟩)
  · rcases attended k before with waits | ⟨other, held, inHand⟩ | served
    · refine .inl (waits.append fun other handedOut => same ?_)
      have equal := List.mem_singleton.mp handedOut
      cases equal
      rfl
    · exact .inr (.inl ⟨other, keep other k held, inHand.append (by simp)⟩)
    · exact .inr (.inr (served.append (by simp)))

theorem completed (attended : Attended holders history log) (worker : TaskId) (key : κ)
    (keep : ∀ other k, holders other k → others other k ∨ other = worker ∧ k = key) :
    Attended others history (log ++ [.completed worker key]) := by
  intro k admitted
  rcases attended k admitted with waits | ⟨other, held, inHand⟩ | served
  · exact .inl waits
  · rcases keep other k held with still | ⟨rfl, rfl⟩
    · exact .inr (.inl ⟨other, still, inHand.append (by simp)⟩)
    · exact .inr (.inr inHand.completed)
  · exact .inr (.inr (served.append (by simp)))

end Attended

/-! ### What a step tells -/

namespace WorkQueue

variable [DecidableEq κ]

theorem handed_not_mem_admission (queue : WorkQueue κ) (key : κ) (worker : TaskId) (other : κ) :
    .handed worker other ∉ queue.admission key := by
  unfold admission
  split <;> simp

theorem handed_not_mem_addEvents (queue : WorkQueue κ) (key : κ) (worker : TaskId) (other : κ) :
    .handed worker other ∉ queue.addEvents key := by
  unfold addEvents
  split
  · simp
  · exact queue.handed_not_mem_admission key worker other

theorem handed_not_mem_promoteEvents (entries : List (Delayed κ)) (queue : WorkQueue κ)
    (worker : TaskId) (other : κ) : .handed worker other ∉ promoteEvents entries queue := by
  induction entries generalizing queue with
  | nil => exact List.not_mem_nil
  | cons entry rest ih =>
      unfold promoteEvents
      rw [List.mem_append, not_or]
      refine ⟨?_, ih _⟩
      split
      · exact handed_not_mem_admission _ entry.key worker other
      · exact List.not_mem_nil

end WorkQueue

namespace QueueSession

variable [DecidableEq κ]

theorem addEvents_of_closed {queue : WorkQueue κ} (closed : queue.closed = true) (key : κ) :
    queue.addEvents key = [] := by
  unfold WorkQueue.addEvents
  rw [if_pos closed]

/-- What others do to the queue may admit keys, but hands none out. -/
theorem step_call (session : QueueSession κ) {step : QueueStep κ} (call : step.isCall = true) :
    ∃ events, (session.step step).history = session.history ++ events ∧
      (∀ worker key, .handed worker key ∉ events) ∧
      (session.queue.closed = true → events = []) ∧
      (session.step step).held = session.held := by
  have settled : ∀ (immediate : Prop) [Decidable immediate] (key : κ),
      (∀ worker other, .handed worker other ∉
        if immediate then session.queue.addEvents key else []) ∧
      (session.queue.closed = true →
        (if immediate then session.queue.addEvents key else []) = []) := by
    intro immediate _ key
    split
    · exact ⟨session.queue.handed_not_mem_addEvents key, fun closed => addEvents_of_closed closed key⟩
    · exact ⟨fun _ _ => List.not_mem_nil, fun _ => rfl⟩
  cases step with
  | add key =>
      exact ⟨_, rfl, session.queue.handed_not_mem_addEvents key,
        fun closed => addEvents_of_closed closed key, rfl⟩
  | addAfter read delay key =>
      obtain ⟨kept, silent⟩ := settled (delay = 0) key
      exact ⟨_, rfl, kept, silent, rfl⟩
  | addRateLimited read key =>
      obtain ⟨kept, silent⟩ := settled ((session.shared.limiter.reserve read key).1 = 0) key
      exact ⟨_, rfl, kept, silent, rfl⟩
  | reserve read key => exact ⟨[], rfl, fun _ _ => List.not_mem_nil, fun _ => rfl, rfl⟩
  | forget key => exact ⟨[], rfl, fun _ _ => List.not_mem_nil, fun _ => rfl, rfl⟩
  | close => exact ⟨[], rfl, fun _ _ => List.not_mem_nil, fun _ => rfl, rfl⟩
  | advance span =>
      exact ⟨[], (List.append_nil _).symm, fun _ _ => List.not_mem_nil, fun _ => rfl, rfl⟩
  | take worker => cases call
  | leave worker => cases call
  | complete worker key => cases call

/-- A closed queue stays closed, and nobody but a worker makes a key ready. -/
theorem step_call_of_closed (session : QueueSession κ) {step : QueueStep κ}
    (call : step.isCall = true) (closed : session.queue.closed = true) :
    (session.step step).queue.closed = true ∧
      (session.step step).queue.ready = session.queue.ready := by
  have refused : ∀ key, session.queue.add key = (false, session.queue) := by
    intro key
    unfold WorkQueue.add
    rw [if_pos (.inl closed)]
  have settled : ∀ (immediate : Prop) [Decidable immediate] (time : Nat) (key : κ),
      (if immediate then (session.queue.add key).2
        else (session.queue.delay time key).2) = session.queue := by
    intro immediate _ time key
    split
    · rw [refused]
    · rw [session.queue.delay_of_closed closed]
  cases step with
  | add key =>
      change (session.queue.add key).2.closed = true ∧ (session.queue.add key).2.ready = _
      rw [refused]
      exact ⟨closed, rfl⟩
  | addAfter read delay key =>
      have same : (session.step (.addAfter read delay key)).queue = session.queue :=
        (session.shared.addAfter_queue read delay key).trans (settled _ _ key)
      rw [same]
      exact ⟨closed, rfl⟩
  | addRateLimited read key =>
      have same : (session.step (.addRateLimited read key)).queue = session.queue :=
        (session.shared.addRateLimited_queue read key).trans (settled _ _ key)
      rw [same]
      exact ⟨closed, rfl⟩
  | reserve read key => exact ⟨closed, rfl⟩
  | forget key => exact ⟨closed, rfl⟩
  | close => exact ⟨rfl, rfl⟩
  | advance span => exact ⟨closed, rfl⟩
  | take worker => cases call
  | leave worker => cases call
  | complete worker key => cases call

theorem take_held_of_item {session : QueueSession κ} {worker : TaskId} {key : κ}
    (given : (session.shared.take session.clock worker).1 = .item key) :
    (session.take worker).held = (worker, key) :: session.held := by
  unfold take
  simp only [given]

theorem take_held_of_no_item {session : QueueSession κ} {worker : TaskId}
    (nothing : ∀ key, (session.shared.take session.clock worker).1 ≠ .item key) :
    (session.take worker).held = session.held := by
  unfold take
  cases answer : (session.shared.take session.clock worker).1 with
  | item key => exact absurd answer (nothing key)
  | closed => simp only [answer]
  | wait deadline => simp only [answer]

/-- A worker that asks for a key gets the first that is ready, once what is due has been
admitted; it is told that the queue is closed when none is ready. -/
theorem step_take {session : QueueSession κ} (sound : session.Sound) (worker : TaskId) :
    ∃ events, (∀ other key, .handed other key ∉ events) ∧
      (session.queue.closed = true → events = []) ∧
      (session.step (.take worker)).queue.closed = session.queue.closed ∧
      ((∃ key, (session.shared.take session.clock worker).1 = .item key ∧
          (session.step (.take worker)).history =
            session.history ++ events ++ [.handed worker key] ∧
          (session.step (.take worker)).held = (worker, key) :: session.held) ∨
        ((∀ key, (session.shared.take session.clock worker).1 ≠ .item key) ∧
          (session.step (.take worker)).history = session.history ++ events ∧
          (session.step (.take worker)).held = session.held ∧
          ((session.shared.take session.clock worker).1 = .closed →
            session.queue.closed = true ∧ (session.step (.take worker)).queue.ready = []))) := by
  let admitted := WorkQueue.promoteEvents (session.queue.delayed.takeWhile (·.time ≤ session.clock))
    { session.queue with delayed := session.queue.delayed.dropWhile (·.time ≤ session.clock) }
  have told : (session.step (.take worker)).history = session.history ++
      (admitted ++ (session.queue.promote session.clock).handOutEvents worker) := rfl
  have handout : (session.shared.take session.clock worker).1 =
      (session.queue.promote session.clock).handOut.1 := rfl
  have after : (session.step (.take worker)).queue =
      (session.queue.promote session.clock).handOut.2 := rfl
  have stays := session.queue.promote_closed session.clock
  refine ⟨admitted, ?_, ?_, ?_, ?_⟩
  · exact fun other key => WorkQueue.handed_not_mem_promoteEvents _ _ other key
  · intro closed
    have nobody : session.queue.delayed.takeWhile (·.time ≤ session.clock) = [] := by
      rw [sound.closed_line closed]
      rfl
    change WorkQueue.promoteEvents _ _ = []
    rw [nobody]
    rfl
  · rw [after]
    obtain ⟨key, rest, _, handed⟩ | ⟨_, _, handed⟩ | ⟨_, _, handed⟩ :=
      (session.queue.promote session.clock).handOut_cases <;> rw [handed] <;> exact stays
  · rw [told, after]
    unfold WorkQueue.handOutEvents
    obtain ⟨key, rest, _, handed⟩ | ⟨empty, closed, handed⟩ | ⟨_, _, handed⟩ :=
      (session.queue.promote session.clock).handOut_cases
    · have given : (session.shared.take session.clock worker).1 = .item key := by
        rw [handout, handed]
      rw [handed]
      exact .inl ⟨key, given, by simp, take_held_of_item given⟩
    · have nothing : ∀ key, (session.shared.take session.clock worker).1 ≠ .item key := by
        rw [handout, handed]
        exact fun _ => nofun
      rw [stays] at closed
      rw [handed]
      exact .inr ⟨nothing, by simp, take_held_of_no_item nothing, fun _ => ⟨closed, empty⟩⟩
    · have nothing : ∀ key, (session.shared.take session.clock worker).1 ≠ .item key := by
        rw [handout, handed]
        exact fun _ => nofun
      have running : (session.shared.take session.clock worker).1 ≠ .closed := by
        rw [handout, handed]
        nofun
      rw [handed]
      exact .inr ⟨nothing, by simp, take_held_of_no_item nothing, fun told => absurd told running⟩

/-- A worker that gives back a key admits none and takes none. -/
theorem step_complete {session : QueueSession κ} {worker : TaskId} {key : κ}
    (holds : (worker, key) ∈ session.held) :
    ∃ events, (session.step (.complete worker key)).history = session.history ++ events ∧
      (∀ event ∈ events, event = .entered key) ∧
      (session.step (.complete worker key)).held = session.held.erase (worker, key) ∧
      (session.step (.complete worker key)).queue.closed = session.queue.closed := by
  have completed : session.step (.complete worker key) =
      { session.operate (·.complete key) (session.queue.completeEvents key) with
        held := session.held.erase (worker, key) } := if_pos holds
  rw [completed]
  refine ⟨session.queue.completeEvents key, rfl, ?_, rfl, session.queue.complete_closed key⟩
  intro event present
  unfold WorkQueue.completeEvents at present
  split at present
  · exact List.mem_singleton.mp present
  · cases present

end QueueSession

/-! ### Workers -/

def Handout.state : Handout κ → WorkerState κ
  | .item key => .holding key
  | .closed => .gone
  | .wait _ => .asking

theorem Handout.eq_closed_of_state {handout : Handout κ} (state : handout.state = .gone) :
    handout = .closed := by
  cases handout with
  | closed => rfl
  | item key => cases state
  | wait due => cases state

theorem Handout.state_ne_holding {handout : Handout κ} (nothing : ∀ key, handout ≠ .item key)
    (key : κ) : handout.state ≠ .holding key := by
  cases handout with
  | item other => exact absurd rfl (nothing other)
  | closed => nofun
  | wait due => nofun

namespace Workforce

def ofSize (interval size : Nat) : Workforce κ :=
  { session := .ofInterval interval
    workers := fun worker => if worker < size then .asking else .gone
    log := [] }

def queue (force : Workforce κ) : WorkQueue κ :=
  force.session.queue

def assign (workers : TaskId → WorkerState κ) (worker : TaskId) (state : WorkerState κ) :
    TaskId → WorkerState κ :=
  fun other => if other = worker then state else workers other

theorem assign_self (workers : TaskId → WorkerState κ) (worker : TaskId)
    (state : WorkerState κ) : assign workers worker state worker = state :=
  if_pos rfl

theorem assign_of_ne (workers : TaskId → WorkerState κ) {worker other : TaskId}
    (state : WorkerState κ) (apart : other ≠ worker) :
    assign workers worker state other = workers other :=
  if_neg apart

variable [DecidableEq κ]

def follow (force : Workforce κ) (step : QueueStep κ) (workers : TaskId → WorkerState κ)
    (notes : List (LogEntry κ)) : Workforce κ :=
  { session := force.session.step step
    workers
    log := force.log ++ notes ++
      ((force.session.step step).history.drop force.session.history.length).map .queue }

def act (force : Workforce κ) (worker : TaskId) : Workforce κ :=
  match force.workers worker with
  | .asking =>
      let handout := (force.session.shared.take force.session.clock worker).1
      force.follow (.take worker) (assign force.workers worker handout.state) []
  | .holding key =>
      force.follow (.complete worker key) (assign force.workers worker .asking)
        [.completed worker key]
  | .gone => force

def step (force : Workforce κ) : WorkforceStep κ → Workforce κ
  | .act worker => force.act worker
  | .call step => if step.isCall then force.follow step force.workers [] else force

def run (force : Workforce κ) (steps : List (WorkforceStep κ)) : Workforce κ :=
  steps.foldl step force

theorem follow_log (force : Workforce κ) {step : QueueStep κ} {events : List (QueueEvent κ)}
    (told : (force.session.step step).history = force.session.history ++ events)
    (workers : TaskId → WorkerState κ) (notes : List (LogEntry κ)) :
    (force.follow step workers notes).log = force.log ++ notes ++ events.map .queue := by
  unfold follow
  simp only
  rw [told, List.drop_left]

/-- The workers hold what the session says, and the last one to go leaves nothing ready. -/
structure Manned (size : Nat) (force : Workforce κ) : Prop where
  sound : force.session.Sound
  recorded : Recorded force.session.history force.session.queue
  held : ∀ worker key, (worker, key) ∈ force.session.held ↔ force.workers worker = .holding key
  exits : ∀ worker < size, force.workers worker = .gone → force.session.queue.closed = true
  emptied : (∀ worker, force.workers worker = .gone) → force.session.queue.ready = []
  attended : Attended (fun worker key => force.workers worker = .holding key)
    force.session.history force.log

theorem ofSize_manned (interval : Nat) (size : Nat) :
    (ofSize interval size : Workforce κ).Manned size where
  sound := QueueSession.ofInterval_sound interval
  recorded := Recorded.initial ⟨rfl, rfl⟩
  held := by
    intro worker key
    unfold ofSize QueueSession.ofInterval
    by_cases within : worker < size
    · simp [within]
    · simp [within]
  exits := by
    intro worker within isGone
    unfold ofSize at isGone
    simp [within] at isGone
  emptied := fun _ => rfl
  attended := by
    intro key admitted
    cases admitted

variable {size : Nat} {force : Workforce κ}

theorem Manned.call (manned : force.Manned size) (positive : 0 < size) {step : QueueStep κ}
    (call : step.isCall = true) : (force.follow step force.workers []).Manned size := by
  obtain ⟨events, told, kept, _, held⟩ := force.session.step_call call
  refine ⟨manned.sound.step step, QueueSession.recorded_step manned.sound manned.recorded step,
    ?_, ?_, ?_, ?_⟩
  · intro worker key
    exact (iff_of_eq (congrArg ((worker, key) ∈ ·) held)).trans (manned.held worker key)
  · intro worker within isGone
    exact (force.session.step_call_of_closed call (manned.exits worker within isGone)).1
  · intro allGone
    have closed := manned.exits 0 positive (allGone 0)
    exact (force.session.step_call_of_closed call closed).2.trans (manned.emptied allGone)
  · rw [follow_log force told, List.append_nil]
    change Attended _ (force.session.step step).history _
    rw [told]
    exact manned.attended.admissions kept

theorem Manned.take (manned : force.Manned size) {worker : TaskId}
    (asking : force.workers worker = .asking) :
    (force.follow (.take worker)
      (assign force.workers worker
        (force.session.shared.take force.session.clock worker).1.state) []).Manned size := by
  have apart : ∀ other key, force.workers other = .holding key → other ≠ worker := by
    intro other key holds same
    rw [same, asking] at holds
    cases holds
  obtain ⟨events, kept, _, stays, outcome⟩ := QueueSession.step_take manned.sound worker
  have sound := manned.sound.step (.take worker)
  have recorded := QueueSession.recorded_step manned.sound manned.recorded (.take worker)
  have admitted := manned.attended.admissions kept
  generalize (force.session.shared.take force.session.clock worker).1 = handout at outcome ⊢
  -- The state of this worker decides whether it is counted among those who are gone.
  have exits : (handout = .closed → force.session.queue.closed = true) →
      ∀ other < size, assign force.workers worker handout.state other = .gone →
        (force.session.step (.take worker)).queue.closed = true := by
    intro told other within isGone
    rw [stays]
    by_cases same : other = worker
    · rw [same, assign_self] at isGone
      exact told (Handout.eq_closed_of_state isGone)
    · rw [assign_of_ne force.workers _ same] at isGone
      exact manned.exits other within isGone
  have emptied : (handout = .closed → (force.session.step (.take worker)).queue.ready = []) →
      (∀ other, assign force.workers worker handout.state other = .gone) →
        (force.session.step (.take worker)).queue.ready = [] := by
    intro told allGone
    have isGone := allGone worker
    rw [assign_self] at isGone
    exact told (Handout.eq_closed_of_state isGone)
  have keep : ∀ other key, force.workers other = .holding key →
      assign force.workers worker handout.state other = .holding key := by
    intro other key holds
    rw [assign_of_ne force.workers _ (apart other key holds)]
    exact holds
  obtain ⟨key, rfl, told, held⟩ | ⟨nothing, told, held, onClosed⟩ := outcome
  · refine ⟨sound, recorded, ?_, exits nofun, emptied nofun, ?_⟩
    · intro other k
      change (other, k) ∈ (force.session.step (.take worker)).held ↔
        assign force.workers worker (.holding key) other = .holding k
      rw [held, List.mem_cons, manned.held other k]
      constructor
      · rintro (equal | holds)
        · cases equal
          exact assign_self _ _ _
        · exact keep other k holds
      · intro holds
        by_cases same : other = worker
        · rw [same, assign_self] at holds
          cases holds
          exact .inl (by rw [same])
        · rw [assign_of_ne force.workers _ same] at holds
          exact .inr holds
    · rw [List.append_assoc] at told
      rw [follow_log force told, List.append_nil, List.map_append, ← List.append_assoc]
      change Attended _ (force.session.step (.take worker)).history _
      rw [told, ← List.append_assoc]
      exact admitted.handed worker key (assign_self _ _ _) keep
  · refine ⟨sound, recorded, ?_, exits fun closed => (onClosed closed).1,
      emptied fun closed => (onClosed closed).2, ?_⟩
    · intro other k
      change (other, k) ∈ (force.session.step (.take worker)).held ↔
        assign force.workers worker handout.state other = .holding k
      rw [held, manned.held other k]
      constructor
      · exact keep other k
      · intro holds
        by_cases same : other = worker
        · rw [same, assign_self] at holds
          exact absurd holds (Handout.state_ne_holding nothing k)
        · rw [assign_of_ne force.workers _ same] at holds
          exact holds
    · rw [follow_log force told, List.append_nil]
      change Attended _ (force.session.step (.take worker)).history _
      rw [told]
      exact admitted.mono keep

theorem Manned.complete (manned : force.Manned size) {worker : TaskId} {key : κ}
    (holding : force.workers worker = .holding key) :
    (force.follow (.complete worker key) (assign force.workers worker .asking)
      [.completed worker key]).Manned size := by
  have holds := (manned.held worker key).mpr holding
  obtain ⟨events, told, entered, held, stays⟩ := QueueSession.step_complete holds
  have distinct : force.session.held.Nodup := by
    refine List.Nodup.of_map Prod.snd ?_
    rw [manned.sound.held_keys]
    exact manned.sound.placed.processingNodup
  refine ⟨manned.sound.step (.complete worker key),
    QueueSession.recorded_step manned.sound manned.recorded (.complete worker key), ?_, ?_, ?_, ?_⟩
  · intro other k
    change (other, k) ∈ (force.session.step (.complete worker key)).held ↔
      assign force.workers worker .asking other = .holding k
    rw [held, distinct.mem_erase_iff, manned.held other k]
    by_cases same : other = worker
    · rw [same, assign_self, holding]
      constructor
      · rintro ⟨different, equal⟩
        cases equal
        exact absurd rfl different
      · nofun
    · rw [assign_of_ne force.workers _ same]
      constructor
      · exact And.right
      · exact fun keeps => ⟨fun equal => same (congrArg Prod.fst equal), keeps⟩
  · intro other within isGone
    refine stays.trans (manned.exits other within ?_)
    by_cases same : other = worker
    · change assign force.workers worker .asking other = .gone at isGone
      rw [same, assign_self] at isGone
      cases isGone
    · exact (assign_of_ne force.workers .asking same).symm.trans isGone
  · intro allGone
    have isGone : assign force.workers worker .asking worker = .gone := allGone worker
    rw [assign_self] at isGone
    cases isGone
  · rw [follow_log force told]
    change Attended _ (force.session.step (.complete worker key)).history _
    rw [told]
    have given : Attended (fun other k => assign force.workers worker .asking other = .holding k)
        force.session.history (force.log ++ [.completed worker key]) := by
      refine manned.attended.completed worker key fun other k keeps => ?_
      by_cases same : other = worker
      · rw [same, holding] at keeps
        cases keeps
        exact .inr ⟨same, rfl⟩
      · exact .inl ((assign_of_ne force.workers .asking same).trans keeps)
    refine given.admissions fun other k handed => ?_
    cases entered _ handed

theorem Manned.step (manned : force.Manned size) (positive : 0 < size)
    (step : WorkforceStep κ) : (force.step step).Manned size := by
  cases step with
  | act worker =>
      change (force.act worker).Manned size
      unfold act
      cases state : force.workers worker with
      | asking => exact manned.take state
      | holding key => exact manned.complete state
      | gone => exact manned
  | call step =>
      unfold Workforce.step
      by_cases call : step.isCall = true
      · simp only [if_pos call]
        exact manned.call positive call
      · simp only [if_neg call]
        exact manned

theorem Manned.run (manned : force.Manned size) (positive : 0 < size)
    (steps : List (WorkforceStep κ)) : (force.run steps).Manned size := by
  induction steps generalizing force with
  | nil => exact manned
  | cons step rest ih => exact ih (manned.step positive step)

/-- A worker that has gone does not come back. -/
theorem run_gone {worker : TaskId} (isGone : force.workers worker = .gone)
    (steps : List (WorkforceStep κ)) : (force.run steps).workers worker = .gone := by
  induction steps generalizing force with
  | nil => exact isGone
  | cons step rest ih =>
      apply ih
      cases step with
      | call step =>
          unfold Workforce.step
          by_cases call : step.isCall = true
          · simp only [if_pos call]
            exact isGone
          · simp only [if_neg call]
            exact isGone
      | act other =>
          change (force.act other).workers worker = .gone
          unfold act
          cases state : force.workers other with
          | gone => exact isGone
          | asking | holding =>
              have apart : worker ≠ other := by
                intro same
                rw [same, state] at isGone
                cases isGone
              exact (assign_of_ne force.workers _ apart).trans isGone

/-! ### After the closing -/

def Closing (shut force : Workforce κ) : Prop :=
  force.session.queue.closed = true ∧
    ∃ since, force.session.history = shut.session.history ++ since ∧
      ∀ key, .admitted key ∉ since

theorem Closing.follow {shut : Workforce κ} (closing : shut.Closing force)
    {step : QueueStep κ} {events : List (QueueEvent κ)}
    (told : (force.session.step step).history = force.session.history ++ events)
    (stays : (force.session.step step).queue.closed = true)
    (quiet : ∀ key, .admitted key ∉ events) (workers : TaskId → WorkerState κ)
    (notes : List (LogEntry κ)) : shut.Closing (force.follow step workers notes) := by
  obtain ⟨_, since, history, unadmitted⟩ := closing
  refine ⟨stays, since ++ events, ?_, fun key admitted => ?_⟩
  · change (force.session.step step).history = _
    rw [told, history, List.append_assoc]
  · rcases List.mem_append.mp admitted with earlier | later
    · exact unadmitted key earlier
    · exact quiet key later

theorem Closing.step {shut : Workforce κ} (closing : shut.Closing force)
    (manned : force.Manned size) (step : WorkforceStep κ) : shut.Closing (force.step step) := by
  have closed := closing.1
  cases step with
  | call step =>
      unfold Workforce.step
      by_cases call : step.isCall = true
      · simp only [if_pos call]
        obtain ⟨events, told, _, none, _⟩ := force.session.step_call call
        refine closing.follow told (force.session.step_call_of_closed call closed).1 ?_ _ _
        rw [none closed]
        exact fun _ => List.not_mem_nil
      · simp only [if_neg call]
        exact closing
  | act worker =>
      change shut.Closing (force.act worker)
      unfold act
      cases state : force.workers worker with
      | gone => exact closing
      | asking =>
          obtain ⟨events, _, none, stays, outcome⟩ := QueueSession.step_take manned.sound worker
          rw [none closed, List.append_nil] at outcome
          obtain ⟨key, _, told, _⟩ | ⟨_, told, _⟩ := outcome
          · exact closing.follow told (stays.trans closed) (fun _ => by simp) _ _
          · exact closing.follow (told.trans (List.append_nil _).symm) (stays.trans closed)
              (fun _ => List.not_mem_nil) _ _
      | holding key =>
          obtain ⟨events, told, entered, _, stays⟩ :=
            QueueSession.step_complete ((manned.held worker key).mpr state)
          refine closing.follow told (stays.trans closed) (fun k admitted => ?_) _ _
          cases entered _ admitted

theorem Closing.run {shut : Workforce κ} (closing : shut.Closing force)
    (manned : force.Manned size) (positive : 0 < size) (steps : List (WorkforceStep κ)) :
    shut.Closing (force.run steps) := by
  induction steps generalizing force with
  | nil => exact closing
  | cons step rest ih => exact ih (closing.step manned step) (manned.step positive step)

end Workforce

/-- Without admissions no round begins. -/
theorem rounds_append [DecidableEq κ] (key : κ) (history : List (QueueEvent κ))
    {more : List (QueueEvent κ)} (quiet : .admitted key ∉ more) :
    rounds key (history ++ more) = rounds key history := by
  induction more generalizing history with
  | nil => rw [List.append_nil]
  | cons event rest ih =>
      rw [List.mem_cons, not_or] at quiet
      obtain ⟨different, later⟩ := quiet
      have same : rounds key (history ++ [event]) = rounds key history := by
        unfold rounds
        rw [roundTally_concat]
        cases event with
        | admitted other =>
            have apart : other ≠ key := fun equal => different (by rw [equal])
            simp [countRound, apart]
        | handed worker other =>
            by_cases equal : other = key <;> simp [countRound, equal]
        | entered other => rfl
      rw [List.append_cons, ih _ later, same]

namespace Workforce

variable [DecidableEq κ]

/-- Whatever workers and others do, and whenever the queue is closed: when every worker is
gone, nothing is left in the queue; each key that was ready or marked at the closing was
handed out and given back after its last admission; and after the closing each of these was
handed out once, and no other key, so that one that had not been admitted before never was. -/
theorem run_drains (interval size : Nat) (positive : 0 < size)
    (before after : List (WorkforceStep κ)) :
    let shut := (ofSize interval size).run (before ++ [.call .close])
    let final := shut.run after
    (∀ worker, final.workers worker = .gone) →
      final.queue.ready = [] ∧ final.queue.dirty = [] ∧ final.queue.processing = [] ∧
        (∀ key, key ∈ shut.queue.ready ∨ key ∈ shut.queue.dirty → Served key final.log) ∧
        (∀ key, handouts key final.session.history =
          handouts key shut.session.history + if key ∈ shut.queue.dirty then 1 else 0) ∧
        ∀ key, .admitted key ∉ shut.session.history → handouts key final.session.history = 0 := by
  intro shut final left
  have shutManned : shut.Manned size := (ofSize_manned interval size).run positive _
  have closed : shut.queue.closed = true := by
    have last : shut = ((ofSize interval size).run before).step (.call .close) := by
      change List.foldl _ _ _ = _
      rw [List.foldl_append]
      rfl
    rw [last]
    rfl
  have begun : shut.Closing shut := ⟨closed, [], (List.append_nil _).symm, fun _ => nofun⟩
  have manned : final.Manned size := shutManned.run positive after
  obtain ⟨_, since, history, quiet⟩ : shut.Closing final := begun.run shutManned positive after
  have noneReady : final.queue.ready = [] := manned.emptied left
  have noneHeld : final.queue.processing = [] := by
    change final.session.queue.processing = []
    rw [← manned.sound.held_keys, List.map_eq_nil_iff]
    refine List.eq_nil_iff_forall_not_mem.mpr fun entry member => ?_
    have holds := (manned.held entry.1 entry.2).mp member
    rw [left entry.1] at holds
    cases holds
  have noneMarked : final.queue.dirty = [] := by
    refine List.eq_nil_iff_forall_not_mem.mpr fun key marked => ?_
    rcases manned.sound.placed.dirty_placed key marked with ready | processing
    · exact List.not_mem_nil (noneReady ▸ ready)
    · exact List.not_mem_nil (noneHeld ▸ processing)
  have unmarked : ∀ key, key ∉ final.session.queue.dirty := by
    intro key
    change key ∉ final.queue.dirty
    rw [noneMarked]
    exact List.not_mem_nil
  have once : ∀ key, handouts key final.session.history =
      handouts key shut.session.history + if key ∈ shut.queue.dirty then 1 else 0 := by
    intro key
    have atEnd : rounds key final.session.history = _ :=
      congrArg Prod.snd (manned.recorded.tally key)
    have atShut : rounds key shut.session.history = _ :=
      congrArg Prod.snd (shutManned.recorded.tally key)
    rw [history, rounds_append key _ (quiet key), atShut, ← history, if_neg (unmarked key)] at atEnd
    exact atEnd.symm
  refine ⟨noneReady, noneMarked, noneHeld, ?_, once, ?_⟩
  · intro key queued
    have marked : key ∈ shut.session.queue.dirty :=
      queued.elim (shutManned.sound.placed.ready_dirty key) id
    obtain ⟨earlier, later, split, _⟩ := (shutManned.recorded.awaits key).mpr marked
    have admitted : .admitted key ∈ final.session.history := by
      rw [history, split]
      simp
    rcases manned.attended key admitted with waits | ⟨worker, holds, _⟩ | served
    · exact absurd ((manned.recorded.awaits key).mp waits) (unmarked key)
    · rw [left worker] at holds
      cases holds
    · exact served
  · intro key never
    have started : rounds key shut.session.history = rounds key ([] : List (QueueEvent κ)) :=
      rounds_append key [] never
    have tally : rounds key shut.session.history = _ :=
      congrArg Prod.snd (shutManned.recorded.tally key)
    have zero : rounds key ([] : List (QueueEvent κ)) = 0 := rfl
    have total : handouts key shut.session.history +
        (if key ∈ shut.session.queue.dirty then 1 else 0) = 0 :=
      tally.symm.trans (started.trans zero)
    exact (once key).trans total

/-- Two workers: one holds a key that is added again, and the other one is told that the
queue is closed before that key is ready; one key is only delayed, and one comes too late. -/
theorem run_drains_late :
    let before : List (WorkforceStep Nat) :=
      [.call (.add 1), .act 0, .call (.add 1), .call (.add 2), .call (.addAfter 0 5 3)]
    let after : List (WorkforceStep Nat) :=
      [.call (.add 4), .act 1, .act 1, .act 1, .act 0, .act 0, .act 0, .act 0]
    let shut := (ofSize 0 2).run (before ++ [.call .close])
    let final := shut.run after
    (shut.queue.ready = [2] ∧ shut.queue.dirty = [2, 1] ∧ shut.queue.processing = [1]) ∧
      Served 1 final.log ∧ Served 2 final.log ∧
      handouts 1 final.session.history = 2 ∧ handouts 3 final.session.history = 0 ∧
      handouts 4 final.session.history = 0 := by
  intro before after
  have left : ∀ worker,
      (((ofSize 0 2).run (before ++ [.call .close])).run after).workers worker = .gone := by
    intro worker
    match worker with
    | 0 => decide +kernel
    | 1 => decide +kernel
    | other + 2 =>
        have never : (ofSize 0 2 : Workforce Nat).workers (other + 2) = .gone := by simp [ofSize]
        exact run_gone (run_gone never _) _
  have drained := run_drains 0 2 (by decide) before after left
  have line : ((ofSize 0 2).run (before ++ [.call .close])).queue.ready = [2] := by
    decide +kernel
  have marked : ((ofSize 0 2).run (before ++ [.call .close])).queue.dirty = [2, 1] := by
    decide +kernel
  have held : ((ofSize 0 2).run (before ++ [.call .close])).queue.processing = [1] := by
    decide +kernel
  have earlier :
      handouts 1 ((ofSize 0 2).run (before ++ [.call .close])).session.history = 1 := by
    decide +kernel
  have delayed :
      .admitted 3 ∉ ((ofSize 0 2).run (before ++ [.call .close])).session.history := by
    decide +kernel
  have late : .admitted 4 ∉ ((ofSize 0 2).run (before ++ [.call .close])).session.history := by
    decide +kernel
  -- From here on only these facts count, not what the run comes to.
  generalize (ofSize 0 2).run (before ++ [.call .close]) = shut at *
  obtain ⟨_, _, _, served, once, never⟩ := drained
  refine ⟨⟨line, marked, held⟩, served 1 (.inr ?_), served 2 (.inl ?_), ?_, ?_, ?_⟩
  · simp [marked]
  · simp [line]
  · simp [once 1, earlier, marked]
  · exact never 3 delayed
  · exact never 4 late

end Workforce

end PolicyReplica
