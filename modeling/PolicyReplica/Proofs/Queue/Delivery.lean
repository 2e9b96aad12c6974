import PolicyReplica.Proofs.Queue.Session

/-
No lost and no spurious work.

A key awaits a worker from its admission until it is handed out. Main statement:
in every session the marked keys are exactly those that await a worker, each
round of admissions is answered by one handout, no handout comes without an
admission, and keys are handed out in the order in which they became ready.
-/

namespace PolicyReplica

variable {κ : Type}

namespace QueueEvent

def enteredKey? : QueueEvent κ → Option κ
  | .entered key => some key
  | .admitted _ | .handed _ _ => none

def handedKey? : QueueEvent κ → Option κ
  | .handed _ key => some key
  | .admitted _ | .entered _ => none

end QueueEvent

/-- Holds if the key was admitted and has not been handed out since. -/
def Awaits (key : κ) (history : List (QueueEvent κ)) : Prop :=
  ∃ before after, history = before ++ .admitted key :: after ∧
    ∀ worker, .handed worker key ∉ after

/-- Holds if each key that was handed out awaited a worker then. -/
def Warranted (history : List (QueueEvent κ)) : Prop :=
  ∀ before worker key after, history = before ++ .handed worker key :: after → Awaits key before

theorem not_awaits_nil (key : κ) : ¬ Awaits key [] := by
  intro given
  obtain ⟨before, after, split, _⟩ := given
  simp at split

theorem awaits_concat (key : κ) (history : List (QueueEvent κ)) (event : QueueEvent κ) :
    Awaits key (history ++ [event]) ↔
      event = .admitted key ∨ Awaits key history ∧ ∀ worker, event ≠ .handed worker key := by
  constructor
  · intro given
    obtain ⟨before, after, split, untouched⟩ := given
    rcases List.eq_nil_or_concat after with rfl | ⟨middle, last, rfl⟩
    · have ends := List.append_inj' split rfl
      exact .inl (List.cons.inj ends.2).1
    · have regrouped : history ++ [event] = (before ++ .admitted key :: middle) ++ [last] := by
        simpa using split
      obtain ⟨same, lastSame⟩ := List.append_inj' regrouped rfl
      obtain rfl : event = last := (List.cons.inj lastSame).1
      refine .inr ⟨⟨before, middle, same, fun worker inMiddle => ?_⟩, fun worker handed => ?_⟩
      · exact untouched worker (by simp [inMiddle])
      · exact untouched worker (by simp [handed])
  · intro either
    rcases either with rfl | ⟨⟨before, after, rfl, untouched⟩, different⟩
    · exact ⟨history, [], rfl, fun worker => List.not_mem_nil⟩
    · refine ⟨before, after ++ [event], by simp, fun worker handed => ?_⟩
      rcases List.mem_append.mp handed with earlier | last
      · exact untouched worker earlier
      · exact different worker (List.mem_singleton.mp last).symm

theorem warranted_nil : Warranted ([] : List (QueueEvent κ)) := by
  intro before worker key after split
  simp at split

theorem Warranted.concat {history : List (QueueEvent κ)} (warranted : Warranted history)
    (event : QueueEvent κ) (last : ∀ worker key, event = .handed worker key → Awaits key history) :
    Warranted (history ++ [event]) := by
  intro before worker key after split
  rcases List.eq_nil_or_concat after with rfl | ⟨middle, final, rfl⟩
  · obtain ⟨same, eventSame⟩ := List.append_inj' split rfl
    subst same
    exact last worker key (List.cons.inj eventSame).1
  · have regrouped : history ++ [event] = (before ++ .handed worker key :: middle) ++ [final] := by
      simpa using split
    exact warranted before worker key middle (List.append_inj' regrouped rfl).1

variable [DecidableEq κ]

/-- Counts the rounds of admissions of a key: whether one is under way, and how
many there were. A round begins with an admission that finds none under way, and
a handout ends it. -/
def countRound (key : κ) (tally : Bool × Nat) : QueueEvent κ → Bool × Nat
  | .admitted other =>
      if other = key then (true, if tally.1 then tally.2 else tally.2 + 1) else tally
  | .handed _ other => if other = key then (false, tally.2) else tally
  | .entered _ => tally

def roundTally (key : κ) (history : List (QueueEvent κ)) : Bool × Nat :=
  history.foldl (countRound key) (false, 0)

def rounds (key : κ) (history : List (QueueEvent κ)) : Nat :=
  (roundTally key history).2

def handouts (key : κ) (history : List (QueueEvent κ)) : Nat :=
  (history.filterMap QueueEvent.handedKey?).count key

theorem roundTally_concat (key : κ) (history : List (QueueEvent κ)) (event : QueueEvent κ) :
    roundTally key (history ++ [event]) = countRound key (roundTally key history) event := by
  unfold roundTally
  rw [List.foldl_append, List.foldl_cons, List.foldl_nil]

theorem handouts_concat (key : κ) (history : List (QueueEvent κ)) (event : QueueEvent κ) :
    handouts key (history ++ [event]) =
      handouts key history + if event.handedKey? = some key then 1 else 0 := by
  unfold handouts
  rw [List.filterMap_append, List.count_append]
  cases event with
  | admitted other => rfl
  | entered other => rfl
  | handed worker other =>
      by_cases same : other = key
      · simp [QueueEvent.handedKey?, same]
      · simp [QueueEvent.handedKey?, same]

structure Recorded (history : List (QueueEvent κ)) (queue : WorkQueue κ) : Prop where
  awaits : ∀ key, Awaits key history ↔ key ∈ queue.dirty
  tally : ∀ key, roundTally key history =
    (decide (key ∈ queue.dirty), handouts key history + if key ∈ queue.dirty then 1 else 0)
  in_order : history.filterMap QueueEvent.enteredKey? =
    history.filterMap QueueEvent.handedKey? ++ queue.ready
  warranted : Warranted history

namespace Recorded

variable {history : List (QueueEvent κ)} {queue other : WorkQueue κ}

theorem initial (empty : queue.dirty = [] ∧ queue.ready = []) : Recorded [] queue := by
  constructor
  · intro key
    simp [not_awaits_nil, empty.1]
  · intro key
    simp [roundTally, handouts, empty.1]
  · rw [empty.2]
    rfl
  · exact warranted_nil

theorem of_lists (recorded : Recorded history queue) (ready : other.ready = queue.ready)
    (dirty : other.dirty = queue.dirty) : Recorded history other := by
  constructor
  · rw [dirty]
    exact recorded.awaits
  · rw [dirty]
    exact recorded.tally
  · rw [ready]
    exact recorded.in_order
  · exact recorded.warranted

theorem admitted (recorded : Recorded history queue) (key : κ)
    (ready : other.ready = queue.ready)
    (dirty : ∀ k, k ∈ other.dirty ↔ k = key ∨ k ∈ queue.dirty) :
    Recorded (history ++ [.admitted key]) other := by
  constructor
  · intro k
    rw [awaits_concat, recorded.awaits k, dirty k]
    simp [eq_comm]
  · intro k
    rw [roundTally_concat, recorded.tally k, handouts_concat]
    by_cases same : key = k
    · subst same
      by_cases marked : key ∈ queue.dirty
      · simp [countRound, QueueEvent.handedKey?, dirty key, marked]
      · simp [countRound, QueueEvent.handedKey?, dirty key, marked]
    · have differs : k ≠ key := fun equal => same equal.symm
      simp [countRound, QueueEvent.handedKey?, dirty k, same, differs]
  · rw [List.filterMap_append, List.filterMap_append, ready, recorded.in_order]
    simp [List.filterMap_cons, QueueEvent.enteredKey?, QueueEvent.handedKey?]
  · exact recorded.warranted.concat _ fun worker k impossible => by cases impossible

theorem entered (recorded : Recorded history queue) (key : κ)
    (ready : other.ready = queue.ready ++ [key]) (dirty : other.dirty = queue.dirty) :
    Recorded (history ++ [.entered key]) other := by
  constructor
  · intro k
    rw [awaits_concat, recorded.awaits k, dirty]
    simp
  · intro k
    rw [roundTally_concat, recorded.tally k, handouts_concat, dirty]
    simp [countRound, QueueEvent.handedKey?]
  · rw [List.filterMap_append, List.filterMap_append, ready, recorded.in_order]
    simp [List.filterMap_cons, QueueEvent.enteredKey?, QueueEvent.handedKey?]
  · exact recorded.warranted.concat _ fun worker k impossible => by cases impossible

theorem handed (recorded : Recorded history queue) (worker : TaskId) (key : κ)
    (ready : queue.ready = key :: other.ready) (marked : key ∈ queue.dirty)
    (dirty : ∀ k, k ∈ other.dirty ↔ k ≠ key ∧ k ∈ queue.dirty) :
    Recorded (history ++ [.handed worker key]) other := by
  constructor
  · intro k
    rw [awaits_concat, recorded.awaits k, dirty k]
    simp only [QueueEvent.handed.injEq, not_and, reduceCtorEq, false_or, ne_eq]
    constructor
    · intro given
      obtain ⟨before, kept⟩ := given
      exact ⟨fun same => kept worker rfl same.symm, before⟩
    · intro given
      obtain ⟨different, before⟩ := given
      exact ⟨before, fun _ _ same => different same.symm⟩
  · intro k
    rw [roundTally_concat, recorded.tally k, handouts_concat]
    by_cases same : key = k
    · subst same
      simp [countRound, QueueEvent.handedKey?, dirty key, marked]
    · have differs : k ≠ key := fun equal => same equal.symm
      simp [countRound, QueueEvent.handedKey?, dirty k, same, differs]
  · rw [List.filterMap_append, List.filterMap_append, recorded.in_order, ready]
    simp [List.filterMap_cons, QueueEvent.enteredKey?, QueueEvent.handedKey?]
  · refine recorded.warranted.concat _ fun other k same => ?_
    cases same
    exact (recorded.awaits key).mpr marked

theorem admission (recorded : Recorded history queue) (isOpen : queue.closed = false) (key : κ) :
    Recorded (history ++ queue.admission key) (queue.add key).2 := by
  unfold WorkQueue.admission
  obtain ⟨refused, added⟩ | ⟨_, _, _, added⟩ | ⟨_, _, _, added⟩ := queue.add_cases key
  · have marked : key ∈ queue.dirty := by
      rw [isOpen] at refused
      exact refused.resolve_left Bool.false_ne_true
    rw [added]
    refine recorded.admitted key rfl fun k => ?_
    constructor
    · exact .inr
    · intro either
      rcases either with rfl | before
      · exact marked
      · exact before
  · rw [added]
    exact recorded.admitted key rfl fun k => List.mem_cons
  · rw [added]
    let unlined : WorkQueue κ := { queue with dirty := key :: queue.dirty }
    have first : Recorded (history ++ [.admitted key]) unlined :=
      recorded.admitted key rfl fun k => List.mem_cons
    have second : Recorded ((history ++ [.admitted key]) ++ [.entered key])
        { unlined with ready := queue.ready ++ [key] } := first.entered key rfl rfl
    rw [List.append_assoc] at second
    exact second

theorem addEvents (recorded : Recorded history queue) (key : κ) :
    Recorded (history ++ queue.addEvents key) (queue.add key).2 := by
  unfold WorkQueue.addEvents
  cases closed : queue.closed with
  | false => exact recorded.admission closed key
  | true =>
      have refused : queue.add key = (false, queue) := by
        unfold WorkQueue.add
        rw [if_pos (.inl closed)]
      rw [refused]
      simpa using recorded

theorem delay (recorded : Recorded history queue) (time : Nat) (key : κ) :
    Recorded history (queue.delay time key).2 :=
  recorded.of_lists (queue.delay_ready time key) (queue.delay_dirty time key)

theorem promoteEvents (entries : List (Delayed κ)) (recorded : Recorded history queue)
    (isOpen : queue.closed = false) :
    Recorded (history ++ WorkQueue.promoteEvents entries queue)
      (entries.foldl WorkQueue.promoteEntry queue) := by
  induction entries generalizing history queue with
  | nil => simpa [WorkQueue.promoteEvents] using recorded
  | cons entry rest ih =>
      have stillOpen : (queue.promoteEntry entry).closed = false := by
        rw [WorkQueue.promoteEntry_closed, isOpen]
      rw [WorkQueue.promoteEvents, ← List.append_assoc, List.foldl_cons]
      refine ih ?_ stillOpen
      obtain ⟨counts, promoted⟩ | ⟨superseded, promoted⟩ := queue.promoteEntry_cases entry
      · rw [if_pos counts, promoted]
        have undelayed :
            Recorded history { queue with deadlines := queue.deadlines.erase entry.key } :=
          recorded.of_lists rfl rfl
        exact undelayed.admission isOpen entry.key
      · rw [if_neg superseded, promoted, List.append_nil]
        exact recorded

theorem handOutEvents (recorded : Recorded history queue) (placed : queue.Placed)
    (worker : TaskId) : Recorded (history ++ queue.handOutEvents worker) queue.handOut.2 := by
  unfold WorkQueue.handOutEvents
  obtain ⟨key, rest, line, handed⟩ | ⟨_, _, handed⟩ | ⟨_, _, handed⟩ := queue.handOut_cases
  · rw [handed]
    refine recorded.handed worker key line (placed.ready_dirty key (by simp [line])) fun k => ?_
    exact placed.dirtyNodup.mem_erase_iff
  all_goals rw [handed]; simpa using recorded

theorem completeEvents (recorded : Recorded history queue) (key : κ) :
    Recorded (history ++ queue.completeEvents key) (queue.complete key).2 := by
  unfold WorkQueue.completeEvents
  obtain ⟨_, completed⟩ | ⟨_, completed⟩ := queue.complete_cases key
  · rw [completed]
    exact recorded.entered key rfl rfl
  · rw [completed]
    change Recorded (history ++ []) _
    rw [List.append_nil]
    exact recorded.of_lists rfl rfl

/-- A queue without delayed keys only hands out. -/
theorem takeEvents (recorded : Recorded history queue) (placed : queue.Placed)
    (closed_line : queue.closed = true → queue.delayed = []) (now : Nat) (worker : TaskId) :
    Recorded (history ++ queue.takeEvents now worker) (queue.take now).2 := by
  unfold WorkQueue.takeEvents WorkQueue.take
  rw [← List.append_assoc]
  refine handOutEvents ?_ (placed.promote now) worker
  have unlined : Recorded history
      { queue with delayed := queue.delayed.dropWhile (·.time ≤ now) } :=
    recorded.of_lists rfl rfl
  by_cases closed : queue.closed = true
  · have nobody : queue.delayed.takeWhile (·.time ≤ now) = [] := by
      rw [closed_line closed]
      rfl
    unfold WorkQueue.promote
    rw [nobody, WorkQueue.promoteEvents, List.append_nil]
    exact unlined
  · exact unlined.promoteEvents _ (Bool.eq_false_iff.mpr closed)

end Recorded

namespace QueueSession

theorem recorded_step {session : QueueSession κ} (sound : session.Sound)
    (recorded : Recorded session.history session.queue) (step : QueueStep κ) :
    Recorded (session.step step).history (session.step step).queue := by
  have unchanged : Recorded (session.history ++ []) session.queue := by
    rw [List.append_nil]
    exact recorded
  cases step with
  | add key => exact recorded.addEvents key
  | addAfter read delay key =>
      change Recorded (session.history ++ if delay = 0 then session.queue.addEvents key else [])
        (session.shared.addAfter read delay key).queue
      rw [SharedQueue.addAfter_queue]
      by_cases immediate : delay = 0
      · rw [if_pos immediate, if_pos immediate]
        exact recorded.addEvents key
      · rw [if_neg immediate, if_neg immediate]
        exact unchanged.delay _ key
  | addRateLimited read key =>
      change Recorded (session.history ++
          if (session.shared.limiter.reserve read key).1 = 0 then session.queue.addEvents key
          else []) (session.shared.addRateLimited read key).queue
      rw [SharedQueue.addRateLimited_queue]
      by_cases immediate : (session.shared.limiter.reserve read key).1 = 0
      · rw [if_pos immediate, if_pos immediate]
        exact recorded.addEvents key
      · rw [if_neg immediate, if_neg immediate]
        exact unchanged.delay _ key
  | reserve read key => exact unchanged
  | forget key => exact unchanged
  | take worker =>
      exact recorded.takeEvents sound.placed sound.closed_line session.clock worker
  | leave worker => exact unchanged
  | complete worker key =>
      change Recorded (session.complete worker key).history (session.complete worker key).queue
      unfold QueueSession.complete
      by_cases holds : (worker, key) ∈ session.held
      · rw [if_pos holds]
        exact recorded.completeEvents key
      · rw [if_neg holds]
        exact recorded
  | close => exact unchanged.of_lists rfl rfl
  | advance span => exact recorded

theorem run_recorded (interval : Nat) (steps : List (QueueStep κ)) :
    Recorded (run interval steps).history (run interval steps).queue := by
  have both : (run interval steps).Sound ∧
      Recorded (run interval steps).history (run interval steps).queue := by
    apply run_induction
      (motive := fun session => session.Sound ∧ Recorded session.history session.queue)
    · exact ⟨ofInterval_sound interval, Recorded.initial ⟨rfl, rfl⟩⟩
    · rintro session step ⟨sound, recorded⟩
      exact ⟨sound.step step, recorded_step sound recorded step⟩
  exact both.2

/-- A worker that is done with a key that was marked meanwhile puts it in line. -/
theorem mem_ready_complete {session : QueueSession κ} {worker : TaskId} {key : κ}
    (holds : (worker, key) ∈ session.held) (marked : key ∈ session.queue.dirty) :
    key ∈ (session.complete worker key).queue.ready := by
  unfold QueueSession.complete
  rw [if_pos holds]
  change key ∈ (session.queue.complete key).2.ready
  obtain ⟨_, completed⟩ | ⟨clean, _⟩ := session.queue.complete_cases key
  · rw [completed]
    exact List.mem_append_right _ (List.mem_singleton.mpr rfl)
  · exact absurd marked clean

/-- Whatever callers and workers do, a key is marked from its admission until it is
handed out, and is meanwhile ready or held by a worker that puts it in line. So a
handout follows an admission that is later than the handout before, each round of
admissions gets one handout, and the ready keys are those that became ready and
were not handed out, in that order. -/
theorem run_delivers (interval : Nat) (steps : List (QueueStep κ)) :
    let session := run interval steps
    (∀ key, Awaits key session.history ↔ key ∈ session.queue.dirty) ∧
      (∀ key, Awaits key session.history →
        key ∈ session.queue.ready ∨
          ∃ worker, (worker, key) ∈ session.held ∧
            key ∈ (session.step (.complete worker key)).queue.ready) ∧
      Warranted session.history ∧
      (∀ key, rounds key session.history =
        handouts key session.history + if key ∈ session.queue.dirty then 1 else 0) ∧
      session.history.filterMap QueueEvent.enteredKey? =
        session.history.filterMap QueueEvent.handedKey? ++ session.queue.ready := by
  intro session
  have sound : session.Sound := run_sound interval steps
  have recorded : Recorded session.history session.queue := run_recorded interval steps
  refine ⟨recorded.awaits, ?_, recorded.warranted, ?_, recorded.in_order⟩
  · intro key waits
    have marked := (recorded.awaits key).mp waits
    rcases sound.placed.dirty_placed key marked with ready | processing
    · exact .inl ready
    · obtain ⟨worker, holds⟩ := (sound.held_processing key).mp processing
      exact .inr ⟨worker, holds, mem_ready_complete holds marked⟩
  · intro key
    exact congrArg Prod.snd (recorded.tally key)

end QueueSession

end PolicyReplica
