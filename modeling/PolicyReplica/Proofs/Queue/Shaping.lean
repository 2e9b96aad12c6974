import Mathlib.Data.List.Pairwise
import Mathlib.Data.List.Perm.Subperm
import Mathlib.Data.List.TakeWhile
import PolicyReplica.Proofs.Queue.Draining
import PolicyReplica.Proofs.Queue.Spacing

/-
A queue whose keys are all added through the rate limiter.

The limiter gives each addition a slot, a time of its own. An addition whose slot has come
is an admission at once; another one waits as a delayed key and is an admission at its
deadline. The limiter and the queue read the clock each for itself, and the deadline is the
slot only if they read the same. Main statement: whatever workers do meanwhile, and however
many additions of one key become one, slots are the interval apart, each addition brings
about at most one admission, which comes after its slot by what the clock went on between
its readings, and no key is handed out before it was admitted. So if no addition takes any
time, each admission takes place at a slot of its own, and admissions are the interval apart.
-/

namespace PolicyReplica

/-- A rate limited addition that has its delay and has not come to the queue. -/
structure OpenAddition (κ : Type) where
  key : κ
  /-- What the limiter read from the clock. -/
  read : Nat
  delay : Nat
  deriving DecidableEq, Repr

structure ClosedAddition (κ : Type) where
  call : OpenAddition κ
  /-- What the queue read from the clock. -/
  reread : Nat
  deriving DecidableEq, Repr

def OpenAddition.slot {κ : Type} (call : OpenAddition κ) : κ × Nat :=
  (call.key, call.read + call.delay)

/-- Without a delay the queue does not read the clock. -/
def OpenAddition.enters {κ : Type} (call : OpenAddition κ) (reading : Nat) : ClosedAddition κ :=
  { call, reread := if call.delay = 0 then call.read else max call.read reading }

def ClosedAddition.due {κ : Type} (addition : ClosedAddition κ) : κ × Nat :=
  (addition.call.key, addition.reread + addition.call.delay)

def ClosedAddition.lag {κ : Type} (addition : ClosedAddition κ) : Nat :=
  addition.reread - addition.call.read

theorem OpenAddition.read_le_reread {κ : Type} (call : OpenAddition κ) (reading : Nat) :
    call.read ≤ (call.enters reading).reread := by
  unfold enters
  by_cases immediate : call.delay = 0
  · exact Nat.le_of_eq (if_pos immediate).symm
  · rw [if_neg immediate]
    exact Nat.le_max_left _ _

theorem OpenAddition.reread_le {κ : Type} {call : OpenAddition κ} {now : Nat}
    (past : call.read ≤ now) (age : Nat) : (call.enters (now - age)).reread ≤ now := by
  unfold enters
  by_cases immediate : call.delay = 0
  · rw [if_pos immediate]
    exact past
  · rw [if_neg immediate]
    exact Nat.max_le.mpr ⟨past, Nat.sub_le now age⟩

/-- The clock may have been read some time before the limiter, or the queue, was free; `age`
is how long before. -/
inductive ShapedStep (κ : Type) where
  /-- The part of an addition that concerns the limiter. -/
  | reserve (key : κ) (age : Nat)
  /-- The part of an addition that concerns the queue. -/
  | enter (call : OpenAddition κ) (age : Nat)
  | take (worker : TaskId)
  | leave (worker : TaskId)
  | complete (worker : TaskId) (key : κ)
  | forget (key : κ)
  | close
  | advance (span : Nat)

structure ShapedQueue (κ : Type) where
  session : QueueSession κ
  calls : List (OpenAddition κ)
  /-- The additions that have come to the queue. -/
  entered : List (ClosedAddition κ)
  /-- The slots that the limiter has given out, and for which keys, the oldest first. -/
  slots : List (κ × Nat)
  /-- What happened so far; an admission has the time for which it was due, everything else
  the time when it happened. -/
  journal : List (QueueEvent κ × Nat)

variable {κ : Type}

def QueueEvent.stamp (due now : Nat) : QueueEvent κ → QueueEvent κ × Nat
  | .admitted key => (.admitted key, due)
  | event => (event, now)

theorem QueueEvent.map_stamp (due now : Nat) (events : List (QueueEvent κ)) :
    (events.map (stamp due now)).map Prod.fst = events := by
  rw [List.map_map]
  refine (List.map_congr_left fun event _ => ?_).trans (List.map_id events)
  cases event <;> rfl

def QueueEvent.admission? : QueueEvent κ × Nat → Option (κ × Nat)
  | (.admitted key, time) => some (key, time)
  | (.entered _, _) | (.handed _ _, _) => none

namespace WorkQueue

variable [DecidableEq κ]

def promoteStamps (now : Nat) : List (Delayed κ) → WorkQueue κ → List (QueueEvent κ × Nat)
  | [], _ => []
  | entry :: rest, queue =>
      (if queue.deadlines.get? entry.key = some entry.time then
        (.admitted entry.key, entry.time) ::
          if ({ queue with deadlines := queue.deadlines.erase entry.key }.add entry.key).1 then
            [(.entered entry.key, now)]
          else []
      else []) ++ promoteStamps now rest (queue.promoteEntry entry)

theorem promoteStamps_events (now : Nat) (entries : List (Delayed κ)) (queue : WorkQueue κ) :
    (promoteStamps now entries queue).map Prod.fst = promoteEvents entries queue := by
  induction entries generalizing queue with
  | nil => rfl
  | cons entry rest ih =>
      unfold promoteStamps promoteEvents admission
      rw [List.map_append, ih]
      congr 1
      split
      · rw [List.map_cons]
        congr 1
        split <;> rfl
      · rfl

def takeStamps (queue : WorkQueue κ) (now : Nat) (worker : TaskId) : List (QueueEvent κ × Nat) :=
  promoteStamps now (queue.delayed.takeWhile (·.time ≤ now))
      { queue with delayed := queue.delayed.dropWhile (·.time ≤ now) } ++
    ((queue.promote now).handOutEvents worker).map (·, now)

theorem admitted_not_mem_handOutEvents (queue : WorkQueue κ) (worker : TaskId) (key : κ) :
    .admitted key ∉ queue.handOutEvents worker := by
  unfold handOutEvents
  split <;> simp

theorem map_pairing {α : Type} (events : List α) (now : Nat) :
    (events.map (·, now)).map Prod.fst = events := by
  rw [List.map_map]
  exact List.map_id events

theorem takeStamps_events (queue : WorkQueue κ) (now : Nat) (worker : TaskId) :
    (queue.takeStamps now worker).map Prod.fst = queue.takeEvents now worker := by
  unfold takeStamps takeEvents
  rw [List.map_append, promoteStamps_events, map_pairing]

theorem promoteStamps_due {now : Nat} {entries : List (Delayed κ)}
    (due : ∀ entry ∈ entries, entry.time ≤ now) (queue : WorkQueue κ) :
    ∀ stamp ∈ promoteStamps now entries queue, stamp.2 ≤ now := by
  induction entries generalizing queue with
  | nil => exact fun _ => nofun
  | cons entry rest ih =>
      intro stamp member
      have here := due entry List.mem_cons_self
      unfold promoteStamps at member
      rcases List.mem_append.mp member with first | later
      · split at first
        · rcases List.mem_cons.mp first with rfl | second
          · exact here
          · split at second
            · exact Nat.le_of_eq (congrArg Prod.snd (List.mem_singleton.mp second))
            · cases second
        · cases first
      · exact ih (fun other inRest => due other (List.mem_cons_of_mem entry inRest)) _ stamp later

end WorkQueue

namespace Table

variable {ν : Type} [DecidableEq κ] [DecidableEq ν]

theorem count_entries_insert (table : Table κ ν) (key : κ) (value : ν) (entry : κ × ν) :
    (table.insert key value).entries.count entry ≤
      table.entries.count entry + if entry = (key, value) then 1 else 0 := by
  unfold insert
  rw [List.count_append, List.count_singleton]
  have kept : (table.entries.filter fun other => other.1 ≠ key).count entry ≤
      table.entries.count entry := List.filter_sublist.count_le entry
  simp only [beq_iff_eq, eq_comm (a := (key, value))]
  omega

theorem count_entries_erase {table : Table κ ν} {key : κ} {value : ν}
    (found : table.get? key = some value) (entry : κ × ν) :
    (table.erase key).entries.count entry + (if entry = (key, value) then 1 else 0) ≤
      table.entries.count entry := by
  by_cases same : entry = (key, value)
  · have gone : (table.erase key).entries.count entry = 0 := by
      refine List.count_eq_zero_of_not_mem fun member => ?_
      have different := (List.mem_filter.mp member).2
      simp [same] at different
    have present : 0 < table.entries.count entry := by
      rw [List.count_pos_iff, same]
      exact (mem_entries_iff table key value).mpr found
    rw [if_pos same]
    omega
  · rw [if_neg same]
    exact List.filter_sublist.count_le entry

end Table

namespace ShapedQueue

open QueueEvent (admission?)

def ofInterval (interval : Nat) : ShapedQueue κ :=
  { session := .ofInterval interval, calls := [], entered := [], slots := [], journal := [] }

def clock (shaped : ShapedQueue κ) : Nat :=
  shaped.session.clock

def limiter (shaped : ShapedQueue κ) : RateLimiter κ :=
  shaped.session.shared.limiter

def admissions (shaped : ShapedQueue κ) : List (κ × Nat) :=
  shaped.journal.filterMap admission?

theorem filterMap_admission?_entered {events : List (QueueEvent κ)} (now : Nat)
    (quiet : ∀ event ∈ events, ∀ key, event ≠ .admitted key) :
    (events.map (·, now)).filterMap admission? = [] := by
  rw [List.filterMap_eq_nil_iff]
  intro stamp member
  obtain ⟨event, present, rfl⟩ := List.mem_map.mp member
  cases event with
  | admitted key => exact absurd rfl (quiet _ present key)
  | entered key | handed worker key => rfl

theorem admissions_of_journal {shaped next : ShapedQueue κ} {stamps : List (QueueEvent κ × Nat)}
    (journal : next.journal = shaped.journal ++ stamps) :
    next.admissions = shaped.admissions ++ stamps.filterMap admission? := by
  unfold admissions
  rw [journal, List.filterMap_append]

/-- No reading is ahead of the clock, and the second one of an addition is not before the
first. -/
structure Timed (shaped : ShapedQueue κ) : Prop where
  past : ∀ call ∈ shaped.calls, call.read ≤ shaped.clock
  later : ∀ addition ∈ shaped.entered, addition.call.read ≤ addition.reread

def Within (lag : Nat) (shaped : ShapedQueue κ) : Prop :=
  ∀ addition ∈ shaped.entered, addition.lag ≤ lag

instance (lag : Nat) (shaped : ShapedQueue κ) : Decidable (shaped.Within lag) :=
  inferInstanceAs (Decidable (∀ addition ∈ shaped.entered, addition.lag ≤ lag))

/-- No addition takes any time: the limiter and the queue read the same from the clock. -/
def Prompt (shaped : ShapedQueue κ) : Prop :=
  shaped.Within 0

instance (shaped : ShapedQueue κ) : Decidable shaped.Prompt :=
  inferInstanceAs (Decidable (shaped.Within 0))

theorem Timed.stay {shaped next : ShapedQueue κ} (timed : shaped.Timed)
    (calls : next.calls = shaped.calls) (entered : next.entered = shaped.entered)
    (clock : shaped.clock ≤ next.clock) : next.Timed := by
  refine ⟨fun call member => ?_, fun addition member => ?_⟩
  · rw [calls] at member
    exact (timed.past call member).trans clock
  · rw [entered] at member
    exact timed.later addition member

theorem Timed.due_eq {shaped : ShapedQueue κ} (timed : shaped.Timed) :
    ∀ addition ∈ shaped.entered,
      addition.due = (addition.call.key, addition.call.slot.2 + addition.lag) := by
  intro addition member
  have later := timed.later addition member
  refine Prod.ext rfl ?_
  unfold ClosedAddition.due ClosedAddition.lag OpenAddition.slot
  omega

structure Punctual (shaped : ShapedQueue κ) : Prop where
  fresh : ∀ call ∈ shaped.calls, call.read = shaped.clock
  prompt : shaped.Prompt

theorem ofInterval_punctual (interval : Nat) :
    (ofInterval interval : ShapedQueue κ).Punctual :=
  ⟨fun _ member => absurd member List.not_mem_nil,
    fun _ member => absurd member List.not_mem_nil⟩

theorem Punctual.stay {shaped next : ShapedQueue κ} (punctual : shaped.Punctual)
    (calls : next.calls = shaped.calls) (entered : next.entered = shaped.entered)
    (clock : next.clock = shaped.clock) : next.Punctual := by
  refine ⟨fun call member => ?_, fun addition member => ?_⟩
  · rw [calls] at member
    rw [clock]
    exact punctual.fresh call member
  · rw [entered] at member
    exact punctual.prompt addition member

/-- The slots are the interval apart, and the last one is where the limiter stands. -/
structure Spaced (interval : Nat) (shaped : ShapedQueue κ) : Prop where
  rate : shaped.limiter.interval = interval
  cursor : shaped.limiter.cursor = shaped.slots.getLast?.map Prod.snd
  apart : shaped.slots.Pairwise fun earlier later => earlier.2 + interval ≤ later.2

theorem Spaced.stay {interval : Nat} {shaped next : ShapedQueue κ}
    (spaced : shaped.Spaced interval) (slots : next.slots = shaped.slots)
    (rate : next.limiter.interval = shaped.limiter.interval)
    (cursor : next.limiter.cursor = shaped.limiter.cursor) : next.Spaced interval := by
  refine ⟨rate.trans spaced.rate, ?_, ?_⟩
  · rw [cursor, slots]
    exact spaced.cursor
  · rw [slots]
    exact spaced.apart

theorem Spaced.le_next {interval : Nat} {shaped : ShapedQueue κ} (spaced : shaped.Spaced interval)
    (now : Nat) : ∀ slot ∈ shaped.slots, slot.2 + interval ≤ shaped.limiter.nextAdmission now := by
  intro slot member
  have cursor := spaced.cursor
  have apart := spaced.apart
  rcases List.eq_nil_or_concat shaped.slots with none | ⟨earlier, last, ends⟩
  · rw [none] at member
    cases member
  · rw [ends, List.concat_eq_append] at member cursor apart
    rw [List.getLast?_append, List.getLast?_singleton] at cursor
    have before : slot.2 ≤ last.2 := by
      rcases List.mem_append.mp member with first | only
      · have far := (List.pairwise_append.mp apart).2.2 slot first last (List.mem_singleton.mpr rfl)
        omega
      · rw [List.mem_singleton.mp only]
    have stands : shaped.limiter.earliest = last.2 + interval := by
      unfold RateLimiter.earliest
      rw [cursor, spaced.rate]
      rfl
    rw [RateLimiter.nextAdmission_eq_max, stands]
    exact (Nat.add_le_add_right before interval).trans (Nat.le_max_right _ _)

variable [DecidableEq κ]

def follow (shaped : ShapedQueue κ) (step : QueueStep κ) (events : List (QueueEvent κ)) :
    ShapedQueue κ :=
  { shaped with
    session := shaped.session.step step
    journal := shaped.journal ++ events.map (·, shaped.clock) }

def reserve (shaped : ShapedQueue κ) (key : κ) (age : Nat) : ShapedQueue κ :=
  let read := shaped.clock - age
  { shaped.follow (.reserve read key) [] with
    calls := shaped.calls ++ [⟨key, read, (shaped.limiter.reserve read key).1⟩]
    slots := shaped.slots ++ [(key, shaped.limiter.nextAdmission read)] }

def enterEvents (shaped : ShapedQueue κ) (call : OpenAddition κ) : List (QueueEvent κ) :=
  if call.delay = 0 then shaped.session.queue.addEvents call.key else []

def enter (shaped : ShapedQueue κ) (addition : ClosedAddition κ) : ShapedQueue κ :=
  { shaped with
    session := shaped.session.step
      (.addAfter addition.reread addition.call.delay addition.call.key)
    calls := shaped.calls.erase addition.call
    entered := shaped.entered ++ [addition]
    journal := shaped.journal ++ (shaped.enterEvents addition.call).map
      (QueueEvent.stamp addition.reread shaped.clock) }

def take (shaped : ShapedQueue κ) (worker : TaskId) : ShapedQueue κ :=
  { shaped with
    session := shaped.session.step (.take worker)
    journal := shaped.journal ++ shaped.session.queue.takeStamps shaped.clock worker }

def step (shaped : ShapedQueue κ) : ShapedStep κ → ShapedQueue κ
  | .reserve key age => shaped.reserve key age
  | .enter call age =>
      if call ∈ shaped.calls then shaped.enter (call.enters (shaped.clock - age)) else shaped
  | .take worker => shaped.take worker
  | .leave worker => shaped.follow (.leave worker) []
  | .complete worker key =>
      shaped.follow (.complete worker key)
        (if shaped.session.held.contains (worker, key) then
          shaped.session.queue.completeEvents key
        else [])
  | .forget key => shaped.follow (.forget key) []
  | .close => shaped.follow .close []
  | .advance span => shaped.follow (.advance span) []

def run (shaped : ShapedQueue κ) (steps : List (ShapedStep κ)) : ShapedQueue κ :=
  steps.foldl step shaped

/-- Only an addition that is under way comes to the queue. -/
theorem step_enter_cases (shaped : ShapedQueue κ) (call : OpenAddition κ) (age : Nat) :
    (call ∈ shaped.calls ∧
      shaped.step (.enter call age) = shaped.enter (call.enters (shaped.clock - age))) ∨
    shaped.step (.enter call age) = shaped := by
  by_cases underWay : call ∈ shaped.calls
  · exact .inl ⟨underWay, if_pos underWay⟩
  · exact .inr (if_neg underWay)

/-- The parts of an addition that is made without a break are the whole of it. -/
theorem enter_reserve (shaped : ShapedQueue κ) (key : κ) :
    let call := ⟨key, shaped.clock, (shaped.limiter.reserve shaped.clock key).1⟩
    (shaped.run [.reserve key 0, .enter call 0]).session =
      shaped.session.step (.addRateLimited shaped.clock key) := by
  intro call
  have underWay : call ∈ (shaped.reserve key 0).calls :=
    List.mem_append_right _ (List.mem_singleton.mpr rfl)
  have reread : (call.enters shaped.clock).reread = shaped.clock := by
    unfold OpenAddition.enters
    rw [Nat.max_self, ite_self]
  have entered : shaped.run [.reserve key 0, .enter call 0] =
      (shaped.reserve key 0).enter (call.enters shaped.clock) := if_pos underWay
  rw [entered]
  unfold enter
  rw [reread]
  change ({ shaped.session with
    shared := _, history := (shaped.session.history ++ []) ++ _ } : QueueSession κ) = _
  rw [List.append_nil]
  rfl

/-! ### Readings of the clock -/

theorem Timed.step {shaped : ShapedQueue κ} (timed : shaped.Timed) (step : ShapedStep κ) :
    (shaped.step step).Timed := by
  cases step with
  | reserve key age =>
      refine ⟨fun call member => ?_, timed.later⟩
      rcases List.mem_append.mp member with earlier | new
      · exact timed.past call earlier
      · rw [List.mem_singleton.mp new]
        exact Nat.sub_le _ _
  | enter call age =>
      obtain ⟨_, entered⟩ | ignored := shaped.step_enter_cases call age
      · rw [entered]
        refine ⟨fun other member => timed.past other (List.mem_of_mem_erase member), ?_⟩
        intro addition member
        rcases List.mem_append.mp member with earlier | new
        · exact timed.later addition earlier
        · rw [List.mem_singleton.mp new]
          exact call.read_le_reread _
      · rw [ignored]
        exact timed
  | take worker => exact timed.stay rfl rfl (Nat.le_refl _)
  | leave worker => exact timed.stay rfl rfl (Nat.le_refl _)
  | complete worker key =>
      obtain ⟨clock, _, _, _⟩ := shaped.session.complete_frame worker key
      exact timed.stay rfl rfl (Nat.le_of_eq clock.symm)
  | forget key => exact timed.stay rfl rfl (Nat.le_refl _)
  | close => exact timed.stay rfl rfl (Nat.le_refl _)
  | advance span => exact timed.stay rfl rfl (Nat.le_add_right _ _)

/-! ### What is told -/

/-- The journal tells what the history tells; nothing in it was due later than it was told,
and nothing later than a handout that follows it. -/
structure Told (shaped : ShapedQueue κ) : Prop where
  sound : shaped.session.Sound
  recorded : Recorded shaped.session.history shaped.session.queue
  events : shaped.journal.map Prod.fst = shaped.session.history
  due : ∀ stamp ∈ shaped.journal, stamp.2 ≤ shaped.clock
  handed : shaped.journal.Pairwise fun earlier later =>
    ∀ worker key, later.1 = .handed worker key → earlier.2 ≤ later.2

theorem Told.extend {shaped next : ShapedQueue κ} (told : shaped.Told) (step : QueueStep κ)
    {stamps : List (QueueEvent κ × Nat)} (session : next.session = shaped.session.step step)
    (journal : next.journal = shaped.journal ++ stamps) (later : shaped.clock ≤ next.clock)
    (events : (shaped.session.step step).history = shaped.session.history ++ stamps.map Prod.fst)
    (due : ∀ stamp ∈ stamps, stamp.2 ≤ shaped.clock)
    (handed : ∀ stamp ∈ stamps, ∀ worker key, stamp.1 = .handed worker key →
      stamp.2 = shaped.clock) : next.Told := by
  constructor
  · rw [session]
    exact told.sound.step step
  · rw [session]
    exact QueueSession.recorded_step told.sound told.recorded step
  · rw [session, journal, List.map_append, told.events, events]
  · intro stamp member
    rw [journal] at member
    rcases List.mem_append.mp member with earlier | new
    · exact Nat.le_trans (told.due stamp earlier) later
    · exact Nat.le_trans (due stamp new) later
  · rw [journal, List.pairwise_append]
    refine ⟨told.handed, ?_, ?_⟩
    · rw [List.pairwise_iff_forall_sublist]
      intro earlier last both worker key same
      rw [handed last (both.subset (by simp)) worker key same]
      exact due earlier (both.subset (by simp))
    · intro earlier first last second worker key same
      rw [handed last second worker key same]
      exact told.due earlier first

theorem Told.follow {shaped next : ShapedQueue κ} (told : shaped.Told) (step : QueueStep κ)
    (events : List (QueueEvent κ)) (session : next.session = shaped.session.step step)
    (journal : next.journal = shaped.journal ++ events.map (·, shaped.clock))
    (later : shaped.clock ≤ next.clock)
    (history : (shaped.session.step step).history = shaped.session.history ++ events) :
    next.Told := by
  refine told.extend step session journal later ?_ ?_ ?_
  · rw [WorkQueue.map_pairing]
    exact history
  · intro stamp member
    obtain ⟨event, _, rfl⟩ := List.mem_map.mp member
    exact Nat.le_refl _
  · intro stamp member worker key _
    obtain ⟨event, _, rfl⟩ := List.mem_map.mp member
    rfl

theorem Told.take {shaped : ShapedQueue κ} (told : shaped.Told) (worker : TaskId) :
    (shaped.step (.take worker)).Told := by
  refine told.extend (.take worker) rfl rfl (Nat.le_refl _) ?_ ?_ ?_
  · rw [WorkQueue.takeStamps_events]
    rfl
  · intro stamp member
    rcases List.mem_append.mp member with promoted | handedOut
    · refine WorkQueue.promoteStamps_due (fun entry due => ?_) _ stamp promoted
      simpa using List.mem_takeWhile_imp due
    · obtain ⟨event, _, rfl⟩ := List.mem_map.mp handedOut
      exact Nat.le_refl _
  · intro stamp member other key same
    rcases List.mem_append.mp member with promoted | handedOut
    · have event := List.mem_map_of_mem (f := Prod.fst) promoted
      rw [WorkQueue.promoteStamps_events, same] at event
      exact absurd event (WorkQueue.handed_not_mem_promoteEvents _ _ other key)
    · obtain ⟨event, _, rfl⟩ := List.mem_map.mp handedOut
      rfl

theorem Told.enter {shaped : ShapedQueue κ} (told : shaped.Told) {addition : ClosedAddition κ}
    (past : addition.reread ≤ shaped.clock) : (shaped.enter addition).Told := by
  refine told.extend (.addAfter addition.reread addition.call.delay addition.call.key) rfl rfl
    (Nat.le_refl _) ?_ ?_ ?_
  · rw [QueueEvent.map_stamp]
    rfl
  · intro stamp member
    obtain ⟨event, _, rfl⟩ := List.mem_map.mp member
    cases event with
    | admitted key => exact past
    | entered key | handed worker key => exact Nat.le_refl _
  · intro stamp member worker key same
    obtain ⟨event, _, rfl⟩ := List.mem_map.mp member
    cases event with
    | handed worker key => rfl
    | admitted key | entered key => cases same

theorem Told.step {shaped : ShapedQueue κ} (told : shaped.Told) (timed : shaped.Timed)
    (step : ShapedStep κ) : (shaped.step step).Told := by
  cases step with
  | reserve key age =>
      exact told.follow (.reserve (shaped.clock - age) key) [] rfl rfl (Nat.le_refl _) rfl
  | enter call age =>
      obtain ⟨underWay, entered⟩ | ignored := shaped.step_enter_cases call age
      · rw [entered]
        exact told.enter (OpenAddition.reread_le (timed.past call underWay) age)
      · rw [ignored]
        exact told
  | take worker => exact told.take worker
  | leave worker =>
      exact told.follow (.leave worker) [] rfl rfl (Nat.le_refl _) rfl
  | complete worker key =>
      obtain ⟨clock, _, _, history⟩ := shaped.session.complete_frame worker key
      exact told.follow (.complete worker key) _ rfl rfl (Nat.le_of_eq clock.symm) history
  | forget key => exact told.follow (.forget key) [] rfl rfl (Nat.le_refl _) rfl
  | close => exact told.follow .close [] rfl rfl (Nat.le_refl _) rfl
  | advance span =>
      exact told.follow (.advance span) [] rfl rfl (Nat.le_add_right _ _)
        (List.append_nil _).symm

/-! ### What the limiter gives out -/

theorem Spaced.step {interval : Nat} {shaped : ShapedQueue κ} (spaced : shaped.Spaced interval)
    (step : ShapedStep κ) : (shaped.step step).Spaced interval := by
  cases step with
  | reserve key age =>
      refine ⟨spaced.rate, ?_, ?_⟩
      · change some _ = (shaped.slots ++ [_]).getLast?.map Prod.snd
        rw [List.getLast?_append]
        rfl
      · change (shaped.slots ++ [_]).Pairwise _
        rw [List.pairwise_append]
        refine ⟨spaced.apart, List.pairwise_singleton _ _, fun slot member next only => ?_⟩
        rw [List.mem_singleton.mp only]
        exact spaced.le_next (shaped.clock - age) slot member
  | enter call age =>
      obtain ⟨_, entered⟩ | ignored := shaped.step_enter_cases call age
      · have same := shaped.session.shared.addAfter_limiter
          (call.enters (shaped.clock - age)).reread call.delay call.key
        rw [entered]
        exact spaced.stay rfl (congrArg RateLimiter.interval same)
          (congrArg RateLimiter.cursor same)
      · rw [ignored]
        exact spaced
  | take worker => exact spaced.stay rfl rfl rfl
  | leave worker => exact spaced.stay rfl rfl rfl
  | complete worker key =>
      obtain ⟨_, same, _, _⟩ := shaped.session.complete_frame worker key
      exact spaced.stay rfl (congrArg RateLimiter.interval same)
        (congrArg RateLimiter.cursor same)
  | forget key => exact spaced.stay rfl rfl rfl
  | close => exact spaced.stay rfl rfl rfl
  | advance span => exact spaced.stay rfl rfl rfl

/-! ### What the slots are used for -/

/-- Each admission and each deadline is due for an addition of its own, and each addition has a
slot of its own. -/
structure Charged (shaped : ShapedQueue κ) : Prop where
  used : ∀ due, shaped.admissions.count due + shaped.session.queue.deadlines.entries.count due ≤
    (shaped.entered.map ClosedAddition.due).count due
  given : (shaped.entered.map (·.call.slot) ++ shaped.calls.map OpenAddition.slot).Perm
    shaped.slots

/-- A delayed key that becomes due is admitted at its deadline. -/
theorem charged_promote (now : Nat) (entries : List (Delayed κ)) (queue : WorkQueue κ)
    (slot : κ × Nat) :
    ((WorkQueue.promoteStamps now entries queue).filterMap admission?).count slot +
        (entries.foldl WorkQueue.promoteEntry queue).deadlines.entries.count slot ≤
      queue.deadlines.entries.count slot := by
  induction entries generalizing queue with
  | nil => simp [WorkQueue.promoteStamps]
  | cons entry rest ih =>
      have later := ih (queue.promoteEntry entry)
      unfold WorkQueue.promoteStamps
      rw [List.filterMap_append, List.count_append, List.foldl_cons]
      obtain ⟨counts, promoted⟩ | ⟨superseded, promoted⟩ := queue.promoteEntry_cases entry
      · have deadlines : (queue.promoteEntry entry).deadlines =
            queue.deadlines.erase entry.key := by
          rw [promoted, WorkQueue.add_deadlines]
        have freed := Table.count_entries_erase counts slot
        have only : ∀ ready : Bool,
            (List.filterMap admission? (if ready = true then
              [((.entered entry.key : QueueEvent κ), now)] else [])) = [] := by
          intro ready
          cases ready <;> rfl
        rw [deadlines] at later
        rw [if_pos counts]
        change ((entry.key, entry.time) :: List.filterMap admission? _).count slot + _ + _ ≤ _
        rw [only, List.count_singleton]
        simp only [beq_iff_eq, eq_comm (a := (entry.key, entry.time))]
        omega
      · rw [promoted] at later
        rw [if_neg superseded]
        simpa [promoted] using later

theorem Charged.stay {shaped next : ShapedQueue κ} (charged : shaped.Charged)
    {events : List (QueueEvent κ)}
    (journal : next.journal = shaped.journal ++ events.map (·, shaped.clock))
    (quiet : ∀ event ∈ events, ∀ key, event ≠ .admitted key)
    (deadlines : ∀ due, next.session.queue.deadlines.entries.count due ≤
      shaped.session.queue.deadlines.entries.count due)
    (entered : next.entered = shaped.entered) (calls : next.calls = shaped.calls)
    (slots : next.slots = shaped.slots) : next.Charged := by
  constructor
  · intro due
    have before := charged.used due
    have kept := deadlines due
    rw [admissions_of_journal journal, filterMap_admission?_entered _ quiet, List.append_nil,
      entered]
    omega
  · rw [entered, calls, slots]
    exact charged.given

theorem Charged.reserve {shaped : ShapedQueue κ} (charged : shaped.Charged) (key : κ)
    (age : Nat) : (shaped.reserve key age).Charged := by
  have quiet : (shaped.reserve key age).admissions = shaped.admissions :=
    (admissions_of_journal rfl).trans (List.append_nil _)
  have slot : shaped.clock - age + (shaped.limiter.reserve (shaped.clock - age) key).1 =
      shaped.limiter.nextAdmission (shaped.clock - age) :=
    shaped.limiter.add_reserve (shaped.clock - age) key
  constructor
  · intro due
    rw [quiet]
    exact charged.used due
  · change (_ ++ (shaped.calls ++ [_]).map OpenAddition.slot).Perm (shaped.slots ++ [_])
    rw [List.map_append, ← List.append_assoc, ← slot]
    exact charged.given.append_right _

/-- What an addition admits and what it delays has together what is due for the addition. -/
theorem charged_enterEvents (shaped : ShapedQueue κ) (addition : ClosedAddition κ)
    (due : κ × Nat) :
    (((shaped.enterEvents addition.call).map
          (QueueEvent.stamp addition.reread shaped.clock)).filterMap admission?).count due +
        (shaped.enter addition).session.queue.deadlines.entries.count due ≤
      shaped.session.queue.deadlines.entries.count due + if due = addition.due then 1 else 0 := by
  obtain ⟨⟨key, read, delay⟩, reread⟩ := addition
  have entered : (shaped.enter ⟨⟨key, read, delay⟩, reread⟩).session.queue =
      if delay = 0 then (shaped.session.queue.add key).2
      else (shaped.session.queue.delay (reread + delay) key).2 :=
    shaped.session.shared.addAfter_queue reread delay key
  rw [entered]
  unfold enterEvents
  change _ ≤ _ + if due = (key, reread + delay) then 1 else 0
  generalize shaped.session.queue = queue
  by_cases immediate : delay = 0
  · rw [if_pos immediate, if_pos immediate, WorkQueue.add_deadlines, immediate, Nat.add_zero]
    cases closed : queue.closed with
    | true =>
        rw [QueueSession.addEvents_of_closed closed, List.map_nil, List.filterMap_nil,
          List.count_nil]
        omega
    | false =>
        have single : ((queue.addEvents key).map
            (QueueEvent.stamp reread shaped.clock)).filterMap admission? = [(key, reread)] := by
          unfold WorkQueue.addEvents WorkQueue.admission
          rw [closed, if_neg Bool.false_ne_true]
          cases (queue.add key).1 <;> rfl
        rw [single, List.count_singleton]
        simp only [beq_iff_eq, eq_comm (a := (key, reread))]
        omega
  · rw [if_neg immediate, if_neg immediate, List.map_nil, List.filterMap_nil, List.count_nil,
      Nat.zero_add]
    obtain ⟨delayed, _⟩ | ⟨_, delayed⟩ := queue.delay_cases (reread + delay) key
    · rw [delayed]
      exact Nat.le_add_right _ _
    · rw [delayed]
      exact queue.deadlines.count_entries_insert key (reread + delay) due

theorem Charged.enter {shaped : ShapedQueue κ} (charged : shaped.Charged)
    {addition : ClosedAddition κ} (underWay : addition.call ∈ shaped.calls) :
    (shaped.enter addition).Charged := by
  constructor
  · intro due
    have before := charged.used due
    have added := shaped.charged_enterEvents addition due
    have settled : ((shaped.enter addition).entered.map ClosedAddition.due).count due =
        (shaped.entered.map ClosedAddition.due).count due +
          if due = addition.due then 1 else 0 := by
      change ((shaped.entered ++ [addition]).map ClosedAddition.due).count due = _
      rw [List.map_append, List.count_append, List.map_singleton, List.count_singleton]
      simp only [beq_iff_eq, eq_comm (a := addition.due)]
    rw [admissions_of_journal rfl, List.count_append, settled]
    omega
  · -- The slot of the addition stays with it.
    have moved := (List.perm_cons_erase underWay).map OpenAddition.slot
    change ((shaped.entered ++ [addition]).map (·.call.slot) ++
      (shaped.calls.erase addition.call).map OpenAddition.slot).Perm shaped.slots
    rw [List.map_append, List.append_assoc]
    exact (moved.symm.append_left _).trans charged.given

theorem Charged.take {shaped : ShapedQueue κ} (charged : shaped.Charged) (worker : TaskId) :
    (shaped.take worker).Charged := by
  let line := shaped.session.queue.delayed
  let unlined : WorkQueue κ :=
    { shaped.session.queue with delayed := line.dropWhile (·.time ≤ shaped.clock) }
  let promoted := WorkQueue.promoteStamps shaped.clock
    (line.takeWhile (·.time ≤ shaped.clock)) unlined
  let handed := (shaped.session.queue.promote shaped.clock).handOutEvents worker
  refine ⟨fun due => ?_, charged.given⟩
  have before := charged.used due
  have promotes : (promoted.filterMap admission?).count due +
      (shaped.session.queue.promote shaped.clock).deadlines.entries.count due ≤
        shaped.session.queue.deadlines.entries.count due :=
    charged_promote shaped.clock (line.takeWhile (·.time ≤ shaped.clock)) unlined due
  have deadlines : (shaped.take worker).session.queue.deadlines =
      (shaped.session.queue.promote shaped.clock).deadlines :=
    (shaped.session.queue.promote shaped.clock).handOut_deadlines
  have none : (handed.map (·, shaped.clock)).filterMap admission? = [] := by
    refine filterMap_admission?_entered shaped.clock fun event member key same => ?_
    rw [same] at member
    exact (shaped.session.queue.promote shaped.clock).admitted_not_mem_handOutEvents worker key
      member
  have journal : (shaped.take worker).journal =
      shaped.journal ++ (promoted ++ handed.map (·, shaped.clock)) := rfl
  have admitted : (shaped.take worker).admissions =
      shaped.admissions ++ promoted.filterMap admission? := by
    rw [admissions_of_journal journal, List.filterMap_append, none, List.append_nil]
  rw [admitted, deadlines, List.count_append]
  change _ ≤ (shaped.entered.map ClosedAddition.due).count due
  omega

theorem Charged.step {shaped : ShapedQueue κ} (charged : shaped.Charged) (step : ShapedStep κ) :
    (shaped.step step).Charged := by
  have nothing : ∀ event ∈ ([] : List (QueueEvent κ)), ∀ key, event ≠ .admitted key := nofun
  cases step with
  | reserve key age => exact charged.reserve key age
  | enter call age =>
      obtain ⟨underWay, entered⟩ | ignored := shaped.step_enter_cases call age
      · rw [entered]
        exact charged.enter underWay
      · rw [ignored]
        exact charged
  | take worker => exact charged.take worker
  | leave worker => exact charged.stay rfl nothing (fun _ => Nat.le_refl _) rfl rfl rfl
  | complete worker key =>
      obtain ⟨_, _, deadlines, _⟩ := shaped.session.complete_frame worker key
      refine charged.stay rfl ?_ (fun due => ?_) rfl rfl rfl
      · intro event member other same
        split at member
        · unfold WorkQueue.completeEvents at member
          split at member
          · cases (List.mem_singleton.mp member).symm.trans same
          · cases member
        · cases member
      · change List.count due (shaped.session.complete worker key).queue.deadlines.entries ≤ _
        rw [deadlines]
  | forget key => exact charged.stay rfl nothing (fun _ => Nat.le_refl _) rfl rfl rfl
  | close => exact charged.stay rfl nothing (fun _ => Nat.zero_le _) rfl rfl rfl
  | advance span => exact charged.stay rfl nothing (fun _ => Nat.le_refl _) rfl rfl rfl

/-! ### Whole runs -/

structure Shaped (interval : Nat) (shaped : ShapedQueue κ) : Prop where
  timed : shaped.Timed
  told : shaped.Told
  spaced : shaped.Spaced interval
  charged : shaped.Charged

theorem ofInterval_shaped (interval : Nat) :
    (ofInterval interval : ShapedQueue κ).Shaped interval := by
  refine ⟨⟨nofun, nofun⟩, ⟨QueueSession.ofInterval_sound interval, Recorded.initial ⟨rfl, rfl⟩,
    rfl, nofun, ?_⟩, ⟨rfl, rfl, ?_⟩, ⟨fun due => Nat.le_refl 0, .nil⟩⟩
  · exact List.Pairwise.nil
  · exact List.Pairwise.nil

theorem run_shaped (interval : Nat) (steps : List (ShapedStep κ)) :
    ((ofInterval interval).run steps).Shaped interval := by
  suffices kept : ∀ shaped : ShapedQueue κ, shaped.Shaped interval →
      (shaped.run steps).Shaped interval from kept _ (ofInterval_shaped interval)
  induction steps with
  | nil => exact fun _ start => start
  | cons step rest ih =>
      intro shaped start
      exact ih _ ⟨start.timed.step step, start.told.step start.timed step,
        start.spaced.step step, start.charged.step step⟩

theorem Charged.subperm {shaped : ShapedQueue κ} (charged : shaped.Charged) :
    shaped.admissions.Subperm (shaped.entered.map ClosedAddition.due) := by
  rw [List.subperm_ext_iff]
  intro due _
  have total := charged.used due
  omega

theorem Charged.slots {shaped : ShapedQueue κ} (charged : shaped.Charged) :
    (shaped.entered.map (·.call.slot)).Subperm shaped.slots :=
  (List.sublist_append_left _ _).subperm.trans charged.given.subperm

theorem Told.handed_after {shaped : ShapedQueue κ} (told : shaped.Told)
    {before after : List (QueueEvent κ × Nat)} {worker : TaskId} {key : κ} {now : Nat}
    (journal : shaped.journal = before ++ (.handed worker key, now) :: after) :
    ∃ earlier due since, before = earlier ++ (.admitted key, due) :: since ∧
      (∀ other time, (.handed other key, time) ∉ since) := by
  have history : shaped.session.history =
      before.map Prod.fst ++ .handed worker key :: after.map Prod.fst := by
    rw [← told.events, journal, List.map_append, List.map_cons]
  obtain ⟨first, rest, split, untouched⟩ := told.recorded.warranted _ _ _ _ history
  obtain ⟨earlier, others, rfl, rfl, remaining⟩ := List.map_eq_append_iff.mp split
  obtain ⟨⟨event, due⟩, since, rfl, same, rfl⟩ := List.map_eq_cons_iff.mp remaining
  refine ⟨earlier, due, since, ?_, fun other time member => ?_⟩
  · rw [show event = .admitted key from same]
  · exact untouched other (List.mem_map_of_mem member)

theorem Shaped.apart {interval lag : Nat} {shaped : ShapedQueue κ}
    (kept : shaped.Shaped interval) (within : shaped.Within lag) :
    shaped.admissions.Pairwise fun one other =>
      one.2 + interval ≤ other.2 + lag ∨ other.2 + interval ≤ one.2 + lag := by
  -- The additions that are used have slots of their own, in the order of the slots.
  obtain ⟨dues, perm, among⟩ := kept.charged.subperm
  obtain ⟨used, sublist, rfl⟩ := List.sublist_map_iff.mp among
  obtain ⟨slots, permSlots, inOrder⟩ :=
    (sublist.map (·.call.slot)).subperm.trans kept.charged.slots
  have slotsApart : (used.map (·.call.slot)).Pairwise fun one other =>
      one.2 + interval ≤ other.2 ∨ other.2 + interval ≤ one.2 :=
    permSlots.pairwise ((kept.spaced.apart.sublist inOrder).imp .inl) .symm
  rw [List.pairwise_map] at slotsApart
  refine perm.pairwise (List.pairwise_map.mpr ?_) .symm
  refine slotsApart.imp_of_mem fun {one other} usedOne usedOther apart => ?_
  rw [kept.timed.due_eq one (sublist.subset usedOne),
    kept.timed.due_eq other (sublist.subset usedOther)]
  have lagOne := within one (sublist.subset usedOne)
  have lagOther := within other (sublist.subset usedOther)
  omega

theorem Shaped.admissions_subperm {interval : Nat} {shaped : ShapedQueue κ}
    (kept : shaped.Shaped interval) (prompt : shaped.Prompt) :
    shaped.admissions.Subperm shaped.slots := by
  have due : shaped.entered.map ClosedAddition.due = shaped.entered.map (·.call.slot) := by
    refine List.map_congr_left fun addition member => ?_
    rw [kept.timed.due_eq addition member, Nat.le_zero.mp (prompt addition member)]
    rfl
  have used := kept.charged.subperm
  rw [due] at used
  exact used.trans kept.charged.slots

/-! ### Prompt runs -/

/-- Holds if the clock stands while an addition is open, and is read at once. -/
def Stands (shaped : ShapedQueue κ) : ShapedStep κ → Prop
  | .reserve _ age | .enter _ age => age = 0
  | .advance _ => shaped.calls = []
  | .take _ | .leave _ | .complete _ _ | .forget _ | .close => True

def StandsThrough : ShapedQueue κ → List (ShapedStep κ) → Prop
  | _, [] => True
  | shaped, step :: later => shaped.Stands step ∧ StandsThrough (shaped.step step) later

theorem Punctual.step {shaped : ShapedQueue κ} (punctual : shaped.Punctual)
    {step : ShapedStep κ} (stands : shaped.Stands step) : (shaped.step step).Punctual := by
  cases step with
  | reserve key age =>
      obtain rfl : age = 0 := stands
      refine ⟨fun call member => ?_, punctual.prompt⟩
      rcases List.mem_append.mp member with earlier | new
      · exact punctual.fresh call earlier
      · rw [List.mem_singleton.mp new]
        rfl
  | enter call age =>
      obtain rfl : age = 0 := stands
      obtain ⟨underWay, entered⟩ | ignored := shaped.step_enter_cases call 0
      · rw [entered]
        refine ⟨fun other member => punctual.fresh other (List.mem_of_mem_erase member), ?_⟩
        intro addition member
        rcases List.mem_append.mp member with earlier | new
        · exact punctual.prompt addition earlier
        · rw [List.mem_singleton.mp new]
          have within := OpenAddition.reread_le
            (Nat.le_of_eq (punctual.fresh call underWay)) 0
          have fresh := punctual.fresh call underWay
          change (call.enters (shaped.clock - 0)).reread - call.read ≤ 0
          omega
      · rw [ignored]
        exact punctual
  | take worker => exact punctual.stay rfl rfl rfl
  | leave worker => exact punctual.stay rfl rfl rfl
  | complete worker key =>
      obtain ⟨clock, _, _, _⟩ := shaped.session.complete_frame worker key
      exact punctual.stay rfl rfl clock
  | forget key => exact punctual.stay rfl rfl rfl
  | close => exact punctual.stay rfl rfl rfl
  | advance span =>
      have closed : shaped.calls = [] := stands
      refine ⟨fun call member => ?_, punctual.prompt⟩
      change call ∈ shaped.calls at member
      rw [closed] at member
      cases member

theorem Punctual.run {shaped : ShapedQueue κ} (punctual : shaped.Punctual)
    {steps : List (ShapedStep κ)} (stands : shaped.StandsThrough steps) :
    (shaped.run steps).Punctual := by
  induction steps generalizing shaped with
  | nil => exact punctual
  | cons step later ih => exact ih (punctual.step stands.1) stands.2

/-- Slots are the interval apart, and each admission is due for an addition of its own, at the
slot of the addition or as long after it as the addition took; admissions can be closer than
the interval by no more than that. If no addition takes any time, each admission is at a slot
that was given out for its key and serves no other admission, and admissions are the interval
apart; this is so if the clock stands while an addition is open. A worker gets a key because of
an admission since the key was last handed out, and never earlier than the time of that
admission or of any other one that came before. -/
theorem run_shapes (interval : Nat) (steps : List (ShapedStep κ)) :
    let shaped := (ofInterval interval).run steps
    shaped.slots.Pairwise (fun earlier later => earlier.2 + interval ≤ later.2) ∧
      (shaped.entered.map (·.call.slot)).Subperm shaped.slots ∧
      shaped.admissions.Subperm (shaped.entered.map ClosedAddition.due) ∧
      (∀ addition ∈ shaped.entered,
        addition.due = (addition.call.key, addition.call.slot.2 + addition.lag)) ∧
      (∀ lag, shaped.Within lag → shaped.admissions.Pairwise fun one other =>
        one.2 + interval ≤ other.2 + lag ∨ other.2 + interval ≤ one.2 + lag) ∧
      (shaped.Prompt → shaped.admissions.Subperm shaped.slots ∧
        shaped.admissions.Pairwise fun one other =>
          one.2 + interval ≤ other.2 ∨ other.2 + interval ≤ one.2) ∧
      ((ofInterval interval).StandsThrough steps → shaped.Prompt) ∧
      shaped.journal.map Prod.fst = shaped.session.history ∧
      ∀ before worker key now after,
        shaped.journal = before ++ (.handed worker key, now) :: after →
        (∃ earlier due since, before = earlier ++ (.admitted key, due) :: since ∧
          ∀ other time, (.handed other key, time) ∉ since) ∧
        ∀ due, (.admitted key, due) ∈ before → due ≤ now := by
  intro shaped
  have kept : shaped.Shaped interval := run_shaped interval steps
  refine ⟨kept.spaced.apart, kept.charged.slots, kept.charged.subperm, kept.timed.due_eq,
    fun lag within => kept.apart within,
    fun prompt => ⟨kept.admissions_subperm prompt, kept.apart prompt⟩,
    fun stands => ((ofInterval_punctual interval).run stands).prompt, kept.told.events, ?_⟩
  intro before worker key now after journal
  refine ⟨kept.told.handed_after journal, fun due admitted => ?_⟩
  have inOrder := kept.told.handed
  rw [journal] at inOrder
  exact (List.pairwise_append.mp inOrder).2.2 _ admitted _ List.mem_cons_self worker key rfl

/-- The third addition comes to the queue before the second one and is delayed until 500. The
second one moves its key up to 250, and the slot of the third one stays empty. -/
def promptSteps : List (ShapedStep Nat) :=
  [.reserve 1 0, .enter ⟨1, 0, 0⟩ 0, .reserve 2 0, .reserve 2 0, .enter ⟨2, 0, 500⟩ 0,
    .enter ⟨2, 0, 250⟩ 0, .advance 100, .reserve 1 0, .enter ⟨1, 100, 650⟩ 0, .advance 700,
    .take 0]

theorem run_shapes_prompt :
    let shaped := (ofInterval 250).run promptSteps
    shaped.slots = [(1, 0), (2, 250), (2, 500), (1, 750)] ∧
      shaped.admissions = [(1, 0), (2, 250), (1, 750)] ∧
      (ofInterval 250).StandsThrough promptSteps ∧ shaped.Prompt ∧
      shaped.admissions.Subperm shaped.slots ∧
      (shaped.admissions.Pairwise fun one other =>
        one.2 + 250 ≤ other.2 ∨ other.2 + 250 ≤ one.2) ∧
      ∀ due, (.admitted 1, due) ∈ shaped.journal.take 5 → due ≤ 800 := by
  intro shaped
  have closed : (ofInterval 250 |>.run (promptSteps.take 6)).calls = [] ∧
      (ofInterval 250 |>.run (promptSteps.take 9)).calls = [] := by decide +kernel
  have stands : (ofInterval 250).StandsThrough promptSteps :=
    ⟨rfl, rfl, rfl, rfl, rfl, rfl, closed.1, rfl, rfl, closed.2, trivial, trivial⟩
  have handed : shaped.journal = shaped.journal.take 5 ++ (.handed 0 1, 800) :: [] := by
    decide +kernel
  obtain ⟨_, _, _, _, _, atSlots, promptly, _, handouts⟩ := run_shapes 250 promptSteps
  have prompt : shaped.Prompt := promptly stands
  exact ⟨by decide +kernel, by decide +kernel, stands, prompt, (atSlots prompt).1,
    (atSlots prompt).2, (handouts _ 0 1 800 [] handed).2⟩

-- The second addition reads 0 first and 100 then. It is late by as much, and that much closer to
-- the third one, which has its slot.
example :
    let shaped : ShapedQueue Nat := (ofInterval 250).run
      [.reserve 1 0, .enter ⟨1, 0, 0⟩ 0, .reserve 2 0, .advance 100, .reserve 3 0,
        .enter ⟨3, 100, 400⟩ 0, .enter ⟨2, 0, 250⟩ 0, .advance 500, .take 0]
    shaped.slots = [(1, 0), (2, 250), (3, 500)] ∧
      shaped.admissions = [(1, 0), (2, 350), (3, 500)] := by
  decide +kernel

end ShapedQueue

end PolicyReplica
