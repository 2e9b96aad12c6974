import Mathlib.Data.List.TakeWhile
import PolicyReplica.Proofs.Queue.Waking

/-
Delayed keys as a plain map from keys to deadlines.

The line of delayed keys may hold superseded entries, with times before and after the deadline
of their key. Only the entry with the deadline counts when it is due, and it counts once, since
the deadline is gone then. Main statement: in every session, the deadline of a key is the
earliest time that was asked for it since it was last promoted; a promotion admits the keys
whose deadlines have come, each once, in the order of the deadlines, and leaves the other
deadlines alone, as if there were no line.
-/

namespace PolicyReplica

variable {κ : Type}

def QueueEvent.admittedKey? : QueueEvent κ → Option κ
  | .admitted key => some key
  | .entered _ | .handed _ _ => none

namespace WorkQueue

/-- In a line that is in order, the due entries are those at its head. -/
theorem mem_takeWhile_iff_due {line : List (Delayed κ)}
    (ordered : line.Pairwise (·.time ≤ ·.time)) (now : Nat) (entry : Delayed κ) :
    entry ∈ line.takeWhile (·.time ≤ now) ↔ entry ∈ line ∧ entry.time ≤ now := by
  induction line with
  | nil => simp
  | cons first rest ih =>
      obtain ⟨least, restOrdered⟩ := List.pairwise_cons.mp ordered
      by_cases due : first.time ≤ now
      · rw [List.takeWhile_cons_of_pos (by simpa using due), List.mem_cons, ih restOrdered,
          List.mem_cons]
        constructor
        · rintro (rfl | ⟨inRest, early⟩)
          · exact ⟨.inl rfl, due⟩
          · exact ⟨.inr inRest, early⟩
        · rintro ⟨rfl | inRest, early⟩
          · exact .inl rfl
          · exact .inr ⟨inRest, early⟩
      · rw [List.takeWhile_cons_of_neg (by simpa using due)]
        constructor
        · exact fun none => nomatch none
        · rintro ⟨inLine, early⟩
          rcases List.mem_cons.mp inLine with rfl | inRest
          · exact absurd early due
          · exact absurd ((least entry inRest).trans early) due

variable [DecidableEq κ]

/-- Of the entries that are taken out of the line one after the other, those that count. -/
def counting : List (Delayed κ) → WorkQueue κ → List (Delayed κ)
  | [], _ => []
  | entry :: rest, queue =>
      if queue.deadlines.get? entry.key = some entry.time then
        entry :: counting rest (queue.promoteEntry entry)
      else counting rest (queue.promoteEntry entry)

def promoted (queue : WorkQueue κ) (now : Nat) : List (Delayed κ) :=
  counting (queue.delayed.takeWhile (·.time ≤ now))
    { queue with delayed := queue.delayed.dropWhile (·.time ≤ now) }

/-- What a promotion makes of a queue, said without the line: the keys of the due entries are
added in the order of the list, and have no deadline any more. -/
structure PlainPromotion (queue : WorkQueue κ) (now : Nat) (due : List (Delayed κ))
    (after : WorkQueue κ) : Prop where
  mem_due : ∀ entry, entry ∈ due ↔
    queue.deadlines.get? entry.key = some entry.time ∧ entry.time ≤ now
  once : (due.map Delayed.key).Nodup
  ordered : due.Pairwise (·.time ≤ ·.time)
  deadlines : ∀ key, after.deadlines.get? key = (queue.deadlines.get? key).filter (now < ·)
  admits : { after with delayed := queue.delayed, deadlines := queue.deadlines } =
    due.foldl (fun before entry => (before.add entry.key).2) queue

/-! ### One entry after the other -/

theorem get?_promoteEntry {queue : WorkQueue κ} {entry : Delayed κ}
    (counts : queue.deadlines.get? entry.key = some entry.time) (key : κ) :
    (queue.promoteEntry entry).deadlines.get? key =
      if key = entry.key then none else queue.deadlines.get? key := by
  obtain ⟨_, promoted⟩ | ⟨stale, _⟩ := queue.promoteEntry_cases entry
  · rw [promoted, add_deadlines, Table.get?_erase]
  · exact absurd counts stale

theorem promoteEntry_of_stale {queue : WorkQueue κ} {entry : Delayed κ}
    (stale : queue.deadlines.get? entry.key ≠ some entry.time) :
    queue.promoteEntry entry = queue := by
  obtain ⟨counts, _⟩ | ⟨_, promoted⟩ := queue.promoteEntry_cases entry
  · exact absurd counts stale
  · exact promoted

theorem counting_cons_of_counts {queue : WorkQueue κ} {first : Delayed κ}
    (counts : queue.deadlines.get? first.key = some first.time) (rest : List (Delayed κ)) :
    counting (first :: rest) queue = first :: counting rest (queue.promoteEntry first) :=
  if_pos counts

theorem counting_cons_of_stale {queue : WorkQueue κ} {first : Delayed κ}
    (stale : queue.deadlines.get? first.key ≠ some first.time) (rest : List (Delayed κ)) :
    counting (first :: rest) queue = counting rest queue := by
  have skipped : counting (first :: rest) queue = counting rest (queue.promoteEntry first) :=
    if_neg stale
  rw [skipped, promoteEntry_of_stale stale]

/-- An entry counts if it has the deadline of its key, wherever it stands: an entry of the same
key in front of it has another time and does nothing, or is the same. -/
theorem mem_counting (entries : List (Delayed κ)) (queue : WorkQueue κ) (entry : Delayed κ) :
    entry ∈ counting entries queue ↔
      entry ∈ entries ∧ queue.deadlines.get? entry.key = some entry.time := by
  induction entries generalizing queue with
  | nil => simp [counting]
  | cons first rest ih =>
      by_cases counts : queue.deadlines.get? first.key = some first.time
      · rw [counting_cons_of_counts counts, List.mem_cons, ih, get?_promoteEntry counts,
          List.mem_cons]
        by_cases same : entry.key = first.key
        · have only : queue.deadlines.get? entry.key = some entry.time ↔ entry = first := by
            rw [same, counts, Option.some.injEq]
            constructor
            · intro time
              cases entry
              cases first
              simp_all
            · rintro rfl
              rfl
          rw [if_pos same, only]
          simp only [reduceCtorEq, and_false, or_false]
          exact ⟨fun here => ⟨.inl here, here⟩, fun both => both.2⟩
        · have different : entry ≠ first := fun equal => same (congrArg Delayed.key equal)
          rw [if_neg same]
          simp [different]
      · rw [counting_cons_of_stale counts, ih, List.mem_cons]
        have different : queue.deadlines.get? entry.key = some entry.time → entry ≠ first := by
          rintro found rfl
          exact counts found
        constructor
        · rintro ⟨inRest, found⟩
          exact ⟨.inr inRest, found⟩
        · rintro ⟨inList, found⟩
          exact ⟨inList.resolve_left (different found), found⟩

theorem counting_sublist (entries : List (Delayed κ)) (queue : WorkQueue κ) :
    (counting entries queue).Sublist entries := by
  induction entries generalizing queue with
  | nil => exact List.Sublist.refl []
  | cons first rest ih =>
      by_cases counts : queue.deadlines.get? first.key = some first.time
      · rw [counting_cons_of_counts counts]
        exact (ih _).cons_cons first
      · rw [counting_cons_of_stale counts]
        exact (ih _).cons first

theorem nodup_counting (entries : List (Delayed κ)) (queue : WorkQueue κ) :
    ((counting entries queue).map Delayed.key).Nodup := by
  induction entries generalizing queue with
  | nil => exact List.nodup_nil
  | cons first rest ih =>
      by_cases counts : queue.deadlines.get? first.key = some first.time
      · rw [counting_cons_of_counts counts, List.map_cons, List.nodup_cons]
        refine ⟨fun again => ?_, ih _⟩
        obtain ⟨entry, member, same⟩ := List.mem_map.mp again
        have found := ((mem_counting _ _ entry).mp member).2
        rw [get?_promoteEntry counts, if_pos same] at found
        cases found
      · rw [counting_cons_of_stale counts]
        exact ih _

theorem get?_promoteEntries (entries : List (Delayed κ)) (queue : WorkQueue κ) (key : κ) :
    (entries.foldl promoteEntry queue).deadlines.get? key =
      if key ∈ (counting entries queue).map Delayed.key then none
      else queue.deadlines.get? key := by
  induction entries generalizing queue with
  | nil => rfl
  | cons first rest ih =>
      rw [List.foldl_cons, ih]
      by_cases counts : queue.deadlines.get? first.key = some first.time
      · rw [counting_cons_of_counts counts, List.map_cons, get?_promoteEntry counts]
        by_cases same : key = first.key
        · simp [same]
        · simp only [List.mem_cons, same, false_or, if_false]
      · rw [counting_cons_of_stale counts, promoteEntry_of_stale counts]

/-- What is kept about delayed keys does not matter to an addition. -/
theorem add_keeping (queue : WorkQueue κ) (delayed : List (Delayed κ)) (deadlines : Table κ Nat)
    (key : κ) :
    ({ queue with delayed, deadlines }.add key).2 =
      { (queue.add key).2 with delayed, deadlines } := by
  unfold add
  split
  · rfl
  · split <;> rfl

theorem promoteEntry_keeping {queue : WorkQueue κ} {entry : Delayed κ}
    (counts : queue.deadlines.get? entry.key = some entry.time) (delayed : List (Delayed κ))
    (deadlines : Table κ Nat) :
    { queue.promoteEntry entry with delayed, deadlines } =
      ({ queue with delayed, deadlines }.add entry.key).2 := by
  obtain ⟨_, promoted⟩ | ⟨stale, _⟩ := queue.promoteEntry_cases entry
  · rw [promoted, queue.add_keeping delayed deadlines,
      queue.add_keeping queue.delayed (queue.deadlines.erase entry.key)]
  · exact absurd counts stale

theorem promoteEntries_admit (entries : List (Delayed κ)) (queue : WorkQueue κ)
    (delayed : List (Delayed κ)) (deadlines : Table κ Nat) :
    { entries.foldl promoteEntry queue with delayed, deadlines } =
      (counting entries queue).foldl (fun before entry => (before.add entry.key).2)
        { queue with delayed, deadlines } := by
  induction entries generalizing queue with
  | nil => rfl
  | cons first rest ih =>
      by_cases counts : queue.deadlines.get? first.key = some first.time
      · rw [counting_cons_of_counts counts, List.foldl_cons, List.foldl_cons,
          ← promoteEntry_keeping counts]
        exact ih (queue.promoteEntry first)
      · rw [counting_cons_of_stale counts, List.foldl_cons, promoteEntry_of_stale counts]
        exact ih queue

/-! ### Promotions -/

namespace Timetable

variable {queue : WorkQueue κ}

theorem mem_promoted (timetable : queue.Timetable) (now : Nat) (entry : Delayed κ) :
    entry ∈ queue.promoted now ↔
      queue.deadlines.get? entry.key = some entry.time ∧ entry.time ≤ now := by
  unfold promoted
  rw [mem_counting, mem_takeWhile_iff_due timetable.ordered]
  constructor
  · rintro ⟨⟨_, due⟩, found⟩
    exact ⟨found, due⟩
  · rintro ⟨found, due⟩
    exact ⟨⟨timetable.lined entry.key entry.time found, due⟩, found⟩

theorem mem_keys_promoted (timetable : queue.Timetable) (now : Nat) (key : κ) :
    key ∈ (queue.promoted now).map Delayed.key ↔
      ∃ time, queue.deadlines.get? key = some time ∧ time ≤ now := by
  rw [List.mem_map]
  constructor
  · rintro ⟨entry, member, rfl⟩
    exact ⟨entry.time, (timetable.mem_promoted now entry).mp member⟩
  · rintro ⟨time, due⟩
    exact ⟨⟨time, key⟩, (timetable.mem_promoted now ⟨time, key⟩).mpr due, rfl⟩

theorem get?_promote (timetable : queue.Timetable) (now : Nat) (key : κ) :
    (queue.promote now).deadlines.get? key = (queue.deadlines.get? key).filter (now < ·) := by
  have due := timetable.mem_keys_promoted now key
  have left : (queue.promote now).deadlines.get? key =
      if key ∈ (queue.promoted now).map Delayed.key then none else queue.deadlines.get? key :=
    get?_promoteEntries _ { queue with delayed := queue.delayed.dropWhile (·.time ≤ now) } key
  cases found : queue.deadlines.get? key with
  | none =>
      rw [left, found, ite_self]
      rfl
  | some time =>
      by_cases past : time ≤ now
      · rw [left, if_pos (due.mpr ⟨time, found, past⟩)]
        exact (Option.filter_some_neg (by simpa using past)).symm
      · have stays : key ∉ (queue.promoted now).map Delayed.key := by
          intro isDue
          obtain ⟨other, same, early⟩ := due.mp isDue
          obtain rfl : time = other := Option.some.inj (found.symm.trans same)
          exact past early
        rw [left, if_neg stays, found]
        exact (Option.filter_some_pos (by simpa using past)).symm

/-- A promotion treats the line as a plain map. -/
theorem plainPromotion (timetable : queue.Timetable) (now : Nat) :
    queue.PlainPromotion now (queue.promoted now) (queue.promote now) where
  mem_due := timetable.mem_promoted now
  once := nodup_counting _ _
  ordered := (timetable.ordered.sublist (List.takeWhile_sublist _)).sublist (counting_sublist _ _)
  deadlines := timetable.get?_promote now
  admits := promoteEntries_admit _ _ queue.delayed queue.deadlines

end Timetable

/-! ### What a promotion tells -/

theorem admitted_promoteEvents (entries : List (Delayed κ)) (queue : WorkQueue κ) :
    (promoteEvents entries queue).filterMap QueueEvent.admittedKey? =
      (counting entries queue).map Delayed.key := by
  have single : ∀ (before : WorkQueue κ) (key : κ),
      (before.admission key).filterMap QueueEvent.admittedKey? = [key] := by
    intro before key
    unfold admission
    split <;> rfl
  induction entries generalizing queue with
  | nil => rfl
  | cons first rest ih =>
      unfold promoteEvents
      rw [List.filterMap_append, ih]
      by_cases counts : queue.deadlines.get? first.key = some first.time
      · rw [if_pos counts, single, counting_cons_of_counts counts]
        rfl
      · rw [if_neg counts, counting_cons_of_stale counts, promoteEntry_of_stale counts]
        rfl

/-- What a worker that asks for a key brings about admits the keys of the entries that count. -/
theorem admitted_takeEvents (queue : WorkQueue κ) (now : Nat) (worker : TaskId) :
    (queue.takeEvents now worker).filterMap QueueEvent.admittedKey? =
      (queue.promoted now).map Delayed.key := by
  have nothing : ((queue.promote now).handOutEvents worker).filterMap
      QueueEvent.admittedKey? = [] := by
    unfold handOutEvents
    split <;> rfl
  unfold takeEvents
  rw [List.filterMap_append, nothing, List.append_nil]
  exact admitted_promoteEvents _ _

/-- The deadline of a key that is delayed becomes the earlier one of two. -/
theorem get?_delay {queue : WorkQueue κ} (isOpen : queue.closed = false) (time : Nat)
    (key other : κ) :
    (queue.delay time key).2.deadlines.get? other =
      if other = key then some ((queue.deadlines.get? key).elim time (min time))
      else queue.deadlines.get? other := by
  unfold delay
  rw [isOpen]
  cases found : queue.deadlines.get? key with
  | none => simpa using Table.get?_insert queue.deadlines key other time
  | some due =>
      by_cases early : due ≤ time
      · by_cases same : other = key
        · simp [early, same, found]
        · simp [early, same]
      · have later : min time due = time := Nat.min_eq_left (Nat.le_of_not_le early)
        simpa [early, later] using Table.get?_insert queue.deadlines key other time

end WorkQueue

/-! ### What was asked -/

inductive DelayEvent (κ : Type) where
  /-- A caller asked for the key at the time. -/
  | asked (entry : Delayed κ)
  | promoted (entry : Delayed κ)
  deriving DecidableEq, Repr

variable [DecidableEq κ]

def noteAsk (key : κ) (times : List Nat) : DelayEvent κ → List Nat
  | .asked entry => if entry.key = key then entry.time :: times else times
  | .promoted entry => if entry.key = key then [] else times

/-- The times that were asked for a key since it was last promoted, the latest request first. -/
def asksSince (key : κ) (log : List (DelayEvent κ)) : List Nat :=
  log.foldl (noteAsk key) []

theorem asksSince_append (key : κ) (log events : List (DelayEvent κ)) :
    asksSince key (log ++ events) = events.foldl (noteAsk key) (asksSince key log) :=
  List.foldl_append

theorem foldl_noteAsk_promoted (key : κ) (entries : List (Delayed κ)) (times : List Nat) :
    (entries.map DelayEvent.promoted).foldl (noteAsk key) times =
      if key ∈ entries.map Delayed.key then [] else times := by
  induction entries generalizing times with
  | nil => rfl
  | cons first rest ih =>
      rw [List.map_cons, List.foldl_cons, ih, List.map_cons]
      by_cases same : key = first.key
      · simp [noteAsk, same]
      · simp [noteAsk, same, Ne.symm same]

namespace QueueSession

def askEvents (time delay : Nat) (key : κ) : List (DelayEvent κ) :=
  if delay = 0 then [] else [.asked ⟨time + delay, key⟩]

def delayEvents (session : QueueSession κ) : QueueStep κ → List (DelayEvent κ)
  | .addAfter read delay key => askEvents read delay key
  | .addRateLimited read key => askEvents read (session.shared.limiter.reserve read key).1 key
  | .take _ => (session.queue.promoted session.clock).map .promoted
  | .add _ | .reserve _ _ | .forget _ | .leave _ | .complete _ _ | .close | .advance _ => []

end QueueSession

structure DelayLedger (κ : Type) where
  session : QueueSession κ
  log : List (DelayEvent κ)

namespace DelayLedger

def queue (ledger : DelayLedger κ) : WorkQueue κ :=
  ledger.session.queue

def step (ledger : DelayLedger κ) (step : QueueStep κ) : DelayLedger κ :=
  { session := ledger.session.step step
    log := ledger.log ++ ledger.session.delayEvents step }

def run (interval : Nat) (steps : List (QueueStep κ)) : DelayLedger κ :=
  steps.foldl step { session := .ofInterval interval, log := [] }

theorem run_session (interval : Nat) (steps : List (QueueStep κ)) :
    (run interval steps).session = QueueSession.run interval steps := by
  unfold run QueueSession.run
  generalize QueueSession.ofInterval interval = session
  generalize ([] : List (DelayEvent κ)) = log
  induction steps generalizing session log with
  | nil => rfl
  | cons step rest ih => exact ih _ _

/-- The deadlines are the earliest times that were asked for, and each has an entry in line. -/
structure Kept (ledger : DelayLedger κ) : Prop where
  timetable : ledger.queue.Timetable
  deadlines : ledger.queue.closed = false → ∀ key,
    ledger.queue.deadlines.get? key = (asksSince key ledger.log).min?

/-- A step that leaves the delays alone. -/
theorem Kept.stay {ledger next : DelayLedger κ} (kept : ledger.Kept)
    (timetable : next.queue.Timetable) (log : next.log = ledger.log ++ [])
    (deadlines : next.queue.deadlines = ledger.queue.deadlines)
    (closed : next.queue.closed = ledger.queue.closed) : next.Kept := by
  refine ⟨timetable, fun isOpen key => ?_⟩
  rw [deadlines, log, List.append_nil]
  exact kept.deadlines (closed.symm.trans isOpen) key

/-- An addition asks for a time, or is made at once. -/
theorem Kept.addAfter {ledger next : DelayLedger κ} (kept : ledger.Kept) {time delay : Nat}
    {key : κ} (log : next.log = ledger.log ++ QueueSession.askEvents time delay key)
    (adds : next.queue = if delay = 0 then (ledger.queue.add key).2
      else (ledger.queue.delay (time + delay) key).2) : next.Kept := by
  by_cases immediate : delay = 0
  · rw [if_pos immediate] at adds
    have asksNothing : QueueSession.askEvents time delay key = [] := if_pos immediate
    rw [asksNothing] at log
    exact kept.stay (adds ▸ kept.timetable.add key) log
      (adds ▸ ledger.queue.add_deadlines key) (adds ▸ ledger.queue.add_closed key)
  · rw [if_neg immediate] at adds
    have asks : QueueSession.askEvents time delay key = [.asked ⟨time + delay, key⟩] :=
      if_neg immediate
    refine ⟨adds ▸ kept.timetable.delay (time + delay) key, fun isOpen other => ?_⟩
    rw [adds, WorkQueue.delay_closed] at isOpen
    rw [adds, WorkQueue.get?_delay isOpen, log, asks, asksSince_append]
    by_cases same : other = key
    · subst same
      rw [if_pos rfl, kept.deadlines isOpen]
      simp [noteAsk, List.min?_cons]
    · rw [if_neg same, kept.deadlines isOpen]
      simp [noteAsk, Ne.symm same]

/-- A worker that asks for a key first promotes what is due. -/
theorem Kept.take {ledger : DelayLedger κ} (kept : ledger.Kept) (worker : TaskId) :
    (ledger.step (.take worker)).Kept := by
  have deadlines : (ledger.step (.take worker)).queue.deadlines =
      (ledger.queue.promote ledger.session.clock).deadlines :=
    (ledger.queue.promote ledger.session.clock).handOut_deadlines
  have closed : (ledger.step (.take worker)).queue.closed = ledger.queue.closed :=
    (ledger.queue.promote ledger.session.clock).handOut_closed.trans
      (ledger.queue.promote_closed _)
  refine ⟨kept.timetable.take ledger.session.clock, fun isOpen key => ?_⟩
  have before := kept.deadlines (closed.symm.trans isOpen) key
  have due := kept.timetable.mem_keys_promoted ledger.session.clock key
  change _ = (asksSince key (ledger.log ++
    (ledger.queue.promoted ledger.session.clock).map .promoted)).min?
  rw [deadlines, kept.timetable.get?_promote, asksSince_append, foldl_noteAsk_promoted]
  by_cases isDue : key ∈ (ledger.queue.promoted ledger.session.clock).map Delayed.key
  · obtain ⟨time, found, past⟩ := due.mp isDue
    rw [if_pos isDue, found]
    exact Option.filter_some_neg (by simpa using past)
  · rw [if_neg isDue, ← before]
    cases found : ledger.queue.deadlines.get? key with
    | none => rfl
    | some time =>
        have later : ¬ time ≤ ledger.session.clock := fun past =>
          isDue (due.mpr ⟨time, found, past⟩)
        exact Option.filter_some_pos (by simpa using later)

theorem Kept.step {ledger : DelayLedger κ} (kept : ledger.Kept) (step : QueueStep κ) :
    (ledger.step step).Kept := by
  cases step with
  | add key =>
      exact kept.stay (kept.timetable.add key) rfl (ledger.queue.add_deadlines key)
        (ledger.queue.add_closed key)
  | addAfter read delay key =>
      exact kept.addAfter rfl (ledger.session.shared.addAfter_queue read delay key)
  | addRateLimited read key =>
      exact kept.addAfter rfl (ledger.session.shared.addRateLimited_queue read key)
  | take worker => exact kept.take worker
  | complete worker key =>
      change (DelayLedger.mk (ledger.session.complete worker key) _).Kept
      unfold QueueSession.complete
      split
      · exact kept.stay (kept.timetable.complete key) rfl (ledger.queue.complete_deadlines key)
          (ledger.queue.complete_closed key)
      · exact kept.stay kept.timetable rfl rfl rfl
  | close => exact ⟨.close _, fun isOpen => nomatch isOpen⟩
  | reserve read key => exact kept.stay kept.timetable rfl rfl rfl
  | forget key => exact kept.stay kept.timetable rfl rfl rfl
  | leave worker => exact kept.stay kept.timetable rfl rfl rfl
  | advance span => exact kept.stay kept.timetable rfl rfl rfl

theorem run_kept (interval : Nat) (steps : List (QueueStep κ)) : (run interval steps).Kept := by
  suffices kept : ∀ ledger : DelayLedger κ, ledger.Kept → (steps.foldl step ledger).Kept from
    kept _ ⟨.empty, fun _ _ => rfl⟩
  induction steps with
  | nil => exact fun _ start => start
  | cons step rest ih => exact fun _ start => ih _ (start.step step)

/-- In every session, the deadline of a key is the earliest time that was asked for it since it
was last promoted, and there is none if nothing was asked. At any time, a promotion admits the
keys whose deadlines have come, each once and in the order of their deadlines, and leaves the
other deadlines as they are, whatever else stands in line. -/
theorem run_delays (interval : Nat) (steps : List (QueueStep κ)) :
    let ledger := run interval steps
    ledger.session = QueueSession.run interval steps ∧
      (ledger.queue.closed = false → ∀ key,
        ledger.queue.deadlines.get? key = (asksSince key ledger.log).min?) ∧
      ∀ now,
        ledger.queue.PlainPromotion now (ledger.queue.promoted now) (ledger.queue.promote now) ∧
        ∀ worker, (ledger.queue.takeEvents now worker).filterMap QueueEvent.admittedKey? =
          (ledger.queue.promoted now).map Delayed.key := by
  intro ledger
  have kept : ledger.Kept := run_kept interval steps
  exact ⟨run_session interval steps, kept.deadlines, fun now =>
    ⟨kept.timetable.plainPromotion now, ledger.queue.admitted_takeEvents now⟩⟩

-- The entry for 9 is superseded by the one for 4, which is promoted. Then the key is asked for
-- at 12 and at 9 again. Two entries carry its deadline and one is superseded, and it is admitted
-- once.
example :
    let ledger : DelayLedger Nat := run 250
      [.addAfter 0 9 1, .addAfter 0 4 1, .advance 5, .take 0, .addAfter 5 7 1, .addAfter 5 4 1]
    ledger.queue.delayed = [⟨9, 1⟩, ⟨9, 1⟩, ⟨12, 1⟩] ∧
      ledger.queue.deadlines.get? 1 = some 9 ∧ ledger.queue.promoted 20 = [⟨9, 1⟩] := by
  decide +kernel

end DelayLedger

end PolicyReplica
