import Mathlib.Data.Finset.Card
import PolicyReplica.Proofs.Retry.Standing

/-
What a crew looks like to one domain.

Which task holds a domain, and which ones are about to enqueue it, is all that the tasks
of a crew have to do with it. Main statement: whatever a crew does, each domain makes moves
from standing to standing, and what is noted of it is what these bring about.
-/

namespace PolicyReplica

namespace Activity

def phase? (domain : String) : Activity → Option Phase
  | .holding other stage => if other = domain then some stage.phase else none
  | .idle | .calling _ _ => none

def calls (domain : String) : Activity → Bool
  | .calling other _ => other = domain
  | .holding _ (.extending _ target _ _) => target = domain
  | .idle | .holding _ _ => false

end Activity

theorem Activity.calls_of_quiet {stage : Stage} (quiet : stage.isCascade = false)
    (domain other : String) : Activity.calls domain (.holding other stage) = false := by
  cases stage with
  | cascading _ _ => cases quiet
  | extending _ _ _ _ => cases quiet
  | syncing | judging _ | retrying | readmitting _ | dropping | returning => rfl

/-- Holds if the phase is that of the only task that holds the domain, or nobody holds it. -/
def HeldIn (tasks : TaskId → Activity) (domain : String) : Option Phase → Prop
  | none => ∀ task, (tasks task).phase? domain = none
  | some phase =>
      ∃ holder, ∀ task, (tasks task).phase? domain = if task = holder then some phase else none

def CalledBy (tasks : TaskId → Activity) (domain : String) (pending : Nat) : Prop :=
  ∃ callers : Finset TaskId, callers.card = pending ∧
    ∀ task, task ∈ callers ↔ (tasks task).calls domain = true

section Tasks

variable {tasks : TaskId → Activity} {domain : String} {task : TaskId} {activity : Activity}
  {phase : Option Phase} {pending : Nat}

theorem HeldIn.stay (held : HeldIn tasks domain phase)
    (same : activity.phase? domain = (tasks task).phase? domain) :
    HeldIn (reassign tasks task activity) domain phase := by
  have kept : ∀ other, (reassign tasks task activity other).phase? domain =
      (tasks other).phase? domain := by
    intro other
    unfold reassign
    split
    next here => rw [here, same]
    next => rfl
  cases phase with
  | none => exact fun other => (kept other).trans (held other)
  | some phase =>
      obtain ⟨holder, holds⟩ := held
      exact ⟨holder, fun other => (kept other).trans (holds other)⟩

/-- What a task turns to is what is known of the domain, if nobody or this task held it. -/
theorem HeldIn.turn (held : HeldIn tasks domain phase)
    (whole : (tasks task).phase? domain = phase) :
    HeldIn (reassign tasks task activity) domain (activity.phase? domain) := by
  have others : ∀ other, other ≠ task → (tasks other).phase? domain = none := by
    intro other apart
    cases phase with
    | none => exact held other
    | some phase =>
        obtain ⟨holder, holds⟩ := held
        have holding := holds task
        rw [whole] at holding
        by_cases here : task = holder
        · rw [holds other, if_neg (here ▸ apart)]
        · rw [if_neg here] at holding
          cases holding
  cases after : activity.phase? domain with
  | none =>
      intro other
      unfold reassign
      split
      · exact after
      next apart => exact others other apart
  | some phase =>
      refine ⟨task, fun other => ?_⟩
      unfold reassign
      split
      · exact after
      next apart => exact others other apart

theorem HeldIn.eq_some (held : HeldIn tasks domain phase) {own : Phase}
    (holds : (tasks task).phase? domain = some own) : phase = some own := by
  cases phase with
  | none =>
      rw [held task] at holds
      cases holds
  | some phase =>
      obtain ⟨holder, holding⟩ := held
      rw [holding task] at holds
      split at holds
      · exact holds
      · cases holds

theorem CalledBy.stay (called : CalledBy tasks domain pending)
    (same : activity.calls domain = (tasks task).calls domain) :
    CalledBy (reassign tasks task activity) domain pending := by
  obtain ⟨callers, card, members⟩ := called
  refine ⟨callers, card, fun other => (members other).trans ?_⟩
  unfold reassign
  split
  next here => rw [here, same]
  next => rfl

theorem CalledBy.begin (called : CalledBy tasks domain pending)
    (before : (tasks task).calls domain = false) (after : activity.calls domain = true) :
    CalledBy (reassign tasks task activity) domain (pending + 1) := by
  obtain ⟨callers, rfl, members⟩ := called
  have fresh : task ∉ callers := by
    rw [members, before]
    decide
  refine ⟨insert task callers, Finset.card_insert_of_notMem fresh, fun other => ?_⟩
  rw [Finset.mem_insert, members]
  unfold reassign
  split
  next here => simp [here, after]
  next apart => simp [apart]

theorem CalledBy.finish (called : CalledBy tasks domain pending)
    (before : (tasks task).calls domain = true) (after : activity.calls domain = false) :
    ∃ left, pending = left + 1 ∧ CalledBy (reassign tasks task activity) domain left := by
  obtain ⟨callers, rfl, members⟩ := called
  have calling : task ∈ callers := (members task).mpr before
  refine ⟨(callers.erase task).card, (Finset.card_erase_add_one calling).symm,
    callers.erase task, rfl, fun other => ?_⟩
  rw [Finset.mem_erase, members]
  unfold reassign
  split
  next here => simp [here, after]
  next apart => simp [apart]

end Tasks

def marksOf (domain : String) (notes : List Note) : List Mark :=
  notes.filterMap fun note => if note.domain = domain then some note.mark else none

theorem marksOf_append (domain : String) (first second : List Note) :
    marksOf domain (first ++ second) = marksOf domain first ++ marksOf domain second :=
  List.filterMap_append

@[simp] theorem marksOf_own (domain : String) (marks : List Mark) :
    marksOf domain (marks.map (Note.mk domain)) = marks := by
  simp [marksOf]

theorem marksOf_other {domain other : String} (apart : other ≠ domain) (marks : List Mark) :
    marksOf domain (marks.map (Note.mk other)) = [] := by
  simp [marksOf, apart]

namespace Crew

structure Shows (crew : Crew) (domain : String) (standing : Standing) : Prop where
  controller : crew.controller.Shows domain standing
  held : HeldIn crew.tasks domain standing.place.phase?
  called : CalledBy crew.tasks domain standing.pending

/-- Holds if the domain comes to where the crew has it then, and if what is noted of it
is what this brings about. -/
def Follows (limit : Nat) (domain : String) (standing : Standing)
    (result : List Note × Crew) : Prop :=
  ∃ next, Path limit standing (marksOf domain result.1) next ∧ result.2.Shows domain next

variable {crew : Crew} {domain : String} {standing : Standing} {limit : Nat}

theorem Shows.rest (shown : crew.Shows domain standing) :
    Follows limit domain standing ([], crew) :=
  ⟨standing, .rest standing, shown⟩

theorem Shows.move {next : Standing} {marks : List Mark} (shown : crew.Shows domain next)
    (move : Moves limit standing marks next) :
    Follows limit domain standing (marks.map (Note.mk domain), crew) :=
  ⟨next, by rw [marksOf_own]; exact move.path, shown⟩

/-- What is noted of another domain does not count. -/
theorem Shows.aside (shown : crew.Shows domain standing) {other : String}
    (apart : other ≠ domain) (marks : List Mark) :
    Follows limit domain standing (marks.map (Note.mk other), crew) :=
  ⟨standing, by rw [marksOf_other apart]; exact .rest standing, shown⟩

/-- A task turns to something that concerns the domain as little as what it was at. -/
theorem Shows.turn (shown : crew.Shows domain standing) {task : TaskId} {activity : Activity}
    {controller : Controller} (seen : controller.Shows domain standing)
    (phase : activity.phase? domain = (crew.tasks task).phase? domain)
    (calls : activity.calls domain = (crew.tasks task).calls domain) :
    (crew.turn task activity controller).Shows domain standing :=
  ⟨seen, shown.held.stay phase, shown.called.stay calls⟩

/-- A task begins to enqueue the domain. -/
theorem Shows.begin (shown : crew.Shows domain standing) {task : TaskId} {activity : Activity}
    (phase : activity.phase? domain = (crew.tasks task).phase? domain)
    (before : (crew.tasks task).calls domain = false) (after : activity.calls domain = true)
    (read : Nat) :
    Follows limit domain standing
      ([⟨domain, .called⟩],
        crew.turn task activity (crew.controller.reserve read domain).2) := by
  refine Shows.move ?_ (.called standing)
  have reserved := shown.controller.reserve read
  exact ⟨⟨⟨reserved.queue.has, reserved.queue.delayed, reserved.queue.closed⟩, reserved.count⟩,
    shown.held.stay phase, shown.called.begin before after⟩

/-- A task tells the queue of the domain. -/
theorem Shows.finish (shown : crew.Shows domain standing) {task : TaskId} {activity : Activity}
    (phase : activity.phase? domain = (crew.tasks task).phase? domain)
    (before : (crew.tasks task).calls domain = true) (after : activity.calls domain = false)
    (read delay : Nat) :
    Follows limit domain standing
      ([⟨domain, .queued⟩],
        crew.turn task activity (crew.controller.tell read delay domain)) := by
  obtain ⟨left, begun, called⟩ := shown.called.finish before after
  refine Shows.move ?_ (.queued (decide (delay = 0)) begun)
  obtain ⟨⟨has, delayed, closed⟩, counted⟩ := shown.controller
  have seen : crew.controller.Shows domain { standing with pending := left } :=
    ⟨⟨has, delayed, closed⟩, counted⟩
  refine ⟨seen.tell read delay, ?_, ?_⟩
  · rw [Standing.admitted_phase?]
    exact shown.held.stay phase
  · rw [Standing.admitted_pending]
    exact called

theorem Shows.call (shown : crew.Shows domain standing) (task : TaskId) (read : Nat)
    (other : String) : Follows limit domain standing (crew.call task read other) := by
  unfold Crew.call
  cases doing : crew.tasks task with
  | idle =>
      by_cases same : other = domain
      · subst same
        exact shown.begin (by rw [doing]; rfl) (by rw [doing]; rfl) (by simp [Activity.calls]) read
      · refine Shows.aside ?_ same [.called]
        exact shown.turn (shown.controller.reserve_other read same) (by rw [doing]; rfl)
          (by rw [doing]; simp [Activity.calls, same])
  | calling _ _ => exact shown.rest
  | holding _ _ => exact shown.rest

/-- The delay of the domain may end before the queue hands out anything. -/
theorem Shows.promote (shown : crew.Shows domain standing) (limit now : Nat) :
    ∃ due, Path limit standing [] due ∧ due.place.phase? = standing.place.phase? ∧
      due.pending = standing.pending ∧ due.count = standing.count ∧
      (crew.controller.queue.queue.promote now).Shows domain due := by
  rcases shown.controller.queue.promote now with same | ⟨delayed, promoted⟩
  · exact ⟨standing, .rest standing, rfl, rfl, rfl, same⟩
  · exact ⟨standing.promoted, (Moves.promoted delayed).path, Standing.admitted_phase? _ _,
      Standing.admitted_pending _ _, Standing.admitted_count _ _, promoted⟩

theorem Shows.take (shown : crew.Shows domain standing) (task : TaskId) :
    Follows limit domain standing (crew.take task) := by
  unfold Crew.take
  cases doing : crew.tasks task with
  | calling _ _ => exact shown.rest
  | holding _ _ => exact shown.rest
  | idle =>
      obtain ⟨due, path, phase, pending, count, promoted⟩ := shown.promote limit crew.clock
      have held : HeldIn crew.tasks domain due.place.phase? := by
        rw [phase]
        exact shown.held
      have called : CalledBy crew.tasks domain due.pending := by
        rw [pending]
        exact shown.called
      rcases taken : crew.controller.queue.take crew.clock task with ⟨handout, shared⟩
      have told : (crew.controller.queue.queue.promote crew.clock).handOut.1 = handout :=
        congrArg Prod.fst taken
      have left : (crew.controller.queue.queue.promote crew.clock).handOut.2 = shared.queue :=
        congrArg (fun result => result.2.queue) taken
      have counted : shared.requeues domain = due.count := by
        have limiter : crew.controller.queue.limiter = shared.limiter :=
          congrArg (fun result => result.2.limiter) taken
        unfold SharedQueue.requeues
        rw [← limiter, count]
        exact shown.controller.count
      rcases promoted.handOut with ⟨rest, handed, ready, seen⟩ | ⟨nothing, seen⟩
      · rw [handed] at told left
        obtain rfl : Handout.item domain = handout := told
        obtain rfl : rest = shared.queue := left
        have before : (crew.tasks task).phase? domain = due.place.phase? := by
          rw [doing, ready]
          rfl
        have turned : HeldIn (reassign crew.tasks task (.holding domain .syncing)) domain
            (Activity.phase? domain (.holding domain .syncing)) := held.turn before
        rw [Activity.phase?, if_pos rfl] at turned
        refine ⟨{ due with place := .held .undecided false }, ?_, ⟨seen, counted⟩, turned,
          called.stay (by rw [doing]; rfl)⟩
        rw [show marksOf domain [⟨domain, .handed⟩] = [.handed] from marksOf_own domain [.handed]]
        exact path.trans (Moves.handed ready).path
      · rw [told] at nothing
        rw [left] at seen
        cases handout with
        | item other =>
            have apart : other ≠ domain := fun same => nothing (by rw [same])
            refine ⟨due, ?_, ⟨seen, counted⟩, held.stay ?_, called.stay (by rw [doing]; rfl)⟩
            · rw [show marksOf domain [⟨other, .handed⟩] = [] from
                marksOf_other apart [.handed]]
              exact path
            · rw [doing]
              exact if_neg apart
        | closed => exact ⟨due, path, ⟨seen, counted⟩, held.stay (by rw [doing]),
            called.stay (by rw [doing])⟩
        | wait time => exact ⟨due, path, ⟨seen, counted⟩, held.stay (by rw [doing]),
            called.stay (by rw [doing])⟩

/-- A sync that has ended has not been judged. -/
theorem Shows.conclude (shown : crew.Shows domain standing) (task : TaskId)
    (follow : String → Stage) (undecided : ∀ other, (follow other).phase = .undecided)
    (calls : ∀ other, Activity.calls domain (.holding other (follow other)) = false) :
    (crew.conclude task follow).Shows domain standing := by
  obtain ⟨other, doing, turned⟩ | ⟨_, same⟩ := crew.conclude_cases task follow
  · rw [turned]
    refine shown.turn shown.controller ?_ ?_
    · rw [doing]
      unfold Activity.phase?
      simp only [undecided]
      rfl
    · rw [doing, calls]
      rfl
  · rw [same]
    exact shown

variable {task : TaskId} {again : Bool} {stage : Stage}

/-- Where a domain is that a task holds. -/
theorem Shows.place_held (shown : crew.Shows domain standing)
    (holds : crew.tasks task = .holding domain stage) :
    ∃ again, standing.place = .held stage.phase again := by
  have own : (crew.tasks task).phase? domain = some stage.phase := by
    rw [holds]
    exact if_pos rfl
  have phase := shown.held.eq_some own
  cases place : standing.place with
  | absent => rw [place] at phase; cases phase
  | ready => rw [place] at phase; cases phase
  | held other again =>
      rw [place] at phase
      cases phase
      exact ⟨again, rfl⟩

/-- The holder of the domain turns to another stage of it. -/
theorem Shows.goOn (shown : crew.Shows domain standing)
    (holds : crew.tasks task = .holding domain stage) {later : Stage}
    (quiet : stage.isCascade = false) (stillQuiet : later.isCascade = false) {next : Standing}
    {controller : Controller} (seen : controller.Shows domain next)
    (place : next.place.phase? = some later.phase) (pending : next.pending = standing.pending) :
    (crew.turn task (.holding domain later) controller).Shows domain next := by
  obtain ⟨again, before⟩ := shown.place_held holds
  have phase : ∀ stage, Activity.phase? domain (.holding domain stage) = some stage.phase :=
    fun _ => if_pos rfl
  refine ⟨seen, ?_, ?_⟩
  · rw [place, ← phase]
    refine shown.held.turn ?_
    rw [holds, before, phase]
    rfl
  · rw [pending]
    refine shown.called.stay ?_
    rw [holds, Activity.calls_of_quiet quiet, Activity.calls_of_quiet stillQuiet]

theorem work_of_holding {own : String} (holds : crew.tasks task = .holding own stage)
    (read : Nat) :
    crew.work task read =
      ((crew.controller.proceed read own stage).1,
        crew.turn task (crew.controller.proceed read own stage).2.1
          (crew.controller.proceed read own stage).2.2) := by
  unfold Crew.work
  simp only [holds]

/-- The holder of the domain goes on with what follows its sync. -/
theorem Shows.work_own (shown : crew.Shows domain standing)
    (holds : crew.tasks task = .holding domain stage) (quiet : stage.isCascade = false)
    (read : Nat) :
    Follows crew.controller.settings.retryLimit domain standing (crew.work task read) := by
  obtain ⟨again, place⟩ := shown.place_held holds
  rw [work_of_holding holds]
  have seen := shown.controller
  cases stage with
  | cascading _ _ => cases quiet
  | extending _ _ _ _ => cases quiet
  | syncing => exact Shows.rest (shown.turn seen (by rw [holds]; rfl) (by rw [holds]; rfl))
  | judging result =>
      cases result with
      | ok outcome =>
          unfold Controller.proceed
          rw [seen.lapse]
          refine Shows.move ?_ (.succeeded place)
          have counted : { crew.controller with
              metrics := crew.controller.metrics.countSync outcome }.Shows domain standing :=
            seen.congr rfl
          exact shown.goOn holds quiet rfl (counted.rephase place .returning).forget rfl rfl
      | error error =>
          unfold Controller.proceed Controller.judge
          rw [seen.count]
          by_cases left : standing.count ≤ crew.controller.settings.retryLimit
          · rw [if_pos left]
            refine Shows.move ?_ (.requeued place left)
            exact shown.goOn holds quiet rfl ((seen.rephase place .retrying).congr rfl) rfl rfl
          · rw [if_neg left]
            refine Shows.move ?_ (.dropped place (Nat.lt_of_not_le left))
            exact shown.goOn holds quiet rfl ((seen.rephase place .dropping).congr rfl) rfl rfl
  | retrying =>
      refine Shows.move ?_ (.reserved place)
      exact shown.goOn holds quiet rfl ((seen.rephase place .readmitting).reserve read) rfl rfl
  | readmitting delay =>
      refine Shows.move ?_ (.readmitted (decide (delay = 0)) place)
      refine shown.goOn holds quiet rfl ((seen.rephase place .returning).tell read delay) ?_ ?_
      · rw [Standing.admitted_phase?]
        rfl
      · rw [Standing.admitted_pending]
  | dropping =>
      unfold Controller.proceed
      rw [seen.lapse]
      refine Shows.move ?_ (.cleared place)
      exact shown.goOn holds quiet rfl (seen.rephase place .returning).forget rfl rfl
  | returning =>
      refine Shows.move ?_ (.returned place)
      refine ⟨⟨seen.queue.complete place, seen.count⟩, ?_, ?_⟩
      · have nobody : HeldIn (reassign crew.tasks task .idle) domain
            (Activity.phase? domain .idle) := by
          refine shown.held.turn ?_
          rw [holds, place]
          exact if_pos rfl
        cases again <;> exact nobody
      · exact shown.called.stay (by rw [holds]; rfl)

/-- The holder of another domain turns to another stage of it, or gives it back. -/
theorem Shows.apart (shown : crew.Shows domain standing) {other : String}
    (holds : crew.tasks task = .holding other stage) (different : other ≠ domain)
    (quiet : stage.isCascade = false) {controller : Controller}
    (seen : controller.Shows domain standing) {activity : Activity}
    (phase : activity.phase? domain = none) (calls : activity.calls domain = false) :
    (crew.turn task activity controller).Shows domain standing := by
  refine shown.turn seen ?_ ?_
  · rw [phase, holds]
    exact (if_neg different).symm
  · rw [calls, holds, Activity.calls_of_quiet quiet]

theorem Shows.work_other (shown : crew.Shows domain standing) {other : String}
    (holds : crew.tasks task = .holding other stage) (different : other ≠ domain)
    (quiet : stage.isCascade = false) (read : Nat) :
    Follows limit domain standing (crew.work task read) := by
  rw [work_of_holding holds]
  have seen := shown.controller
  have goesOn : ∀ {later : Stage} {controller : Controller}, later.isCascade = false →
      controller.Shows domain standing →
        (crew.turn task (.holding other later) controller).Shows domain standing :=
    fun stillQuiet seen => shown.apart holds different quiet seen (if_neg different)
      (Activity.calls_of_quiet stillQuiet domain other)
  cases stage with
  | cascading _ _ => cases quiet
  | extending _ _ _ _ => cases quiet
  | syncing => exact Shows.rest (goesOn rfl seen)
  | judging result =>
      cases result with
      | ok outcome =>
          have counted : { crew.controller with
              metrics := crew.controller.metrics.countSync outcome }.Shows domain standing :=
            seen.congr rfl
          refine Shows.aside ?_ different (.succeeded :: crew.controller.lapse other)
          exact goesOn rfl (counted.forget_other different)
      | error error =>
          unfold Controller.proceed Controller.judge
          by_cases left : crew.controller.queue.requeues other ≤
              crew.controller.settings.retryLimit
          · simp only [if_pos left]
            refine Shows.aside ?_ different [.requeued]
            exact goesOn rfl (seen.congr rfl)
          · simp only [if_neg left]
            refine Shows.aside ?_ different [.dropped]
            exact goesOn rfl (seen.congr rfl)
  | retrying => exact Shows.rest (goesOn rfl (seen.reserve_other read different))
  | readmitting delay => exact Shows.rest (goesOn rfl (seen.tell_other read delay different))
  | dropping =>
      refine Shows.aside ?_ different (crew.controller.lapse other)
      exact goesOn rfl (seen.forget_other different)
  | returning =>
      refine Shows.rest (shown.apart holds different quiet ?_ rfl rfl)
      exact ⟨seen.queue.complete_other different, seen.count⟩

/-- A task looks at the targets of a snapshot, of which one may be the domain. -/
theorem Shows.work_cascade (shown : crew.Shows domain standing) {own : String}
    (holds : crew.tasks task = .holding own stage) (cascades : stage.isCascade = true)
    (read : Nat) : Follows limit domain standing (crew.work task read) := by
  rw [work_of_holding holds]
  have seen := shown.controller
  cases stage with
  | syncing | judging _ | retrying | readmitting _ | dropping | returning => cases cascades
  | cascading outcome targets =>
      cases targets with
      | nil => exact Shows.rest (shown.turn seen (by rw [holds]; rfl) (by rw [holds]; rfl))
      | cons target targets =>
          unfold Controller.proceed
          by_cases fresh : crew.controller.isNewTarget own target = true
          · simp only [if_pos fresh]
            by_cases same : target = domain
            · subst same
              exact shown.begin (by rw [holds]; rfl) (by rw [holds]; rfl)
                (by simp [Activity.calls]) read
            · refine Shows.aside ?_ same [.called]
              exact shown.turn (seen.reserve_other read same) (by rw [holds]; rfl)
                (by rw [holds]; simp [Activity.calls, same])
          · simp only [if_neg fresh]
            exact Shows.rest (shown.turn seen (by rw [holds]; rfl) (by rw [holds]; rfl))
  | extending outcome target delay targets =>
      by_cases same : target = domain
      · subst same
        exact shown.finish (by rw [holds]; rfl) (by rw [holds]; simp [Activity.calls]) rfl
          read delay
      · refine Shows.aside ?_ same [.queued]
        exact shown.turn (seen.tell_other read delay same) (by rw [holds]; rfl)
          (by rw [holds]; simp [Controller.proceed, Activity.calls, same])

theorem Shows.work (shown : crew.Shows domain standing) (task : TaskId) (read : Nat) :
    Follows crew.controller.settings.retryLimit domain standing (crew.work task read) := by
  cases doing : crew.tasks task with
  | idle =>
      unfold Crew.work
      simp only [doing]
      exact shown.rest
  | calling other delay =>
      unfold Crew.work
      simp only [doing]
      by_cases same : other = domain
      · subst same
        exact shown.finish (by rw [doing]; rfl) (by rw [doing]; simp [Activity.calls]) rfl read delay
      · refine Shows.aside ?_ same [.queued]
        exact shown.turn (shown.controller.tell_other read delay same) (by rw [doing]; rfl)
          (by rw [doing]; simp [Activity.calls, same])
  | holding own stage =>
      cases cascades : stage.isCascade with
      | true => exact shown.work_cascade doing cascades read
      | false =>
          by_cases same : own = domain
          · subst same
            exact shown.work_own doing cascades read
          · exact shown.work_other doing same cascades read

theorem Shows.step (shown : crew.Shows domain standing) (step : CrewStep) :
    Follows crew.controller.settings.retryLimit domain standing (crew.step step) := by
  cases step with
  | call task read other => exact shown.call task read other
  | take task => exact shown.take task
  | finish task result =>
      exact Shows.rest (shown.conclude task _ (fun _ => rfl) (fun _ => rfl))
  | mirror task outcome snapshot =>
      exact Shows.rest (shown.conclude task _ (fun _ => rfl) (fun _ => rfl))
  | work task read => exact shown.work task read
  | close =>
      have seen := shown.controller
      have closed : (crew.step .close).2.Shows domain
          { standing with delayed := false, closed := true } :=
        ⟨⟨seen.queue.close, seen.count⟩, shown.held, shown.called⟩
      exact closed.move (.closed standing)
  | advance span => exact Shows.rest ⟨shown.controller, shown.held, shown.called⟩
  | around other =>
      exact Shows.rest ⟨shown.controller.congr rfl, shown.held, shown.called⟩

theorem conclude_settings (crew : Crew) (task : TaskId) (follow : String → Stage) :
    (crew.conclude task follow).controller.settings = crew.controller.settings := by
  obtain ⟨_, _, turned⟩ | ⟨_, same⟩ := crew.conclude_cases task follow
  · rw [turned]
    rfl
  · rw [same]

theorem step_settings (crew : Crew) (step : CrewStep) :
    (crew.step step).2.controller.settings = crew.controller.settings := by
  cases step with
  | call task read domain =>
      change (crew.call task read domain).2.controller.settings = _
      unfold Crew.call
      split <;> rfl
  | take task =>
      change (crew.take task).2.controller.settings = _
      unfold Crew.take
      split
      · simp only
        split <;> rfl
      all_goals rfl
  | finish task result => exact crew.conclude_settings task _
  | mirror task outcome snapshot => exact crew.conclude_settings task _
  | work task read =>
      change (crew.work task read).2.controller.settings = _
      unfold Crew.work
      split
      · rfl
      · rfl
      · exact crew.controller.proceed_settings read _ _
  | close => rfl
  | advance span => rfl
  | around other => rfl

theorem run_settings (crew : Crew) (steps : List CrewStep) :
    (crew.run steps).2.controller.settings = crew.controller.settings := by
  induction steps generalizing crew with
  | nil => rfl
  | cons step rest ih => exact (ih (crew.step step).2).trans (crew.step_settings step)

/-- Whatever a crew does, a domain makes the moves that are noted of it. -/
theorem Shows.run (shown : crew.Shows domain standing) (steps : List CrewStep) :
    Follows crew.controller.settings.retryLimit domain standing (crew.run steps) := by
  induction steps generalizing crew standing with
  | nil => exact shown.rest
  | cons step rest ih =>
      obtain ⟨next, path, seen⟩ := shown.step step
      obtain ⟨last, later, final⟩ := ih seen
      rw [crew.step_settings step] at later
      refine ⟨last, ?_, final⟩
      rw [run_cons, marksOf_append]
      exact path.trans later

end Crew

end PolicyReplica
