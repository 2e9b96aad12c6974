import PolicyReplica.Proofs.Queue.Session
import PolicyReplica.Proofs.Retry.Crew

/-
How a queue and its limiter have one domain.

A domain is nowhere, ready or held; it may be delayed, some tasks may be about to enqueue
it, and it has a count. What becomes of it are moves among few such standings. What each
operation of the controller does to a standing is said here once, for the domain that it
is about, and for all others, which it leaves where they are.
-/

namespace PolicyReplica

inductive Phase where
  /-- The holder has not judged the sync yet. -/
  | undecided
  | retrying
  | readmitting
  | dropping
  | returning
  deriving DecidableEq, Repr

def Stage.isCascade : Stage → Bool
  | .cascading _ _ | .extending _ _ _ _ => true
  | .syncing | .judging _ | .retrying | .readmitting _ | .dropping | .returning => false

def Stage.phase : Stage → Phase
  | .syncing | .cascading _ _ | .extending _ _ _ _ | .judging _ => .undecided
  | .retrying => .retrying
  | .readmitting _ => .readmitting
  | .dropping => .dropping
  | .returning => .returning

inductive Place where
  | absent
  | ready
  | held (phase : Phase) (again : Bool)
  deriving DecidableEq, Repr

namespace Place

def marked : Place → Bool
  | .absent => false
  | .ready => true
  | .held _ again => again

def added : Place → Place
  | .absent | .ready => .ready
  | .held phase _ => .held phase true

def phase? : Place → Option Phase
  | .absent | .ready => none
  | .held phase _ => some phase

end Place

structure Standing where
  place : Place
  delayed : Bool
  /-- How many tasks have begun to enqueue the domain and not told the queue yet. -/
  pending : Nat
  count : Nat
  closed : Bool
  deriving DecidableEq, Repr

namespace Standing

def fresh : Standing :=
  { place := .absent, delayed := false, pending := 0, count := 0, closed := false }

def admitted (immediate : Bool) (standing : Standing) : Standing :=
  if standing.closed then standing
  else if immediate then { standing with place := standing.place.added }
  else { standing with delayed := true }

def promoted (standing : Standing) : Standing :=
  { standing with delayed := false }.admitted true

def lapse (standing : Standing) : List Mark :=
  if standing.place.marked || standing.delayed then [.lapsed] else []

theorem admitted_pending (immediate : Bool) (standing : Standing) :
    (standing.admitted immediate).pending = standing.pending := by
  unfold admitted
  split
  · rfl
  · split <;> rfl

theorem admitted_count (immediate : Bool) (standing : Standing) :
    (standing.admitted immediate).count = standing.count := by
  unfold admitted
  split
  · rfl
  · split <;> rfl

theorem admitted_phase? (immediate : Bool) (standing : Standing) :
    (standing.admitted immediate).place.phase? = standing.place.phase? := by
  obtain ⟨place, delayed, pending, count, closed⟩ := standing
  unfold admitted
  cases closed <;> cases immediate <;> cases place <;> rfl

end Standing

inductive Moves (limit : Nat) : Standing → List Mark → Standing → Prop where
  | called (standing : Standing) :
      Moves limit standing [.called]
        { standing with pending := standing.pending + 1, count := standing.count + 1 }
  | queued (immediate : Bool) {standing : Standing} {left : Nat}
      (begun : standing.pending = left + 1) :
      Moves limit standing [.queued] ({ standing with pending := left }.admitted immediate)
  | promoted {standing : Standing} (delayed : standing.delayed = true) :
      Moves limit standing [] standing.promoted
  | handed {standing : Standing} (ready : standing.place = .ready) :
      Moves limit standing [.handed] { standing with place := .held .undecided false }
  | succeeded {standing : Standing} {again : Bool}
      (undecided : standing.place = .held .undecided again) :
      Moves limit standing (.succeeded :: standing.lapse)
        { standing with place := .held .returning again, count := 0 }
  | requeued {standing : Standing} {again : Bool}
      (undecided : standing.place = .held .undecided again) (left : standing.count ≤ limit) :
      Moves limit standing [.requeued] { standing with place := .held .retrying again }
  | dropped {standing : Standing} {again : Bool}
      (undecided : standing.place = .held .undecided again) (exceeded : limit < standing.count) :
      Moves limit standing [.dropped] { standing with place := .held .dropping again }
  | reserved {standing : Standing} {again : Bool}
      (retrying : standing.place = .held .retrying again) :
      Moves limit standing []
        { standing with place := .held .readmitting again, count := standing.count + 1 }
  | readmitted (immediate : Bool) {standing : Standing} {again : Bool}
      (readmitting : standing.place = .held .readmitting again) :
      Moves limit standing []
        ({ standing with place := .held .returning again }.admitted immediate)
  | cleared {standing : Standing} {again : Bool}
      (dropping : standing.place = .held .dropping again) :
      Moves limit standing standing.lapse
        { standing with place := .held .returning again, count := 0 }
  | returned {standing : Standing} {again : Bool}
      (returning : standing.place = .held .returning again) :
      Moves limit standing [] { standing with place := if again then .ready else .absent }
  | closed (standing : Standing) :
      Moves limit standing [] { standing with delayed := false, closed := true }

inductive Path (limit : Nat) : Standing → List Mark → Standing → Prop where
  | rest (standing : Standing) : Path limit standing [] standing
  | cons {first next last : Standing} {marks later : List Mark}
      (move : Moves limit first marks next) (rest : Path limit next later last) :
      Path limit first (marks ++ later) last

theorem Moves.path {limit : Nat} {first next : Standing} {marks : List Mark}
    (move : Moves limit first marks next) : Path limit first marks next := by
  have path := Path.cons move (.rest next)
  rw [List.append_nil] at path
  exact path

theorem Path.trans {limit : Nat} {first next last : Standing} {marks later : List Mark}
    (path : Path limit first marks next) (rest : Path limit next later last) :
    Path limit first (marks ++ later) last := by
  induction path with
  | rest standing => exact rest
  | cons move path ih =>
      rw [List.append_assoc]
      exact .cons move (ih rest)

/-! ### The queue -/

namespace WorkQueue

variable {κ : Type} [DecidableEq κ]

def Has (queue : WorkQueue κ) (key : κ) : Place → Prop
  | .absent => key ∉ queue.ready ∧ key ∉ queue.dirty ∧ key ∉ queue.processing
  | .ready => queue.ready.count key = 1 ∧ queue.dirty.count key = 1 ∧ key ∉ queue.processing
  | .held _ again =>
      key ∉ queue.ready ∧ queue.dirty.count key = (if again then 1 else 0) ∧
        key ∈ queue.processing

variable {queue : WorkQueue κ} {key : κ} {place : Place}

theorem Has.mem_dirty (has : queue.Has key place) : key ∈ queue.dirty ↔ place.marked = true := by
  cases place with
  | absent => exact ⟨fun dirty => absurd dirty has.2.1, nofun⟩
  | ready => exact ⟨fun _ => rfl, fun _ => List.count_pos_iff.mp (by rw [has.2.1]; decide)⟩
  | held phase again =>
      rw [← List.count_pos_iff, has.2.1]
      cases again <;> simp [Place.marked]

theorem Has.of_lists {other : WorkQueue κ} (has : queue.Has key place)
    (ready : other.ready = queue.ready) (dirty : other.dirty = queue.dirty)
    (processing : other.processing = queue.processing) : other.Has key place := by
  cases place <;> unfold Has at has ⊢ <;> rw [ready, dirty, processing] <;> exact has

theorem Has.add (has : queue.Has key place) :
    (queue.add key).2.Has key (if queue.closed then place else place.added) := by
  obtain ⟨refused, added⟩ | ⟨unclosed, clean, held, added⟩ | ⟨unclosed, clean, free, added⟩ :=
    queue.add_cases key
  · rw [added]
    cases closed : queue.closed with
    | true => exact has
    | false =>
        have marked : place.marked = true :=
          has.mem_dirty.mp (refused.resolve_left (by rw [closed]; decide))
        cases place with
        | absent => cases marked
        | ready => exact has
        | held phase again =>
            obtain rfl : again = true := marked
            exact has
  · have unmarked : place.marked ≠ true := mt has.mem_dirty.mpr clean
    rw [added, unclosed]
    cases place with
    | absent => exact absurd held has.2.2
    | ready => exact absurd rfl unmarked
    | held phase again =>
        refine ⟨has.1, ?_, held⟩
        change (key :: queue.dirty).count key = 1
        rw [List.count_cons_self, List.count_eq_zero.mpr clean]
  · have unmarked : place.marked ≠ true := mt has.mem_dirty.mpr clean
    rw [added, unclosed]
    cases place with
    | absent =>
        refine ⟨?_, ?_, free⟩
        · change (queue.ready ++ [key]).count key = 1
          rw [List.count_append, List.count_eq_zero.mpr has.1, List.count_singleton_self]
        · change (key :: queue.dirty).count key = 1
          rw [List.count_cons_self, List.count_eq_zero.mpr clean]
    | ready => exact absurd rfl unmarked
    | held phase again => exact absurd has.2.2 free

theorem Has.congr {other : WorkQueue κ} (has : queue.Has key place)
    (ready : other.ready.count key = queue.ready.count key)
    (dirty : other.dirty.count key = queue.dirty.count key)
    (processing : key ∈ other.processing ↔ key ∈ queue.processing) : other.Has key place := by
  have lists : ∀ {one another : List κ}, another.count key = one.count key →
      (key ∉ another ↔ key ∉ one) := by
    intro one another same
    rw [← List.count_eq_zero, ← List.count_eq_zero, same]
  cases place with
  | absent => exact ⟨(lists ready).mpr has.1, (lists dirty).mpr has.2.1, mt processing.mp has.2.2⟩
  | ready => exact ⟨ready.trans has.1, dirty.trans has.2.1, mt processing.mp has.2.2⟩
  | held phase again =>
      exact ⟨(lists ready).mpr has.1, dirty.trans has.2.1, processing.mpr has.2.2⟩

theorem Has.add_other (has : queue.Has key place) {other : κ} (apart : other ≠ key) :
    (queue.add other).2.Has key place := by
  obtain ⟨_, added⟩ | ⟨_, _, _, added⟩ | ⟨_, _, _, added⟩ := queue.add_cases other <;> rw [added]
  · exact has
  · exact has.congr rfl (List.count_cons_of_ne apart) .rfl
  · refine has.congr ?_ (List.count_cons_of_ne apart) .rfl
    change (queue.ready ++ [other]).count key = _
    rw [List.count_append, List.count_singleton, if_neg (by simpa using apart), Nat.add_zero]

structure Shows (queue : WorkQueue κ) (key : κ) (standing : Standing) : Prop where
  has : queue.Has key standing.place
  delayed : (queue.deadlines.get? key).isSome = standing.delayed
  closed : queue.closed = standing.closed

variable {standing : Standing}

theorem Shows.needs {queue : WorkQueue String} {key : String} (shown : queue.Shows key standing) :
    queue.needs key = (standing.place.marked || standing.delayed) := by
  unfold WorkQueue.needs
  rw [shown.delayed]
  congr 1
  rw [Bool.eq_iff_iff, decide_eq_true_iff]
  exact shown.has.mem_dirty

theorem Shows.add (shown : queue.Shows key standing) :
    (queue.add key).2.Shows key (standing.admitted true) := by
  obtain ⟨place, isDelayed, pending, count, shut⟩ := standing
  obtain ⟨has, delayed, closed⟩ := shown
  have added := has.add
  rw [closed] at added
  cases shut <;>
    exact ⟨added, by rw [add_deadlines, delayed]; rfl, by rw [add_closed, closed]; rfl⟩

theorem Shows.add_other (shown : queue.Shows key standing) {other : κ} (apart : other ≠ key) :
    (queue.add other).2.Shows key standing :=
  ⟨shown.has.add_other apart, by rw [add_deadlines, shown.delayed],
    by rw [add_closed, shown.closed]⟩

theorem Shows.delay (shown : queue.Shows key standing) (time : Nat) :
    (queue.delay time key).2.Shows key (standing.admitted false) := by
  obtain ⟨place, isDelayed, pending, count, shut⟩ := standing
  obtain ⟨has, delayed, closed⟩ := shown
  obtain ⟨refused, why⟩ | ⟨unclosed, entered⟩ := queue.delay_cases time key
  · rw [refused]
    cases shut with
    | true => exact ⟨has, delayed, closed⟩
    | false =>
        obtain ⟨due, found, _⟩ := why.resolve_left (by simp [closed])
        refine ⟨has, ?_, closed⟩
        change (queue.deadlines.get? key).isSome = true
        rw [found]
        rfl
  · obtain rfl : shut = false := closed.symm.trans unclosed
    rw [entered]
    refine ⟨has.of_lists rfl rfl rfl, ?_, closed⟩
    change ((queue.deadlines.insert key time).get? key).isSome = true
    rw [Table.get?_insert_self]
    rfl

theorem Shows.delay_other (shown : queue.Shows key standing) (time : Nat) {other : κ}
    (apart : other ≠ key) : (queue.delay time other).2.Shows key standing := by
  obtain ⟨refused, _⟩ | ⟨_, entered⟩ := queue.delay_cases time other
  · rw [refused]
    exact shown
  · rw [entered]
    refine ⟨shown.has.of_lists rfl rfl rfl, ?_, shown.closed⟩
    change ((queue.deadlines.insert other time).get? key).isSome = _
    rw [Table.get?_insert, if_neg (Ne.symm apart)]
    exact shown.delayed

/-- A key that is delayed is admitted by its deadline, once; a superseded entry leaves it
as it is. -/
theorem Shows.promote (shown : queue.Shows key standing) (now : Nat) :
    (queue.promote now).Shows key standing ∨
      standing.delayed = true ∧ (queue.promote now).Shows key standing.promoted := by
  apply queue.promote_induction (motive := fun after => after.Shows key standing ∨
    standing.delayed = true ∧ after.Shows key standing.promoted) now
  · exact .inl ⟨shown.has.of_lists rfl rfl rfl, shown.delayed, shown.closed⟩
  · intro before entry sofar
    obtain ⟨due, promoted⟩ | ⟨_, promoted⟩ := before.promoteEntry_cases entry
    · rw [promoted]
      by_cases same : entry.key = key
      · rw [same] at due ⊢
        rcases sofar with waiting | ⟨_, admitted⟩
        · refine .inr ⟨by rw [← waiting.delayed, due]; rfl, ?_⟩
          have erased : { before with deadlines := before.deadlines.erase key }.Shows key
              { standing with delayed := false } :=
            ⟨waiting.has.of_lists rfl rfl rfl, by simp, waiting.closed⟩
          exact erased.add
        · have none : (before.deadlines.get? key).isSome = false := by
            rw [admitted.delayed]
            unfold Standing.promoted Standing.admitted
            split <;> rfl
          rw [due] at none
          cases none
      · have kept : ∀ {view : Standing}, before.Shows key view →
            ({ before with deadlines := before.deadlines.erase entry.key }.add
              entry.key).2.Shows key view := by
          intro view seen
          have erased : { before with deadlines := before.deadlines.erase entry.key }.Shows key
              view := by
            refine ⟨seen.has.of_lists rfl rfl rfl, ?_, seen.closed⟩
            rw [Table.get?_erase, if_neg (Ne.symm same)]
            exact seen.delayed
          exact erased.add_other same
        exact sofar.imp kept (And.imp_right kept)
    · rw [promoted]
      exact sofar

theorem Shows.handOut (shown : queue.Shows key standing) :
    (∃ rest, queue.handOut = (.item key, rest) ∧ standing.place = .ready ∧
        rest.Shows key { standing with place := .held .undecided false }) ∨
      queue.handOut.1 ≠ .item key ∧ queue.handOut.2.Shows key standing := by
  obtain ⟨first, rest, line, handed⟩ | ⟨_, _, handed⟩ | ⟨_, _, handed⟩ := queue.handOut_cases
  · rw [handed]
    obtain ⟨has, delayed, closed⟩ := shown
    by_cases same : first = key
    · subst same
      have inLine : first ∈ queue.ready := by simp [line]
      have ready : standing.place = .ready := by
        cases place : standing.place with
        | absent => rw [place] at has; exact absurd inLine has.1
        | ready => rfl
        | held phase again => rw [place] at has; exact absurd inLine has.1
      rw [ready] at has
      obtain ⟨once, marked, free⟩ := has
      refine .inl ⟨_, rfl, ready, ⟨?_, ?_, List.mem_cons_self⟩, delayed, closed⟩
      · rw [line, List.count_cons_self] at once
        exact List.count_eq_zero.mp (Nat.succ.inj once)
      · change (queue.dirty.erase first).count first = 0
        rw [List.count_erase_self, marked]
    · have apart : Handout.item first ≠ .item key := by
        intro equal
        cases equal
        exact same rfl
      refine .inr ⟨apart, has.congr ?_ ?_ ?_, delayed, closed⟩
      · change rest.count key = _
        rw [line, List.count_cons_of_ne same]
      · exact List.count_erase_of_ne (Ne.symm same)
      · change key ∈ first :: queue.processing ↔ _
        rw [List.mem_cons]
        exact or_iff_right (Ne.symm same)
  · rw [handed]
    exact .inr ⟨nofun, shown⟩
  · rw [handed]
    exact .inr ⟨nofun, shown⟩

theorem Shows.complete (shown : queue.Shows key standing) {phase : Phase} {again : Bool}
    (held : standing.place = .held phase again) :
    (queue.complete key).2.Shows key
      { standing with place := if again then .ready else .absent } := by
  obtain ⟨has, delayed, closed⟩ := shown
  rw [held] at has
  obtain ⟨waiting, marks, processing⟩ := has
  have released : key ∉ queue.processing.filter (· ≠ key) := by simp
  obtain ⟨marked, completed⟩ | ⟨clean, completed⟩ := queue.complete_cases key
  · have twice : again = true := by
      rw [← List.count_pos_iff, marks] at marked
      cases again with
      | true => rfl
      | false => cases marked
    rw [completed, twice]
    rw [twice] at marks
    refine ⟨⟨?_, marks, released⟩, delayed, closed⟩
    change (queue.ready ++ [key]).count key = 1
    rw [List.count_append, List.count_eq_zero.mpr waiting, List.count_singleton_self]
  · have never : again = false := by
      rw [← List.count_eq_zero, marks] at clean
      cases again with
      | true => cases clean
      | false => rfl
    rw [completed, never]
    exact ⟨⟨waiting, clean, released⟩, delayed, closed⟩

theorem Shows.complete_other (shown : queue.Shows key standing) {other : κ}
    (apart : other ≠ key) : (queue.complete other).2.Shows key standing := by
  obtain ⟨has, delayed, closed⟩ := shown
  have kept : key ∈ queue.processing.filter (· ≠ other) ↔ key ∈ queue.processing := by
    simp [Ne.symm apart]
  obtain ⟨_, completed⟩ | ⟨_, completed⟩ := queue.complete_cases other
  · rw [completed]
    refine ⟨has.congr ?_ rfl kept, delayed, closed⟩
    change (queue.ready ++ [other]).count key = _
    rw [List.count_append, List.count_singleton, if_neg (by simpa using apart), Nat.add_zero]
  · rw [completed]
    exact ⟨has.congr rfl rfl kept, delayed, closed⟩

theorem Shows.close (shown : queue.Shows key standing) :
    queue.close.Shows key { standing with delayed := false, closed := true } :=
  ⟨shown.has.of_lists rfl rfl rfl, rfl, rfl⟩

end WorkQueue

/-! ### The limiter -/

namespace Controller

/-- Holds of a controller that has a domain as the standing says, whoever is about to
enqueue it. -/
structure Shows (controller : Controller) (domain : String) (standing : Standing) : Prop where
  queue : controller.queue.queue.Shows domain standing
  count : controller.queue.requeues domain = standing.count

variable {controller : Controller} {domain : String} {standing : Standing}

theorem Shows.congr {other : Controller} (shown : controller.Shows domain standing)
    (queue : other.queue = controller.queue) : other.Shows domain standing := by
  refine ⟨?_, ?_⟩
  · rw [queue]
    exact shown.queue
  · rw [queue]
    exact shown.count

/-- The queue does not know what the holder is at. -/
theorem Shows.rephase (shown : controller.Shows domain standing) {phase : Phase} {again : Bool}
    (held : standing.place = .held phase again) (other : Phase) :
    controller.Shows domain { standing with place := .held other again } := by
  obtain ⟨⟨has, delayed, closed⟩, count⟩ := shown
  rw [held] at has
  exact ⟨⟨has, delayed, closed⟩, count⟩

theorem Shows.lapse (shown : controller.Shows domain standing) :
    controller.lapse domain = standing.lapse := by
  unfold Controller.lapse Standing.lapse
  rw [shown.queue.needs]

theorem requeues_reserve (read : Nat) (other : String) :
    (controller.reserve read other).2.queue.requeues domain =
      controller.queue.requeues domain + if domain = other then 1 else 0 :=
  Counts.count_increment controller.queue.limiter.admissions other domain

theorem Shows.reserve (shown : controller.Shows domain standing) (read : Nat) :
    (controller.reserve read domain).2.Shows domain
      { standing with count := standing.count + 1 } := by
  refine ⟨⟨shown.queue.has, shown.queue.delayed, shown.queue.closed⟩, ?_⟩
  rw [requeues_reserve, if_pos rfl, shown.count]

theorem Shows.reserve_other (shown : controller.Shows domain standing) (read : Nat)
    {other : String} (apart : other ≠ domain) :
    (controller.reserve read other).2.Shows domain standing := by
  refine ⟨shown.queue, ?_⟩
  rw [requeues_reserve, if_neg (Ne.symm apart), Nat.add_zero, shown.count]

theorem tell_queue (read delay : Nat) (other : String) :
    (controller.tell read delay other).queue.queue =
      if delay = 0 then (controller.queue.queue.add other).2
      else (controller.queue.queue.delay (read + delay) other).2 :=
  controller.queue.addAfter_queue read delay other

theorem requeues_tell (read delay : Nat) (other : String) :
    (controller.tell read delay other).queue.requeues domain =
      controller.queue.requeues domain := by
  unfold tell SharedQueue.addAfter
  split <;> rfl

theorem Shows.tell (shown : controller.Shows domain standing) (read delay : Nat) :
    (controller.tell read delay domain).Shows domain
      (standing.admitted (decide (delay = 0))) := by
  refine ⟨?_, ?_⟩
  · rw [tell_queue]
    by_cases immediate : delay = 0
    · rw [if_pos immediate, decide_eq_true immediate]
      exact shown.queue.add
    · rw [if_neg immediate, decide_eq_false immediate]
      exact shown.queue.delay (read + delay)
  · rw [requeues_tell, shown.count, Standing.admitted_count]

theorem Shows.tell_other (shown : controller.Shows domain standing) (read delay : Nat)
    {other : String} (apart : other ≠ domain) :
    (controller.tell read delay other).Shows domain standing := by
  refine ⟨?_, ?_⟩
  · rw [tell_queue]
    split
    · exact shown.queue.add_other apart
    · exact shown.queue.delay_other (read + delay) apart
  · rw [requeues_tell, shown.count]

theorem requeues_forget (other : String) :
    (controller.forget other).queue.requeues domain =
      if domain = other then 0 else controller.queue.requeues domain := by
  change ((controller.queue.limiter.admissions.erase other).get? domain).getD 0 = _
  rw [Table.get?_erase]
  split <;> rfl

theorem Shows.forget (shown : controller.Shows domain standing) :
    (controller.forget domain).Shows domain { standing with count := 0 } :=
  ⟨⟨shown.queue.has, shown.queue.delayed, shown.queue.closed⟩,
    by rw [requeues_forget, if_pos rfl]⟩

theorem Shows.forget_other (shown : controller.Shows domain standing) {other : String}
    (apart : other ≠ domain) : (controller.forget other).Shows domain standing :=
  ⟨shown.queue, by rw [requeues_forget, if_neg (Ne.symm apart), shown.count]⟩

theorem proceed_settings (controller : Controller) (read : Nat) (own : String) (stage : Stage) :
    (controller.proceed read own stage).2.2.settings = controller.settings := by
  cases stage with
  | cascading outcome targets =>
      cases targets with
      | nil => rfl
      | cons target targets =>
          unfold proceed
          cases fresh : controller.isNewTarget own target with
          | true => simp only [fresh]; rfl
          | false => simp only [fresh]; rfl
  | judging result =>
      cases result with
      | ok outcome => rfl
      | error error =>
          change (controller.judge own).2.2.settings = _
          unfold judge
          simp only
          split <;> rfl
  | syncing | extending _ _ _ _ | retrying | readmitting _ | dropping | returning => rfl

end Controller

end PolicyReplica
