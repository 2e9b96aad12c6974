import PolicyReplica.Proofs.Retry.Following

/-
How often a domain that is enqueued once is tried.

The count of the domain grows with each admission, and its holder compares it with the
limit before the next one. Main statement: whatever others do meanwhile, a domain that was
nowhere, is enqueued once and fails each time is handed out once more than the limit says,
requeued after each failure but the last one, and then it is nowhere and has no count.
-/

namespace PolicyReplica

def failures : Nat → List Mark
  | 0 => []
  | tries + 1 => failures tries ++ [.handed, .requeued]

/-- How often a failing domain is tried that has such a count when it gets in line. -/
def attempts (limit first : Nat) : Nat :=
  max 1 (limit + 2 - first)

theorem count_handed_failures (tries : Nat) : (failures tries).count .handed = tries := by
  induction tries with
  | zero => rfl
  | succ tries ih =>
      unfold failures
      rw [List.count_append, ih]
      rfl

theorem count_handed_last (tries : Nat) :
    (failures tries ++ [Mark.handed, .dropped]).count .handed = tries + 1 := by
  rw [List.count_append, count_handed_failures]
  rfl

/-- What is noted of a failing domain and where it is then. It got in line at one place, with
such a count, and nobody enqueues it any more. -/
inductive Course (limit first : Nat) : List Mark → Standing → Prop where
  | ready (tries : Nat) (left : tries = 0 ∨ first + tries ≤ limit + 1) :
      Course limit first (failures tries) ⟨.ready, false, 0, first + tries, false⟩
  | delayed (tries : Nat) (left : tries = 0 ∨ first + tries ≤ limit + 1) :
      Course limit first (failures tries) ⟨.absent, true, 0, first + tries, false⟩
  | undecided (tries : Nat) (left : tries = 0 ∨ first + tries ≤ limit + 1) :
      Course limit first (failures tries ++ [.handed])
        ⟨.held .undecided false, false, 0, first + tries, false⟩
  | retrying (tries : Nat) (left : first + tries ≤ limit) :
      Course limit first (failures (tries + 1))
        ⟨.held .retrying false, false, 0, first + tries, false⟩
  | readmitting (tries : Nat) (left : first + tries ≤ limit) :
      Course limit first (failures (tries + 1))
        ⟨.held .readmitting false, false, 0, first + tries + 1, false⟩
  | marked (tries : Nat) (left : first + tries ≤ limit) :
      Course limit first (failures (tries + 1))
        ⟨.held .returning true, false, 0, first + tries + 1, false⟩
  | postponed (tries : Nat) (left : first + tries ≤ limit) :
      Course limit first (failures (tries + 1))
        ⟨.held .returning false, true, 0, first + tries + 1, false⟩
  | dropping (tries : Nat) (last : tries + 1 = attempts limit first) :
      Course limit first (failures tries ++ [.handed, .dropped])
        ⟨.held .dropping false, false, 0, first + tries, false⟩
  | dropped (tries : Nat) (last : tries + 1 = attempts limit first) :
      Course limit first (failures tries ++ [.handed, .dropped])
        ⟨.held .returning false, false, 0, 0, false⟩
  | ended (tries : Nat) (last : tries + 1 = attempts limit first) :
      Course limit first (failures tries ++ [.handed, .dropped]) .fresh

variable {limit first : Nat} {story marks : List Mark} {standing next : Standing}

theorem Moves.closed_of_closed (move : Moves limit standing marks next)
    (closed : standing.closed = true) : next.closed = true := by
  have admitted : ∀ immediate (before : Standing), before.closed = true →
      (before.admitted immediate).closed = true := by
    intro immediate before closed
    unfold Standing.admitted
    rw [if_pos closed]
    exact closed
  cases move with
  | queued immediate begun => exact admitted immediate _ closed
  | promoted delayed => exact admitted true _ closed
  | readmitted immediate readmitting => exact admitted immediate _ closed
  | closed => rfl
  | _ => exact closed

theorem Path.closed_of_closed (path : Path limit standing marks next)
    (closed : standing.closed = true) : next.closed = true := by
  induction path with
  | rest standing => exact closed
  | cons move rest ih => exact ih (move.closed_of_closed closed)

theorem Path.open_of_open (path : Path limit standing marks next) (isOpen : next.closed = false) :
    standing.closed = false := by
  refine Bool.eq_false_iff.mpr fun closed => ?_
  rw [path.closed_of_closed closed] at isOpen
  cases isOpen

theorem Course.move (course : Course limit first story standing)
    (move : Moves limit standing marks next) (isOpen : next.closed = false)
    (uncalled : .called ∉ marks) (failing : .succeeded ∉ marks) :
    Course limit first (story ++ marks) next := by
  cases move with
  | called => exact absurd List.mem_cons_self uncalled
  | succeeded => exact absurd List.mem_cons_self failing
  | closed => cases isOpen
  | queued immediate begun => cases course <;> cases begun
  | promoted delayed =>
      rw [List.append_nil]
      cases course with
      | delayed tries left => exact .ready tries left
      | postponed tries left => exact .marked tries left
      | _ => cases delayed
  | handed ready =>
      cases course with
      | ready tries left => exact .undecided tries left
      | _ => cases ready
  | requeued undecided left =>
      cases course with
      | undecided tries _ =>
          cases undecided
          rw [List.append_assoc]
          exact .retrying tries left
      | _ => cases undecided
  | dropped undecided exceeded =>
      cases course with
      | undecided tries left =>
          cases undecided
          rw [List.append_assoc]
          refine .dropping tries ?_
          change limit < first + tries at exceeded
          unfold attempts
          omega
      | _ => cases undecided
  | reserved retrying =>
      rw [List.append_nil]
      cases course with
      | retrying tries left =>
          cases retrying
          exact .readmitting tries left
      | _ => cases retrying
  | readmitted immediate readmitting =>
      rw [List.append_nil]
      cases course with
      | readmitting tries left =>
          cases readmitting
          cases immediate with
          | true => exact .marked tries left
          | false => exact .postponed tries left
      | _ => cases readmitting
  | cleared dropping =>
      cases course with
      | dropping tries last =>
          cases dropping
          rw [show Standing.lapse _ = [] from rfl, List.append_nil]
          exact .dropped tries last
      | _ => cases dropping
  | returned returning =>
      rw [List.append_nil]
      cases course with
      | marked tries left =>
          cases returning
          exact .ready (tries + 1) (.inr (by omega))
      | postponed tries left =>
          cases returning
          exact .delayed (tries + 1) (.inr (by omega))
      | dropped tries last =>
          cases returning
          exact .ended tries last
      | _ => cases returning

theorem Course.path (course : Course limit first story standing)
    (path : Path limit standing marks next) (isOpen : next.closed = false)
    (uncalled : .called ∉ marks) (failing : .succeeded ∉ marks) :
    Course limit first (story ++ marks) next := by
  induction path generalizing story with
  | rest standing =>
      rw [List.append_nil]
      exact course
  | cons move rest ih =>
      rw [List.mem_append, not_or] at uncalled failing
      have moved := course.move move (rest.open_of_open isOpen) uncalled.1 failing.1
      rw [← List.append_assoc]
      exact ih moved isOpen uncalled.2 failing.2

/-- A failing domain is not tried more often than its first count allows. -/
theorem Course.count_handed_le (course : Course limit first story standing) :
    story.count .handed ≤ attempts limit first := by
  unfold attempts
  cases course with
  | ready tries left => rw [count_handed_failures]; omega
  | delayed tries left => rw [count_handed_failures]; omega
  | undecided tries left =>
      rw [List.count_append, count_handed_failures, List.count_singleton_self]
      omega
  | retrying tries left => rw [count_handed_failures]; omega
  | readmitting tries left => rw [count_handed_failures]; omega
  | marked tries left => rw [count_handed_failures]; omega
  | postponed tries left => rw [count_handed_failures]; omega
  | dropping tries last => rw [count_handed_last, last]; exact Nat.le_refl _
  | dropped tries last => rw [count_handed_last, last]; exact Nat.le_refl _
  | ended tries last => rw [count_handed_last, last]; exact Nat.le_refl _

/-- A failing domain that is gone was tried as often as its first count allows. -/
theorem Course.gone (course : Course limit first story standing)
    (absent : standing.place = .absent) (undelayed : standing.delayed = false) :
    standing.count = 0 ∧ ∃ tries, tries + 1 = attempts limit first ∧
      story = failures tries ++ [.handed, .dropped] := by
  cases course with
  | ended tries last => exact ⟨rfl, tries, last, rfl⟩
  | delayed tries left => cases undelayed
  | _ => cases absent

inductive Once (limit : Nat) : List Mark → Standing → Prop where
  | nowhere : Once limit [] .fresh
  | begun : Once limit [.called] ⟨.absent, false, 1, 1, false⟩
  | queued {story : List Mark} {standing : Standing} (course : Course limit 1 story standing) :
      Once limit (.called :: .queued :: story) standing

theorem Once.move (once : Once limit story standing) (move : Moves limit standing marks next)
    (isOpen : next.closed = false) (calls : (story ++ marks).count .called ≤ 1)
    (failing : .succeeded ∉ marks) : Once limit (story ++ marks) next := by
  rw [List.count_append] at calls
  have uncalled : 1 ≤ story.count .called → .called ∉ marks := by
    intro before again
    have more := List.count_pos_iff.mpr again
    omega
  cases once with
  | queued course =>
      have moved := course.move move isOpen (uncalled (by simp)) failing
      exact .queued moved
  | nowhere =>
      cases move with
      | called => exact .begun
      | succeeded => exact absurd List.mem_cons_self failing
      | closed => cases isOpen
      | queued immediate begun => cases begun
      | promoted delayed => cases delayed
      | handed place | requeued place | dropped place | reserved place | readmitted _ place
      | cleared place | returned place => cases place
  | begun =>
      cases move with
      | called => exact absurd List.mem_cons_self (uncalled (Nat.le_refl 1))
      | succeeded => exact absurd List.mem_cons_self failing
      | closed => cases isOpen
      | queued immediate begun =>
          cases begun
          cases immediate with
          | true => exact .queued (.ready 0 (.inl rfl))
          | false => exact .queued (.delayed 0 (.inl rfl))
      | promoted delayed => cases delayed
      | handed place | requeued place | dropped place | reserved place | readmitted _ place
      | cleared place | returned place => cases place

theorem Once.path (once : Once limit story standing) (path : Path limit standing marks next)
    (isOpen : next.closed = false) (calls : (story ++ marks).count .called ≤ 1)
    (failing : .succeeded ∉ marks) : Once limit (story ++ marks) next := by
  induction path generalizing story with
  | rest standing =>
      rw [List.append_nil]
      exact once
  | cons move rest ih =>
      rw [List.mem_append, not_or] at failing
      rw [← List.append_assoc] at calls ⊢
      have fewer := calls
      rw [List.count_append] at fewer
      have moved := once.move move (rest.open_of_open isOpen) (Nat.le_of_add_right_le fewer)
        failing.1
      exact ih moved isOpen calls failing.2

namespace Crew

/-- Holds if the queue does not know the domain, and no task is concerned with it. -/
structure Nowhere (crew : Crew) (domain : String) : Prop where
  unready : domain ∉ crew.controller.queue.queue.ready
  clean : domain ∉ crew.controller.queue.queue.dirty
  free : domain ∉ crew.controller.queue.queue.processing
  undelayed : crew.controller.queue.queue.deadlines.get? domain = none
  unheld : ∀ task, (crew.tasks task).phase? domain = none
  uncalled : ∀ task, (crew.tasks task).calls domain = false

variable {crew : Crew} {domain : String}

theorem Nowhere.shows (nowhere : crew.Nowhere domain) :
    crew.Shows domain
      ⟨.absent, false, 0, crew.controller.queue.requeues domain,
        crew.controller.queue.queue.closed⟩ := by
  refine ⟨⟨⟨⟨nowhere.unready, nowhere.clean, nowhere.free⟩, ?_, rfl⟩, rfl⟩, nowhere.unheld, ∅, rfl,
    fun task => ?_⟩
  · rw [nowhere.undelayed]
    rfl
  · simp [nowhere.uncalled task]

theorem Shows.of_nowhere (shown : crew.Shows domain standing) (nowhere : crew.Nowhere domain) :
    standing.place = .absent ∧ standing.delayed = false ∧ standing.pending = 0 := by
  obtain ⟨⟨queue, _⟩, held, callers, card, members⟩ := shown
  refine ⟨?_, ?_, ?_⟩
  · have has := queue.has
    cases place : standing.place with
    | absent => rfl
    | ready =>
        rw [place] at has
        exact absurd (List.count_pos_iff.mp (by rw [has.1]; decide)) nowhere.unready
    | held phase again =>
        rw [place] at has
        exact absurd has.2.2 nowhere.free
  · rw [← queue.delayed, nowhere.undelayed]
    rfl
  · rw [← card, Finset.card_eq_zero, Finset.eq_empty_iff_forall_notMem]
    intro task member
    have calls := (members task).mp member
    rw [nowhere.uncalled task] at calls
    cases calls

/-- A domain that is nowhere, has no count, is enqueued once and fails each time is never
handed out more often than once and as often again as the limit says. When it is nowhere
again it was handed out just as often, requeued after each failure and dropped after the
last one, and it has no count. -/
theorem run_attempts (crew : Crew) (domain : String) (steps : List CrewStep)
    (nowhere : crew.Nowhere domain) (uncounted : crew.controller.queue.requeues domain = 0)
    (once : (marksOf domain (crew.run steps).1).count .called = 1)
    (failing : .succeeded ∉ marksOf domain (crew.run steps).1)
    (isOpen : (crew.run steps).2.controller.queue.queue.closed = false) :
    let limit := crew.controller.settings.retryLimit
    let marks := marksOf domain (crew.run steps).1
    let final := (crew.run steps).2
    marks.count .handed ≤ limit + 1 ∧
      (final.Nowhere domain →
        marks = .called :: .queued :: (failures limit ++ [.handed, .dropped]) ∧
          marks.count .handed = limit + 1 ∧ final.controller.queue.requeues domain = 0) := by
  intro limit marks final
  obtain ⟨last, path, shown⟩ := nowhere.shows.run steps
  have lastOpen : last.closed = false := shown.controller.queue.closed.symm.trans isOpen
  have start : (⟨.absent, false, 0, crew.controller.queue.requeues domain,
      crew.controller.queue.queue.closed⟩ : Standing) = .fresh := by
    rw [uncounted, show crew.controller.queue.queue.closed = false from path.open_of_open lastOpen]
    rfl
  rw [start] at path
  have ended : Once limit marks last :=
    Once.nowhere.path path lastOpen (Nat.le_of_eq once) failing
  have bound : attempts limit 1 = limit + 1 := by
    unfold attempts
    omega
  have counted : final.controller.queue.requeues domain = last.count := shown.controller.count
  have stays : final.Nowhere domain → _ := shown.of_nowhere
  change marks.count .called = 1 at once
  clear_value marks
  cases ended with
  | nowhere => cases once
  | begun =>
      refine ⟨Nat.zero_le _, fun again => ?_⟩
      cases (stays again).2.2
  | @queued story _ course =>
      have handed : (.called :: .queued :: story : List Mark).count .handed =
          story.count .handed := by simp
      rw [handed]
      refine ⟨bound ▸ course.count_handed_le, fun again => ?_⟩
      obtain ⟨absent, undelayed, _⟩ := stays again
      obtain ⟨cleared, tries, most, told⟩ := course.gone absent undelayed
      have all : tries = limit := Nat.succ.inj (most.trans bound)
      rw [all] at told
      rw [told]
      exact ⟨rfl, count_handed_last limit, counted.trans cleared⟩

def patient : Crew :=
  { clock := 0
    controller :=
      .ofSettings { adminDomain := none, systemNamespaces := [], excludedNamespaces := [] }
        { SyncSettings.standard with retryLimit := 1 }
    tasks := fun _ => .idle }

/-- A worker fails with the shop, and again after another domain has taken its turn. -/
def shopFails : List CrewStep :=
  [.call 0 0 "shop", .work 0 0, .take 1, .finish 1 (.error .broken), .work 1 0, .work 1 0,
    .call 0 0 "cart", .work 1 0, .work 0 0, .work 1 0, .advance 250, .take 1,
    .finish 1 (.error .broken), .work 1 250, .work 1 250, .work 1 250]

theorem run_attempts_shop :
    let marks := marksOf "shop" (patient.run shopFails).1
    let final := (patient.run shopFails).2
    marks = [.called, .queued, .handed, .requeued, .handed, .dropped] ∧
      marks.count .handed = 2 ∧ final.controller.queue.requeues "shop" = 0 := by
  have start : patient.Nowhere "shop" :=
    ⟨by decide, by decide, by decide, by decide, fun _ => rfl, fun _ => rfl⟩
  have gone : (patient.run shopFails).2.Nowhere "shop" := by
    refine ⟨by decide +kernel, by decide +kernel, by decide +kernel, by decide +kernel, ?_, ?_⟩
    · intro task
      match task with
      | 0 => decide +kernel
      | 1 => decide +kernel
      | other + 2 => rfl
    · intro task
      match task with
      | 0 => decide +kernel
      | 1 => decide +kernel
      | other + 2 => rfl
  exact (run_attempts patient "shop" shopFails start (by decide) (by decide +kernel)
    (by decide +kernel) (by decide +kernel)).2 gone

end Crew

end PolicyReplica
