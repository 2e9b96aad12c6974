import PolicyReplica.Proofs.Retry.Attempts
import PolicyReplica.Proofs.Store.Writing

/-
How often a domain is tried that a sync found to be trusted.

A cascade enqueues a target once for each role that trusts it, and each time adds to its
count, but the queue knows the target only once, or twice if one of the times was delayed.
Main statement: a target of one role is tried as often as a domain that was enqueued
otherwise. One of several roles is not: where it is in line at one place it is tried less
often, since its retries are spent when it gets there.
-/

namespace PolicyReplica

def Activity.ahead : Activity → List String
  | .holding _ (.cascading _ targets) | .holding _ (.extending _ _ _ targets) => targets
  | .idle | .calling _ _ | .holding _ _ => []

def CrewStep.actor? : CrewStep → Option TaskId
  | .call task _ _ | .take task | .finish task _ | .mirror task _ _ | .work task _ => some task
  | .close | .advance _ | .around _ => none

namespace Crew

variable {crew : Crew} {task : TaskId} {source target : String} {stage : Stage}

theorem turn_tasks_of_ne (crew : Crew) {other : TaskId} (activity : Activity)
    (controller : Controller) (apart : task ≠ other) :
    (crew.turn other activity controller).tasks task = crew.tasks task :=
  reassign_of_ne crew.tasks activity apart

theorem conclude_tasks (crew : Crew) {other : TaskId} (follow : String → Stage)
    (apart : task ≠ other) : (crew.conclude other follow).tasks task = crew.tasks task := by
  obtain ⟨_, _, turned⟩ | ⟨_, same⟩ := crew.conclude_cases other follow
  · rw [turned]
    exact crew.turn_tasks_of_ne _ _ apart
  · rw [same]

/-- What a task is at is not changed by others. -/
theorem step_tasks (crew : Crew) {step : CrewStep} (idle : step.actor? ≠ some task) :
    (crew.step step).2.tasks task = crew.tasks task := by
  have apart : ∀ {other : TaskId}, some other ≠ some task → task ≠ other :=
    fun different same => different (by rw [same])
  cases step with
  | call other read domain =>
      change (crew.call other read domain).2.tasks task = _
      unfold Crew.call
      split
      · exact crew.turn_tasks_of_ne _ _ (apart idle)
      all_goals rfl
  | take other =>
      change (crew.take other).2.tasks task = _
      unfold Crew.take
      split
      · simp only
        split <;> exact crew.turn_tasks_of_ne _ _ (apart idle)
      all_goals rfl
  | finish other result => exact crew.conclude_tasks _ (apart idle)
  | mirror other outcome snapshot => exact crew.conclude_tasks _ (apart idle)
  | work other read =>
      change (crew.work other read).2.tasks task = _
      unfold Crew.work
      split
      · rfl
      all_goals exact crew.turn_tasks_of_ne _ _ (apart idle)
  | close => rfl
  | advance span => rfl
  | around other => rfl

/-- A task that cascades only goes on with it. -/
theorem step_of_cascading (holds : crew.tasks task = .holding source stage)
    (cascades : stage.isCascade = true) {step : CrewStep} (acts : step.actor? = some task) :
    crew.step step = ([], crew) ∨ ∃ read, step = .work task read := by
  have same : ∀ {other : TaskId}, some other = some task → other = task := Option.some.inj
  have unmoved : ∀ follow, crew.conclude task follow = crew := by
    intro follow
    obtain ⟨domain, syncing, _⟩ | ⟨_, unmoved⟩ := crew.conclude_cases task follow
    · rw [holds] at syncing
      cases syncing
      cases cascades
    · exact unmoved
  cases step with
  | call other read domain =>
      obtain rfl := same acts
      refine .inl ?_
      change crew.call other read domain = _
      unfold Crew.call
      simp only [holds]
  | take other =>
      obtain rfl := same acts
      refine .inl ?_
      change crew.take other = _
      unfold Crew.take
      simp only [holds]
  | finish other result =>
      obtain rfl := same acts
      exact .inl (congrArg _ (unmoved _))
  | mirror other outcome snapshot =>
      obtain rfl := same acts
      exact .inl (congrArg _ (unmoved _))
  | work other read =>
      obtain rfl := same acts
      exact .inr ⟨read, rfl⟩
  | close => cases acts
  | advance span => cases acts
  | around other => cases acts

def Facing (crew : Crew) (task : TaskId) (source target : String) : Prop :=
  ∃ stage, crew.tasks task = .holding source stage ∧
    target ∈ (Activity.holding source stage).ahead

/-- A task comes to each target that is ahead, and enqueues it unless it is replicated. -/
theorem Facing.work (facing : crew.Facing task source target) (apart : target ≠ source)
    (unmirrored : crew.controller.index.contains target = false) (read : Nat) :
    .called ∈ marksOf target (crew.work task read).1 ∨
      (crew.work task read).2.Facing task source target := by
  obtain ⟨stage, holds, ahead⟩ := facing
  rw [work_of_holding holds]
  cases stage with
  | syncing | judging _ | retrying | readmitting _ | dropping | returning => cases ahead
  | extending outcome current delay targets =>
      exact .inr ⟨.cascading outcome targets, turn_tasks .., ahead⟩
  | cascading outcome targets =>
      cases targets with
      | nil => cases ahead
      | cons current targets =>
          unfold Controller.proceed
          by_cases same : current = target
          · have fresh : crew.controller.isNewTarget source current = true := by
              rw [same]
              simp [Controller.isNewTarget, apart, unmirrored]
            simp only [if_pos fresh]
            left
            rw [same, show marksOf target [⟨target, .called⟩] = [.called] from
              marksOf_own target [.called]]
            exact List.mem_cons_self
          · have later : target ∈ targets := (List.mem_cons.mp ahead).resolve_left (Ne.symm same)
            right
            by_cases fresh : crew.controller.isNewTarget source current = true
            · simp only [if_pos fresh]
              exact ⟨_, turn_tasks .., later⟩
            · simp only [if_neg fresh]
              exact ⟨_, turn_tasks .., later⟩

theorem Facing.step (facing : crew.Facing task source target) (apart : target ≠ source)
    (unmirrored : crew.controller.index.contains target = false) (step : CrewStep) :
    .called ∈ marksOf target (crew.step step).1 ∨
      (crew.step step).2.Facing task source target := by
  obtain ⟨stage, holds, ahead⟩ := id facing
  by_cases acts : step.actor? = some task
  · have cascades : stage.isCascade = true := by
      cases stage with
      | cascading _ _ | extending _ _ _ _ => rfl
      | _ => cases ahead
    rcases step_of_cascading holds cascades acts with nothing | ⟨read, rfl⟩
    · rw [nothing]
      exact .inr facing
    · exact facing.work apart unmirrored read
  · exact .inr ⟨stage, (crew.step_tasks acts).trans holds, ahead⟩

/-- A target that is not replicated is enqueued before the task has passed it. -/
theorem Facing.run (facing : crew.Facing task source target) (apart : target ≠ source)
    {steps : List CrewStep}
    (unmirrored : ∀ count ≤ steps.length,
      .called ∉ marksOf target (crew.run (steps.take count)).1 →
        (crew.run (steps.take count)).2.controller.index.contains target = false)
    (passed : target ∉ ((crew.run steps).2.tasks task).ahead) :
    .called ∈ marksOf target (crew.run steps).1 := by
  induction steps generalizing crew with
  | nil =>
      obtain ⟨stage, holds, ahead⟩ := facing
      change target ∉ (crew.tasks task).ahead at passed
      rw [holds] at passed
      exact absurd ahead passed
  | cons step rest ih =>
      rw [run_cons, marksOf_append, List.mem_append]
      by_cases now : .called ∈ marksOf target (crew.step step).1
      · exact .inl now
      · have start := unmirrored 0 (Nat.zero_le _) nofun
        have still := (facing.step apart start step).resolve_left now
        refine .inr (ih still (fun count within uncalled => ?_) passed)
        have later := unmirrored (count + 1) (Nat.succ_le_succ within)
        rw [List.take_succ_cons, run_cons, marksOf_append, List.mem_append, not_or] at later
        exact later ⟨now, uncalled⟩

/-- A sync that has stored a snapshot faces all that the snapshot trusts. -/
theorem step_mirror (holds : crew.tasks task = .holding source .syncing) (outcome : Outcome)
    {snapshot : Snapshot}
    (root : (crew.controller.names.isAdminDomain source ||
      crew.controller.hasNamespace source) = true) :
    crew.step (.mirror task outcome snapshot) =
      ([], crew.turn task (.holding source (.cascading outcome snapshot.trustDomains))
        crew.controller) := by
  change ([], crew.conclude task _) = _
  rw [conclude_of_syncing holds]
  unfold Controller.cascadeTargets
  rw [if_pos root]

theorem Nowhere.turn_cascading (nowhere : crew.Nowhere target) (apart : target ≠ source)
    (outcome : Outcome) (targets : List String) :
    (crew.turn task (.holding source (.cascading outcome targets)) crew.controller).Nowhere
      target := by
  refine ⟨nowhere.unready, nowhere.clean, nowhere.free, nowhere.undelayed, fun other => ?_,
    fun other => ?_⟩
  · by_cases same : other = task
    · rw [same, turn_tasks]
      exact if_neg (Ne.symm apart)
    · rw [turn_tasks_of_ne _ _ _ same]
      exact nowhere.unheld other
  · by_cases same : other = task
    · rw [same, turn_tasks]
      rfl
    · rw [turn_tasks_of_ne _ _ _ same]
      exact nowhere.uncalled other

/-- A target that one role of a stored snapshot trusts, that was nowhere and had no count, that
nobody else enqueues and that fails each time is tried as often as a domain that is enqueued
once: when it is nowhere again, once and as often again as the limit says. -/
theorem run_target_attempts (crew : Crew) (task : TaskId) (source target : String)
    (outcome : Outcome) (snapshot : Snapshot) (steps : List CrewStep)
    (syncing : crew.tasks task = .holding source .syncing)
    (root : (crew.controller.names.isAdminDomain source ||
      crew.controller.hasNamespace source) = true)
    (apart : target ≠ source) (nowhere : crew.Nowhere target)
    (uncounted : crew.controller.queue.requeues target = 0)
    (oneRole : snapshot.trustDomains.count target = 1) :
    let mirrored := (crew.step (.mirror task outcome snapshot)).2
    let marks := marksOf target (mirrored.run steps).1
    let final := (mirrored.run steps).2
    let limit := crew.controller.settings.retryLimit
    marks.count .called ≤ snapshot.trustDomains.count target → .succeeded ∉ marks →
      final.controller.queue.queue.closed = false →
      (∀ count ≤ steps.length, .called ∉ marksOf target (mirrored.run (steps.take count)).1 →
        (mirrored.run (steps.take count)).2.controller.index.contains target = false) →
      target ∉ (final.tasks task).ahead → final.Nowhere target →
      marks = .called :: .queued :: (failures limit ++ [.handed, .dropped]) ∧
        marks.count .handed = limit + 1 ∧ final.controller.queue.requeues target = 0 := by
  intro mirrored marks final limit alone failing isOpen unmirrored passed gone
  have turned : mirrored = crew.turn task
      (.holding source (.cascading outcome snapshot.trustDomains)) crew.controller :=
    congrArg Prod.snd (step_mirror syncing outcome root)
  have listed : target ∈ snapshot.trustDomains := List.count_pos_iff.mp (by omega)
  have facing : mirrored.Facing task source target := by
    rw [turned]
    exact ⟨.cascading outcome snapshot.trustDomains, turn_tasks .., listed⟩
  have called : 0 < marks.count .called :=
    List.count_pos_iff.mpr (facing.run apart unmirrored passed)
  have once : marks.count .called = 1 := by omega
  have started : mirrored.Nowhere target := by
    rw [turned]
    exact nowhere.turn_cascading apart outcome snapshot.trustDomains
  have sameController : mirrored.controller = crew.controller := by
    rw [turned]
    rfl
  have ended := run_attempts mirrored target steps started (by rw [sameController]; exact uncounted)
    once failing isOpen
  rw [sameController] at ended
  exact ended.2 gone

def shopSyncs : Crew :=
  { clock := 0
    controller :=
      { patient.controller with
        namespaces := (patient.controller.namespaces.apply "shop").2
        queue := (patient.controller.queue.addRateLimited 0 "shop").take 0 1 |>.2 }
    tasks := reassign patient.tasks 1 (.holding "shop" .syncing) }

/-- The cart fails twice after a role of the shop was found to trust it. -/
def cartFails : List CrewStep :=
  [.work 1 0, .work 1 0, .work 1 0, .work 1 0, .work 1 0, .advance 250, .take 2,
    .finish 2 (.error .broken), .work 2 250, .work 2 250, .work 2 250, .work 2 250, .advance 250,
    .take 2, .finish 2 (.error .broken), .work 2 500, .work 2 500, .work 2 500]

theorem run_target_attempts_cart :
    let mirrored := (shopSyncs.step (.mirror 1 .created (Store.shop (some "cart")))).2
    let marks := marksOf "cart" (mirrored.run cartFails).1
    marks = [.called, .queued, .handed, .requeued, .handed, .dropped] ∧
      marks.count .handed = 2 := by
  have nowhere : shopSyncs.Nowhere "cart" := by
    refine ⟨by decide +kernel, by decide +kernel, by decide +kernel, by decide +kernel, ?_, ?_⟩
    · intro task
      match task with
      | 0 => rfl
      | 1 => decide +kernel
      | other + 2 => rfl
    · intro task
      match task with
      | 0 => rfl
      | 1 => decide +kernel
      | other + 2 => rfl
  have gone : ((shopSyncs.step (.mirror 1 .created (Store.shop (some "cart")))).2.run
      cartFails).2.Nowhere "cart" := by
    refine ⟨by decide +kernel, by decide +kernel, by decide +kernel, by decide +kernel, ?_, ?_⟩
    · intro task
      match task with
      | 0 => rfl
      | 1 => decide +kernel
      | 2 => decide +kernel
      | other + 3 => rfl
    · intro task
      match task with
      | 0 => rfl
      | 1 => decide +kernel
      | 2 => decide +kernel
      | other + 3 => rfl
  have told := run_target_attempts shopSyncs 1 "shop" "cart" .created (Store.shop (some "cart"))
    cartFails rfl (by decide +kernel) (by decide) nowhere (by decide +kernel) (by decide +kernel)
    (by decide +kernel) (by decide +kernel) (by decide +kernel) (by decide +kernel)
    (by decide +kernel) gone
  exact ⟨told.1, told.2.1⟩

/-- Where a domain is that is in line at one place, with such a count, and that nobody is about
to enqueue. -/
def inLine (delayed : Bool) (first : Nat) : Standing :=
  ⟨if delayed then .absent else .ready, delayed, 0, first, false⟩

/-- A failing domain that is in line is tried as often as the count allows with which it got
there: each role beyond the first one has spent one of its retries. -/
theorem run_line_attempts (crew : Crew) (domain : String) (steps : List CrewStep)
    {delayed : Bool} {first : Nat} (line : crew.Shows domain (inLine delayed first))
    (uncalled : .called ∉ marksOf domain (crew.run steps).1)
    (failing : .succeeded ∉ marksOf domain (crew.run steps).1)
    (isOpen : (crew.run steps).2.controller.queue.queue.closed = false) :
    let limit := crew.controller.settings.retryLimit
    let marks := marksOf domain (crew.run steps).1
    let final := (crew.run steps).2
    marks.count .handed ≤ attempts limit first ∧
      (final.Nowhere domain → marks.count .handed = attempts limit first ∧
        final.controller.queue.requeues domain = 0) := by
  intro limit marks final
  obtain ⟨last, path, shown⟩ := line.run steps
  have lastOpen : last.closed = false := shown.controller.queue.closed.symm.trans isOpen
  have start : Course limit first [] (inLine delayed first) := by
    cases delayed with
    | true => exact .delayed 0 (.inl rfl)
    | false => exact .ready 0 (.inl rfl)
  have course : Course limit first marks last := start.path path lastOpen uncalled failing
  refine ⟨course.count_handed_le, fun gone => ?_⟩
  obtain ⟨absent, undelayed, _⟩ := shown.of_nowhere gone
  obtain ⟨cleared, tries, most, told⟩ := course.gone absent undelayed
  rw [told, count_handed_last]
  exact ⟨most, shown.controller.count.trans cleared⟩

def shopTrustsTwice : Snapshot :=
  let once := Store.shop (some "cart")
  { once with domain := { once.domain with roles := once.domain.roles ++ once.domain.roles } }

/-- The cart is dropped when it has failed once, although there is a retry for it. -/
theorem run_target_twice :
    let mirrored := (shopSyncs.step (.mirror 1 .created shopTrustsTwice)).2
    let worked : List CrewStep := [.work 1 0, .work 1 0] ++ cartFails
    let marks := marksOf "cart" (mirrored.run worked).1
    shopSyncs.controller.settings.retryLimit = 1 ∧
      marks = [.called, .queued, .called, .queued, .handed, .dropped] ∧
      marks.count .handed = 1 := by
  decide +kernel

end Crew

end PolicyReplica
