import PolicyReplica.Proofs.Retry.Attempts

/-
How often failing syncs requeue a domain while nobody else enqueues it.

Each requeueing spends something of a budget that no other move adds to. A domain waits at
two places at most, since it is marked or not, and delayed or not. Main statement: between
two enqueueings a domain is requeued at most twice as often as a count allows that starts
anew; if its count was not cleared while it was waiting, at most as often as the limit says.
-/

namespace PolicyReplica

/-- How often a domain can be requeued that nobody holds and that waits at so many places:
with its count at the first of them, and anew at each other one. -/
def spare (limit count : Nat) : Nat → Nat
  | 0 => 0
  | others + 1 => limit + 1 - count + others * (limit + 1)

def budgetAt (limit : Nat) (phase : Option Phase) (count waiting : Nat) : Nat :=
  match phase with
  | none | some .returning => spare limit count waiting
  | some .undecided => min (limit + 1 - count + waiting * (limit + 1)) (2 * (limit + 1))
  | some .retrying => spare limit (count + 1) (min 2 (waiting + 1))
  | some .readmitting => spare limit count (min 2 (waiting + 1))
  | some .dropping => spare limit 0 waiting

/-- How often it can be requeued if its count is not cleared while it waits. -/
def strictBudgetAt (limit : Nat) (phase : Option Phase) (count waiting : Nat) : Nat :=
  match phase with
  | none | some .dropping | some .returning => if waiting = 0 then 0 else limit + 1 - count
  | some .undecided | some .readmitting => limit + 1 - count
  | some .retrying => limit - count

section Budgets

variable {limit count waiting more : Nat} {phase : Option Phase}

theorem spare_succ (limit count others : Nat) :
    spare limit count (others + 1) = limit + 1 - count + others * (limit + 1) := rfl

theorem spare_zero (limit waiting : Nat) : spare limit 0 waiting = waiting * (limit + 1) := by
  cases waiting with
  | zero => exact (Nat.zero_mul _).symm
  | succ others =>
      rw [spare_succ, Nat.succ_mul]
      omega

theorem spare_mono (fewer : waiting ≤ more) : spare limit count waiting ≤ spare limit count more := by
  cases waiting with
  | zero => exact Nat.zero_le _
  | succ others =>
      cases more with
      | zero => exact absurd fewer (Nat.not_succ_le_zero others)
      | succ most =>
          have anew := Nat.mul_le_mul_right (limit + 1) (Nat.le_of_succ_le_succ fewer)
          rw [spare_succ, spare_succ]
          omega

theorem budgetAt_mono (fewer : waiting ≤ more) :
    budgetAt limit phase count waiting ≤ budgetAt limit phase count more := by
  unfold budgetAt
  split
  · exact spare_mono fewer
  · exact spare_mono fewer
  · have anew := Nat.mul_le_mul_right (limit + 1) fewer
    omega
  · exact spare_mono (by omega)
  · exact spare_mono (by omega)
  · exact spare_mono fewer

/-- A holder that has not judged has the most to spend. -/
theorem spare_anew_le (twice : waiting ≤ 2) :
    spare limit 0 waiting ≤ budgetAt limit (some .undecided) count waiting := by
  have anew := Nat.mul_le_mul_right (limit + 1) twice
  simp only [spare_zero, budgetAt]
  omega

/-- A failure that is retried spends one. -/
theorem budgetAt_retrying_lt (left : count ≤ limit) (twice : waiting ≤ 2) :
    budgetAt limit (some .retrying) count waiting + 1 ≤
      budgetAt limit (some .undecided) count waiting := by
  simp only [budgetAt]
  match waiting with
  | 0 =>
      rw [show min 2 (0 + 1) = 0 + 1 from rfl, spare_succ]
      omega
  | 1 =>
      rw [show min 2 (1 + 1) = 1 + 1 from rfl, spare_succ]
      omega
  | 2 =>
      rw [show min 2 (2 + 1) = 1 + 1 from rfl, spare_succ]
      omega

theorem budgetAt_le (twice : waiting ≤ 2) :
    budgetAt limit phase count waiting ≤ 2 * (limit + 1) := by
  have most : ∀ count waiting, waiting ≤ 2 → spare limit count waiting ≤ 2 * (limit + 1) := by
    intro count waiting twice
    refine (spare_mono twice).trans ?_
    rw [spare_succ]
    omega
  unfold budgetAt
  split
  · exact most count waiting twice
  · exact most count waiting twice
  · exact Nat.min_le_right _ _
  · exact most _ _ (Nat.min_le_left _ _)
  · exact most _ _ (Nat.min_le_left _ _)
  · exact most 0 waiting twice

theorem strictBudgetAt_mono (fewer : waiting ≤ more) :
    strictBudgetAt limit phase count waiting ≤ strictBudgetAt limit phase count more := by
  have kept : (if waiting = 0 then 0 else limit + 1 - count) ≤
      if more = 0 then 0 else limit + 1 - count := by
    split
    · exact Nat.zero_le _
    · rw [if_neg (by omega)]
  unfold strictBudgetAt
  split
  · exact kept
  · exact kept
  · exact kept
  all_goals exact Nat.le_refl _

theorem strictBudgetAt_le : strictBudgetAt limit phase count waiting ≤ limit + 1 - count := by
  unfold strictBudgetAt
  split
  all_goals first | split <;> omega | omega

end Budgets

namespace Standing

def waiting (standing : Standing) : Nat :=
  standing.place.marked.toNat + standing.delayed.toNat

theorem waiting_le (standing : Standing) : standing.waiting ≤ 2 := by
  have marked := Bool.toNat_le standing.place.marked
  have delayed := Bool.toNat_le standing.delayed
  unfold waiting
  omega

theorem marked_added (place : Place) : place.added.marked = true := by
  cases place <;> rfl

theorem waiting_admitted_le (immediate : Bool) (standing : Standing) :
    (standing.admitted immediate).waiting ≤ min 2 (standing.waiting + 1) := by
  refine Nat.le_min.mpr ⟨waiting_le _, ?_⟩
  obtain ⟨place, delayed, pending, count, closed⟩ := standing
  cases closed with
  | true => exact Nat.le_succ _
  | false =>
      cases immediate with
      | true =>
          change place.added.marked.toNat + delayed.toNat ≤ place.marked.toNat + delayed.toNat + 1
          rw [marked_added]
          change 1 + delayed.toNat ≤ _
          omega
      | false =>
          change place.marked.toNat + 1 ≤ place.marked.toNat + delayed.toNat + 1
          omega

/-- A delay that ends does not add a place. -/
theorem waiting_promoted_le {standing : Standing} (isDelayed : standing.delayed = true) :
    standing.promoted.waiting ≤ standing.waiting := by
  obtain ⟨place, delayed, pending, count, closed⟩ := standing
  cases isDelayed
  cases closed with
  | true => exact Nat.add_le_add_left (Nat.zero_le _) _
  | false =>
      change place.added.marked.toNat + 0 ≤ place.marked.toNat + 1
      rw [marked_added]
      exact Nat.le_add_left 1 _

/-- A count that is cleared without a note was that of a domain that does not wait. -/
theorem waiting_of_kept {standing : Standing} (kept : .lapsed ∉ standing.lapse) :
    standing.lapse = [] ∧ standing.waiting = 0 := by
  obtain ⟨place, delayed, pending, count, closed⟩ := standing
  unfold lapse at kept ⊢
  unfold waiting
  cases marked : place.marked <;> cases delayed <;> simp [marked] at kept ⊢

theorem count_requeued_lapse (standing : Standing) : standing.lapse.count .requeued = 0 := by
  unfold lapse
  split <;> rfl

def budget (limit : Nat) (standing : Standing) : Nat :=
  budgetAt limit standing.place.phase? standing.count standing.waiting

def strictBudget (limit : Nat) (standing : Standing) : Nat :=
  strictBudgetAt limit standing.place.phase? standing.count standing.waiting

end Standing

variable {limit : Nat} {standing next : Standing} {marks : List Mark}

theorem Moves.budget_le (move : Moves limit standing marks next) (uncalled : .called ∉ marks)
    (unqueued : .queued ∉ marks) :
    next.budget limit + marks.count .requeued ≤ standing.budget limit := by
  have twice := standing.waiting_le
  obtain ⟨place, delayed, pending, count, closed⟩ := standing
  cases move with
  | called => exact absurd List.mem_cons_self uncalled
  | queued => exact absurd List.mem_cons_self unqueued
  | promoted isDelayed =>
      unfold Standing.budget Standing.promoted
      rw [Standing.admitted_phase?, Standing.admitted_count]
      exact budgetAt_mono (Standing.waiting_promoted_le isDelayed)
  | closed => exact budgetAt_mono (Nat.add_le_add_left (Nat.zero_le _) _)
  | handed ready =>
      cases ready
      change min (limit + 1 - count + (0 + delayed.toNat) * (limit + 1)) _ ≤
        spare limit count (1 + delayed.toNat)
      rw [Nat.zero_add, Nat.add_comm 1, spare_succ]
      exact Nat.min_le_left _ _
  | @succeeded _ again undecided =>
      cases undecided
      rw [List.count_cons_of_ne (by decide), Standing.count_requeued_lapse]
      exact spare_anew_le twice
  | requeued undecided left =>
      cases undecided
      exact budgetAt_retrying_lt left twice
  | dropped undecided exceeded =>
      cases undecided
      exact spare_anew_le twice
  | reserved retrying =>
      cases retrying
      exact Nat.le_refl _
  | @readmitted immediate _ again readmitting =>
      cases readmitting
      unfold Standing.budget
      rw [Standing.admitted_phase?, Standing.admitted_count]
      exact spare_mono (Standing.waiting_admitted_le immediate _)
  | @cleared _ again dropping =>
      cases dropping
      rw [Standing.count_requeued_lapse]
      exact Nat.le_refl _
  | @returned _ again returning =>
      cases returning
      cases again <;> exact Nat.le_refl _

theorem Moves.strictBudget_le (move : Moves limit standing marks next)
    (uncalled : .called ∉ marks) (unqueued : .queued ∉ marks) (kept : .lapsed ∉ marks) :
    next.strictBudget limit + marks.count .requeued ≤ standing.strictBudget limit := by
  obtain ⟨place, delayed, pending, count, closed⟩ := standing
  cases move with
  | called => exact absurd List.mem_cons_self uncalled
  | queued => exact absurd List.mem_cons_self unqueued
  | promoted isDelayed =>
      unfold Standing.strictBudget Standing.promoted
      rw [Standing.admitted_phase?, Standing.admitted_count]
      exact strictBudgetAt_mono (Standing.waiting_promoted_le isDelayed)
  | closed => exact strictBudgetAt_mono (Nat.add_le_add_left (Nat.zero_le _) _)
  | handed ready =>
      cases ready
      change limit + 1 - count ≤ if 1 + delayed.toNat = 0 then 0 else limit + 1 - count
      rw [if_neg (by omega)]
  | succeeded undecided =>
      cases undecided
      rw [List.mem_cons, not_or] at kept
      obtain ⟨unnoted, alone⟩ := Standing.waiting_of_kept kept.2
      rw [unnoted]
      exact (Nat.le_of_eq (if_pos alone)).trans (Nat.zero_le _)
  | requeued undecided left =>
      cases undecided
      change limit - count + 1 ≤ limit + 1 - count
      change count ≤ limit at left
      omega
  | dropped undecided exceeded =>
      cases undecided
      change strictBudgetAt limit (some .dropping) count _ ≤ limit + 1 - count
      exact strictBudgetAt_le
  | reserved retrying =>
      cases retrying
      change limit + 1 - (count + 1) ≤ limit - count
      omega
  | readmitted immediate readmitting =>
      cases readmitting
      unfold Standing.strictBudget
      rw [Standing.admitted_phase?, Standing.admitted_count]
      change strictBudgetAt limit (some .returning) count _ ≤ limit + 1 - count
      exact strictBudgetAt_le
  | cleared dropping =>
      cases dropping
      obtain ⟨unnoted, alone⟩ := Standing.waiting_of_kept kept
      rw [unnoted]
      exact (Nat.le_of_eq (if_pos alone)).trans (Nat.zero_le _)
  | @returned _ again returning =>
      cases returning
      cases again <;> exact Nat.le_refl _

/-- What no move adds to, and each requeueing spends, bounds the requeueings. -/
theorem Path.count_requeued_le (forbidden : List Mark) (measure : Standing → Nat)
    (spends : ∀ {standing next : Standing} {marks : List Mark}, Moves limit standing marks next →
      (∀ mark ∈ forbidden, mark ∉ marks) →
        measure next + marks.count .requeued ≤ measure standing)
    (path : Path limit standing marks next) (none : ∀ mark ∈ forbidden, mark ∉ marks) :
    measure next + marks.count .requeued ≤ measure standing := by
  induction path with
  | rest standing => exact Nat.le_refl _
  | cons move rest ih =>
      have first := spends move fun mark member noted =>
        none mark member (List.mem_append_left _ noted)
      have later := ih fun mark member noted => none mark member (List.mem_append_right _ noted)
      rw [List.count_append]
      omega

namespace Crew

/-- In every stretch of a run in which nobody enqueues a domain, failing syncs requeue it at
most twice as often as a count allows that starts anew. It may start anew when the domain was
enqueued while its sync was under way: as long as its count is not cleared while it waits, and
it has one to begin with, it is requeued at most as often as the limit says. -/
theorem run_requeues (crew : Crew) (domain : String) (nowhere : crew.Nowhere domain)
    (before stretch : List CrewStep) :
    let limit := crew.controller.settings.retryLimit
    let begun := (crew.run before).2
    let marks := marksOf domain (begun.run stretch).1
    .called ∉ marks → .queued ∉ marks →
      marks.count .requeued ≤ 2 * (limit + 1) ∧
        (0 < begun.controller.queue.requeues domain → .lapsed ∉ marks →
          marks.count .requeued ≤ limit) := by
  intro limit begun marks uncalled unqueued
  obtain ⟨standing, _, shown⟩ := nowhere.shows.run before
  obtain ⟨last, path, _⟩ := shown.run stretch
  rw [run_settings] at path
  refine ⟨?_, fun counted kept => ?_⟩
  · have spent := path.count_requeued_le [.called, .queued] (Standing.budget limit)
      (fun move none => move.budget_le (none _ (by simp)) (none _ (by simp)))
      (by simpa using ⟨uncalled, unqueued⟩)
    have most : standing.budget limit ≤ 2 * (limit + 1) := budgetAt_le standing.waiting_le
    exact (Nat.le_of_add_left_le spent).trans most
  · have spent := path.count_requeued_le [.called, .queued, .lapsed] (Standing.strictBudget limit)
      (fun move none =>
        move.strictBudget_le (none _ (by simp)) (none _ (by simp)) (none _ (by simp)))
      (by simpa using ⟨uncalled, unqueued, kept⟩)
    have most : standing.strictBudget limit ≤ limit + 1 - standing.count := strictBudgetAt_le
    have count : begun.controller.queue.requeues domain = standing.count := shown.controller.count
    change _ + marks.count .requeued ≤ _ at spent
    omega

def impatient : Crew :=
  { patient with
    controller :=
      { patient.controller with settings := { SyncSettings.standard with retryLimit := 0 } } }

/-- While the shop is synced it is enqueued twice, by tasks of which the second one is slow to
tell the queue. -/
def shopCalls : List CrewStep :=
  [.call 0 0 "shop", .work 0 0, .take 1, .call 2 1 "shop", .call 0 600 "shop", .work 0 600,
    .advance 10000, .work 2 10000]

/-- That sync succeeds, and the next two of the shop fail before it has been dropped. -/
def shopReturns : List CrewStep :=
  [.finish 1 (.ok .updated), .work 1 10000, .work 1 10000, .take 1, .finish 1 (.error .broken),
    .work 1 10000, .work 1 10000, .work 1 10000, .work 1 10000, .take 1,
    .finish 1 (.error .broken), .work 1 10000, .work 1 10000, .work 1 10000, .advance 250,
    .take 1, .finish 1 (.error .broken), .work 1 10250]

/-- Both bounds are reached: the first one by a count that is cleared too early, the second one
by a domain that is enqueued once. -/
theorem run_requeues_shop :
    (let begun := (impatient.run shopCalls).2
     let marks := marksOf "shop" (begun.run shopReturns).1
     impatient.controller.settings.retryLimit = 0 ∧
       marks = [.succeeded, .lapsed, .handed, .requeued, .handed, .dropped, .lapsed, .handed,
         .requeued] ∧
       marks.count .requeued = 2 ∧ marks.count .requeued ≤ 2 * (0 + 1)) ∧
    (let begun := (patient.run (shopFails.take 2)).2
     let marks := marksOf "shop" (begun.run (shopFails.drop 2)).1
     patient.controller.settings.retryLimit = 1 ∧ .lapsed ∉ marks ∧
       marks.count .requeued = 1 ∧ marks.count .requeued ≤ 1) := by
  have start : impatient.Nowhere "shop" :=
    ⟨by decide, by decide, by decide, by decide, fun _ => rfl, fun _ => rfl⟩
  have bound := (run_requeues impatient "shop" start shopCalls shopReturns (by decide +kernel)
    (by decide +kernel)).1
  have calm : patient.Nowhere "shop" :=
    ⟨by decide, by decide, by decide, by decide, fun _ => rfl, fun _ => rfl⟩
  have kept := (run_requeues patient "shop" calm (shopFails.take 2) (shopFails.drop 2)
    (by decide +kernel) (by decide +kernel)).2 (by decide +kernel) (by decide +kernel)
  exact ⟨⟨rfl, by decide +kernel, by decide +kernel, bound⟩,
    rfl, by decide +kernel, by decide +kernel, kept⟩

end Crew

end PolicyReplica
