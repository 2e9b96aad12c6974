import Mathlib.Algebra.Group.Nat.Defs
import PolicyReplica.Proofs.Polling.Calls

/-
How long a poll goes on when listings fail.

The pause after an attempt is twice as long as the one before it, and a pause that would bring
the sum over half of the interval between two polls is not made. Main statement: an attempt is
made exactly if all before it failed and the pauses before it fit; the poll succeeds exactly if
the first attempt that can is made; and it is over after at most half of the interval.
-/

namespace PolicyReplica

namespace Backoff

/-- The pauses before an attempt together, in milliseconds. -/
def offset (index : Nat) : Nat := 2000 * (2 ^ index - 1)

def Fits (interval : Span) (index : Nat) : Prop :=
  offset index * 1000000 ≤ interval.nanoseconds / 2

instance (interval : Span) (index : Nat) : Decidable (Fits interval index) :=
  inferInstanceAs (Decidable (offset index * 1000000 ≤ interval.nanoseconds / 2))

def atAttempt : Nat → Backoff
  | 0 => initial
  | index + 1 => (atAttempt index).later

theorem offset_succ (index : Nat) : offset (index + 1) = offset index + 2000 * 2 ^ index := by
  have positive : 0 < 2 ^ index := Nat.two_pow_pos index
  unfold offset
  rw [Nat.pow_succ]
  omega

theorem pause_atAttempt (index : Nat) : (atAttempt index).pause = 2000 * 2 ^ index := by
  induction index with
  | zero => rfl
  | succ index ih =>
      change 2 * (atAttempt index).pause = 2000 * 2 ^ (index + 1)
      rw [ih, Nat.pow_succ]
      omega

theorem spent_atAttempt (index : Nat) : (atAttempt index).spent = offset index := by
  induction index with
  | zero => rfl
  | succ index ih =>
      change (atAttempt index).spent + (atAttempt index).pause = offset (index + 1)
      rw [ih, pause_atAttempt, offset_succ]

theorem offset_mono {earlier later : Nat} (order : earlier ≤ later) :
    offset earlier ≤ offset later :=
  Nat.mul_le_mul_left 2000 (Nat.sub_le_sub_right (Nat.pow_le_pow_right (by decide) order) 1)

theorem Fits.earlier {interval : Span} {earlier later : Nat} (order : earlier ≤ later)
    (fits : Fits interval later) : Fits interval earlier :=
  Nat.le_trans (Nat.mul_le_mul_right 1000000 (offset_mono order)) fits

theorem fits_zero (interval : Span) : Fits interval 0 :=
  Nat.zero_le _

theorem later_atAttempt (index : Nat) : (atAttempt index).later = atAttempt (index + 1) :=
  rfl

theorem next?_of_fits {interval : Span} {index : Nat} (fits : Fits interval (index + 1)) :
    (atAttempt index).next? interval =
      some ((atAttempt index).pause, atAttempt (index + 1)) := by
  unfold Fits at fits
  unfold next?
  rw [later_atAttempt, spent_atAttempt, if_pos fits]

theorem next?_of_not_fits {interval : Span} {index : Nat}
    (exceeds : ¬ Fits interval (index + 1)) : (atAttempt index).next? interval = none := by
  unfold Fits at exceeds
  unfold next?
  rw [later_atAttempt, spent_atAttempt, if_neg exceeds]

/-- A pause fits that takes all of a half, and no longer one. -/
example : Fits (.ofMilliseconds 4000) 1 ∧ ¬ Fits (.ofMilliseconds 3999) 1 := by decide

/-- A pause that is made leaves less of the interval. -/
theorem later_of_next? {backoff later : Backoff} {interval : Span} {pause : Nat}
    (next : backoff.next? interval = some (pause, later)) :
    interval.nanoseconds / 2 - later.spent * 1000000 <
      interval.nanoseconds / 2 - backoff.spent * 1000000 := by
  unfold next? at next
  by_cases fits : backoff.later.spent * 1000000 ≤ interval.nanoseconds / 2
  · rw [if_pos fits] at next
    cases next
    have pauses := backoff.pauses
    have spends : backoff.later.spent = backoff.spent + backoff.pause := rfl
    omega
  · rw [if_neg fits] at next
    cases next

end Backoff

def StagedService.Fails (service : StagedService) : Prop :=
  ∃ error, service.listing = .error error

namespace ControllerWorld

/-! ### Attempts -/

section

variable (now number : Nat) (backoff : Backoff) (poller : Poller) {world : ControllerWorld}

theorem attemptPoll_of_next {error : ServiceError} {pause : Nat} {later : Backoff}
    (failed : world.service.listing = .error error)
    (next : backoff.next? poller.updateInterval = some (pause, later)) :
    world.attemptPoll now number backoff poller =
      (.retrying later (now + pause), (world.listed now poller.cursor).countPoll .retried) := by
  unfold attemptPoll
  -- Otherwise the condition of the pause is computed.
  generalize backoff.next? poller.updateInterval = choice at next ⊢
  subst next
  rw [pollChanges_of_error now number poller failed]

theorem attemptPoll_of_no_next {error : ServiceError}
    (failed : world.service.listing = .error error)
    (next : backoff.next? poller.updateInterval = none) :
    world.attemptPoll now number backoff poller =
      (.ended false, (world.listed now poller.cursor).countPoll .failed) := by
  unfold attemptPoll
  generalize backoff.next? poller.updateInterval = choice at next ⊢
  subst next
  rw [pollChanges_of_error now number poller failed]

theorem attemptPoll_of_ok {changes : ChangeList} (answered : world.service.listing = .ok changes) :
    world.attemptPoll now number backoff poller =
      let polled := changes.moves.foldl (makeMove now number)
        { queued := 0, world := world.listed now poller.cursor }
      (.ended true, polled.world.countPoll .ok) := by
  unfold attemptPoll
  rw [pollChanges_of_ok now number poller answered]

variable {now number backoff poller}

/-- An attempt is tried again only with what the backoff allows. -/
theorem next?_of_retrying {later : Backoff} {time : Nat} {after : ControllerWorld}
    (attempted : world.attemptPoll now number backoff poller = (.retrying later time, after)) :
    ∃ pause, backoff.next? poller.updateInterval = some (pause, later) := by
  cases answered : world.service.listing with
  | ok changes =>
      rw [attemptPoll_of_ok now number backoff poller answered] at attempted
      cases attempted
  | error error =>
      cases next : backoff.next? poller.updateInterval with
      | none =>
          rw [attemptPoll_of_no_next now number backoff poller answered next] at attempted
          cases attempted
      | some allowed =>
          rw [attemptPoll_of_next now number backoff poller answered next] at attempted
          cases attempted
          exact ⟨allowed.1, rfl⟩

end

end ControllerWorld

structure PollEnd where
  succeeded : Bool
  time : Nat
  world : ControllerWorld

namespace ControllerWorld

/-- Makes the attempts of a poll, each at its time and in the world that is around it then. -/
def pollThrough (number : Nat) (poller : Poller) (around : Nat → ControllerWorld) (now : Nat)
    (backoff : Backoff) (world : ControllerWorld) : PollEnd :=
  match attempted : (world.meet (around 0)).attemptPoll now number backoff poller with
  | (.ended succeeded, after) => { succeeded, time := now, world := after }
  | (.retrying later time, after) =>
      pollThrough number poller (fun index => around (index + 1)) time later after
termination_by poller.updateInterval.nanoseconds / 2 - backoff.spent * 1000000
decreasing_by
  obtain ⟨_, next⟩ := next?_of_retrying attempted
  exact Backoff.later_of_next? next

section

variable {number now : Nat} {poller : Poller} {around : Nat → ControllerWorld}
  {backoff : Backoff} {world after : ControllerWorld}

theorem pollThrough_of_ended {succeeded : Bool}
    (attempted : (world.meet (around 0)).attemptPoll now number backoff poller =
      (.ended succeeded, after)) :
    pollThrough number poller around now backoff world =
      { succeeded, time := now, world := after } := by
  rw [pollThrough]
  split
  · next same =>
      cases attempted.symm.trans same
      rfl
  · next same => cases attempted.symm.trans same

theorem pollThrough_of_retrying {later : Backoff} {time : Nat}
    (attempted : (world.meet (around 0)).attemptPoll now number backoff poller =
      (.retrying later time, after)) :
    pollThrough number poller around now backoff world =
      pollThrough number poller (fun index => around (index + 1)) time later after := by
  rw [pollThrough]
  split
  · next same => cases attempted.symm.trans same
  · next same =>
      cases attempted.symm.trans same
      rfl

/-- A poll starts with the first pause. -/
theorem turnPoll_resting (now number : Nat) (world : ControllerWorld) :
    world.turnPoll now number (.resting now) =
      world.turnPoll now number (.retrying .initial now) := by
  unfold turnPoll
  cases world.pollers[number]? with
  | none => rfl
  | some poller => simp only [if_pos (Nat.le_refl now)]

/-- The task of a poller makes these attempts, one in each turn. -/
theorem turnPoll_goes_through (found : world.pollers[number]? = some poller) {stage : PollStage}
    (goesOn : stage = .retrying backoff now ∨ stage = .resting now ∧ backoff = .initial) :
    let turned := (world.meet (around 0)).turnPoll now number stage
    let ended := pollThrough number poller around now backoff world
    (∃ later time,
      turned.1 = .waits (.pollChanges number (.retrying later time)) (some time) ∧
      ended = pollThrough number poller (fun index => around (index + 1)) time later turned.2) ∨
    ∃ rested succeeded,
      turned.1 = .waits (.pollChanges number (.resting rested)) (some rested) ∧
      ended = { succeeded, time := now, world := turned.2 } := by
  intro turned ended
  have known : (world.meet (around 0)).pollers[number]? = some poller := found
  have retried : turned =
      (world.meet (around 0)).turnPoll now number (.retrying backoff now) := by
    rcases goesOn with rfl | ⟨rfl, rfl⟩
    · rfl
    · exact turnPoll_resting now number _
  rcases attempted : (world.meet (around 0)).attemptPoll now number backoff poller with
    ⟨⟨later, time⟩ | succeeded, after⟩
  · left
    have turn : turned =
        (.waits (.pollChanges number (.retrying later time)) (some time), after) := by
      rw [retried]
      unfold turnPoll
      simp only [known, attempted, if_pos (Nat.le_refl now)]
    rw [turn]
    exact ⟨later, time, rfl, pollThrough_of_retrying attempted⟩
  · right
    let rested := now + poller.updateInterval.milliseconds
    have turn : turned =
        (.waits (.pollChanges number (.resting rested)) (some rested), after) := by
      rw [retried]
      unfold turnPoll
      simp only [known, attempted, if_pos (Nat.le_refl now)]
      rfl
    rw [turn]
    exact ⟨rested, succeeded, rfl, pollThrough_of_ended attempted⟩

end

end ControllerWorld

/-! ### Runs of attempts -/

def ControllerWorld.pollCount (world : ControllerWorld) (result : PollResult) : Nat :=
  world.controller.metrics.polls.count (.changes, result)

theorem ControllerWorld.pollCount_countPoll (world : ControllerWorld)
    (counted result : PollResult) :
    (world.countPoll counted).pollCount result =
      world.pollCount result + if result = counted then 1 else 0 := by
  refine (Counts.count_increment world.controller.metrics.polls _ _).trans ?_
  simp only [Prod.mk.injEq, true_and]
  rfl

theorem ControllerWorld.pollCount_foldl_moves (now number : Nat) (moves : List PollMove)
    (polling : Polling) (result : PollResult) :
    (moves.foldl (makeMove now number) polling).world.pollCount result =
      polling.world.pollCount result := by
  unfold pollCount
  rw [foldl_moves_metrics]

def Poller.listings (poller : Poller) (start index count : Nat) : List (Nat × ServiceRequest) :=
  (List.range' index count).map fun attempt =>
    (start + Backoff.offset attempt, .list poller.cursor)

/-- What a poll comes to that goes on with an attempt and makes `more` after it. -/
structure PollEnd.Follows (ended : PollEnd) (poller : Poller) (around : Nat → ControllerWorld)
    (start index more : Nat) (world : ControllerWorld) : Prop where
  requests : ended.world.service.requests =
    world.service.requests ++ poller.listings start index (more + 1)
  time : ended.time = start + Backoff.offset (index + more)
  retries : ∀ attempt < more, (around attempt).service.Fails ∧
    Backoff.Fits poller.updateInterval (index + attempt + 1)
  succeeds : ended.succeeded = true → ¬ (around more).service.Fails
  givesUp : ended.succeeded = false → (around more).service.Fails ∧
    ¬ Backoff.Fits poller.updateInterval (index + more + 1)
  counts : ∀ result, ended.world.pollCount result =
    world.pollCount result + (if result = .retried then more else 0) +
      if result = (if ended.succeeded then .ok else .failed) then 1 else 0

/-- A failed attempt before those that a poll goes on with. -/
theorem PollEnd.Follows.earlier {poller : Poller} {around : Nat → ControllerWorld}
    {start index more : Nat} {world after : ControllerWorld} {ended : PollEnd}
    (follows : ended.Follows poller (fun attempt => around (attempt + 1)) start (index + 1) more
      after)
    (failed : (around 0).service.Fails) (fits : Backoff.Fits poller.updateInterval (index + 1))
    (requests : after.service.requests = world.service.requests ++
      [(start + Backoff.offset index, .list poller.cursor)])
    (counts : ∀ result, after.pollCount result =
      world.pollCount result + if result = .retried then 1 else 0) :
    ended.Follows poller around start index (more + 1) world where
  requests := by
    rw [follows.requests, requests, List.append_assoc]
    rfl
  time := by
    rw [follows.time]
    congr 2
    omega
  retries attempt before := by
    cases attempt with
    | zero => exact ⟨failed, fits⟩
    | succ attempt =>
        have shifted : index + (attempt + 1) + 1 = index + 1 + attempt + 1 := by omega
        rw [shifted]
        exact follows.retries attempt (Nat.lt_of_succ_lt_succ before)
  succeeds := follows.succeeds
  givesUp := by
    have shifted : index + (more + 1) + 1 = index + 1 + more + 1 := by omega
    rw [shifted]
    exact follows.givesUp
  counts result := by
    rw [follows.counts, counts]
    by_cases retried : result = .retried
    · simp only [if_pos retried]
      omega
    · simp only [if_neg retried]

namespace ControllerWorld

variable (number : Nat) (poller : Poller) (around : Nat → ControllerWorld) (start index : Nat)
  (world : ControllerWorld)

theorem follows_of_ok {changes : ChangeList}
    (answered : (around 0).service.listing = .ok changes) :
    (pollThrough number poller around (start + Backoff.offset index) (Backoff.atAttempt index)
      world).Follows poller around start index 0 world := by
  have answering : (world.meet (around 0)).service.listing = .ok changes := answered
  rw [pollThrough_of_ended (attemptPoll_of_ok _ _ _ _ answering)]
  refine ⟨?_, rfl, fun attempt before => absurd before (Nat.not_lt_zero attempt),
    fun _ => ?_, fun failed => ?_, fun result => ?_⟩
  · refine (congrArg StagedService.requests (foldl_moves_service _ _ _ _)).trans ?_
    exact StagedService.list_requests _ _ _
  · rintro ⟨error, failed⟩
    cases answered.symm.trans failed
  · cases failed
  · rw [pollCount_countPoll, pollCount_foldl_moves, ite_self, Nat.add_zero]
    rfl

theorem follows_of_exceeds {error : ServiceError}
    (failed : (around 0).service.listing = .error error)
    (exceeds : ¬ Backoff.Fits poller.updateInterval (index + 1)) :
    (pollThrough number poller around (start + Backoff.offset index) (Backoff.atAttempt index)
      world).Follows poller around start index 0 world := by
  have failing : (world.meet (around 0)).service.listing = .error error := failed
  rw [pollThrough_of_ended
    (attemptPoll_of_no_next _ _ _ _ failing (Backoff.next?_of_not_fits exceeds))]
  refine ⟨StagedService.list_requests _ _ _, rfl,
    fun attempt before => absurd before (Nat.not_lt_zero attempt), fun succeeded => ?_,
    fun _ => ⟨⟨error, failed⟩, exceeds⟩, fun result => ?_⟩
  · cases succeeded
  · rw [pollCount_countPoll, ite_self, Nat.add_zero]
    rfl

/-- By induction on what the pauses leave of the interval. -/
theorem follows_pollThrough :
    ∃ more, (pollThrough number poller around (start + Backoff.offset index)
      (Backoff.atAttempt index) world).Follows poller around start index more world := by
  induction left : poller.updateInterval.nanoseconds / 2 -
      (Backoff.atAttempt index).spent * 1000000 using Nat.strongRecOn
      generalizing around index world with
  | ind left ih =>
      cases answered : (around 0).service.listing with
      | ok changes => exact ⟨0, follows_of_ok number poller around start index world answered⟩
      | error error =>
          by_cases fits : Backoff.Fits poller.updateInterval (index + 1)
          · have next := Backoff.next?_of_fits fits
            have failing : (world.meet (around 0)).service.listing = .error error := answered
            have attempted := attemptPoll_of_next (start + Backoff.offset index) number
              (Backoff.atAttempt index) poller failing next
            have time : start + Backoff.offset index + (Backoff.atAttempt index).pause =
                start + Backoff.offset (index + 1) := by
              rw [Backoff.pause_atAttempt, Backoff.offset_succ, Nat.add_assoc]
            rw [time] at attempted
            have less := Backoff.later_of_next? next
            rw [left] at less
            obtain ⟨more, follows⟩ := ih _ less (fun attempt => around (attempt + 1)) (index + 1)
              (((world.meet (around 0)).listed (start + Backoff.offset index)
                poller.cursor).countPoll .retried) rfl
            rw [pollThrough_of_retrying attempted]
            exact ⟨more + 1, follows.earlier ⟨error, answered⟩ fits
              (StagedService.list_requests _ _ _) (fun result => pollCount_countPoll _ _ _)⟩
          · exact ⟨0, follows_of_exceeds number poller around start index world answered fits⟩

end ControllerWorld

namespace PollEnd.Follows

variable {ended : PollEnd} {poller : Poller} {around : Nat → ControllerWorld} {start last : Nat}
  {world : ControllerWorld}

theorem made_iff (follows : ended.Follows poller around start 0 last world) (attempt : Nat) :
    attempt ≤ last ↔ (∀ earlier < attempt, (around earlier).service.Fails) ∧
      Backoff.Fits poller.updateInterval attempt := by
  constructor
  · intro made
    refine ⟨fun earlier before => (follows.retries earlier (before.trans_le made)).1, ?_⟩
    cases attempt with
    | zero => exact Backoff.fits_zero poller.updateInterval
    | succ earlier =>
        have fits := (follows.retries earlier made).2
        rwa [Nat.zero_add] at fits
  · rintro ⟨failed, fits⟩
    refine Nat.le_of_not_lt fun beyond => ?_
    cases succeeded : ended.succeeded with
    | true => exact follows.succeeds succeeded (failed last beyond)
    | false =>
        have exceeds := (follows.givesUp succeeded).2
        rw [Nat.zero_add] at exceeds
        exact exceeds (fits.earlier beyond)

theorem succeeded_iff (follows : ended.Follows poller around start 0 last world) :
    ended.succeeded = true ↔ ∃ first, (∀ earlier < first, (around earlier).service.Fails) ∧
      ¬ (around first).service.Fails ∧ Backoff.Fits poller.updateInterval first := by
  constructor
  · intro succeeded
    obtain ⟨failed, fits⟩ := (follows.made_iff last).mp (Nat.le_refl last)
    exact ⟨last, failed, follows.succeeds succeeded, fits⟩
  · rintro ⟨first, failed, answered, fits⟩
    have made := (follows.made_iff first).mpr ⟨failed, fits⟩
    rcases Nat.lt_or_eq_of_le made with before | same
    · exact absurd (follows.retries first before).1 answered
    · by_contra failing
      refine answered ?_
      rw [same]
      exact (follows.givesUp (Bool.eq_false_of_not_eq_true failing)).1

end PollEnd.Follows

namespace ControllerWorld

/-- Whatever fails, and whatever happens between the attempts: one is made exactly if all before
it failed and the pauses before it fit, at the time to which the pauses add up. The poll succeeds
exactly if the first attempt that does not fail is made, and takes at most half of the interval.
Each further attempt is counted as such, and then it is counted how the poll ended. -/
theorem pollThrough_exact (number : Nat) (poller : Poller) (around : Nat → ControllerWorld)
    (start : Nat) (world : ControllerWorld) :
    let ended := pollThrough number poller around start .initial world
    let fails (attempt : Nat) := (around attempt).service.Fails
    let fits := Backoff.Fits poller.updateInterval
    ∃ last,
      ended.world.service.requests = world.service.requests ++
        (List.range (last + 1)).map (fun attempt =>
          (start + Backoff.offset attempt, .list poller.cursor)) ∧
      (∀ attempt, attempt ≤ last ↔ (∀ earlier < attempt, fails earlier) ∧ fits attempt) ∧
      (ended.succeeded = true ↔
        ∃ first, (∀ earlier < first, fails earlier) ∧ ¬ fails first ∧ fits first) ∧
      (∀ result, ended.world.pollCount result =
        world.pollCount result + (if result = .retried then last else 0) +
          if result = (if ended.succeeded then .ok else .failed) then 1 else 0) ∧
      ended.time = start + Backoff.offset last ∧
      (ended.time - start) * 1000000 ≤ poller.updateInterval.nanoseconds / 2 := by
  intro ended fails fits
  obtain ⟨last, follows⟩ : ∃ last, ended.Follows poller around start 0 last world :=
    follows_pollThrough number poller around start 0 world
  have time : ended.time = start + Backoff.offset last := by
    rw [follows.time, Nat.zero_add]
  refine ⟨last, ?_, follows.made_iff, follows.succeeded_iff, follows.counts, time, ?_⟩
  · rw [follows.requests, List.range_eq_range']
    rfl
  · rw [time, Nat.add_sub_cancel_left]
    exact ((follows.made_iff last).mp (Nat.le_refl last)).2

def silentShop : ControllerWorld :=
  let telling := tellingShop ["shop"] "1"
  { telling with service := { telling.service with listFailures := 1 } }

/-- Of the pauses before a poll is given up, 25 seconds have room for three. -/
theorem pollThrough_exact_silent :
    let interval := Span.ofMilliseconds 50000
    let poller : Poller := { cursor := "0", updateInterval := interval, resyncInterval := interval }
    let ended := pollThrough 0 poller (fun _ => silentShop) 100 .initial silentShop
    ended.succeeded = false ∧ ended.time = 14100 ∧
      ended.world.service.requests.map Prod.fst = [100, 2100, 6100, 14100] ∧
      ended.world.pollCount .retried = 3 ∧ ended.world.pollCount .failed = 1 := by
  intro interval poller ended
  have fails : silentShop.service.Fails := ⟨.notFound, rfl⟩
  obtain ⟨last, requests, made, succeeded, counts, time, -⟩ :=
    pollThrough_exact 0 poller (fun _ => silentShop) 100 silentShop
  have three : 3 ≤ last := (made 3).mpr ⟨fun _ _ => fails, by decide⟩
  have four : ¬ 4 ≤ last := fun more => absurd ((made 4).mp more).2 (by decide)
  obtain rfl : last = 3 := by omega
  have failed : ended.succeeded = false :=
    Bool.eq_false_of_not_eq_true fun done => (succeeded.mp done).elim fun _ ⟨_, never, _⟩ =>
      never fails
  refine ⟨failed, time, ?_, ?_, ?_⟩
  · rw [requests]
    rfl
  · exact (counts .retried).trans (by rw [failed]; rfl)
  · exact (counts .failed).trans (by rw [failed]; rfl)

end ControllerWorld

end PolicyReplica
