import Mathlib.Data.List.Pairwise
import Mathlib.Order.Bounds.Basic
import PolicyReplica.Queue.RateLimiter

/-
The times of admissions in closed form.

A limiter remembers its last admission only. Main statement: an admission takes place at the
latest time that a request up to its own calls for, where a request calls for its own time and
one interval for each request that came after it. So admissions are the interval apart, in
whatever order the times of the requests are and whatever is forgotten meanwhile.
-/

namespace PolicyReplica

/-- What callers do with a limiter. A caller reads the clock before it gets its turn, so that
the times need not be in order. -/
inductive LimiterCall (κ : Type) where
  | reserve (now : Nat) (key : κ)
  | forget (key : κ)
  deriving DecidableEq, Repr

def LimiterCall.asked? {κ : Type} : LimiterCall κ → Option Nat
  | .reserve now _ => some now
  | .forget _ => none

structure Admission where
  asked : Nat
  delay : Nat
  deriving DecidableEq, Repr

def Admission.time (admission : Admission) : Nat :=
  admission.asked + admission.delay

def demands (interval : Nat) (requests : List Nat) (index : Nat) : Set Nat :=
  { time | ∃ earlier asked, earlier ≤ index ∧ requests[earlier]? = some asked ∧
      time = asked + (index - earlier) * interval }

theorem demands_first (interval now : Nat) (later : List Nat) :
    demands interval (now :: later) 0 = {now} := by
  ext time
  constructor
  · rintro ⟨earlier, asked, before, found, rfl⟩
    obtain rfl : earlier = 0 := Nat.le_zero.mp before
    obtain rfl : now = asked := Option.some.inj found
    simp
  · rintro rfl
    exact ⟨0, time, Nat.le_refl 0, rfl, by simp⟩

theorem demands_later (interval now : Nat) (later : List Nat) (index : Nat) :
    demands interval (now :: later) (index + 1) =
      insert (now + (index + 1) * interval) (demands interval later index) := by
  ext time
  constructor
  · rintro ⟨earlier, asked, before, found, rfl⟩
    cases earlier with
    | zero =>
        obtain rfl : now = asked := Option.some.inj found
        exact .inl rfl
    | succ earlier =>
        refine .inr ⟨earlier, asked, Nat.le_of_succ_le_succ before, found, ?_⟩
        rw [Nat.add_sub_add_right]
  · rintro (rfl | ⟨earlier, asked, before, found, rfl⟩)
    · exact ⟨0, now, Nat.zero_le _, rfl, rfl⟩
    · refine ⟨earlier + 1, asked, Nat.succ_le_succ before, found, ?_⟩
      rw [Nat.add_sub_add_right]

/-- A later request gets one interval more of what each request calls for. -/
theorem demands_shift {interval : Nat} {requests : List Nat} {index time : Nat}
    (demanded : time ∈ demands interval requests index) (more : Nat) :
    time + more * interval ∈ demands interval requests (index + more) := by
  obtain ⟨earlier, asked, before, found, rfl⟩ := demanded
  refine ⟨earlier, asked, Nat.le_add_right_of_le before, found, ?_⟩
  rw [Nat.add_assoc, ← Nat.add_mul, Nat.sub_add_comm before]

theorem isGreatest_insert_max {left right greatest : Nat} {times : Set Nat}
    (greater : IsGreatest (insert (max left right) times) greatest) :
    IsGreatest (insert left (insert right times)) greatest := by
  obtain ⟨member, bound⟩ := greater
  have largest : max left right ≤ greatest := bound (Set.mem_insert _ _)
  constructor
  · rcases member with rfl | inTimes
    · rcases Nat.le_total left right with rightGreater | leftGreater
      · exact .inr (.inl (Nat.max_eq_right rightGreater))
      · exact .inl (Nat.max_eq_left leftGreater)
    · exact .inr (.inr inTimes)
  · rintro time (rfl | rfl | inTimes)
    · exact (Nat.le_max_left _ _).trans largest
    · exact (Nat.le_max_right _ _).trans largest
    · exact bound (Set.mem_insert_of_mem _ inTimes)

namespace RateLimiter

variable {κ : Type}

def earliest (limiter : RateLimiter κ) : Nat :=
  match limiter.cursor with
  | none => 0
  | some cursor => cursor + limiter.interval

theorem nextAdmission_eq_max (limiter : RateLimiter κ) (now : Nat) :
    limiter.nextAdmission now = max now limiter.earliest := by
  unfold nextAdmission earliest
  cases limiter.cursor with
  | none => exact (Nat.max_zero now).symm
  | some cursor =>
      by_cases within : now ≤ cursor + limiter.interval
      · simp only [if_pos within, Nat.max_eq_right within]
      · simp only [if_neg within, Nat.max_eq_left (Nat.le_of_not_le within)]

theorem le_nextAdmission (limiter : RateLimiter κ) (now : Nat) :
    now ≤ limiter.nextAdmission now := by
  rw [nextAdmission_eq_max]
  exact Nat.le_max_left _ _

variable [DecidableEq κ]

theorem add_reserve (limiter : RateLimiter κ) (now : Nat) (key : κ) :
    now + (limiter.reserve now key).1 = limiter.nextAdmission now :=
  Nat.add_sub_cancel' (limiter.le_nextAdmission now)

def serve (limiter : RateLimiter κ) : List (LimiterCall κ) → List Admission
  | [] => []
  | .reserve now key :: later =>
      ⟨now, (limiter.reserve now key).1⟩ :: (limiter.reserve now key).2.serve later
  | .forget key :: later => (limiter.forget key).serve later

theorem serve_asked (limiter : RateLimiter κ) (calls : List (LimiterCall κ)) :
    (limiter.serve calls).map Admission.asked = calls.filterMap LimiterCall.asked? := by
  induction calls generalizing limiter with
  | nil => rfl
  | cons call later ih =>
      cases call with
      | reserve now key => exact congrArg (now :: ·) (ih _)
      | forget key => exact ih _

/-- The requests so far and the state at the start decide when an admission takes place. -/
theorem serve_isGreatest (limiter : RateLimiter κ) (calls : List (LimiterCall κ))
    {index : Nat} {admission : Admission}
    (found : (limiter.serve calls)[index]? = some admission) :
    IsGreatest (insert (limiter.earliest + index * limiter.interval)
      (demands limiter.interval (calls.filterMap LimiterCall.asked?) index)) admission.time := by
  -- On the calls. A request hands the limiter on with one interval more than its own time.
  induction calls generalizing limiter index with
  | nil => cases found
  | cons call later ih =>
      cases call with
      | forget key => exact ih (limiter.forget key) found
      | reserve now key =>
          have requests : (LimiterCall.reserve now key :: later).filterMap LimiterCall.asked? =
              now :: later.filterMap LimiterCall.asked? := rfl
          have first : now + (limiter.reserve now key).1 = max limiter.earliest now := by
            rw [add_reserve, nextAdmission_eq_max, Nat.max_comm]
          rw [requests]
          cases index with
          | zero =>
              obtain rfl : ⟨now, (limiter.reserve now key).1⟩ = admission := Option.some.inj found
              rw [demands_first, Nat.zero_mul, Nat.add_zero]
              change IsGreatest _ (now + (limiter.reserve now key).1)
              rw [first]
              exact isGreatest_pair
          | succ index =>
              have next : (limiter.reserve now key).2.earliest + index * limiter.interval =
                  max (limiter.earliest + (index + 1) * limiter.interval)
                    (now + (index + 1) * limiter.interval) := by
                change limiter.nextAdmission now + limiter.interval + index * limiter.interval = _
                rw [nextAdmission_eq_max, Nat.max_comm, Nat.add_max_add_right, Nat.succ_mul]
                omega
              have later := ih (limiter.reserve now key).2 found
              change IsGreatest (insert (_ + index * limiter.interval)
                (demands limiter.interval _ index)) _ at later
              rw [next] at later
              rw [demands_later]
              exact isGreatest_insert_max later

/-- A limiter that was not used yet calls for nothing itself. -/
theorem ofInterval_isGreatest (interval : Nat) (calls : List (LimiterCall κ)) {index : Nat}
    {admission : Admission}
    (found : ((ofInterval interval).serve calls)[index]? = some admission) :
    IsGreatest (demands interval (calls.filterMap LimiterCall.asked?) index) admission.time := by
  obtain ⟨member, bound⟩ := serve_isGreatest (ofInterval interval) calls found
  have first : ∃ asked, (calls.filterMap LimiterCall.asked?)[0]? = some asked := by
    rw [← serve_asked (ofInterval interval) calls]
    cases all : (ofInterval interval).serve calls with
    | nil =>
        rw [all] at found
        cases found
    | cons first later => exact ⟨first.asked, rfl⟩
  obtain ⟨asked, isFirst⟩ := first
  have demanded : asked + index * interval ∈
      demands interval (calls.filterMap LimiterCall.asked?) index :=
    ⟨0, asked, Nat.zero_le index, isFirst, rfl⟩
  refine ⟨?_, fun time inDemands => bound (Set.mem_insert_of_mem _ inDemands)⟩
  rcases member with start | inDemands
  · -- The first request calls for as much as the start does.
    have least : asked + index * interval ≤ admission.time :=
      bound (Set.mem_insert_of_mem _ demanded)
    have start : admission.time = 0 + index * interval := start
    rw [show admission.time = asked + index * interval by omega]
    exact demanded
  · exact inDemands

theorem serve_apart (interval : Nat) (calls : List (LimiterCall κ)) :
    ((ofInterval interval).serve calls).Pairwise fun earlier later =>
      earlier.time + interval ≤ later.time := by
  rw [List.pairwise_iff_getElem]
  intro index other inList otherInList before
  have early := ofInterval_isGreatest interval calls (List.getElem?_eq_getElem inList)
  have late := ofInterval_isGreatest interval calls (List.getElem?_eq_getElem otherInList)
  have shifted := late.2 (Nat.add_sub_cancel' (Nat.le_of_lt before) ▸
    demands_shift early.1 (other - index))
  have step : 1 * interval ≤ (other - index) * interval :=
    Nat.mul_le_mul_right interval (Nat.sub_pos_of_lt before)
  omega

/-- What is an interval apart each spans the intervals between. -/
theorem span_of_apart {interval span : Nat} {chosen : List Admission}
    (apart : chosen.Pairwise fun earlier later => earlier.time + interval ≤ later.time)
    (length : chosen.length = span + 1) :
    ∃ first ∈ chosen, ∃ last ∈ chosen, first.time + span * interval ≤ last.time := by
  induction chosen generalizing span with
  | nil => cases length
  | cons first rest ih =>
      obtain ⟨before, restApart⟩ := List.pairwise_cons.mp apart
      cases span with
      | zero => exact ⟨first, List.mem_cons_self, first, List.mem_cons_self, by simp⟩
      | succ span =>
          obtain ⟨second, isSecond, last, isLast, far⟩ := ih restApart (Nat.succ.inj length)
          have near := before second isSecond
          refine ⟨first, List.mem_cons_self, last, List.mem_cons_of_mem _ isLast, ?_⟩
          rw [Nat.succ_mul]
          omega

/-- Each request is answered by one admission. It takes place at the latest time that the
requests so far call for, which is not before the request. Admissions are the interval apart,
and any number of them span the intervals between them. -/
theorem serve_exact (interval : Nat) (calls : List (LimiterCall κ)) :
    let requests := calls.filterMap LimiterCall.asked?
    let admissions := (ofInterval interval).serve calls
    admissions.map Admission.asked = requests ∧
      (∀ index admission, admissions[index]? = some admission →
        IsGreatest (demands interval requests index) admission.time) ∧
      (∀ admission ∈ admissions, admission.asked ≤ admission.time) ∧
      admissions.Pairwise (fun earlier later => earlier.time + interval ≤ later.time) ∧
      ∀ (chosen : List Admission) (span : Nat),
        chosen.Sublist admissions → chosen.length = span + 1 →
          ∃ first ∈ chosen, ∃ last ∈ chosen, first.time + span * interval ≤ last.time := by
  intro requests admissions
  have apart := serve_apart interval calls
  refine ⟨serve_asked _ calls, fun index admission found => ?_,
    fun admission _ => Nat.le_add_right _ _, apart, fun chosen span some length => ?_⟩
  · exact ofInterval_isGreatest interval calls found
  · exact span_of_apart (apart.sublist some) length

-- The third request has an earlier time than the second, and the last one comes after a rest.
example :
    ((ofInterval 250).serve [.reserve 100 1, .reserve 400 2, .forget 2, .reserve 300 1,
      .reserve 900 3, .reserve 2000 1]).map Admission.time = [100, 400, 650, 900, 2000] := by
  decide

end RateLimiter

end PolicyReplica
