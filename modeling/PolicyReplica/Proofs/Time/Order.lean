import PolicyReplica.Time.Timestamp

/-
The order of moments.

Moments with the same rank are the same, so that a latest moment is unique. The
text of whole seconds is the text of the moment cut to whole seconds.
-/

namespace PolicyReplica

theorem Date.month_range (date : Date) : 1 ≤ date.month ∧ date.month ≤ 12 := by
  have within := date.dayInMonth
  unfold Date.daysInMonth at within
  split at within <;> omega

theorem Date.daysInMonth_le (year : Int) (month : Nat) : daysInMonth year month ≤ 31 := by
  unfold daysInMonth
  repeat' split
  all_goals omega

theorem Date.rank_injective {left right : Date} (same : left.rank = right.rank) : left = right := by
  have leftMonth := left.month_range
  have rightMonth := right.month_range
  have leftDay := left.dayInMonth
  have leftLimit := daysInMonth_le left.year left.month
  have rightDay := right.dayInMonth
  have rightLimit := daysInMonth_le right.year right.month
  unfold rank at same
  have sameYear : left.year = right.year := by omega
  have sameMonth : left.month = right.month := by omega
  have sameDay : left.day = right.day := by omega
  cases left
  cases right
  simp_all

namespace Timestamp

theorem rank_injective {left right : Timestamp} (same : left.rank = right.rank) :
    left = right := by
  have leftSecond := left.secondInDay
  have rightSecond := right.secondInDay
  have leftNanosecond := left.nanosecondInRange
  have rightNanosecond := right.nanosecondInRange
  unfold rank at same
  have sameDate : left.date = right.date := Date.rank_injective (by omega)
  have sameSecond : left.second = right.second := by omega
  have sameNanosecond : left.nanosecond = right.nanosecond := by omega
  cases left
  cases right
  simp_all

theorem latest?_eq_none_iff (times : List Timestamp) : latest? times = none ↔ times = [] := by
  cases times with
  | nil => simp [latest?]
  | cons time rest =>
      unfold latest?
      cases latest? rest <;> simp

/-- The latest moment is one of them and none of them is later. -/
theorem latest?_spec {times : List Timestamp} {latest : Timestamp}
    (found : latest? times = some latest) :
    latest ∈ times ∧ ∀ time ∈ times, time.rank ≤ latest.rank := by
  induction times generalizing latest with
  | nil => cases found
  | cons time rest ih =>
      unfold latest? at found
      cases others : latest? rest with
      | none =>
          rw [others] at found
          obtain rfl := Option.some.inj found
          obtain rfl := (latest?_eq_none_iff rest).mp others
          simp
      | some other =>
          rw [others] at found
          obtain rfl := Option.some.inj found
          obtain ⟨member, bound⟩ := ih others
          unfold later
          by_cases before : time.rank ≤ other.rank
          · rw [if_pos before]
            refine ⟨List.mem_cons_of_mem time member, fun third inList => ?_⟩
            rcases List.mem_cons.mp inList with rfl | inRest
            · exact before
            · exact bound third inRest
          · rw [if_neg before]
            refine ⟨List.mem_cons_self, fun third inList => ?_⟩
            rcases List.mem_cons.mp inList with rfl | inRest
            · exact Int.le_refl _
            · have later := bound third inRest
              omega

/-- The moment without the fraction of its second; a leap second stays one. -/
def wholeSeconds (time : Timestamp) : Timestamp :=
  { time with
    nanosecond := time.nanosecond / 1000000000 * 1000000000
    nanosecondInRange := by
      have range := time.nanosecondInRange
      omega
    leapEndsMinute := by
      intro leap
      exact time.leapEndsMinute (by omega) }

theorem write_wholeSeconds (time : Timestamp) : time.wholeSeconds.write = time.writeSeconds := by
  have noFraction : time.wholeSeconds.nanosecond % 1000000000 = 0 := by
    change time.nanosecond / 1000000000 * 1000000000 % 1000000000 = 0
    omega
  have sameLeap : (1000000000 ≤ time.wholeSeconds.nanosecond) = (1000000000 ≤ time.nanosecond) := by
    change (1000000000 ≤ time.nanosecond / 1000000000 * 1000000000) = _
    apply propext
    omega
  have sameClock : writeClock time.wholeSeconds.second time.wholeSeconds.nanosecond =
      writeClock time.second time.nanosecond := by
    unfold writeClock
    simp only [sameLeap]
    rfl
  unfold write writeSeconds
  rw [noFraction, sameClock, writeFraction, if_pos rfl, List.append_nil]
  rfl

theorem write_ne_nil (time : Timestamp) : time.write ≠ [] := by
  unfold write
  simp

end Timestamp

end PolicyReplica
