import PolicyReplica.Counts

/-
Spacing of admissions to a queue.

All admissions share one cursor, the time of the last one, so that a burst of
them is spread out by the interval whatever the keys are. Apart from that, the
admissions of each key are counted, by which a caller can bound its retries.
Times are whole milliseconds.
-/

namespace PolicyReplica

structure RateLimiter (κ : Type) where
  /-- The least time between two admissions. -/
  interval : Nat
  /-- The time of the last admission. -/
  cursor : Option Nat
  admissions : Counts κ

namespace RateLimiter

variable {κ : Type}

def ofInterval (interval : Nat) : RateLimiter κ :=
  { interval, cursor := none, admissions := .empty }

/-- When an admission that is asked for now takes place: one interval after the
last one, unless that time has passed. -/
def nextAdmission (limiter : RateLimiter κ) (now : Nat) : Nat :=
  match limiter.cursor with
  | none => now
  | some cursor => if now ≤ cursor + limiter.interval then cursor + limiter.interval else now

variable [DecidableEq κ]

def reserve (limiter : RateLimiter κ) (now : Nat) (key : κ) : Nat × RateLimiter κ :=
  let time := limiter.nextAdmission now
  (time - now,
    { limiter with cursor := some time, admissions := limiter.admissions.increment key })

def count (limiter : RateLimiter κ) (key : κ) : Nat :=
  limiter.admissions.count key

def forget (limiter : RateLimiter κ) (key : κ) : RateLimiter κ :=
  { limiter with admissions := limiter.admissions.erase key }

end RateLimiter

end PolicyReplica
