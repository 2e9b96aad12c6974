/-
Magnitudes of binary64 numbers, computed exactly.

A finite magnitude is a significand times a power of two. Every operation takes
its exact result, a quotient of natural numbers, to the nearest magnitude that
binary64 can hold; of two equally near ones it takes the one with the even
significand. What is too large becomes infinite.
-/

namespace PolicyReplica

/-- The quotient rounded to the nearest natural number, a half to the even
neighbour. -/
def roundQuotient (numerator denominator : Nat) : Nat :=
  let quotient := numerator / denominator
  let doubled := 2 * (numerator % denominator)
  if doubled < denominator then quotient
  else if denominator < doubled then quotient + 1
  else if quotient % 2 = 0 then quotient else quotient + 1

/-- The absolute value of a binary64 number that is not a NaN. -/
inductive Binary64 where
  | finite (significand : Nat) (exponent : Int)
  | infinite
  deriving DecidableEq, Repr

namespace Binary64

def scaledQuotient (numerator denominator : Nat) (exponent : Int) : Nat :=
  roundQuotient (numerator * Nat.pow 2 (-exponent).toNat) (denominator * Nat.pow 2 exponent.toNat)

/-- The exponent of the largest power of two that is not above the quotient. -/
def binaryOrder (numerator denominator : Nat) : Int :=
  let guess : Int := (numerator.log2 : Int) - denominator.log2
  if denominator * Nat.pow 2 guess.toNat ≤ numerator * Nat.pow 2 (-guess).toNat then guess
  else guess - 1

/-- The quotient rounded to a significand of 53 bits; the exponent is never below
that of the smallest magnitude. -/
def ofQuotient (numerator denominator : Nat) : Binary64 :=
  if numerator = 0 then .finite 0 0
  else
    let exponent := max (binaryOrder numerator denominator - 52) (-1074)
    let significand := scaledQuotient numerator denominator exponent
    if Nat.pow 2 1024 ≤ significand * Nat.pow 2 exponent.toNat then .infinite
    else .finite significand exponent

/-- The rounded product. The factor is not zero. -/
def scale (factor : Binary64) : Binary64 → Binary64
  | .infinite => .infinite
  | .finite significand exponent =>
      match factor with
      | .infinite => .infinite
      | .finite times shift =>
          let power := exponent + shift
          ofQuotient (significand * times * Nat.pow 2 power.toNat) (Nat.pow 2 (-power).toNat)

def ofNat (n : Nat) : Binary64 :=
  ofQuotient n 1

/-- The magnitude times a natural number, rounded to a natural number, if the
magnitude is below a bound. -/
def timesNatBelow? (bound factor : Nat) : Binary64 → Option Nat
  | .infinite => none
  | .finite significand exponent =>
      let numerator := significand * Nat.pow 2 exponent.toNat
      let denominator := Nat.pow 2 (-exponent).toNat
      if numerator < bound * denominator then
        some (roundQuotient (numerator * factor) denominator)
      else none

end Binary64

end PolicyReplica
