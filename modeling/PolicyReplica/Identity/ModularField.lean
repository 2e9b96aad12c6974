/-
Integers modulo a prime.
-/

namespace PolicyReplica.ModularField

/-- The factor of the second number in the sum of multiples of two numbers that is
their greatest common divisor; the last two arguments are the factors of the two
numbers at hand. -/
def cofactor (a b : Nat) (s t : Int) : Int :=
  if b = 0 then s else cofactor b (a % b) t (s - (a / b : Nat) * t)
termination_by b
decreasing_by exact Nat.mod_lt a (by omega)

def inverse (prime : Nat) (a : Int) : Int :=
  cofactor prime (a % prime).toNat 0 1 % prime

def divide (prime : Nat) (a b : Int) : Int :=
  a * inverse prime b % prime

end PolicyReplica.ModularField
