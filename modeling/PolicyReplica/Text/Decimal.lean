/-
Decimal notation of natural numbers.

`digits` writes a number without leading zeros and `digitsValue` reads digits
back; leading zeros do not change the value, so the padded form reads back too.
-/

namespace PolicyReplica.Text

def digits (n : Nat) : List Char :=
  Nat.toDigits 10 n

def digitsValue (cs : List Char) : Nat :=
  Nat.ofDigitChars 10 cs 0

def paddedDigits (width n : Nat) : List Char :=
  List.replicate (width - (digits n).length) '0' ++ digits n

@[simp] theorem digitsValue_digits (n : Nat) : digitsValue (digits n) = n :=
  Nat.ofDigitChars_toDigits (by decide) (by decide)

@[simp] theorem digitsValue_paddedDigits (width n : Nat) :
    digitsValue (paddedDigits width n) = n := by
  rw [digitsValue, paddedDigits, Nat.ofDigitChars_append, Nat.ofDigitChars_replicate_zero,
    Nat.mul_zero]
  exact digitsValue_digits n

end PolicyReplica.Text
