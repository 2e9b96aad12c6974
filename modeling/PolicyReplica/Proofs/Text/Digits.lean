import Mathlib.Algebra.Group.Nat.Defs
import PolicyReplica.Text.Blank
import PolicyReplica.Text.Decimal

/-
Decimal numbers in front of other text.

A written number consists of digits, padding fills its width exactly, and no number but zero
starts with a zero. So a reader that takes all digits, or as many as the width, finds the
number again if no other digit follows.
-/

namespace PolicyReplica.Text

theorem isDigit_of_mem_digits {n : Nat} {c : Char} (member : c ∈ digits n) : c.isDigit = true :=
  Nat.isDigit_of_mem_toDigits (by decide) (by decide) member

theorem isDigit_of_mem_paddedDigits {width n : Nat} {c : Char}
    (member : c ∈ paddedDigits width n) : c.isDigit = true := by
  rcases List.mem_append.mp member with zero | written
  · rw [List.eq_of_mem_replicate zero]
    rfl
  · exact isDigit_of_mem_digits written

theorem length_paddedDigits {width n : Nat} (wide : 0 < width) (fits : n < 10 ^ width) :
    (paddedDigits width n).length = width := by
  have short : (digits n).length ≤ width := (Nat.length_toDigits_le_iff (by decide) wide).mpr fits
  unfold paddedDigits
  rw [List.length_append, List.length_replicate]
  omega

theorem digits_ne_nil (n : Nat) : digits n ≠ [] :=
  Nat.toDigits_ne_nil

/-- No number but zero starts with a zero. -/
theorem digits_eq_cons (n : Nat) :
    ∃ d rest, digits n = d :: rest ∧ d.isDigit = true ∧ (d = '0' → n = 0) := by
  induction n using Nat.strongRecOn with
  | ind n ih =>
      unfold digits
      rw [Nat.toDigits_eq_if (by decide)]
      by_cases small : n < 10
      · refine ⟨n.digitChar, [], if_pos small, ?_, Nat.digitChar_eq_zero.mp⟩
        rw [Nat.isDigit_digitChar]
        exact decide_eq_true small
      · obtain ⟨d, rest, split, digit, zero⟩ := ih (n / 10) (by omega)
        refine ⟨d, rest ++ [(n % 10).digitChar], ?_, digit, fun same => ?_⟩
        · rw [if_neg small]
          exact congrArg (· ++ _) split
        · have none := zero same
          omega

theorem digits_append_ne_cons {mark : Char} (other : mark.isDigit = false) (n : Nat)
    (rest tail : List Char) : digits n ++ rest ≠ mark :: tail := by
  intro same
  obtain ⟨d, more, split, digit, _⟩ := digits_eq_cons n
  rw [split, List.cons_append] at same
  obtain ⟨rfl, _⟩ := List.cons.inj same
  rw [other] at digit
  cases digit

theorem paddedDigits_ne_nil (width n : Nat) : paddedDigits width n ≠ [] := by
  unfold paddedDigits
  exact List.append_ne_nil_of_right_ne_nil _ (digits_ne_nil n)

theorem paddedDigits_eq_cons (width n : Nat) :
    ∃ d rest, paddedDigits width n = d :: rest ∧ d.isDigit = true := by
  obtain ⟨d, rest, split⟩ := List.exists_cons_of_ne_nil (paddedDigits_ne_nil width n)
  refine ⟨d, rest, split, @isDigit_of_mem_paddedDigits width n d ?_⟩
  rw [split]
  exact List.mem_cons_self

theorem isBlank_of_isDigit {c : Char} (digit : c.isDigit = true) : isBlank c = false := by
  have range : 48 ≤ c.toNat ∧ c.toNat ≤ 57 := Char.isDigit_iff_toNat.mp digit
  simp only [isBlank, isWithin, blankRanges, List.any_cons, List.any_nil, Bool.or_false,
    Bool.or_eq_false_iff, Bool.and_eq_false_iff, decide_eq_false_iff_not]
  omega

theorem trimStart_cons {c : Char} (visible : isBlank c = false) (rest : List Char) :
    trimStart (c :: rest) = c :: rest :=
  List.dropWhile_cons_of_neg (by rw [visible]; exact Bool.false_ne_true)

theorem trimStart_paddedDigits (width n : Nat) (rest : List Char) :
    trimStart (paddedDigits width n ++ rest) = paddedDigits width n ++ rest := by
  obtain ⟨d, more, split, digit⟩ := paddedDigits_eq_cons width n
  rw [split]
  exact trimStart_cons (isBlank_of_isDigit digit) _

def NoDigit (cs : List Char) : Prop :=
  ∀ c ∈ cs.head?, c.isDigit = false

theorem takeWhile_isDigit {ds rest : List Char} (all : ∀ c ∈ ds, c.isDigit = true)
    (ends : NoDigit rest) : (ds ++ rest).takeWhile Char.isDigit = ds := by
  rw [List.takeWhile_append_of_pos all]
  cases rest with
  | nil => exact List.append_nil ds
  | cons c more =>
      have other := ends c rfl
      rw [List.takeWhile_cons_of_neg (by rw [other]; exact Bool.false_ne_true), List.append_nil]

theorem dropWhile_isDigit {ds rest : List Char} (all : ∀ c ∈ ds, c.isDigit = true)
    (ends : NoDigit rest) : (ds ++ rest).dropWhile Char.isDigit = rest := by
  rw [List.dropWhile_append_of_pos all]
  cases rest with
  | nil => rfl
  | cons c more =>
      have other := ends c rfl
      exact List.dropWhile_cons_of_neg (by rw [other]; exact Bool.false_ne_true)

theorem takeWhile_paddedDigits (width n : Nat) {rest : List Char} (ends : NoDigit rest) :
    (paddedDigits width n ++ rest).takeWhile Char.isDigit = paddedDigits width n :=
  takeWhile_isDigit (fun _ => isDigit_of_mem_paddedDigits) ends

theorem dropWhile_paddedDigits (width n : Nat) {rest : List Char} (ends : NoDigit rest) :
    (paddedDigits width n ++ rest).dropWhile Char.isDigit = rest :=
  dropWhile_isDigit (fun _ => isDigit_of_mem_paddedDigits) ends

end PolicyReplica.Text
