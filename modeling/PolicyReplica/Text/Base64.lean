/-
Base64 texts.

A text is a row of digits in groups of four. The last group may have two or three
digits and is filled up with padding; then the bits of its last digit that are
not used are zero. A lenient reader does not look at those bits, does without the
padding, and skips blanks.
-/

namespace PolicyReplica.Text.Base64

def digitValue? (c : Char) : Option Nat :=
  if 'A' ≤ c ∧ c ≤ 'Z' then some (c.toNat - 'A'.toNat)
  else if 'a' ≤ c ∧ c ≤ 'z' then some (c.toNat - 'a'.toNat + 26)
  else if '0' ≤ c ∧ c ≤ '9' then some (c.toNat - '0'.toNat + 52)
  else if c = '+' then some 62
  else if c = '/' then some 63
  else none

def isDigit (c : Char) : Bool :=
  (digitValue? c).isSome

def isMultiple (unit : Nat) (c : Char) : Bool :=
  (digitValue? c).any fun value => value % unit = 0

def isWellFormed : List Char → Bool
  | [] => true
  | [a, b, '=', '='] => isDigit a && isMultiple 16 b
  | [a, b, c, '='] => isDigit a && isDigit b && isMultiple 4 c
  | a :: b :: c :: d :: rest =>
      isDigit a && isDigit b && isDigit c && isDigit d && isWellFormed rest
  | _ => false

def bytes : List Nat → List UInt8
  | a :: b :: c :: d :: rest =>
      UInt8.ofNat (4 * a + b / 16) :: UInt8.ofNat (16 * b + c / 4) :: UInt8.ofNat (64 * c + d) ::
        bytes rest
  | [a, b, c] => [UInt8.ofNat (4 * a + b / 16), UInt8.ofNat (16 * b + c / 4)]
  | [a, b] => [UInt8.ofNat (4 * a + b / 16)]
  | _ => []

def isSkipped (c : Char) : Bool :=
  c = ' ' || 0x09 ≤ c.toNat && c.toNat ≤ 0x0d

/-- The bytes of a text, read leniently; the padding is missing or whole. -/
def decode? (text : List Char) : Option (List UInt8) := do
  let kept := text.filter (!isSkipped ·)
  let values ← (kept.takeWhile (· ≠ '=')).mapM digitValue?
  let padding := kept.dropWhile (· ≠ '=')
  let isWhole := padding.length ≤ 2 && (values.length + padding.length) % 4 = 0
  if padding.all (· = '=') && values.length % 4 ≠ 1 && (padding.isEmpty || isWhole) then
    pure (bytes values)
  else none

end PolicyReplica.Text.Base64
