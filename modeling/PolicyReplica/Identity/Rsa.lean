import PolicyReplica.Identity.Der

/-
Keys that rest on the factors of a number.
-/

namespace PolicyReplica

/-- The numbers of a key: the modulus with its two factors, the exponents of both
sides, and what speeds the secret side up. -/
structure Rsa where
  modulus : Nat
  publicExponent : Nat
  secretExponent : Nat
  factor : Nat
  otherFactor : Nat
  /-- The secret exponents for the factors. -/
  exponent : Nat
  otherExponent : Nat
  /-- What gives one when it is multiplied by the other factor, modulo the factor. -/
  coefficient : Nat
  deriving DecidableEq, Repr

namespace Rsa

/-- The numbers of a version, which is zero, and of a key, as many as there are. -/
def read? (bytes : Der.Bytes) : Option Rsa := do
  let (version, bytes) ← Der.natural? bytes
  let (modulus, bytes) ← Der.natural? bytes
  let (publicExponent, bytes) ← Der.natural? bytes
  let (secretExponent, bytes) ← Der.natural? bytes
  let (factor, bytes) ← Der.natural? bytes
  let (otherFactor, bytes) ← Der.natural? bytes
  let (exponent, bytes) ← Der.natural? bytes
  let (otherExponent, bytes) ← Der.natural? bytes
  let (coefficient, bytes) ← Der.natural? bytes
  if version = 0 && bytes.isEmpty then
    pure
      { modulus, publicExponent, secretExponent, factor, otherFactor, exponent, otherExponent
        coefficient }
  else none

def bits (value : Nat) : Nat :=
  Nat.log2 value + 1

/-- Holds of an odd factor with half the bits of the modulus, in units of 512, and an
odd exponent below it. -/
def isFactor (modulus factor exponent : Nat) : Bool :=
  factor % 2 = 1 && bits factor = (bits modulus + 1) / 2 && bits factor % 512 = 0 &&
    exponent % 2 = 1 && exponent < factor

def isSound (key : Rsa) : Bool :=
  key.modulus % 2 = 1 && 2041 ≤ bits key.modulus && bits key.modulus ≤ 4096 &&
    key.publicExponent % 2 = 1 && 65537 ≤ key.publicExponent &&
    key.publicExponent < Nat.pow 2 33 &&
    isFactor key.modulus key.factor key.exponent &&
    isFactor key.modulus key.otherFactor key.otherExponent &&
    key.factor * key.otherFactor % key.modulus = 0 &&
    key.secretExponent % 2 = 1 && key.secretExponent < key.modulus &&
    (bits key.modulus + 1) / 2 < bits key.secretExponent &&
    key.coefficient < key.factor && key.coefficient * key.otherFactor % key.factor = 1

def publicBytes (key : Rsa) : Der.Bytes :=
  Der.wrap Der.sequenceTag (Der.wrapNatural key.modulus ++ Der.wrapNatural key.publicExponent)

end Rsa

end PolicyReplica
