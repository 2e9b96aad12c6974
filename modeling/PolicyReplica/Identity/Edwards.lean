import PolicyReplica.Identity.Digest
import PolicyReplica.Identity.ModularField

/-
The elliptic curve with the equation y² - x² = 1 + dx²y² modulo 2²⁵⁵ - 19.
-/

namespace PolicyReplica.Edwards

open ModularField

def prime : Nat :=
  Nat.pow 2 255 - 19

def coefficient : Int :=
  divide prime (-121665) 121666

abbrev Point := Int × Int

def zero : Point :=
  (0, 1)

def add : Point → Point → Point
  | (x, y), (x', y') =>
      let product := coefficient * (x * x' % prime) * (y * y' % prime)
      (divide prime (x * y' + x' * y) (1 + product), divide prime (y * y' + x * x') (1 - product))

def base : Point :=
  (0x216936d3cd6e53fec0a4e231fdd6dc5c692cc7609525a7b2c9562d608f25d51a,
    0x6666666666666666666666666666666666666666666666666666666666666658)

/-- The base point as often as a number says that has as many bits as the count. -/
def multiple : Nat → Nat → Point
  | 0, _ => zero
  | count + 1, scalar =>
      let half := multiple count (scalar / 2)
      let whole := add half half
      if scalar % 2 = 0 then whole else add whole base

/-- The bytes of a point: the second coordinate and whether the first one is odd, the
most significant byte last. -/
def encode : Point → Der.Bytes
  | (x, y) => (Der.digits 32 (y.toNat + Nat.pow 2 255 * (x.toNat % 2))).reverse

/-- The scalar for a secret. It is a multiple of eight with a highest bit that is
fixed. -/
def scalar (secret : Der.Bytes) : Nat :=
  let value := Der.number ((Digest.hash secret).take 32).reverse
  value % Nat.pow 2 254 / 8 * 8 + Nat.pow 2 254

def publicPoint? (secret : Der.Bytes) : Option Der.Bytes :=
  if secret.length = 32 then some (encode (multiple 255 (scalar secret))) else none

end PolicyReplica.Edwards
