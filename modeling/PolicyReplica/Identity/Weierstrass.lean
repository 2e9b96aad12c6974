import PolicyReplica.Identity.Der
import PolicyReplica.Identity.ModularField

/-
Elliptic curves with an equation of the form y² = x³ - 3x + b.
-/

namespace PolicyReplica

open ModularField

/-- A curve over the integers modulo a prime, and a base point on it. -/
structure Weierstrass where
  prime : Nat
  /-- How often the base point is added to give the point at infinity. -/
  order : Nat
  baseX : Int
  baseY : Int
  /-- The number of bytes of a coordinate. -/
  width : Nat
  /-- The identifier of the curve. -/
  identifier : Der.Bytes
  deriving DecidableEq, Repr

namespace Weierstrass

def bits256 : Weierstrass where
  prime := 0xffffffff00000001000000000000000000000000ffffffffffffffffffffffff
  order := 0xffffffff00000000ffffffffffffffffbce6faada7179e84f3b9cac2fc632551
  baseX := 0x6b17d1f2e12c4247f8bce6e563a440f277037d812deb33a0f4a13945d898c296
  baseY := 0x4fe342e2fe1a7f9b8ee7eb4a7c0f9e162bce33576b315ececbb6406837bf51f5
  width := 32
  identifier := [0x2a, 0x86, 0x48, 0xce, 0x3d, 0x03, 0x01, 0x07]

def bits384 : Weierstrass where
  prime :=
    0xfffffffffffffffffffffffffffffffffffffffffffffffffffffffffffffffeffffffff0000000000000000ffffffff
  order :=
    0xffffffffffffffffffffffffffffffffffffffffffffffffc7634d81f4372ddf581a0db248b0a77aecec196accc52973
  baseX :=
    0xaa87ca22be8b05378eb1c71ef320ad746e1d3b628ba79b9859f741e082542a385502f25dbf55296c3a545e3872760ab7
  baseY :=
    0x3617de4a96262c6f5d9e98bf9292dc29f8f41dbd289a147ce9da3113b5f0b8c00a60b1ce1d7e819d7a431d7c90ea0e5f
  width := 48
  identifier := [0x2b, 0x81, 0x04, 0x00, 0x22]

/-- A point of a curve; none is the point at infinity. -/
abbrev Point := Option (Int × Int)

/-- The third point on the line of that slope through two points, on the other side
of the axis. -/
def reflect (curve : Weierstrass) (slope x y x' : Int) : Point :=
  let third := (slope * slope - x - x') % curve.prime
  some (third, (slope * (x - third) - y) % curve.prime)

def add (curve : Weierstrass) : Point → Point → Point
  | none, q => q
  | p, none => p
  | some (x, y), some (x', y') =>
      if x ≠ x' then curve.reflect (divide curve.prime (y' - y) (x' - x)) x y x'
      else if y ≠ y' || y = 0 then none
      else curve.reflect (divide curve.prime (3 * x * x - 3) (2 * y)) x y x

def multiple (curve : Weierstrass) : Nat → Nat → Point
  | 0, _ => none
  | count + 1, scalar =>
      let half := curve.multiple count (scalar / 2)
      let whole := curve.add half half
      if scalar % 2 = 0 then whole else curve.add whole (some (curve.baseX, curve.baseY))

def encode? (curve : Weierstrass) : Point → Option Der.Bytes
  | none => none
  | some (x, y) =>
      some (0x04 :: Der.digits curve.width x.toNat ++ Der.digits curve.width y.toNat)

/-- The bytes of the public point for a secret: as many as a coordinate has, which
denote a number between zero and the order. -/
def publicPoint? (curve : Weierstrass) (secret : Der.Bytes) : Option Der.Bytes :=
  let scalar := Der.number secret
  if secret.length = curve.width && 0 < scalar && scalar < curve.order then
    curve.encode? (curve.multiple (8 * curve.width) scalar)
  else none

end Weierstrass

end PolicyReplica
