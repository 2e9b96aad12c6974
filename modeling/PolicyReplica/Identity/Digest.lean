import PolicyReplica.Identity.Der

/-
The hash of 512 bits.

A message is filled up to whole blocks, of which each changes a state of eight words.
The constants are bits of roots of the first primes.
-/

namespace PolicyReplica.Digest

/-- The largest number of at most so many bits that, added to the given one, has a
power that is not above the bound. -/
def root (power bound : Nat) : Nat → Nat → Nat
  | 0, found => found
  | bits + 1, found =>
      let larger := found + Nat.pow 2 bits
      root power bound bits (if Nat.pow larger power ≤ bound then larger else found)

def rootBits (power value : Nat) : UInt64 :=
  UInt64.ofNat (root power (value * Nat.pow 2 (64 * power)) 72 0)

def isPrime (n : Nat) : Bool :=
  2 ≤ n && (List.range n).all fun d => d < 2 || n % d ≠ 0

def primes : List Nat :=
  (List.range 410).filter isPrime

def roundConstants : List UInt64 :=
  primes.map (rootBits 3)

structure State where
  a : UInt64
  b : UInt64
  c : UInt64
  d : UInt64
  e : UInt64
  f : UInt64
  g : UInt64
  h : UInt64
  deriving DecidableEq, Repr

def initial : State where
  a := rootBits 2 2
  b := rootBits 2 3
  c := rootBits 2 5
  d := rootBits 2 7
  e := rootBits 2 11
  f := rootBits 2 13
  g := rootBits 2 17
  h := rootBits 2 19

def rotate (word count : UInt64) : UInt64 :=
  word >>> count ||| word <<< (64 - count)

def mix (i j k : UInt64) (word : UInt64) : UInt64 :=
  (rotate word i).xor ((rotate word j).xor (rotate word k))

def spread (i j k : UInt64) (word : UInt64) : UInt64 :=
  (rotate word i).xor ((rotate word j).xor (word >>> k))

/-- So many more words of a block, of which the last sixteen are given with the last
one first. -/
def extend : Nat → List UInt64 → List UInt64
  | 0, words => words.reverse
  | count + 1, words =>
      let back (n : Nat) : UInt64 := words[n]?.getD 0
      let next := spread 19 61 6 (back 1) + back 6 + spread 1 8 7 (back 14) + back 15
      extend count (next :: words)

def round (s : State) (word constant : UInt64) : State :=
  let choice := (s.e &&& s.f).xor (s.e.complement &&& s.g)
  let majority := (s.a &&& s.b).xor ((s.a &&& s.c).xor (s.b &&& s.c))
  let first := s.h + mix 14 18 41 s.e + choice + constant + word
  let second := mix 28 34 39 s.a + majority
  { a := first + second, b := s.a, c := s.b, d := s.c, e := s.d + first, f := s.e, g := s.f
    h := s.g }

def absorb (s : State) (block : List UInt64) : State :=
  let words := extend 64 block.reverse
  let t := (words.zip roundConstants).foldl (fun t (word, constant) => round t word constant) s
  { a := s.a + t.a, b := s.b + t.b, c := s.c + t.c, d := s.d + t.d, e := s.e + t.e
    f := s.f + t.f, g := s.g + t.g, h := s.h + t.h }

/-- The message, a bit, as many zeros as are needed, and its size in bits. -/
def fill (message : Der.Bytes) : Der.Bytes :=
  let zeros := (239 - message.length % 128) % 128
  message ++ 0x80 :: List.replicate zeros 0 ++ Der.digits 16 (8 * message.length)

def parts {α : Type} (size : Nat) : Nat → List α → List (List α)
  | 0, _ => []
  | count + 1, items => items.take size :: parts size count (items.drop size)

def hash (message : Der.Bytes) : Der.Bytes :=
  let filled := fill message
  let word (bytes : Der.Bytes) : UInt64 := UInt64.ofNat (Der.number bytes)
  let words := (parts 8 (filled.length / 8) filled).map word
  let s := (parts 16 (words.length / 16) words).foldl absorb initial
  [s.a, s.b, s.c, s.d, s.e, s.f, s.g, s.h].flatMap fun word => Der.digits 8 word.toNat

end PolicyReplica.Digest
