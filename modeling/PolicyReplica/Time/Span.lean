import PolicyReplica.Text.Decimal

/-
Lengths of time, in nanoseconds.

The whole seconds of a span fit 64 bits. A span is shown in the largest of the
units second, millisecond, microsecond and nanosecond of which it has at least
one, with as many decimals as it needs.
-/

namespace PolicyReplica

/-- One more than the number of nanoseconds of the longest span. -/
def Span.limit : Nat := 18446744073709551616 * 1000000000

structure Span where
  nanoseconds : Nat
  inRange : nanoseconds < Span.limit
  deriving DecidableEq

namespace Span

def ofNanoseconds? (nanoseconds : Nat) : Option Span :=
  if inRange : nanoseconds < limit then some { nanoseconds, inRange } else none

def zero : Span :=
  { nanoseconds := 0, inRange := by decide }

/-- The span of so many milliseconds; zero if it would be too long. -/
def ofMilliseconds (count : Nat) : Span :=
  (ofNanoseconds? (count * 1000000)).getD zero

def add? (left right : Span) : Option Span :=
  ofNanoseconds? (left.nanoseconds + right.nanoseconds)

/-- The span in whole milliseconds, rounded up. -/
def milliseconds (span : Span) : Nat :=
  (span.nanoseconds + 999999) / 1000000

def writeFixed (places whole fraction : Nat) : List Char :=
  let decimals := (Text.paddedDigits places fraction).reverse.dropWhile (· = '0') |>.reverse
  if fraction = 0 then Text.digits whole else Text.digits whole ++ '.' :: decimals

def write (span : Span) : List Char :=
  let n := span.nanoseconds
  if 1000000000 ≤ n then writeFixed 9 (n / 1000000000) (n % 1000000000) ++ ['s']
  else if 1000000 ≤ n then writeFixed 6 (n / 1000000) (n % 1000000) ++ ['m', 's']
  else if 1000 ≤ n then writeFixed 3 (n / 1000) (n % 1000) ++ ['µ', 's']
  else Text.digits n ++ ['n', 's']

def render (span : Span) : String :=
  String.ofList span.write

end Span

end PolicyReplica
