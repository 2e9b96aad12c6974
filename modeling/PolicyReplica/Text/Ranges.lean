/-
Sets of characters, given by inclusive ranges of code points.

The tables of the properties of characters have this form, with their ranges in
ascending order and no two of them adjacent.
-/

namespace PolicyReplica.Text

def isWithin (ranges : List (Nat × Nat)) (c : Char) : Bool :=
  ranges.any fun (low, high) => low ≤ c.toNat && c.toNat ≤ high

end PolicyReplica.Text
