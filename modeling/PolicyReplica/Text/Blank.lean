import PolicyReplica.Text.Ranges

/-
The White_Space property of Unicode, and the removal of blanks from the ends of
a text.
-/

namespace PolicyReplica.Text

/-- Inclusive code point ranges of the White_Space property, in ascending
order. -/
def blankRanges : List (Nat × Nat) :=
  [(0x9, 0xd), (0x20, 0x20), (0x85, 0x85), (0xa0, 0xa0), (0x1680, 0x1680), (0x2000, 0x200a),
    (0x2028, 0x2029), (0x202f, 0x202f), (0x205f, 0x205f), (0x3000, 0x3000)]

def isBlank (c : Char) : Bool :=
  isWithin blankRanges c

def trimStart (cs : List Char) : List Char :=
  cs.dropWhile isBlank

def trim (cs : List Char) : List Char :=
  (trimStart (trimStart cs).reverse).reverse

end PolicyReplica.Text
