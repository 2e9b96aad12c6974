import PolicyReplica.Text.CombiningClass
import PolicyReplica.Text.Composition

/-
The normal form of texts: canonical composition of Unicode.

Characters are taken apart, marks that do not touch each other are put into the order
of their classes, and what makes one character is put together again.
-/

namespace PolicyReplica.Text

/-! ### Syllables of Hangul -/

/-- The first syllable, the first letters of the three kinds and the numbers of
letters; the last kind has the absence of a letter as its first one. -/
def firstSyllable : Nat := 0xac00

def firstLead : Nat := 0x1100

def firstVowel : Nat := 0x1161

def firstTail : Nat := 0x11a7

def leadCount : Nat := 19

def vowelCount : Nat := 21

def tailCount : Nat := 28

def letters? (c : Nat) : Option (List Nat) :=
  if firstSyllable ≤ c && c < firstSyllable + leadCount * vowelCount * tailCount then
    let index := c - firstSyllable
    let lead := firstLead + index / (vowelCount * tailCount)
    let vowel := firstVowel + index / tailCount % vowelCount
    let tail := firstTail + index % tailCount
    some (lead :: vowel :: if tail = firstTail then [] else [tail])
  else none

def syllable? (a b : Nat) : Option Nat :=
  if firstLead ≤ a && a < firstLead + leadCount && firstVowel ≤ b &&
      b < firstVowel + vowelCount then
    some (firstSyllable + ((a - firstLead) * vowelCount + (b - firstVowel)) * tailCount)
  else if firstSyllable ≤ a && a < firstSyllable + leadCount * vowelCount * tailCount &&
      (a - firstSyllable) % tailCount = 0 && firstTail < b && b < firstTail + tailCount then
    some (a + (b - firstTail))
  else none

/-! ### Characters -/

def pair? (a b : Nat) : Option Nat :=
  syllable? a b <|> ((composites.lookup b).bind fun pairs => pairs.lookup a)

def halves? (c : Nat) : Option (Nat × Nat) :=
  composites.findSome? fun (second, pairs) =>
    (pairs.find? fun pair => pair.2 = c).map fun pair => (pair.1, second)

def singleton? (c : Nat) : Option Nat :=
  singletons.findSome? fun (first, targets) => if c < first then none else targets[c - first]?

def depth : Nat := 4

def parts : Nat → Nat → List Nat
  | 0, c => [c]
  | steps + 1, c =>
      match halves? c with
      | some (first, second) => parts steps first ++ parts steps second
      | none => ((letters? c) <|> (singleton? c).map List.singleton <|> expansions.lookup c).getD [c]

/-! ### Texts -/

abbrev Classed := Nat × Nat

def classed (c : Nat) : Classed :=
  (c, combiningClass (Char.ofNat c))

/-- A text, the last character first, with one more; a mark goes before those of
higher classes. -/
def place (text : List Classed) (c : Classed) : List Classed :=
  match text with
  | [] => [c]
  | d :: rest => if 0 < c.2 && c.2 < d.2 then d :: place rest c else c :: d :: rest

def decompose (text : List Nat) : List Classed :=
  (((text.flatMap (parts depth)).map classed).foldl place []).reverse

/-- A text of which the end may still change. -/
structure Composition where
  /-- What does not change any more, the last character first. -/
  done : List Nat
  /-- The character that others are put together with. -/
  starter : Option Nat
  /-- The marks after it, the last one first. -/
  marks : List Classed

namespace Composition

def empty : Composition where
  done := []
  starter := none
  marks := []

def close (text : Composition) : List Nat :=
  text.marks.map Prod.fst ++ text.starter.toList ++ text.done

/-- Holds of a character that no other one keeps from the starter. -/
def reaches (text : Composition) (c : Classed) : Bool :=
  match text.marks with
  | [] => true
  | mark :: _ => mark.2 < c.2

def add (text : Composition) (c : Classed) : Composition :=
  let whole := if text.reaches c then text.starter.bind fun starter => pair? starter c.1 else none
  match whole with
  | some whole => { text with starter := some whole }
  | none =>
      if c.2 = 0 then { done := text.close, starter := some c.1, marks := [] }
      else { text with marks := c :: text.marks }

end Composition

def normal (text : List Char) : List Char :=
  let composed := (decompose (text.map Char.toNat)).foldl Composition.add Composition.empty
  composed.close.reverse.map Char.ofNat

end PolicyReplica.Text
