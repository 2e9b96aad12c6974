/-
Texts in ASCII: the encoding of RFC 3492.

The ASCII characters of a text come first, then a hyphen, then where the other
characters are, in ascending order. Each place is a number with digits of changing
weights.
-/

namespace PolicyReplica.HostName.Punycode

def base : Nat := 36

def leastThreshold : Nat := 1

def greatestThreshold : Nat := 26

def firstCharacter : Nat := 0x80

def firstBias : Nat := 72

/-- Numbers stay below this bound. -/
def limit : Nat := Nat.pow 2 32

/-- How often a number from which the weights are learned is divided, and what is
left of it. -/
def reduce (divisions delta : Nat) : Nat × Nat :=
  if delta ≤ 455 then (divisions, delta) else reduce (divisions + 1) (delta / 35)
termination_by delta

/-- The bias after a number for a text of a length; the first number is
exceptional. -/
def adapt (delta length : Nat) (isFirst : Bool) : Nat :=
  let delta := if isFirst then delta / 700 else delta / 2
  let (divisions, delta) := reduce 0 (delta + delta / length)
  base * divisions + 36 * delta / (delta + 38)

/-- The digit from which on a digit at a position is not the last one. -/
def threshold (position bias : Nat) : Nat :=
  max leastThreshold (min greatestThreshold (base * (position + 1) - bias))

/-! ### Reading -/

def digitValue? (c : Char) : Option Nat :=
  if 'a' ≤ c ∧ c ≤ 'z' then some (c.toNat - 'a'.toNat)
  else if '0' ≤ c ∧ c ≤ '9' then some (c.toNat - '0'.toNat + 26)
  else none

/-- A number from a position on, added to one before, and what follows it. -/
def number? (bias position weight value : Nat) : List Char → Option (Nat × List Char)
  | [] => none
  | c :: rest =>
      match digitValue? c with
      | none => none
      | some digit =>
          let value := value + digit * weight
          let least := threshold position bias
          if limit ≤ value then none
          else if digit < least then some (value, rest)
          else if limit ≤ weight * (base - least) then none
          else number? bias (position + 1) (weight * (base - least)) value rest

/-- The text in which the characters at the remaining places are put; their places
count from the end of the last one. The first argument is the most places there may
be. -/
def insert? : Nat → Nat → Nat → Nat → List Char → List Char → Option (List Char)
  | _, _, _, _, text, [] => some text
  | 0, _, _, _, _, _ :: _ => none
  | fuel + 1, character, place, bias, text, digits =>
      match number? bias 0 1 place digits with
      | none => none
      | some (sum, rest) =>
          let length := text.length + 1
          let character := character + sum / length
          let found := Char.ofNat character
          let place' := sum % length
          if found.toNat ≠ character then none
          else
            insert? fuel character (place' + 1) (adapt (sum - place) length (place = 0))
              (text.take place' ++ found :: text.drop place') rest

def decode? (text : List Char) : Option (List Char) :=
  let tail := (text.reverse.takeWhile (· ≠ '-')).reverse
  let plain := text.take (text.length - tail.length - 1)
  if plain.isEmpty then insert? text.length firstCharacter 0 firstBias [] text
  else insert? text.length firstCharacter 0 firstBias plain tail

/-! ### Writing -/

def digit (value : Nat) : Char :=
  if value < 26 then Char.ofNat ('a'.toNat + value) else Char.ofNat ('0'.toNat + (value - 26))

/-- The digits of a number from a position on; the first argument is the most digits
there may be. -/
def digits : Nat → Nat → Nat → Nat → List Char
  | 0, _, _, _ => []
  | fuel + 1, bias, position, value =>
      let least := threshold position bias
      if value < least then [digit value]
      else
        let step := base - least
        digit (least + (value - least) % step) ::
          digits fuel bias (position + 1) ((value - least) / step)

/-- What is written so far, and what the next place counts from. -/
structure Writing where
  /-- The digits, the last one first. -/
  written : List Char
  delta : Nat
  bias : Nat
  /-- How many characters have their place. -/
  placed : Nat
  /-- Whether no place was written. -/
  isFirst : Bool

/-- Goes past a character of the text when the places of another one are written. -/
def Writing.pass (character : Nat) (writing : Writing) (c : Char) : Writing :=
  if c.toNat < character then { writing with delta := writing.delta + 1 }
  else if c.toNat = character then
    { written := (digits 32 writing.bias 0 writing.delta).reverse ++ writing.written
      delta := 0
      bias := adapt writing.delta (writing.placed + 1) writing.isFirst
      placed := writing.placed + 1
      isFirst := false }
  else writing

/-- Writes the places of a character; those of all characters up to the last one are
written. -/
def Writing.write (text : List Char) (state : Writing × Nat) (character : Nat) : Writing × Nat :=
  let (writing, next) := state
  let delta := writing.delta + (character - next) * (writing.placed + 1)
  let writing := text.foldl (Writing.pass character) { writing with delta }
  ({ writing with delta := writing.delta + 1 }, character + 1)

def encode (text : List Char) : List Char :=
  let plain := text.filter (·.toNat < firstCharacter)
  let others := ((text.map Char.toNat).filter (firstCharacter ≤ ·)).mergeSort.eraseReps
  let start : Writing :=
    { written := [], delta := 0, bias := firstBias, placed := plain.length, isFirst := true }
  let (writing, _) := others.foldl (Writing.write text) (start, firstCharacter)
  plain ++ (if plain.isEmpty then [] else ['-']) ++ writing.written.reverse

end PolicyReplica.HostName.Punycode
