/-
Elements of binary structures.

An element is a tag, the number of the bytes of its content, and the content. Tags
take one byte and numbers at most three, in the shortest form. A reader takes an
element from the start of a row of bytes and returns what follows it, too.
-/

namespace PolicyReplica.Der

abbrev Bytes := List UInt8

/-! ### Tags -/

def booleanTag : UInt8 := 0x01

def integerTag : UInt8 := 0x02

def bitsTag : UInt8 := 0x03

def octetsTag : UInt8 := 0x04

def identifierTag : UInt8 := 0x06

def sequenceTag : UInt8 := 0x30

/-- The tag of a field that is known by its number and has elements as its content. -/
def fieldTag (number : UInt8) : UInt8 :=
  0xa0 + number

/-- The tag of a field that is known by its number and has no elements in it. -/
def plainFieldTag (number : UInt8) : UInt8 :=
  0x80 + number

/-! ### Numbers -/

/-- The number that bytes denote, the most significant one first. -/
def number (bytes : Bytes) : Nat :=
  bytes.foldl (fun value byte => 256 * value + byte.toNat) 0

def digits : Nat → Nat → Bytes
  | 0, _ => []
  | count + 1, value => digits count (value / 256) ++ [UInt8.ofNat value]

/-! ### Elements -/

/-- The size of a content, and what follows it. A size from 128 comes after a byte
that counts its bytes. -/
def size? : Bytes → Option (Nat × Bytes)
  | [] => none
  | first :: rest =>
      if first < 0x80 then some (first.toNat, rest)
      else
        match rest with
        | low :: after =>
            if first = 0x81 then if low < 0x80 then none else some (low.toNat, after)
            else
              match after with
              | lower :: after =>
                  if first = 0x82 && low ≠ 0 then some (number [low, lower], after) else none
              | [] => none
        | [] => none

def first? : Bytes → Option (UInt8 × Bytes × Bytes)
  | [] => none
  | tag :: rest =>
      if tag % 0x20 = 0x1f then none
      else
        (size? rest).bind fun (size, after) =>
          if after.length < size then none else some (tag, after.take size, after.drop size)

def take? (tag : UInt8) (bytes : Bytes) : Option (Bytes × Bytes) :=
  (first? bytes).bind fun (found, content, rest) => if found = tag then some (content, rest) else none

def only? (tag : UInt8) (bytes : Bytes) : Option Bytes :=
  (take? tag bytes).bind fun (content, rest) => if rest.isEmpty then some content else none

theorem length_size?_le {bytes rest : Bytes} {size : Nat}
    (found : size? bytes = some (size, rest)) : rest.length ≤ bytes.length := by
  unfold size? at found
  grind

theorem length_first?_lt {bytes content rest : Bytes} {tag : UInt8}
    (found : first? bytes = some (tag, content, rest)) : rest.length < bytes.length := by
  match bytes with
  | [] => simp [first?] at found
  | head :: tail =>
      rw [first?] at found
      split at found
      · simp at found
      · obtain ⟨⟨size, after⟩, read, taken⟩ := Option.bind_eq_some_iff.1 found
        have := length_size?_le read
        grind [List.length_drop]

theorem length_take?_lt {tag : UInt8} {bytes content rest : Bytes}
    (found : take? tag bytes = some (content, rest)) : rest.length < bytes.length := by
  obtain ⟨⟨head, inner, after⟩, read, same⟩ := Option.bind_eq_some_iff.1 found
  have := length_first?_lt read
  grind

def every? (tag : UInt8) (bytes : Bytes) : Option (List Bytes) :=
  if bytes.isEmpty then some []
  else
    match _found : take? tag bytes with
    | none => none
    | some (content, rest) => (every? tag rest).map (content :: ·)
termination_by bytes.length
decreasing_by exact length_take?_lt (by assumption)

/-- What follows the first element if it has that tag, and all of it otherwise. -/
def skip? (tag : UInt8) (bytes : Bytes) : Option Bytes :=
  if bytes.head? = some tag then (take? tag bytes).map Prod.snd else some bytes

/-- A number that is not negative, in the fewest bytes, and what follows it. -/
def natural? (bytes : Bytes) : Option (Nat × Bytes) :=
  (take? integerTag bytes).bind fun (content, rest) =>
    match content with
    | [] => none
    | [single] => if single < 0x80 then some (single.toNat, rest) else none
    | first :: second :: _ =>
        if first < 0x80 && (first ≠ 0 || 0x80 ≤ second) then some (number content, rest) else none

/-- The bytes of a row of bits that fills them. -/
def wholeBits? : Bytes → Option Bytes
  | 0 :: bytes => some bytes
  | _ => none

def bits? (bytes : Bytes) : Option (Bytes × Bytes) :=
  (take? bitsTag bytes).bind fun (content, rest) => (wholeBits? content).map (·, rest)

def wrap (tag : UInt8) (content : Bytes) : Bytes :=
  let size := content.length
  let sizeBytes :=
    if size < 0x80 then digits 1 size
    else if size < 0x100 then 0x81 :: digits 1 size
    else 0x82 :: digits 2 size
  tag :: sizeBytes ++ content

def wrapNatural (value : Nat) : Bytes :=
  wrap integerTag (digits (Nat.log2 value / 8 + 1 + if Nat.log2 value % 8 = 7 then 1 else 0) value)

end PolicyReplica.Der
