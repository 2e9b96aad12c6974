import PolicyReplica.Binary64

/-
JSON values as they are read from a text.

A value keeps what the text says before any meaning is given to it: object
fields stay in order and a repeated field stays repeated, because whether a
repetition is an error depends on who reads the object. A number is an integer
only if it is written as one and fits a machine word; all other numbers are kept
as decimals whose significand fits a machine word.
-/

namespace PolicyReplica

inductive Json.Number where
  /-- An integer of at most 64 bits, written without fraction or exponent. -/
  | integer (value : Int)
  /-- Any other number: the significand times a power of ten, with its sign. -/
  | decimal (negative : Bool) (significand : Nat) (exponent : Int)
  deriving DecidableEq, Repr

inductive Json where
  | null
  | bool (value : Bool)
  | number (value : Json.Number)
  | string (value : String)
  /-- A string literal with half of a surrogate pair in it, which denotes no text,
  or an object with such a name. -/
  | broken
  | array (items : List Json)
  /-- The fields in the order of the text, repetitions included. -/
  | object (fields : List (String × Json))
  deriving Repr, Inhabited

namespace Json

def int (n : Int) : Json :=
  .number (.integer n)

def nat (n : Nat) : Json :=
  .int n

def ofText? (text : Option String) : Json :=
  (text.map string).getD .null

def texts (items : List String) : Json :=
  .array (items.map string)

/-- The value of the last field of that name; a field given again replaces the
one before it. -/
def lookup? (name : String) (fields : List (String × Json)) : Option Json :=
  (fields.reverse.find? fun field => field.1 == name).map Prod.snd

def field? (name : String) : Json → Option Json
  | .object fields => lookup? name fields
  | _ => none

mutual
def depth : Json → Nat
  | .array items => depthOfItems items + 1
  | .object fields => depthOfFields fields + 1
  | _ => 0

def depthOfItems : List Json → Nat
  | [] => 0
  | item :: rest => max item.depth (depthOfItems rest)

def depthOfFields : List (String × Json) → Nat
  | [] => 0
  | (_, value) :: rest => max value.depth (depthOfFields rest)
end

def Number.largestExponent : Nat := 308

/-- Holds of a number that binary64 can hold. The significand and the power of ten
are each rounded, and so is their product; a negative exponent only makes the
number smaller. -/
def Number.isFinite : Number → Bool
  | .integer _ => true
  | .decimal _ significand exponent =>
      significand = 0 || exponent < 0 ||
        (exponent ≤ largestExponent &&
          (Binary64.ofNat (Nat.pow 10 exponent.toNat)).scale (Binary64.ofNat significand) ≠
            .infinite)

mutual
/-- Holds of a value in which every string denotes a text and every number is
finite. -/
def isSound : Json → Bool
  | .broken => false
  | .number value => value.isFinite
  | .array items => areSoundItems items
  | .object fields => areSoundFields fields
  | _ => true

def areSoundItems : List Json → Bool
  | [] => true
  | item :: rest => item.isSound && areSoundItems rest

def areSoundFields : List (String × Json) → Bool
  | [] => true
  | (_, value) :: rest => value.isSound && areSoundFields rest
end

def deepestNesting : Nat := 127

def isKeepable (value : Json) : Bool :=
  value.isSound && value.depth ≤ deepestNesting

mutual
/-- The value in which each object has only the last field of a name. -/
def lastWins : Json → Json
  | .array items => .array (lastWinsItems items)
  | .object fields => .object (lastWinsFields fields)
  | other => other

def lastWinsItems : List Json → List Json
  | [] => []
  | item :: rest => item.lastWins :: lastWinsItems rest

def lastWinsFields : List (String × Json) → List (String × Json)
  | [] => []
  | (name, value) :: rest =>
      if rest.any fun field => field.1 == name then lastWinsFields rest
      else (name, value.lastWins) :: lastWinsFields rest
end

end Json

end PolicyReplica
