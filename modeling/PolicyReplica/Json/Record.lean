import PolicyReplica.Json.Value
import PolicyReplica.Table

/-
Reading records out of JSON values.

A record is given as an object, or as the array of its fields in the order in
which they are declared. A declared field of an object may not be repeated, and
other fields are ignored. A field is required, or optional (null stands for
nothing), or has a default for when it is absent.
-/

namespace PolicyReplica.Json

/-- The values of the fields of one name in an object, which may hold it once. -/
def once? (name : String) (fields : List (String × Json)) : Option (Option Json) :=
  match fields.filter fun field => field.1 == name with
  | [] => some none
  | [(_, value)] => some (some value)
  | _ => none

/-- The declared fields of a record, each with its value if it is present. -/
def slots? (names : List String) : Json → Option (List (Option Json))
  | .object fields => names.mapM fun name => once? name fields
  | .array items =>
      if items.length ≤ names.length then
        some (items.map some ++ List.replicate (names.length - items.length) none)
      else none
  | _ => none

def required {α : Type} (decode : Json → Option α) : Option Json → Option α
  | some value => decode value
  | none => none

/-- A field that may be absent or null. -/
def optional {α : Type} (decode : Json → Option α) : Option Json → Option (Option α)
  | none => some none
  | some .null => some none
  | some value => (decode value).map some

def withDefault {α : Type} (absent : α) (decode : Json → Option α) : Option Json → Option α
  | none => some absent
  | some value => decode value

def text? : Json → Option String
  | .string text => some text
  | _ => none

def isNull : Json → Bool
  | .null => true
  | _ => false

def isNullOrEmpty : Json → Bool
  | .null => true
  | .object [] => true
  | _ => false

/-- The label of a case without content: a text, or an object whose only field has
the label as its name and a value that is void. -/
def label? (isVoid : Json → Bool) : Json → Option String
  | .string text => some text
  | .object [(name, content)] => if isVoid content then some name else none
  | _ => none

def bool? : Json → Option Bool
  | .bool value => some value
  | _ => none

def int64? : Json → Option Int64
  | .number (.integer n) =>
      if -9223372036854775808 ≤ n ∧ n < 9223372036854775808 then some (Int64.ofInt n) else none
  | _ => none

def natBelow? (bound : Nat) : Json → Option Nat
  | .number (.integer n) => if 0 ≤ n ∧ n < bound then some n.toNat else none
  | _ => none

def list? {α : Type} (decode : Json → Option α) : Json → Option (List α)
  | .array items => items.mapM decode
  | _ => none

/-- An object whose values all decode; of a repeated field the last one counts. -/
def map? {α : Type} (decode : Json → Option α) : Json → Option (Table String α)
  | .object fields =>
      (fields.mapM fun field => (decode field.2).map (field.1, ·)).map Table.ofEntries
  | _ => none

/-- An optional field of which the last occurrence counts and every one has to
decode. -/
def last? {α : Type} (name : String) (decode : Json → Option α)
    (fields : List (String × Json)) : Option (Option α) :=
  match (fields.filter fun field => field.1 == name).mapM
      fun field => optional decode (some field.2) with
  | some values => some (values.getLast?.getD none)
  | none => none

def present {α : Type} (name : String) (encode : α → Json) :
    Option α → List (String × Json)
  | some value => [(name, encode value)]
  | none => []

def ofTexts (table : Table String String) : Json :=
  .object (table.entries.map fun (key, text) => (key, .string text))

end PolicyReplica.Json
