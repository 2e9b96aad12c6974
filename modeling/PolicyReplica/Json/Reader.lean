import PolicyReplica.Json.Value
import PolicyReplica.Text.Decimal

/-
The reader of JSON texts.

Each function takes the characters that are left and answers what it read with
the characters after it, or nothing when they do not start with what it reads.
Only blanks may surround the value of a text. The number of nested values is
bounded by the length of the text, which is where the fuel comes from.
-/

namespace PolicyReplica.Json

def isSpace (c : Char) : Bool :=
  c = ' ' || c = '\t' || c = '\n' || c = '\r'

def skipSpace (cs : List Char) : List Char :=
  cs.dropWhile isSpace

def hexValue? (c : Char) : Option Nat :=
  if c.isDigit then some (c.toNat - 48)
  else if 'a' ≤ c && c ≤ 'f' then some (c.toNat - 87)
  else if 'A' ≤ c && c ≤ 'F' then some (c.toNat - 55)
  else none

def readUnit : List Char → Option (Nat × List Char)
  | a :: b :: c :: d :: rest => do
      let a ← hexValue? a
      let b ← hexValue? b
      let c ← hexValue? c
      let d ← hexValue? d
      pure (((a * 16 + b) * 16 + c) * 16 + d, rest)
  | _ => none

/-- One element of a string literal: a character, or half of a surrogate pair. -/
inductive Element where
  | character (c : Char)
  | half

def readLowHalf : List Char → Option (Nat × List Char)
  | '\\' :: 'u' :: rest => do
      let (unit, rest) ← readUnit rest
      if 0xdc00 ≤ unit && unit ≤ 0xdfff then pure (unit, rest) else none
  | _ => none

def readEscape : List Char → Option (Element × List Char)
  | '"' :: rest => some (.character '"', rest)
  | '\\' :: rest => some (.character '\\', rest)
  | '/' :: rest => some (.character '/', rest)
  | 'b' :: rest => some (.character '\x08', rest)
  | 'f' :: rest => some (.character '\x0c', rest)
  | 'n' :: rest => some (.character '\n', rest)
  | 'r' :: rest => some (.character '\r', rest)
  | 't' :: rest => some (.character '\t', rest)
  | 'u' :: rest => do
      let (unit, rest) ← readUnit rest
      if 0xd800 ≤ unit && unit ≤ 0xdbff then
        match readLowHalf rest with
        | some (low, rest) =>
            let code := 0x10000 + (unit - 0xd800) * 0x400 + (low - 0xdc00)
            pure (.character (Char.ofNat code), rest)
        | none => pure (.half, rest)
      else if 0xdc00 ≤ unit && unit ≤ 0xdfff then pure (.half, rest)
      else pure (.character (Char.ofNat unit), rest)
  | _ => none

/-- The elements of a string literal up to its closing quote. Control characters
must be escaped. -/
def readElements : Nat → List Char → Option (List Element × List Char)
  | 0, _ => none
  | _, [] => none
  | _, '"' :: rest => some ([], rest)
  | fuel + 1, '\\' :: rest => do
      let (element, rest) ← readEscape rest
      let (elements, rest) ← readElements fuel rest
      pure (element :: elements, rest)
  | fuel + 1, c :: rest =>
      if c.toNat < 0x20 then none
      else do
        let (elements, rest) ← readElements fuel rest
        pure (.character c :: elements, rest)

/-- The text that the elements spell, unless there is a half among them. -/
def spell : List Element → Option (List Char)
  | [] => some []
  | .character c :: rest => (spell rest).map (c :: ·)
  | .half :: _ => none

def readString (cs : List Char) : Option (Option String × List Char) := do
  let (elements, rest) ← readElements (cs.length + 1) cs
  pure ((spell elements).map String.ofList, rest)

def readDigits (cs : List Char) : Option (List Char × List Char) :=
  match cs.takeWhile Char.isDigit with
  | [] => none
  | ds => some (ds, cs.dropWhile Char.isDigit)

/-- The digits before the point: a zero stands alone. -/
def readWhole : List Char → Option (List Char × List Char)
  | '0' :: rest =>
      match rest with
      | c :: _ => if c.isDigit then none else some (['0'], rest)
      | [] => some (['0'], [])
  | cs => readDigits cs

def readFraction : List Char → Option (Option (List Char) × List Char)
  | '.' :: rest => (readDigits rest).map fun (ds, rest) => (some ds, rest)
  | cs => some (none, cs)

def readExponent : List Char → Option (Option Int × List Char)
  | c :: rest =>
      if c = 'e' || c = 'E' then
        match rest with
        | '-' :: rest =>
            (readDigits rest).map fun (ds, rest) => (some (-(Text.digitsValue ds : Int)), rest)
        | '+' :: rest =>
            (readDigits rest).map fun (ds, rest) => (some (Text.digitsValue ds : Int), rest)
        | rest =>
            (readDigits rest).map fun (ds, rest) => (some (Text.digitsValue ds : Int), rest)
      else some (none, c :: rest)
  | [] => some (none, [])

/-- Appends decimal digits to a number as long as it fits 64 bits. The digits that
are left over are counted. -/
def appendDigits (n : Nat) : List Char → Nat × Nat
  | [] => (n, 0)
  | c :: rest =>
      let longer := 10 * n + (c.toNat - 48)
      if longer < Nat.pow 2 64 then appendDigits longer rest else (n, rest.length + 1)

/-- The decimal with the digits before and after the point. Left over digits before
the point count as zeros and those after it do not count. -/
def decimalOf (negative : Bool) (whole decimals : List Char) (exponent : Int) : Number :=
  let (start, zeros) := appendDigits 0 whole
  let (significand, ignored) := appendDigits start decimals
  .decimal negative significand (exponent + zeros - (decimals.length - ignored : Nat))

/-- The number that its written parts denote. A whole number is an integer when
it fits 64 bits, signed or unsigned; a negative zero does not. -/
def numberOf (negative : Bool) (whole : List Char) (fraction : Option (List Char))
    (exponent : Option Int) : Number :=
  match fraction, exponent with
  | none, none =>
      let n := Text.digitsValue whole
      if negative then
        if 0 < n && n ≤ Nat.pow 2 63 then .integer (-n) else decimalOf true whole [] 0
      else if n < Nat.pow 2 64 then .integer n else decimalOf false whole [] 0
  | _, _ => decimalOf negative whole (fraction.getD []) (exponent.getD 0)

def readNumber (cs : List Char) : Option (Number × List Char) := do
  let (negative, cs) := match cs with
    | '-' :: rest => (true, rest)
    | cs => (false, cs)
  let (whole, cs) ← readWhole cs
  let (fraction, cs) ← readFraction cs
  let (exponent, cs) ← readExponent cs
  pure (numberOf negative whole fraction exponent, cs)

def readWord (word : List Char) (cs : List Char) : Option (List Char) :=
  if word.isPrefixOf cs then some (cs.drop word.length) else none

mutual
def readValue : Nat → List Char → Option (Json × List Char)
  | 0, _ => none
  | fuel + 1, cs =>
      match skipSpace cs with
      | '{' :: rest =>
          match skipSpace rest with
          | '}' :: rest => some (.object [], rest)
          | rest =>
              (readFields fuel rest).map fun (fields, rest) =>
                ((fields.map object).getD .broken, rest)
      | '[' :: rest =>
          match skipSpace rest with
          | ']' :: rest => some (.array [], rest)
          | rest => (readItems fuel rest).map fun (items, rest) => (.array items, rest)
      | '"' :: rest =>
          (readString rest).map fun (text, rest) => ((text.map string).getD .broken, rest)
      | 't' :: rest => (readWord ['r', 'u', 'e'] rest).map fun rest => (.bool true, rest)
      | 'f' :: rest => (readWord ['a', 'l', 's', 'e'] rest).map fun rest => (.bool false, rest)
      | 'n' :: rest => (readWord ['u', 'l', 'l'] rest).map fun rest => (.null, rest)
      | rest => (readNumber rest).map fun (value, rest) => (.number value, rest)

def readItems : Nat → List Char → Option (List Json × List Char)
  | 0, _ => none
  | fuel + 1, cs => do
      let (item, rest) ← readValue fuel cs
      match skipSpace rest with
      | ',' :: rest => do
          let (items, rest) ← readItems fuel rest
          pure (item :: items, rest)
      | ']' :: rest => pure ([item], rest)
      | _ => none

/-- The fields of an object up to its closing brace, at least one; there are none
when a name denotes no text. -/
def readFields : Nat → List Char → Option (Option (List (String × Json)) × List Char)
  | 0, _ => none
  | fuel + 1, cs =>
      match skipSpace cs with
      | '"' :: rest => do
          let (name, rest) ← readString rest
          match skipSpace rest with
          | ':' :: rest => do
              let (value, rest) ← readValue fuel rest
              match skipSpace rest with
              | ',' :: rest => do
                  let (fields, rest) ← readFields fuel rest
                  pure ((do pure ((← name, value) :: (← fields))), rest)
              | '}' :: rest => pure (name.map fun name => [(name, value)], rest)
              | _ => none
          | _ => none
      | _ => none
end

def parse? (text : String) : Option Json :=
  let cs := text.toList
  match readValue (cs.length + 1) cs with
  | some (value, rest) => if skipSpace rest = [] then some value else none
  | none => none

end PolicyReplica.Json
