/-
Percent encoding of texts in URLs.
-/

namespace PolicyReplica.Percent

def hexDigit (value : Nat) : Char :=
  if value < 10 then Char.ofNat ('0'.toNat + value) else Char.ofNat ('A'.toNat + (value - 10))

def escapeByte (byte : UInt8) : List Char :=
  ['%', hexDigit (byte.toNat / 16), hexDigit (byte.toNat % 16)]

def escapeChar (c : Char) : List Char :=
  (String.singleton c).toUTF8.toList.flatMap escapeByte

def encode (keep : Char → Bool) (text : List Char) : List Char :=
  text.flatMap fun c => if keep c then [c] else escapeChar c

def isKeptInPath (c : Char) : Bool :=
  0x21 ≤ c.toNat && c.toNat ≤ 0x7e &&
    !(['"', '#', '<', '>', '?', '\x60', '\x7b', '\x7d', '^'].contains c)

def isKeptInForm (c : Char) : Bool :=
  c.isAlphanum || ['*', '-', '.', '_'].contains c

/-- A name or a value of a form; a space is a plus sign. -/
def encodeForm (text : String) : List Char :=
  text.toList.flatMap fun c =>
    if c = ' ' then ['+'] else if isKeptInForm c then [c] else escapeChar c

def query (fields : List (String × String)) : String :=
  String.ofList (['&'].intercalate (fields.map fun (name, value) =>
    encodeForm name ++ '=' :: encodeForm value))

def hexValue? (c : Char) : Option Nat :=
  if '0' ≤ c ∧ c ≤ '9' then some (c.toNat - '0'.toNat)
  else if 'a' ≤ c ∧ c ≤ 'f' then some (c.toNat - 'a'.toNat + 10)
  else if 'A' ≤ c ∧ c ≤ 'F' then some (c.toNat - 'A'.toNat + 10)
  else none

/-- The bytes of a text in which the escapes are undone; a percent sign that begins
no escape stands for itself. -/
def bytes : List Char → List UInt8
  | '%' :: high :: low :: rest =>
      match hexValue? high, hexValue? low with
      | some h, some l => UInt8.ofNat (16 * h + l) :: bytes rest
      | _, _ => UInt8.ofNat '%'.toNat :: bytes (high :: low :: rest)
  | c :: rest => (String.singleton c).toUTF8.toList ++ bytes rest
  | [] => []

def decode? (text : List Char) : Option (List Char) :=
  (String.fromUTF8? ⟨(bytes text).toArray⟩).map String.toList

end PolicyReplica.Percent
