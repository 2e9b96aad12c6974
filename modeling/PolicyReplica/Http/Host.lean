import PolicyReplica.HostName.Basic
import PolicyReplica.Http.Percent

/-
Hosts of URLs: names and addresses.
-/

namespace PolicyReplica.Host

def forbidden : List Char :=
  ['\x00', '\t', '\n', '\r', ' ', '#', '/', ':', '<', '>', '?', '@', '[', '\\', ']', '^', '|']

def isForbiddenInName (c : Char) : Bool :=
  forbidden.contains c || c.toNat < 0x20 || c = '%' || c.toNat = 0x7f

/-- A number in decimal notation, in octal after a zero, or in hexadecimal after
0x; nothing denotes zero there. -/
def number? (text : List Char) : Option Nat :=
  let digits (base : Nat) (cs : List Char) : Option Nat :=
    cs.foldlM (fun value c => (Percent.hexValue? c).bind fun digit =>
      if digit < base then some (value * base + digit) else none) 0
  match text with
  | [] => none
  | '0' :: 'x' :: rest | '0' :: 'X' :: rest => digits 16 rest
  | ['0'] => some 0
  | '0' :: rest => digits 8 rest
  | other => digits 10 other

/-- The labels of a name; one dot at the end does not count. -/
def labels (text : List Char) : List (List Char) :=
  let parts := text.splitOn '.'
  match parts.reverse with
  | [] :: rest => if rest.isEmpty then parts else rest.reverse
  | _ => parts

/-- Holds of a name whose last label is a number, which has to be an address. -/
def endsInNumber (text : List Char) : Bool :=
  (labels text).getLast?.any fun last =>
    (!last.isEmpty && last.all Char.isDigit) || (number? last).isSome

/-- Holds of an address of four bytes, of which the last part may stand for
several. -/
def isAddress4 (text : List Char) : Bool :=
  match (labels text).mapM number? with
  | none => false
  | some numbers =>
      numbers.length ≤ 4 && numbers.dropLast.all (· ≤ 255) &&
        numbers.getLast?.any (· < Nat.pow 256 (5 - numbers.length))

def isDotted (text : List Char) : Bool :=
  let parts := text.splitOn '.'
  parts.length = 4 && parts.all fun part =>
    !part.isEmpty && part.all Char.isDigit && (part.length = 1 || part.head? ≠ some '0') &&
      (number? part).any (· ≤ 255)

def groups? (parts : List (List Char)) : Option Nat :=
  match parts.reverse with
  | [] => some 0
  | last :: before =>
      let isGroup (part : List Char) : Bool :=
        !part.isEmpty && part.length ≤ 4 && part.all fun c => (Percent.hexValue? c).isSome
      if !before.all isGroup then none
      else if isGroup last then some (before.length + 1)
      else if isDotted last then some (before.length + 2)
      else none

def splitDouble : List Char → List Char → List Char × Option (List Char)
  | before, ':' :: ':' :: rest => (before.reverse, some rest)
  | before, c :: rest => splitDouble (c :: before) rest
  | before, [] => (before.reverse, none)

def isAddress16 (text : List Char) : Bool :=
  let count (side : List Char) : Option Nat :=
    if side.isEmpty then some 0 else groups? (side.splitOn ':')
  match splitDouble [] text with
  | (whole, none) => count whole = some 8
  | (left, some right) =>
      match count left, count right with
      | some l, some r => l + r ≤ 7 && !left.contains '.'
      | _, _ => false

/-- The host that a text denotes. A special host is a name in its ASCII form, or an
address. -/
def parse? (isSpecial : Bool) (text : List Char) : Option String :=
  match text with
  | '[' :: rest =>
      if rest.getLast? = some ']' && isAddress16 rest.dropLast then some (String.ofList text)
      else none
  | _ =>
      if isSpecial then do
        let name ← HostName.ascii? isForbiddenInName (← Percent.decode? text)
        if name.isEmpty then none
        else if endsInNumber name && !isAddress4 name then none
        else some (String.ofList name)
      else if text.any forbidden.contains then none
      else some (String.ofList text)

end PolicyReplica.Host
