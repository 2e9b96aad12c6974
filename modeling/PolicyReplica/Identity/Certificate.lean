import PolicyReplica.Identity.Der

/-
Certificates, as far as they tell a public key.

Names, times and signatures do not count here. Extensions do: one that has to be
understood makes a certificate useless if it is not known.
-/

namespace PolicyReplica

structure Extension where
  identifier : Der.Bytes
  isCritical : Bool
  value : Der.Bytes
  deriving DecidableEq, Repr

namespace Extension

/-- Whether an extension is critical, which it is if it says so, and what follows. -/
def critical? (bytes : Der.Bytes) : Option (Bool × Der.Bytes) :=
  if bytes.head? = some Der.booleanTag then
    match Der.take? Der.booleanTag bytes with
    | some ([0xff], rest) => some (true, rest)
    | some ([0x00], rest) => some (false, rest)
    | _ => none
  else some (false, bytes)

def read? (bytes : Der.Bytes) : Option Extension := do
  let (identifier, rest) ← Der.take? Der.identifierTag bytes
  let (isCritical, rest) ← critical? rest
  let value ← Der.only? Der.octetsTag rest
  pure { identifier, isCritical, value }

/-- The number of the uses of a key, the only known extension that is a row of
bits. -/
def keyUsage : UInt8 := 15

/-- The numbers of the other known extensions: other names, constraints, constraints of
names, places of revocations, and extended uses of a key. -/
def knownSequences : List UInt8 :=
  [17, 19, 30, 31, 37]

def number? (extension : Extension) : Option UInt8 :=
  match extension.identifier with
  | [0x55, 0x1d, number] =>
      if number = keyUsage || knownSequences.contains number then some number else none
  | _ => none

/-- Holds when every known extension comes once and has its form, and none of the
others is critical. The numbers of those that came before are given. -/
def areSound : List UInt8 → List Extension → Bool
  | _, [] => true
  | seen, extension :: rest =>
      match extension.number? with
      | none => !extension.isCritical && areSound seen rest
      | some number =>
          !seen.contains number &&
            (number = keyUsage || (Der.only? Der.sequenceTag extension.value).isSome) &&
            areSound (number :: seen) rest

def readAll? (bytes : Der.Bytes) : Option (List Extension) := do
  let items ← Der.every? Der.sequenceTag (← Der.only? Der.sequenceTag bytes)
  items.mapM read?

end Extension

namespace Certificate

def sizeLimit : Nat := 0xffff

/-- The public key and its kind in the signed part of a certificate of the third
version; the signature has to be of the kind that is given. -/
def signedInfo? (signature bytes : Der.Bytes) : Option Der.Bytes := do
  let (version, rest) ← Der.take? (Der.fieldTag 0) bytes
  let (_, rest) ← Der.take? Der.integerTag rest
  let (kind, rest) ← Der.take? Der.sequenceTag rest
  let (_, rest) ← Der.take? Der.sequenceTag rest
  let (_, rest) ← Der.take? Der.sequenceTag rest
  let (_, rest) ← Der.take? Der.sequenceTag rest
  let (info, rest) ← Der.take? Der.sequenceTag rest
  let extensions ←
    if rest.isEmpty then pure []
    else Extension.readAll? (← Der.only? (Der.fieldTag 3) rest)
  if Der.natural? version = some (2, []) && kind = signature && Extension.areSound [] extensions
  then pure info
  else none

def publicInfo? (bytes : Der.Bytes) : Option Der.Bytes := do
  let content ← Der.only? Der.sequenceTag bytes
  let (signed, rest) ← Der.take? Der.sequenceTag content
  let (kind, rest) ← Der.take? Der.sequenceTag rest
  let (_, rest) ← Der.bits? rest
  if rest.isEmpty && content.length < sizeLimit then signedInfo? kind signed else none

end Certificate

end PolicyReplica
