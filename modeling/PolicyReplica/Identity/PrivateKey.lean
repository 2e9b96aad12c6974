import PolicyReplica.Identity.Edwards
import PolicyReplica.Identity.Rsa
import PolicyReplica.Identity.Weierstrass

/-
Private keys, and what is public of them.
-/

namespace PolicyReplica

inductive KeyForm where
  /-- The numbers of a key that rests on factors. -/
  | factors
  /-- The secret of a curve and its public point. -/
  | curve
  /-- A key of any kind, with the name of its kind. -/
  | named
  deriving DecidableEq, Repr

structure PrivateKey where
  form : KeyForm
  bytes : Der.Bytes
  deriving DecidableEq, Repr

namespace PrivateKey

/-! ### Kinds -/

def factorsKind : Der.Bytes :=
  Der.wrap Der.identifierTag [0x2a, 0x86, 0x48, 0x86, 0xf7, 0x0d, 0x01, 0x01, 0x01] ++ [0x05, 0x00]

def curveName (curve : Weierstrass) : Der.Bytes :=
  Der.wrap Der.identifierTag curve.identifier

def curveKind (curve : Weierstrass) : Der.Bytes :=
  Der.wrap Der.identifierTag [0x2a, 0x86, 0x48, 0xce, 0x3d, 0x02, 0x01] ++ curveName curve

def edwardsKind : Der.Bytes :=
  Der.wrap Der.identifierTag [0x2b, 0x65, 0x70]

def publicInfo (kind key : Der.Bytes) : Der.Bytes :=
  Der.wrap Der.sequenceTag kind ++ Der.wrap Der.bitsTag (0 :: key)

/-! ### Readers -/

def publicField? (bytes : Der.Bytes) : Option Der.Bytes :=
  if bytes.head? = some (Der.fieldTag 1) then do
    let (content, rest) ← Der.bits? (← Der.only? (Der.fieldTag 1) bytes)
    if rest.isEmpty then pure content else none
  else (Der.only? (Der.plainFieldTag 1) bytes).bind Der.wholeBits?

/-- The secret in a key of that kind, and its public part in keys of the second
version. -/
def unwrap? (kind bytes : Der.Bytes) : Option (Der.Bytes × Option Der.Bytes) := do
  let (version, rest) ← Der.natural? (← Der.only? Der.sequenceTag bytes)
  let (found, rest) ← Der.take? Der.sequenceTag rest
  let (secret, rest) ← Der.take? Der.octetsTag rest
  let rest ← Der.skip? (Der.fieldTag 0) rest
  if found ≠ kind then none
  else if version = 0 && rest.isEmpty then pure (secret, none)
  else if version = 1 then pure (secret, some (← publicField? rest))
  else none

def unwrapSecret? (kind bytes : Der.Bytes) : Option Der.Bytes :=
  match unwrap? kind bytes with
  | some (secret, none) => some secret
  | _ => none

def factorsInfo? (bytes : Der.Bytes) : Option Der.Bytes := do
  let key ← Rsa.read? (← Der.only? Der.sequenceTag bytes)
  if key.isSound then pure (publicInfo factorsKind key.publicBytes) else none

def skipName? (curve : Weierstrass) (bytes : Der.Bytes) : Option Der.Bytes :=
  match Der.take? (Der.fieldTag 0) bytes with
  | some (name, rest) => if name = curveName curve then some rest else none
  | none => some bytes

/-- The public side of a secret of a curve; the public point has to be given, and to
be that of the secret. -/
def curveInfo? (curve : Weierstrass) (bytes : Der.Bytes) : Option Der.Bytes := do
  let (version, rest) ← Der.natural? (← Der.only? Der.sequenceTag bytes)
  let (secret, rest) ← Der.take? Der.octetsTag rest
  let rest ← skipName? curve rest
  let (point, rest) ← Der.bits? (← Der.only? (Der.fieldTag 1) rest)
  if version = 1 && rest.isEmpty && curve.publicPoint? secret = some point then
    pure (publicInfo (curveKind curve) point)
  else none

def edwardsInfo? (bytes : Der.Bytes) : Option Der.Bytes := do
  let (secret, given) ← unwrap? edwardsKind bytes
  let point ← Edwards.publicPoint? (← Der.only? Der.octetsTag secret)
  if given.all (· = point) then pure (publicInfo edwardsKind point) else none

def curves : List Weierstrass :=
  [Weierstrass.bits256, Weierstrass.bits384]

def publicInfo? (key : PrivateKey) : Option Der.Bytes :=
  match key.form with
  | .factors => factorsInfo? key.bytes
  | .curve => curves.findSome? fun curve => curveInfo? curve key.bytes
  | .named =>
      (unwrapSecret? factorsKind key.bytes).bind factorsInfo? <|>
        curves.findSome? (fun curve =>
          (unwrapSecret? (curveKind curve) key.bytes).bind (curveInfo? curve)) <|>
        edwardsInfo? key.bytes

end PrivateKey

end PolicyReplica
