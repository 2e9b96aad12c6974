import PolicyReplica.Identity.Certificate
import PolicyReplica.Identity.Pem

/-
The identity of a client: certificates and the private key for the first of them.
-/

namespace PolicyReplica

structure Identity where
  key : PrivateKey
  /-- The certificate of the client. -/
  certificate : Der.Bytes
  /-- The certificates of those that vouch for it. -/
  others : List Der.Bytes
  deriving DecidableEq, Repr

namespace Identity

/-- The identity in a PEM text: its certificates and the last of its keys. -/
def read? (bytes : Der.Bytes) : Option Identity := do
  let items ← Pem.read? bytes
  let certificates := items.filterMap fun
    | .certificate bytes => some bytes
    | _ => none
  let keys := items.filterMap fun
    | .key key => some key
    | _ => none
  match certificates, keys.getLast? with
  | certificate :: others, some key =>
      if items.contains .other then none else pure { key, certificate, others }
  | _, _ => none

/-- Holds of an identity with a sound key that is the one of the certificate. -/
def isSound (identity : Identity) : Bool :=
  match identity.key.publicInfo? with
  | none => false
  | some info => Certificate.publicInfo? identity.certificate = some info

end Identity

end PolicyReplica
