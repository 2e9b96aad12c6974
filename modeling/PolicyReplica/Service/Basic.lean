import PolicyReplica.Domain.Basic

/-
Answers of the policy service.
-/

namespace PolicyReplica

inductive ServiceError where
  | notFound
  | status (code : Nat) (message : String)
  | transport (message : String)
  deriving DecidableEq, Repr

namespace ServiceError

def message : ServiceError → String
  | .notFound => "domain not found"
  | .status code text => "policy service returned " ++ toString code ++ ": " ++ text
  | .transport text => "policy service request failed: " ++ text

def isNotFound : ServiceError → Bool
  | .notFound => true
  | .status code _ => code = 404
  | .transport _ => false

end ServiceError

structure ChangeList where
  /-- Snapshots of the changed domains, of which only the names count. -/
  domains : List Snapshot
  /-- Empty when nothing changed. -/
  cursor : String
  deriving DecidableEq

inductive FetchAnswer where
  /-- The service answered; there may be no such domain. -/
  | answered (snapshot : Option Snapshot)
  | failed (error : ServiceError)
  /-- The request broke off without an answer. -/
  | broken
  deriving DecidableEq

end PolicyReplica
