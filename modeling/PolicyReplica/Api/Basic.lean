import PolicyReplica.Replica.Basic

/-
Requests to the API server, and how they fail.
-/

namespace PolicyReplica

inductive StoreError where
  /-- The write was based on a version that is no longer current. -/
  | conflict (name : String)
  | alreadyExists (name : String)
  | notFound (name : String)
  /-- A snapshot of another domain cannot be stored under a name. -/
  | invalidSnapshot (name found : String)
  /-- Any other failure, with the code of the API server if it answered. -/
  | api (code : Option Nat)
  deriving DecidableEq, Repr

/-- The text of an error; that of other failures is not fixed here. -/
def StoreError.message? : StoreError → Option String
  | .conflict name => some (name ++ " was modified concurrently")
  | .alreadyExists name => some (name ++ " already exists")
  | .notFound name => some (name ++ " not found")
  | .invalidSnapshot name found =>
      some ("snapshot of " ++ found ++ " cannot be stored as " ++ name)
  | .api _ => none

structure ApiFault where
  code : Nat
  reason : String
  deriving DecidableEq, Repr

def ApiFault.alreadyExists : String := "AlreadyExists"

def ApiFault.meaning (fault : ApiFault) (name : String) : StoreError :=
  if fault.code = 409 then
    if fault.reason = ApiFault.alreadyExists then .alreadyExists name else .conflict name
  else if fault.code = 404 then .notFound name
  else .api (some fault.code)

inductive ApiRequest where
  | get (name : String)
  | create (replica : Replica)
  /-- Replaces the replica of that name, if its version is still current. -/
  | replace (replica : Replica)
  | setStatus (name message : String)
  /-- Deletes the replica, if there is one. -/
  | delete (name : String)
  deriving DecidableEq

namespace ApiRequest

abbrev Yield : ApiRequest → Type
  | .get _ => Option Replica
  | .create _ | .replace _ | .setStatus _ _ => Replica
  | .delete _ => Unit

abbrev Answer (request : ApiRequest) : Type :=
  Except StoreError request.Yield

def name : ApiRequest → String
  | .get name | .setStatus name _ | .delete name => name
  | .create replica | .replace replica => replica.name

end ApiRequest

class ApiBackend (σ : Type) where
  answer : (request : ApiRequest) → σ → request.Answer × σ

end PolicyReplica
