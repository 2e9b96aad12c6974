import PolicyReplica.Domain.Basic
import PolicyReplica.Table

/-
Replicas: the cluster's own copies of policy domains.

A replica holds the last snapshot that was accepted and, in its status, why the
last sync failed. The API server gives every stored object a version, and a
write that is based on another version is refused.
-/

namespace PolicyReplica

/-- What the API server keeps about an object, as far as it is used here. -/
structure Metadata where
  name : Option String
  /-- The start of the name that the server is asked to choose. -/
  generateName : Option String
  /-- The namespace that the object is in. -/
  enclosing : Option String
  /-- The version that the server gave to the object. -/
  version : Option String
  labels : Option (Table String String)
  deriving DecidableEq

def Metadata.empty : Metadata :=
  { name := none, generateName := none, enclosing := none, version := none, labels := none }

structure ReplicaStatus where
  /-- Why the last sync failed; empty after one that did not. -/
  message : String
  deriving DecidableEq

structure Replica where
  metadata : Metadata
  snapshot : Snapshot
  status : Option ReplicaStatus
  deriving DecidableEq

/-- The name of an object, or the start of it, or the empty text. -/
def Metadata.anyName (metadata : Metadata) : String :=
  metadata.name.getD (metadata.generateName.getD "")

namespace Replica

def ofSnapshot (snapshot : Snapshot) : Replica :=
  { metadata := { Metadata.empty with name := some snapshot.name }, snapshot, status := none }

def name (replica : Replica) : String :=
  replica.metadata.anyName

def version (replica : Replica) : Option String :=
  replica.metadata.version

def statusMessage (replica : Replica) : String :=
  (replica.status.map ReplicaStatus.message).getD ""

def trustDomains (replica : Replica) : List String :=
  replica.snapshot.trustDomains

end Replica

end PolicyReplica
