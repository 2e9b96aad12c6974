import PolicyReplica.Domain.Codec
import PolicyReplica.Replica.Basic

/-
The JSON form of replicas.

A replica is written with its API version and kind, which are ignored when it is
read. The specification is the object of the snapshot, in which an effect may also
have an empty object as its content; whatever else is in it has to be sound and
may not be nested too deep, while fields outside of it are ignored whatever they
hold.
-/

namespace PolicyReplica

open Json

namespace Metadata

def toJson (metadata : Metadata) : Json :=
  .object
    (present "name" Json.string metadata.name ++
      present "generateName" Json.string metadata.generateName ++
      present "namespace" Json.string metadata.enclosing ++
      present "resourceVersion" Json.string metadata.version ++
      present "labels" ofTexts metadata.labels)

def ofJson? : Json → Option Metadata
  | .object fields => do
      pure
        { name := ← last? "name" text? fields
          generateName := ← last? "generateName" text? fields
          enclosing := ← last? "namespace" text? fields
          version := ← last? "resourceVersion" text? fields
          labels := ← last? "labels" (map? text?) fields }
  | _ => none

end Metadata

namespace ReplicaStatus

def toJson (status : ReplicaStatus) : Json :=
  .object (if status.message = "" then [] else [("message", .string status.message)])

def ofJson? (value : Json) : Option ReplicaStatus :=
  match slots? ["message"] value with
  | some [message] => do
      pure { message := ← withDefault "" text? message }
  | _ => none

end ReplicaStatus

namespace Replica

def apiVersion : String := "sync.policy.io/v1"

def kind : String := "PolicyDomain"

def toJson (replica : Replica) : Json :=
  .object
    ([("apiVersion", .string apiVersion), ("kind", .string kind),
      ("metadata", replica.metadata.toJson), ("spec", replica.snapshot.toJson)] ++
      present "status" ReplicaStatus.toJson replica.status)

def specification? : Json → Option Snapshot
  | .object fields =>
      if areSoundFields fields && (Json.object fields).depth < deepestNesting then
        Snapshot.ofJson? isNullOrEmpty (.object fields)
      else none
  | _ => none

/-- A replica given as an array has all three of its fields. -/
def isComplete : Json → Bool
  | .array items => items.length = 3
  | _ => true

def ofJson? (value : Json) : Option Replica :=
  match slots? ["metadata", "spec", "status"] value with
  | some [metadata, spec, status] =>
      if isComplete value then do
        pure
          { metadata := ← required Metadata.ofJson? metadata
            snapshot := ← required specification? spec
            status := ← optional ReplicaStatus.ofJson? status }
      else none
  | _ => none

def parse? (text : String) : Option Replica :=
  (Json.parse? text).bind ofJson?

end Replica

end PolicyReplica
