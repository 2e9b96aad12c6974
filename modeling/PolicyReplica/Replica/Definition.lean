import PolicyReplica.Replica.Codec

/-
The definition by which a cluster learns the kind of object that replicas are.
-/

namespace PolicyReplica

structure ResourceNames where
  kind : String
  plural : String
  singular : String
  shortNames : List String
  categories : List String
  deriving DecidableEq, Repr

structure ResourceVersion where
  name : String
  served : Bool
  storage : Bool
  /-- Whether the status is written apart from the rest. -/
  hasStatus : Bool
  deriving DecidableEq, Repr

structure ResourceDefinition where
  group : String
  /-- Cluster, when objects are not in namespaces. -/
  scope : String
  names : ResourceNames
  versions : List ResourceVersion
  deriving DecidableEq, Repr

def ResourceDefinition.name (definition : ResourceDefinition) : String :=
  definition.names.plural ++ "." ++ definition.group

def Replica.definition : ResourceDefinition :=
  { group := "sync.policy.io"
    scope := "Cluster"
    names :=
      { kind := Replica.kind
        plural := "policydomains"
        singular := "policydomain"
        shortNames := ["pdom"]
        categories := [] }
    versions := [{ name := "v1", served := true, storage := true, hasStatus := true }] }

end PolicyReplica
