import PolicyReplica.Domain.Delegation
import PolicyReplica.Replica.Basic
import PolicyReplica.Table
import PolicyReplica.Text.Order

/-
The index of replicas, by name and by trust target.

A trust target is a domain that some replica has a role trust. The second index
maps each target to the replicas that trust it and drops a target with its last
replica; a third one remembers every target there ever was.
-/

namespace PolicyReplica

structure DomainIndex where
  domains : Table String Replica
  byTrust : Table String (List String)
  seenTrust : List String

structure NotIndexed where
  domain : String
  deriving DecidableEq, Repr

def NotIndexed.message (fault : NotIndexed) : String :=
  "domain " ++ fault.domain ++ " is not mirrored"

namespace DomainIndex

def empty : DomainIndex :=
  { domains := .empty, byTrust := .empty, seenTrust := [] }

def link (name : String) (byTrust : Table String (List String)) (target : String) :
    Table String (List String) :=
  byTrust.insert target (((byTrust.get? target).getD []).insert name)

def unlink (name : String) (byTrust : Table String (List String)) (target : String) :
    Table String (List String) :=
  match byTrust.get? target with
  | none => byTrust
  | some delegators =>
      match delegators.erase name with
      | [] => byTrust.erase target
      | remaining => byTrust.insert target remaining

/-- The index with a replica in place of the one of the same name, and that one. -/
def apply (index : DomainIndex) (replica : Replica) : Option Replica × DomainIndex :=
  let name := replica.name
  let targets := replica.trustDomains
  let prior := index.domains.get? name
  let dropped := ((prior.map Replica.trustDomains).getD []).filter (!targets.contains ·)
  (prior,
    { domains := index.domains.insert name replica
      byTrust := dropped.foldl (unlink name) (targets.foldl (link name) index.byTrust)
      seenTrust := targets.foldl (fun seen target => seen.insert target) index.seenTrust })

def delete (index : DomainIndex) (name : String) : Option Replica × DomainIndex :=
  match index.domains.get? name with
  | none => (none, index)
  | some prior =>
      (some prior,
        { index with
          domains := index.domains.erase name
          byTrust := prior.trustDomains.foldl (unlink name) index.byTrust })

def get? (index : DomainIndex) (name : String) : Option Replica :=
  index.domains.get? name

def contains (index : DomainIndex) (name : String) : Bool :=
  index.domains.contains name

def size (index : DomainIndex) : Nat :=
  index.domains.size

def isEmpty (index : DomainIndex) : Bool :=
  index.domains.isEmpty

/-- Holds of a domain that some replica trusts now. -/
def isTrustTarget (index : DomainIndex) (name : String) : Bool :=
  index.byTrust.contains name

def delegators (index : DomainIndex) (target : String) : List String :=
  Text.sorted ((index.byTrust.get? target).getD [])

/-- Every domain that was ever trusted, in order. -/
def trustTargets (index : DomainIndex) : List String :=
  Text.sorted index.seenTrust

def liveTrustTargets (index : DomainIndex) : Nat :=
  index.byTrust.size

/-- The time of the latest change of any replica in whole seconds, or the empty
text when there is none or it is the start of 1970. -/
def latestCursor (index : DomainIndex) : String :=
  let changes := index.domains.values.map fun replica => replica.snapshot.domain.modified
  match Timestamp.latest? changes with
  | none => ""
  | some latest =>
      if latest = Timestamp.epoch then "" else String.ofList latest.writeSeconds

def resolveDelegatedMembers (index : DomainIndex) (trustDomain delegatedRole : String) :
    Except NotIndexed (List String) :=
  match index.domains.get? trustDomain with
  | none => .error ⟨trustDomain⟩
  | some replica => .ok (replica.snapshot.domain.delegatedMembers delegatedRole)

end DomainIndex

end PolicyReplica
