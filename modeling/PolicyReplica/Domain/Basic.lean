import PolicyReplica.Distinct
import PolicyReplica.Time.Timestamp

/-
Policy domains as the policy service publishes them.

A domain is a named set of roles and policies. A snapshot of it is signed as a
whole, and its policies are signed a second time; signatures are renewed without
any change of the contents, so contents are compared without them. A role may
hand the choice of its members to another domain, its trust.
-/

namespace PolicyReplica

inductive Effect where
  | allow
  | deny
  deriving DecidableEq, Repr

/-- A statement of a policy: a role may, or may not, take an action on the
resources that a pattern describes. -/
structure Assertion where
  role : String
  resource : String
  action : String
  effect : Option Effect
  id : Option Int64
  deriving DecidableEq

structure Policy where
  name : String
  modified : Option Timestamp
  assertions : List Assertion
  deriving DecidableEq

structure PolicyList where
  domain : String
  policies : List Policy
  deriving DecidableEq

structure SignedPolicies where
  contents : PolicyList
  signature : String
  keyId : String
  deriving DecidableEq

def SignedPolicies.empty : SignedPolicies :=
  { contents := { domain := "", policies := [] }, signature := "", keyId := "" }

structure RoleMember where
  memberName : String
  expiration : Option Timestamp
  deriving DecidableEq

structure Role where
  name : String
  modified : Option Timestamp
  members : Option (List String)
  roleMembers : Option (List RoleMember)
  trust : Option String
  deriving DecidableEq

structure Domain where
  name : String
  /-- Advances whenever anything in the domain changes. -/
  modified : Timestamp
  enabled : Option Bool
  roles : List Role
  policies : SignedPolicies
  deriving DecidableEq

structure Snapshot where
  domain : Domain
  signature : String
  keyId : String
  deriving DecidableEq

namespace Role

/-- The domain that chooses the members of the role; an empty name is none. -/
def trust? (role : Role) : Option String :=
  role.trust.filter (· ≠ "")

/-- The names of the members from both lists, the plain one first, each once. -/
def memberNames (role : Role) : List String :=
  distinct (role.members.getD [] ++ (role.roleMembers.getD []).map RoleMember.memberName)

end Role

namespace Snapshot

def name (snapshot : Snapshot) : String :=
  snapshot.domain.name

def withoutSignatures (snapshot : Snapshot) : Snapshot :=
  { domain :=
      { snapshot.domain with
        policies := { snapshot.domain.policies with signature := "", keyId := "" } }
    signature := ""
    keyId := "" }

def sameContent (left right : Snapshot) : Bool :=
  left.withoutSignatures = right.withoutSignatures

def trustDomains (snapshot : Snapshot) : List String :=
  snapshot.domain.roles.filterMap Role.trust?

end Snapshot

end PolicyReplica
