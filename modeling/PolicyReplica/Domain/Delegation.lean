import PolicyReplica.Domain.Basic
import PolicyReplica.Domain.Wildcard

/-
Members of delegated roles.

A role that trusts a domain has the members that this domain grants to it: the
domain names the role, by a pattern, in an assertion with the action assume_role
and thereby gives it the members of one of its own roles. Trust is followed one
step only, so a granting role that itself trusts another domain gives nobody.
-/

namespace PolicyReplica

def assumeRole : String := "assume_role"

namespace Domain

def findRole? (domain : Domain) (name : String) : Option Role :=
  domain.roles.find? fun role => role.name = name

def assertions (domain : Domain) : List Assertion :=
  domain.policies.contents.policies.flatMap Policy.assertions

def grants (assertion : Assertion) (delegatedRole : String) : Bool :=
  assertion.action = assumeRole && assertion.effect ≠ some .deny &&
    Wildcard.isMatch assertion.resource delegatedRole

/-- The members that a grant gives: those of the granting role, unless it trusts
another domain. -/
def grantedMembers (domain : Domain) (assertion : Assertion) : List String :=
  match domain.findRole? assertion.role with
  | none => []
  | some role => if role.trust?.isSome then [] else role.memberNames

/-- The members that the domain gives to a role of another domain, each once, in
the order of the grants. -/
def delegatedMembers (domain : Domain) (delegatedRole : String) : List String :=
  distinct
    ((domain.assertions.filter (grants · delegatedRole)).flatMap domain.grantedMembers)

end Domain

end PolicyReplica
