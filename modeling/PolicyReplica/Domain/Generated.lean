import PolicyReplica.Domain.Basic

/-
Roles and policies that the policy service generates for microsegmentation.

They only concern the network and can be most of a large domain. Generated rules
are told by their names: the name of the domain, followed by one of a few fixed
texts.
-/

namespace PolicyReplica.Domain

def generatedRoleMarks : List String :=
  [":role.acl.", ":role.msd-read-role-"]

def generatedPolicyMarks : List String :=
  [":policy.acl.", ":policy.msd-read-policy-"]

def isGenerated (domainName : String) (marks : List String) (name : String) : Bool :=
  marks.any fun mark => (domainName.toList ++ mark.toList).isPrefixOf name.toList

def withoutGeneratedRules (domain : Domain) : Domain :=
  { domain with
    roles := domain.roles.filter fun role =>
      !isGenerated domain.name generatedRoleMarks role.name
    policies :=
      { domain.policies with
        contents :=
          { domain.policies.contents with
            policies := domain.policies.contents.policies.filter fun policy =>
              !isGenerated domain.name generatedPolicyMarks policy.name } } }

end PolicyReplica.Domain

def PolicyReplica.Snapshot.withoutGeneratedRules
    (snapshot : PolicyReplica.Snapshot) : PolicyReplica.Snapshot :=
  { snapshot with domain := snapshot.domain.withoutGeneratedRules }
