import PolicyReplica.Domain.Generated
import PolicyReplica.Proofs.Domain.Delegation

/-
What is left of a domain without its generated rules.

A rule is left out for its name alone, so all roles of a name go together, and the first one of
a name that is kept stays the first. Main statement: leaving out the generated rules takes
members from delegated roles and never adds any. It takes none if no policy that goes grants
membership, and none that stays grants it through a role that goes.
-/

namespace PolicyReplica

namespace Domain

def Marked (domainName : String) (marks : List String) (name : String) : Prop :=
  ∃ mark ∈ marks, ∃ rest, name = domainName ++ mark ++ rest

theorem isGenerated_iff (domainName : String) (marks : List String) (name : String) :
    isGenerated domainName marks name = true ↔ Marked domainName marks name := by
  unfold isGenerated Marked
  rw [List.any_eq_true]
  refine exists_congr fun mark => and_congr_right fun _ => ?_
  rw [List.isPrefixOf_iff_prefix]
  constructor
  · rintro ⟨rest, split⟩
    refine ⟨String.ofList rest, String.toList_inj.mp ?_⟩
    rw [String.toList_append, String.toList_append, String.toList_ofList, split]
  · rintro ⟨rest, rfl⟩
    exact ⟨rest.toList, by rw [String.toList_append, String.toList_append]⟩

def GeneratedRole (domain : Domain) (role : Role) : Prop :=
  Marked domain.name [":role.acl.", ":role.msd-read-role-"] role.name

def GeneratedPolicy (domain : Domain) (policy : Policy) : Prop :=
  Marked domain.name [":policy.acl.", ":policy.msd-read-policy-"] policy.name

instance (domain : Domain) : DecidablePred domain.GeneratedRole := fun role =>
  decidable_of_iff _ (isGenerated_iff domain.name generatedRoleMarks role.name)

instance (domain : Domain) : DecidablePred domain.GeneratedPolicy := fun policy =>
  decidable_of_iff _ (isGenerated_iff domain.name generatedPolicyMarks policy.name)

variable (domain : Domain)

theorem withoutGeneratedRules_roles :
    domain.withoutGeneratedRules.roles = domain.roles.filter (¬ domain.GeneratedRole ·) := by
  refine List.filter_congr fun role _ => Bool.eq_iff_iff.mpr ?_
  rw [decide_eq_true_iff, Bool.not_eq_true', Bool.eq_false_iff]
  exact not_congr (isGenerated_iff domain.name generatedRoleMarks role.name)

theorem withoutGeneratedRules_policies :
    domain.withoutGeneratedRules.policies.contents.policies =
      domain.policies.contents.policies.filter (¬ domain.GeneratedPolicy ·) := by
  refine List.filter_congr fun policy _ => Bool.eq_iff_iff.mpr ?_
  rw [decide_eq_true_iff, Bool.not_eq_true', Bool.eq_false_iff]
  exact not_congr (isGenerated_iff domain.name generatedPolicyMarks policy.name)

theorem mem_withoutGeneratedRules_roles {role : Role} :
    role ∈ domain.withoutGeneratedRules.roles ↔
      role ∈ domain.roles ∧ ¬ domain.GeneratedRole role := by
  rw [withoutGeneratedRules_roles, List.mem_filter, decide_eq_true_iff]

theorem mem_withoutGeneratedRules_policies {policy : Policy} :
    policy ∈ domain.withoutGeneratedRules.policies.contents.policies ↔
      policy ∈ domain.policies.contents.policies ∧ ¬ domain.GeneratedPolicy policy := by
  rw [withoutGeneratedRules_policies, List.mem_filter, decide_eq_true_iff]

theorem withoutGeneratedRules_idempotent :
    domain.withoutGeneratedRules.withoutGeneratedRules = domain.withoutGeneratedRules := by
  unfold withoutGeneratedRules
  simp only [List.filter_filter, Bool.and_self]

/-! ### Grants -/

instance (assertion : Assertion) (delegatedRole : String) :
    Decidable (Grants assertion delegatedRole) :=
  decidable_of_iff _ (grants_iff assertion delegatedRole)

/-- A name that is kept leads to the same role as before, any other one to no role. -/
theorem findRole?_withoutGeneratedRules (name : String) :
    domain.withoutGeneratedRules.findRole? name =
      if isGenerated domain.name generatedRoleMarks name then none
      else domain.findRole? name := by
  unfold findRole? withoutGeneratedRules
  rw [List.find?_filter]
  by_cases gone : isGenerated domain.name generatedRoleMarks name = true
  · rw [if_pos gone, List.find?_eq_none]
    intro role _ found
    obtain ⟨kept, named⟩ := of_decide_eq_true found
    rw [of_decide_eq_true named, gone] at kept
    cases kept
  · rw [if_neg gone]
    congr 1
    funext role
    by_cases named : role.name = name
    · simp [named, gone]
    · simp [named]

theorem offered_withoutGeneratedRules (delegatedRole : String) (assertion : Assertion) :
    domain.withoutGeneratedRules.offered delegatedRole assertion =
      if isGenerated domain.name generatedRoleMarks assertion.role then []
      else domain.offered delegatedRole assertion := by
  unfold offered
  rw [findRole?_withoutGeneratedRules]
  by_cases gone : isGenerated domain.name generatedRoleMarks assertion.role = true
  · rw [if_pos gone, if_pos gone, ite_self]
  · rw [if_neg gone, if_neg gone]

theorem mem_assertions {assertion : Assertion} :
    assertion ∈ domain.assertions ↔
      ∃ policy ∈ domain.policies.contents.policies, assertion ∈ policy.assertions :=
  List.mem_flatMap

theorem assertions_withoutGeneratedRules_subset :
    domain.withoutGeneratedRules.assertions ⊆ domain.assertions := by
  intro assertion member
  obtain ⟨policy, kept, inPolicy⟩ := domain.withoutGeneratedRules.mem_assertions.mp member
  have inDomain := (domain.mem_withoutGeneratedRules_policies.mp kept).1
  exact domain.mem_assertions.mpr ⟨policy, inDomain, inPolicy⟩

theorem delegatedMembers_withoutGeneratedRules_subset (delegatedRole : String) :
    domain.withoutGeneratedRules.delegatedMembers delegatedRole ⊆
      domain.delegatedMembers delegatedRole := by
  intro member given
  rw [delegatedMembers_eq, mem_distinct, List.mem_flatMap] at given ⊢
  obtain ⟨assertion, present, offered⟩ := given
  refine ⟨assertion, domain.assertions_withoutGeneratedRules_subset present, ?_⟩
  rw [offered_withoutGeneratedRules] at offered
  split at offered
  · cases offered
  · exact offered

/-- What is left out of a list has no part in the result if it comes to nothing. -/
theorem flatMap_filter_of_nil {α β : Type} {items : List α} {keep : α → Bool}
    {parts : α → List β} (nothing : ∀ x ∈ items, keep x = false → parts x = []) :
    (items.filter keep).flatMap parts = items.flatMap parts := by
  induction items with
  | nil => rfl
  | cons x rest ih =>
      obtain ⟨here, later⟩ := List.forall_mem_cons.mp nothing
      rw [List.flatMap_cons, ← ih later]
      cases kept : keep x with
      | true => rw [List.filter_cons_of_pos kept, List.flatMap_cons]
      | false => rw [List.filter_cons_of_neg (by simp [kept]), here kept, List.nil_append]

theorem offered_of_not_grants {delegatedRole : String} {assertion : Assertion}
    (denied : ¬ Grants assertion delegatedRole) : domain.offered delegatedRole assertion = [] := by
  rw [← grants_iff] at denied
  exact if_neg denied

theorem offered_of_unnamed {delegatedRole : String} {assertion : Assertion}
    (unnamed : ∀ role ∈ domain.roles, role.name ≠ assertion.role) :
    domain.offered delegatedRole assertion = [] := by
  have missing : domain.findRole? assertion.role = none :=
    List.find?_eq_none.mpr fun role member => by simpa using unnamed role member
  unfold offered
  rw [missing, ite_self]

variable {domain} {delegatedRole : String}

/-- An assertion of a kept policy offers what it did, unless it grants membership through a
role that goes. -/
theorem offered_kept {assertion : Assertion}
    (through : Grants assertion delegatedRole → ∀ role ∈ domain.roles,
      role ∉ domain.withoutGeneratedRules.roles → assertion.role ≠ role.name) :
    domain.withoutGeneratedRules.offered delegatedRole assertion =
      domain.offered delegatedRole assertion := by
  rw [offered_withoutGeneratedRules]
  split
  case isFalse => rfl
  case isTrue gone =>
    by_cases granted : Grants assertion delegatedRole
    · refine (domain.offered_of_unnamed fun role member named => ?_).symm
      have left : role ∉ domain.withoutGeneratedRules.roles := by
        rw [mem_withoutGeneratedRules_roles, not_and_not_right]
        intro _
        rw [← named] at gone
        exact (isGenerated_iff domain.name generatedRoleMarks role.name).mp gone
      exact through granted role member left named.symm
    · exact (domain.offered_of_not_grants granted).symm

theorem delegatedMembers_withoutGeneratedRules_eq
    (removed : ∀ policy ∈ domain.policies.contents.policies,
      policy ∉ domain.withoutGeneratedRules.policies.contents.policies →
      ∀ assertion ∈ policy.assertions, ¬ Grants assertion delegatedRole)
    (kept : ∀ policy ∈ domain.withoutGeneratedRules.policies.contents.policies,
      ∀ assertion ∈ policy.assertions, Grants assertion delegatedRole →
        ∀ role ∈ domain.roles, role ∉ domain.withoutGeneratedRules.roles →
          assertion.role ≠ role.name) :
    domain.withoutGeneratedRules.delegatedMembers delegatedRole =
      domain.delegatedMembers delegatedRole := by
  rw [delegatedMembers_eq, delegatedMembers_eq]
  congr 1
  have same : ∀ assertion ∈ domain.withoutGeneratedRules.assertions,
      domain.withoutGeneratedRules.offered delegatedRole assertion =
        domain.offered delegatedRole assertion := by
    intro assertion member
    obtain ⟨policy, stays, inPolicy⟩ := domain.withoutGeneratedRules.mem_assertions.mp member
    exact offered_kept (kept policy stays assertion inPolicy)
  rw [List.flatMap_congr same, assertions, assertions, List.flatMap_assoc, List.flatMap_assoc,
    withoutGeneratedRules_policies]
  refine flatMap_filter_of_nil fun policy member gone => List.flatMap_eq_nil_iff.mpr ?_
  intro assertion inPolicy
  have left : policy ∉ domain.withoutGeneratedRules.policies.contents.policies := by
    rw [mem_withoutGeneratedRules_policies]
    exact fun stays => of_decide_eq_false gone stays.2
  exact domain.offered_of_not_grants (removed policy member left assertion inPolicy)

end Domain

/-- Signatures have no part in what is left out. -/
theorem Snapshot.sameContent_withoutGeneratedRules {left right : Snapshot}
    (same : left.sameContent right = true) :
    left.withoutGeneratedRules.sameContent right.withoutGeneratedRules = true :=
  decide_eq_true (congrArg Snapshot.withoutGeneratedRules (of_decide_eq_true same))

/-- Without its generated rules a domain gives nobody a membership that it did not give before.
The rules that go are those whose names have a mark, the others stay in order, and nothing
else changes. -/
theorem Domain.withoutGeneratedRules_narrows (domain : Domain) :
    let pruned := domain.withoutGeneratedRules
    (∀ delegatedRole, ∀ member ∈ pruned.delegatedMembers delegatedRole,
      member ∈ domain.delegatedMembers delegatedRole) ∧
    (∀ delegatedRole,
      (∀ policy ∈ domain.policies.contents.policies,
        policy ∉ pruned.policies.contents.policies →
        ∀ assertion ∈ policy.assertions, ¬ Grants assertion delegatedRole) →
      (∀ policy ∈ pruned.policies.contents.policies,
        ∀ assertion ∈ policy.assertions, Grants assertion delegatedRole →
          ∀ role ∈ domain.roles, role ∉ pruned.roles → assertion.role ≠ role.name) →
      pruned.delegatedMembers delegatedRole = domain.delegatedMembers delegatedRole) ∧
    pruned =
      { domain with
        roles := domain.roles.filter (¬ domain.GeneratedRole ·)
        policies :=
          { domain.policies with
            contents :=
              { domain.policies.contents with
                policies :=
                  domain.policies.contents.policies.filter (¬ domain.GeneratedPolicy ·) } } } ∧
    pruned.withoutGeneratedRules = pruned ∧
    ∀ left right : Snapshot, left.sameContent right = true →
      left.withoutGeneratedRules.sameContent right.withoutGeneratedRules = true := by
  refine ⟨?_, ?_, ?_, ?_, ?_⟩
  · exact fun delegatedRole member given =>
      domain.delegatedMembers_withoutGeneratedRules_subset delegatedRole given
  · exact fun delegatedRole removed kept => delegatedMembers_withoutGeneratedRules_eq removed kept
  · rw [← withoutGeneratedRules_roles, ← withoutGeneratedRules_policies]
    rfl
  · exact domain.withoutGeneratedRules_idempotent
  · exact fun left right same => Snapshot.sameContent_withoutGeneratedRules same

namespace Domain

/-- A shop with one role of its own and one that is generated. Both are granted, the generated
one by a policy that is not. -/
def guardedShop : Domain :=
  let role (name member : String) : Role :=
    { name, modified := none, members := some [member], roleMembers := none, trust := none }
  let statement (role resource action : String) : Assertion :=
    { role, resource, action, effect := none, id := none }
  { name := "shop"
    modified := .epoch
    enabled := none
    roles := [role "shop:role.acl.web" "web", role "shop:role.sellers" "ann"]
    policies :=
      { SignedPolicies.empty with
        contents :=
          { domain := "shop"
            policies :=
              [{ name := "shop:policy.acl.web"
                 modified := none
                 assertions := [statement "shop:role.acl.web" "cart:role.*" "connect"] },
               { name := "shop:policy.trust"
                 modified := none
                 assertions :=
                   [statement "shop:role.acl.web" "port:role.*" "assume_role",
                    statement "shop:role.sellers" "cart:role.*" "assume_role"] }] } } }

/-- The buyers of the cart stay, the port loses the member that it had through the generated
role. -/
theorem withoutGeneratedRules_narrows_shop :
    let pruned := guardedShop.withoutGeneratedRules
    guardedShop.delegatedMembers "cart:role.buyers" = ["ann"] ∧
      pruned.delegatedMembers "cart:role.buyers" =
        guardedShop.delegatedMembers "cart:role.buyers" ∧
      guardedShop.delegatedMembers "port:role.users" = ["web"] ∧
      pruned.delegatedMembers "port:role.users" = [] ∧
      pruned.roles.map Role.name = ["shop:role.sellers"] ∧
      (Snapshot.mk pruned "" "").sameContent (Snapshot.mk pruned "signed" "0") = true := by
  intro pruned
  obtain ⟨_, equal, _, _, content⟩ := withoutGeneratedRules_narrows guardedShop
  refine ⟨by decide, equal "cart:role.buyers" (by decide) (by decide), by decide, by decide,
    by decide, ?_⟩
  exact content (Snapshot.mk guardedShop "" "") (Snapshot.mk guardedShop "signed" "0") (by decide)

end Domain

end PolicyReplica
