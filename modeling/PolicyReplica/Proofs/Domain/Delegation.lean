import Mathlib.Data.List.Pairwise
import PolicyReplica.Domain.Delegation
import PolicyReplica.Proofs.Domain.Patterns

/-
Members of delegated roles, place by place.

A domain offers a member to a role of another domain at a place: an entry of one of its own
roles, that an assertion of a policy grants. Main statement: the members of the role are
those that are offered at some place, each once, in the order of their first places.
-/

namespace PolicyReplica

/-- The numbers of a list's entries increase. -/
theorem pairwise_zipIdx {α : Type} (items : List α) :
    items.zipIdx.Pairwise fun first second => first.2 < second.2 := by
  rw [← List.pairwise_map (f := Prod.snd) (R := (· < ·)), List.zipIdx_map_snd]
  exact List.pairwise_lt_range' 1

def Role.listed (role : Role) : List String :=
  role.members.getD [] ++ (role.roleMembers.getD []).map RoleMember.memberName

theorem Role.memberNames_eq (role : Role) : role.memberNames = distinct role.listed :=
  rfl

theorem Role.trust?_eq_none_iff (role : Role) :
    role.trust? = none ↔ role.trust = none ∨ role.trust = some "" := by
  unfold Role.trust?
  cases role.trust with
  | none => simp
  | some target => simp [Option.filter]

namespace Domain

/-- A place where a domain can offer a member: in which policy, in which of its assertions,
and in which entry of the role that is granted. -/
structure Place where
  policy : Nat
  assertion : Nat
  entry : Nat

def Place.Before (first second : Place) : Prop :=
  first.policy < second.policy ∨ first.policy = second.policy ∧
    (first.assertion < second.assertion ∨ first.assertion = second.assertion ∧
      first.entry < second.entry)

def FirstNamed (roles : List Role) (name : String) (role : Role) : Prop :=
  ∃ earlier later, roles = earlier ++ role :: later ∧ role.name = name ∧
    ∀ other ∈ earlier, other.name ≠ name

def Grants (assertion : Assertion) (delegatedRole : String) : Prop :=
  assertion.action = "assume_role" ∧ assertion.effect ≠ some .deny ∧
    Wildcard.Describes assertion.resource.toList delegatedRole.toList

/-- At that place, the domain offers the member to a role of another domain. -/
def Offers (domain : Domain) (delegatedRole : String) (place : Place) (member : String) : Prop :=
  ∃ policy assertion role,
    domain.policies.contents.policies[place.policy]? = some policy ∧
    policy.assertions[place.assertion]? = some assertion ∧
    Grants assertion delegatedRole ∧
    FirstNamed domain.roles assertion.role role ∧
    (role.trust = none ∨ role.trust = some "") ∧
    role.listed[place.entry]? = some member

theorem grants_iff (assertion : Assertion) (delegatedRole : String) :
    grants assertion delegatedRole = true ↔ Grants assertion delegatedRole := by
  unfold grants Grants
  rw [Bool.and_eq_true, Bool.and_eq_true, Wildcard.isMatch_eq_true_iff, decide_eq_true_iff,
    decide_eq_true_iff, and_assoc]
  rfl

theorem findRole?_eq_some_iff (domain : Domain) (name : String) (role : Role) :
    domain.findRole? name = some role ↔ FirstNamed domain.roles name role := by
  unfold findRole? FirstNamed
  rw [List.find?_eq_some_iff_append]
  constructor
  · rintro ⟨named, earlier, later, split, apart⟩
    exact ⟨earlier, later, split, of_decide_eq_true named, fun other member =>
      by simpa using apart other member⟩
  · rintro ⟨earlier, later, split, named, apart⟩
    exact ⟨decide_eq_true named, earlier, later, split, fun other member =>
      by simpa using apart other member⟩

def offered (domain : Domain) (delegatedRole : String) (assertion : Assertion) : List String :=
  if grants assertion delegatedRole then
    match domain.findRole? assertion.role with
    | none => []
    | some role => if role.trust?.isSome then [] else role.listed
  else []

theorem getElem?_offered (domain : Domain) (delegatedRole : String) (assertion : Assertion)
    (entry : Nat) (member : String) :
    (domain.offered delegatedRole assertion)[entry]? = some member ↔
      Grants assertion delegatedRole ∧ ∃ role, FirstNamed domain.roles assertion.role role ∧
        (role.trust = none ∨ role.trust = some "") ∧ role.listed[entry]? = some member := by
  unfold offered
  simp only [← grants_iff, ← findRole?_eq_some_iff, ← Role.trust?_eq_none_iff]
  by_cases granted : grants assertion delegatedRole = true
  · rw [if_pos granted, and_iff_right granted]
    cases domain.findRole? assertion.role with
    | none => simp
    | some role =>
      cases trusted : role.trust? <;> simp [trusted]
  · rw [if_neg granted]
    simp [granted]

/-- What the domain offers to a role, assertion by assertion. -/
theorem delegatedMembers_eq (domain : Domain) (delegatedRole : String) :
    domain.delegatedMembers delegatedRole =
      distinct (domain.assertions.flatMap (domain.offered delegatedRole)) := by
  have parts : (fun assertion => distinct (domain.offered delegatedRole assertion)) =
      fun assertion =>
        if grants assertion delegatedRole then domain.grantedMembers assertion else [] := by
    funext assertion
    unfold offered grantedMembers
    by_cases granted : grants assertion delegatedRole = true
    · rw [if_pos granted, if_pos granted]
      cases domain.findRole? assertion.role with
      | none => rfl
      | some role => cases trusted : role.trust? <;> simp [trusted, distinct, Role.memberNames_eq]
    · rw [if_neg granted, if_neg granted]
      rfl
  rw [← distinct_flatMap_distinct, parts, delegatedMembers]
  congr 1
  induction domain.assertions with
  | nil => rfl
  | cons assertion rest ih =>
    rw [List.flatMap_cons, ← ih, List.filter_cons]
    split <;> rfl

def offeredIn (domain : Domain) (delegatedRole : String) (policy : Policy × Nat) :
    List (Place × String) :=
  policy.1.assertions.zipIdx.flatMap fun assertion =>
    (domain.offered delegatedRole assertion.1).zipIdx.map fun member =>
      (⟨policy.2, assertion.2, member.2⟩, member.1)

def allOffered (domain : Domain) (delegatedRole : String) : List (Place × String) :=
  domain.policies.contents.policies.zipIdx.flatMap (domain.offeredIn delegatedRole)

theorem map_snd_allOffered (domain : Domain) (delegatedRole : String) :
    (domain.allOffered delegatedRole).map Prod.snd =
      domain.assertions.flatMap (domain.offered delegatedRole) := by
  have inPolicy : ∀ policy, (domain.offeredIn delegatedRole policy).map Prod.snd =
      policy.1.assertions.flatMap (domain.offered delegatedRole) := by
    intro policy
    rw [offeredIn, List.map_flatMap]
    simp only [List.map_map, Function.comp_def]
    simp only [show (fun member : String × Nat => member.1) = Prod.fst from rfl,
      List.zipIdx_map_fst]
    rw [← List.flatMap_map, List.zipIdx_map_fst]
  rw [allOffered, List.map_flatMap, funext inPolicy, assertions, List.flatMap_assoc,
    ← List.flatMap_map Prod.fst (fun policy : Policy =>
      policy.assertions.flatMap (domain.offered delegatedRole)), List.zipIdx_map_fst]

theorem mem_allOffered (domain : Domain) (delegatedRole : String) (place : Place)
    (member : String) :
    (place, member) ∈ domain.allOffered delegatedRole ↔
      domain.Offers delegatedRole place member := by
  unfold allOffered offeredIn
  simp only [List.mem_flatMap, List.mem_map, Prod.exists, List.mk_mem_zipIdx_iff_getElem?,
    Prod.mk.injEq]
  constructor
  · rintro ⟨policy, _, atPolicy, assertion, _, atAssertion, _, _, atEntry, rfl, rfl⟩
    obtain ⟨granted, role, first, untrusting, listed⟩ :=
      (domain.getElem?_offered delegatedRole assertion _ _).mp atEntry
    exact ⟨policy, assertion, role, atPolicy, atAssertion, granted, first, untrusting, listed⟩
  · rintro ⟨policy, assertion, role, atPolicy, atAssertion, granted, first, untrusting, listed⟩
    have atEntry := (domain.getElem?_offered delegatedRole assertion _ _).mpr
      ⟨granted, role, first, untrusting, listed⟩
    exact ⟨policy, _, atPolicy, assertion, _, atAssertion, member, _, atEntry, rfl, rfl⟩

theorem pairwise_allOffered (domain : Domain) (delegatedRole : String) :
    ((domain.allOffered delegatedRole).map Prod.fst).Pairwise Place.Before := by
  rw [List.pairwise_map, allOffered, List.pairwise_flatMap]
  constructor
  · rintro policy -
    rw [offeredIn, List.pairwise_flatMap]
    constructor
    · rintro assertion -
      rw [List.pairwise_map]
      exact (pairwise_zipIdx _).imp fun less => .inr ⟨rfl, .inr ⟨rfl, less⟩⟩
    · refine (pairwise_zipIdx _).imp fun less => ?_
      simp only [List.mem_map]
      rintro _ ⟨_, _, rfl⟩ _ ⟨_, _, rfl⟩
      exact .inr ⟨rfl, .inl less⟩
  · refine (pairwise_zipIdx _).imp fun less => ?_
    simp only [offeredIn, List.mem_flatMap, List.mem_map]
    rintro _ ⟨_, _, _, _, rfl⟩ _ ⟨_, _, _, _, rfl⟩
    exact .inl less

/-- The members of a delegated role are exactly what is offered to it, each once, in the
order in which the policies, their assertions and the roles' entries offer it first. -/
theorem delegatedMembers_exact (domain : Domain) (delegatedRole : String) :
    (domain.delegatedMembers delegatedRole).Nodup ∧
    (∀ member, member ∈ domain.delegatedMembers delegatedRole ↔
      ∃ place, domain.Offers delegatedRole place member) ∧
    (domain.delegatedMembers delegatedRole).Pairwise fun earlier later =>
      ∃ place, domain.Offers delegatedRole place earlier ∧
        ∀ other, domain.Offers delegatedRole other later → place.Before other := by
  rw [delegatedMembers_eq, ← map_snd_allOffered]
  refine ⟨nodup_distinct _, fun member => ?_, ?_⟩
  · rw [mem_distinct, List.mem_map]
    simp only [Prod.exists, exists_eq_right, mem_allOffered]
  · have ordered := pairwise_distinct (pairwise_allOffered domain delegatedRole)
    simpa only [mem_allOffered] using ordered

end Domain

end PolicyReplica
