import PolicyReplica.Domain.Codec
import PolicyReplica.Proofs.Json.Records
import PolicyReplica.Proofs.Time.Rereading

/-
Reading snapshots from their JSON form.

Each record is the object of its declared fields, so its decoder is exact once the decoders of
the fields are, and its nesting is one more than theirs. What counts as the empty content of an
effect makes no difference, since effects are written as texts.
-/

namespace PolicyReplica

open Json

variable {limit : Nat} (isVoid : Json → Bool)

namespace Timestamp

theorem exact : Exact ofJson? toJson := by
  intro time
  rw [toJson, ofJson?, text?, Option.bind_some, parse?_render]

theorem plain (time : Timestamp) : Plain limit time.toJson :=
  Plain.string time.render

end Timestamp

namespace Effect

theorem exact : Exact (ofJson? isVoid) toJson := by
  intro effect
  cases effect <;> rfl

theorem plain (effect : Effect) : Plain limit effect.toJson :=
  Plain.string effect.label

end Effect

namespace Assertion

theorem toJson_eq (assertion : Assertion) :
    assertion.toJson =
      .object (written ["role", "resource", "action", "effect", "id"]
        [some (.string assertion.role), some (.string assertion.resource),
          some (.string assertion.action), assertion.effect.map Effect.toJson,
          assertion.id.map fun id => Json.int id.toInt]) := by
  simp [toJson]

theorem exact : Exact (ofJson? isVoid) toJson := by
  intro assertion
  have effect := (Effect.exact isVoid).optional rfl assertion.effect
  have id := exact_int64.optional rfl assertion.id
  rw [toJson_eq, ofJson?, slots?_written (by decide) rfl]
  simp only [required, text?, effect, id, Option.bind_eq_bind, Option.bind_some, Option.pure_def]

theorem plain (assertion : Assertion) : Plain (limit + 1) assertion.toJson := by
  rw [toJson_eq]
  refine Plain.written ?_
  simp [Plain.string, Plain.int64, Effect.plain]

end Assertion

namespace Policy

theorem toJson_eq (policy : Policy) :
    policy.toJson =
      .object (written ["name", "modified", "assertions"]
        [some (.string policy.name), policy.modified.map Timestamp.toJson,
          some (.array (policy.assertions.map Assertion.toJson))]) := by
  simp [toJson]

theorem exact : Exact (ofJson? isVoid) toJson := by
  intro policy
  have modified := Timestamp.exact.optional rfl policy.modified
  have assertions := (Assertion.exact isVoid).list policy.assertions
  rw [toJson_eq, ofJson?, slots?_written (by decide) rfl]
  simp only [required, withDefault, text?, modified, assertions, Option.bind_eq_bind,
    Option.bind_some, Option.pure_def]

theorem plain (policy : Policy) : Plain (limit + 3) policy.toJson := by
  rw [toJson_eq]
  refine Plain.written ?_
  simp [Plain.string, Timestamp.plain, Plain.list, Assertion.plain]

end Policy

namespace PolicyList

theorem toJson_eq (contents : PolicyList) :
    contents.toJson =
      .object (written ["domain", "policies"]
        [some (.string contents.domain), some (.array (contents.policies.map Policy.toJson))]) :=
  rfl

theorem exact : Exact (ofJson? isVoid) toJson := by
  intro contents
  have policies := (Policy.exact isVoid).list contents.policies
  rw [toJson_eq, ofJson?, slots?_written (by decide) rfl]
  simp only [withDefault, text?, policies, Option.bind_eq_bind, Option.bind_some, Option.pure_def]

theorem plain (contents : PolicyList) : Plain (limit + 5) contents.toJson := by
  rw [toJson_eq]
  refine Plain.written ?_
  simp [Plain.string, Plain.list, Policy.plain]

end PolicyList

namespace SignedPolicies

theorem toJson_eq (policies : SignedPolicies) :
    policies.toJson =
      .object (written ["contents", "signature", "keyId"]
        [some policies.contents.toJson, some (.string policies.signature),
          some (.string policies.keyId)]) :=
  rfl

theorem exact : Exact (ofJson? isVoid) toJson := by
  intro policies
  have contents := PolicyList.exact isVoid policies.contents
  rw [toJson_eq, ofJson?, slots?_written (by decide) rfl]
  simp only [withDefault, text?, contents, Option.bind_eq_bind, Option.bind_some, Option.pure_def]

theorem plain (policies : SignedPolicies) : Plain (limit + 6) policies.toJson := by
  rw [toJson_eq]
  refine Plain.written ?_
  simp [Plain.string, PolicyList.plain]

end SignedPolicies

namespace RoleMember

theorem toJson_eq (member : RoleMember) :
    member.toJson =
      .object (written ["memberName", "expiration"]
        [some (.string member.memberName), member.expiration.map Timestamp.toJson]) := by
  simp [toJson]

theorem exact : Exact ofJson? toJson := by
  intro member
  have expiration := Timestamp.exact.optional rfl member.expiration
  rw [toJson_eq, ofJson?, slots?_written (by decide) rfl]
  simp only [required, text?, expiration, Option.bind_eq_bind, Option.bind_some, Option.pure_def]

theorem plain (member : RoleMember) : Plain (limit + 1) member.toJson := by
  rw [toJson_eq]
  refine Plain.written ?_
  simp [Plain.string, Timestamp.plain]

end RoleMember

namespace Role

theorem toJson_eq (role : Role) :
    role.toJson =
      .object (written ["name", "modified", "members", "roleMembers", "trust"]
        [some (.string role.name), role.modified.map Timestamp.toJson, role.members.map texts,
          role.roleMembers.map fun members => .array (members.map RoleMember.toJson),
          role.trust.map Json.string]) := by
  simp [toJson]

theorem exact : Exact ofJson? toJson := by
  intro role
  have modified := Timestamp.exact.optional rfl role.modified
  have members := exact_texts.optional rfl role.members
  have roleMembers := RoleMember.exact.list.optional rfl role.roleMembers
  have trust := exact_text.optional rfl role.trust
  rw [toJson_eq, ofJson?, slots?_written (by decide) rfl]
  simp only [required, text?, modified, members, roleMembers, trust, Option.bind_eq_bind,
    Option.bind_some, Option.pure_def]

theorem plain (role : Role) : Plain (limit + 3) role.toJson := by
  rw [toJson_eq]
  refine Plain.written ?_
  simp [Plain.string, texts, Timestamp.plain, Plain.list, RoleMember.plain]

end Role

namespace Domain

theorem toJson_eq (domain : Domain) :
    domain.toJson =
      .object (written ["name", "modified", "enabled", "roles", "policies"]
        [some (.string domain.name), some domain.modified.toJson, domain.enabled.map Json.bool,
          some (.array (domain.roles.map Role.toJson)), some domain.policies.toJson]) := by
  simp [toJson]

theorem exact : Exact (ofJson? isVoid) toJson := by
  intro domain
  have modified := Timestamp.exact domain.modified
  have enabled := exact_bool.optional rfl domain.enabled
  have roles := Role.exact.list domain.roles
  have policies := SignedPolicies.exact isVoid domain.policies
  rw [toJson_eq, ofJson?, slots?_written (by decide) rfl]
  simp only [required, withDefault, text?, modified, enabled, roles, policies,
    Option.bind_eq_bind, Option.bind_some, Option.pure_def]

theorem plain (domain : Domain) : Plain (limit + 7) domain.toJson := by
  rw [toJson_eq]
  refine Plain.written ?_
  simp [Plain.string, Plain.bool, Timestamp.plain, Plain.list, Role.plain, SignedPolicies.plain,
    -Bool.exists_bool, -Bool.forall_bool]

end Domain

namespace Snapshot

theorem toJson_eq (snapshot : Snapshot) :
    snapshot.toJson =
      .object (written ["domain", "signature", "keyId"]
        [some snapshot.domain.toJson, some (.string snapshot.signature),
          some (.string snapshot.keyId)]) :=
  rfl

theorem exact : Exact (ofJson? isVoid) toJson := by
  intro snapshot
  have domain := Domain.exact isVoid snapshot.domain
  rw [toJson_eq, ofJson?, slots?_written (by decide) rfl]
  simp only [required, withDefault, text?, domain, Option.bind_eq_bind, Option.bind_some,
    Option.pure_def]

theorem plain (snapshot : Snapshot) : Plain (limit + 8) snapshot.toJson := by
  rw [toJson_eq]
  refine Plain.written ?_
  simp [Plain.string, Domain.plain]

/-- Every snapshot is read back from its text. -/
theorem exact_parse : Exact parse? fun snapshot => snapshot.toJson.render := by
  intro snapshot
  have plain : Plain 8 snapshot.toJson := snapshot.plain
  rw [parse?, Json.parse?_render plain.fits, Option.bind_some, exact]

end Snapshot

end PolicyReplica
