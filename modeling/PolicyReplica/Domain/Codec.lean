import PolicyReplica.Domain.Basic
import PolicyReplica.Json.Reader
import PolicyReplica.Json.Record
import PolicyReplica.Json.Writer

/-
The JSON form of snapshots.

Each record is written as an object; what is optional and missing is not
written, while empty lists and texts are. Reading takes what writing gives, and
also records without the fields that have defaults. What counts as the empty
content of an effect depends on where the snapshot stands, so the readers take it
as an argument.
-/

namespace PolicyReplica

open Json

def Timestamp.toJson (time : Timestamp) : Json :=
  .string time.render

def Timestamp.ofJson? (value : Json) : Option Timestamp :=
  value.text?.bind Timestamp.parse?

namespace Effect

def label : Effect → String
  | .allow => "ALLOW"
  | .deny => "DENY"

def toJson (effect : Effect) : Json :=
  .string effect.label

def ofLabel? (text : String) : Option Effect :=
  if text = "ALLOW" then some .allow
  else if text = "DENY" then some .deny
  else none

def ofJson? (isVoid : Json → Bool) (value : Json) : Option Effect :=
  (label? isVoid value).bind ofLabel?

end Effect

namespace Assertion

def toJson (assertion : Assertion) : Json :=
  .object
    ([("role", .string assertion.role), ("resource", .string assertion.resource),
      ("action", .string assertion.action)] ++
      present "effect" Effect.toJson assertion.effect ++
      present "id" (fun id => Json.int id.toInt) assertion.id)

def ofJson? (isVoid : Json → Bool) (value : Json) : Option Assertion :=
  match slots? ["role", "resource", "action", "effect", "id"] value with
  | some [role, resource, action, effect, id] => do
      pure
        { role := ← required text? role
          resource := ← required text? resource
          action := ← required text? action
          effect := ← optional (Effect.ofJson? isVoid) effect
          id := ← optional int64? id }
  | _ => none

end Assertion

namespace Policy

def toJson (policy : Policy) : Json :=
  .object
    ([("name", .string policy.name)] ++ present "modified" Timestamp.toJson policy.modified ++
      [("assertions", .array (policy.assertions.map Assertion.toJson))])

def ofJson? (isVoid : Json → Bool) (value : Json) : Option Policy :=
  match slots? ["name", "modified", "assertions"] value with
  | some [name, modified, assertions] => do
      pure
        { name := ← required text? name
          modified := ← optional Timestamp.ofJson? modified
          assertions := ← withDefault [] (list? (Assertion.ofJson? isVoid)) assertions }
  | _ => none

end Policy

namespace PolicyList

def toJson (contents : PolicyList) : Json :=
  .object
    [("domain", .string contents.domain),
      ("policies", .array (contents.policies.map Policy.toJson))]

def ofJson? (isVoid : Json → Bool) (value : Json) : Option PolicyList :=
  match slots? ["domain", "policies"] value with
  | some [domain, policies] => do
      pure
        { domain := ← withDefault "" text? domain
          policies := ← withDefault [] (list? (Policy.ofJson? isVoid)) policies }
  | _ => none

end PolicyList

namespace SignedPolicies

def toJson (policies : SignedPolicies) : Json :=
  .object
    [("contents", policies.contents.toJson), ("signature", .string policies.signature),
      ("keyId", .string policies.keyId)]

def ofJson? (isVoid : Json → Bool) (value : Json) : Option SignedPolicies :=
  match slots? ["contents", "signature", "keyId"] value with
  | some [contents, signature, keyId] => do
      pure
        { contents :=
            ← withDefault SignedPolicies.empty.contents (PolicyList.ofJson? isVoid) contents
          signature := ← withDefault "" text? signature
          keyId := ← withDefault "" text? keyId }
  | _ => none

end SignedPolicies

namespace RoleMember

def toJson (member : RoleMember) : Json :=
  .object
    ([("memberName", .string member.memberName)] ++
      present "expiration" Timestamp.toJson member.expiration)

def ofJson? (value : Json) : Option RoleMember :=
  match slots? ["memberName", "expiration"] value with
  | some [memberName, expiration] => do
      pure
        { memberName := ← required text? memberName
          expiration := ← optional Timestamp.ofJson? expiration }
  | _ => none

end RoleMember

namespace Role

def toJson (role : Role) : Json :=
  .object
    ([("name", .string role.name)] ++ present "modified" Timestamp.toJson role.modified ++
      present "members" texts role.members ++
      present "roleMembers" (fun members => .array (members.map RoleMember.toJson))
        role.roleMembers ++
      present "trust" Json.string role.trust)

def ofJson? (value : Json) : Option Role :=
  match slots? ["name", "modified", "members", "roleMembers", "trust"] value with
  | some [name, modified, members, roleMembers, trust] => do
      pure
        { name := ← required text? name
          modified := ← optional Timestamp.ofJson? modified
          members := ← optional (list? text?) members
          roleMembers := ← optional (list? RoleMember.ofJson?) roleMembers
          trust := ← optional text? trust }
  | _ => none

end Role

namespace Domain

def toJson (domain : Domain) : Json :=
  .object
    ([("name", .string domain.name), ("modified", domain.modified.toJson)] ++
      present "enabled" Json.bool domain.enabled ++
      [("roles", .array (domain.roles.map Role.toJson)), ("policies", domain.policies.toJson)])

def ofJson? (isVoid : Json → Bool) (value : Json) : Option Domain :=
  match slots? ["name", "modified", "enabled", "roles", "policies"] value with
  | some [name, modified, enabled, roles, policies] => do
      pure
        { name := ← required text? name
          modified := ← required Timestamp.ofJson? modified
          enabled := ← optional bool? enabled
          roles := ← withDefault [] (list? Role.ofJson?) roles
          policies := ← withDefault SignedPolicies.empty (SignedPolicies.ofJson? isVoid) policies }
  | _ => none

end Domain

namespace Snapshot

def toFields (snapshot : Snapshot) : List (String × Json) :=
  [("domain", snapshot.domain.toJson), ("signature", .string snapshot.signature),
    ("keyId", .string snapshot.keyId)]

def toJson (snapshot : Snapshot) : Json :=
  .object snapshot.toFields

def ofJson? (isVoid : Json → Bool) (value : Json) : Option Snapshot :=
  match slots? ["domain", "signature", "keyId"] value with
  | some [domain, signature, keyId] => do
      pure
        { domain := ← required (Domain.ofJson? isVoid) domain
          signature := ← withDefault "" text? signature
          keyId := ← withDefault "" text? keyId }
  | _ => none

def parse? (text : String) : Option Snapshot :=
  (Json.parse? text).bind (ofJson? isNull)

end Snapshot

end PolicyReplica
