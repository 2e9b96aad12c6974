import PolicyReplica.Proofs.Store.Writing

/-
What the store reports as unchanged.

A snapshot is not written if a copy of the replica has its contents already, and no error
status. That copy is the one in the index, or one that was fetched after a write had lost
against another writer. A fetched copy is not put into the index. Main statement: the
replica can be read from the index exactly if its copy there was good enough before; if it
was not, the last request fetched a replica with these contents, and the server holds it.
-/

namespace PolicyReplica

/-- What every answer keeps, a run keeps. -/
theorem Exchange.run_keeps {α σ : Type} [ApiBackend σ] {sound : σ → Prop}
    (kept : ∀ request server, sound server → sound (ApiBackend.answer request server).2)
    (exchange : Exchange α) {state : DomainIndex × σ} (isSound : sound state.2) :
    sound (exchange.run state).2.2 := by
  induction exchange generalizing state with
  | finished result => exact isSound
  | readIndex next ih => exact ih state.1 isSound
  | writeIndex change next ih => exact @ih (change state.1, state.2) isSound
  | call request next ih => exact ih _ (kept request state.2 isSound)

namespace MemoryServer

/-! ### The record of requests -/

/-- What a request that is performed leaves as it was, whatever it does to the objects. -/
structure Frame (before after : MemoryServer) : Prop where
  requests : after.requests = before.requests
  injected : after.injected = before.injected
  race : before.race = none → after.race = none

theorem disturb_frame (server : MemoryServer) (current : Replica) :
    Frame server (server.disturb current) := by
  unfold disturb
  by_cases quiet : server.conflicts = 0
  · rw [if_pos quiet]
    exact ⟨rfl, rfl, id⟩
  · rw [if_neg quiet]
    exact ⟨rfl, rfl, id⟩

theorem perform_frame (server : MemoryServer) (request : ApiRequest) :
    Frame server (server.perform request).2 := by
  cases request with
  | get name => exact ⟨rfl, rfl, id⟩
  | create replica =>
      change Frame server (server.create replica).2
      rcases server.create_cases replica with ⟨other, answered, _⟩ | answered | answered
      · rw [answered]
        exact ⟨rfl, rfl, fun _ => rfl⟩
      · rw [answered]
        exact ⟨rfl, rfl, id⟩
      · rw [answered]
        exact ⟨rfl, rfl, id⟩
  | replace replica =>
      change Frame server (server.replace replica).2
      unfold replace
      cases server.objects.get? replica.name with
      | none => exact ⟨rfl, rfl, id⟩
      | some found =>
          obtain ⟨requests, injected, race⟩ := server.disturb_frame found
          dsimp only
          split
          · exact ⟨requests, injected, race⟩
          · exact ⟨requests, injected, race⟩
  | setStatus name message =>
      change Frame server (server.setStatus name message).2
      rcases server.setStatus_cases name message with answered | ⟨current, _, answered⟩
      · rw [answered]
        exact ⟨rfl, rfl, id⟩
      · rw [answered]
        exact ⟨rfl, rfl, id⟩
  | delete name => exact ⟨rfl, rfl, id⟩

theorem requests_answer (request : ApiRequest) (server : MemoryServer) :
    (ApiBackend.answer request server).2.requests = server.requests ++ [request] := by
  rcases server.answer_cases request with ⟨error, injected, answered⟩ | answered
  · rw [answered]
    rfl
  · rw [answered]
    exact ((server.noted request).perform_frame request).requests

/-- A run adds to the requests so far. -/
theorem requests_run {α : Type} (exchange : Exchange α) (state : DomainIndex × MemoryServer) :
    state.2.requests <+: (exchange.run state).2.2.requests := by
  have kept : ∀ request server, state.2.requests <+: MemoryServer.requests server →
      state.2.requests <+: (ApiBackend.answer request server).2.requests := by
    intro request server grown
    rw [requests_answer]
    exact grown.trans (List.prefix_append _ _)
  exact exchange.run_keeps kept (List.prefix_refl state.2.requests)

def Refetched (name : String) (before after : MemoryServer) : Prop :=
  ∃ asked, after.requests = before.requests ++ asked ++ [.get name]

theorem Refetched.of_grown {name : String} {before between after : MemoryServer}
    (grown : before.requests <+: between.requests) (refetched : Refetched name between after) :
    Refetched name before after := by
  obtain ⟨asked, record⟩ := refetched
  obtain ⟨earlier, joined⟩ := grown
  refine ⟨earlier ++ asked, ?_⟩
  rw [record, ← joined]
  simp only [List.append_assoc]

end MemoryServer

namespace Store

open MemoryServer

variable {name : String} {snapshot : Snapshot} {index other : DomainIndex}
variable {server after : MemoryServer}

/-! ### Attempts that write nothing -/

/-- A copy that has the contents already, and no error status, is left alone. -/
theorem run_reconcile_settled {σ : Type} [ApiBackend σ] {existing : Replica}
    (mirrors : existing.Mirrors snapshot) (rounds : Nat) (state : DomainIndex × σ) :
    (reconcile name snapshot rounds existing).run state = (.ok .unchanged, state) := by
  unfold reconcile
  rw [if_pos (show _ ∧ _ from mirrors)]
  rfl

section

variable {continuation : (ApiRequest.get name).Answer → Exchange (Except StoreError Applied)}

/-- What goes on from a fetched copy fetched it last, or fetched another one later. -/
theorem refetch_unchanged
    (later : ∀ fetched between, (continuation (.ok fetched)).run (index, between) =
      (.ok .unchanged, other, after) → after = between ∨ Refetched name between after)
    (givesUp : ∀ error, continuation (.error error) = pure (.error error))
    (run : (Exchange.ask (.get name) >>= continuation).run (index, server) =
      (.ok .unchanged, other, after)) :
    Refetched name server after := by
  rw [Exchange.run_bind, Exchange.run_ask] at run
  have asked := server.requests_answer (.get name)
  rcases answered : ApiBackend.answer (.get name) server with ⟨answer, between⟩
  rw [answered] at run asked
  cases answer with
  | error error =>
      rw [givesUp] at run
      cases run
  | ok fetched =>
      rcases later fetched between run with rfl | refetched
      · exact ⟨[], by rw [asked, List.append_nil]⟩
      · refine refetched.of_grown ?_
        rw [asked]
        exact List.prefix_append _ _

end

/-- A round that reports no change had the contents already, or lost and fetched again. -/
theorem reconcile_unchanged {rounds : Nat}
    (later : ∀ fetched index between, (attempt name snapshot rounds fetched).run (index, between) =
      (.ok .unchanged, other, after) → after = between ∨ Refetched name between after)
    {existing : Replica} (run : (reconcile name snapshot rounds existing).run (index, server) =
      (.ok .unchanged, other, after)) :
    existing.Mirrors snapshot ∧ after = server ∨ Refetched name server after := by
  by_cases settled : existing.Mirrors snapshot
  · rw [run_reconcile_settled settled] at run
    cases run
    exact .inl ⟨settled, rfl⟩
  · right
    unfold reconcile at run
    rw [if_neg (show ¬ (_ ∧ _) from settled), Exchange.run_bind] at run
    have grown := requests_run (update existing snapshot) (index, server)
    rcases updated : (update existing snapshot).run (index, server) with ⟨answer, between, middle⟩
    rw [updated] at run grown
    refine .of_grown grown ?_
    cases answer with
    | ok replica => cases run
    | error error =>
        cases error with
        | conflict _ =>
            exact refetch_unchanged (fun fetched => later fetched between) (fun _ => rfl) run
        | notFound _ =>
            exact refetch_unchanged (fun fetched => later fetched between) (fun _ => rfl) run
        | alreadyExists _ => cases run
        | invalidSnapshot _ _ => cases run
        | api _ => cases run

/-- An attempt that reports no change started from a copy with the contents, and asked for
nothing, or it went on from a copy that it fetched. -/
theorem attempt_unchanged {rounds : Nat} {copy : Option Replica}
    (run : (attempt name snapshot rounds copy).run (index, server) =
      (.ok .unchanged, other, after)) :
    (∃ existing, copy = some existing ∧ existing.Mirrors snapshot) ∧ after = server ∨
      Refetched name server after := by
  induction rounds generalizing copy index server with
  | zero => cases run
  | succ rounds ih =>
      have later : ∀ fetched index between,
          (attempt name snapshot rounds fetched).run (index, between) =
            (.ok .unchanged, other, after) → after = between ∨ Refetched name between after :=
        fun fetched index between run => (ih run).imp And.right id
      cases copy with
      | some existing =>
          rw [attempt_some] at run
          exact (reconcile_unchanged later run).imp
            (fun settled => ⟨⟨existing, rfl, settled.1⟩, settled.2⟩) id
      | none =>
          right
          rw [attempt_none, Exchange.run_bind] at run
          have grown := requests_run (Exchange.ask (.create (Replica.ofSnapshot snapshot)))
            (index, server)
          rcases created : (Exchange.ask (.create (Replica.ofSnapshot snapshot))).run
            (index, server) with ⟨answer, between, middle⟩
          rw [created] at run grown
          refine .of_grown grown ?_
          cases answer with
          | ok replica => cases run
          | error error =>
              cases error with
              | alreadyExists _ =>
                  refine refetch_unchanged ?_ (fun _ => rfl) run
                  intro fetched server run
                  cases fetched with
                  | some existing => exact (reconcile_unchanged later run).imp And.right id
                  | none => exact later none between server run
              | conflict _ => cases run
              | notFound _ => cases run
              | invalidSnapshot _ _ => cases run
              | api _ => cases run

/-- A snapshot that is reported as unchanged leaves the index as it was. If the index holds
a replica with these contents and no error status, the server was not asked, and the trust
targets are known. Otherwise the last request fetched such a replica, and the server holds
it. -/
theorem createOrUpdate_unchanged (history : List MemoryServer.Event) (changes : List IndexChange)
    (name : String) (snapshot : Snapshot) {index : DomainIndex} {server : MemoryServer}
    (run : (createOrUpdate name snapshot).run
      (DomainIndex.replay changes, MemoryServer.replay history) =
        (.ok .unchanged, index, server)) :
    index = DomainIndex.replay changes ∧
      (index.Shows name (some snapshot) → server = MemoryServer.replay history ∧
        ∀ target ∈ snapshot.trustDomains, index.isTrustTarget target = true) ∧
      (¬ index.Shows name (some snapshot) →
        Refetched name (MemoryServer.replay history) server ∧
        ∃ replica, server.objects.get? name = some replica ∧ replica.Mirrors snapshot) := by
  have consistent := DomainIndex.replay_consistent changes
  obtain ⟨_, ended⟩ := (createOrUpdate_ends (MemoryServer.truthful name) consistent snapshot
    (MemoryServer.replay_named history)).of_run run
  rw [run_createOrUpdate_named (name_of_createOrUpdate run)] at run
  obtain ⟨final, holding⟩ : ∃ final, server.objects.get? name = final := ⟨_, rfl⟩
  simp only [holding] at ended ⊢
  cases ended with
  | written wrote => exact absurd rfl wrote
  | @settled existing _ mirrors source =>
      refine ⟨rfl, fun shows => ⟨?_, fun target => consistent.isTrustTarget_of_shows shows⟩, ?_⟩
      · obtain ⟨replica, held, mirrors⟩ := shows
        rw [held, attempt_some, run_reconcile_settled mirrors] at run
        cases run
        rfl
      · intro missing
        refine ⟨(attempt_unchanged run).resolve_left fun settled => missing settled.1, existing, ?_,
          mirrors⟩
        exact source.resolve_left fun copied => missing ⟨existing, copied.1, mirrors⟩

/-- The index has contents that are out of date, of a replica that is gone. Somebody else
creates it anew with the contents that are asked for, just before the store does. -/
theorem createOrUpdate_unchanged_recreated :
    ∃ index server,
      (createOrUpdate "shop" (shop (some "bank"))).run
        (DomainIndex.replay [.apply (.ofSnapshot (shop none))],
          MemoryServer.replay [.race (some (.ofSnapshot (shop (some "bank"))))]) =
        (.ok .unchanged, index, server) ∧
      index = DomainIndex.replay [.apply (.ofSnapshot (shop none))] ∧
      ∃ replica, server.objects.get? "shop" = some replica ∧
        replica.Mirrors (shop (some "bank")) := by
  obtain ⟨unchanged, _, missing⟩ :=
    createOrUpdate_unchanged [.race (some (.ofSnapshot (shop (some "bank"))))]
      [.apply (.ofSnapshot (shop none))] "shop" (shop (some "bank")) rfl
  have stale : ¬ (DomainIndex.replay [.apply (.ofSnapshot (shop none))]).Shows "shop"
      (some (shop (some "bank"))) := by
    rintro ⟨replica, held, mirrors⟩
    obtain rfl : Replica.ofSnapshot (shop none) = replica := Option.some.inj held
    exact absurd mirrors.1 (by decide)
  exact ⟨_, _, rfl, unchanged, (missing stale).2⟩

/-- Somebody else creates the replica first, with the contents that are asked for. The store
reports no change and leaves the index without the replica: its trust target is unknown. -/
theorem createOrUpdate_adopts_unread :
    ∃ index server,
      (createOrUpdate "shop" (shop (some "bank"))).run
        (DomainIndex.replay [],
          MemoryServer.replay [.race (some (.ofSnapshot (shop (some "bank"))))]) =
        (.ok .unchanged, index, server) ∧
      index.get? "shop" = none ∧ index.isTrustTarget "bank" = false :=
  ⟨_, _, rfl, rfl, rfl⟩

end Store

end PolicyReplica
