import PolicyReplica.Proofs.Api.Answers
import PolicyReplica.Proofs.Index.Replay

/-
API servers out of reach.

A request may fail for any reason before it takes effect. What does take effect is noted
in a journal of changes, and the objects of the server are those that the journal tells
of. Nobody else writes.
-/

namespace PolicyReplica

/-- The changes that an answer tells of; what is deleted must have been held. -/
def ApiRequest.changes (before : Option Replica) :
    (request : ApiRequest) → request.Answer → List IndexChange
  | .get _, _ => []
  | .create _, .ok stored => [.apply stored]
  | .replace _, .ok stored => [.apply stored]
  | .setStatus _ _, .ok stored => [.apply stored]
  | .delete name, .ok _ => if before.isSome then [.delete name] else []
  | .create _, .error _ | .replace _, .error _ | .setStatus _ _, .error _
  | .delete _, .error _ => []

theorem ApiRequest.changes_error (request : ApiRequest) (before : Option Replica)
    (error : StoreError) : request.changes before (.error error) = [] := by
  cases request <;> rfl

theorem ApiRequest.changes_of_fulfilled {request : ApiRequest} {yield : request.Yield}
    {before after : Option Replica} (fulfilled : request.Fulfilled yield before after)
    (named : ∀ {replica}, after = some replica → replica.name = request.name) :
    request.changes before (.ok yield) = [] ∧ after = before ∨
      ∃ change, request.changes before (.ok yield) = [change] ∧ change.name = request.name ∧
        after = change.replica? := by
  cases request with
  | get name => exact .inl ⟨rfl, fulfilled.2⟩
  | create replica => exact .inr ⟨.apply yield, rfl, named fulfilled.1, fulfilled.1⟩
  | replace replica => exact .inr ⟨.apply yield, rfl, named fulfilled.1, fulfilled.1⟩
  | setStatus name message => exact .inr ⟨.apply yield, rfl, named fulfilled.1, fulfilled.1⟩
  | delete name =>
      cases before with
      | none => exact .inl ⟨rfl, fulfilled⟩
      | some replica => exact .inr ⟨.delete name, rfl, rfl, fulfilled⟩

structure RemoteServer where
  server : MemoryServer
  /-- Why the requests to come fail, or that they do not; later ones do not fail. -/
  failures : List (Option StoreError)
  /-- The changes so far, in order. -/
  journal : List IndexChange

namespace RemoteServer

def empty (failures : List (Option StoreError)) : RemoteServer :=
  { server := .empty, failures, journal := [] }

def held (name : String) (remote : RemoteServer) : Option Replica :=
  remote.server.objects.get? name

def perform (request : ApiRequest) (remote : RemoteServer) : request.Answer × RemoteServer :=
  let answered := ApiBackend.answer request remote.server
  (answered.1,
    { remote with
      server := answered.2
      journal := remote.journal ++ request.changes (remote.held request.name) answered.1 })

def answer (request : ApiRequest) (remote : RemoteServer) : request.Answer × RemoteServer :=
  match remote.failures with
  | some error :: later => (.error error, { remote with failures := later })
  | none :: later => { remote with failures := later }.perform request
  | [] => remote.perform request

instance : ApiBackend RemoteServer where
  answer := answer

theorem answer_cases (remote : RemoteServer) (request : ApiRequest) :
    (∃ error failures, ApiBackend.answer request remote = (.error error, { remote with failures })) ∨
      ∃ failures,
        ApiBackend.answer request remote = { remote with failures }.perform request := by
  change (∃ error failures, remote.answer request = _) ∨ ∃ failures, remote.answer request = _
  unfold answer
  cases remote.failures with
  | nil => exact .inr ⟨remote.failures, rfl⟩
  | cons fate later =>
      cases fate with
      | none => exact .inr ⟨later, rfl⟩
      | some error => exact .inl ⟨error, later, rfl⟩

/-- The journal tells what a server holds that nobody else writes to. -/
structure Recorded (remote : RemoteServer) : Prop where
  calm : remote.server.Calm
  held_eq : ∀ name, remote.held name = lastApplied remote.journal name

theorem empty_recorded (failures : List (Option StoreError)) : (empty failures).Recorded where
  calm := ⟨rfl, rfl, rfl⟩
  held_eq := fun _ => rfl

theorem Recorded.named {remote : RemoteServer} (recorded : remote.Recorded) :
    remote.server.Named := by
  intro name replica present
  have applied : lastApplied remote.journal name = some replica :=
    (recorded.held_eq name).symm.trans present
  exact (mem_of_lastApplied applied).2

/-- A server as requests about one name make it. -/
structure Since (start : RemoteServer) (name : String) (remote : RemoteServer) : Prop where
  recorded : remote.Recorded
  elsewhere : ∀ other, other ≠ name → remote.held other = start.held other
  journal : start.journal <+: remote.journal

theorem Recorded.since {remote : RemoteServer} (recorded : remote.Recorded) (name : String) :
    Since remote name remote :=
  ⟨recorded, fun _ _ => rfl, List.prefix_rfl⟩

theorem Recorded.fulfilled_perform {remote : RemoteServer} (recorded : remote.Recorded)
    {request : ApiRequest} {yield : request.Yield}
    (succeeded : (remote.perform request).1 = .ok yield) :
    request.Fulfilled yield (remote.held request.name)
      ((remote.perform request).2.held request.name) := by
  have answered : ApiBackend.answer request remote.server =
      (.ok yield, (ApiBackend.answer request remote.server).2) :=
    Prod.ext succeeded rfl
  exact (MemoryServer.truthful request.name).fulfilled recorded.named rfl answered

theorem Recorded.local_perform {remote : RemoteServer} (recorded : remote.Recorded)
    (request : ApiRequest) :
    MemoryServer.Local remote.server (remote.perform request).2.server request
      (remote.perform request).1 :=
  recorded.calm.local_answer recorded.named request

theorem Recorded.changes_perform {remote : RemoteServer} (recorded : remote.Recorded)
    (request : ApiRequest) :
    request.changes (remote.held request.name) (remote.perform request).1 = [] ∧
        (remote.perform request).2.held request.name = remote.held request.name ∨
      ∃ change, request.changes (remote.held request.name) (remote.perform request).1 =
          [change] ∧ change.name = request.name ∧
        (remote.perform request).2.held request.name = change.replica? := by
  cases answered : (remote.perform request).1 with
  | ok yield =>
      refine ApiRequest.changes_of_fulfilled (recorded.fulfilled_perform answered) ?_
      exact (recorded.named.answer request) request.name _
  | error error =>
      have same := (recorded.local_perform request).refused error answered
      refine .inl ⟨request.changes_error _ error, ?_⟩
      unfold held
      rw [same]

theorem Recorded.perform {remote : RemoteServer} (recorded : remote.Recorded)
    (request : ApiRequest) : Since remote request.name (remote.perform request).2 := by
  have performed := recorded.local_perform request
  refine ⟨⟨performed.calm, fun name => ?_⟩, performed.elsewhere, List.prefix_append _ _⟩
  change (remote.perform request).2.held name =
    lastApplied (remote.journal ++
      request.changes (remote.held request.name) (remote.perform request).1) name
  -- The journal grows by one change at most, and that one is about the name of the request.
  rcases recorded.changes_perform request with ⟨none, same⟩ | ⟨change, single, about, holds⟩
  · rw [none, List.append_nil, ← recorded.held_eq]
    by_cases here : name = request.name
    · rw [here, same]
    · exact performed.elsewhere name here
  · rw [single, lastApplied_concat, about, ← recorded.held_eq]
    by_cases here : name = request.name
    · rw [if_pos here, here, holds]
    · rw [if_neg here]
      exact performed.elsewhere name here

theorem Since.trans {first second third : RemoteServer} {name : String}
    (left : Since first name second) (right : Since second name third) :
    Since first name third where
  recorded := right.recorded
  elsewhere := fun other apart => (right.elsewhere other apart).trans (left.elsewhere other apart)
  journal := left.journal.trans right.journal

theorem Recorded.answer {remote : RemoteServer} (recorded : remote.Recorded)
    (request : ApiRequest) :
    Since remote request.name (ApiBackend.answer request remote).2 := by
  rcases remote.answer_cases request with ⟨error, failures, failed⟩ | ⟨failures, performed⟩
  · rw [failed]
    exact ⟨⟨recorded.calm, recorded.held_eq⟩, fun _ _ => rfl, List.prefix_rfl⟩
  · rw [performed]
    have reached : { remote with failures }.Recorded := ⟨recorded.calm, recorded.held_eq⟩
    exact ⟨(reached.perform request).recorded, (reached.perform request).elsewhere,
      (reached.perform request).journal⟩

theorem truthful (start : RemoteServer) (name : String) :
    Truthful name (held name) (Since start name) where
  named := fun since present => since.recorded.named name _ present
  kept := by
    rintro remote request since rfl
    exact since.trans (since.recorded.answer request)
  fulfilled := by
    rintro remote after request yield since rfl answered
    rcases remote.answer_cases request with ⟨error, failures, failed⟩ | ⟨failures, performed⟩
    · rw [failed] at answered
      cases answered
    · have reached : { remote with failures }.Recorded :=
        ⟨since.recorded.calm, since.recorded.held_eq⟩
      rw [performed] at answered
      have fulfilled := reached.fulfilled_perform (congrArg Prod.fst answered)
      rw [answered] at fulfilled
      exact fulfilled

theorem unmoved (start : RemoteServer) (name : String) :
    Unmoved name (held name) (Since start name) := by
  rintro remote after request error since rfl answered
  rcases remote.answer_cases request with ⟨_, failures, failed⟩ | ⟨failures, performed⟩
  · rw [failed] at answered
    cases answered
    rfl
  · have reached : { remote with failures }.Recorded :=
      ⟨since.recorded.calm, since.recorded.held_eq⟩
    rw [performed] at answered
    have same := (reached.local_perform request).refused error (congrArg Prod.fst answered)
    rw [answered] at same
    unfold held
    rw [same]

end RemoteServer

end PolicyReplica
