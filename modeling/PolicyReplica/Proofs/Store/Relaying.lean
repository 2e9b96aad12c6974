import PolicyReplica.Proofs.Store.WriteThrough

/-
What the store puts into the index is what it was told last.

An operation is followed along all answers that it may get. It asks about one name only, and
it writes into the index what the answer before tells of that name. So whatever happens
between its requests, the index changes as the server was changed, and never otherwise.
-/

namespace PolicyReplica

def IndexChange.holding (name : String) : Option Replica → IndexChange
  | some replica => .apply replica
  | none => .delete name

theorem IndexChange.replica?_holding (name : String) (held : Option Replica) :
    (holding name held).replica? = held := by
  cases held <;> rfl

theorem IndexChange.name_holding {name : String} {held : Option Replica}
    (named : ∀ replica, held = some replica → replica.name = name) :
    (holding name held).name = name := by
  cases held with
  | none => rfl
  | some replica => exact named replica rfl

namespace ApiRequest

/-- What an answer tells of what is held under the name of the request, if it tells
anything. -/
def told? : (request : ApiRequest) → request.Answer → Option (Option Replica)
  | .get _, .ok found => some found
  | .create _, .ok stored => some (some stored)
  | .replace _, .ok stored => some (some stored)
  | .setStatus _ _, .ok stored => some (some stored)
  | .delete _, .ok _ => some none
  | .get _, .error _ | .create _, .error _ | .replace _, .error _ | .setStatus _ _, .error _
  | .delete _, .error _ => none

def Named (request : ApiRequest) (answer : request.Answer) : Prop :=
  ∀ replica, request.told? answer = some (some replica) → replica.name = request.name

theorem told?_error (request : ApiRequest) (error : StoreError) :
    request.told? (.error error) = none := by
  cases request <;> rfl

theorem told?_of_fulfilled {request : ApiRequest} {yield : request.Yield}
    {before after : Option Replica} (fulfilled : request.Fulfilled yield before after) :
    request.told? (.ok yield) = some after := by
  cases request with
  | get name => exact congrArg some (fulfilled.1.trans fulfilled.2.symm)
  | create replica => exact congrArg some fulfilled.1.symm
  | replace replica => exact congrArg some fulfilled.1.symm
  | setStatus name message => exact congrArg some fulfilled.1.symm
  | delete name => exact congrArg some (Eq.symm fulfilled)

end ApiRequest

namespace Exchange

variable {α β : Type} {name : String}

/-- Holds of an exchange about a name that writes into the index only what it was told last.
The condition at the end is on the result and on what was told last by then. -/
def Relays (name : String) (ends : Option (Option Replica) → α → Prop) :
    Option (Option Replica) → Exchange α → Prop
  | told, finished result => ends told result
  | told, readIndex next =>
      ∀ index : DomainIndex, index.Consistent → (next index).Relays name ends told
  | told, writeIndex change next =>
      (∃ held, told = some held ∧ change = fun index => index.change (.holding name held)) ∧
        next.Relays name ends told
  | _, call request next =>
      request.name = name ∧ ∀ answer, request.Named answer →
        (next answer).Relays name ends (request.told? answer)

variable {ends : Option (Option Replica) → α → Prop} {told : Option (Option Replica)}

theorem Relays.bind (ends : Option (Option Replica) → α → Prop) {exchange : Exchange α}
    {continuation : α → Exchange β} {later : Option (Option Replica) → β → Prop}
    (relays : exchange.Relays name ends told)
    (goesOn : ∀ told result, ends told result → (continuation result).Relays name later told) :
    (exchange >>= continuation).Relays name later told := by
  change (exchange.bind continuation).Relays name later told
  induction exchange generalizing told with
  | finished result => exact goesOn told result relays
  | readIndex next ih => exact fun index consistent => ih index (relays index consistent)
  | writeIndex change next ih => exact ⟨relays.1, ih relays.2⟩
  | call request next ih =>
      exact ⟨relays.1, fun answer named => ih answer (relays.2 answer named)⟩

theorem relays_pure {result : α} (holds : ends told result) :
    (pure result : Exchange α).Relays name ends told := holds

theorem relays_ask (request : ApiRequest) (about : request.name = name)
    {ends : Option (Option Replica) → request.Answer → Prop}
    (answered : ∀ answer, request.Named answer → ends (request.told? answer) answer) :
    (ask request).Relays name ends told := ⟨about, answered⟩

theorem relays_index {continuation : DomainIndex → Exchange β}
    {ends : Option (Option Replica) → β → Prop}
    (goesOn : ∀ index, index.Consistent → (continuation index).Relays name ends told) :
    (Exchange.index >>= continuation).Relays name ends told := goesOn

theorem relays_adopt (replica : Replica) (result : α) :
    (do adopt replica; pure result : Exchange α).Relays name (fun _ _ => True)
      (some (some replica)) := ⟨⟨some replica, rfl, rfl⟩, trivial⟩

theorem relays_drop (name : String) (result : α) :
    (do drop name; pure result : Exchange α).Relays name (fun _ _ => True) (some none) :=
  ⟨⟨none, rfl, rfl⟩, trivial⟩

end Exchange

namespace Store

open Exchange

variable {name : String} {snapshot : Snapshot} {told : Option (Option Replica)}

def ToldLast (told : Option (Option Replica)) (result : Except StoreError Replica) : Prop :=
  ∀ replica, result = .ok replica → told = some (some replica)

theorem setStatus_relays {about message : String} (same : about = name) :
    (ask (.setStatus about message)).Relays name ToldLast told := by
  refine relays_ask (.setStatus about message) same ?_
  rintro _ _ updated rfl
  rfl

/-- An update returns what it was told last. -/
theorem update_relays {existing : Replica} (existingName : existing.name = name)
    (snapshotName : snapshot.name = name) (unsettled : ¬ existing.Mirrors snapshot) :
    (update existing snapshot).Relays name ToldLast told := by
  unfold update
  by_cases same : existing.snapshot.sameContent snapshot = true
  · -- Nothing was told yet, so the status has to be the reason for the update.
    have failing : existing.statusMessage ≠ "" := fun empty => unsettled ⟨same, empty⟩
    rw [if_pos same]
    refine Relays.bind (fun _ result => result = .ok existing) (relays_pure rfl) ?_
    rintro told _ rfl
    simp only [if_neg failing]
    exact setStatus_relays snapshotName
  · rw [if_neg same]
    refine Relays.bind ToldLast
      (relays_ask (.replace { existing with snapshot }) existingName ?_) ?_
    · rintro _ _ replaced rfl
      rfl
    · intro told result returned
      cases result with
      | error error => exact relays_pure fun updated impossible => nomatch impossible
      | ok replaced =>
          by_cases empty : replaced.statusMessage = ""
          · simp only [if_pos empty]
            exact relays_pure returned
          · simp only [if_neg empty]
            exact setStatus_relays snapshotName

/-- What is fetched is of the right name. -/
theorem refetch_relays {α : Type} {ends : Option (Option Replica) → α → Prop}
    {continuation : (ApiRequest.get name).Answer → Exchange α}
    (later : ∀ fetched told, (∀ existing, fetched = some existing → existing.name = name) →
      (continuation (.ok fetched)).Relays name ends told)
    (givesUp : ∀ error told, (continuation (.error error)).Relays name ends told) :
    (ask (.get name) >>= continuation).Relays name ends told := by
  refine Relays.bind (fun _ answer => (ApiRequest.get name).Named answer)
    (relays_ask _ rfl fun _ named => named) ?_
  intro told answer named
  cases answer with
  | ok fetched =>
      exact later fetched told fun existing present => named existing (congrArg some present)
  | error error => exact givesUp error told

theorem reconcile_relays {rounds : Nat} (snapshotName : snapshot.name = name)
    (later : ∀ copy told, (∀ existing, copy = some existing → existing.name = name) →
      (attempt name snapshot rounds copy).Relays name (fun _ _ => True) told)
    {existing : Replica} (existingName : existing.name = name) :
    (reconcile name snapshot rounds existing).Relays name (fun _ _ => True) told := by
  unfold reconcile
  by_cases settled : existing.snapshot.sameContent snapshot = true ∧ existing.statusMessage = ""
  · rw [if_pos settled]
    exact relays_pure trivial
  · rw [if_neg settled]
    refine (update_relays existingName snapshotName settled).bind ToldLast ?_
    intro told result returned
    cases result with
    | ok updated =>
        rw [returned updated rfl]
        exact relays_adopt _ _
    | error error =>
        cases error with
        | conflict _ => exact refetch_relays later fun _ _ => relays_pure trivial
        | notFound _ => exact refetch_relays later fun _ _ => relays_pure trivial
        | alreadyExists _ => exact relays_pure trivial
        | invalidSnapshot _ _ => exact relays_pure trivial
        | api _ => exact relays_pure trivial

theorem attempt_relays (snapshotName : snapshot.name = name) (rounds : Nat)
    (copy : Option Replica) (told : Option (Option Replica))
    (copyName : ∀ existing, copy = some existing → existing.name = name) :
    (attempt name snapshot rounds copy).Relays name (fun _ _ => True) told := by
  induction rounds generalizing copy told with
  | zero => exact relays_pure trivial
  | succ rounds ih =>
      cases copy with
      | some existing =>
          rw [attempt_some]
          exact reconcile_relays snapshotName ih (copyName existing rfl)
      | none =>
          rw [attempt_none]
          refine Relays.bind ToldLast
            (relays_ask (.create (Replica.ofSnapshot snapshot)) snapshotName ?_) ?_
          · rintro _ _ created rfl
            rfl
          · intro told result returned
            cases result with
            | ok created =>
                rw [returned created rfl]
                exact relays_adopt _ _
            | error error =>
                cases error with
                | alreadyExists _ =>
                    refine refetch_relays ?_ fun _ _ => relays_pure trivial
                    intro fetched told fetchedName
                    cases fetched with
                    | some existing =>
                        exact reconcile_relays snapshotName ih (fetchedName existing rfl)
                    | none => exact ih none told fetchedName
                | conflict _ => exact relays_pure trivial
                | notFound _ => exact relays_pure trivial
                | invalidSnapshot _ _ => exact relays_pure trivial
                | api _ => exact relays_pure trivial

theorem createOrUpdate_relays (name : String) (snapshot : Snapshot) :
    (createOrUpdate name snapshot).Relays name (fun _ _ => True) told := by
  unfold createOrUpdate
  by_cases named : snapshot.name = name
  · rw [if_neg (not_not.mpr named)]
    refine relays_index fun index consistent => ?_
    exact attempt_relays named (maxConflicts + 1) (index.get? name) told (consistent.named name)
  · rw [if_pos named]
    exact relays_pure trivial

theorem remove_relays (name : String) :
    (remove name).Relays name (fun _ _ => True) told := by
  unfold remove
  refine relays_index fun index _ => ?_
  by_cases present : index.contains name = true
  · rw [if_pos present]
    refine Relays.bind (fun told result => ∀ done, result = .ok done → told = some none)
      (relays_ask _ rfl ?_) ?_
    · rintro _ _ done rfl
      rfl
    · intro told result returned
      cases result with
      | ok done =>
          rw [returned done rfl]
          exact relays_drop _ _
      | error error => exact relays_pure trivial
  · rw [if_neg present]
    exact relays_pure trivial

theorem setErrorStatus_relays (name message : String) :
    (setErrorStatus name message).Relays name (fun _ _ => True) told := by
  unfold setErrorStatus
  refine relays_index fun index _ => ?_
  cases index.get? name with
  | none => exact relays_pure trivial
  | some replica =>
      by_cases known : replica.statusMessage = message
      · simp only [if_pos known]
        exact relays_pure trivial
      · simp only [if_neg known]
        refine (setStatus_relays rfl).bind ToldLast ?_
        intro told result returned
        cases result with
        | ok updated =>
            rw [returned updated rfl]
            exact relays_adopt _ _
        | error error => exact relays_pure trivial

end Store

theorem StoreCall.relays (call : StoreCall) (told : Option (Option Replica)) :
    call.exchange.Relays call.name (fun _ _ => True) told := by
  cases call with
  | createOrUpdate name snapshot => exact Store.createOrUpdate_relays name snapshot
  | remove name => exact Store.remove_relays name
  | setErrorStatus name message => exact Store.setErrorStatus_relays name message

/-! ### Runs -/

def DomainIndex.Becomes (index other : DomainIndex) : Prop :=
  ∃ changes : List IndexChange, other = changes.foldl DomainIndex.change index

namespace DomainIndex

theorem Becomes.refl (index : DomainIndex) : index.Becomes index := ⟨[], rfl⟩

theorem Becomes.trans {first second third : DomainIndex} (left : first.Becomes second)
    (right : second.Becomes third) : first.Becomes third := by
  obtain ⟨changes, rfl⟩ := left
  obtain ⟨others, rfl⟩ := right
  exact ⟨changes ++ others, (List.foldl_append).symm⟩

theorem becomes_change (index : DomainIndex) (change : IndexChange) :
    index.Becomes (index.change change) := ⟨[change], rfl⟩

end DomainIndex

theorem Truthful.named_answer {σ : Type} [ApiBackend σ] {name : String}
    {held : σ → Option Replica} {sound : σ → Prop} (truthful : Truthful name held sound)
    {server : σ} (isSound : sound server) {request : ApiRequest} (about : request.name = name) :
    request.Named (ApiBackend.answer request server).1 := by
  rcases answered : ApiBackend.answer request server with ⟨answer, after⟩
  intro replica tells
  cases answer with
  | error error =>
      rw [request.told?_error] at tells
      cases tells
  | ok yield =>
      rw [ApiRequest.told?_of_fulfilled (truthful.fulfilled isSound about answered)] at tells
      have holds : held after = some replica := Option.some.inj tells
      rw [about]
      exact truthful.named (truthful.sound_of_answer isSound about answered) holds

/-- Run without interruption against a truthful server, too, an exchange changes the index by
changes only. -/
theorem Exchange.Relays.run {σ α : Type} [ApiBackend σ] {name : String}
    {held : σ → Option Replica} {sound : σ → Prop} (truthful : Truthful name held sound)
    {ends : Option (Option Replica) → α → Prop} {told : Option (Option Replica)}
    {exchange : Exchange α} (relays : exchange.Relays name ends told) {index : DomainIndex}
    (consistent : index.Consistent) {server : σ} (isSound : sound server) :
    index.Becomes (exchange.run (index, server)).2.1 ∧
      sound (exchange.run (index, server)).2.2 := by
  induction exchange generalizing told index server with
  | finished result => exact ⟨.refl index, isSound⟩
  | readIndex next ih => exact ih index (relays index consistent) consistent isSound
  | writeIndex change next ih =>
      obtain ⟨⟨held, _, rfl⟩, later⟩ := relays
      obtain ⟨becomes, stillSound⟩ := ih later (consistent.change (.holding name held)) isSound
      exact ⟨(index.becomes_change _).trans becomes, stillSound⟩
  | call request next ih =>
      obtain ⟨about, later⟩ := relays
      exact ih _ (later _ (truthful.named_answer isSound about)) consistent
        (truthful.kept request isSound about)

end PolicyReplica
