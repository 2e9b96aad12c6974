import PolicyReplica.Proofs.Api.Remote
import PolicyReplica.Proofs.Store.Writing

/-
The store as the only writer of an API server out of reach.

Main statement: whatever requests fail, the index holds the names that the server holds,
with the same error statuses, and it holds the same object under each name whose status
is empty. It holds the same objects under all names as long as no call broke off, that is,
failed after a request of it had changed the server.
-/

namespace PolicyReplica

inductive StoreCall where
  | createOrUpdate (name : String) (snapshot : Snapshot)
  | remove (name : String)
  | setErrorStatus (name message : String)

namespace StoreCall

def name : StoreCall → String
  | .createOrUpdate name _ | .remove name | .setErrorStatus name _ => name

abbrev Yield : StoreCall → Type
  | .createOrUpdate _ _ => Applied
  | .remove _ => Bool
  | .setErrorStatus _ _ => Unit

def exchange : (call : StoreCall) → Exchange (Except StoreError call.Yield)
  | .createOrUpdate name snapshot => Store.createOrUpdate name snapshot
  | .remove name => Store.remove name
  | .setErrorStatus name message => Store.setErrorStatus name message

end StoreCall

namespace Store

/-- What a call leaves behind: the index is changed under the name of the call only, and
holds what the server now holds, or else is not changed at all. What the server holds has
then not changed if the call succeeded, and was to lose an error status if it failed. -/
structure Through (index other : DomainIndex) (name : String) (before after : Option Replica)
    (succeeded : Prop) : Prop where
  consistent : other.Consistent
  elsewhere : ∀ different, different ≠ name → other.get? different = index.get? different
  here : other.get? name = after ∨
    other.get? name = index.get? name ∧ SameOrFailing before after ∧ (succeeded → after = before)

section

variable {index : DomainIndex} {name : String} {before after : Option Replica} {succeeded : Prop}

theorem Through.adopt (consistent : index.Consistent) {replica : Replica}
    (named : replica.name = name) :
    Through index (index.apply replica).2 name before (some replica) succeeded where
  consistent := consistent.apply replica
  elsewhere := fun different apart => by
    rw [DomainIndex.get?_apply, named, if_neg apart]
  here := .inl (by rw [DomainIndex.get?_apply, if_pos named.symm])

theorem Through.drop (consistent : index.Consistent) :
    Through index (index.delete name).2 name before none succeeded where
  consistent := consistent.delete name
  elsewhere := fun different apart => by rw [DomainIndex.get?_delete, if_neg apart]
  here := .inl (by rw [DomainIndex.get?_delete, if_pos rfl])

theorem Through.leave (consistent : index.Consistent) (same : SameOrFailing before after)
    (unchanged : succeeded → after = before) :
    Through index index name before after succeeded where
  consistent := consistent
  elsewhere := fun _ _ => rfl
  here := .inr ⟨rfl, same, unchanged⟩

theorem Through.refl (consistent : index.Consistent) (held : Option Replica) :
    Through index index name held held succeeded :=
  .leave consistent (.refl held) fun _ => rfl

theorem Through.sameOrFailing {other : DomainIndex}
    (through : Through index other name before after succeeded)
    (alike : SameOrFailing (index.get? name) before) :
    SameOrFailing (other.get? name) after := by
  rcases through.here with here | ⟨here, same, _⟩
  · rw [here]
    exact .refl after
  · rw [here]
    exact alike.trans same

theorem Through.agrees {other : DomainIndex}
    (through : Through index other name before after succeeded)
    (agreed : index.get? name = before) (whole : succeeded ∨ after = before) :
    other.get? name = after := by
  rcases through.here with here | ⟨here, _, unchanged⟩
  · exact here
  · rw [here, agreed]
    rcases whole with success | same
    · exact (unchanged success).symm
    · exact same.symm

end

variable {σ : Type} [ApiBackend σ] {name : String} {held : σ → Option Replica} {sound : σ → Prop}
variable {server : σ} {index : DomainIndex}

def GoesThrough {α : Type} (name : String) (held : σ → Option Replica) (sound : σ → Prop)
    (index : DomainIndex) (server : σ) (exchange : Exchange (Except StoreError α)) : Prop :=
  ∃ result other after, exchange.run (index, server) = (result, other, after) ∧ sound after ∧
    Through index other name (held server) (held after) (result.isOk = true)

theorem createOrUpdate_through (truthful : Truthful name held sound)
    (unmoved : Unmoved name held sound) (consistent : index.Consistent) (isSound : sound server)
    (snapshot : Snapshot) :
    GoesThrough name held sound index server (createOrUpdate name snapshot) := by
  obtain ⟨result, other, after, run, stillSound, ended⟩ :=
    createOrUpdate_ends truthful consistent snapshot isSound
  refine ⟨result, other, after, run, stillSound, ?_⟩
  obtain ⟨final, holding⟩ : ∃ final, held after = final := ⟨_, rfl⟩
  rw [holding] at ended ⊢
  cases ended with
  | written _ _ _ => exact .adopt consistent (truthful.named stillSound holding)
  | settled mirrors source kept =>
      refine .leave consistent (kept unmoved) fun _ => ?_
      -- What is held now has no error status, so it is what was held before.
      rcases source with ⟨_, unchanged⟩ | present
      · exact unchanged
      · have same := kept unmoved
        rw [present] at same ⊢
        exact same.eq_of_cleared mirrors.2
  | failed kept => exact .leave consistent (kept unmoved) fun success => nomatch success

theorem remove_through (truthful : Truthful name held sound) (unmoved : Unmoved name held sound)
    (consistent : index.Consistent) (isSound : sound server) :
    GoesThrough name held sound index server (remove name) := by
  unfold GoesThrough remove
  rw [Exchange.run_bind, Exchange.run_index]
  by_cases present : index.contains name = true
  · simp only [present, if_true, Exchange.run_bind]
    rcases run_ask_cases truthful index isSound (.delete name) rfl with
      ⟨_, after, run, stillSound, gone⟩ | ⟨error, after, run, stillSound, same⟩
    · rw [run]
      refine ⟨.ok true, (index.delete name).2, after, rfl, stillSound, ?_⟩
      rw [show held after = none from gone]
      exact .drop consistent
    · rw [run]
      refine ⟨.error error, index, after, rfl, stillSound, ?_⟩
      rw [same unmoved]
      exact .refl consistent _
  · simp only [present]
    exact ⟨.ok false, index, server, rfl, isSound, .refl consistent _⟩

theorem setErrorStatus_through (truthful : Truthful name held sound)
    (unmoved : Unmoved name held sound) (consistent : index.Consistent) (isSound : sound server)
    (message : String) :
    GoesThrough name held sound index server (setErrorStatus name message) := by
  unfold GoesThrough setErrorStatus
  rw [Exchange.run_bind, Exchange.run_index]
  cases copy : index.get? name with
  | none => exact ⟨.ok (), index, server, rfl, isSound, .refl consistent _⟩
  | some replica =>
      by_cases known : replica.statusMessage = message
      · simp only [if_pos known]
        exact ⟨.ok (), index, server, rfl, isSound, .refl consistent _⟩
      · simp only [if_neg known, Exchange.run_bind]
        rcases run_ask_cases truthful index isSound (.setStatus name message) rfl with
          ⟨updated, after, run, stillSound, holds, _⟩ | ⟨error, after, run, stillSound, same⟩
        · rw [run]
          refine ⟨.ok (), (index.apply updated).2, after, rfl, stillSound, ?_⟩
          rw [holds]
          exact .adopt consistent (truthful.named stillSound holds)
        · rw [run]
          refine ⟨.error error, index, after, rfl, stillSound, ?_⟩
          rw [same unmoved]
          exact .refl consistent _

end Store

namespace StoreCall

def perform (state : DomainIndex × RemoteServer) (call : StoreCall) : DomainIndex × RemoteServer :=
  (call.exchange.run state).2

/-- Holds of a call that fails after one of its requests changed the server. -/
def BreaksOff (state : DomainIndex × RemoteServer) (call : StoreCall) : Prop :=
  (call.exchange.run state).1.isOk = false ∧ (call.perform state).2.journal ≠ state.2.journal

instance (state : DomainIndex × RemoteServer) (call : StoreCall) :
    Decidable (call.BreaksOff state) :=
  inferInstanceAs (Decidable (_ ∧ _))

/-- What a call does to the index and to a server out of reach. -/
theorem through {index : DomainIndex} (consistent : index.Consistent) {remote : RemoteServer}
    (recorded : remote.Recorded) (call : StoreCall) :
    RemoteServer.Since remote call.name (call.perform (index, remote)).2 ∧
      Store.Through index (call.perform (index, remote)).1 call.name (remote.held call.name)
        ((call.perform (index, remote)).2.held call.name)
        ((call.exchange.run (index, remote)).1.isOk = true) := by
  have truthful := RemoteServer.truthful remote call.name
  have unmoved := RemoteServer.unmoved remote call.name
  have since := recorded.since call.name
  have goes : Store.GoesThrough call.name (RemoteServer.held call.name)
      (RemoteServer.Since remote call.name) index remote call.exchange := by
    cases call with
    | createOrUpdate name snapshot =>
        exact Store.createOrUpdate_through truthful unmoved consistent since snapshot
    | remove name => exact Store.remove_through truthful unmoved consistent since
    | setErrorStatus name message =>
        exact Store.setErrorStatus_through truthful unmoved consistent since message
  obtain ⟨result, other, after, run, stillSince, through⟩ := goes
  unfold perform
  rw [run]
  exact ⟨stillSince, through⟩

/-! ### Sequences of calls -/

def performAll (calls : List StoreCall) (state : DomainIndex × RemoteServer) :
    DomainIndex × RemoteServer :=
  calls.foldl (fun state call => call.perform state) state

def NoneBreaksOff : List StoreCall → DomainIndex × RemoteServer → Prop
  | [], _ => True
  | call :: later, state => ¬ call.BreaksOff state ∧ NoneBreaksOff later (call.perform state)

/-- An index and a server that differ in replicas with the same error status at most. -/
structure Tracks (index : DomainIndex) (remote : RemoteServer) : Prop where
  consistent : index.Consistent
  recorded : remote.Recorded
  alike : ∀ name, SameOrFailing (index.get? name) (remote.held name)

theorem Tracks.perform {index : DomainIndex} {remote : RemoteServer}
    (tracks : Tracks index remote) (call : StoreCall) :
    Tracks (call.perform (index, remote)).1 (call.perform (index, remote)).2 := by
  obtain ⟨since, through⟩ := call.through tracks.consistent tracks.recorded
  refine ⟨through.consistent, since.recorded, fun name => ?_⟩
  by_cases here : name = call.name
  · rw [here]
    exact through.sameOrFailing (tracks.alike call.name)
  · rw [through.elsewhere name here, since.elsewhere name here]
    exact tracks.alike name

/-- A call that does not break off leaves an index in step that was in step. -/
theorem agrees_perform {index : DomainIndex} (consistent : index.Consistent)
    {remote : RemoteServer} (recorded : remote.Recorded)
    (agreed : ∀ name, index.get? name = remote.held name) {call : StoreCall}
    (whole : ¬ call.BreaksOff (index, remote)) (name : String) :
    (call.perform (index, remote)).1.get? name = (call.perform (index, remote)).2.held name := by
  obtain ⟨since, through⟩ := call.through consistent recorded
  by_cases here : name = call.name
  · subst here
    refine through.agrees (agreed call.name) ?_
    cases success : (call.exchange.run (index, remote)).1.isOk with
    | true => exact .inl rfl
    | false =>
        have sameJournal := not_not.mp fun differs => whole ⟨success, differs⟩
        right
        rw [since.recorded.held_eq, sameJournal, ← recorded.held_eq]
  · rw [through.elsewhere name here, since.elsewhere name here]
    exact agreed name

theorem Tracks.performAll {index : DomainIndex} {remote : RemoteServer}
    (tracks : Tracks index remote) (calls : List StoreCall) :
    Tracks (performAll calls (index, remote)).1 (performAll calls (index, remote)).2 := by
  induction calls generalizing index remote with
  | nil => exact tracks
  | cons call later ih => exact ih (tracks.perform call)

theorem agrees_performAll {calls : List StoreCall} {index : DomainIndex} {remote : RemoteServer}
    (consistent : index.Consistent) (recorded : remote.Recorded)
    (agreed : ∀ name, index.get? name = remote.held name)
    (whole : NoneBreaksOff calls (index, remote)) (name : String) :
    (performAll calls (index, remote)).1.get? name =
      (performAll calls (index, remote)).2.held name := by
  induction calls generalizing index remote with
  | nil => exact agreed name
  | cons call later ih =>
      obtain ⟨since, through⟩ := call.through consistent recorded
      exact ih through.consistent since.recorded
        (agrees_perform consistent recorded agreed whole.1) whole.2

/-- The store never loses sight of what it wrote: after each of its calls the index holds the
objects of the server, except that under a name with an error status it may hold another
version with the same status; and no call that did not break off leads to such a version. -/
theorem performAll_tracks (failures : List (Option StoreError)) (calls : List StoreCall) :
    (∀ name, SameOrFailing
        ((performAll calls (.empty, .empty failures)).1.get? name)
        ((performAll calls (.empty, .empty failures)).2.held name)) ∧
      (NoneBreaksOff calls (.empty, .empty failures) → ∀ name,
        (performAll calls (.empty, .empty failures)).1.get? name =
          (performAll calls (.empty, .empty failures)).2.held name) := by
  have consistent := DomainIndex.empty_consistent
  have recorded := RemoteServer.empty_recorded failures
  have start : Tracks .empty (.empty failures) := ⟨consistent, recorded, fun _ => .refl _⟩
  exact ⟨(start.performAll calls).alike,
    agrees_performAll consistent recorded fun _ => rfl⟩

/-- Requests fail before they take effect; one call succeeds after it lost a round, and one
fails. -/
theorem performAll_tracks_refused :
    let calls : List StoreCall :=
      [.createOrUpdate "shop" (Store.shop none), .setErrorStatus "shop" "no answer",
        .createOrUpdate "shop" (Store.shop (some "bank")), .remove "shop"]
    let failures : List (Option StoreError) :=
      [none, none, some (.conflict "shop"), none, none, none, some (.api (some 500))]
    NoneBreaksOff calls (.empty, .empty failures) ∧ ∀ name,
      (performAll calls (.empty, .empty failures)).1.get? name =
        (performAll calls (.empty, .empty failures)).2.held name := by
  intro calls failures
  have whole : NoneBreaksOff calls (.empty, .empty failures) :=
    ⟨by decide, by decide, by decide, by decide, trivial⟩
  exact ⟨whole, (performAll_tracks failures calls).2 whole⟩

/-- A replacement takes effect, and the request to clear the status fails: the index keeps
the version before. -/
theorem performAll_misses_replacement :
    let calls : List StoreCall :=
      [.createOrUpdate "shop" (Store.shop none), .setErrorStatus "shop" "no answer",
        .createOrUpdate "shop" (Store.shop (some "bank"))]
    let failures : List (Option StoreError) := [none, none, none, some (.api (some 500))]
    (performAll calls (.empty, .empty failures)).1.get? "shop" ≠
      (performAll calls (.empty, .empty failures)).2.held "shop" := by
  decide

end StoreCall

end PolicyReplica
