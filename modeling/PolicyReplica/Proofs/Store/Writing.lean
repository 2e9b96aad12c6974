import PolicyReplica.Proofs.Api.Answers
import PolicyReplica.Proofs.Index.Replay

/-
The store while others write and requests fail.

An operation works on one name. It goes through its requests with any copy of the
replica to start from, and either puts into the index what the server now holds, or
leaves the index alone. Main statement: a snapshot that was written is held by the
server and by the index, with an empty status; only the status was cleared, and the
contents left as they were, if the index had these contents with an error status.
-/

namespace PolicyReplica

def SameOrFailing (left right : Option Replica) : Prop :=
  left = right ∨ ∃ first second, left = some first ∧ right = some second ∧
    second.statusMessage = first.statusMessage ∧ first.statusMessage ≠ ""

theorem SameOrFailing.refl (holding : Option Replica) : SameOrFailing holding holding :=
  .inl rfl

theorem SameOrFailing.trans {first second third : Option Replica}
    (left : SameOrFailing first second) (right : SameOrFailing second third) :
    SameOrFailing first third := by
  rcases left with rfl | ⟨one, two, rfl, rfl, same, failing⟩
  · exact right
  · rcases right with rfl | ⟨other, three, held, rfl, again, _⟩
    · exact .inr ⟨one, two, rfl, rfl, same, failing⟩
    · obtain rfl := Option.some.inj held
      exact .inr ⟨one, three, rfl, rfl, again.trans same, failing⟩

/-- Nothing but the same can be held in place of a replica without an error status. -/
theorem SameOrFailing.eq_of_cleared {before : Option Replica} {replica : Replica}
    (same : SameOrFailing before (some replica)) (cleared : replica.statusMessage = "") :
    some replica = before := by
  rcases same with same | ⟨first, second, _, held, sameStatus, failing⟩
  · exact same.symm
  · obtain rfl := Option.some.inj held
    exact absurd (sameStatus.symm.trans cleared) failing

namespace Store

variable {σ : Type} [ApiBackend σ] {name : String} {held : σ → Option Replica} {sound : σ → Prop}
variable {server : σ} {snapshot : Snapshot}

theorem run_ask_cases (truthful : Truthful name held sound) (index : DomainIndex)
    (isSound : sound server) (request : ApiRequest) (about : request.name = name) :
    (∃ yield after, (Exchange.ask request).run (index, server) = (.ok yield, index, after) ∧
        sound after ∧ request.Fulfilled yield (held server) (held after)) ∨
      ∃ error after, (Exchange.ask request).run (index, server) = (.error error, index, after) ∧
        sound after ∧ (Unmoved name held sound → held after = held server) := by
  rw [Exchange.run_ask]
  rcases answered : ApiBackend.answer request server with ⟨answer, after⟩
  have stillSound := truthful.sound_of_answer isSound about answered
  cases answer with
  | ok yield =>
      exact .inl ⟨yield, after, rfl, stillSound, truthful.fulfilled isSound about answered⟩
  | error error =>
      exact .inr ⟨error, after, rfl, stillSound, fun unmoved => unmoved isSound about answered⟩

/-- Only the status was cleared, because a copy of the replica had the contents already. -/
def OnlyCleared (snapshot : Snapshot) (copy before : Option Replica) (replica : Replica) : Prop :=
  ∃ cached current, copy = some cached ∧ cached.snapshot.sameContent snapshot = true ∧
    cached.statusMessage ≠ "" ∧ before = some current ∧ replica.snapshot = current.snapshot

/-- An update that succeeds returns what the server then holds. One that fails after the
contents were replaced leaves the error status behind. -/
theorem update_cases (truthful : Truthful name held sound) {existing : Replica}
    (existingName : existing.name = name) (snapshotName : snapshot.name = name)
    (unsettled : ¬ existing.Mirrors snapshot) (index : DomainIndex) (isSound : sound server) :
    (∃ updated after, (update existing snapshot).run (index, server) =
        (.ok updated, index, after) ∧ sound after ∧ held after = some updated ∧
        updated.statusMessage = "" ∧ (updated.snapshot.sameContent snapshot = true ∨
          OnlyCleared snapshot (some existing) (held server) updated)) ∨
      ∃ error after, (update existing snapshot).run (index, server) =
        (.error error, index, after) ∧ sound after ∧
        (Unmoved name held sound → SameOrFailing (held server) (held after)) := by
  have cleared_of_status : ∀ {updated : Replica}, updated.status = some { message := "" } →
      updated.statusMessage = "" := by
    intro updated status
    unfold Replica.statusMessage
    rw [status]
    rfl
  unfold update
  by_cases same : existing.snapshot.sameContent snapshot = true
  · -- Nothing is replaced, so no version is compared with that of the server.
    have failing : existing.statusMessage ≠ "" := fun cleared => unsettled ⟨same, cleared⟩
    simp only [same, if_true, Exchange.run_bind, Exchange.run_pure, if_neg failing]
    rcases run_ask_cases truthful index isSound (.setStatus snapshot.name "") snapshotName with
      ⟨updated, after, run, stillSound, holds, status, current, present, contents⟩ |
        ⟨error, after, run, stillSound, unmoved⟩
    · exact .inl ⟨updated, after, run, stillSound, holds, cleared_of_status status,
        .inr ⟨existing, current, rfl, same, failing, present, contents⟩⟩
    · exact .inr ⟨error, after, run, stillSound, fun quiet => .inl (unmoved quiet).symm⟩
  · simp only [same, if_false, Exchange.run_bind, Bool.false_eq_true]
    rcases run_ask_cases truthful index isSound (.replace { existing with snapshot })
        existingName with
      ⟨replaced, between, run, soundBetween, holds, contents, current, present, status⟩ |
        ⟨error, after, run, stillSound, unmoved⟩
    · have replacedContents : replaced.snapshot.sameContent snapshot = true := by
        rw [contents]
        exact snapshot.sameContent_self
      rw [run]
      by_cases cleared : replaced.statusMessage = ""
      · simp only [if_pos cleared]
        exact .inl ⟨replaced, between, rfl, soundBetween, holds, cleared, .inl replacedContents⟩
      · simp only [if_neg cleared]
        have sameStatus : replaced.statusMessage = current.statusMessage := by
          unfold Replica.statusMessage
          rw [status]
        rcases run_ask_cases truthful index soundBetween (.setStatus snapshot.name "")
            snapshotName with
          ⟨updated, after, again, stillSound, holdsAgain, clearedStatus, prior, before, kept⟩ |
            ⟨error, after, again, stillSound, unmoved⟩
        · obtain rfl : replaced = prior := Option.some.inj (holds.symm.trans before)
          refine .inl ⟨updated, after, again, stillSound, holdsAgain,
            cleared_of_status clearedStatus, .inl ?_⟩
          rw [kept]
          exact replacedContents
        · refine .inr ⟨error, after, again, stillSound, fun quiet => .inr ⟨current, replaced,
            present, (unmoved quiet).trans holds, sameStatus, ?_⟩⟩
          rw [← sameStatus]
          exact cleared
    · rw [run]
      exact .inr ⟨error, after, rfl, stillSound, fun quiet => .inl (unmoved quiet).symm⟩

/-! ### Attempts -/

/-- How an attempt to store a snapshot ends that started from a copy of the replica, by what
the server held before and holds after it. Without other writers the server holds something
else after an attempt that wrote nothing into the index only if a status was to be cleared. -/
inductive Ended (quiet : Prop) (snapshot : Snapshot) (index : DomainIndex)
    (copy before : Option Replica) :
    Except StoreError Applied → DomainIndex → Option Replica → Prop where
  | written {applied : Applied} {replica : Replica} (wrote : applied ≠ .unchanged)
      (cleared : replica.statusMessage = "")
      (contents : replica.snapshot.sameContent snapshot = true ∨
        OnlyCleared snapshot copy before replica) :
      Ended quiet snapshot index copy before (.ok applied) (index.apply replica).2 (some replica)
  | settled {existing : Replica} {after : Option Replica} (mirrors : existing.Mirrors snapshot)
      (source : copy = some existing ∧ after = before ∨ after = some existing)
      (kept : quiet → SameOrFailing before after) :
      Ended quiet snapshot index copy before (.ok .unchanged) index after
  | failed {error : StoreError} {after : Option Replica}
      (kept : quiet → SameOrFailing before after) :
      Ended quiet snapshot index copy before (.error error) index after

/-- An attempt that goes on from what was fetched ends as the whole attempt does. -/
theorem Ended.again {quiet : Prop} {index other : DomainIndex}
    {copy before between after : Option Replica} {result : Except StoreError Applied}
    (ended : Ended quiet snapshot index between between result other after)
    (kept : quiet → SameOrFailing before between) :
    Ended quiet snapshot index copy before result other after := by
  cases ended with
  | written wrote cleared contents =>
      refine .written wrote cleared (.inl ?_)
      -- What was fetched is what the server held, so its contents are those of the snapshot.
      rcases contents with same | ⟨cached, current, fetched, same, _, present, contents⟩
      · exact same
      · obtain rfl : cached = current := Option.some.inj (fetched.symm.trans present)
        rw [contents]
        exact same
  | settled mirrors source keptLater =>
      refine .settled mirrors (.inr ?_) fun isQuiet => (kept isQuiet).trans (keptLater isQuiet)
      rcases source with ⟨fetched, unchanged⟩ | present
      · exact unchanged.trans fetched
      · exact present
  | failed keptLater =>
      exact .failed fun isQuiet => (kept isQuiet).trans (keptLater isQuiet)

def reconcile (name : String) (snapshot : Snapshot) (rounds : Nat) (existing : Replica) :
    Exchange (Except StoreError Applied) := do
  if existing.snapshot.sameContent snapshot ∧ existing.statusMessage = "" then
    pure (.ok .unchanged)
  else
    match ← update existing snapshot with
    | .ok updated => do
        Exchange.adopt updated
        pure (.ok .updated)
    | .error (.conflict _) | .error (.notFound _) => do
        match ← Exchange.ask (.get name) with
        | .ok fetched => attempt name snapshot rounds fetched
        | .error error => pure (.error error)
    | .error error => pure (.error error)

theorem attempt_some (name : String) (snapshot : Snapshot) (rounds : Nat) (existing : Replica) :
    attempt name snapshot (rounds + 1) (some existing) =
      reconcile name snapshot rounds existing := rfl

theorem attempt_none (name : String) (snapshot : Snapshot) (rounds : Nat) :
    attempt name snapshot (rounds + 1) none = (do
      match ← Exchange.ask (.create (Replica.ofSnapshot snapshot)) with
      | .ok created => do
          Exchange.adopt created
          pure (.ok .created)
      | .error (.alreadyExists _) => do
          match ← Exchange.ask (.get name) with
          | .ok (some existing) => reconcile name snapshot rounds existing
          | .ok none => attempt name snapshot rounds none
          | .error error => pure (.error error)
      | .error error => pure (.error error)) := rfl

def Ends (name : String) (held : σ → Option Replica) (sound : σ → Prop) (snapshot : Snapshot)
    (index : DomainIndex) (copy : Option Replica) (server : σ)
    (exchange : Exchange (Except StoreError Applied)) : Prop :=
  ∃ result other after, exchange.run (index, server) = (result, other, after) ∧ sound after ∧
    Ended (Unmoved name held sound) snapshot index copy (held server) result other (held after)

theorem Ends.of_run {index other : DomainIndex} {copy : Option Replica} {after : σ}
    {exchange : Exchange (Except StoreError Applied)} {result : Except StoreError Applied}
    (ends : Ends name held sound snapshot index copy server exchange)
    (run : exchange.run (index, server) = (result, other, after)) :
    sound after ∧
      Ended (Unmoved name held sound) snapshot index copy (held server) result other
        (held after) := by
  obtain ⟨_, _, _, ran, stillSound, ended⟩ := ends
  rw [run] at ran
  cases ran
  exact ⟨stillSound, ended⟩

theorem refetch_ends (truthful : Truthful name held sound) (index : DomainIndex)
    {copy before : Option Replica} {between : σ} (soundBetween : sound between)
    (kept : Unmoved name held sound → SameOrFailing before (held between))
    {continuation : (ApiRequest.get name).Answer → Exchange (Except StoreError Applied)}
    (later : ∀ fetched server, sound server → held server = fetched →
      Ends name held sound snapshot index fetched server (continuation (.ok fetched)))
    (givesUp : ∀ error, continuation (.error error) = pure (.error error)) :
    ∃ result other after,
      (Exchange.ask (.get name) >>= continuation).run (index, between) = (result, other, after) ∧
      sound after ∧
      Ended (Unmoved name held sound) snapshot index copy before result other (held after) := by
  rw [Exchange.run_bind]
  rcases run_ask_cases truthful index soundBetween (.get name) rfl with
    ⟨fetched, server, run, isSound, same, unchanged⟩ | ⟨error, after, run, isSound, unmoved⟩
  · rw [run]
    have holds : held server = fetched := unchanged.trans same.symm
    obtain ⟨result, other, after, goesOn, stillSound, ended⟩ := later fetched server isSound holds
    refine ⟨result, other, after, goesOn, stillSound, ?_⟩
    rw [← holds, unchanged] at ended
    exact ended.again kept
  · rw [run, givesUp]
    refine ⟨.error error, index, after, rfl, isSound, .failed fun quiet => ?_⟩
    rw [unmoved quiet]
    exact kept quiet

theorem reconcile_ends (truthful : Truthful name held sound) (snapshotName : snapshot.name = name)
    (index : DomainIndex) {rounds : Nat}
    (later : ∀ fetched server, sound server → held server = fetched →
      Ends name held sound snapshot index fetched server (attempt name snapshot rounds fetched))
    {existing : Replica} (existingName : existing.name = name) (isSound : sound server) :
    Ends name held sound snapshot index (some existing) server
      (reconcile name snapshot rounds existing) := by
  unfold Ends reconcile
  by_cases settled : existing.snapshot.sameContent snapshot = true ∧ existing.statusMessage = ""
  · refine ⟨.ok .unchanged, index, server, ?_, isSound,
      .settled settled (.inl ⟨rfl, rfl⟩) fun _ => .refl _⟩
    rw [if_pos settled]
    rfl
  · rw [if_neg settled]
    simp only [Exchange.run_bind]
    rcases update_cases truthful existingName snapshotName settled index isSound with
      ⟨updated, after, run, stillSound, holds, cleared, contents⟩ |
        ⟨error, between, run, soundBetween, kept⟩
    · rw [run]
      refine ⟨.ok .updated, (index.apply updated).2, after, rfl, stillSound, ?_⟩
      rw [holds]
      exact .written (by decide) cleared contents
    · rw [run]
      cases error with
      | conflict _ => exact refetch_ends truthful index soundBetween kept later fun _ => rfl
      | notFound _ => exact refetch_ends truthful index soundBetween kept later fun _ => rfl
      | alreadyExists _ => exact ⟨_, index, between, rfl, soundBetween, .failed kept⟩
      | invalidSnapshot _ _ => exact ⟨_, index, between, rfl, soundBetween, .failed kept⟩
      | api _ => exact ⟨_, index, between, rfl, soundBetween, .failed kept⟩

theorem attempt_ends (truthful : Truthful name held sound) (snapshotName : snapshot.name = name)
    (index : DomainIndex) (rounds : Nat) (copy : Option Replica) (server : σ)
    (copyName : ∀ existing, copy = some existing → existing.name = name)
    (isSound : sound server) :
    Ends name held sound snapshot index copy server (attempt name snapshot rounds copy) := by
  -- On the rounds that are left. Each starts from the copy that the last one fetched.
  induction rounds generalizing copy server with
  | zero => exact ⟨_, index, server, rfl, isSound, .failed fun _ => .refl _⟩
  | succ rounds ih =>
      have later : ∀ fetched server, sound server → held server = fetched →
          Ends name held sound snapshot index fetched server
            (attempt name snapshot rounds fetched) := by
        rintro _ server isSound rfl
        exact ih _ server (fun existing present => truthful.named isSound present) isSound
      cases copy with
      | some existing =>
          rw [attempt_some]
          exact reconcile_ends truthful snapshotName index later (copyName existing rfl) isSound
      | none =>
          rw [attempt_none]
          unfold Ends
          simp only [Exchange.run_bind]
          rcases run_ask_cases truthful index isSound (.create (Replica.ofSnapshot snapshot))
              snapshotName with
            ⟨created, after, run, stillSound, holds, contents, status⟩ |
              ⟨error, between, run, soundBetween, unmoved⟩
          · rw [run]
            refine ⟨.ok .created, (index.apply created).2, after, rfl, stillSound, ?_⟩
            rw [holds]
            refine .written (by decide) ?_ (.inl ?_)
            · unfold Replica.statusMessage
              rw [status]
              rfl
            · rw [contents]
              exact snapshot.sameContent_self
          · rw [run]
            have kept : Unmoved name held sound → SameOrFailing (held server) (held between) :=
              fun quiet => .inl (unmoved quiet).symm
            cases error with
            | alreadyExists _ =>
                refine refetch_ends truthful index soundBetween kept ?_ fun _ => rfl
                intro fetched server isSound holds
                cases fetched with
                | some existing =>
                    exact reconcile_ends truthful snapshotName index later
                      (truthful.named isSound holds) isSound
                | none => exact later none server isSound holds
            | conflict _ => exact ⟨_, index, between, rfl, soundBetween, .failed kept⟩
            | notFound _ => exact ⟨_, index, between, rfl, soundBetween, .failed kept⟩
            | invalidSnapshot _ _ => exact ⟨_, index, between, rfl, soundBetween, .failed kept⟩
            | api _ => exact ⟨_, index, between, rfl, soundBetween, .failed kept⟩

theorem createOrUpdate_ends (truthful : Truthful name held sound) {index : DomainIndex}
    (consistent : index.Consistent) (snapshot : Snapshot) (isSound : sound server) :
    Ends name held sound snapshot index (index.get? name) server
      (createOrUpdate name snapshot) := by
  unfold Store.createOrUpdate
  by_cases named : snapshot.name = name
  · rw [if_neg (not_not.mpr named)]
    exact attempt_ends truthful named index (maxConflicts + 1) (index.get? name) server
      (consistent.named name) isSound
  · rw [if_pos named]
    exact ⟨_, index, server, rfl, isSound, .failed fun _ => .refl _⟩

/-- A snapshot that was written is what the server and the index hold, and there is no error
status. The contents are others only if the index held a copy with the contents that were
asked for and with an error status: the status alone was cleared then, of whatever contents
the server held. -/
theorem createOrUpdate_mirrors (history : List MemoryServer.Event) (changes : List IndexChange)
    (name : String) (snapshot : Snapshot) {applied : Applied} {index : DomainIndex}
    {server : MemoryServer}
    (run : (createOrUpdate name snapshot).run
      (DomainIndex.replay changes, MemoryServer.replay history) = (.ok applied, index, server))
    (wrote : applied ≠ .unchanged) :
    ∃ replica, server.objects.get? name = some replica ∧ index.get? name = some replica ∧
      replica.statusMessage = "" ∧
      (replica.snapshot.sameContent snapshot = true ∨
        OnlyCleared snapshot ((DomainIndex.replay changes).get? name)
          ((MemoryServer.replay history).objects.get? name) replica) := by
  have truthful := MemoryServer.truthful name
  obtain ⟨result, other, after, ran, named, ended⟩ :=
    createOrUpdate_ends truthful (DomainIndex.replay_consistent changes) snapshot
      (MemoryServer.replay_named history)
  rw [run] at ran
  obtain ⟨rfl, rfl, rfl⟩ : Except.ok applied = result ∧ index = other ∧ server = after := by
    simpa using ran
  obtain ⟨final, holding⟩ : ∃ final, server.objects.get? name = final := ⟨_, rfl⟩
  simp only [holding] at ended
  cases ended with
  | settled => exact absurd rfl wrote
  | @written _ replica _ cleared contents =>
      have replicaName : replica.name = name := named name replica holding
      refine ⟨replica, holding, ?_, cleared, contents⟩
      rw [DomainIndex.get?_apply, if_pos replicaName.symm]

def shop (trust : Option String) : Snapshot :=
  { domain :=
      { name := "shop"
        modified := .epoch
        enabled := none
        roles :=
          [{ name := "sellers", modified := none, members := none, roleMembers := none, trust }]
        policies := .empty }
    signature := ""
    keyId := "" }

def failing (snapshot : Snapshot) : Replica :=
  { Replica.ofSnapshot snapshot with status := some { message := "no answer" } }

/-- Two replacements lose against others, and a copy is out of date in its status. -/
theorem createOrUpdate_mirrors_contested :
    ∃ index server replica,
      (createOrUpdate "shop" (shop none)).run
        (DomainIndex.replay [.apply (.ofSnapshot (shop (some "bank")))],
          MemoryServer.replay [.stored (failing (shop (some "bank"))), .conflicts 2]) =
        (.ok .updated, index, server) ∧
      server.objects.get? "shop" = some replica ∧ index.get? "shop" = some replica ∧
      replica.Mirrors (shop none) := by
  obtain ⟨replica, held, indexed, cleared, contents⟩ :=
    createOrUpdate_mirrors [.stored (failing (shop (some "bank"))), .conflicts 2]
      [.apply (.ofSnapshot (shop (some "bank")))] "shop" (shop none) rfl (by decide)
  refine ⟨_, _, replica, rfl, held, indexed, ?_, cleared⟩
  rcases contents with same | ⟨cached, _, copied, same, _⟩
  · exact same
  · obtain rfl : Replica.ofSnapshot (shop (some "bank")) = cached := Option.some.inj copied
    exact absurd same (by decide)

/-- The index has the contents that are asked for, with an error status, while somebody else
has stored other contents. The status is cleared, and those contents are taken over. -/
theorem createOrUpdate_leaves_other_contents :
    ∃ index server replica,
      (createOrUpdate "shop" (shop none)).run
        (DomainIndex.replay [.apply (failing (shop none))],
          MemoryServer.replay [.stored (.ofSnapshot (shop (some "bank")))]) =
        (.ok .updated, index, server) ∧
      server.objects.get? "shop" = some replica ∧ index.get? "shop" = some replica ∧
      replica.snapshot.sameContent (shop none) = false :=
  ⟨_, _, _, rfl, rfl, rfl, by decide⟩

end Store

end PolicyReplica
