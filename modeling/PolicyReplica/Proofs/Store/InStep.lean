import PolicyReplica.Api.MemoryServer
import PolicyReplica.Proofs.Index.Consistency
import PolicyReplica.Store

/-
The store while nobody else writes and no request fails.

Then the index and the API server stay in step: an operation changes the object of one
name, in the same way on both sides.
-/

namespace PolicyReplica

/-- A replica with the contents of a snapshot and without an error status. -/
def Replica.Mirrors (replica : Replica) (snapshot : Snapshot) : Prop :=
  replica.snapshot.sameContent snapshot = true ∧ replica.statusMessage = ""

theorem Snapshot.sameContent_self (snapshot : Snapshot) : snapshot.sameContent snapshot = true :=
  decide_eq_true rfl

theorem Snapshot.trustDomains_of_sameContent {left right : Snapshot}
    (same : left.sameContent right = true) : left.trustDomains = right.trustDomains := by
  have equal : left.withoutSignatures = right.withoutSignatures := of_decide_eq_true same
  have cleared : left.withoutSignatures.trustDomains = right.withoutSignatures.trustDomains :=
    congrArg Snapshot.trustDomains equal
  exact cleared

def DomainIndex.Shows (index : DomainIndex) (domain : String) : Option Snapshot → Prop
  | none => index.get? domain = none
  | some snapshot => ∃ replica, index.get? domain = some replica ∧ replica.Mirrors snapshot

theorem DomainIndex.Shows.congr {index other : DomainIndex} {domain : String}
    {wanted : Option Snapshot} (shows : index.Shows domain wanted)
    (same : other.get? domain = index.get? domain) : other.Shows domain wanted := by
  cases wanted with
  | none => exact same.trans shows
  | some snapshot =>
      obtain ⟨replica, found, mirrors⟩ := shows
      exact ⟨replica, same.trans found, mirrors⟩

theorem DomainIndex.contains_of_shows {index : DomainIndex} {domain : String}
    {snapshot : Snapshot} (shows : index.Shows domain (some snapshot)) :
    index.contains domain = true := by
  obtain ⟨replica, found, _⟩ := shows
  exact congrArg Option.isSome found

theorem DomainIndex.Consistent.isTrustTarget_of_shows {index : DomainIndex}
    (consistent : index.Consistent) {domain target : String} {snapshot : Snapshot}
    (shows : index.Shows domain (some snapshot)) (trusted : target ∈ snapshot.trustDomains) :
    index.isTrustTarget target = true := by
  obtain ⟨replica, found, sameContent, _⟩ := shows
  refine (consistent.isTrustTarget_iff target).mpr ⟨domain, replica, found, ?_⟩
  rw [← replica.mem_trustDomains]
  unfold Replica.trustDomains
  rw [Snapshot.trustDomains_of_sameContent sameContent]
  exact trusted

namespace MemoryServer

/-- A server that nobody else writes to and whose requests do not fail. -/
structure Calm (server : MemoryServer) : Prop where
  conflicts : server.conflicts = 0
  race : server.race = none
  injected : server.injected = []

/-- A server that came from another by storing a replica, or by storing none. -/
structure Stored (before after : MemoryServer) (replica : Replica) : Prop where
  calm : after.Calm
  objects : ∀ name, after.objects.get? name =
    if name = replica.name then some replica else before.objects.get? name

def noted (server : MemoryServer) (request : ApiRequest) : MemoryServer :=
  { server with requests := server.requests ++ [request] }

theorem Calm.noted {server : MemoryServer} (calm : server.Calm) (request : ApiRequest) :
    (server.noted request).Calm :=
  ⟨calm.conflicts, calm.race, calm.injected⟩

/-- Where no failure is set up, a request is performed. -/
theorem answer_of_faultless {server : MemoryServer} (faultless : server.injected = [])
    (request : ApiRequest) :
    ApiBackend.answer request server = (server.noted request).perform request := by
  change server.answer request = _
  have nothingDue : takeFault request.method server.injected = none := by
    rw [faultless]
    rfl
  unfold MemoryServer.answer
  simp only [nothingDue]
  rfl

theorem Calm.answer {server : MemoryServer} (calm : server.Calm) (request : ApiRequest) :
    ApiBackend.answer request server = (server.noted request).perform request :=
  answer_of_faultless calm.injected request

theorem Calm.put {server : MemoryServer} (calm : server.Calm) (replica : Replica) :
    Stored server (server.put replica).2 (server.put replica).1 where
  calm := ⟨calm.conflicts, calm.race, calm.injected⟩
  objects := fun name => Table.get?_insert server.objects (server.put replica).1.name name _

theorem Stored.of_noted {server after : MemoryServer} {request : ApiRequest} {replica : Replica}
    (stored : Stored (server.noted request) after replica) : Stored server after replica :=
  ⟨stored.calm, stored.objects⟩

theorem Stored.trans {first second third : MemoryServer} {before after : Replica}
    (left : Stored first second before) (right : Stored second third after)
    (same : before.name = after.name) : Stored first third after where
  calm := right.calm
  objects := by
    intro name
    rw [right.objects, left.objects]
    by_cases here : name = after.name
    · rw [if_pos here, if_pos here]
    · rw [if_neg here, if_neg here, if_neg (same ▸ here)]

theorem Calm.create {server : MemoryServer} (calm : server.Calm) {replica : Replica}
    (absent : server.objects.get? replica.name = none) :
    ∃ created after, ApiBackend.answer (.create replica) server = (.ok created, after) ∧
      Stored server after created ∧ created.name = replica.name ∧
      created.snapshot = replica.snapshot ∧ created.status = replica.status := by
  have settled : (server.noted (.create replica)).Calm := calm.noted _
  refine ⟨_, _, ?_, (settled.put replica).of_noted, rfl, rfl, rfl⟩
  rw [calm.answer]
  change (server.noted (.create replica)).create replica = _
  have vacant : (server.noted (.create replica)).objects.contains replica.name = false := by
    change (server.objects.get? replica.name).isSome = false
    rw [absent]
    rfl
  unfold MemoryServer.create
  rw [settled.race]
  simp only [vacant]
  rfl

/-- A replacement based on the current version keeps the status, if nobody comes first. -/
theorem answer_replace_current {server : MemoryServer} (faultless : server.injected = [])
    (undisturbed : server.conflicts = 0) {replica current : Replica}
    (found : server.objects.get? replica.name = some current)
    (version : current.version = replica.version) :
    ApiBackend.answer (.replace replica) server =
      (.ok ((server.noted (.replace replica)).put { replica with status := current.status }).1,
        ((server.noted (.replace replica)).put { replica with status := current.status }).2) := by
  rw [answer_of_faultless faultless]
  change (server.noted (.replace replica)).replace replica = _
  have there : (server.noted (.replace replica)).objects.get? replica.name = some current := found
  have settled : (server.noted (.replace replica)).conflicts = 0 := undisturbed
  unfold MemoryServer.replace disturb
  rw [there]
  simp only [settled, if_true, there, Option.getD_some, version, ne_eq, not_true_eq_false,
    if_false]

theorem answer_setStatus_present {server : MemoryServer} (faultless : server.injected = [])
    {name : String} {current : Replica} (found : server.objects.get? name = some current)
    (message : String) :
    ApiBackend.answer (.setStatus name message) server =
      (.ok ((server.noted (.setStatus name message)).put
          { current with status := some { message } }).1,
        ((server.noted (.setStatus name message)).put
          { current with status := some { message } }).2) := by
  rw [answer_of_faultless faultless]
  change (server.noted (.setStatus name message)).setStatus name message = _
  have there : (server.noted (.setStatus name message)).objects.get? name = some current := found
  unfold MemoryServer.setStatus
  rw [there]

theorem Calm.replace {server : MemoryServer} (calm : server.Calm) {replica current : Replica}
    (found : server.objects.get? replica.name = some current)
    (version : current.version = replica.version) :
    ∃ replaced after, ApiBackend.answer (.replace replica) server = (.ok replaced, after) ∧
      Stored server after replaced ∧ replaced.name = replica.name ∧
      replaced.snapshot = replica.snapshot ∧ replaced.status = current.status := by
  have settled : (server.noted (.replace replica)).Calm := calm.noted _
  exact ⟨_, _, answer_replace_current calm.injected calm.conflicts found version,
    (settled.put { replica with status := current.status }).of_noted, rfl, rfl, rfl⟩

theorem Calm.setStatus {server : MemoryServer} (calm : server.Calm) {name : String}
    {current : Replica} (found : server.objects.get? name = some current) (message : String) :
    ∃ updated after, ApiBackend.answer (.setStatus name message) server = (.ok updated, after) ∧
      Stored server after updated ∧ updated.name = current.name ∧
      updated.snapshot = current.snapshot ∧ updated.status = some { message } := by
  have settled : (server.noted (.setStatus name message)).Calm := calm.noted _
  exact ⟨_, _, answer_setStatus_present calm.injected found message,
    (settled.put { current with status := some { message } }).of_noted, rfl, rfl, rfl⟩

end MemoryServer

theorem Exchange.run_ask_answered {σ : Type} [ApiBackend σ] {server after : σ}
    {request : ApiRequest} {answer : request.Answer}
    (answered : ApiBackend.answer request server = (answer, after)) (index : DomainIndex) :
    (Exchange.ask request).run (index, server) = (answer, index, after) := by
  rw [Exchange.run_ask, answered]

namespace Store

open MemoryServer

private theorem run_clear {server between : MemoryServer} (index : DomainIndex)
    {replica : Replica} {snapshot : Snapshot} (stored : Stored server between replica)
    (sameName : replica.name = snapshot.name)
    (sameContent : replica.snapshot.sameContent snapshot = true) :
    ∃ updated after,
      (if replica.statusMessage = "" then
          (pure (.ok replica) : Exchange (Except StoreError Replica))
        else Exchange.ask (.setStatus snapshot.name "")).run (index, between) =
          (.ok updated, index, after) ∧
      Stored server after updated ∧ updated.name = snapshot.name ∧ updated.Mirrors snapshot := by
  by_cases cleared : replica.statusMessage = ""
  · refine ⟨replica, between, ?_, stored, sameName, sameContent, cleared⟩
    rw [if_pos cleared]
    rfl
  · have there : between.objects.get? snapshot.name = some replica := by
      rw [stored.objects, if_pos sameName.symm]
    obtain ⟨updated, after, answered, storedAgain, sameAgain, contents, status⟩ :=
      stored.calm.setStatus there ""
    refine ⟨updated, after, ?_, stored.trans storedAgain sameAgain.symm,
      sameAgain.trans sameName, ?_, ?_⟩
    · rw [if_neg cleared, Exchange.run_ask, answered]
    · rw [contents]
      exact sameContent
    · unfold Replica.statusMessage
      rw [status]
      rfl

/-- An update leaves the contents of the snapshot and an empty status. -/
theorem run_update {server : MemoryServer} (calm : server.Calm) (index : DomainIndex)
    {existing : Replica} {snapshot : Snapshot} (sameName : existing.name = snapshot.name)
    (found : server.objects.get? existing.name = some existing) :
    ∃ updated after, (update existing snapshot).run (index, server) = (.ok updated, index, after) ∧
      Stored server after updated ∧ updated.name = snapshot.name ∧ updated.Mirrors snapshot := by
  unfold update
  by_cases same : existing.snapshot.sameContent snapshot = true
  · have unchanged : Stored server server existing := by
      refine ⟨calm, fun name => ?_⟩
      by_cases here : name = existing.name
      · rw [if_pos here, here, found]
      · rw [if_neg here]
    obtain ⟨updated, after, run, stored, named, mirrors⟩ :=
      run_clear index unchanged sameName same
    refine ⟨updated, after, ?_, stored, named, mirrors⟩
    simp only [same, if_true, Exchange.run_bind, Exchange.run_pure]
    exact run
  · let wanted : Replica := { existing with snapshot }
    have there : server.objects.get? wanted.name = some existing := found
    obtain ⟨replaced, between, answered, stored, named, contents, _⟩ := calm.replace there rfl
    have sameContent : replaced.snapshot.sameContent snapshot = true := by
      rw [contents]
      exact snapshot.sameContent_self
    obtain ⟨updated, after, run, storedAgain, namedAgain, mirrors⟩ :=
      run_clear index stored (named.trans sameName) sameContent
    refine ⟨updated, after, ?_, storedAgain, namedAgain, mirrors⟩
    simp only [same, if_false, Exchange.run_bind, Bool.false_eq_true]
    rw [Exchange.run_ask_answered answered]
    exact run

/-! ### Operations -/

/-- The index holds what the API server holds, and nobody else writes. -/
structure InStep (index : DomainIndex) (server : MemoryServer) : Prop where
  consistent : index.Consistent
  calm : server.Calm
  agrees : ∀ name, index.get? name = server.objects.get? name

theorem InStep.adopt {index : DomainIndex} {server after : MemoryServer} {replica : Replica}
    (inStep : InStep index server) (stored : Stored server after replica) :
    InStep (index.apply replica).2 after where
  consistent := inStep.consistent.apply replica
  calm := stored.calm
  agrees := by
    intro name
    rw [DomainIndex.get?_apply, stored.objects, inStep.agrees]

/-- A state that differs from another in what is held under one name at most. -/
structure Changed (index other : DomainIndex) (server : MemoryServer) (name : String)
    (held : Option Replica) : Prop where
  inStep : InStep other server
  here : other.get? name = held
  elsewhere : ∀ different, different ≠ name → other.get? different = index.get? different

theorem InStep.changed_adopt {index : DomainIndex} {server after : MemoryServer}
    {replica : Replica} (inStep : InStep index server) (stored : Stored server after replica) :
    Changed index (index.apply replica).2 after replica.name (some replica) where
  inStep := inStep.adopt stored
  here := by rw [DomainIndex.get?_apply, if_pos rfl]
  elsewhere := fun different apart => by rw [DomainIndex.get?_apply, if_neg apart]

/-- A snapshot is stored without fail, and its contents are then held under its name. -/
theorem InStep.createOrUpdate {index : DomainIndex} {server : MemoryServer}
    (inStep : InStep index server) {name : String} {snapshot : Snapshot}
    (named : snapshot.name = name) :
    ∃ applied other after replica,
      (createOrUpdate name snapshot).run (index, server) = (.ok applied, other, after) ∧
      Changed index other after name (some replica) ∧ replica.Mirrors snapshot := by
  unfold Store.createOrUpdate
  rw [if_neg (not_not.mpr named), Exchange.run_bind, Exchange.run_index]
  unfold attempt
  cases held : index.get? name with
  | none =>
      have absent : server.objects.get? (Replica.ofSnapshot snapshot).name = none := by
        change server.objects.get? snapshot.name = none
        rw [named, ← inStep.agrees, held]
      obtain ⟨created, after, answered, stored, sameName, contents, status⟩ :=
        inStep.calm.create absent
      have atName : created.name = name := sameName.trans named
      refine ⟨.created, (index.apply created).2, after, created, ?_,
        atName ▸ inStep.changed_adopt stored, ?_, ?_⟩
      · simp only [Exchange.run_bind]
        rw [Exchange.run_ask_answered answered]
        rfl
      · rw [contents]
        exact snapshot.sameContent_self
      · unfold Replica.statusMessage
        rw [status]
        rfl
  | some existing =>
      have atName : existing.name = name := inStep.consistent.named name existing held
      have there : server.objects.get? existing.name = some existing := by
        rw [atName, ← inStep.agrees, held]
      by_cases settled :
          existing.snapshot.sameContent snapshot = true ∧ existing.statusMessage = ""
      · refine ⟨.unchanged, index, server, existing, ?_, ⟨inStep, held, fun _ _ => rfl⟩, settled⟩
        simp only [settled, and_self, if_true]
        rfl
      · obtain ⟨updated, after, run, stored, sameName, mirrors⟩ :=
          run_update inStep.calm index (atName.trans named.symm) there
        have updatedAtName : updated.name = name := sameName.trans named
        refine ⟨.updated, (index.apply updated).2, after, updated, ?_,
          updatedAtName ▸ inStep.changed_adopt stored, mirrors⟩
        simp only [settled, if_false, Exchange.run_bind]
        rw [run]
        rfl

theorem InStep.remove {index : DomainIndex} {server : MemoryServer}
    (inStep : InStep index server) (name : String) :
    ∃ removed other after,
      (remove name).run (index, server) = (.ok removed, other, after) ∧
      Changed index other after name none := by
  unfold Store.remove
  rw [Exchange.run_bind, Exchange.run_index]
  cases held : index.get? name with
  | none =>
      have absent : index.contains name = false := by
        change (index.get? name).isSome = false
        rw [held]
        rfl
      refine ⟨false, index, server, ?_, inStep, held, fun _ _ => rfl⟩
      simp only [absent]
      rfl
  | some existing =>
      have present : index.contains name = true := by
        change (index.get? name).isSome = true
        rw [held]
        rfl
      let after : MemoryServer :=
        { server.noted (.delete name) with objects := server.objects.erase name }
      have asked : (Exchange.ask (.delete name)).run (index, server) = (.ok (), index, after) := by
        rw [Exchange.run_ask, inStep.calm.answer]
        rfl
      refine ⟨true, (index.delete name).2, after, ?_, ⟨?_, ?_, ?_⟩, ?_, ?_⟩
      · simp only [present, if_true, Exchange.run_bind]
        rw [asked]
        rfl
      · exact inStep.consistent.delete name
      · exact ⟨inStep.calm.conflicts, inStep.calm.race, inStep.calm.injected⟩
      · intro other
        change _ = (server.objects.erase name).get? other
        rw [DomainIndex.get?_delete, Table.get?_erase, inStep.agrees]
      · rw [DomainIndex.get?_delete, if_pos rfl]
      · intro different apart
        rw [DomainIndex.get?_delete, if_neg apart]

/-- The status of a replica is set and its contents are left as they are. -/
theorem InStep.setErrorStatus {index : DomainIndex} {server : MemoryServer}
    (inStep : InStep index server) (name message : String) :
    ∃ other after held,
      (setErrorStatus name message).run (index, server) = (.ok (), other, after) ∧
      Changed index other after name held ∧
      (index.get? name = none → held = none) ∧
      ∀ replica, index.get? name = some replica → ∃ updated, held = some updated ∧
        updated.snapshot = replica.snapshot ∧ updated.statusMessage = message := by
  unfold Store.setErrorStatus
  rw [Exchange.run_bind, Exchange.run_index]
  cases held : index.get? name with
  | none =>
      exact ⟨index, server, none, rfl, ⟨inStep, held, fun _ _ => rfl⟩, fun _ => rfl,
        fun replica impossible => nomatch impossible⟩
  | some existing =>
      by_cases known : existing.statusMessage = message
      · refine ⟨index, server, some existing, ?_, ⟨inStep, held, fun _ _ => rfl⟩, ?_, ?_⟩
        · simp only [if_pos known]
          rfl
        · intro impossible
          cases impossible
        · intro replica same
          obtain rfl := Option.some.inj same
          exact ⟨existing, rfl, rfl, known⟩
      · have there : server.objects.get? name = some existing := by
          rw [← inStep.agrees, held]
        obtain ⟨updated, after, answered, stored, sameName, contents, status⟩ :=
          inStep.calm.setStatus there message
        have atName : updated.name = name :=
          sameName.trans (inStep.consistent.named name existing held)
        refine ⟨(index.apply updated).2, after, some updated, ?_,
          atName ▸ inStep.changed_adopt stored, ?_, ?_⟩
        · simp only [if_neg known, Exchange.run_bind]
          rw [Exchange.run_ask_answered answered]
          rfl
        · intro impossible
          cases impossible
        · intro replica same
          obtain rfl := Option.some.inj same
          refine ⟨updated, rfl, contents, ?_⟩
          unfold Replica.statusMessage
          rw [status]
          rfl

/-- A snapshot of another domain is refused before anything is asked. -/
theorem run_createOrUpdate_misnamed {σ : Type} [ApiBackend σ] {name : String}
    {snapshot : Snapshot} (misnamed : snapshot.name ≠ name) (state : DomainIndex × σ) :
    (createOrUpdate name snapshot).run state =
      (.error (.invalidSnapshot name snapshot.name), state) := by
  unfold Store.createOrUpdate
  rw [if_pos misnamed]
  rfl

theorem run_createOrUpdate_named {σ : Type} [ApiBackend σ] {name : String} {snapshot : Snapshot}
    (named : snapshot.name = name) (state : DomainIndex × σ) :
    (createOrUpdate name snapshot).run state =
      (attempt name snapshot (maxConflicts + 1) (state.1.get? name)).run state := by
  unfold Store.createOrUpdate
  rw [if_neg (not_not.mpr named)]
  rfl

theorem name_of_createOrUpdate {σ : Type} [ApiBackend σ] {name : String} {snapshot : Snapshot}
    {state after : DomainIndex × σ} {applied : Applied}
    (run : (createOrUpdate name snapshot).run state = (.ok applied, after)) :
    snapshot.name = name := by
  by_contra misnamed
  rw [run_createOrUpdate_misnamed misnamed] at run
  cases run

end Store

end PolicyReplica
