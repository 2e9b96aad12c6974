import PolicyReplica.Proofs.Store.Adopting

/-
Two snapshots of a domain that are stored one after the other.

Once a snapshot is stored, the server holds its contents and no error status. The index
holds the same replica. It has none only if the contents were taken over from somebody who
created the replica first, and that race is over then. Main statement: a second snapshot
that differs in signatures and key names at most is reported as unchanged, and changes
nothing on the server; any other is written.
-/

namespace PolicyReplica

namespace Snapshot

def resigned (snapshot : Snapshot) (signature keyId policySignature policyKeyId : String) :
    Snapshot :=
  { domain :=
      { snapshot.domain with
        policies :=
          { snapshot.domain.policies with signature := policySignature, keyId := policyKeyId } }
    signature
    keyId }

def Resigns (second first : Snapshot) : Prop :=
  ∃ signature keyId policySignature policyKeyId,
    second = first.resigned signature keyId policySignature policyKeyId

theorem sameContent_iff_resigns (first second : Snapshot) :
    first.sameContent second = true ↔ second.Resigns first := by
  unfold sameContent
  rw [decide_eq_true_iff]
  constructor
  · intro same
    refine ⟨second.signature, second.keyId, second.domain.policies.signature,
      second.domain.policies.keyId, ?_⟩
    have restored : ∀ snapshot : Snapshot, snapshot = snapshot.withoutSignatures.resigned
        snapshot.signature snapshot.keyId snapshot.domain.policies.signature
        snapshot.domain.policies.keyId := fun _ => rfl
    rw [restored second, ← same]
    rfl
  · rintro ⟨signature, keyId, policySignature, policyKeyId, rfl⟩
    rfl

theorem sameContent_trans {first second third : Snapshot}
    (left : first.sameContent second = true) (right : second.sameContent third = true) :
    first.sameContent third = true :=
  decide_eq_true ((of_decide_eq_true left).trans (of_decide_eq_true right))

theorem sameContent_symm {first second : Snapshot} (same : first.sameContent second = true) :
    second.sameContent first = true :=
  decide_eq_true (of_decide_eq_true same).symm

end Snapshot

theorem Replica.Mirrors.congr {left right : Replica} {snapshot : Snapshot}
    (mirrors : left.Mirrors snapshot) (contents : right.snapshot = left.snapshot)
    (status : right.status = left.status) : right.Mirrors snapshot := by
  unfold Mirrors statusMessage
  rw [contents, status]
  exact mirrors

namespace MemoryServer

/-! ### Servers without failures -/

theorem injected_run {α : Type} (exchange : Exchange α) {state : DomainIndex × MemoryServer}
    (faultless : state.2.injected = []) : (exchange.run state).2.2.injected = [] := by
  have kept : ∀ request server, MemoryServer.injected server = [] →
      (ApiBackend.answer request server).2.injected = [] := by
    intro request server faultless
    rw [answer_of_faultless faultless, ((server.noted request).perform_frame request).injected]
    exact faultless
  exact exchange.run_keeps kept faultless

/-- Nobody comes first any more. -/
theorem race_run {α : Type} (exchange : Exchange α) {state : DomainIndex × MemoryServer}
    (passed : state.2.race = none) : (exchange.run state).2.2.race = none := by
  have kept : ∀ request server, MemoryServer.race server = none →
      (ApiBackend.answer request server).2.race = none := by
    intro request server passed
    rcases server.answer_cases request with ⟨error, injected, answered⟩ | answered
    · rw [answered]
      exact passed
    · rw [answered]
      exact ((server.noted request).perform_frame request).race passed
  exact exchange.run_keeps kept passed

theorem race_create (server : MemoryServer) (replica : Replica) :
    (server.create replica).2.race = none := by
  unfold create
  cases raced : server.race with
  | some other => rfl
  | none =>
      by_cases there : server.objects.contains replica.name = true
      · simp only [there, if_true]
        exact raced
      · simp only [there]
        exact raced

theorem create_taken {server : MemoryServer} (passed : server.race = none) {replica : Replica}
    (taken : (server.objects.get? replica.name).isSome = true) :
    server.create replica = (.error (.alreadyExists replica.name), server) := by
  have there : server.objects.contains replica.name = true := taken
  unfold create
  simp only [passed, there, if_true]

/-- A server without failures that holds what a copy says, but for the version. -/
structure Holds (server : MemoryServer) (name : String) (copy : Replica) : Prop where
  faultless : server.injected = []
  named : server.Named
  alike : ∃ current, server.objects.get? name = some current ∧
    current.snapshot = copy.snapshot ∧ current.status = copy.status

theorem Holds.noted {server : MemoryServer} {name : String} {copy : Replica}
    (holds : server.Holds name copy) (request : ApiRequest) :
    (server.noted request).Holds name copy :=
  ⟨holds.faultless, holds.named, holds.alike⟩

/-- Whoever comes first leaves what a copy says. -/
theorem Holds.disturb {server : MemoryServer} {name : String} {copy current : Replica}
    (holds : server.Holds name copy) (present : server.objects.get? name = some current) :
    (server.disturb current).Holds name copy where
  faultless := (server.disturb_frame current).injected.trans holds.faultless
  named := holds.named.disturb current
  alike := by
    obtain ⟨found, there, contents, status⟩ := holds.alike
    obtain rfl : current = found := Option.some.inj (present.symm.trans there)
    obtain ⟨renewed, stillThere, sameContents, sameStatus⟩ :=
      get?_disturb present (holds.named name current present)
    exact ⟨renewed, stillThere, sameContents.trans contents, sameStatus.trans status⟩

theorem Holds.setStatus {server : MemoryServer} {name : String} {copy : Replica}
    (holds : server.Holds name copy) (message : String) :
    ∃ updated after, ApiBackend.answer (.setStatus name message) server = (.ok updated, after) := by
  obtain ⟨current, present, _⟩ := holds.alike
  exact ⟨_, _, answer_setStatus_present holds.faultless present message⟩

/-- A replacement loses, and what a copy says is still there, or the server holds what it
answers. -/
theorem Holds.replace {server : MemoryServer} {name : String} {copy replica : Replica}
    (holds : server.Holds name copy) (named : replica.name = name) :
    (∃ after, ApiBackend.answer (.replace replica) server = (.error (.conflict name), after) ∧
        after.Holds name copy) ∨
      ∃ replaced after, ApiBackend.answer (.replace replica) server = (.ok replaced, after) ∧
        after.Holds name replaced := by
  subst named
  have noted := holds.noted (.replace replica)
  obtain ⟨current, present, _⟩ := noted.alike
  rw [answer_of_faultless holds.faultless]
  rcases replace_found noted.named replica present with lost | ⟨status, _, stored⟩
  · exact .inl ⟨_, lost, noted.disturb present⟩
  · have disturbed := noted.disturb present
    refine .inr ⟨_, _, stored, disturbed.faultless, disturbed.named.put _, _, ?_, rfl, rfl⟩
    exact get?_put_self _ rfl

end MemoryServer

namespace Store

open MemoryServer

variable {name : String} {snapshot first second : Snapshot} {index other : DomainIndex}
variable {server after : MemoryServer} {existing : Replica}

/-! ### The first snapshot -/

/-- Where nothing fails, an update writes what it has to, or loses and changes nothing. -/
theorem update_outcome (snapshotName : snapshot.name = name) (existingName : existing.name = name)
    (unsettled : ¬ existing.Mirrors snapshot) (index : DomainIndex)
    (holds : server.Holds name existing) :
    (∃ updated after, (update existing snapshot).run (index, server) =
        (.ok updated, index, after)) ∨
      ∃ after, (update existing snapshot).run (index, server) =
        (.error (.conflict name), index, after) ∧ after.Holds name existing := by
  unfold update
  subst snapshotName
  by_cases same : existing.snapshot.sameContent snapshot = true
  · have failing : existing.statusMessage ≠ "" := fun cleared => unsettled ⟨same, cleared⟩
    obtain ⟨updated, after, answered⟩ := holds.setStatus ""
    simp only [same, if_true, Exchange.run_bind, Exchange.run_pure, if_neg failing]
    exact .inl ⟨updated, after, Exchange.run_ask_answered answered index⟩
  · have wantedName : Replica.name { existing with snapshot } = snapshot.name := existingName
    simp only [same, Bool.false_eq_true, if_false, Exchange.run_bind]
    rcases holds.replace wantedName with
      ⟨after, answered, still⟩ | ⟨replaced, between, answered, holdsReplaced⟩
    · rw [Exchange.run_ask_answered answered]
      exact .inr ⟨after, rfl, still⟩
    · rw [Exchange.run_ask_answered answered]
      left
      by_cases cleared : replaced.statusMessage = ""
      · simp only [if_pos cleared]
        exact ⟨replaced, between, rfl⟩
      · obtain ⟨updated, after, answeredAgain⟩ := holdsReplaced.setStatus ""
        simp only [if_neg cleared]
        exact ⟨updated, after, Exchange.run_ask_answered answeredAgain index⟩

/-- A copy that says what the server holds, and has to be changed, is never reported as
unchanged: those who come first leave the contents and the status as they are. -/
theorem attempt_changes (snapshotName : snapshot.name = name) (existingName : existing.name = name)
    (unsettled : ¬ existing.Mirrors snapshot) (rounds : Nat) (index : DomainIndex)
    (holds : server.Holds name existing) :
    ((attempt name snapshot rounds (some existing)).run (index, server)).1 ≠ .ok .unchanged := by
  -- On the rounds that are left. A round that loses fetches a copy that says the same.
  induction rounds generalizing existing server with
  | zero => exact nofun
  | succ rounds ih =>
      rw [attempt_some]
      unfold reconcile
      rw [if_neg (show ¬ (_ ∧ _) from unsettled), Exchange.run_bind]
      rcases update_outcome snapshotName existingName unsettled index holds with
        ⟨updated, after, run⟩ | ⟨between, run, still⟩
      · rw [run]
        exact nofun
      · have noted := still.noted (.get name)
        obtain ⟨renewed, present, contents, status⟩ := noted.alike
        have fetched : ApiBackend.answer (.get name) between =
            (.ok (some renewed), between.noted (.get name)) := by
          rw [answer_of_faultless still.faultless, ← present]
          rfl
        rw [run]
        simp only [Exchange.run_bind]
        rw [Exchange.run_ask_answered fetched]
        exact ih (noted.named name renewed present)
          (fun mirrors => unsettled (mirrors.congr contents.symm status.symm))
          ⟨noted.faultless, noted.named, renewed, present, rfl, rfl⟩

/-- The server holds the contents of a snapshot and no error status. The index holds the
same, or nothing, and then nobody comes first any more. -/
structure Landed (name : String) (snapshot : Snapshot) (index : DomainIndex)
    (server : MemoryServer) : Prop where
  faultless : server.injected = []
  held : ∃ replica, server.objects.get? name = some replica ∧ replica.name = name ∧
    replica.Mirrors snapshot ∧
    (index.get? name = some replica ∨ index.get? name = none ∧ server.race = none)

theorem attempt_race (faultless : server.injected = []) (rounds : Nat) :
    ((attempt name snapshot (rounds + 1) none).run (index, server)).2.2.race = none := by
  rw [attempt_none, Exchange.run_bind, Exchange.run_ask, answer_of_faultless faultless]
  exact race_run _ (race_create _ _)

/-- A call that succeeds where index and server agree, and nothing fails, gets the contents
of its snapshot to the server. -/
theorem createOrUpdate_lands (consistent : index.Consistent) (named : server.Named)
    (agreed : index.get? name = server.objects.get? name) (faultless : server.injected = [])
    {applied : Applied} (run : (createOrUpdate name snapshot).run (index, server) =
      (.ok applied, other, after)) :
    Landed name snapshot other after := by
  obtain ⟨stillNamed, ended⟩ :=
    (createOrUpdate_ends (MemoryServer.truthful name) consistent snapshot named).of_run run
  have snapshotName := name_of_createOrUpdate run
  have stillFaultless : after.injected = [] := by
    have kept : ((createOrUpdate name snapshot).run (index, server)).2.2.injected = [] :=
      injected_run _ faultless
    rw [run] at kept
    exact kept
  refine ⟨stillFaultless, ?_⟩
  rw [run_createOrUpdate_named snapshotName] at run
  obtain ⟨holding, final⟩ : ∃ holding, after.objects.get? name = holding := ⟨_, rfl⟩
  simp only [final] at ended ⊢
  cases ended with
  | @written _ replica _ cleared contents =>
      have replicaName := stillNamed name replica final
      refine ⟨replica, rfl, replicaName, ⟨?_, cleared⟩, .inl ?_⟩
      · rcases contents with same | ⟨cached, current, copied, same, _, present, contents⟩
        · exact same
        · obtain rfl : cached = current :=
            Option.some.inj (copied.symm.trans (agreed.trans present))
          rw [contents]
          exact same
      · rw [DomainIndex.get?_apply, if_pos replicaName.symm]
  | @settled adopted _ mirrors source =>
      cases copy : index.get? name with
      | none =>
          -- The copy was fetched after a creation had lost against somebody else.
          rw [copy] at run source
          have held : holding = some adopted := by
            rcases source with ⟨copied, _⟩ | fetched
            · cases copied
            · exact fetched
          have passed : ((attempt name snapshot (maxConflicts + 1) none).run
              (index, server)).2.2.race = none := attempt_race faultless maxConflicts
          rw [run] at passed
          subst held
          exact ⟨adopted, rfl, stillNamed name adopted final, mirrors, .inr ⟨rfl, passed⟩⟩
      | some cached =>
          have present : server.objects.get? name = some cached := agreed.symm.trans copy
          have cachedName := named name cached present
          rw [copy] at run
          by_cases settled : cached.Mirrors snapshot
          · rw [attempt_some, run_reconcile_settled settled] at run
            cases run
            rw [present] at final
            subst final
            exact ⟨cached, rfl, cachedName, settled, .inl rfl⟩
          · have changes := attempt_changes snapshotName cachedName settled (maxConflicts + 1)
              index ⟨faultless, named, cached, present, rfl, rfl⟩
            rw [run] at changes
            exact absurd rfl changes

/-! ### The second snapshot -/

/-- A creation that finds the name taken goes on from what is there. -/
theorem run_attempt_taken (named : snapshot.name = name)
    (present : server.objects.get? name = some existing) (faultless : server.injected = [])
    (passed : server.race = none) (rounds : Nat) (index : DomainIndex) :
    ∃ requests, (attempt name snapshot (rounds + 1) none).run (index, server) =
      (reconcile name snapshot rounds existing).run (index, { server with requests }) := by
  subst named
  let creation : ApiRequest := .create (Replica.ofSnapshot snapshot)
  let refused := server.noted creation
  let fetched := refused.noted (.get snapshot.name)
  have taken : ApiBackend.answer creation server =
      (.error (.alreadyExists snapshot.name), refused) := by
    have there : (refused.objects.get? (Replica.ofSnapshot snapshot).name).isSome = true :=
      Option.isSome_of_eq_some present
    have stillPassed : refused.race = none := passed
    rw [answer_of_faultless faultless]
    exact create_taken stillPassed there
  have found : ApiBackend.answer (.get snapshot.name) refused = (.ok (some existing), fetched) := by
    have stillFaultless : refused.injected = [] := faultless
    rw [answer_of_faultless stillFaultless, ← present]
    rfl
  refine ⟨fetched.requests, ?_⟩
  rw [attempt_none, Exchange.run_bind, Exchange.run_ask_answered taken]
  simp only [Exchange.run_bind]
  rw [Exchange.run_ask_answered found]
  rfl

/-- Other contents replace those of a replica without an error status, if nobody comes
first. -/
theorem run_reconcile_replaced (present : server.objects.get? name = some existing)
    (existingName : existing.name = name) (faultless : server.injected = [])
    (undisturbed : server.conflicts = 0) (cleared : existing.statusMessage = "")
    (different : existing.snapshot.sameContent snapshot ≠ true) (rounds : Nat)
    (index : DomainIndex) :
    ∃ replica after, (reconcile name snapshot rounds existing).run (index, server) =
        (.ok .updated, (index.apply replica).2, after) ∧
      after.objects.get? name = some replica ∧ replica.name = name ∧ replica.Mirrors snapshot := by
  let wanted : Replica := { existing with snapshot }
  let stored := (server.noted (.replace wanted)).put wanted
  have there : server.objects.get? wanted.name = some existing := existingName.symm ▸ present
  have answered : ApiBackend.answer (.replace wanted) server = (.ok stored.1, stored.2) :=
    answer_replace_current faultless undisturbed there rfl
  have stillCleared : stored.1.statusMessage = "" := cleared
  refine ⟨stored.1, stored.2, ?_, get?_put_self _ existingName, existingName,
    snapshot.sameContent_self, stillCleared⟩
  unfold reconcile update
  rw [if_neg fun settled => different settled.1]
  simp only [different, Bool.false_eq_true, if_false, Exchange.run_bind]
  rw [Exchange.run_ask_answered answered]
  simp only [if_pos stillCleared]
  rfl

/-- The second call goes on from what the server holds, with nothing done to it before. -/
theorem Landed.goes_on (landed : Landed name first index server) :
    ∃ existing, server.objects.get? name = some existing ∧ existing.name = name ∧
      existing.Mirrors first ∧ ∀ second : Snapshot, second.name = name →
        ∃ requests, (createOrUpdate name second).run (index, server) =
          (reconcile name second maxConflicts existing).run (index, { server with requests }) := by
  obtain ⟨existing, present, existingName, mirrors, held⟩ := landed.held
  refine ⟨existing, present, existingName, mirrors, fun second named => ?_⟩
  rw [run_createOrUpdate_named named]
  rcases held with held | ⟨missing, passed⟩
  · rw [held]
    exact ⟨server.requests, rfl⟩
  · rw [missing]
    exact run_attempt_taken named present landed.faultless passed maxConflicts index

theorem Landed.repeats (landed : Landed name first index server) (resigned : second.Resigns first)
    (named : second.name = name) :
    ∃ requests, (createOrUpdate name second).run (index, server) =
      (.ok .unchanged, index, { server with requests }) := by
  obtain ⟨existing, _, _, mirrors, goesOn⟩ := landed.goes_on
  obtain ⟨requests, run⟩ := goesOn second named
  have same := (first.sameContent_iff_resigns second).mpr resigned
  rw [run, run_reconcile_settled ⟨Snapshot.sameContent_trans mirrors.1 same, mirrors.2⟩]
  exact ⟨requests, rfl⟩

theorem Landed.replaces (landed : Landed name first index server)
    (changed : ¬ second.Resigns first) (named : second.name = name)
    (undisturbed : server.conflicts = 0) :
    ∃ replica other after, (createOrUpdate name second).run (index, server) =
        (.ok .updated, other, after) ∧
      other.get? name = some replica ∧ after.objects.get? name = some replica ∧
      replica.Mirrors second := by
  obtain ⟨existing, present, existingName, mirrors, goesOn⟩ := landed.goes_on
  obtain ⟨requests, again⟩ := goesOn second named
  have different : existing.snapshot.sameContent second ≠ true := by
    intro same
    have alike := Snapshot.sameContent_trans (Snapshot.sameContent_symm mirrors.1) same
    exact changed ((first.sameContent_iff_resigns second).mp alike)
  let asked : MemoryServer := { server with requests }
  have stillPresent : asked.objects.get? name = some existing := present
  obtain ⟨replica, after, run, holds, replicaName, mirrorsSecond⟩ :=
    run_reconcile_replaced stillPresent existingName landed.faultless undisturbed mirrors.2
      different maxConflicts index
  refine ⟨replica, _, after, again.trans run, ?_, holds, mirrorsSecond⟩
  rw [DomainIndex.get?_apply, if_pos replicaName.symm]

/-- Where the index and the server agree about a name, and nothing fails, storing a snapshot
settles it: the next one is reported as unchanged, and nothing but the record of requests
changes on the server, if it differs in signatures and key names at most; any other is
written as long as nobody else comes first. -/
theorem createOrUpdate_repeats (history : List MemoryServer.Event) (changes : List IndexChange)
    (name : String) (first second : Snapshot) {applied : Applied} {index : DomainIndex}
    {server : MemoryServer}
    (agreed : (DomainIndex.replay changes).get? name =
      (MemoryServer.replay history).objects.get? name)
    (faultless : (MemoryServer.replay history).injected = [])
    (run : (createOrUpdate name first).run
      (DomainIndex.replay changes, MemoryServer.replay history) = (.ok applied, index, server))
    (named : second.name = name) :
    (second.Resigns first →
      ∃ requests, (createOrUpdate name second).run (index, server) =
        (.ok .unchanged, index, { server with requests })) ∧
    (¬ second.Resigns first → server.conflicts = 0 →
      ∃ replica other after, (createOrUpdate name second).run (index, server) =
          (.ok .updated, other, after) ∧
        other.get? name = some replica ∧ after.objects.get? name = some replica ∧
        replica.Mirrors second) := by
  have landed := createOrUpdate_lands (DomainIndex.replay_consistent changes)
    (MemoryServer.replay_named history) agreed faultless run
  exact ⟨fun resigned => landed.repeats resigned named,
    fun changed undisturbed => landed.replaces changed named undisturbed⟩

/-- Somebody else creates the replica first, with other contents, and two replacements lose.
A snapshot with renewed signatures then changes nothing, and one without the trust does. -/
theorem createOrUpdate_repeats_raced :
    ∃ index server,
      (createOrUpdate "shop" (shop (some "bank"))).run
        (DomainIndex.replay [],
          MemoryServer.replay [.race (some (.ofSnapshot (shop none))), .conflicts 2]) =
        (.ok .updated, index, server) ∧
      (∃ requests,
        (createOrUpdate "shop" ((shop (some "bank")).resigned "anew" "1" "anew" "1")).run
          (index, server) = (.ok .unchanged, index, { server with requests })) ∧
      ∃ replica other after, (createOrUpdate "shop" (shop none)).run (index, server) =
          (.ok .updated, other, after) ∧
        other.get? "shop" = some replica ∧ after.objects.get? "shop" = some replica ∧
        replica.Mirrors (shop none) := by
  have changed : ¬ (shop none).Resigns (shop (some "bank")) := by
    rw [← Snapshot.sameContent_iff_resigns]
    decide
  obtain ⟨repeats, _⟩ :=
    createOrUpdate_repeats [.race (some (.ofSnapshot (shop none))), .conflicts 2] [] "shop"
      (shop (some "bank")) ((shop (some "bank")).resigned "anew" "1" "anew" "1") rfl rfl rfl rfl
  obtain ⟨_, replaces⟩ :=
    createOrUpdate_repeats [.race (some (.ofSnapshot (shop none))), .conflicts 2] [] "shop"
      (shop (some "bank")) (shop none) rfl rfl rfl rfl
  exact ⟨_, _, rfl, repeats ⟨_, _, _, _, rfl⟩, replaces changed rfl⟩

end Store

end PolicyReplica
