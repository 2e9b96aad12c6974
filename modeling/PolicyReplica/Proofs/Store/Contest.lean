import PolicyReplica.Proofs.Store.Repeating
import PolicyReplica.Text.Decimal

/-
Replacements that lose against other writers.

Others store an object anew just before it is replaced, a number of times. A replacement
is based on the version that was read, and that is no longer current then. What the others
left is fetched, and the next round starts from it. Main statement: as many replacements
lose as there are others to come, and one more lands; there are four at most, and after
four that lost the object has its old contents and the index is as it was.
-/

namespace PolicyReplica

theorem Text.toString_injective {left right : Nat} (same : toString left = toString right) :
    left = right := by
  have digits : Text.digits left = Text.digits right := by
    have characters := congrArg String.toList same
    simpa [toString, Nat.repr, Text.digits] using characters
  rw [← Text.digitsValue_digits left, digits, Text.digitsValue_digits]

namespace MemoryServer

def Dated (server : MemoryServer) : Prop :=
  ∀ name replica, server.objects.get? name = some replica →
    ∃ number ≤ server.counter, replica.version = some (toString number)

theorem Dated.lasting : Lasting Dated where
  empty := fun name replica found => by cases found
  put := by
    intro server dated replica name stored found
    rw [get?_put] at found
    by_cases here : name = replica.name
    · rw [if_pos here] at found
      obtain rfl := Option.some.inj found
      exact ⟨server.counter + 1, Nat.le_refl _, rfl⟩
    · rw [if_neg here] at found
      obtain ⟨number, given, version⟩ := dated name stored found
      exact ⟨number, Nat.le_succ_of_le given, version⟩
  erase := by
    intro server dated name other stored found
    change (server.objects.erase name).get? other = some stored at found
    rw [Table.get?_erase] at found
    by_cases here : other = name
    · rw [if_pos here] at found
      cases found
    · rw [if_neg here] at found
      exact dated other stored found
  regard := by
    intro server other dated objects counter name replica found
    rw [objects] at found
    rw [counter]
    exact dated name replica found

/-- An object that is stored anew has a version that it never had. -/
theorem Dated.put_version {server : MemoryServer} (dated : server.Dated) {name : String}
    {current : Replica} (found : server.objects.get? name = some current) (replica : Replica) :
    (server.put replica).1.version ≠ current.version := by
  obtain ⟨number, given, version⟩ := dated name current found
  rw [version]
  intro same
  have equal : server.counter + 1 = number := Text.toString_injective (Option.some.inj same)
  omega

def replacements (server : MemoryServer) : Nat :=
  server.requests.countP fun request => request.method = .replace

theorem replacements_answer (request : ApiRequest) (server : MemoryServer) :
    (ApiBackend.answer request server).2.replacements =
      server.replacements + if request.method = .replace then 1 else 0 := by
  unfold replacements
  rw [requests_answer, List.countP_append, List.countP_singleton]
  simp only [decide_eq_true_eq]

/-- A server without failures that holds an object, and at which so many replacements will
find that somebody has stored it anew. -/
structure Contested (server : MemoryServer) (name : String) (count : Nat) (current : Replica) :
    Prop where
  faultless : server.injected = []
  named : server.Named
  dated : server.Dated
  due : server.conflicts = count
  present : server.objects.get? name = some current

variable {server : MemoryServer} {name : String} {count : Nat} {current : Replica}

theorem Contested.currentName (contested : server.Contested name count current) :
    current.name = name :=
  contested.named name current contested.present

theorem Contested.noted (contested : server.Contested name count current)
    (request : ApiRequest) : (server.noted request).Contested name count current :=
  ⟨contested.faultless, contested.named, contested.dated, contested.due, contested.present⟩

theorem Contested.put (contested : server.Contested name count current) {replica : Replica}
    (named : replica.name = name) :
    (server.put replica).2.Contested name count (server.put replica).1 where
  faultless := contested.faultless
  named := Named.lasting.put contested.named replica
  dated := Dated.lasting.put contested.dated replica
  due := contested.due
  present := get?_put_self server named

theorem Contested.fetched (contested : server.Contested name count current) :
    ∃ after, ApiBackend.answer (.get name) server = (.ok (some current), after) ∧
      after.Contested name count current ∧ after.replacements = server.replacements := by
  have answered : ApiBackend.answer (.get name) server =
      (.ok (some current), server.noted (.get name)) := by
    rw [answer_of_faultless contested.faultless, ← contested.present]
    rfl
  have asked := replacements_answer (.get name) server
  rw [answered] at asked
  exact ⟨_, answered, contested.noted _, asked⟩

/-- A replacement that somebody comes before is refused. The object is as it was, but for
its version. -/
theorem Contested.loses (contested : server.Contested name (count + 1) current)
    (snapshot : Snapshot) :
    ∃ renewed after,
      ApiBackend.answer (.replace { current with snapshot }) server =
        (.error (.conflict name), after) ∧
      after.Contested name count renewed ∧ renewed.snapshot = current.snapshot ∧
      renewed.status = current.status ∧ after.replacements = server.replacements + 1 := by
  let wanted : Replica := { current with snapshot }
  let noted := server.noted (.replace wanted)
  let others : MemoryServer := { noted with conflicts := noted.conflicts - 1 }
  have wantedName : wanted.name = name := contested.currentName
  have due : noted.conflicts = count + 1 := contested.due
  have left : others.Contested name count current :=
    ⟨contested.faultless, contested.named, contested.dated, Nat.sub_eq_of_eq_add due,
      contested.present⟩
  have renewed := left.put contested.currentName
  have disturbed : noted.disturb current = (others.put current).2 :=
    if_neg (due ▸ Nat.succ_ne_zero count)
  have stale : (others.put current).1.version ≠ wanted.version :=
    left.dated.put_version contested.present current
  have answered : ApiBackend.answer (.replace wanted) server =
      (.error (.conflict name), (others.put current).2) := by
    have there : noted.objects.get? wanted.name = some current := wantedName ▸ contested.present
    rw [answer_of_faultless contested.faultless]
    change noted.replace wanted = _
    unfold MemoryServer.replace
    rw [there]
    simp only [disturbed, wantedName, renewed.present, Option.getD_some, ne_eq, stale,
      not_false_eq_true, if_true]
  have asked := replacements_answer (.replace wanted) server
  rw [answered] at asked
  exact ⟨_, _, answered, renewed, rfl, rfl, asked⟩

/-- A replacement that nobody comes before lands. It leaves the status as it was. -/
theorem Contested.lands (contested : server.Contested name 0 current) (snapshot : Snapshot) :
    ∃ replaced after,
      ApiBackend.answer (.replace { current with snapshot }) server = (.ok replaced, after) ∧
      after.Contested name 0 replaced ∧ replaced.snapshot = snapshot ∧
      replaced.status = current.status ∧ after.replacements = server.replacements + 1 := by
  let wanted : Replica := { current with snapshot }
  have there : server.objects.get? wanted.name = some current :=
    contested.currentName.symm ▸ contested.present
  have answered := answer_replace_current contested.faultless contested.due there rfl
  have asked := replacements_answer (.replace wanted) server
  rw [answered] at asked
  exact ⟨_, _, answered, (contested.noted _).put contested.currentName, rfl, rfl, asked⟩

/-- Setting the status compares no versions. -/
theorem Contested.setStatus (contested : server.Contested name count current)
    (message : String) :
    ∃ updated after,
      ApiBackend.answer (.setStatus name message) server = (.ok updated, after) ∧
      after.Contested name count updated ∧ updated.snapshot = current.snapshot ∧
      updated.status = some { message } ∧ after.replacements = server.replacements := by
  have answered := answer_setStatus_present contested.faultless contested.present message
  have asked := replacements_answer (.setStatus name message) server
  rw [answered] at asked
  exact ⟨_, _, answered, (contested.noted _).put contested.currentName, rfl, rfl, asked⟩

end MemoryServer

namespace Store

open MemoryServer

variable {name : String} {snapshot : Snapshot} {index : DomainIndex} {server : MemoryServer}
variable {count : Nat} {existing : Replica}

/-- The server holds a replica with this snapshot and no error status. -/
structure Written (server : MemoryServer) (name : String) (snapshot : Snapshot)
    (replica : Replica) : Prop where
  present : server.objects.get? name = some replica
  named : replica.name = name
  contents : replica.snapshot = snapshot
  cleared : replica.statusMessage = ""

/-! ### Rounds -/

/-- An update that somebody comes before replaces nothing. -/
theorem run_update_lost (contested : server.Contested name (count + 1) existing)
    (differs : existing.snapshot.sameContent snapshot = false) (index : DomainIndex) :
    ∃ renewed after, (update existing snapshot).run (index, server) =
        (.error (.conflict name), index, after) ∧
      after.Contested name count renewed ∧ renewed.snapshot = existing.snapshot ∧
      renewed.status = existing.status ∧ after.replacements = server.replacements + 1 := by
  obtain ⟨renewed, after, answered, still, contents, status, asked⟩ := contested.loses snapshot
  refine ⟨renewed, after, ?_, still, contents, status, asked⟩
  unfold update
  simp only [differs, Bool.false_eq_true, if_false, Exchange.run_bind]
  rw [Exchange.run_ask_answered answered]
  rfl

/-- The end of an update: a status that is there is cleared. -/
theorem run_clearStatus (contested : server.Contested name count existing) (index : DomainIndex) :
    ∃ updated after,
      (if existing.statusMessage = "" then
          (pure (.ok existing) : Exchange (Except StoreError Replica))
        else Exchange.ask (.setStatus name "")).run (index, server) = (.ok updated, index, after) ∧
      Written after name existing.snapshot updated ∧
      after.replacements = server.replacements := by
  by_cases cleared : existing.statusMessage = ""
  · rw [if_pos cleared]
    exact ⟨existing, server, rfl, ⟨contested.present, contested.currentName, rfl, cleared⟩, rfl⟩
  · obtain ⟨updated, after, answered, still, contents, status, unasked⟩ := contested.setStatus ""
    rw [if_neg cleared]
    refine ⟨updated, after, Exchange.run_ask_answered answered index,
      ⟨still.present, still.currentName, contents, ?_⟩, unasked⟩
    unfold Replica.statusMessage
    rw [status]
    rfl

/-- An update that nobody comes before writes the contents, and then clears the status. -/
theorem run_update_won (contested : server.Contested name 0 existing)
    (differs : existing.snapshot.sameContent snapshot = false) (named : snapshot.name = name)
    (index : DomainIndex) :
    ∃ updated after, (update existing snapshot).run (index, server) = (.ok updated, index, after) ∧
      Written after name snapshot updated ∧ after.replacements = server.replacements + 1 := by
  subst named
  obtain ⟨replaced, between, answered, still, contents, _, asked⟩ := contested.lands snapshot
  obtain ⟨updated, after, run, written, unasked⟩ := run_clearStatus still index
  refine ⟨updated, after, ?_, contents ▸ written, unasked.trans asked⟩
  unfold update
  simp only [differs, Bool.false_eq_true, if_false, Exchange.run_bind]
  rw [Exchange.run_ask_answered answered]
  exact run

/-- A round that loses goes on from what the others left. -/
theorem run_attempt_lost (contested : server.Contested name (count + 1) existing)
    (differs : existing.snapshot.sameContent snapshot = false) (rounds : Nat)
    (index : DomainIndex) :
    ∃ renewed between, (attempt name snapshot (rounds + 1) (some existing)).run (index, server) =
        (attempt name snapshot rounds (some renewed)).run (index, between) ∧
      between.Contested name count renewed ∧ renewed.snapshot = existing.snapshot ∧
      renewed.status = existing.status ∧ between.replacements = server.replacements + 1 := by
  obtain ⟨renewed, lost, run, still, contents, status, asked⟩ :=
    run_update_lost contested differs index
  obtain ⟨between, answered, contestedAgain, unasked⟩ := still.fetched
  refine ⟨renewed, between, ?_, contestedAgain, contents, status, unasked.trans asked⟩
  rw [attempt_some]
  unfold reconcile
  rw [if_neg (by simp [differs]), Exchange.run_bind, run]
  simp only [Exchange.run_bind]
  rw [Exchange.run_ask_answered answered]

/-- With more rounds than others to come, one replacement more than those lands. -/
theorem attempt_lands (named : snapshot.name = name) (index : DomainIndex) (rounds : Nat)
    (contested : server.Contested name count existing)
    (differs : existing.snapshot.sameContent snapshot = false) (enough : count < rounds) :
    ∃ updated after, (attempt name snapshot rounds (some existing)).run (index, server) =
        (.ok .updated, (index.apply updated).2, after) ∧
      Written after name snapshot updated ∧
      after.replacements = server.replacements + (count + 1) := by
  -- Each of the others takes one round.
  induction count generalizing rounds server existing with
  | zero =>
      cases rounds with
      | zero => exact absurd enough (Nat.lt_irrefl 0)
      | succ rounds =>
          obtain ⟨updated, after, run, written, asked⟩ :=
            run_update_won contested differs named index
          refine ⟨updated, after, ?_, written, asked⟩
          rw [attempt_some]
          unfold reconcile
          rw [if_neg (by simp [differs]), Exchange.run_bind, run]
          rfl
  | succ count ih =>
      cases rounds with
      | zero => exact absurd enough (Nat.not_lt_zero _)
      | succ rounds =>
          obtain ⟨renewed, between, goesOn, still, contents, _, asked⟩ :=
            run_attempt_lost contested differs rounds index
          obtain ⟨updated, after, run, written, askedLater⟩ :=
            ih rounds still (contents ▸ differs) (Nat.lt_of_succ_lt_succ enough)
          refine ⟨updated, after, goesOn.trans run, written, ?_⟩
          omega

/-- With no more rounds than others to come, every replacement loses. -/
theorem attempt_gives_up (index : DomainIndex) (rounds : Nat)
    (contested : server.Contested name count existing)
    (differs : existing.snapshot.sameContent snapshot = false) (tooMany : rounds ≤ count) :
    ∃ kept after, (attempt name snapshot rounds (some existing)).run (index, server) =
        (.error (.conflict name), index, after) ∧
      after.objects.get? name = some kept ∧ kept.snapshot = existing.snapshot ∧
      kept.status = existing.status ∧ after.replacements = server.replacements + rounds := by
  induction rounds generalizing count server existing with
  | zero => exact ⟨existing, server, rfl, contested.present, rfl, rfl, rfl⟩
  | succ rounds ih =>
      cases count with
      | zero => exact absurd tooMany (Nat.not_succ_le_zero rounds)
      | succ count =>
          obtain ⟨renewed, between, goesOn, still, contents, status, asked⟩ :=
            run_attempt_lost contested differs rounds index
          obtain ⟨kept, after, run, present, sameContents, sameStatus, askedLater⟩ :=
            ih still (contents ▸ differs) (Nat.le_of_succ_le_succ tooMany)
          refine ⟨kept, after, goesOn.trans run, present, sameContents.trans contents,
            sameStatus.trans status, ?_⟩
          omega

/-! ### Calls -/

theorem contested_replay (history : List MemoryServer.Event)
    (present : (MemoryServer.replay history).objects.get? name = some existing)
    (faultless : (MemoryServer.replay history).injected = []) :
    (MemoryServer.replay history).Contested name (MemoryServer.replay history).conflicts
      existing :=
  ⟨faultless, MemoryServer.replay_named history, Dated.lasting.replay history, rfl, present⟩

/-- Where the index and the server hold the same replica under a name, and no failure is set
up, other contents are written exactly if at most three others come first. One replacement
more than those is asked for then, and the index and the server hold the new contents
without an error status. Otherwise four replacements lose, the contents and the status on
the server are the old ones, and the index is as it was. -/
theorem createOrUpdate_contested (history : List MemoryServer.Event)
    (changes : List IndexChange) (name : String) (snapshot : Snapshot) {replica : Replica}
    (indexed : (DomainIndex.replay changes).get? name = some replica)
    (held : (MemoryServer.replay history).objects.get? name = some replica)
    (faultless : (MemoryServer.replay history).injected = [])
    (named : snapshot.name = name) (differs : ¬ snapshot.Resigns replica.snapshot) :
    let before := MemoryServer.replay history
    ∃ result index server,
      (createOrUpdate name snapshot).run (DomainIndex.replay changes, before) =
        (result, index, server) ∧
      (result = .ok .updated ↔ before.conflicts ≤ 3) ∧
      (before.conflicts ≤ 3 →
        server.replacements = before.replacements + (before.conflicts + 1) ∧
        ∃ updated, server.objects.get? name = some updated ∧ index.get? name = some updated ∧
          updated.snapshot = snapshot ∧ updated.statusMessage = "") ∧
      (3 < before.conflicts →
        result = .error (.conflict name) ∧ server.replacements = before.replacements + 4 ∧
        index = DomainIndex.replay changes ∧
        ∃ kept, server.objects.get? name = some kept ∧ kept.snapshot = replica.snapshot ∧
          kept.status = replica.status) := by
  intro before
  have contested : before.Contested name before.conflicts replica :=
    contested_replay history held faultless
  have different : replica.snapshot.sameContent snapshot = false := by
    rw [← Bool.not_eq_true, Snapshot.sameContent_iff_resigns]
    exact differs
  rw [run_createOrUpdate_named named]
  simp only [indexed]
  by_cases enough : before.conflicts ≤ 3
  · obtain ⟨updated, server, run, written, asked⟩ :=
      attempt_lands named (DomainIndex.replay changes) (maxConflicts + 1) contested different
        (Nat.lt_succ_of_le enough)
    refine ⟨_, _, server, run, iff_of_true rfl enough, fun _ => ⟨asked, updated, ?_⟩,
      fun tooMany => absurd enough (Nat.not_le.mpr tooMany)⟩
    refine ⟨written.present, ?_, written.contents, written.cleared⟩
    rw [DomainIndex.get?_apply, if_pos written.named.symm]
  · obtain ⟨kept, server, run, present, contents, status, asked⟩ :=
      attempt_gives_up (DomainIndex.replay changes) (maxConflicts + 1) contested different
        (Nat.not_le.mp enough)
    refine ⟨_, _, server, run, iff_of_false ?_ enough, fun few => absurd few enough,
      fun _ => ⟨rfl, asked, rfl, kept, present, contents, status⟩⟩
    intro impossible
    cases impossible

/-- A replica with an error status is stored, and others will come before replacements. -/
def contest (others : Nat) : List MemoryServer.Event :=
  [.stored (failing (shop (some "bank"))), .conflicts others]

def contestedReplica : Replica :=
  (MemoryServer.empty.put (failing (shop (some "bank")))).1

/-- Three others are waited for, and the fourth replacement lands; one more is too many. -/
theorem createOrUpdate_contested_withinThree :
    let index := DomainIndex.replay [.apply contestedReplica]
    (∃ other server,
      (createOrUpdate "shop" (shop none)).run (index, MemoryServer.replay (contest 3)) =
        (.ok .updated, other, server) ∧
      server.replacements = 4 ∧ ∃ updated, other.get? "shop" = some updated ∧
        updated.snapshot = shop none ∧ updated.statusMessage = "") ∧
    ∃ server,
      (createOrUpdate "shop" (shop none)).run (index, MemoryServer.replay (contest 4)) =
        (.error (.conflict "shop"), index, server) ∧
      server.replacements = 4 ∧ ∃ kept, server.objects.get? "shop" = some kept ∧
        kept.snapshot = shop (some "bank") ∧ kept.status = some { message := "no answer" } := by
  have changed : ¬ (shop none).Resigns (shop (some "bank")) := by
    rw [← Snapshot.sameContent_iff_resigns]
    decide
  intro index
  constructor
  · obtain ⟨result, other, server, run, lands, few, _⟩ :=
      createOrUpdate_contested (contest 3) [.apply contestedReplica] "shop" (shop none)
        rfl rfl rfl rfl changed
    obtain ⟨asked, updated, _, indexed, contents, cleared⟩ := few (Nat.le_refl 3)
    obtain rfl := lands.mpr (Nat.le_refl 3)
    exact ⟨other, server, run, asked, updated, indexed, contents, cleared⟩
  · obtain ⟨result, other, server, run, _, _, many⟩ :=
      createOrUpdate_contested (contest 4) [.apply contestedReplica] "shop" (shop none)
        rfl rfl rfl rfl changed
    obtain ⟨rfl, asked, rfl, kept, present, contents, status⟩ := many (Nat.lt_succ_self 3)
    exact ⟨server, run, asked, kept, present, contents, status⟩

end Store

end PolicyReplica
