import PolicyReplica.Controller.Sync
import PolicyReplica.Controller.Watches
import PolicyReplica.Proofs.Store.WriteThrough

/-
Reports of the changes that the store made itself.

The watch reports each change of the server once and in order, at any time after it, while
the store goes on. Main statement: under each name the index holds what the journal tells
as of some moment between the last report and now. It holds what the journal tells now, and
no report queues anything, as long as each report comes before the next change under its
name and no call of the store breaks off.
-/

namespace PolicyReplica

def WatchReport.change? : WatchReport Replica → Option IndexChange
  | .added replica | .updated _ replica => some (.apply replica)
  | .deleted replica _ => some (.delete replica.name)
  | .synced => none

structure WatchedServer where
  deployment : Deployment RemoteServer
  /-- How many changes of the journal have been reported. -/
  reported : Nat

namespace WatchedServer

def index (watched : WatchedServer) : DomainIndex :=
  watched.deployment.controller.index

def queue (watched : WatchedServer) : SharedQueue String :=
  watched.deployment.controller.queue

def journal (watched : WatchedServer) : List IndexChange :=
  watched.deployment.server.journal

def next? (watched : WatchedServer) : Option IndexChange :=
  watched.journal[watched.reported]?

inductive Step where
  | call (call : StoreCall)
  | report (now : Nat) (report : WatchReport Replica)

/-- A report is accepted if it tells of the next change, in whatever way; others are not
made. -/
def step (watched : WatchedServer) : Step → WatchedServer
  | .call call => { watched with deployment := (watched.deployment.perform call.exchange).2 }
  | .report now report =>
      if watched.next?.isSome ∧ report.change? = watched.next? then
        { deployment := watched.deployment.modify fun controller =>
            controller.acceptReplica now report
          reported := watched.reported + 1 }
      else watched

def run (watched : WatchedServer) (steps : List Step) : WatchedServer :=
  steps.foldl step watched

def upToDate (controller : Controller) (server : MemoryServer)
    (failures : List (Option StoreError)) (history : List IndexChange) : WatchedServer :=
  { deployment := { controller, server := { server, failures, journal := history } }
    reported := history.length }

/-- Holds of a call that does not break off, and of a report that comes before the next change
under its name. -/
def InTime (watched : WatchedServer) : Step → Prop
  | .call call => ¬ call.BreaksOff (watched.index, watched.deployment.server)
  | .report _ _ => ∀ later ∈ watched.journal.drop (watched.reported + 1),
      watched.next?.map IndexChange.name ≠ some later.name

instance (watched : WatchedServer) (step : Step) : Decidable (watched.InTime step) :=
  match step with
  | .call call =>
      inferInstanceAs (Decidable ¬ call.BreaksOff (watched.index, watched.deployment.server))
  | .report _ _ =>
      inferInstanceAs (Decidable (∀ later ∈ watched.journal.drop (watched.reported + 1),
        watched.next?.map IndexChange.name ≠ some later.name))

def AllInTime : List Step → WatchedServer → Prop
  | [], _ => True
  | step :: later, watched => watched.InTime step ∧ AllInTime later (watched.step step)

end WatchedServer

/-! ### Journals -/

theorem lastApplied_append {changes added : List IndexChange} {name : String}
    (others : ∀ change ∈ added, change.name ≠ name) :
    lastApplied (changes ++ added) name = lastApplied changes name := by
  have nothing : added.filter (·.name = name) = [] := by
    rw [List.filter_eq_nil_iff]
    intro change member
    simpa using others change member
  unfold lastApplied
  rw [List.filter_append, nothing, List.append_nil]

theorem lastApplied_take_succ {journal : List IndexChange} {count : Nat} {change : IndexChange}
    (found : journal[count]? = some change) (name : String) :
    lastApplied (journal.take (count + 1)) name =
      if name = change.name then change.replica?
      else lastApplied (journal.take count) name := by
  rw [List.take_add_one, found, Option.toList_some, lastApplied_concat]

/-- A change under one name makes no difference to what was seen of another one. -/
theorem lastApplied_take_later {journal : List IndexChange} {count seen : Nat}
    {change : IndexChange} {name : String} (found : journal[count]? = some change)
    (apart : name ≠ change.name) (later : count ≤ seen) (within : seen ≤ journal.length) :
    ∃ other, count + 1 ≤ other ∧ other ≤ journal.length ∧
      lastApplied (journal.take other) name = lastApplied (journal.take seen) name := by
  rcases Nat.lt_or_eq_of_le later with after | rfl
  · exact ⟨seen, after, within, rfl⟩
  · refine ⟨count + 1, Nat.le_refl _, (List.getElem?_eq_some_iff.mp found).1, ?_⟩
    rw [lastApplied_take_succ found, if_neg apart]

/-- A change that no later one follows under its name is what the journal tells. -/
theorem lastApplied_of_none_later {journal : List IndexChange} {count : Nat}
    {change : IndexChange} (found : journal[count]? = some change)
    (noneLater : ∀ later ∈ journal.drop (count + 1), later.name ≠ change.name) :
    lastApplied journal change.name = change.replica? := by
  rw [← List.take_append_drop (count + 1) journal, lastApplied_append noneLater,
    lastApplied_take_succ found, if_pos rfl]

/-! ### Reports -/

namespace Controller

variable {report : WatchReport Replica} {change : IndexChange}

theorem acceptReplica_index (now : Nat) (controller : Controller)
    (tells : report.change? = some change) :
    (controller.acceptReplica now report).index = controller.index.change change := by
  have applied : ∀ replica, (controller.applyReplica now replica).index =
      (controller.index.apply replica).2 := by
    intro replica
    unfold applyReplica
    by_cases other : (controller.index.apply replica).1.bind Replica.version ≠ replica.version
    · simp only [if_pos other]
      rfl
    · simp only [if_neg other]
  cases report with
  | added replica =>
      obtain rfl := Option.some.inj tells
      exact applied replica
  | updated old replica =>
      obtain rfl := Option.some.inj tells
      exact applied replica
  | deleted replica gone =>
      obtain rfl := Option.some.inj tells
      unfold acceptReplica deleteReplica
      by_cases present : (controller.index.delete replica.name).1.isSome = true
      · simp only [if_pos present]
        rfl
      · simp only [if_neg present]
        rfl
  | synced => cases tells

theorem acceptReplica_queue (now : Nat) {controller : Controller}
    (tells : report.change? = some change)
    (known : controller.index.get? change.name = change.replica?) :
    (controller.acceptReplica now report).queue = controller.queue := by
  have applied : ∀ replica, controller.index.get? replica.name = some replica →
      (controller.applyReplica now replica).queue = controller.queue := by
    intro replica present
    have same : (controller.index.apply replica).1.bind Replica.version = replica.version := by
      rw [DomainIndex.apply_prior, present]
      rfl
    unfold applyReplica
    simp only [same, ne_eq, not_true_eq_false, if_false]
  cases report with
  | added replica =>
      obtain rfl := Option.some.inj tells
      exact applied replica known
  | updated old replica =>
      obtain rfl := Option.some.inj tells
      exact applied replica known
  | deleted replica gone =>
      obtain rfl := Option.some.inj tells
      have absent : (controller.index.delete replica.name).1 = none :=
        (controller.index.delete_prior replica.name).trans known
      unfold acceptReplica deleteReplica
      simp only [absent, Option.isSome_none, Bool.false_eq_true, if_false]
  | synced => cases tells

end Controller

namespace WatchedServer

/-! ### Steps -/

/-- Under each name the index holds what the journal tells as of some moment that is not
before the last report. -/
structure Follows (watched : WatchedServer) : Prop where
  consistent : watched.index.Consistent
  recorded : watched.deployment.server.Recorded
  seen : ∀ name, ∃ seen, watched.reported ≤ seen ∧ seen ≤ watched.journal.length ∧
    watched.index.get? name = lastApplied (watched.journal.take seen) name

theorem step_report (watched : WatchedServer) (now : Nat) (report : WatchReport Replica) :
    watched.step (.report now report) = watched ∨
      ∃ change, watched.next? = some change ∧ report.change? = some change ∧
        watched.step (.report now report) =
          { deployment := watched.deployment.modify fun controller =>
              controller.acceptReplica now report
            reported := watched.reported + 1 } := by
  by_cases due : watched.next?.isSome ∧ report.change? = watched.next?
  · obtain ⟨change, next⟩ := Option.isSome_iff_exists.mp due.1
    exact .inr ⟨change, next, due.2.trans next, if_pos due⟩
  · exact .inl (if_neg due)

theorem Follows.call {watched : WatchedServer} (follows : watched.Follows) (call : StoreCall) :
    (watched.step (.call call)).Follows := by
  obtain ⟨since, through⟩ := call.through follows.consistent follows.recorded
  obtain ⟨added, longer⟩ := since.journal
  have journal : (watched.step (.call call)).journal = watched.journal ++ added := longer.symm
  refine ⟨through.consistent, since.recorded, fun name => ?_⟩
  obtain ⟨seen, afterReports, within, shows⟩ := follows.seen name
  have keeps : (watched.step (.call call)).index.get? name = watched.index.get? name →
      ∃ seen, watched.reported ≤ seen ∧ seen ≤ (watched.step (.call call)).journal.length ∧
        (watched.step (.call call)).index.get? name =
          lastApplied ((watched.step (.call call)).journal.take seen) name := by
    intro same
    refine ⟨seen, afterReports, ?_, ?_⟩
    · rw [journal, List.length_append]
      omega
    · rw [same, shows, journal, List.take_append_of_le_length within]
  by_cases here : name = call.name
  · subst here
    rcases through.here with adopted | ⟨same, _, _⟩
    · refine ⟨(watched.step (.call call)).journal.length, ?_, Nat.le_refl _, ?_⟩
      · rw [journal, List.length_append]
        change watched.reported ≤ _
        omega
      · rw [List.take_length]
        exact adopted.trans (since.recorded.held_eq call.name)
    · exact keeps same
  · exact keeps (through.elsewhere name here)

theorem Follows.report {watched : WatchedServer} (follows : watched.Follows) (now : Nat)
    (report : WatchReport Replica) : (watched.step (.report now report)).Follows := by
  rcases watched.step_report now report with nothing | ⟨change, next, tells, accepted⟩
  · rw [nothing]
    exact follows
  · rw [accepted]
    have indexed : (watched.deployment.controller.acceptReplica now report).index =
        watched.index.change change :=
      Controller.acceptReplica_index now _ tells
    have inJournal : watched.reported < watched.journal.length :=
      (List.getElem?_eq_some_iff.mp next).1
    refine ⟨?_, follows.recorded, fun name => ?_⟩
    · change (watched.deployment.controller.acceptReplica now report).index.Consistent
      rw [indexed]
      exact follows.consistent.change change
    · change ∃ seen, watched.reported + 1 ≤ seen ∧ seen ≤ watched.journal.length ∧
        (watched.deployment.controller.acceptReplica now report).index.get? name =
          lastApplied (watched.journal.take seen) name
      rw [indexed, DomainIndex.get?_change]
      by_cases here : name = change.name
      · refine ⟨watched.reported + 1, Nat.le_refl _, inJournal, ?_⟩
        rw [if_pos here, lastApplied_take_succ next, if_pos here]
      · rw [if_neg here]
        obtain ⟨seen, afterReports, within, shows⟩ := follows.seen name
        obtain ⟨other, later, stillWithin, same⟩ :=
          lastApplied_take_later next here afterReports within
        exact ⟨other, later, stillWithin, shows.trans same.symm⟩

theorem Follows.step {watched : WatchedServer} (follows : watched.Follows) (step : Step) :
    (watched.step step).Follows := by
  cases step with
  | call call => exact follows.call call
  | report now report => exact follows.report now report

structure Current (watched : WatchedServer) (queue : SharedQueue String) : Prop where
  follows : watched.Follows
  shows : ∀ name, watched.index.get? name = lastApplied watched.journal name
  queue_eq : watched.queue = queue

theorem Current.call {watched : WatchedServer} {queue : SharedQueue String}
    (current : watched.Current queue) {call : StoreCall}
    (whole : ¬ call.BreaksOff (watched.index, watched.deployment.server)) :
    (watched.step (.call call)).Current queue where
  follows := current.follows.call call
  shows := by
    have recorded := current.follows.recorded
    have agreed : ∀ name, watched.index.get? name = watched.deployment.server.held name :=
      fun name => (current.shows name).trans (recorded.held_eq name).symm
    intro name
    have agrees := StoreCall.agrees_perform current.follows.consistent recorded agreed whole name
    exact agrees.trans ((current.follows.call call).recorded.held_eq name)
  queue_eq := current.queue_eq

theorem Current.report {watched : WatchedServer} {queue : SharedQueue String}
    (current : watched.Current queue) {now : Nat} {report : WatchReport Replica}
    (inTime : watched.InTime (.report now report)) :
    (watched.step (.report now report)).Current queue := by
  rcases watched.step_report now report with nothing | ⟨change, next, tells, accepted⟩
  · rw [nothing]
    exact current
  · have noneLater : ∀ later ∈ watched.journal.drop (watched.reported + 1),
        later.name ≠ change.name := by
      intro later member same
      refine inTime later member ?_
      rw [next, same]
      rfl
    have known : watched.index.get? change.name = change.replica? :=
      (current.shows change.name).trans (lastApplied_of_none_later next noneLater)
    refine ⟨current.follows.report now report, ?_, ?_⟩
    · rw [accepted]
      intro name
      change (watched.deployment.controller.acceptReplica now report).index.get? name =
        lastApplied watched.journal name
      rw [Controller.acceptReplica_index now _ tells, DomainIndex.get?_change]
      by_cases here : name = change.name
      · rw [if_pos here, here, ← known]
        exact current.shows change.name
      · rw [if_neg here]
        exact current.shows name
    · rw [accepted]
      exact (Controller.acceptReplica_queue now tells known).trans current.queue_eq

theorem Current.step {watched : WatchedServer} {queue : SharedQueue String}
    (current : watched.Current queue) {step : Step} (inTime : watched.InTime step) :
    (watched.step step).Current queue := by
  cases step with
  | call call => exact current.call inTime
  | report now report => exact current.report inTime

/-! ### Runs -/

theorem Follows.run {watched : WatchedServer} (follows : watched.Follows) (steps : List Step) :
    (watched.run steps).Follows := by
  induction steps generalizing watched with
  | nil => exact follows
  | cons step later ih => exact ih (follows.step step)

theorem Current.run {steps : List Step} {watched : WatchedServer} {queue : SharedQueue String}
    (current : watched.Current queue) (inTime : AllInTime steps watched) :
    (watched.run steps).Current queue := by
  induction steps generalizing watched with
  | nil => exact current
  | cons step later ih => exact ih (current.step inTime.1) inTime.2

/-- Reports of own changes are harmless if they come in time: no entry of the index is older
than what the server holds, none is back that was deleted, and nothing is queued. Late ones
take an entry back to the change that they tell of, and never further than that. -/
theorem run_follows (steps : List Step) (history : List IndexChange)
    (failures : List (Option StoreError)) (controller : Controller) (server : MemoryServer)
    (indexed : controller.index = DomainIndex.replay history) (calm : server.Calm)
    (agrees : ∀ name, server.objects.get? name = controller.index.get? name) :
    let start := upToDate controller server failures history
    let last := start.run steps
    (∀ name, last.deployment.server.held name = lastApplied last.journal name) ∧
      (∀ name, ∃ seen, last.reported ≤ seen ∧ seen ≤ last.journal.length ∧
        last.index.get? name = lastApplied (last.journal.take seen) name) ∧
      (AllInTime steps start →
        (∀ name, last.index.get? name = lastApplied last.journal name) ∧
          last.queue = controller.queue) := by
  intro start last
  have shows : ∀ name, controller.index.get? name = lastApplied history name := by
    intro name
    rw [indexed, DomainIndex.get?_replay]
  have follows : start.Follows := by
    refine ⟨?_, ⟨calm, fun name => (agrees name).trans (shows name)⟩, fun name => ?_⟩
    · change controller.index.Consistent
      rw [indexed]
      exact DomainIndex.replay_consistent history
    · refine ⟨history.length, Nat.le_refl _, Nat.le_refl _, ?_⟩
      change controller.index.get? name = lastApplied (history.take history.length) name
      rw [List.take_length]
      exact shows name
  have current : start.Current controller.queue := ⟨follows, shows, rfl⟩
  refine ⟨(follows.run steps).recorded.held_eq, (follows.run steps).seen, fun inTime => ?_⟩
  exact ⟨(current.run inTime).shows, (current.run inTime).queue_eq⟩

def storedShop (trust : Option String) (version : String) : Replica :=
  { Replica.ofSnapshot (Store.shop trust) with
    metadata := { Metadata.empty with name := some "shop", version := some version } }

def idle : Controller :=
  .ofSettings { adminDomain := none, systemNamespaces := [], excludedNamespaces := [] }
    .standard

/-- Each report comes before the next change, the last one after a request was refused. -/
theorem run_follows_inTime :
    let steps : List Step :=
      [.call (.createOrUpdate "shop" (Store.shop none)),
        .report 0 (.added (storedShop none "1")),
        .call (.createOrUpdate "shop" (Store.shop (some "bank"))),
        .report 1 (.updated (storedShop none "1") (storedShop (some "bank") "2")),
        .call (.remove "shop"),
        .call (.remove "shop"),
        .report 2 (.deleted (storedShop (some "bank") "2") false)]
    let start := upToDate idle .empty [none, none, some (.api none)] []
    let last := start.run steps
    AllInTime steps start ∧ last.reported = 3 ∧
      (∀ name, last.index.get? name = lastApplied last.journal name) ∧ last.queue = idle.queue := by
  intro steps start last
  have inTime : AllInTime steps start :=
    ⟨by decide, by decide, by decide, by decide, by decide, by decide, by decide, trivial⟩
  have follows := run_follows steps [] [none, none, some (.api none)] idle .empty rfl
    ⟨rfl, rfl, rfl⟩ fun _ => rfl
  exact ⟨inTime, by decide, follows.2.2 inTime⟩

/-- A late report of a creation takes the index back to it, or brings a replica back that was
deleted; the name is queued. -/
theorem run_goes_back :
    let created : Step := .call (.createOrUpdate "shop" (Store.shop none))
    let report : Step := .report 0 (.added (storedShop none "1"))
    let updated := (upToDate idle .empty [] []).run
      [created, .call (.createOrUpdate "shop" (Store.shop (some "bank"))), report]
    let removed := (upToDate idle .empty [] []).run [created, .call (.remove "shop"), report]
    (updated.deployment.server.held "shop" = some (storedShop (some "bank") "2") ∧
      updated.index.get? "shop" = some (storedShop none "1") ∧
      updated.queue.queue.ready = ["shop"]) ∧
    removed.deployment.server.held "shop" = none ∧
      removed.index.get? "shop" = some (storedShop none "1") ∧
      removed.queue.queue.ready = ["shop"] := by
  decide

end WatchedServer

end PolicyReplica
