import PolicyReplica.Proofs.Store.Relaying
import PolicyReplica.Proofs.Watch.OwnChanges

/-
Answers that come after reports.

Calls of the store are under way at the same time, others write to the server, too, and the
watch reports each change once and in order. A request takes effect at the server, and only
later its answer is heard and put into the index. Main statement: the index holds under each
name what the server held there at some moment, and when all is reported it holds what the
server holds, unless an answer about the name was overtaken: it was heard, and changed the
index, after a later change under the name had been reported. No versions are compared, so
such an answer undoes the later change in the index.
-/

namespace PolicyReplica

namespace RemoteServer

def store (replica : Replica) (remote : RemoteServer) : RemoteServer :=
  let stored := remote.server.put replica
  { remote with server := stored.2, journal := remote.journal ++ [.apply stored.1] }

def erase (name : String) (remote : RemoteServer) : RemoteServer :=
  { remote with
    server := (remote.server.remove name).2
    journal := remote.journal ++ if (remote.held name).isSome then [.delete name] else [] }

theorem Recorded.store {remote : RemoteServer} (recorded : remote.Recorded) (replica : Replica) :
    (remote.store replica).Recorded where
  calm := (recorded.calm.put replica).calm
  held_eq := by
    intro name
    change (remote.server.put replica).2.objects.get? name = lastApplied (remote.journal ++ _) name
    rw [MemoryServer.get?_put, lastApplied_concat, ← recorded.held_eq]
    rfl

theorem Recorded.erase {remote : RemoteServer} (recorded : remote.Recorded) (name : String) :
    (remote.erase name).Recorded where
  calm := ⟨recorded.calm.conflicts, recorded.calm.race, recorded.calm.injected⟩
  held_eq := by
    intro other
    change (remote.server.objects.erase name).get? other = lastApplied (remote.journal ++ _) other
    rw [Table.get?_erase]
    cases present : remote.held name with
    | none =>
        simp only [Option.isSome_none, Bool.false_eq_true, if_false, List.append_nil]
        rw [← recorded.held_eq]
        by_cases here : other = name
        · rw [if_pos here, here, present]
        · rw [if_neg here]
          rfl
    | some replica =>
        simp only [Option.isSome_some, if_true]
        rw [lastApplied_concat, ← recorded.held_eq]
        rfl

end RemoteServer

inductive OpenCall where
  | asked (request : ApiRequest) (next : request.Answer → Exchange Unit)
  /-- The server answered when its journal had this length. -/
  | answered (moment : Nat) (request : ApiRequest) (answer : request.Answer)
      (next : request.Answer → Exchange Unit)

def Exchange.advance : Exchange Unit → DomainIndex → DomainIndex × Option OpenCall
  | .finished _, index => (index, none)
  | .readIndex next, index => (next index).advance index
  | .writeIndex change next, index => next.advance (change index)
  | .call request next, index => (index, some (.asked request next))

def OpenCall.moment? : OpenCall → Option Nat
  | .asked _ _ => none
  | .answered moment _ _ _ => some moment

structure BusyStore extends WatchedServer where
  calls : List OpenCall

namespace BusyStore

def index (busy : BusyStore) : DomainIndex :=
  busy.toWatchedServer.index

def journal (busy : BusyStore) : List IndexChange :=
  busy.toWatchedServer.journal

def server (busy : BusyStore) : RemoteServer :=
  busy.deployment.server

inductive Step where
  | start (call : StoreCall)
  /-- The server gets to the request of the call of that number. -/
  | serve (number : Nat)
  /-- The call of that number hears the answer. -/
  | hear (number : Nat)
  | store (replica : Replica)
  | erase (name : String)
  | report (now : Nat) (report : WatchReport Replica)

def goOn (busy : BusyStore) (number : Nat) (exchange : Exchange Unit) : BusyStore :=
  let moved := exchange.advance busy.index
  { busy with
    deployment := busy.deployment.modify fun controller => { controller with index := moved.1 }
    calls := busy.calls.take number ++ moved.2.toList ++ busy.calls.drop (number + 1) }

def changeServer (busy : BusyStore) (server : RemoteServer) : BusyStore :=
  { busy with deployment := { busy.deployment with server } }

def step (busy : BusyStore) : Step → BusyStore
  | .start call => busy.goOn busy.calls.length (do let _ ← call.exchange; pure ())
  | .serve number =>
      match busy.calls[number]? with
      | some (.asked request next) =>
          let answered := ApiBackend.answer request busy.server
          { busy.changeServer answered.2 with
            calls := busy.calls.set number
              (.answered answered.2.journal.length request answered.1 next) }
      | _ => busy
  | .hear number =>
      match busy.calls[number]? with
      | some (.answered _ _ answer next) => busy.goOn number (next answer)
      | _ => busy
  | .store replica => busy.changeServer (busy.server.store replica)
  | .erase name => busy.changeServer (busy.server.erase name)
  | .report now report =>
      { busy with toWatchedServer := busy.toWatchedServer.step (.report now report) }

def run (busy : BusyStore) (steps : List Step) : BusyStore :=
  steps.foldl step busy

def quiet (controller : Controller) (server : MemoryServer)
    (failures : List (Option StoreError)) (history : List IndexChange) : BusyStore :=
  { WatchedServer.upToDate controller server failures history with calls := [] }

/-- Holds of hearing an answer that changes what the index has under a name, when a later
change under the name was reported before. -/
def Overtaken (busy : BusyStore) (name : String) : Step → Prop
  | .hear number =>
      (busy.step (.hear number)).index.get? name ≠ busy.index.get? name ∧
        ∃ moment ∈ busy.calls[number]?.bind OpenCall.moment?,
          ∃ change ∈ (busy.journal.take busy.reported).drop moment, change.name = name
  | .start _ | .serve _ | .store _ | .erase _ | .report _ _ => False

instance (busy : BusyStore) (name : String) (step : Step) : Decidable (busy.Overtaken name step) :=
  match step with
  | .hear number =>
      inferInstanceAs (Decidable (
        (busy.step (.hear number)).index.get? name ≠ busy.index.get? name ∧
          ∃ moment ∈ busy.calls[number]?.bind OpenCall.moment?,
            ∃ change ∈ (busy.journal.take busy.reported).drop moment, change.name = name))
  | .start _ | .serve _ | .store _ | .erase _ | .report _ _ => inferInstanceAs (Decidable False)

def NoneOvertaken (name : String) : List Step → BusyStore → Prop
  | [], _ => True
  | step :: later, busy => ¬ busy.Overtaken name step ∧ NoneOvertaken name later (busy.step step)

end BusyStore

/-! ### Calls under way -/

/-- What is known of a call under way: it relays what it is told, and what it was told is
what the journal told at that moment. -/
def OpenCall.Sound (journal : List IndexChange) : OpenCall → Prop
  | .asked request next => ∀ answer, request.Named answer →
      (next answer).Relays request.name (fun _ _ => True) (request.told? answer)
  | .answered moment request answer next =>
      moment ≤ journal.length ∧ request.Named answer ∧
        (∀ held, request.told? answer = some held →
          lastApplied (journal.take moment) request.name = held) ∧
        (next answer).Relays request.name (fun _ _ => True) (request.told? answer)

theorem OpenCall.Sound.longer {journal longer : List IndexChange} {call : OpenCall}
    (sound : call.Sound journal) (grown : journal <+: longer) : call.Sound longer := by
  obtain ⟨added, rfl⟩ := grown
  cases call with
  | asked request next => exact sound
  | answered moment request answer next =>
      obtain ⟨within, named, tells, relays⟩ := sound
      refine ⟨?_, named, fun held told => ?_, relays⟩
      · rw [List.length_append]
        omega
      · rw [List.take_append_of_le_length within]
        exact tells held told

/-- What becomes of the index and of a call until its next request. -/
theorem Exchange.Relays.advance {name : String} {told : Option (Option Replica)}
    {exchange : Exchange Unit} (relays : exchange.Relays name (fun _ _ => True) told)
    (named : ∀ replica, told = some (some replica) → replica.name = name) {index : DomainIndex}
    (consistent : index.Consistent) :
    (exchange.advance index).1.Consistent ∧
      (∀ other, (exchange.advance index).1.get? other = index.get? other ∨
        other = name ∧ told = some ((exchange.advance index).1.get? other)) ∧
      ∀ call ∈ (exchange.advance index).2, ∀ journal, call.Sound journal := by
  induction exchange generalizing index with
  | finished result =>
      exact ⟨consistent, fun _ => .inl rfl, fun call impossible => nomatch impossible⟩
  | readIndex next ih => exact ih index (relays index consistent) consistent
  | writeIndex change next ih =>
      obtain ⟨⟨held, rfl, rfl⟩, later⟩ := relays
      obtain ⟨stillConsistent, shows, calls⟩ := ih later (consistent.change (.holding name held))
      refine ⟨stillConsistent, fun other => ?_, calls⟩
      have about : (IndexChange.holding name held).name = name :=
        IndexChange.name_holding fun replica same => named replica (congrArg some same)
      rcases shows other with same | told
      · rw [DomainIndex.get?_change, about, IndexChange.replica?_holding] at same
        by_cases here : other = name
        · rw [if_pos here] at same
          exact .inr ⟨here, congrArg some same.symm⟩
        · rw [if_neg here] at same
          exact .inl same
      · exact .inr told
  | call request next ih =>
      obtain ⟨about, later⟩ := relays
      refine ⟨consistent, fun _ => .inl rfl, ?_⟩
      rintro _ ⟨⟩ journal
      rw [← about] at later
      exact later

theorem StoreCall.begins (call : StoreCall) :
    (do let _ ← call.exchange; pure () : Exchange Unit).Relays call.name (fun _ _ => True) none :=
  (call.relays none).bind _ fun _ _ _ => Exchange.relays_pure trivial

theorem OpenCall.Sound.answer {server : RemoteServer} (recorded : server.Recorded)
    {request : ApiRequest} {next : request.Answer → Exchange Unit} {journal : List IndexChange}
    (asked : (OpenCall.asked request next).Sound journal) :
    let answered := ApiBackend.answer request server
    (OpenCall.answered answered.2.journal.length request answered.1 next).Sound
      answered.2.journal := by
  intro answered
  have truthful := RemoteServer.truthful server request.name
  have since := recorded.since request.name
  have named : request.Named answered.1 := truthful.named_answer since rfl
  refine ⟨Nat.le_refl _, named, fun held tells => ?_, asked _ named⟩
  rw [List.take_length]
  refine ((recorded.answer request).recorded.held_eq request.name).symm.trans ?_
  cases result : answered.1 with
  | error error =>
      rw [result, request.told?_error] at tells
      cases tells
  | ok yield =>
      have fulfilled := truthful.fulfilled since rfl (Prod.ext result rfl)
      rw [result, ApiRequest.told?_of_fulfilled fulfilled] at tells
      exact Option.some.inj tells

namespace BusyStore

theorem step_serve (busy : BusyStore) (number : Nat) :
    busy.step (.serve number) = busy ∨
      ∃ request next, busy.calls[number]? = some (.asked request next) ∧
        let answered := ApiBackend.answer request busy.server
        busy.step (.serve number) =
          { busy.changeServer answered.2 with
            calls := busy.calls.set number
              (.answered answered.2.journal.length request answered.1 next) } := by
  cases found : busy.calls[number]? with
  | none => exact .inl (by simp only [step, found])
  | some call =>
      cases call with
      | asked request next => exact .inr ⟨request, next, rfl, by simp only [step, found]⟩
      | answered moment request answer next => exact .inl (by simp only [step, found])

theorem step_hear (busy : BusyStore) (number : Nat) :
    busy.step (.hear number) = busy ∨
      ∃ moment request answer next,
        busy.calls[number]? = some (.answered moment request answer next) ∧
          busy.step (.hear number) = busy.goOn number (next answer) := by
  cases found : busy.calls[number]? with
  | none => exact .inl (by simp only [step, found])
  | some call =>
      cases call with
      | asked request next => exact .inl (by simp only [step, found])
      | answered moment request answer next =>
          exact .inr ⟨moment, request, answer, next, rfl, by simp only [step, found]⟩

/-! ### Steps -/

structure Sound (busy : BusyStore) : Prop where
  consistent : busy.index.Consistent
  recorded : busy.server.Recorded
  reported : busy.reported ≤ busy.journal.length
  calls : ∀ call ∈ busy.calls, call.Sound busy.journal

inductive Effect (busy : BusyStore) (name : String) (step : Step) : Prop where
  | unseen (index : (busy.step step).index.get? name = busy.index.get? name)
      (journal : busy.journal <+: (busy.step step).journal)
      (reported : (busy.step step).reported = busy.reported)
  | heard (number moment : Nat) (hears : step = .hear number)
      (answered : moment ∈ busy.calls[number]?.bind OpenCall.moment?)
      (index : (busy.step step).index.get? name = lastApplied (busy.journal.take moment) name)
      (within : moment ≤ busy.journal.length)
      (journal : (busy.step step).journal = busy.journal)
      (reported : (busy.step step).reported = busy.reported)
  | told (change : IndexChange) (next : busy.journal[busy.reported]? = some change)
      (index : (busy.step step).index.get? name =
        if name = change.name then change.replica? else busy.index.get? name)
      (journal : (busy.step step).journal = busy.journal)
      (reported : (busy.step step).reported = busy.reported + 1)

structure Lawful (busy : BusyStore) (step : Step) : Prop where
  sound : (busy.step step).Sound
  effect : ∀ name, busy.Effect name step

variable {busy : BusyStore}

theorem Sound.stay (sound : busy.Sound) {step : Step} (nothing : busy.step step = busy) :
    busy.Lawful step where
  sound := by rwa [nothing]
  effect := fun name => by
    refine .unseen ?_ ?_ ?_
    · rw [nothing]
    · rw [nothing]
    · rw [nothing]

theorem Sound.goOn (sound : busy.Sound) (number : Nat) {exchange : Exchange Unit} {name : String}
    {told : Option (Option Replica)} (relays : exchange.Relays name (fun _ _ => True) told)
    (named : ∀ replica, told = some (some replica) → replica.name = name) :
    (busy.goOn number exchange).Sound ∧
      ∀ other, (busy.goOn number exchange).index.get? other = busy.index.get? other ∨
        other = name ∧ told = some ((busy.goOn number exchange).index.get? other) := by
  obtain ⟨consistent, shows, calls⟩ := relays.advance named sound.consistent
  refine ⟨⟨consistent, sound.recorded, sound.reported, ?_⟩, shows⟩
  intro call member
  rcases List.mem_append.mp member with kept | after
  · rcases List.mem_append.mp kept with before | next
    · exact sound.calls call (List.mem_of_mem_take before)
    · exact calls call (Option.mem_toList.mp next) _
  · exact sound.calls call (List.mem_of_mem_drop after)

theorem Sound.changeServer (sound : busy.Sound) {server : RemoteServer}
    (recorded : server.Recorded) (grown : busy.journal <+: server.journal) :
    (busy.changeServer server).Sound where
  consistent := sound.consistent
  recorded := recorded
  reported := sound.reported.trans grown.length_le
  calls := fun call member => (sound.calls call member).longer grown

theorem Sound.start (sound : busy.Sound) (call : StoreCall) : busy.Lawful (.start call) := by
  obtain ⟨after, shows⟩ :=
    sound.goOn busy.calls.length call.begins fun _ impossible => nomatch impossible
  refine ⟨after, fun name => .unseen ?_ List.prefix_rfl rfl⟩
  exact (shows name).resolve_right fun told => nomatch told.2

theorem Sound.serve (sound : busy.Sound) (number : Nat) : busy.Lawful (.serve number) := by
  rcases busy.step_serve number with nothing | ⟨request, next, found, served⟩
  · exact sound.stay nothing
  · have since := sound.recorded.answer request
    have changed := sound.changeServer since.recorded since.journal
    have asked := sound.calls _ (List.mem_of_getElem? found)
    constructor
    · rw [served]
      refine ⟨changed.consistent, changed.recorded, changed.reported, fun call member => ?_⟩
      rcases List.mem_or_eq_of_mem_set member with before | rfl
      · exact changed.calls call before
      · exact asked.answer sound.recorded
    · intro name
      refine .unseen ?_ ?_ ?_
      · rw [served]
        rfl
      · rw [served]
        exact since.journal
      · rw [served]
        rfl

theorem Sound.hear (sound : busy.Sound) (number : Nat) : busy.Lawful (.hear number) := by
  rcases busy.step_hear number with nothing | ⟨moment, request, answer, next, found, heard⟩
  · exact sound.stay nothing
  · obtain ⟨within, named, tells, relays⟩ := sound.calls _ (List.mem_of_getElem? found)
    obtain ⟨after, shows⟩ := sound.goOn number relays named
    rw [← heard] at after shows
    have journal : (busy.step (.hear number)).journal = busy.journal := by rw [heard]; rfl
    have reported : (busy.step (.hear number)).reported = busy.reported := by rw [heard]; rfl
    refine ⟨after, fun name => ?_⟩
    rcases shows name with same | ⟨rfl, told⟩
    · refine .unseen same ?_ reported
      rw [journal]
    · refine .heard number moment rfl ?_ (tells _ told).symm within journal reported
      rw [found]
      rfl

theorem Sound.report (sound : busy.Sound) (now : Nat) (report : WatchReport Replica) :
    busy.Lawful (.report now report) := by
  rcases busy.toWatchedServer.step_report now report with nothing | ⟨change, next, tells, accepted⟩
  · exact sound.stay (by simp only [step, nothing])
  · have index : (busy.step (.report now report)).index = busy.index.change change := by
      simp only [step, accepted]
      exact Controller.acceptReplica_index now _ tells
    have server : (busy.step (.report now report)).server = busy.server := by
      simp only [step, accepted]
      rfl
    have reported : (busy.step (.report now report)).reported = busy.reported + 1 := by
      simp only [step, accepted]
    have journal : (busy.step (.report now report)).journal = busy.journal :=
      congrArg RemoteServer.journal server
    constructor
    · refine ⟨?_, ?_, ?_, ?_⟩
      · rw [index]
        exact sound.consistent.change change
      · rw [server]
        exact sound.recorded
      · rw [reported, journal]
        exact (List.getElem?_eq_some_iff.mp next).1
      · rw [journal]
        exact sound.calls
    · intro name
      refine .told change next ?_ journal reported
      rw [index]
      exact busy.index.get?_change change name

theorem Sound.lawful (sound : busy.Sound) (step : Step) : busy.Lawful step := by
  cases step with
  | start call => exact sound.start call
  | serve number => exact sound.serve number
  | hear number => exact sound.hear number
  | store replica =>
      have grown : busy.journal <+: (busy.server.store replica).journal := List.prefix_append _ _
      exact ⟨sound.changeServer (sound.recorded.store replica) grown,
        fun _ => .unseen rfl grown rfl⟩
  | erase name =>
      have grown : busy.journal <+: (busy.server.erase name).journal := List.prefix_append _ _
      exact ⟨sound.changeServer (sound.recorded.erase name) grown,
        fun _ => .unseen rfl grown rfl⟩
  | report now report => exact sound.report now report

/-! ### What is seen of a name -/

/-- The index holds under a name what the journal told at some moment that is not before a
given one. -/
def Shows (busy : BusyStore) (name : String) (since : Nat) : Prop :=
  ∃ seen, since ≤ seen ∧ seen ≤ busy.journal.length ∧
    busy.index.get? name = lastApplied (busy.journal.take seen) name

variable {name : String} {since : Nat} {step : Step}

theorem Shows.longer {after : BusyStore} (shows : busy.Shows name since)
    (index : after.index.get? name = busy.index.get? name)
    (journal : busy.journal <+: after.journal) : after.Shows name since := by
  obtain ⟨seen, later, within, holds⟩ := shows
  obtain ⟨added, grown⟩ := journal
  refine ⟨seen, later, ?_, ?_⟩
  · rw [← grown, List.length_append]
    omega
  · rw [index, holds, ← grown, List.take_append_of_le_length within]

/-- A change that was just reported is seen. -/
theorem shows_told {after : BusyStore} {change : IndexChange}
    (next : busy.journal[busy.reported]? = some change)
    (index : after.index.get? change.name = change.replica?)
    (journal : after.journal = busy.journal) : after.Shows change.name (busy.reported + 1) := by
  refine ⟨busy.reported + 1, Nat.le_refl _, ?_, ?_⟩
  · rw [journal]
    exact (List.getElem?_eq_some_iff.mp next).1
  · rw [index, journal, lastApplied_take_succ next, if_pos rfl]

theorem Sound.shows_step (sound : busy.Sound) (shows : busy.Shows name 0) (step : Step) :
    (busy.step step).Shows name 0 := by
  cases (sound.lawful step).effect name with
  | unseen index journal _ => exact shows.longer index journal
  | heard number moment _ _ index within journal _ =>
      refine ⟨moment, Nat.zero_le _, ?_, ?_⟩
      · rwa [journal]
      · rwa [journal]
  | told change next index journal _ =>
      by_cases here : name = change.name
      · subst here
        rw [if_pos rfl] at index
        obtain ⟨seen, _, within, holds⟩ := shows_told next index journal
        exact ⟨seen, Nat.zero_le _, within, holds⟩
      · rw [if_neg here] at index
        refine shows.longer index ?_
        rw [journal]

/-- What the index holds under a name stays at least as new as the reports, if no answer about
the name is overtaken. -/
theorem Sound.current_step (sound : busy.Sound) (shows : busy.Shows name busy.reported)
    (inTime : ¬ busy.Overtaken name step) :
    (busy.step step).Shows name (busy.step step).reported := by
  cases (sound.lawful step).effect name with
  | unseen index journal reported =>
      rw [reported]
      exact shows.longer index journal
  | heard number moment hears answered index within journal reported =>
      subst hears
      by_cases same : (busy.step (.hear number)).index.get? name = busy.index.get? name
      · rw [reported]
        refine shows.longer same ?_
        rw [journal]
      · -- Nothing under the name was reported that came after the answer.
        have noneLater : ∀ change ∈ (busy.journal.take busy.reported).drop moment,
            change.name ≠ name := by
          intro change member about
          exact inTime ⟨same, moment, answered, change, member, about⟩
        rw [reported]
        rcases Nat.le_total busy.reported moment with after | before
        · exact ⟨moment, after, journal ▸ within, by rwa [journal]⟩
        · refine ⟨busy.reported, Nat.le_refl _, journal ▸ sound.reported, ?_⟩
          rw [index, journal, ← List.take_append_drop moment (busy.journal.take busy.reported),
            lastApplied_append noneLater, List.take_take, Nat.min_eq_left before]
  | told change next index journal reported =>
      rw [reported]
      by_cases here : name = change.name
      · subst here
        rw [if_pos rfl] at index
        exact shows_told next index journal
      · rw [if_neg here] at index
        obtain ⟨seen, later, within, holds⟩ := shows
        obtain ⟨other, after, stillWithin, same⟩ := lastApplied_take_later next here later within
        exact ⟨other, after, journal ▸ stillWithin, by rw [index, holds, journal, same]⟩

/-! ### Runs -/

theorem Sound.run (sound : busy.Sound) (steps : List Step) : (busy.run steps).Sound := by
  induction steps generalizing busy with
  | nil => exact sound
  | cons step later ih => exact ih (sound.lawful step).sound

theorem Sound.shows_run (sound : busy.Sound) (shows : busy.Shows name 0) (steps : List Step) :
    (busy.run steps).Shows name 0 := by
  induction steps generalizing busy with
  | nil => exact shows
  | cons step later ih => exact ih (sound.lawful step).sound (sound.shows_step shows step)

theorem Sound.current_run (sound : busy.Sound) (shows : busy.Shows name busy.reported)
    {steps : List Step} (inTime : NoneOvertaken name steps busy) :
    (busy.run steps).Shows name (busy.run steps).reported := by
  induction steps generalizing busy with
  | nil => exact shows
  | cons step later ih =>
      exact ih (sound.lawful step).sound (sound.current_step shows inTime.1) inTime.2

/-- However requests, answers, reports and the changes that others make come together, the
index holds under each name what the server held there at some moment. It settles: once all
is reported, it holds what the server holds, under each name of which no answer was
overtaken. -/
theorem run_settles (steps : List Step) (history : List IndexChange)
    (failures : List (Option StoreError)) (controller : Controller) (server : MemoryServer)
    (indexed : controller.index = DomainIndex.replay history) (calm : server.Calm)
    (agrees : ∀ name, server.objects.get? name = controller.index.get? name) :
    let start := quiet controller server failures history
    let last := start.run steps
    (∀ name, last.server.held name = lastApplied last.journal name) ∧
      ∀ name, last.Shows name 0 ∧
        (NoneOvertaken name steps start → last.reported = last.journal.length →
          last.index.get? name = last.server.held name) := by
  intro start last
  have shows : ∀ name, controller.index.get? name = lastApplied history name := by
    intro name
    rw [indexed, DomainIndex.get?_replay]
  have sound : start.Sound := by
    refine ⟨?_, ⟨calm, fun name => (agrees name).trans (shows name)⟩, Nat.le_refl _, ?_⟩
    · change controller.index.Consistent
      rw [indexed]
      exact DomainIndex.replay_consistent history
    · exact fun call impossible => nomatch impossible
  have current : ∀ name, start.Shows name start.reported := by
    intro name
    refine ⟨history.length, Nat.le_refl _, Nat.le_refl _, ?_⟩
    change controller.index.get? name = lastApplied (history.take history.length) name
    rw [List.take_length]
    exact shows name
  have held := (sound.run steps).recorded.held_eq
  refine ⟨held, fun name => ⟨?_, fun inTime all => ?_⟩⟩
  · obtain ⟨seen, _, within, holds⟩ := current name
    exact sound.shows_run ⟨seen, Nat.zero_le _, within, holds⟩ steps
  · obtain ⟨seen, later, within, holds⟩ := sound.current_run (current name) inTime
    have everything : seen = last.journal.length :=
      Nat.le_antisymm within (all ▸ later)
    rw [holds, everything, List.take_length]
    exact (held name).symm

section

open WatchedServer (idle storedShop)

def create : Step := .start (.createOrUpdate "shop" (Store.shop none))

def remove : Step := .start (.remove "shop")

def intrude : Step := .store (Replica.ofSnapshot (Store.shop (some "bank")))

def tellStored (trust : Option String) (version : String) : Step :=
  .report 0 (.added (storedShop trust version))

def tellRemoved : Step := .report 0 (.deleted (storedShop none "1") false)

/-- The creation is reported before its answer is heard, and the removal is heard before it is
reported, when the shop is there again. -/
theorem run_settles_inTime :
    let steps := [create, .serve 0, tellStored none "1", .hear 0,
      remove, .serve 0, intrude, .hear 0, tellRemoved, tellStored (some "bank") "2"]
    let start := quiet idle .empty [] []
    let last := start.run steps
    NoneOvertaken "shop" steps start ∧ last.journal.length = 3 ∧
      last.reported = last.journal.length ∧
      last.index.get? "shop" = last.server.held "shop" := by
  intro steps start last
  have inTime : NoneOvertaken "shop" steps start :=
    ⟨by decide, by decide, by decide, by decide, by decide, by decide, by decide, by decide,
      by decide, by decide, trivial⟩
  have settles := run_settles steps [] [] idle .empty rfl ⟨rfl, rfl, rfl⟩ fun _ => rfl
  exact ⟨inTime, by decide, by decide, (settles.2 "shop").2 inTime (by decide)⟩

/-- An answer that is heard after a later change was reported undoes that change in the index
for good: the first shop is back, or the second one is lost. -/
theorem run_keeps_overtaken_answer :
    let created := (quiet idle .empty [] []).run
      [create, .serve 0, intrude, tellStored none "1", tellStored (some "bank") "2", .hear 0]
    let removed := (quiet idle .empty [] []).run
      [create, .serve 0, .hear 0, tellStored none "1",
        remove, .serve 0, intrude, tellRemoved, tellStored (some "bank") "2", .hear 0]
    (created.calls = [] ∧ created.reported = created.journal.length ∧
      created.index.get? "shop" = some (storedShop none "1") ∧
      created.server.held "shop" = some (storedShop (some "bank") "2")) ∧
    removed.calls = [] ∧ removed.reported = removed.journal.length ∧
      removed.index.get? "shop" = none ∧
      removed.server.held "shop" = some (storedShop (some "bank") "2") := by
  decide

end

end BusyStore

end PolicyReplica
