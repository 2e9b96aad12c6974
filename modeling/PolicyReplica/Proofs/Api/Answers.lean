import PolicyReplica.Proofs.Store.InStep

/-
What the answers of an API server say about the objects that it holds.

An answer that a request succeeded tells what is held under its name from then on,
whoever else writes and whatever requests failed before. A server that nobody else
writes to holds what it held before when it refuses a request, and a request changes
nothing under other names.
-/

namespace PolicyReplica

namespace ApiRequest

def Fulfilled :
    (request : ApiRequest) → request.Yield → Option Replica → Option Replica → Prop
  | .get _, found, before, after => found = before ∧ after = before
  | .create replica, created, _, after =>
      after = some created ∧ created.snapshot = replica.snapshot ∧
        created.status = replica.status
  | .replace replica, replaced, before, after =>
      after = some replaced ∧ replaced.snapshot = replica.snapshot ∧
        ∃ current, before = some current ∧ replaced.status = current.status
  | .setStatus _ message, updated, before, after =>
      after = some updated ∧ updated.status = some { message } ∧
        ∃ current, before = some current ∧ updated.snapshot = current.snapshot
  | .delete _, _, _, after => after = none

end ApiRequest

section Truthful

variable {σ : Type} [ApiBackend σ]

/-- Servers that hold at most a replica of that name under a name, and that do what they
say they did about it. The condition on the servers is one that requests about the name
keep. -/
structure Truthful (name : String) (held : σ → Option Replica) (sound : σ → Prop) : Prop where
  named : ∀ {server replica}, sound server → held server = some replica → replica.name = name
  kept : ∀ {server} (request : ApiRequest), sound server → request.name = name →
    sound (ApiBackend.answer request server).2
  fulfilled : ∀ {server after} {request : ApiRequest} {yield : request.Yield}, sound server →
    request.name = name → ApiBackend.answer request server = (.ok yield, after) →
    request.Fulfilled yield (held server) (held after)

/-- Servers that hold what they held before when they refuse a request about a name. -/
def Unmoved (name : String) (held : σ → Option Replica) (sound : σ → Prop) : Prop :=
  ∀ ⦃server after⦄ ⦃request : ApiRequest⦄ ⦃error : StoreError⦄, sound server →
    request.name = name → ApiBackend.answer request server = (.error error, after) →
    held after = held server

variable {name : String} {held : σ → Option Replica} {sound : σ → Prop}

theorem Truthful.sound_of_answer (truthful : Truthful name held sound) {server after : σ}
    {request : ApiRequest} {answer : request.Answer} (isSound : sound server)
    (about : request.name = name)
    (answered : ApiBackend.answer request server = (answer, after)) : sound after := by
  have keeps := truthful.kept request isSound about
  rw [answered] at keeps
  exact keeps

end Truthful

namespace MemoryServer

/-! ### Conditions on what is held -/

/-- Conditions that depend on the objects and the counter alone, and that storing an object
and deleting one keep. -/
structure Lasting (condition : MemoryServer → Prop) : Prop where
  empty : condition empty
  put : ∀ {server}, condition server → ∀ replica, condition (server.put replica).2
  erase : ∀ {server}, condition server → ∀ name,
    condition { server with objects := server.objects.erase name }
  regard : ∀ {server other}, condition server → other.objects = server.objects →
    other.counter = server.counter → condition other

namespace Lasting

variable {condition : MemoryServer → Prop} {server : MemoryServer}

theorem disturb (lasting : Lasting condition) (holds : condition server) (current : Replica) :
    condition (server.disturb current) := by
  unfold MemoryServer.disturb
  by_cases quiet : server.conflicts = 0
  · rw [if_pos quiet]
    exact holds
  · rw [if_neg quiet]
    have due : condition { server with conflicts := server.conflicts - 1 } :=
      lasting.regard holds rfl rfl
    exact lasting.put due current

theorem create (lasting : Lasting condition) (holds : condition server) (replica : Replica) :
    condition (server.create replica).2 := by
  unfold MemoryServer.create
  cases server.race with
  | some other =>
      have passed : condition { server with race := none } := lasting.regard holds rfl rfl
      exact lasting.put passed other
  | none =>
      dsimp only
      by_cases there : server.objects.contains replica.name = true
      · rw [if_pos there]
        exact holds
      · rw [if_neg there]
        exact lasting.put holds replica

theorem replace (lasting : Lasting condition) (holds : condition server) (replica : Replica) :
    condition (server.replace replica).2 := by
  unfold MemoryServer.replace
  cases server.objects.get? replica.name with
  | none => exact holds
  | some found =>
      have disturbed := lasting.disturb holds found
      dsimp only
      split
      · exact disturbed
      · exact lasting.put disturbed _

theorem setStatus (lasting : Lasting condition) (holds : condition server)
    (name message : String) : condition (server.setStatus name message).2 := by
  unfold MemoryServer.setStatus
  cases server.objects.get? name with
  | none => exact holds
  | some current => exact lasting.put holds _

theorem perform (lasting : Lasting condition) (holds : condition server)
    (request : ApiRequest) : condition (server.perform request).2 := by
  cases request with
  | get name => exact holds
  | create replica => exact lasting.create holds replica
  | replace replica => exact lasting.replace holds replica
  | setStatus name message => exact lasting.setStatus holds name message
  | delete name => exact lasting.erase holds name

end Lasting

def Named (server : MemoryServer) : Prop :=
  ∀ name replica, server.objects.get? name = some replica → replica.name = name

theorem get?_put (server : MemoryServer) (replica : Replica) (name : String) :
    (server.put replica).2.objects.get? name =
      if name = replica.name then some (server.put replica).1 else server.objects.get? name :=
  Table.get?_insert server.objects (server.put replica).1.name name (server.put replica).1

theorem Named.lasting : Lasting Named where
  empty := fun name replica found => by cases found
  put := by
    intro server named replica name stored found
    rw [get?_put] at found
    by_cases here : name = replica.name
    · rw [if_pos here] at found
      obtain rfl := Option.some.inj found
      exact here.symm
    · rw [if_neg here] at found
      exact named name stored found
  erase := by
    intro server named name other stored found
    change (server.objects.erase name).get? other = some stored at found
    rw [Table.get?_erase] at found
    by_cases here : other = name
    · rw [if_pos here] at found
      cases found
    · rw [if_neg here] at found
      exact named other stored found
  regard := by
    intro server other named objects _ name replica found
    rw [objects] at found
    exact named name replica found

theorem Named.put {server : MemoryServer} (named : server.Named) (replica : Replica) :
    (server.put replica).2.Named :=
  Named.lasting.put named replica

theorem Named.disturb {server : MemoryServer} (named : server.Named) (current : Replica) :
    (server.disturb current).Named :=
  Named.lasting.disturb named current

/-- Others store an object anew as it was, but for its version. -/
theorem get?_disturb {server : MemoryServer} {name : String} {current : Replica}
    (found : server.objects.get? name = some current) (named : current.name = name) :
    ∃ renewed, (server.disturb current).objects.get? name = some renewed ∧
      renewed.snapshot = current.snapshot ∧ renewed.status = current.status := by
  unfold disturb
  by_cases quiet : server.conflicts = 0
  · rw [if_pos quiet]
    exact ⟨current, found, rfl, rfl⟩
  · rw [if_neg quiet, get?_put, if_pos named.symm]
    exact ⟨_, rfl, rfl, rfl⟩

/-! ### Answers -/

/-- A request meets a failure, or is performed. -/
theorem answer_cases (server : MemoryServer) (request : ApiRequest) :
    (∃ error injected, ApiBackend.answer request server =
        (.error error, { server.noted request with injected })) ∨
      ApiBackend.answer request server = (server.noted request).perform request := by
  change (∃ error injected, server.answer request = _) ∨ server.answer request = _
  unfold answer
  cases due : takeFault request.method server.injected with
  | none => exact .inr (by simp only [due]; rfl)
  | some fault =>
      exact .inl ⟨fault.1.meaning request.name, fault.2, by simp only [due]; rfl⟩

theorem create_cases (server : MemoryServer) (replica : Replica) :
    (∃ other, server.create replica =
        (.error (.alreadyExists replica.name), ({ server with race := none }.put other).2) ∧
      server.race = some other) ∨
    server.create replica = (.error (.alreadyExists replica.name), server) ∨
    server.create replica = (.ok (server.put replica).1, (server.put replica).2) := by
  unfold create
  cases raced : server.race with
  | some other => exact .inl ⟨other, rfl, rfl⟩
  | none =>
      by_cases there : server.objects.contains replica.name = true
      · simp only [there, if_true]
        exact .inr (.inl trivial)
      · simp only [there]
        exact .inr (.inr rfl)

theorem replace_found {server : MemoryServer} (named : server.Named) (replica : Replica)
    {found : Replica} (present : server.objects.get? replica.name = some found) :
    server.replace replica = (.error (.conflict replica.name), server.disturb found) ∨
      ∃ status, status = found.status ∧ server.replace replica =
        (.ok ((server.disturb found).put { replica with status }).1,
          ((server.disturb found).put { replica with status }).2) := by
  obtain ⟨renewed, stillThere, _, status⟩ := get?_disturb present (named _ _ present)
  unfold replace
  simp only [present, stillThere, Option.getD_some]
  by_cases stale : renewed.version ≠ replica.version
  · rw [if_pos stale]
    exact .inl rfl
  · rw [if_neg stale]
    exact .inr ⟨renewed.status, status, rfl⟩

theorem replace_cases {server : MemoryServer} (named : server.Named) (replica : Replica) :
    server.replace replica = (.error (.notFound replica.name), server) ∨
    ∃ found, server.objects.get? replica.name = some found ∧
      (server.replace replica = (.error (.conflict replica.name), server.disturb found) ∨
        ∃ status, status = found.status ∧ server.replace replica =
          (.ok ((server.disturb found).put { replica with status }).1,
            ((server.disturb found).put { replica with status }).2)) := by
  cases present : server.objects.get? replica.name with
  | none =>
      left
      unfold replace
      rw [present]
  | some found => exact .inr ⟨found, rfl, replace_found named replica present⟩

theorem setStatus_cases (server : MemoryServer) (name message : String) :
    server.setStatus name message = (.error (.notFound name), server) ∨
    ∃ current, server.objects.get? name = some current ∧
      server.setStatus name message =
        (.ok (server.put { current with status := some { message } }).1,
          (server.put { current with status := some { message } }).2) := by
  unfold setStatus
  cases present : server.objects.get? name with
  | none => exact .inl rfl
  | some current => exact .inr ⟨current, rfl, rfl⟩

theorem Lasting.answer {condition : MemoryServer → Prop} (lasting : Lasting condition)
    {server : MemoryServer} (holds : condition server) (request : ApiRequest) :
    condition (ApiBackend.answer request server).2 := by
  rcases server.answer_cases request with ⟨error, injected, answered⟩ | answered
  · rw [answered]
    exact lasting.regard holds rfl rfl
  · rw [answered]
    have noted : condition (server.noted request) := lasting.regard holds rfl rfl
    exact lasting.perform noted request

theorem Named.answer {server : MemoryServer} (named : server.Named) (request : ApiRequest) :
    (ApiBackend.answer request server).2.Named :=
  Named.lasting.answer named request

theorem get?_put_self (server : MemoryServer) {replica : Replica} {name : String}
    (named : replica.name = name) :
    (server.put replica).2.objects.get? name = some (server.put replica).1 := by
  rw [get?_put, if_pos named.symm]

theorem Named.fulfilled_perform {server after : MemoryServer} (named : server.Named)
    {request : ApiRequest} {yield : request.Yield}
    (answered : server.perform request = (.ok yield, after)) :
    request.Fulfilled yield (server.objects.get? request.name)
      (after.objects.get? request.name) := by
  cases request with
  | get name =>
      cases answered
      exact ⟨rfl, rfl⟩
  | create replica =>
      change server.create replica = (.ok yield, after) at answered
      rcases server.create_cases replica with ⟨other, refused, _⟩ | refused | stored
      · rw [refused] at answered
        cases answered
      · rw [refused] at answered
        cases answered
      · rw [stored] at answered
        cases answered
        exact ⟨server.get?_put_self rfl, rfl, rfl⟩
  | replace replica =>
      change server.replace replica = (.ok yield, after) at answered
      rcases replace_cases named replica with
        refused | ⟨found, present, refused | ⟨status, same, stored⟩⟩
      · rw [refused] at answered
        cases answered
      · rw [refused] at answered
        cases answered
      · rw [stored] at answered
        cases answered
        exact ⟨get?_put_self _ rfl, rfl, found, present, same⟩
  | setStatus name message =>
      change server.setStatus name message = (.ok yield, after) at answered
      rcases server.setStatus_cases name message with refused | ⟨current, present, stored⟩
      · rw [refused] at answered
        cases answered
      · rw [stored] at answered
        cases answered
        exact ⟨get?_put_self _ (named name current present), rfl, current, present, rfl⟩
  | delete name =>
      cases answered
      exact Table.get?_erase_self server.objects name

/-- Whoever else writes and whatever fails, a server in memory does what it says. -/
theorem truthful (name : String) :
    Truthful name (fun server : MemoryServer => server.objects.get? name) Named where
  named := fun named found => named name _ found
  kept := fun request named _ => named.answer request
  fulfilled := by
    rintro server after request yield named rfl answered
    rcases server.answer_cases request with ⟨error, injected, failed⟩ | performed
    · rw [failed] at answered
      cases answered
    · rw [performed] at answered
      have noted : (server.noted request).Named := named
      exact noted.fulfilled_perform answered

/-! ### Histories -/

inductive Event where
  | asked (request : ApiRequest)
  | stored (replica : Replica)
  | removed (name : String)
  | conflicts (count : Nat)
  | race (other : Option Replica)
  | injected (failures : List (ApiMethod × ApiFault))
  | requestsTaken

def happen (server : MemoryServer) : Event → MemoryServer
  | .asked request => (ApiBackend.answer request server).2
  | .stored replica => (server.put replica).2
  | .removed name => (server.remove name).2
  | .conflicts count => { server with conflicts := count }
  | .race other => { server with race := other }
  | .injected failures => { server with injected := failures }
  | .requestsTaken => server.takeRequests.2

def replay (history : List Event) : MemoryServer :=
  history.foldl happen empty

theorem Lasting.happen {condition : MemoryServer → Prop} (lasting : Lasting condition)
    {server : MemoryServer} (holds : condition server) (event : Event) :
    condition (server.happen event) := by
  cases event with
  | asked request => exact lasting.answer holds request
  | stored replica => exact lasting.put holds replica
  | removed name => exact lasting.erase holds name
  | conflicts count => exact lasting.regard holds rfl rfl
  | race other => exact lasting.regard holds rfl rfl
  | injected failures => exact lasting.regard holds rfl rfl
  | requestsTaken => exact lasting.regard holds rfl rfl

theorem Lasting.replay {condition : MemoryServer → Prop} (lasting : Lasting condition)
    (history : List Event) : condition (replay history) := by
  have keeps : ∀ server : MemoryServer, condition server →
      condition (history.foldl MemoryServer.happen server) := by
    induction history with
    | nil => exact fun server holds => holds
    | cons event rest ih => exact fun server holds => ih _ (lasting.happen holds event)
  exact keeps MemoryServer.empty lasting.empty

theorem Named.happen {server : MemoryServer} (named : server.Named) (event : Event) :
    (server.happen event).Named :=
  Named.lasting.happen named event

theorem replay_named (history : List Event) : (replay history).Named :=
  Named.lasting.replay history

/-! ### Servers that nobody else writes to -/

/-- What a request does that nobody comes in between: it touches its own name at most,
and nothing at all if it is refused. -/
structure Local (before after : MemoryServer) (request : ApiRequest) (answer : request.Answer) :
    Prop where
  calm : after.Calm
  elsewhere : ∀ name, name ≠ request.name →
    after.objects.get? name = before.objects.get? name
  refused : ∀ error, answer = .error error → after.objects = before.objects

theorem Local.put {server : MemoryServer} (calm : server.Calm) {request : ApiRequest}
    {replica : Replica} (about : replica.name = request.name) {answer : request.Answer}
    (succeeded : ∀ error, answer ≠ .error error) :
    Local server (server.put replica).2 request answer where
  calm := (calm.put replica).calm
  elsewhere := fun name apart => by rw [get?_put, if_neg (about ▸ apart)]
  refused := fun error failed => absurd failed (succeeded error)

theorem Calm.disturb {server : MemoryServer} (calm : server.Calm) (current : Replica) :
    server.disturb current = server :=
  if_pos calm.conflicts

theorem Calm.local_perform {server : MemoryServer} (calm : server.Calm) (named : server.Named)
    (request : ApiRequest) :
    Local server (server.perform request).2 request (server.perform request).1 := by
  have unchanged : ∀ answer : request.Answer, Local server server request answer :=
    fun _ => ⟨calm, fun _ _ => rfl, fun _ _ => rfl⟩
  cases request with
  | get name => exact unchanged _
  | create replica =>
      change Local server (server.create replica).2 (.create replica) (server.create replica).1
      rcases server.create_cases replica with ⟨other, _, raced⟩ | answered | answered
      · rw [calm.race] at raced
        cases raced
      · rw [answered]
        exact unchanged _
      · rw [answered]
        exact .put calm rfl fun error => by simp
  | replace replica =>
      change Local server (server.replace replica).2 (.replace replica) (server.replace replica).1
      rcases replace_cases named replica with
        answered | ⟨found, _, answered | ⟨status, _, answered⟩⟩
      · rw [answered]
        exact unchanged _
      · rw [answered, calm.disturb]
        exact unchanged _
      · rw [answered, calm.disturb]
        exact .put calm rfl fun error => by simp
  | setStatus name message =>
      change Local server (server.setStatus name message).2 (.setStatus name message)
        (server.setStatus name message).1
      rcases server.setStatus_cases name message with answered | ⟨current, present, answered⟩
      · rw [answered]
        exact unchanged _
      · rw [answered]
        exact .put calm (named name current present) fun error => by simp
  | delete name =>
      refine ⟨⟨calm.conflicts, calm.race, calm.injected⟩, fun other apart => ?_, ?_⟩
      · have different : other ≠ name := apart
        change (server.objects.erase name).get? other = _
        rw [Table.get?_erase, if_neg different]
      · intro error failed
        cases failed

theorem Calm.local_answer {server : MemoryServer} (calm : server.Calm) (named : server.Named)
    (request : ApiRequest) :
    Local server (ApiBackend.answer request server).2 request
      (ApiBackend.answer request server).1 := by
  rw [calm.answer request]
  have performed := (calm.noted request).local_perform named request
  exact ⟨performed.calm, performed.elsewhere, performed.refused⟩

end MemoryServer

end PolicyReplica
