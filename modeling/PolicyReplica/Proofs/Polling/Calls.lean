import PolicyReplica.Proofs.Resync.Coverage

/-
What the calls of a poller come to, one after the other.

A listing may fail, a cursor may not get recorded, and between two calls everything around the
poller may change. Main statement: a listing is asked with the last cursor that was answered,
so that no change is skipped. A failed one has no effect. Another one queues what is valid of
its domains, and at no moment is the cursor moved before all of them are queued.
-/

namespace PolicyReplica

def StagedService.listing (service : StagedService) : Except ServiceError ChangeList :=
  if service.listFailures = 0 then .ok service.changes else .error service.listError

theorem StagedService.list_fst (service : StagedService) (now : Nat) (cursor : String) :
    (service.list now cursor).1 = service.listing := by
  unfold list note listing
  by_cases answers : service.listFailures = 0
  · simp only [if_pos answers]
  · simp only [if_neg answers]

theorem StagedService.list_requests (service : StagedService) (now : Nat) (cursor : String) :
    (service.list now cursor).2.requests = service.requests ++ [(now, .list cursor)] := by
  unfold list note
  by_cases answers : service.listFailures = 0
  · simp only [if_pos answers]
  · simp only [if_neg answers]

theorem StagedRecord.record_asked (record : StagedRecord) (cursor : String) :
    (record.record cursor).asked = record.asked ++ [cursor] := by
  unfold StagedRecord.record
  by_cases recorded : record.failures = 0
  · simp only [if_pos recorded]
  · simp only [if_neg recorded]

theorem Controller.enqueueAll_eq (now : Nat) (domains : List String) (controller : Controller) :
    controller.enqueueAll now domains =
      { controller with
        queue := domains.foldl (fun queue domain => queue.addRateLimited now domain)
          controller.queue } := by
  induction domains generalizing controller with
  | nil => rfl
  | cons domain rest ih =>
      rw [enqueueAll_cons, ih]
      rfl

structure PollCall where
  now : Nat
  around : ControllerWorld

namespace PollCall

def answer (call : PollCall) : Except ServiceError ChangeList :=
  call.around.service.listing

def cursor? (call : PollCall) : Option String :=
  match call.answer with
  | .ok changes => if changes.cursor = "" then none else some changes.cursor
  | .error _ => none

def lastCursor (first : String) (calls : List PollCall) : String :=
  (calls.filterMap cursor?).getLastD first

theorem filterMap_cursor?_cons (call : PollCall) (later : List PollCall) :
    (call :: later).filterMap cursor? = call.cursor?.toList ++ later.filterMap cursor? := by
  cases answered : call.cursor? with
  | none => exact List.filterMap_cons_none answered
  | some cursor => exact List.filterMap_cons_some answered

theorem lastCursor_cons (first : String) (call : PollCall) (later : List PollCall) :
    lastCursor first (call :: later) = lastCursor (call.cursor?.getD first) later := by
  unfold lastCursor
  rw [filterMap_cursor?_cons]
  cases call.cursor? with
  | none => rfl
  | some cursor => exact List.getLastD_cons

end PollCall

/-- A call of a poller with the worlds before and after it; there is no result without the
poller. -/
structure Polled where
  now : Nat
  before : ControllerWorld
  result : Option (Except ServiceError Nat)
  after : ControllerWorld

namespace ControllerWorld

/-- The world in which a poller finds itself when everything has changed but the pollers, what
was asked for them, and what was counted of them. -/
def meet (world around : ControllerWorld) : ControllerWorld :=
  let polls := world.controller.metrics.polls
  { around.modify fun controller =>
      { controller with metrics := { controller.metrics with polls } } with
    pollers := world.pollers
    service := { around.service with requests := world.service.requests }
    record := { around.record with asked := world.record.asked } }

def listed (now : Nat) (cursor : String) (world : ControllerWorld) : ControllerWorld :=
  { world with service := (world.service.list now cursor).2 }

def callPoller (number : Nat) (world : ControllerWorld) (call : PollCall) : Polled :=
  match world.pollers[number]? with
  | none =>
      let met := world.meet call.around
      { now := call.now, before := met, result := none, after := met }
  | some poller =>
      let met := world.meet call.around
      let polled := met.pollChanges call.now number poller
      { now := call.now, before := met, result := some polled.1, after := polled.2 }

def callAll (number : Nat) : ControllerWorld → List PollCall → List Polled
  | _, [] => []
  | world, call :: later =>
      let polled := world.callPoller number call
      polled :: callAll number polled.after later

end ControllerWorld

namespace Polled

def queued (polled : Polled) (changes : ChangeList) : List String :=
  (changes.domains.map Snapshot.name).filter polled.before.controller.isValid

def listed (polled : Polled) : ControllerWorld :=
  { polled.before with service := polled.after.service }

def moment (polled : Polled) (number : Nat) (moves : List PollMove) : ControllerWorld :=
  (moves.foldl (ControllerWorld.makeMove polled.now number)
    { queued := 0, world := polled.listed }).world

structure Refused (polled : Polled) (error : ServiceError) : Prop where
  result : polled.result = some (.error error)
  pollers : polled.after.pollers = polled.before.pollers
  record : polled.after.record = polled.before.record
  deployment : polled.after.deployment = polled.before.deployment

/-- The call queues what is listed and valid, in order. In each moment the pollers are still as
they were, or the queue is already as it will be. -/
structure Accepted (polled : Polled) (number : Nat) (changes : ChangeList) : Prop where
  result : polled.result = some (.ok (polled.queued changes).length)
  controller : polled.after.controller =
    { polled.before.controller with
      queue := (polled.queued changes).foldl
        (fun queue domain => queue.addRateLimited polled.now domain)
        polled.before.controller.queue }
  admissions : ∀ domain, polled.after.controller.queue.requeues domain =
    polled.before.controller.queue.requeues domain + (polled.queued changes).count domain
  ends : polled.after = polled.moment number changes.moves
  order : ∀ count, let moment := polled.moment number (changes.moves.take count)
    moment.pollers = polled.before.pollers ∨ moment.controller = polled.after.controller

end Polled

/-! ### Moves -/

namespace ControllerWorld

variable (now number : Nat)

theorem foldl_visits (domains : List String) (polling : Polling) :
    (domains.map .visit).foldl (makeMove now number) polling =
      let valid := domains.filter polling.world.controller.isValid
      { queued := polling.queued + valid.length
        world := polling.world.modify (Controller.enqueueAll now valid) } := by
  induction domains generalizing polling with
  | nil => rfl
  | cons domain rest ih =>
      rw [List.map_cons, List.foldl_cons, ih]
      unfold makeMove visit
      by_cases valid : polling.world.controller.isValid domain = true
      · simp only [if_pos valid, List.filter_cons_of_pos valid, List.length_cons]
        congr 1
        exact Nat.add_right_comm _ _ _
      · simp only [if_neg valid, List.filter_cons_of_neg valid]

/-- A visit changes nothing but the queue. -/
theorem visit_world (domain : String) (polling : Polling) :
    ∃ queue, (visit now domain polling).world =
      polling.world.modify fun controller => { controller with queue } := by
  unfold visit
  by_cases valid : polling.world.controller.isValid domain = true
  · rw [if_pos valid]
    exact ⟨polling.world.controller.queue.addRateLimited now domain, rfl⟩
  · rw [if_neg valid]
    exact ⟨polling.world.controller.queue, rfl⟩

/-- What each move leaves alone is left alone by all of them. -/
theorem foldl_view {α : Type} (view : ControllerWorld → α) (moves : List PollMove)
    (keeps : ∀ move ∈ moves, ∀ polling,
      view (makeMove now number polling move).world = view polling.world)
    (polling : Polling) :
    view (moves.foldl (makeMove now number) polling).world = view polling.world := by
  induction moves generalizing polling with
  | nil => rfl
  | cons move later ih =>
      obtain ⟨here, there⟩ := List.forall_mem_cons.mp keeps
      rw [List.foldl_cons, ih there, here polling]

theorem foldl_visits_pollers (moves : List PollMove) (polling : Polling)
    (visits : ∀ move ∈ moves, ∃ domain, move = .visit domain) :
    (moves.foldl (makeMove now number) polling).world.pollers = polling.world.pollers := by
  refine foldl_view now number pollers moves (fun move among polling => ?_) polling
  obtain ⟨domain, rfl⟩ := visits move among
  obtain ⟨queue, same⟩ := visit_world now domain polling
  exact (congrArg pollers same :)

theorem foldl_others_controller (moves : List PollMove) (polling : Polling)
    (others : ∀ move ∈ moves, ∀ domain, move ≠ .visit domain) :
    (moves.foldl (makeMove now number) polling).world.controller = polling.world.controller := by
  refine foldl_view now number controller moves (fun move among polling => ?_) polling
  cases move with
  | visit domain => exact absurd rfl (others _ among domain)
  | advance cursor => rfl
  | record cursor => rfl

theorem foldl_moves_service (moves : List PollMove) (polling : Polling) :
    (moves.foldl (makeMove now number) polling).world.service = polling.world.service := by
  refine foldl_view now number service moves (fun move _ polling => ?_) polling
  cases move with
  | visit domain =>
      obtain ⟨queue, same⟩ := visit_world now domain polling
      exact (congrArg service same :)
  | advance cursor => rfl
  | record cursor => rfl

theorem foldl_moves_metrics (moves : List PollMove) (polling : Polling) :
    (moves.foldl (makeMove now number) polling).world.controller.metrics =
      polling.world.controller.metrics := by
  refine foldl_view now number (·.controller.metrics) moves (fun move _ polling => ?_) polling
  cases move with
  | visit domain =>
      obtain ⟨queue, same⟩ := visit_world now domain polling
      exact (congrArg (·.controller.metrics) same :)
  | advance cursor => rfl
  | record cursor => rfl

end ControllerWorld

def ChangeList.finalMoves (changes : ChangeList) : List PollMove :=
  if changes.cursor = "" then [] else [.advance changes.cursor, .record changes.cursor]

theorem ChangeList.moves_eq (changes : ChangeList) :
    changes.moves = (changes.domains.map Snapshot.name).map .visit ++ changes.finalMoves := by
  rw [List.map_map]
  rfl

theorem ChangeList.finalMoves_not_visit (changes : ChangeList) :
    ∀ move ∈ changes.finalMoves, ∀ domain, move ≠ .visit domain := by
  unfold finalMoves
  by_cases empty : changes.cursor = ""
  · simp [empty]
  · simp [empty]

namespace Polled

variable {polled : Polled} {number : Nat} {changes : ChangeList}

theorem moment_controller :
    (polled.moment number changes.moves).controller =
      polled.before.controller.enqueueAll polled.now (polled.queued changes) := by
  unfold moment
  rw [changes.moves_eq, List.foldl_append, ControllerWorld.foldl_others_controller _ _ _ _
    changes.finalMoves_not_visit, ControllerWorld.foldl_visits]
  rfl

/-- The pollers are changed when all visits have been made. -/
theorem moment_order (count : Nat) :
    (polled.moment number (changes.moves.take count)).pollers = polled.before.pollers ∨
      (polled.moment number (changes.moves.take count)).controller =
        (polled.moment number changes.moves).controller := by
  rw [changes.moves_eq]
  generalize visited : (changes.domains.map Snapshot.name).map PollMove.visit = visits
  unfold moment
  -- Either all moves so far are visits, or all visits are among them.
  rcases Nat.le_total count visits.length with early | late
  · left
    rw [List.take_append_of_le_length early]
    refine ControllerWorld.foldl_visits_pollers _ _ _ _ fun move among => ?_
    rw [← visited] at among
    obtain ⟨domain, -, visit⟩ := List.mem_map.mp (List.mem_of_mem_take among)
    exact ⟨domain, visit.symm⟩
  · right
    rw [List.take_append, List.take_of_length_le late, List.foldl_append, List.foldl_append,
      ControllerWorld.foldl_others_controller _ _ _ _ fun move among =>
        changes.finalMoves_not_visit move (List.mem_of_mem_take among),
      ControllerWorld.foldl_others_controller _ _ _ _ changes.finalMoves_not_visit]

end Polled

namespace ControllerWorld

variable (now number : Nat)

theorem foldl_finalMoves (changes : ChangeList) (polling : Polling) :
    changes.finalMoves.foldl (makeMove now number) polling =
      if changes.cursor = "" then polling
      else recordCursor changes.cursor (advance number changes.cursor polling) := by
  unfold ChangeList.finalMoves
  by_cases empty : changes.cursor = ""
  · simp only [if_pos empty, List.foldl_nil]
  · simp only [if_neg empty, List.foldl_cons, List.foldl_nil, makeMove]

theorem foldl_moves (changes : ChangeList) (polling : Polling) :
    changes.moves.foldl (makeMove now number) polling =
      let valid := (changes.domains.map Snapshot.name).filter polling.world.controller.isValid
      changes.finalMoves.foldl (makeMove now number)
        { queued := polling.queued + valid.length
          world := polling.world.modify (Controller.enqueueAll now valid) } := by
  rw [changes.moves_eq, List.foldl_append, foldl_visits]

theorem foldl_finalMoves_queued (changes : ChangeList) (polling : Polling) :
    (changes.finalMoves.foldl (makeMove now number) polling).queued = polling.queued := by
  rw [foldl_finalMoves]
  by_cases empty : changes.cursor = ""
  · rw [if_pos empty]
  · rw [if_neg empty]
    rfl

variable {world : ControllerWorld} (poller : Poller)

theorem pollChanges_of_error {error : ServiceError}
    (failed : world.service.listing = .error error) :
    world.pollChanges now number poller = (.error error, world.listed now poller.cursor) := by
  have listed : world.service.list now poller.cursor =
      (.error error, (world.service.list now poller.cursor).2) :=
    Prod.ext ((world.service.list_fst now poller.cursor).trans failed) rfl
  unfold pollChanges
  rw [listed]
  rfl

theorem pollChanges_of_ok {changes : ChangeList} (answered : world.service.listing = .ok changes) :
    world.pollChanges now number poller =
      let polled := changes.moves.foldl (makeMove now number)
        { queued := 0, world := world.listed now poller.cursor }
      (.ok polled.queued, polled.world) := by
  have listed : world.service.list now poller.cursor =
      (.ok changes, (world.service.list now poller.cursor).2) :=
    Prod.ext ((world.service.list_fst now poller.cursor).trans answered) rfl
  unfold pollChanges
  rw [listed]
  rfl

end ControllerWorld

/-! ### Calls -/

/-- What a call comes to whose poller is as given, when the cursors in `asked` were to be
recorded before it. -/
structure Polled.Faithful (polled : Polled) (number : Nat) (call : PollCall) (poller : Poller)
    (asked : List String) : Prop where
  listing : polled.after.service.requests =
    polled.before.service.requests ++ [(call.now, .list poller.cursor)]
  refused : ∀ error, call.answer = .error error → polled.Refused error
  accepted : ∀ changes, call.answer = .ok changes → polled.Accepted number changes
  advanced : polled.after.pollers[number]? =
    some { poller with cursor := call.cursor?.getD poller.cursor }
  recorded : polled.after.record.asked = asked ++ call.cursor?.toList

theorem PollCall.cursor?_of_error {call : PollCall} {error : ServiceError}
    (failed : call.answer = .error error) : call.cursor? = none := by
  unfold cursor?
  rw [failed]

theorem PollCall.cursor?_of_ok {call : PollCall} {changes : ChangeList}
    (answered : call.answer = .ok changes) :
    call.cursor? = if changes.cursor = "" then none else some changes.cursor := by
  unfold cursor?
  rw [answered]

namespace ControllerWorld

variable {number : Nat} {world : ControllerWorld} {call : PollCall} {poller : Poller}

theorem callPoller_of_error {error : ServiceError}
    (found : world.pollers[number]? = some poller) (failed : call.answer = .error error) :
    world.callPoller number call =
      { now := call.now
        before := world.meet call.around
        result := some (.error error)
        after := (world.meet call.around).listed call.now poller.cursor } := by
  have failing : (world.meet call.around).service.listing = .error error := failed
  unfold callPoller
  rw [found]
  simp only [pollChanges_of_error call.now number poller failing]

theorem callPoller_of_ok {changes : ChangeList}
    (found : world.pollers[number]? = some poller) (answered : call.answer = .ok changes) :
    world.callPoller number call =
      let met := world.meet call.around
      let polled := changes.moves.foldl (makeMove call.now number)
        { queued := 0, world := met.listed call.now poller.cursor }
      { now := call.now
        before := met
        result := some (.ok polled.queued)
        after := polled.world } := by
  have answering : (world.meet call.around).service.listing = .ok changes := answered
  unfold callPoller
  rw [found]
  simp only [pollChanges_of_ok call.now number poller answering]

theorem faithful_of_error {error : ServiceError}
    (found : world.pollers[number]? = some poller) (failed : call.answer = .error error) :
    (world.callPoller number call).Faithful number call poller world.record.asked := by
  rw [callPoller_of_error found failed]
  refine ⟨StagedService.list_requests _ _ _, fun other same => ?_, fun changes answered => ?_,
    ?_, ?_⟩
  · cases failed.symm.trans same
    exact ⟨rfl, rfl, rfl, rfl⟩
  · cases failed.symm.trans answered
  · rw [PollCall.cursor?_of_error failed]
    exact found
  · rw [PollCall.cursor?_of_error failed, Option.toList_none, List.append_nil]
    rfl

theorem accepted_of_ok {changes : ChangeList}
    (found : world.pollers[number]? = some poller) (answered : call.answer = .ok changes) :
    (world.callPoller number call).Accepted number changes := by
  have polled := callPoller_of_ok found answered
  have service : (world.callPoller number call).after.service =
      ((world.meet call.around).listed call.now poller.cursor).service := by
    rw [polled]
    exact foldl_moves_service _ _ _ _
  have ends : (world.callPoller number call).after =
      (world.callPoller number call).moment number changes.moves := by
    unfold Polled.moment Polled.listed
    rw [service, polled]
    rfl
  have controller : (world.callPoller number call).after.controller =
      (world.callPoller number call).before.controller.enqueueAll
        (world.callPoller number call).now ((world.callPoller number call).queued changes) := by
    rw [ends]
    exact Polled.moment_controller
  refine ⟨?_, ?_, fun domain => ?_, ends, fun count => ?_⟩
  · rw [polled]
    simp only [foldl_moves, foldl_finalMoves_queued, Nat.zero_add]
    rfl
  · rw [controller, Controller.enqueueAll_eq]
  · rw [controller]
    exact Controller.requeues_enqueueAll _ _ _ _
  · rw [ends]
    exact Polled.moment_order count

theorem faithful_of_ok {changes : ChangeList}
    (found : world.pollers[number]? = some poller) (answered : call.answer = .ok changes) :
    (world.callPoller number call).Faithful number call poller world.record.asked := by
  have accepted := accepted_of_ok found answered
  have cursor := PollCall.cursor?_of_ok answered
  refine ⟨?_, fun error failed => ?_, fun other same => ?_, ?_, ?_⟩
  · rw [callPoller_of_ok found answered]
    exact (congrArg StagedService.requests (foldl_moves_service _ _ _ _)).trans
      (StagedService.list_requests _ _ _)
  · cases answered.symm.trans failed
  · cases answered.symm.trans same
    exact accepted
  · rw [callPoller_of_ok found answered, cursor]
    simp only [foldl_moves, foldl_finalMoves]
    by_cases empty : changes.cursor = ""
    · simp only [if_pos empty]
      exact found
    · simp only [if_neg empty, Option.getD_some]
      have advanced : (world.pollers.modify number fun poller =>
          { poller with cursor := changes.cursor })[number]? =
          some { poller with cursor := changes.cursor } := by
        rw [List.getElem?_modify_eq, found]
        rfl
      exact advanced
  · rw [callPoller_of_ok found answered, cursor]
    simp only [foldl_moves, foldl_finalMoves]
    by_cases empty : changes.cursor = ""
    · simp only [if_pos empty, Option.toList_none, List.append_nil]
      rfl
    · simp only [if_neg empty, Option.toList_some]
      exact StagedRecord.record_asked _ _

theorem faithful_callPoller (call : PollCall) (found : world.pollers[number]? = some poller) :
    (world.callPoller number call).Faithful number call poller world.record.asked := by
  cases answered : call.answer with
  | error error => exact faithful_of_error found answered
  | ok changes => exact faithful_of_ok found answered

theorem length_callAll (number : Nat) (world : ControllerWorld) (calls : List PollCall) :
    (callAll number world calls).length = calls.length := by
  induction calls generalizing world with
  | nil => rfl
  | cons call later ih => exact congrArg (· + 1) (ih _)

/-- Each call goes on from the cursors of those before it. -/
theorem faithful_callAll (calls : List PollCall) (found : world.pollers[number]? = some poller)
    {index : Nat} {call : PollCall} (called : calls[index]? = some call) :
    ∃ polled : Polled, (callAll number world calls)[index]? = some polled ∧
      polled.Faithful number call
        { poller with cursor := PollCall.lastCursor poller.cursor (calls.take index) }
        (world.record.asked ++ (calls.take index).filterMap PollCall.cursor?) := by
  induction calls generalizing world poller index with
  | nil => cases called
  | cons first later ih =>
      have faithful := faithful_callPoller first found
      cases index with
      | zero =>
          cases called
          refine ⟨world.callPoller number call, rfl, ?_⟩
          rw [List.take_zero, List.filterMap_nil, List.append_nil]
          exact faithful
      | succ index =>
          obtain ⟨polled, here, goes⟩ := ih faithful.advanced called
          refine ⟨polled, here, ?_⟩
          rw [faithful.recorded, List.append_assoc] at goes
          rw [List.take_succ_cons, PollCall.lastCursor_cons, PollCall.filterMap_cursor?_cons]
          exact goes

/-- Whatever is answered, whatever cannot be recorded, and whatever happens between the calls:
the calls of a new poller are faithful, each to the last cursor that was answered before it, or
to the latest change that was replicated when the poller was created. -/
theorem polls_faithful (world : ControllerWorld) (updateInterval resyncInterval : Span)
    (calls : List PollCall) :
    let number := world.pollers.length
    let polls := callAll number (world.createPoller updateInterval resyncInterval) calls
    let cursor (index : Nat) :=
      PollCall.lastCursor world.controller.index.latestCursor (calls.take index)
    polls.length = calls.length ∧
    ∀ index call, calls[index]? = some call → ∃ polled : Polled, polls[index]? = some polled ∧
      polled.Faithful number call { cursor := cursor index, updateInterval, resyncInterval }
        (world.record.asked ++ (calls.take index).filterMap PollCall.cursor?) := by
  intro number polls cursor
  refine ⟨length_callAll _ _ calls, fun index call called => ?_⟩
  have created : (world.createPoller updateInterval resyncInterval).pollers[number]? =
      some (.ofController world.controller updateInterval resyncInterval) :=
    List.getElem?_concat_length
  exact faithful_callAll calls created called

def tellingShop (domains : List String) (cursor : String) : ControllerWorld :=
  let named (name : String) : Snapshot :=
    { Store.shop none with domain := { (Store.shop none).domain with name } }
  { ControllerWorld.ofSettings
      { adminDomain := some "shop", systemNamespaces := [], excludedNamespaces := [] }
      SyncSettings.standard with
    service := { StagedService.empty with changes := { domains := domains.map named, cursor } } }

/-- The first cursor cannot be recorded, the second listing fails, and the third one has no
cursor. -/
def shopCalls : List PollCall :=
  let first := tellingShop ["shop", "office", "shop"] "1"
  [{ now := 0, around := { first with record := { StagedRecord.empty with failures := 1 } } },
    { now := 60000, around := { first with service := { first.service with listFailures := 1 } } },
    { now := 120000, around := tellingShop ["shop"] "" },
    { now := 180000, around := tellingShop [] "2" }]

theorem polls_faithful_shop :
    let interval := Span.ofMilliseconds 60000
    let polls := callAll 0 ((tellingShop [] "").createPoller interval interval) shopCalls
    polls.map Polled.result =
        [some (.ok 2), some (.error .notFound), some (.ok 1), some (.ok 0)] ∧
    polls.map (fun polled => polled.after.record.asked) = [["1"], ["1"], ["1"], ["1", "2"]] ∧
    polls.map (fun polled => polled.after.service.requests.length) = [1, 2, 3, 4] ∧
    ∃ call polled, shopCalls[3]? = some call ∧ polls[3]? = some polled ∧
      polled.Faithful 0 call
        { cursor := "1", updateInterval := interval, resyncInterval := interval } ["1"] := by
  intro interval polls
  refine ⟨by decide +kernel, by decide +kernel, by decide +kernel, ?_⟩
  have faithful := (polls_faithful (tellingShop [] "") interval interval shopCalls).2
  obtain ⟨polled, here, goes⟩ := faithful 3 _ rfl
  exact ⟨_, polled, rfl, here, goes⟩

end ControllerWorld

end PolicyReplica
