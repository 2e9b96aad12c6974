import PolicyReplica.Api.Basic
import PolicyReplica.Index.Domains

/-
Writing replicas through the API server.

Reads come from the index. A write goes to the API server first, and what the
server says is then put into the index, so that later reads never lag behind the
writes made here. Between a request and its answer others may write, too: an
operation is therefore given as an exchange, a tree of requests, reads of the
index and writes to it, of which each takes effect at once.
-/

namespace PolicyReplica

inductive Exchange (α : Type) where
  | finished (result : α)
  | readIndex (next : DomainIndex → Exchange α)
  | writeIndex (change : DomainIndex → DomainIndex) (next : Exchange α)
  | call (request : ApiRequest) (next : request.Answer → Exchange α)

namespace Exchange

variable {α β σ : Type}

def bind : Exchange α → (α → Exchange β) → Exchange β
  | finished result, continuation => continuation result
  | readIndex next, continuation => readIndex fun index => (next index).bind continuation
  | writeIndex change next, continuation => writeIndex change (next.bind continuation)
  | call request next, continuation => call request fun answer => (next answer).bind continuation

instance : Monad Exchange where
  pure := finished
  bind := bind

def ask (request : ApiRequest) : Exchange request.Answer :=
  call request finished

def index : Exchange DomainIndex :=
  readIndex finished

def adopt (replica : Replica) : Exchange Unit :=
  writeIndex (fun index => (index.apply replica).2) (finished ())

def drop (name : String) : Exchange Unit :=
  writeIndex (fun index => (index.delete name).2) (finished ())

/-- Runs an exchange with nobody else writing in between. -/
def run [ApiBackend σ] : Exchange α → DomainIndex × σ → α × DomainIndex × σ
  | finished result, state => (result, state)
  | readIndex next, state => (next state.1).run state
  | writeIndex change next, state => next.run (change state.1, state.2)
  | call request next, state =>
      let answered := ApiBackend.answer request state.2
      (next answered.1).run (state.1, answered.2)

section Run

variable [ApiBackend σ]

@[simp] theorem run_pure (result : α) (state : DomainIndex × σ) :
    (pure result : Exchange α).run state = (result, state) := rfl

/-- A sequence runs its parts one after the other. -/
@[simp] theorem run_bind (exchange : Exchange α) (continuation : α → Exchange β)
    (state : DomainIndex × σ) :
    (exchange >>= continuation).run state =
      (continuation (exchange.run state).1).run (exchange.run state).2 := by
  change (exchange.bind continuation).run state = _
  induction exchange generalizing state with
  | finished result => rfl
  | readIndex next ih => exact ih state.1 state
  | writeIndex change next ih => exact ih (change state.1, state.2)
  | call request next ih =>
      exact ih (ApiBackend.answer request state.2).1
        (state.1, (ApiBackend.answer request state.2).2)

@[simp] theorem run_ask (request : ApiRequest) (state : DomainIndex × σ) :
    (ask request).run state =
      ((ApiBackend.answer request state.2).1, state.1, (ApiBackend.answer request state.2).2) := rfl

@[simp] theorem run_index (state : DomainIndex × σ) : index.run state = (state.1, state) := rfl

@[simp] theorem run_adopt (replica : Replica) (state : DomainIndex × σ) :
    (adopt replica).run state = ((), (state.1.apply replica).2, state.2) := rfl

@[simp] theorem run_drop (name : String) (state : DomainIndex × σ) :
    (drop name).run state = ((), (state.1.delete name).2, state.2) := rfl

end Run

end Exchange

inductive Applied where
  | created
  | updated
  | unchanged
  deriving DecidableEq, Repr

namespace Store

/-- How often a write may lose against other writers before it is given up. -/
def maxConflicts : Nat := 3

/-- Gives a replica the contents of a snapshot, and then an empty status, writing
only what differs. -/
def update (existing : Replica) (snapshot : Snapshot) : Exchange (Except StoreError Replica) := do
  let replaced ←
    if existing.snapshot.sameContent snapshot then pure (.ok existing)
    else Exchange.ask (.replace { existing with snapshot })
  match replaced with
  | .error error => pure (.error error)
  | .ok replica =>
      if replica.statusMessage = "" then pure (.ok replica)
      else Exchange.ask (.setStatus snapshot.name "")

/-- Stores a snapshot, given what is thought to be the replica now, in at most so
many rounds. A round that loses against another writer ends by fetching what is
there. -/
def attempt (name : String) (snapshot : Snapshot) :
    Nat → Option Replica → Exchange (Except StoreError Applied)
  | 0, _ => pure (.error (.conflict name))
  | rounds + 1, current =>
      let reconcile (existing : Replica) : Exchange (Except StoreError Applied) := do
        if existing.snapshot.sameContent snapshot ∧ existing.statusMessage = "" then
          pure (.ok .unchanged)
        else
          match ← update existing snapshot with
          | .ok updated => do
              Exchange.adopt updated
              pure (.ok .updated)
          | .error (.conflict _) | .error (.notFound _) => do
              match ← Exchange.ask (.get name) with
              | .ok fetched => attempt name snapshot rounds fetched
              | .error error => pure (.error error)
          | .error error => pure (.error error)
      match current with
      | some existing => reconcile existing
      | none => do
          match ← Exchange.ask (.create (Replica.ofSnapshot snapshot)) with
          | .ok created => do
              Exchange.adopt created
              pure (.ok .created)
          | .error (.alreadyExists _) => do
              match ← Exchange.ask (.get name) with
              | .ok (some existing) => reconcile existing
              | .ok none => attempt name snapshot rounds none
              | .error error => pure (.error error)
          | .error error => pure (.error error)

/-- Stores a snapshot of the domain of that name. Nothing is written when the
replica has these contents already, signatures aside, and no error status. -/
def createOrUpdate (name : String) (snapshot : Snapshot) :
    Exchange (Except StoreError Applied) :=
  if snapshot.name ≠ name then pure (.error (.invalidSnapshot name snapshot.name))
  else do
    let index ← Exchange.index
    attempt name snapshot (maxConflicts + 1) (index.get? name)

/-- Deletes the replica of a domain; tells whether there was one in the index. -/
def remove (name : String) : Exchange (Except StoreError Bool) := do
  let index ← Exchange.index
  if index.contains name then
    match ← Exchange.ask (.delete name) with
    | .ok _ => do
        Exchange.drop name
        pure (.ok true)
    | .error error => pure (.error error)
  else pure (.ok false)

def setErrorStatus (name message : String) : Exchange (Except StoreError Unit) := do
  let index ← Exchange.index
  match index.get? name with
  | none => pure (.ok ())
  | some replica =>
      if replica.statusMessage = message then pure (.ok ())
      else
        match ← Exchange.ask (.setStatus name message) with
        | .ok updated => do
            Exchange.adopt updated
            pure (.ok ())
        | .error error => pure (.error error)

end Store

end PolicyReplica
