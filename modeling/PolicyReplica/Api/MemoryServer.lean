import PolicyReplica.Api.Basic
import PolicyReplica.Table

/-
An API server in memory.

It gives every object that it stores a new version from a counter. Other writers
and failures are set up beforehand: a number of replacements that each find the
object stored anew, an object that is created just before the next creation, and
failures that requests of a method meet before they take effect.
-/

namespace PolicyReplica

inductive ApiMethod where
  | get
  | create
  | replace
  | setStatus
  | delete
  deriving DecidableEq, Repr

def ApiRequest.method : ApiRequest → ApiMethod
  | .get _ => .get
  | .create _ => .create
  | .replace _ => .replace
  | .setStatus _ _ => .setStatus
  | .delete _ => .delete

structure MemoryServer where
  objects : Table String Replica
  /-- The last version that was given. -/
  counter : Nat
  /-- How many replacements will find that the object was stored anew. -/
  conflicts : Nat
  /-- What somebody else creates before the next creation. -/
  race : Option Replica
  /-- The failures that are still to be met, in order. -/
  injected : List (ApiMethod × ApiFault)
  /-- The requests so far, in order. -/
  requests : List ApiRequest

namespace MemoryServer

def empty : MemoryServer :=
  { objects := .empty, counter := 0, conflicts := 0, race := none, injected := [], requests := [] }

def put (server : MemoryServer) (replica : Replica) : Replica × MemoryServer :=
  let version := server.counter + 1
  let stored :=
    { replica with metadata := { replica.metadata with version := some (toString version) } }
  (stored,
    { server with counter := version, objects := server.objects.insert stored.name stored })

/-- The server after somebody else has stored an object anew, if that is due. -/
def disturb (server : MemoryServer) (current : Replica) : MemoryServer :=
  if server.conflicts = 0 then server
  else ({ server with conflicts := server.conflicts - 1 }.put current).2

def create (server : MemoryServer) (replica : Replica) :
    Except StoreError Replica × MemoryServer :=
  match server.race with
  | some other =>
      (.error (.alreadyExists replica.name), ({ server with race := none }.put other).2)
  | none =>
      if server.objects.contains replica.name then
        (.error (.alreadyExists replica.name), server)
      else
        let (stored, server) := server.put replica
        (.ok stored, server)

def replace (server : MemoryServer) (replica : Replica) :
    Except StoreError Replica × MemoryServer :=
  match server.objects.get? replica.name with
  | none => (.error (.notFound replica.name), server)
  | some found =>
      let disturbed := server.disturb found
      let current := (disturbed.objects.get? replica.name).getD found
      if current.version ≠ replica.version then (.error (.conflict replica.name), disturbed)
      else
        let (stored, server) := disturbed.put { replica with status := current.status }
        (.ok stored, server)

def setStatus (server : MemoryServer) (name message : String) :
    Except StoreError Replica × MemoryServer :=
  match server.objects.get? name with
  | none => (.error (.notFound name), server)
  | some current =>
      let (stored, server) := server.put { current with status := some { message } }
      (.ok stored, server)

/-- The answer to a request that meets no failure. -/
def perform (server : MemoryServer) : (request : ApiRequest) → request.Answer × MemoryServer
  | .get name => (.ok (server.objects.get? name), server)
  | .create replica => server.create replica
  | .replace replica => server.replace replica
  | .setStatus name message => server.setStatus name message
  | .delete name => (.ok (), { server with objects := server.objects.erase name })

def takeFault (method : ApiMethod) :
    List (ApiMethod × ApiFault) → Option (ApiFault × List (ApiMethod × ApiFault))
  | [] => none
  | entry :: rest =>
      if entry.1 = method then some (entry.2, rest)
      else (takeFault method rest).map fun (fault, others) => (fault, entry :: others)

/-- Notes a request and answers it; a failure that is due comes first. -/
def answer (request : ApiRequest) (server : MemoryServer) : request.Answer × MemoryServer :=
  let noted := { server with requests := server.requests ++ [request] }
  match takeFault request.method noted.injected with
  | some (fault, others) =>
      (.error (fault.meaning request.name), { noted with injected := others })
  | none => noted.perform request

instance : ApiBackend MemoryServer where
  answer := answer

/-! ### What others do -/

def remove (server : MemoryServer) (name : String) : Bool × MemoryServer :=
  (server.objects.contains name, { server with objects := server.objects.erase name })

def inject (server : MemoryServer) (method : ApiMethod) (fault : ApiFault) : MemoryServer :=
  { server with injected := server.injected ++ [(method, fault)] }

def takeRequests (server : MemoryServer) : List ApiRequest × MemoryServer :=
  (server.requests, { server with requests := [] })

end MemoryServer

end PolicyReplica
