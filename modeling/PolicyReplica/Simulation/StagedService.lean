import PolicyReplica.Service.Basic
import PolicyReplica.Table

/-
A policy service and a record of cursors whose answers are set beforehand.

A domain can be published, hidden, made to fail, or made to break the request
off; breaking goes before failing, and failing before the rest.
-/

namespace PolicyReplica

inductive ServiceRequest where
  | fetch (domain : String)
  | list (cursor : String)
  deriving DecidableEq, Repr

structure StagedService where
  published : Table String Snapshot
  hidden : List String
  failing : Table String ServiceError
  /-- The domains whose requests break off. -/
  breaking : List String
  /-- How long a request for a domain takes, in milliseconds. -/
  latency : Nat
  /-- How many listings will fail. -/
  listFailures : Nat
  listError : ServiceError
  changes : ChangeList
  /-- The requests so far with their times. -/
  requests : List (Nat × ServiceRequest)

namespace StagedService

def empty : StagedService :=
  { published := .empty
    hidden := []
    failing := .empty
    breaking := []
    latency := 0
    listFailures := 0
    listError := .notFound
    changes := { domains := [], cursor := "" }
    requests := [] }

def note (service : StagedService) (now : Nat) (request : ServiceRequest) : StagedService :=
  { service with requests := service.requests ++ [(now, request)] }

def answer (service : StagedService) (domain : String) : FetchAnswer :=
  if service.breaking.contains domain then .broken
  else match service.failing.get? domain with
    | some error => .failed error
    | none =>
        if service.hidden.contains domain then .answered none
        else match service.published.get? domain with
          | some snapshot => .answered (some snapshot)
          | none => .failed .notFound

def list (service : StagedService) (now : Nat) (cursor : String) :
    Except ServiceError ChangeList × StagedService :=
  let noted := service.note now (.list cursor)
  if noted.listFailures = 0 then (.ok noted.changes, noted)
  else (.error noted.listError, { noted with listFailures := noted.listFailures - 1 })

def publish (service : StagedService) (name : String) (snapshot : Snapshot) : StagedService :=
  { service with published := service.published.insert name snapshot }

def unpublish (service : StagedService) (name : String) : Bool × StagedService :=
  (service.published.contains name, { service with published := service.published.erase name })

def hide (service : StagedService) (name : String) : Bool × StagedService :=
  (!service.hidden.contains name, { service with hidden := service.hidden.insert name })

def fail (service : StagedService) (name : String) (error : ServiceError) : StagedService :=
  { service with failing := service.failing.insert name error }

def breakOff (service : StagedService) (name : String) : StagedService :=
  { service with breaking := service.breaking.insert name }

def recover (service : StagedService) (name : String) : StagedService :=
  { service with
    hidden := service.hidden.filter (· ≠ name)
    failing := service.failing.erase name
    breaking := service.breaking.filter (· ≠ name) }

end StagedService

structure StagedRecord where
  /-- How many cursors will not be recorded. -/
  failures : Nat
  /-- The cursors that were to be recorded so far. -/
  asked : List String
  recorded : List String
  deriving DecidableEq, Repr

namespace StagedRecord

def empty : StagedRecord :=
  { failures := 0, asked := [], recorded := [] }

def record (record : StagedRecord) (cursor : String) : StagedRecord :=
  let noted := { record with asked := record.asked ++ [cursor] }
  if noted.failures = 0 then { noted with recorded := noted.recorded ++ [cursor] }
  else { noted with failures := noted.failures - 1 }

end StagedRecord

end PolicyReplica
