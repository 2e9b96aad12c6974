import PolicyReplica.Replica.Basic
import PolicyReplica.Table

/-
Watches: a stream of listings and changes, turned into changes alone.

A watcher starts by listing all objects and starts over when it has lost track.
A watch remembers the objects that it has reported; by that it tells an addition
from an update, and notices that an object is gone when a listing ends without
it. Objects without a name are passed over.
-/

namespace PolicyReplica

class Watched (α : Type) where
  metadata : α → Metadata

structure Namespace where
  metadata : Metadata
  deriving DecidableEq

instance : Watched Namespace where
  metadata := Namespace.metadata

instance : Watched Replica where
  metadata := Replica.metadata

/-- The key of an object: its name, after that of its namespace if it is in one. -/
def Metadata.key? (metadata : Metadata) : Option String :=
  metadata.name.map fun name =>
    match metadata.enclosing with
    | none => name
    | some enclosing => enclosing ++ "/" ++ name

inductive WatcherEvent (α : Type) where
  /-- A listing starts. -/
  | listing
  | listed (object : α)
  | listingDone
  | applied (object : α)
  | deleted (object : α)
  | failed

inductive WatchReport (α : Type) where
  | added (object : α)
  | updated (old new : α)
  /-- A deletion; of an object that is already gone, it was noticed by a listing. -/
  | deleted (object : α) (alreadyGone : Bool)
  /-- The first listing is complete. -/
  | synced

structure Watch (α : Type) where
  /-- Whether the first listing is complete. -/
  synced : Bool
  /-- The objects that were reported and not deleted, by key. -/
  known : Table String α
  /-- The keys of the current listing. -/
  listing : Option (List String)

namespace Watch

variable {α : Type}

def initial : Watch α :=
  { synced := false, known := .empty, listing := none }

/-- How long a watch pauses after a failure, in milliseconds. -/
def pauseAfterFailure : Nat := 1000

variable [Watched α]

def key? (object : α) : Option String :=
  (Watched.metadata object).key?

def apply (watch : Watch α) (key : String) (object : α) : List (WatchReport α) × Watch α :=
  let report := match watch.known.get? key with
    | none => .added object
    | some old => .updated old object
  ([report], { watch with known := watch.known.insert key object })

/-- Deletes what a listing did not show. -/
def finishListing (watch : Watch α) : List (WatchReport α) × Watch α :=
  match watch.listing with
  | none => ([], watch)
  | some listed =>
      let gone := watch.known.entries.filter fun entry => !listed.contains entry.1
      (gone.map fun entry => .deleted entry.2 true,
        { watch with
          listing := none
          known := gone.foldl (fun known entry => known.erase entry.1) watch.known })

def markSynced (watch : Watch α) : List (WatchReport α) × Watch α :=
  if watch.synced then ([], watch) else ([.synced], { watch with synced := true })

def receive (watch : Watch α) : WatcherEvent α → List (WatchReport α) × Watch α
  | .listing => ([], { watch with listing := some [] })
  | .listed object =>
      match key? object with
      | none => ([], watch)
      | some key =>
          { watch with listing := watch.listing.map (key :: ·) }.apply key object
  | .listingDone =>
      let (gone, finished) := watch.finishListing
      let (done, marked) := finished.markSynced
      (gone ++ done, marked)
  | .applied object =>
      match key? object with
      | none => ([], watch)
      | some key => watch.apply key object
  | .deleted object =>
      match key? object with
      | none => ([], watch)
      | some key =>
          ([.deleted object false], { watch with known := watch.known.erase key })
  | .failed => ([], watch)

def pause : WatcherEvent α → Nat
  | .failed => pauseAfterFailure
  | _ => 0

structure Received (α : Type) where
  report : WatchReport α
  time : Nat
  synced : Bool

def replay : Nat → Watch α → List (WatcherEvent α) → List (Received α) × Nat × Watch α
  | time, watch, [] => ([], time, watch)
  | time, watch, event :: rest =>
      let (reports, next) := watch.receive event
      let received := reports.map fun report => { report, time, synced := next.synced }
      let (later, last) := replay (time + pause event) next rest
      (received ++ later, last)

end Watch

end PolicyReplica
