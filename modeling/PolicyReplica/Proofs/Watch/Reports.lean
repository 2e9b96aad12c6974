import PolicyReplica.Watch

/-
What the reports of a watch add up to.

Somebody who knows nothing but the reports keeps a table by them: an object that was
added or updated goes in under its key, one that was deleted goes out. Main statement:
whatever the watcher says, in any order, that table is what the watch knows, and each
report fits what was in the table when it came.
-/

namespace PolicyReplica

variable {α : Type} [Watched α]

namespace WatchReport

def settle (held : Table String α) : WatchReport α → Table String α
  | .added object | .updated _ object =>
      match Watch.key? object with
      | none => held
      | some key => held.insert key object
  | .deleted object _ =>
      match Watch.key? object with
      | none => held
      | some key => held.erase key
  | .synced => held

/-- An addition is of a key that is not held, an update tells what was held, and what was
found to be gone was held. -/
def Fits (held : Table String α) : WatchReport α → Prop
  | .added object => ∃ key, Watch.key? object = some key ∧ held.get? key = none
  | .updated old new => ∃ key, Watch.key? new = some key ∧ held.get? key = some old
  | .deleted object alreadyGone => ∃ key, Watch.key? object = some key ∧
      (alreadyGone = true → held.get? key = some object)
  | .synced => True

def AllFit (held : Table String α) : List (WatchReport α) → Prop
  | [] => True
  | report :: rest => report.Fits held ∧ AllFit (report.settle held) rest

theorem allFit_append (held : Table String α) (left right : List (WatchReport α)) :
    AllFit held (left ++ right) ↔ AllFit held left ∧ AllFit (left.foldl settle held) right := by
  induction left generalizing held with
  | nil => simp [AllFit]
  | cons report rest ih =>
      rw [List.cons_append, AllFit, AllFit, ih, List.foldl_cons, and_assoc]

end WatchReport

namespace Watch

open WatchReport (settle Fits AllFit allFit_append)

def Keyed (known : Table String α) : Prop :=
  ∀ key object, known.get? key = some object → key? object = some key

theorem Keyed.insert {known : Table String α} (keyed : Keyed known) {key : String} {object : α}
    (own : key? object = some key) : Keyed (known.insert key object) := by
  intro other found present
  rw [Table.get?_insert] at present
  by_cases same : other = key
  · rw [if_pos same] at present
    rw [same, ← Option.some.inj present]
    exact own
  · rw [if_neg same] at present
    exact keyed other found present

theorem Keyed.erase {known : Table String α} (keyed : Keyed known) (key : String) :
    Keyed (known.erase key) := by
  intro other found present
  rw [Table.get?_erase] at present
  by_cases same : other = key
  · rw [if_pos same] at present
    cases present
  · rw [if_neg same] at present
    exact keyed other found present

/-- What one event makes a watch report: the reports fit, one after the other, and lead
from what was known to what is known. -/
structure Leads (known : Table String α) (reports : List (WatchReport α))
    (next : Table String α) : Prop where
  settles : reports.foldl settle known = next
  fits : AllFit known reports
  keyed : Keyed next

theorem Leads.refl {known : Table String α} (keyed : Keyed known) : Leads known [] known :=
  ⟨rfl, trivial, keyed⟩

theorem Leads.trans {first second third : Table String α} {left right : List (WatchReport α)}
    (before : Leads first left second) (after : Leads second right third) :
    Leads first (left ++ right) third := by
  refine ⟨?_, ?_, after.keyed⟩
  · rw [List.foldl_append, before.settles, after.settles]
  · rw [allFit_append, before.settles]
    exact ⟨before.fits, after.fits⟩

theorem leads_apply (watch : Watch α) (keyed : Keyed watch.known) {key : String} {object : α}
    (own : key? object = some key) :
    Leads watch.known (watch.apply key object).1 (watch.apply key object).2.known := by
  have inserted := keyed.insert own
  unfold Watch.apply
  cases found : watch.known.get? key with
  | none => exact ⟨by simp [settle, own], ⟨⟨key, own, found⟩, trivial⟩, inserted⟩
  | some old => exact ⟨by simp [settle, own], ⟨⟨key, own, found⟩, trivial⟩, inserted⟩

/-- Objects that are known under different keys can be reported as gone one by one. -/
theorem leads_gone {known : Table String α} (keyed : Keyed known) {gone : List (String × α)}
    (distinct : (gone.map Prod.fst).Nodup)
    (present : ∀ entry ∈ gone, known.get? entry.1 = some entry.2) :
    Leads known (gone.map fun entry => .deleted entry.2 true)
      (gone.foldl (fun known entry => known.erase entry.1) known) := by
  induction gone generalizing known with
  | nil => exact .refl keyed
  | cons entry rest ih =>
      obtain ⟨passed, restDistinct⟩ := List.nodup_cons.mp distinct
      have here := present entry List.mem_cons_self
      have own := keyed entry.1 entry.2 here
      have first : Leads known [.deleted entry.2 true] (known.erase entry.1) :=
        ⟨by simp [settle, own], ⟨⟨entry.1, own, fun _ => here⟩, trivial⟩, keyed.erase entry.1⟩
      refine first.trans (ih first.keyed restDistinct fun other member => ?_)
      have apart : other.1 ≠ entry.1 := fun same =>
        passed (same ▸ List.mem_map.mpr ⟨other, member, rfl⟩)
      rw [Table.get?_erase, if_neg apart]
      exact present other (List.mem_cons_of_mem entry member)

theorem leads_finishListing (watch : Watch α) (keyed : Keyed watch.known) :
    Leads watch.known watch.finishListing.1 watch.finishListing.2.known := by
  unfold finishListing
  cases watch.listing with
  | none => exact .refl keyed
  | some listed =>
      apply leads_gone keyed
      · exact watch.known.distinctKeys.sublist (List.filter_sublist.map Prod.fst)
      · intro entry member
        exact (Table.mem_entries_iff _ _ _).mp (List.mem_filter.mp member).1

theorem leads_markSynced (watch : Watch α) (keyed : Keyed watch.known) :
    Leads watch.known watch.markSynced.1 watch.markSynced.2.known := by
  unfold markSynced
  split
  · exact .refl keyed
  · exact ⟨rfl, ⟨trivial, trivial⟩, keyed⟩

theorem receive_unnamed (watch : Watch α) {object : α} (unnamed : key? object = none) :
    watch.receive (.listed object) = ([], watch) ∧ watch.receive (.applied object) = ([], watch) ∧
      watch.receive (.deleted object) = ([], watch) := by
  simp only [receive, unnamed, and_self]

theorem receive_listed (watch : Watch α) {key : String} {object : α}
    (own : key? object = some key) :
    watch.receive (.listed object) =
      { watch with listing := watch.listing.map (key :: ·) }.apply key object := by
  simp only [receive, own]

theorem leads_receive (watch : Watch α) (keyed : Keyed watch.known) (event : WatcherEvent α) :
    Leads watch.known (watch.receive event).1 (watch.receive event).2.known := by
  cases event with
  | listing => exact .refl keyed
  | listed object =>
      cases own : key? object with
      | none =>
          rw [(watch.receive_unnamed own).1]
          exact .refl keyed
      | some key =>
          rw [watch.receive_listed own]
          exact leads_apply { watch with listing := watch.listing.map (key :: ·) } keyed own
  | listingDone =>
      have finished := leads_finishListing watch keyed
      exact finished.trans (leads_markSynced watch.finishListing.2 finished.keyed)
  | applied object =>
      cases own : key? object with
      | none =>
          rw [(watch.receive_unnamed own).2.1]
          exact .refl keyed
      | some key =>
          simp only [receive, own]
          exact leads_apply watch keyed own
  | deleted object =>
      cases own : key? object with
      | none =>
          rw [(watch.receive_unnamed own).2.2]
          exact .refl keyed
      | some key =>
          have unforced : false = true → watch.known.get? key = some object := nofun
          simp only [receive, own]
          exact ⟨by simp [settle, own], ⟨⟨key, own, unforced⟩, trivial⟩, keyed.erase key⟩
  | failed => exact .refl keyed

def reports (watch : Watch α) (events : List (WatcherEvent α)) : List (WatchReport α) :=
  (replay 0 watch events).1.map Received.report

def after (watch : Watch α) (events : List (WatcherEvent α)) : Watch α :=
  (replay 0 watch events).2.2

/-- When events come makes no difference to what is reported. -/
theorem replay_from (time : Nat) (watch : Watch α) (events : List (WatcherEvent α)) :
    (replay time watch events).1.map Received.report = watch.reports events ∧
      (replay time watch events).2.2 = watch.after events := by
  induction events generalizing time watch with
  | nil => exact ⟨rfl, rfl⟩
  | cons event rest ih =>
      have here := ih (time + pause event) (watch.receive event).2
      have atStart := ih (0 + pause event) (watch.receive event).2
      unfold reports after replay
      rw [List.map_append, List.map_append, here.1, here.2, atStart.1, atStart.2]
      simp

theorem reports_cons (watch : Watch α) (event : WatcherEvent α) (rest : List (WatcherEvent α)) :
    watch.reports (event :: rest) =
      (watch.receive event).1 ++ (watch.receive event).2.reports rest := by
  have later := (replay_from (0 + pause event) (watch.receive event).2 rest).1
  change ((watch.receive event).1.map (fun report => Received.mk report 0 _) ++
    (replay (0 + pause event) (watch.receive event).2 rest).1).map Received.report = _
  rw [List.map_append, later, List.map_map]
  exact congrArg (· ++ _) (List.map_id _)

theorem after_cons (watch : Watch α) (event : WatcherEvent α) (rest : List (WatcherEvent α)) :
    watch.after (event :: rest) = (watch.receive event).2.after rest :=
  (replay_from (0 + pause event) (watch.receive event).2 rest).2

theorem leads_reports (watch : Watch α) (keyed : Keyed watch.known)
    (events : List (WatcherEvent α)) :
    Leads watch.known (watch.reports events) (watch.after events).known := by
  induction events generalizing watch with
  | nil => exact .refl keyed
  | cons event rest ih =>
      have first := leads_receive watch keyed event
      rw [reports_cons, after_cons]
      exact first.trans (ih _ first.keyed)

theorem initial_keyed : Keyed (initial : Watch α).known := by
  intro key object found
  cases found

/-- Whatever a watcher says, and however much of it has been heard: who goes by the
reports holds what the watch knows, an object that is reported as added was not held, an
update tells the object that was held, and what is reported as already gone was held. -/
theorem replay_holds (time : Nat) (events : List (WatcherEvent α)) :
    let replayed := replay time initial events
    let reports := replayed.1.map Received.report
    reports.foldl settle .empty = replayed.2.2.known ∧
      ∀ before report later, reports = before ++ report :: later →
        report.Fits (before.foldl settle .empty) := by
  intro replayed reports
  obtain ⟨told, reached⟩ := replay_from time (initial : Watch α) events
  have leads := leads_reports (initial : Watch α) initial_keyed events
  refine ⟨?_, ?_⟩
  · change (replayed.1.map Received.report).foldl settle .empty = _
    rw [told, reached]
    exact leads.settles
  · intro before report later split
    have fits := leads.fits
    rw [← told] at fits
    change AllFit _ reports at fits
    rw [split, allFit_append] at fits
    exact fits.2.1

end Watch

end PolicyReplica
