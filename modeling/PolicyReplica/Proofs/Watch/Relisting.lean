import Mathlib.Data.List.Induction
import Mathlib.Data.List.Nodup
import PolicyReplica.Proofs.Watch.Reports

/-
What a watch makes of a listing.

A listing shows objects, and failures may come between them. Main statement: when it ends,
who goes by the reports holds exactly what it showed, the last object of a key; whatever
was held before it and was not shown has been reported as gone once, and nothing else has;
and the end of the first listing is reported once, after all that was heard before.
-/

namespace PolicyReplica

namespace Table

variable {κ ν : Type} [DecidableEq κ]

/-- Of the entries that are put into a table the last one of a key counts. -/
theorem get?_insert_all (entries : List (κ × ν)) (table : Table κ ν) (key : κ) :
    (entries.foldl (fun table entry => table.insert entry.1 entry.2) table).get? key =
      if key ∈ entries.map Prod.fst then (ofEntries entries).get? key else table.get? key := by
  unfold ofEntries
  induction entries using List.reverseRecOn with
  | nil => simp
  | append_singleton first last ih =>
      rw [List.foldl_append, List.foldl_append, List.foldl_cons, List.foldl_cons, List.foldl_nil,
        List.foldl_nil, get?_insert, get?_insert, ih]
      by_cases same : key = last.1
      · simp [same]
      · have members : key ∈ (first ++ [last]).map Prod.fst ↔ key ∈ first.map Prod.fst := by
          rw [List.map_append, List.mem_append]
          exact or_iff_left fun inLast => same (List.mem_singleton.mp inLast)
        rw [if_neg same, if_neg same]
        exact if_congr members.symm rfl rfl

theorem get?_erase_all (entries : List (κ × ν)) (table : Table κ ν) (key : κ) :
    (entries.foldl (fun table entry => table.erase entry.1) table).get? key =
      if key ∈ entries.map Prod.fst then none else table.get? key := by
  induction entries generalizing table with
  | nil => simp
  | cons entry rest ih =>
      rw [List.foldl_cons, ih, get?_erase]
      by_cases same : key = entry.1
      · simp [same]
      · have members : key ∈ (entry :: rest).map Prod.fst ↔ key ∈ rest.map Prod.fst := by
          rw [List.map_cons, List.mem_cons]
          exact or_iff_right same
        rw [if_neg same]
        exact if_congr members.symm rfl rfl

end Table

namespace Watch

variable {α : Type}

theorem deleted_not_mem_apply (watch : Watch α) (key : String) (object other : α)
    (alreadyGone : Bool) : .deleted other alreadyGone ∉ (watch.apply key object).1 := by
  unfold apply
  cases watch.known.get? key <;> simp

theorem markSynced_reports (watch : Watch α) :
    watch.markSynced.1 = if watch.synced then [] else [.synced] := by
  unfold markSynced
  split <;> rfl

theorem markSynced_known (watch : Watch α) : watch.markSynced.2.known = watch.known := by
  unfold markSynced
  split <;> rfl

/-- What a listing did not show is no longer known. -/
theorem get?_finishListing {watch : Watch α} {shown : List String}
    (current : watch.listing = some shown) (key : String) :
    watch.finishListing.2.known.get? key = if key ∈ shown then watch.known.get? key else none := by
  unfold finishListing
  rw [current]
  simp only
  rw [Table.get?_erase_all]
  by_cases listed : key ∈ shown
  · have kept : key ∉ (watch.known.entries.filter (!shown.contains ·.1)).map Prod.fst := by
      intro member
      obtain ⟨entry, inGone, rfl⟩ := List.mem_map.mp member
      have unlisted := (List.mem_filter.mp inGone).2
      simp [listed] at unlisted
    rw [if_neg kept, if_pos listed]
  · rw [if_neg listed]
    split
    · rfl
    · rename_i absent
      cases found : watch.known.get? key with
      | none => rfl
      | some object =>
          refine absurd (List.mem_map.mpr ⟨(key, object), ?_, rfl⟩) absent
          exact List.mem_filter.mpr
            ⟨(Table.mem_entries_iff _ _ _).mpr found, by simpa using listed⟩

end Watch

variable {α : Type} [Watched α]

namespace WatcherEvent

def isListing : WatcherEvent α → Bool
  | .listed _ | .failed => true
  | .listing | .listingDone | .applied _ | .deleted _ => false

def isDone : WatcherEvent α → Bool
  | .listingDone => true
  | .listing | .listed _ | .applied _ | .deleted _ | .failed => false

def listed? : WatcherEvent α → Option (String × α)
  | .listed object => (Watch.key? object).map (·, object)
  | .listing | .listingDone | .applied _ | .deleted _ | .failed => none

end WatcherEvent

namespace WatchReport

def isSynced : WatchReport α → Bool
  | .synced => true
  | .added _ | .updated _ _ | .deleted _ _ => false

def deletedKey? : WatchReport α → Option String
  | .deleted object _ => Watch.key? object
  | .added _ | .updated _ _ | .synced => none

end WatchReport

namespace Watch

open WatchReport (settle isSynced deletedKey?)
open WatcherEvent (isListing isDone listed?)

theorem reports_append (watch : Watch α) (left right : List (WatcherEvent α)) :
    watch.reports (left ++ right) = watch.reports left ++ (watch.after left).reports right := by
  induction left generalizing watch with
  | nil => rfl
  | cons event rest ih =>
      rw [List.cons_append, reports_cons, reports_cons, after_cons, ih, List.append_assoc]

theorem after_append (watch : Watch α) (left right : List (WatcherEvent α)) :
    watch.after (left ++ right) = (watch.after left).after right := by
  induction left generalizing watch with
  | nil => rfl
  | cons event rest ih => rw [List.cons_append, after_cons, after_cons, ih]

/-- An event of a listing shows nothing, or an object that is put in. -/
theorem receive_of_isListing (watch : Watch α) {event : WatcherEvent α}
    (listing : event.isListing = true) :
    (listed? event = none ∧ watch.receive event = ([], watch)) ∨
      ∃ key object, listed? event = some (key, object) ∧ watch.receive event =
        { watch with listing := watch.listing.map (key :: ·) }.apply key object := by
  cases event with
  | listed object =>
      cases own : key? object with
      | none => exact .inl ⟨by simp [listed?, own], (watch.receive_unnamed own).1⟩
      | some key => exact .inr ⟨key, object, by simp [listed?, own], watch.receive_listed own⟩
  | failed => exact .inl ⟨rfl, rfl⟩
  | listing | listingDone | applied object | deleted object => cases listing

/-- A listing puts in what it shows, one after the other, and takes nothing out. -/
theorem after_of_isListing {watch : Watch α} {shown : List String} {since : List (WatcherEvent α)}
    (current : watch.listing = some shown) (listing : since.all isListing = true) :
    (watch.after since).known = ((since.filterMap listed?).foldl
        (fun known entry => known.insert entry.1 entry.2) watch.known) ∧
      (∃ keys, (watch.after since).listing = some keys ∧
        ∀ key, key ∈ keys ↔ key ∈ shown ∨ key ∈ (since.filterMap listed?).map Prod.fst) ∧
      ∀ object alreadyGone, .deleted object alreadyGone ∉ watch.reports since := by
  induction since generalizing watch shown with
  | nil => exact ⟨rfl, ⟨shown, current, fun key => by simp⟩, fun _ _ => nofun⟩
  | cons event rest ih =>
      rw [List.all_cons, Bool.and_eq_true] at listing
      rw [after_cons, reports_cons]
      obtain ⟨nothing, received⟩ | ⟨key, object, shows, received⟩ :=
        watch.receive_of_isListing listing.1
      · rw [received, List.filterMap_cons_none nothing]
        exact ih current listing.2
      · rw [received, List.filterMap_cons_some shows]
        have next : ({ watch with listing := watch.listing.map (key :: ·) }.apply key
            object).2.listing = some (key :: shown) := by
          change watch.listing.map (key :: ·) = _
          rw [current]
          rfl
        obtain ⟨known, ⟨keys, last, members⟩, kept⟩ := ih next listing.2
        refine ⟨known, ⟨keys, last, fun other => ?_⟩, fun other alreadyGone told => ?_⟩
        · rw [members other, List.mem_cons, List.map_cons, List.mem_cons, or_assoc, or_left_comm]
        · rcases List.mem_append.mp told with here | later
          · exact deleted_not_mem_apply _ key object other alreadyGone here
          · exact kept other alreadyGone later

/-! ### The end of a listing -/

theorem filterMap_deletedKey?_synced (watch : Watch α) :
    watch.markSynced.1.filterMap deletedKey? = [] := by
  rw [markSynced_reports]
  split <;> rfl

/-- Each of these is reported once, with the object that was known. -/
theorem finishListing_reports {watch : Watch α} {shown : List String} (keyed : Keyed watch.known)
    (current : watch.listing = some shown) :
    (∀ key, (watch.finishListing.1.filterMap deletedKey?).count key =
        if watch.known.contains key ∧ key ∉ shown then 1 else 0) ∧
      ∀ report ∈ watch.finishListing.1, ∃ key object, report = .deleted object true ∧
        key? object = some key ∧ key ∉ shown ∧ watch.known.get? key = some object := by
  unfold finishListing
  rw [current]
  simp only
  have present : ∀ entry ∈ watch.known.entries.filter (!shown.contains ·.1),
      watch.known.get? entry.1 = some entry.2 ∧ entry.1 ∉ shown := by
    intro entry member
    obtain ⟨inTable, unlisted⟩ := List.mem_filter.mp member
    exact ⟨(Table.mem_entries_iff _ _ _).mp inTable, by simpa using unlisted⟩
  have keys : (watch.known.entries.filter (!shown.contains ·.1)).filterMap
      (fun entry => deletedKey? (.deleted entry.2 true)) =
        (watch.known.entries.filter (!shown.contains ·.1)).map Prod.fst := by
    rw [← List.filterMap_eq_map]
    refine List.filterMap_congr fun entry member => ?_
    exact keyed entry.1 entry.2 (present entry member).1
  have distinct : ((watch.known.entries.filter (!shown.contains ·.1)).map Prod.fst).Nodup :=
    watch.known.distinctKeys.sublist (List.filter_sublist.map Prod.fst)
  refine ⟨fun key => ?_, fun report told => ?_⟩
  · rw [List.filterMap_map]
    refine (congrArg (List.count key) keys).trans ?_
    by_cases gone : watch.known.contains key ∧ key ∉ shown
    · rw [if_pos gone]
      obtain ⟨object, found⟩ := Option.isSome_iff_exists.mp gone.1
      refine List.count_eq_one_of_mem distinct (List.mem_map.mpr ⟨(key, object), ?_, rfl⟩)
      exact List.mem_filter.mpr
        ⟨(Table.mem_entries_iff _ _ _).mpr found, by simpa using gone.2⟩
    · rw [if_neg gone]
      refine List.count_eq_zero_of_not_mem fun member => gone ?_
      obtain ⟨entry, inGone, rfl⟩ := List.mem_map.mp member
      obtain ⟨found, unlisted⟩ := present entry inGone
      exact ⟨by simp [Table.contains, found], unlisted⟩
  · obtain ⟨entry, member, rfl⟩ := List.mem_map.mp told
    obtain ⟨found, unlisted⟩ := present entry member
    exact ⟨entry.1, entry.2, rfl, keyed entry.1 entry.2 found, unlisted, found⟩

/-- Only the end of a listing is reported as the end of the first one, and only once. -/
theorem receive_synced (watch : Watch α) (event : WatcherEvent α) :
    (watch.receive event).1.countP isSynced =
        (if watch.synced = false ∧ event.isDone = true then 1 else 0) ∧
      (watch.receive event).2.synced = (watch.synced || event.isDone) := by
  have applies : ∀ (before : Watch α) (key : String) (object : α),
      (before.apply key object).1.countP isSynced = 0 := by
    intro before key object
    unfold apply
    cases before.known.get? key <;> rfl
  cases event with
  | listing | failed => simp [receive, isDone]
  | listed object | applied object =>
      cases own : key? object with
      | none => simp [receive, own, isDone]
      | some key =>
          simp only [receive, own, applies]
          simp [isDone, apply]
  | deleted object =>
      cases own : key? object with
      | none => simp [receive, own, isDone]
      | some key => simp [receive, own, isDone, isSynced]
  | listingDone =>
      have gone : watch.finishListing.1.countP isSynced = 0 ∧
          watch.finishListing.2.synced = watch.synced := by
        unfold finishListing
        cases watch.listing with
        | none => exact ⟨rfl, rfl⟩
        | some shown =>
            refine ⟨List.countP_eq_zero.mpr fun report told => ?_, rfl⟩
            obtain ⟨entry, _, rfl⟩ := List.mem_map.mp told
            exact Bool.false_ne_true
      change (watch.finishListing.1 ++ watch.finishListing.2.markSynced.1).countP isSynced = _ ∧
        watch.finishListing.2.markSynced.2.synced = _
      rw [List.countP_append, gone.1, markSynced_reports, gone.2]
      unfold markSynced
      rw [gone.2]
      cases synced : watch.synced with
      | true => exact ⟨rfl, gone.2.trans synced⟩
      | false => exact ⟨rfl, rfl⟩

theorem reports_synced (watch : Watch α) (events : List (WatcherEvent α)) :
    (watch.reports events).countP isSynced =
        (if watch.synced = false ∧ events.any isDone = true then 1 else 0) ∧
      (watch.after events).synced = (watch.synced || events.any isDone) := by
  induction events generalizing watch with
  | nil => simp [reports, after, replay]
  | cons event rest ih =>
      obtain ⟨here, synced⟩ := watch.receive_synced event
      obtain ⟨later, last⟩ := ih (watch.receive event).2
      rw [reports_cons, after_cons, List.countP_append, here, later, last, synced, List.any_cons]
      cases watch.synced <;> cases event.isDone <;> simp

def heldAfter (events : List (WatcherEvent α)) : Table String α :=
  ((initial : Watch α).reports events).foldl settle .empty

theorem heldAfter_eq (events : List (WatcherEvent α)) :
    heldAfter events = ((initial : Watch α).after events).known :=
  (leads_reports initial initial_keyed events).settles

/-- When a listing ends that started with nothing shown. -/
theorem reports_listing {watch : Watch α} (keyed : Keyed watch.known)
    {since : List (WatcherEvent α)} (listing : since.all isListing = true) :
    let entries := since.filterMap listed?
    let relisted := watch.reports (.listing :: since ++ [.listingDone])
    (∀ key, (watch.after (.listing :: since ++ [.listingDone])).known.get? key =
        (Table.ofEntries entries).get? key) ∧
      (∀ key, (relisted.filterMap deletedKey?).count key =
        if watch.known.contains key ∧ key ∉ entries.map Prod.fst then 1 else 0) ∧
      ∀ object alreadyGone, .deleted object alreadyGone ∈ relisted →
        alreadyGone = true ∧ ∃ key, key? object = some key ∧
          watch.known.get? key = some object := by
  intro entries relisted
  let started : Watch α := { watch with listing := some [] }
  have startedKeyed : Keyed started.known := keyed
  have begun : started.listing = some [] := rfl
  obtain ⟨known, ⟨shown, current, members⟩, kept⟩ := after_of_isListing begun listing
  have shownKeyed : Keyed (started.after since).known :=
    (leads_reports started startedKeyed since).keyed
  have listedKeys : ∀ key, key ∈ shown ↔ key ∈ entries.map Prod.fst := by
    intro key
    rw [members key]
    exact or_iff_right List.not_mem_nil
  have before : ∀ key, key ∉ shown →
      (started.after since).known.get? key = watch.known.get? key := by
    intro key unlisted
    rw [known, Table.get?_insert_all, if_neg fun inEntries => unlisted ((listedKeys key).mpr inEntries)]
  obtain ⟨counts, objects⟩ := finishListing_reports shownKeyed current
  have told : relisted = started.reports since ++
      ((started.after since).finishListing.1 ++
        (started.after since).finishListing.2.markSynced.1) := by
    change watch.reports (.listing :: (since ++ [.listingDone])) = _
    rw [reports_cons, reports_append, reports_cons]
    exact congrArg (started.reports since ++ ·) (List.append_nil _)
  have silent : (started.reports since).filterMap deletedKey? = [] := by
    refine List.filterMap_eq_nil_iff.mpr fun report early => ?_
    cases report with
    | deleted object alreadyGone => exact absurd early (kept object alreadyGone)
    | added | updated | synced => rfl
  refine ⟨fun key => ?_, fun key => ?_, fun object alreadyGone reported => ?_⟩
  · change (watch.after (.listing :: (since ++ [.listingDone]))).known.get? key = _
    rw [after_cons, after_append, after_cons]
    change (started.after since).finishListing.2.markSynced.2.known.get? key = _
    rw [markSynced_known, get?_finishListing current, known, Table.get?_insert_all]
    by_cases listed : key ∈ shown
    · rw [if_pos listed, if_pos ((listedKeys key).mp listed)]
    · have absent := Table.get?_insert_all entries .empty key
      rw [if_neg fun inEntries => listed ((listedKeys key).mpr inEntries)] at absent
      rw [if_neg listed]
      exact absent.symm
  · rw [told, List.filterMap_append, List.filterMap_append, filterMap_deletedKey?_synced, silent,
      List.nil_append, List.append_nil, counts key]
    refine if_congr ?_ rfl rfl
    rw [listedKeys key]
    refine and_congr_left fun unlisted => ?_
    unfold Table.contains
    rw [before key fun listed => unlisted ((listedKeys key).mp listed)]
  · rw [told, List.mem_append, List.mem_append, markSynced_reports] at reported
    rcases reported with early | gone | last
    · exact absurd early (kept object alreadyGone)
    · obtain ⟨key, found, same, own, unlisted, present⟩ := objects _ gone
      cases same
      rw [before key unlisted] at present
      exact ⟨rfl, key, own, present⟩
    · split at last
      · cases last
      · cases List.mem_singleton.mp last

/-- What the end of the first listing brings, and how it is told. -/
theorem reports_first_listing (before rest : List (WatcherEvent α))
    (first : before.any isDone = false) :
    ∃ gone later,
      (initial : Watch α).reports (before ++ [.listingDone]) =
        (initial : Watch α).reports before ++ gone ++ [.synced] ∧
      (initial : Watch α).reports (before ++ .listingDone :: rest) =
        (initial : Watch α).reports before ++ gone ++ .synced :: later ∧
      ∀ report ∈ gone, ∃ object, report = .deleted object true := by
  let reached := (initial : Watch α).after before
  have unsynced : reached.synced = false := by
    have last := ((initial : Watch α).reports_synced before).2
    rw [first] at last
    exact last
  have stays : reached.finishListing.2.synced = false := by
    unfold finishListing
    cases reached.listing <;> exact unsynced
  have ends : reached.finishListing.2.markSynced.1 = [.synced] := by
    rw [markSynced_reports, stays]
    rfl
  have received : (reached.receive .listingDone).1 = reached.finishListing.1 ++ [.synced] := by
    rw [← ends]
    rfl
  refine ⟨reached.finishListing.1, (reached.receive .listingDone).2.reports rest, ?_, ?_, ?_⟩
  · rw [reports_append, reports_cons]
    change _ ++ ((reached.receive .listingDone).1 ++ []) = _
    rw [received, List.append_nil, List.append_assoc]
  · rw [reports_append, reports_cons]
    change _ ++ ((reached.receive .listingDone).1 ++ _) = _
    rw [received, List.append_assoc, List.append_assoc]
    rfl
  · intro report told
    unfold finishListing at told
    cases listing : reached.listing with
    | none =>
        rw [listing] at told
        cases told
    | some shown =>
        rw [listing] at told
        obtain ⟨entry, _, rfl⟩ := List.mem_map.mp told
        exact ⟨entry.2, rfl⟩

/-- Whatever came before a listing in whose course nothing but failures comes between the
objects: when it ends, who goes by the reports holds exactly the named objects that it
showed, the last one of a key; each key that was held before and was not shown has been
reported as gone once, with the object that was held, and no other key has. The end of the
first listing is reported once, right after all that the watch had to tell by then. -/
theorem reports_exact (events : List (WatcherEvent α)) :
    let told := (initial : Watch α).reports
    (∀ before since rest, events = before ++ (.listing :: since ++ [.listingDone]) ++ rest →
      since.all isListing = true →
        let entries := since.filterMap listed?
        let upTo := before ++ (.listing :: since ++ [.listingDone])
        ∃ relisted later, told upTo = told before ++ relisted ∧ told events = told upTo ++ later ∧
          (∀ key, (heldAfter upTo).get? key = (Table.ofEntries entries).get? key) ∧
          (∀ key, (relisted.filterMap deletedKey?).count key =
            if (heldAfter before).contains key ∧ key ∉ entries.map Prod.fst then 1 else 0) ∧
          ∀ object alreadyGone, .deleted object alreadyGone ∈ relisted →
            alreadyGone = true ∧ ∃ key, key? object = some key ∧
              (heldAfter before).get? key = some object) ∧
      (told events).countP isSynced = (if events.any isDone = true then 1 else 0) ∧
      ∀ before rest, events = before ++ .listingDone :: rest → before.any isDone = false →
        ∃ gone later, told (before ++ [.listingDone]) = told before ++ gone ++ [.synced] ∧
          told events = told before ++ gone ++ .synced :: later ∧
          ∀ report ∈ gone, ∃ object, report = .deleted object true := by
  intro told
  refine ⟨?_, ?_, ?_⟩
  · intro before since rest split listing entries upTo
    have keyed : Keyed ((initial : Watch α).after before).known :=
      (leads_reports initial initial_keyed before).keyed
    obtain ⟨shown, counts, objects⟩ := reports_listing keyed listing
    refine ⟨_, _, reports_append _ _ _, split ▸ reports_append _ _ _, fun key => ?_, ?_, ?_⟩
    · rw [heldAfter_eq, after_append]
      exact shown key
    · rw [heldAfter_eq]
      exact counts
    · rw [heldAfter_eq]
      exact objects
  · have synced := ((initial : Watch α).reports_synced events).1
    rw [synced]
    exact if_congr (and_iff_right rfl) rfl rfl
  · intro before rest split first
    rw [split]
    exact reports_first_listing before rest first

def seen (name version : String) : Namespace :=
  { metadata := { Metadata.empty with name := some name, version := some version } }

/-- A listing that broke off is followed by one in which a failure and an object without a
name come between two versions of the same namespace. -/
theorem reports_exact_interrupted :
    let before : List (WatcherEvent Namespace) :=
      [.listing, .listed (seen "shop" "1"), .listed (seen "cart" "2"), .listingDone, .listing,
        .listed (seen "bank" "3")]
    let since : List (WatcherEvent Namespace) :=
      [.listed (seen "cart" "4"), .failed, .listed ⟨Metadata.empty⟩, .listed (seen "cart" "5")]
    let rest : List (WatcherEvent Namespace) := [.deleted (seen "cart" "6")]
    let upTo := before ++ (.listing :: since ++ [.listingDone])
    since.all isListing = true ∧
      (heldAfter upTo).get? "cart" = some (seen "cart" "5") ∧
      (heldAfter upTo).get? "shop" = none ∧ (heldAfter upTo).get? "bank" = none ∧
      ((initial : Watch Namespace).reports (upTo ++ rest)).countP isSynced = 1 := by
  intro before since rest upTo
  have listing : since.all isListing = true := by decide
  obtain ⟨relists, once, _⟩ := reports_exact (upTo ++ rest)
  obtain ⟨_, _, _, _, held, _, _⟩ := relists before since rest rfl listing
  refine ⟨listing, ?_, ?_, ?_, once⟩
  · exact (held "cart").trans (by decide +kernel)
  · exact (held "shop").trans (by decide +kernel)
  · exact (held "bank").trans (by decide +kernel)

end Watch

end PolicyReplica
