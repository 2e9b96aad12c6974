import PolicyReplica.Proofs.Names.Admission
import PolicyReplica.Proofs.Watch.Relisting

/-
Tasks that read a watch.

Such a task hears an event and then handles the reports on it, one by one; other tasks may
run before each of these steps. Main statements: what has been handled starts with all
reports on the events that are done with, and the end of the first listing has been handled
exactly if it was reported on one of these events.
-/

namespace PolicyReplica

open WatchReport (settle Fits AllFit isSynced deletedKey?)
open WatcherEvent (isDone)

variable {α : Type}

def WatcherEvent.object? : WatcherEvent α → Option α
  | .listed object | .applied object | .deleted object => some object
  | .listing | .listingDone | .failed => none

def WatchReport.object? : WatchReport α → Option α
  | .added object | .updated _ object | .deleted object _ => some object
  | .synced => none

/-- Holds of the objects of the cluster itself, which are in no namespace. -/
def Watched.Unscoped [Watched α] (object : α) : Prop :=
  (Watched.metadata object).enclosing = none

def WatcherEvent.AllUnscoped [Watched α] (events : List (WatcherEvent α)) : Prop :=
  ∀ object ∈ events.filterMap WatcherEvent.object?, Watched.Unscoped object

instance [Watched α] (object : α) : Decidable (Watched.Unscoped object) :=
  inferInstanceAs (Decidable ((Watched.metadata object).enclosing = none))

instance [Watched α] (events : List (WatcherEvent α)) :
    Decidable (WatcherEvent.AllUnscoped events) :=
  inferInstanceAs (Decidable (∀ object ∈ events.filterMap WatcherEvent.object?,
    Watched.Unscoped object))

theorem Watched.Unscoped.key? [Watched α] {object : α} (unscoped : Watched.Unscoped object) :
    Watch.key? object = (Watched.metadata object).name := by
  unfold Watch.key? Metadata.key?
  rw [unscoped]
  exact Option.map_id'

/-! ### What reports are about -/

namespace WatchReport

theorem object?_of_present? {report : WatchReport α} {object : α}
    (present : report.present? = some object) : report.object? = some object := by
  cases report with
  | added added => exact present
  | updated old new => exact present
  | deleted deleted gone => cases present
  | synced => cases present

variable [Watched α] {report : WatchReport α} {object : α}

theorem settle_unnamed (about : report.object? = some object)
    (unnamed : Watch.key? object = none) (held : Table String α) :
    report.settle held = held := by
  cases report with
  | added added => simp [settle, Option.some.inj about, unnamed]
  | updated old new => simp [settle, Option.some.inj about, unnamed]
  | deleted deleted gone => simp [settle, Option.some.inj about, unnamed]
  | synced => rfl

theorem get?_settle {key : String} (about : report.object? = some object)
    (own : Watch.key? object = some key) (held : Table String α) (other : String) :
    (report.settle held).get? other =
      if other = key then report.present? else held.get? other := by
  cases report with
  | added added =>
      obtain rfl := Option.some.inj about
      simp only [settle, own, Table.get?_insert, present?]
  | updated old new =>
      obtain rfl := Option.some.inj about
      simp only [settle, own, Table.get?_insert, present?]
  | deleted deleted gone =>
      obtain rfl := Option.some.inj about
      simp only [settle, own, Table.get?_erase, present?]
  | synced => cases about

theorem key?_of_fits {held : Table String α} (fits : report.Fits held)
    (about : report.object? = some object) : ∃ key, Watch.key? object = some key := by
  cases report with
  | added added =>
      obtain rfl := Option.some.inj about
      exact ⟨_, fits.choose_spec.1⟩
  | updated old new =>
      obtain rfl := Option.some.inj about
      exact ⟨_, fits.choose_spec.1⟩
  | deleted deleted gone =>
      obtain rfl := Option.some.inj about
      exact ⟨_, fits.choose_spec.1⟩
  | synced => cases about

theorem fits_of_allFit {held : Table String α} {reports : List (WatchReport α)}
    (fit : AllFit held reports) (told : report ∈ reports) : ∃ held, report.Fits held := by
  induction reports generalizing held with
  | nil => cases told
  | cons first rest ih =>
      rcases List.mem_cons.mp told with rfl | later
      · exact ⟨held, fit.1⟩
      · exact ih fit.2 later

end WatchReport

namespace Watch

variable [Watched α] {p : α → Prop}

theorem objects_settle_all {held : Table String α} {reports : List (WatchReport α)}
    (before : ∀ key object, held.get? key = some object → p object)
    (told : ∀ report ∈ reports, ∀ object, report.object? = some object → p object)
    (key : String) (object : α) (found : (reports.foldl settle held).get? key = some object) :
    p object := by
  induction reports generalizing held with
  | nil => exact before key object found
  | cons report rest ih =>
      rw [List.foldl_cons] at found
      refine ih (fun other seen present => ?_)
        (fun later member => told later (List.mem_cons_of_mem report member)) found
      cases about : report.object? with
      | none =>
          cases report with
          | synced => exact before other seen present
          | added | updated | deleted => cases about
      | some here =>
          cases own : key? here with
          | none =>
              rw [WatchReport.settle_unnamed about own] at present
              exact before other seen present
          | some name =>
              rw [WatchReport.get?_settle about own] at present
              split at present
              · exact told report List.mem_cons_self seen
                  (WatchReport.object?_of_present? present)
              · exact before other seen present

theorem objects_receive (watch : Watch α)
    (known : ∀ key object, watch.known.get? key = some object → p object)
    (event : WatcherEvent α) (shown : ∀ object, event.object? = some object → p object) :
    ∀ report ∈ (watch.receive event).1, ∀ object, report.object? = some object → p object := by
  have applied : ∀ (before : Watch α) (key : String) (object : α), p object →
      ∀ report ∈ (before.apply key object).1, ∀ other, report.object? = some other → p other := by
    intro before key object good report told other about
    unfold apply at told
    cases found : before.known.get? key <;> rw [found] at told <;>
      obtain rfl := List.mem_singleton.mp told <;> exact Option.some.inj about ▸ good
  intro report told
  cases event with
  | listing | failed => cases told
  | listed object =>
      cases own : key? object with
      | none =>
          rw [(watch.receive_unnamed own).1] at told
          cases told
      | some key =>
          rw [watch.receive_listed own] at told
          exact applied _ key object (shown object rfl) report told
  | applied object =>
      cases own : key? object with
      | none =>
          rw [(watch.receive_unnamed own).2.1] at told
          cases told
      | some key =>
          simp only [receive, own] at told
          exact applied watch key object (shown object rfl) report told
  | deleted object =>
      cases own : key? object with
      | none =>
          rw [(watch.receive_unnamed own).2.2] at told
          cases told
      | some key =>
          simp only [receive, own, List.mem_singleton] at told
          obtain rfl := told
          exact shown
  | listingDone =>
      change report ∈ watch.finishListing.1 ++ watch.finishListing.2.markSynced.1 at told
      rcases List.mem_append.mp told with gone | done
      · unfold finishListing at gone
        cases listing : watch.listing with
        | none =>
            rw [listing] at gone
            cases gone
        | some listed =>
            rw [listing] at gone
            obtain ⟨entry, member, rfl⟩ := List.mem_map.mp gone
            intro object about
            obtain rfl := Option.some.inj about
            have present := (List.mem_filter.mp member).1
            exact known entry.1 entry.2 ((Table.mem_entries_iff _ _ _).mp present)
      · rw [markSynced_reports] at done
        split at done
        · cases done
        · obtain rfl := List.mem_singleton.mp done
          intro object about
          cases about

/-- Reports are about nothing but objects that were heard of. -/
theorem objects_reports (watch : Watch α) (keyed : Keyed watch.known)
    (known : ∀ key object, watch.known.get? key = some object → p object)
    (events : List (WatcherEvent α))
    (shown : ∀ event ∈ events, ∀ object, event.object? = some object → p object) :
    ∀ report ∈ watch.reports events, ∀ object, report.object? = some object → p object := by
  induction events generalizing watch with
  | nil => exact nofun
  | cons event rest ih =>
      have here := watch.objects_receive known event (shown event List.mem_cons_self)
      have leads := leads_receive watch keyed event
      rw [reports_cons]
      intro report told
      rcases List.mem_append.mp told with first | later
      · exact here report first
      · refine ih _ leads.keyed (fun key object found => ?_)
          (fun next member => shown next (List.mem_cons_of_mem event member)) report later
        rw [← leads.settles] at found
        exact objects_settle_all known here key object found

/-- Of unscoped objects, reports are only about those that have a name, under which they are
known. -/
theorem named_reports {events : List (WatcherEvent α)}
    (unscoped : WatcherEvent.AllUnscoped events) {report : WatchReport α}
    (told : report ∈ (initial : Watch α).reports events) {object : α}
    (about : report.object? = some object) :
    ∃ name, (Watched.metadata object).name = some name ∧ key? object = some name := by
  have free := (initial : Watch α).objects_reports initial_keyed nofun events
    (fun event heard seen shown => unscoped seen (List.mem_filterMap.mpr ⟨event, heard, shown⟩))
    report told object about
  obtain ⟨held, fits⟩ :=
    WatchReport.fits_of_allFit (leads_reports initial initial_keyed events).fits told
  obtain ⟨name, own⟩ := WatchReport.key?_of_fits fits about
  exact ⟨name, free.key?.symm.trans own, own⟩

end Watch

/-! ### Tasks -/

/-- A watch, what it has to hear, and how far the task has come that reads it. -/
structure Intake (α : Type) where
  unheard : List (WatcherEvent α)
  heard : List (WatcherEvent α)
  watch : Watch α
  /-- The reports on the last event that are still to be handled. -/
  pending : List (WatchReport α)
  handled : List (WatchReport α)

namespace Intake

def ofEvents (events : List (WatcherEvent α)) : Intake α :=
  { unheard := events, heard := [], watch := .initial, pending := [], handled := [] }

def processed (intake : Intake α) : List (WatcherEvent α) :=
  match intake.pending with
  | [] => intake.heard
  | _ :: _ => intake.heard.dropLast

theorem processed_prefix (intake : Intake α) : intake.processed <+: intake.heard := by
  unfold processed
  cases intake.pending with
  | nil => exact List.prefix_rfl
  | cons report later => exact List.dropLast_prefix _

variable [Watched α]

def turn (intake : Intake α) : Option (WatchReport α) × Intake α :=
  match intake.pending, intake.unheard with
  | report :: later, _ =>
      (some report, { intake with pending := later, handled := intake.handled ++ [report] })
  | [], event :: rest =>
      let (reports, watch) := intake.watch.receive event
      (none, { intake with
        unheard := rest, heard := intake.heard ++ [event], watch, pending := reports })
  | [], [] => (none, intake)

/-- What is held by somebody who goes by the reports that were handled. -/
def held (intake : Intake α) : Table String α :=
  intake.handled.foldl settle .empty

structure Told (events : List (WatcherEvent α)) (intake : Intake α) : Prop where
  heard : intake.heard ++ intake.unheard = events
  reached : intake.watch = (Watch.initial : Watch α).after intake.heard
  reported : intake.handled ++ intake.pending = (Watch.initial : Watch α).reports intake.heard
  finished : (Watch.initial : Watch α).reports intake.processed <+: intake.handled

theorem ofEvents_told (events : List (WatcherEvent α)) : (ofEvents events).Told events :=
  ⟨rfl, rfl, rfl, List.nil_prefix⟩

theorem turn_report (intake : Intake α) {report : WatchReport α} {later : List (WatchReport α)}
    (pending : intake.pending = report :: later) :
    intake.turn =
      (some report, { intake with pending := later, handled := intake.handled ++ [report] }) := by
  unfold turn
  rw [pending]

theorem turn_event (intake : Intake α) {event : WatcherEvent α} {rest : List (WatcherEvent α)}
    (pending : intake.pending = []) (unheard : intake.unheard = event :: rest) :
    intake.turn = (none, { intake with
      unheard := rest
      heard := intake.heard ++ [event]
      watch := (intake.watch.receive event).2
      pending := (intake.watch.receive event).1 }) := by
  unfold turn
  rw [pending, unheard]

theorem turn_idle (intake : Intake α) (pending : intake.pending = [])
    (unheard : intake.unheard = []) : intake.turn = (none, intake) := by
  unfold turn
  rw [pending, unheard]

/-- What a turn hands over is handled with it. -/
theorem turn_handled (intake : Intake α) :
    intake.turn.2.handled = intake.handled ++ intake.turn.1.toList := by
  cases pending : intake.pending with
  | cons report later => rw [intake.turn_report pending, Option.toList_some]
  | nil =>
      cases unheard : intake.unheard with
      | cons event rest =>
          rw [intake.turn_event pending unheard]
          exact (List.append_nil _).symm
      | nil =>
          rw [intake.turn_idle pending unheard]
          exact (List.append_nil _).symm

theorem held_turn (intake : Intake α) :
    intake.turn.2.held = intake.turn.1.elim intake.held (settle intake.held) := by
  unfold held
  rw [turn_handled, List.foldl_append]
  cases intake.turn.1 with
  | none => rfl
  | some report => rfl

def completed (report? : Option (WatchReport α)) : Nat :=
  report?.elim 0 fun report => if report.isSynced then 1 else 0

theorem countP_synced_turn (intake : Intake α) :
    intake.turn.2.handled.countP isSynced =
      intake.handled.countP isSynced + completed intake.turn.1 := by
  rw [turn_handled, List.countP_append]
  cases intake.turn.1 with
  | none => rfl
  | some report => exact congrArg (_ + ·) List.countP_singleton

theorem reports_concat (watch : Watch α) (events : List (WatcherEvent α))
    (event : WatcherEvent α) :
    watch.reports (events ++ [event]) =
      watch.reports events ++ ((watch.after events).receive event).1 := by
  rw [Watch.reports_append, Watch.reports_cons]
  exact congrArg (_ ++ ·) (List.append_nil _)

variable {events : List (WatcherEvent α)} {intake : Intake α}

theorem Told.turn (told : intake.Told events) : intake.turn.2.Told events := by
  cases pending : intake.pending with
  | cons report later =>
      rw [intake.turn_report pending]
      have reported : intake.handled ++ [report] ++ later =
          (Watch.initial : Watch α).reports intake.heard := by
        rw [← told.reported, pending, List.append_assoc, List.singleton_append]
      refine ⟨told.heard, told.reached, reported, ?_⟩
      cases later with
      | nil =>
          rw [List.append_nil] at reported
          exact reported ▸ List.prefix_rfl
      | cons next rest =>
          have before := told.finished
          unfold processed at before ⊢
          rw [pending] at before
          exact before.trans (List.prefix_append _ _)
  | nil =>
      have whole := told.reported
      rw [pending, List.append_nil] at whole
      cases unheard : intake.unheard with
      | nil =>
          rw [intake.turn_idle pending unheard]
          exact told
      | cons event rest =>
          rw [intake.turn_event pending unheard]
          have next : intake.handled ++ (intake.watch.receive event).1 =
              (Watch.initial : Watch α).reports (intake.heard ++ [event]) := by
            rw [reports_concat, whole, told.reached]
          refine ⟨?_, ?_, next, ?_⟩
          · rw [← told.heard, unheard, List.append_assoc, List.singleton_append]
          · rw [Watch.after_append, told.reached]
            rfl
          · unfold processed
            cases reports : (intake.watch.receive event).1 with
            | nil =>
                rw [reports, List.append_nil] at next
                exact next ▸ List.prefix_rfl
            | cons report later =>
                change (Watch.initial : Watch α).reports (intake.heard ++ [event]).dropLast <+: _
                rw [List.dropLast_concat, whole]

/-- Reports are pending on the last event only. -/
theorem Told.cases (told : intake.Told events) :
    (intake.handled = (Watch.initial : Watch α).reports intake.processed) ∨
      ∃ event, intake.pending ≠ [] ∧ intake.heard = intake.processed ++ [event] := by
  have reported := told.reported
  cases pending : intake.pending with
  | nil =>
      rw [pending, List.append_nil] at reported
      unfold processed
      rw [pending]
      exact .inl reported
  | cons report later =>
      unfold processed
      rw [pending] at reported ⊢
      rcases List.eq_nil_or_concat intake.heard with nothing | ⟨front, event, split⟩
      · rw [nothing] at reported
        exact absurd (List.append_eq_nil_iff.mp reported).2 (List.cons_ne_nil report later)
      · refine .inr ⟨event, List.cons_ne_nil report later, ?_⟩
        rw [split, List.concat_eq_append, List.dropLast_concat]

/-- The end of the first listing is the last report on its event, so it has been handled
exactly if that event is done with. -/
theorem Told.countP_synced (told : intake.Told events) :
    intake.handled.countP isSynced =
      if intake.processed.any isDone = true then 1 else 0 := by
  have total : ∀ heard : List (WatcherEvent α),
      ((Watch.initial : Watch α).reports heard).countP isSynced =
        if heard.any isDone = true then 1 else 0 := by
    intro heard
    rw [(Watch.reports_synced _ heard).1]
    exact if_congr (and_iff_right rfl) rfl rfl
  rcases told.cases with whole | ⟨event, pending, heard⟩
  · rw [whole, total]
  · have reported := told.reported
    rw [heard] at reported
    have below := told.finished.sublist.countP_le (p := isSynced)
    have all := congrArg (List.countP isSynced) reported
    rw [total] at below all
    rw [List.countP_append] at all
    by_cases earlier : intake.processed.any isDone = true
    · have still : (intake.processed ++ [event]).any isDone = true := by
        rw [List.any_append, earlier, Bool.true_or]
      rw [if_pos still] at all
      rw [if_pos earlier] at below ⊢
      omega
    · rw [if_neg earlier]
      cases event with
      | listingDone =>
          -- the last pending report is the end of the listing, and it comes once
          obtain ⟨gone, _, ends, _, _⟩ :=
            Watch.reports_first_listing intake.processed [] (Bool.eq_false_iff.mpr earlier)
          have last := congrArg List.getLast? (reported.trans ends)
          rw [List.getLast?_append_of_ne_nil _ pending, List.getLast?_concat] at last
          have waiting : 0 < intake.pending.countP isSynced :=
            List.countP_pos_iff.mpr ⟨.synced, List.mem_of_getLast? last, rfl⟩
          have bound : (if (intake.processed ++ [WatcherEvent.listingDone]).any isDone = true
              then 1 else 0) ≤ 1 := by
            split <;> omega
          omega
      | listing | listed object | applied object | deleted object | failed =>
          rw [if_neg (by simpa [isDone] using earlier)] at all
          omega

/-- What a turn hands over is about an object that is known under its name. -/
theorem Told.named (told : intake.Told events)
    (unscoped : WatcherEvent.AllUnscoped events) {report : WatchReport α}
    (handed : intake.turn.1 = some report) {object : α} (about : report.object? = some object) :
    ∃ name, (Watched.metadata object).name = some name ∧ Watch.key? object = some name := by
  have member : report ∈ intake.handled ++ intake.pending := by
    cases pending : intake.pending with
    | cons first later =>
        rw [intake.turn_report pending] at handed
        obtain rfl := Option.some.inj handed
        exact List.mem_append_right _ List.mem_cons_self
    | nil =>
        cases unheard : intake.unheard with
        | cons event rest =>
            rw [intake.turn_event pending unheard] at handed
            cases handed
        | nil =>
            rw [intake.turn_idle pending unheard] at handed
            cases handed
  rw [told.reported] at member
  refine Watch.named_reports (fun seen shown => unscoped seen ?_) member about
  rw [← told.heard, List.filterMap_append]
  exact List.mem_append_left _ shown

theorem isSome_settle_all {held : Table String α} {reports : List (WatchReport α)} {name : String}
    (present : (held.get? name).isSome = true)
    (kept : ∀ report ∈ reports, deletedKey? report ≠ some name) :
    ((reports.foldl settle held).get? name).isSome = true := by
  induction reports generalizing held with
  | nil => exact present
  | cons report rest ih =>
      rw [List.foldl_cons]
      refine ih ?_ fun later member => kept later (List.mem_cons_of_mem report member)
      cases about : report.object? with
      | none =>
          cases report with
          | synced => exact present
          | added | updated | deleted => cases about
      | some object =>
          cases own : Watch.key? object with
          | none =>
              rw [WatchReport.settle_unnamed about own]
              exact present
          | some key =>
              rw [WatchReport.get?_settle about own]
              split
              · cases report with
                | added | updated => rfl
                | deleted gone already =>
                    obtain rfl := Option.some.inj about
                    subst name
                    exact absurd own (kept _ List.mem_cons_self)
                | synced => cases about
              · exact present

/-- Holds if every named object that was shown before the end of the first listing has been
handled, and is in an index unless its deletion has been handled since. -/
def Brought (intake : Intake α) (indexed : String → Prop) : Prop :=
  ∀ before object later name, intake.heard = before ++ .listed object :: later →
    before.any isDone = false → (Watched.metadata object).name = some name →
      ∃ report since,
        intake.handled = (Watch.initial : Watch α).reports before ++ report :: since ∧
          report.present? = some object ∧
          ((∀ told ∈ since, deletedKey? told ≠ some name) → indexed name)

/-- The first listing has been handled once its end has. -/
theorem Told.brought (told : intake.Told events)
    (unscoped : WatcherEvent.AllUnscoped events) (finished : intake.processed.any isDone = true) :
    intake.Brought fun name => intake.held.contains name = true := by
  intro before object later name heard first named
  have own : Watch.key? object = some name := by
    have member : .listed object ∈ events := by
      rw [← told.heard, heard]
      simp
    rw [(unscoped object (List.mem_filterMap.mpr ⟨_, member, rfl⟩)).key?, named]
  have through : before ++ [.listed object] <+: intake.processed := by
    have shown : before ++ [.listed object] <+: intake.heard :=
      ⟨later, by rw [heard, List.append_assoc, List.singleton_append]⟩
    have either := List.prefix_or_prefix_of_prefix shown intake.processed_prefix
    refine either.resolve_right fun less => ?_
    obtain ⟨event, member, done⟩ := List.any_eq_true.mp finished
    rcases List.mem_append.mp (less.subset member) with early | last
    · exact Bool.false_ne_true (first.symm.trans (List.any_eq_true.mpr ⟨event, early, done⟩))
    · obtain rfl := List.mem_singleton.mp last
      cases done
  obtain ⟨rest, split⟩ := through
  let reached := (Watch.initial : Watch α).after before
  obtain ⟨report, told', present⟩ : ∃ report,
      (reached.receive (.listed object)).1 = [report] ∧ report.present? = some object := by
    rw [reached.receive_listed own]
    unfold Watch.apply
    cases reached.known.get? name with
    | none => exact ⟨.added object, rfl, rfl⟩
    | some old => exact ⟨.updated old object, rfl, rfl⟩
  obtain ⟨since, handled⟩ := told.finished
  rw [← split, Watch.reports_append, reports_concat, told', List.append_assoc, List.append_assoc,
    List.singleton_append] at handled
  refine ⟨report, _, handled.symm, present, fun kept => ?_⟩
  unfold held Table.contains
  rw [← handled, List.foldl_append, List.foldl_cons]
  refine isSome_settle_all ?_ kept
  rw [WatchReport.get?_settle (WatchReport.object?_of_present? present) own, if_pos rfl, present]
  rfl

end Intake

end PolicyReplica
