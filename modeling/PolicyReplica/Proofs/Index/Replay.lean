import Mathlib.Data.List.Induction
import Mathlib.Data.Set.Card
import PolicyReplica.Proofs.Index.Consistency
import PolicyReplica.Proofs.Time.Order

/-
The index of replicas after any changes.

Main statement: the index answers as a recomputation from scratch does, which
knows under each name what was last put there and not deleted since, and the
targets that were ever trusted are those of all replicas that were put there.
-/

namespace PolicyReplica

theorem Table.encard_keys {κ ν : Type} [DecidableEq κ] (table : Table κ ν) :
    {key | (table.get? key).isSome}.encard = table.size := by
  have sameKeys : {key | (table.get? key).isSome = true} = (table.keys.toFinset : Set κ) := by
    ext key
    simp [table.mem_keys_iff]
  have distinct : table.keys.Nodup := table.distinctKeys
  rw [sameKeys, Set.encard_coe_eq_coe_finsetCard, List.toFinset_card_of_nodup distinct]
  unfold keys size
  rw [List.length_map]

theorem Table.isEmpty_iff {κ ν : Type} [DecidableEq κ] (table : Table κ ν) :
    table.isEmpty = true ↔ ∀ key, table.get? key = none := by
  unfold isEmpty
  rw [List.isEmpty_iff]
  constructor
  · intro nothing key
    unfold get?
    rw [nothing]
    rfl
  · intro absent
    apply List.eq_nil_iff_forall_not_mem.mpr
    rintro ⟨key, value⟩ member
    rw [table.mem_entries_iff, absent key] at member
    cases member

theorem Table.mem_values_iff {κ ν : Type} [DecidableEq κ] (table : Table κ ν) (value : ν) :
    value ∈ table.values ↔ ∃ key, table.get? key = some value := by
  unfold values
  rw [List.mem_map]
  constructor
  · intro given
    obtain ⟨⟨key, _⟩, member, rfl⟩ := given
    exact ⟨key, (table.mem_entries_iff key _).mp member⟩
  · intro given
    obtain ⟨key, found⟩ := given
    exact ⟨(key, value), (table.mem_entries_iff key value).mpr found, rfl⟩

theorem Text.sorted_strict {texts : List String} (nodup : texts.Nodup) :
    (Text.sorted texts).Pairwise (· < ·) := by
  have distinct : (Text.sorted texts).Nodup := (Text.sorted_perm texts).nodup_iff.mpr nodup
  refine ((Text.pairwise_sorted texts).and distinct).imp ?_
  rintro left right ⟨ordered, different⟩
  exact String.not_le.mp fun back => different (String.le_antisymm ordered back)

inductive IndexChange where
  | apply (replica : Replica)
  | delete (name : String)
  deriving DecidableEq

namespace IndexChange

def name : IndexChange → String
  | .apply replica => replica.name
  | .delete name => name

def replica? : IndexChange → Option Replica
  | .apply replica => some replica
  | .delete _ => none

end IndexChange

/-- What was last put under a name and not deleted since. -/
def lastApplied (changes : List IndexChange) (name : String) : Option Replica :=
  (changes.filter (·.name = name)).getLast?.bind IndexChange.replica?

theorem lastApplied_concat (changes : List IndexChange) (change : IndexChange) (name : String) :
    lastApplied (changes ++ [change]) name =
      if name = change.name then change.replica? else lastApplied changes name := by
  unfold lastApplied
  rw [List.filter_append]
  by_cases same : name = change.name
  · simp [same]
  · have differs : ¬ change.name = name := fun equal => same equal.symm
    simp [same, differs]

theorem mem_of_lastApplied {changes : List IndexChange} {name : String} {replica : Replica}
    (applied : lastApplied changes name = some replica) :
    .apply replica ∈ changes ∧ replica.name = name := by
  unfold lastApplied at applied
  obtain ⟨change, last, isReplica⟩ := Option.bind_eq_some_iff.mp applied
  obtain ⟨member, about⟩ := List.mem_filter.mp (List.mem_of_getLast? last)
  cases change with
  | apply stored =>
      obtain rfl := Option.some.inj isReplica
      exact ⟨member, of_decide_eq_true about⟩
  | delete deleted => cases isReplica

def Newest (held : String → Option Replica) (time : Timestamp) : Prop :=
  (∃ name replica, held name = some replica ∧ replica.snapshot.domain.modified = time) ∧
    ∀ name replica, held name = some replica →
      replica.snapshot.domain.modified.rank ≤ time.rank

theorem Newest.unique {held : String → Option Replica} {time other : Timestamp}
    (newest : Newest held time) (otherNewest : Newest held other) : time = other := by
  obtain ⟨⟨name, replica, found, rfl⟩, bound⟩ := newest
  obtain ⟨⟨otherName, otherReplica, otherFound, rfl⟩, otherBound⟩ := otherNewest
  have before := bound otherName otherReplica otherFound
  have after := otherBound name replica found
  exact Timestamp.rank_injective (by omega)

namespace DomainIndex

def change (index : DomainIndex) : IndexChange → DomainIndex
  | .apply replica => (index.apply replica).2
  | .delete name => (index.delete name).2

def replay (changes : List IndexChange) : DomainIndex :=
  changes.foldl change empty

theorem replay_concat (changes : List IndexChange) (last : IndexChange) :
    replay (changes ++ [last]) = (replay changes).change last := by
  unfold replay
  rw [List.foldl_append, List.foldl_cons, List.foldl_nil]

theorem Consistent.change {index : DomainIndex} (consistent : index.Consistent)
    (change : IndexChange) : (index.change change).Consistent := by
  cases change with
  | apply replica => exact consistent.apply replica
  | delete name => exact consistent.delete name

theorem get?_change (index : DomainIndex) (change : IndexChange) (name : String) :
    (index.change change).get? name =
      if name = change.name then change.replica? else index.get? name := by
  cases change with
  | apply replica => exact index.get?_apply replica name
  | delete deleted => exact index.get?_delete deleted name

theorem replay_consistent (changes : List IndexChange) : (replay changes).Consistent := by
  induction changes using List.reverseRecOn with
  | nil => exact empty_consistent
  | append_singleton changes last ih =>
      rw [replay_concat]
      exact ih.change last

theorem get?_replay (changes : List IndexChange) (name : String) :
    (replay changes).get? name = lastApplied changes name := by
  induction changes using List.reverseRecOn with
  | nil => rfl
  | append_singleton changes last ih =>
      rw [replay_concat, get?_change, lastApplied_concat, ih]

theorem mem_seenTrust_replay (changes : List IndexChange) (target : String) :
    target ∈ (replay changes).seenTrust ↔
      ∃ replica, .apply replica ∈ changes ∧ replica.Trusts target := by
  induction changes using List.reverseRecOn with
  | nil =>
      constructor
      · intro member
        cases member
      · intro given
        obtain ⟨replica, member, _⟩ := given
        cases member
  | append_singleton changes last ih =>
      rw [replay_concat]
      cases last with
      | apply added =>
          refine (mem_seenTrust_apply (replay changes) added target).trans ?_
          rw [ih]
          constructor
          · intro either
            rcases either with trusts | ⟨replica, member, trusts⟩
            · exact ⟨added, List.mem_append_right _ (List.mem_singleton.mpr rfl), trusts⟩
            · exact ⟨replica, List.mem_append_left _ member, trusts⟩
          · intro given
            obtain ⟨replica, member, trusts⟩ := given
            rcases List.mem_append.mp member with before | last
            · exact .inr ⟨replica, before, trusts⟩
            · obtain ⟨rfl⟩ := List.mem_singleton.mp last
              exact .inl trusts
      | delete name =>
          change target ∈ ((replay changes).delete name).2.seenTrust ↔ _
          rw [seenTrust_delete, ih]
          simp

/-! ### Answers -/

/-- The index answers each question as the held replicas do. -/
structure AnswersAs (index : DomainIndex) (held : String → Option Replica) : Prop where
  get : ∀ name, index.get? name = held name
  contains : ∀ name, index.contains name = (held name).isSome
  size : (index.size : ℕ∞) = {name | (held name).isSome}.encard
  isEmpty : index.isEmpty = true ↔ ∀ name, held name = none
  applied : ∀ replica, (index.apply replica).1 = held replica.name
  deleted : ∀ name, (index.delete name).1 = held name
  isTrustTarget : ∀ target, index.isTrustTarget target = true ↔
    ∃ name replica, held name = some replica ∧ replica.Trusts target
  delegators_sorted : ∀ target, (index.delegators target).Pairwise (· < ·)
  mem_delegators : ∀ target name, name ∈ index.delegators target ↔
    ∃ replica, held name = some replica ∧ replica.name = name ∧ replica.Trusts target
  liveTrustTargets : (index.liveTrustTargets : ℕ∞) =
    {target | ∃ name replica, held name = some replica ∧ replica.Trusts target}.encard
  cursor_empty : index.latestCursor = "" ↔
    (∀ name, held name = none) ∨ Newest held Timestamp.epoch
  cursor : ∀ time, Newest held time → time ≠ Timestamp.epoch →
    index.latestCursor = time.wholeSeconds.render

theorem newest_of_latest? {index : DomainIndex} {latest : Timestamp}
    (found : Timestamp.latest?
      (index.domains.values.map fun replica => replica.snapshot.domain.modified) = some latest) :
    Newest index.get? latest := by
  obtain ⟨member, bound⟩ := Timestamp.latest?_spec found
  constructor
  · obtain ⟨replica, inValues, modified⟩ := List.mem_map.mp member
    obtain ⟨name, held⟩ := (index.domains.mem_values_iff replica).mp inValues
    exact ⟨name, replica, held, modified⟩
  · intro name replica held
    have inValues := (index.domains.mem_values_iff replica).mpr ⟨name, held⟩
    exact bound _ (List.mem_map.mpr ⟨replica, inValues, rfl⟩)

theorem latestCursor_of_none {index : DomainIndex}
    (noTimes : Timestamp.latest?
      (index.domains.values.map fun replica => replica.snapshot.domain.modified) = none) :
    index.latestCursor = "" := by
  unfold latestCursor
  simp only [noTimes]

theorem latestCursor_of_newest {index : DomainIndex} {time : Timestamp}
    (newest : Newest index.get? time) :
    index.latestCursor =
      if time = Timestamp.epoch then "" else time.wholeSeconds.render := by
  unfold latestCursor
  cases found : Timestamp.latest?
      (index.domains.values.map fun replica => replica.snapshot.domain.modified) with
  | none =>
      obtain ⟨⟨name, replica, held, _⟩, _⟩ := newest
      have inValues := (index.domains.mem_values_iff replica).mpr ⟨name, held⟩
      have nothing := List.map_eq_nil_iff.mp ((Timestamp.latest?_eq_none_iff _).mp found)
      rw [nothing] at inValues
      cases inValues
  | some latest =>
      obtain rfl := newest.unique (newest_of_latest? found)
      simp only [found, Timestamp.render, Timestamp.write_wholeSeconds]

theorem latestCursor_eq_empty_iff (index : DomainIndex) :
    index.latestCursor = "" ↔
      (∀ name, index.get? name = none) ∨ Newest index.get? Timestamp.epoch := by
  cases found : Timestamp.latest?
      (index.domains.values.map fun replica => replica.snapshot.domain.modified) with
  | none =>
      have noValues := List.map_eq_nil_iff.mp ((Timestamp.latest?_eq_none_iff _).mp found)
      have nothing : ∀ name, index.get? name = none := by
        intro name
        refine Option.eq_none_iff_forall_ne_some.mpr fun replica held => ?_
        have inValues := (index.domains.mem_values_iff replica).mpr ⟨name, held⟩
        rw [noValues] at inValues
        cases inValues
      exact ⟨fun _ => .inl nothing, fun _ => latestCursor_of_none found⟩
  | some latest =>
      have newest := newest_of_latest? found
      rw [latestCursor_of_newest newest]
      by_cases isEpoch : latest = Timestamp.epoch
      · rw [if_pos isEpoch]
        exact ⟨fun _ => .inr (isEpoch ▸ newest), fun _ => rfl⟩
      · rw [if_neg isEpoch]
        constructor
        · intro empty
          have written := congrArg String.toList empty
          rw [Timestamp.render, String.toList_ofList] at written
          exact absurd written latest.wholeSeconds.write_ne_nil
        · intro either
          rcases either with nothing | atEpoch
          · obtain ⟨⟨name, replica, held, _⟩, _⟩ := newest
            rw [nothing name] at held
            cases held
          · exact absurd (newest.unique atEpoch) isEpoch

theorem Consistent.mem_delegators_iff {index : DomainIndex} (consistent : index.Consistent)
    (target name : String) :
    name ∈ index.delegators target ↔
      ∃ replica, index.get? name = some replica ∧ replica.name = name ∧
        replica.Trusts target := by
  unfold delegators
  rw [Text.mem_sorted]
  refine (consistent.linked target name).trans ?_
  constructor
  · intro given
    obtain ⟨replica, held, trusts⟩ := given
    exact ⟨replica, held, consistent.named name replica held, trusts⟩
  · intro given
    obtain ⟨replica, held, _, trusts⟩ := given
    exact ⟨replica, held, trusts⟩

theorem Consistent.answers {index : DomainIndex} (consistent : index.Consistent) :
    index.AnswersAs index.get? where
  get := fun _ => rfl
  contains := fun _ => rfl
  size := (Table.encard_keys index.domains).symm
  isEmpty := index.domains.isEmpty_iff
  applied := index.apply_prior
  deleted := index.delete_prior
  isTrustTarget := consistent.isTrustTarget_iff
  delegators_sorted := fun target => Text.sorted_strict (consistent.tidy.nodup target)
  mem_delegators := consistent.mem_delegators_iff
  liveTrustTargets := by
    unfold liveTrustTargets
    rw [← Table.encard_keys index.byTrust]
    congr 1
    ext target
    exact consistent.isTrustTarget_iff target
  cursor_empty := index.latestCursor_eq_empty_iff
  cursor := by
    intro time newest notEpoch
    rw [latestCursor_of_newest newest, if_neg notEpoch]

/-- Whatever was put into the index and deleted from it, it answers as the replicas
do that were last put under their names; the trust targets it ever saw are those of
all replicas that were put there, and its cursor does not depend on their order. -/
theorem replay_answers (changes : List IndexChange) :
    (replay changes).AnswersAs (lastApplied changes) ∧
      (replay changes).trustTargets.Pairwise (· < ·) ∧
      (∀ target, target ∈ (replay changes).trustTargets ↔
        ∃ replica, .apply replica ∈ changes ∧ replica.Trusts target) ∧
      ∀ others : List IndexChange, lastApplied others = lastApplied changes →
        (replay others).latestCursor = (replay changes).latestCursor := by
  have consistent := replay_consistent changes
  have same : ∀ changes, (replay changes).get? = lastApplied changes :=
    fun changes => funext (get?_replay changes)
  refine ⟨same changes ▸ consistent.answers, Text.sorted_strict consistent.seenNodup, ?_, ?_⟩
  · intro target
    unfold trustTargets
    rw [Text.mem_sorted]
    exact mem_seenTrust_replay changes target
  · intro others sameHeld
    have sameViews : (replay others).get? = (replay changes).get? := by
      rw [same others, same changes, sameHeld]
    by_cases empty : (replay changes).latestCursor = ""
    · rw [empty, latestCursor_eq_empty_iff, sameViews]
      exact (latestCursor_eq_empty_iff _).mp empty
    · cases found : Timestamp.latest?
          ((replay changes).domains.values.map fun replica => replica.snapshot.domain.modified) with
      | none => exact absurd (latestCursor_of_none found) empty
      | some latest =>
          have newest := newest_of_latest? found
          rw [latestCursor_of_newest newest, latestCursor_of_newest (sameViews ▸ newest)]

end DomainIndex

end PolicyReplica
