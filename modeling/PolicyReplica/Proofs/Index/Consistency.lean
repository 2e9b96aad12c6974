import Mathlib.Data.List.Nodup
import PolicyReplica.Index.Domains

/-
The two sides of the replica index agree.

The index of trust targets holds a replica under a target exactly if the replica
trusts it, and holds no target without a replica. Links to new targets are made
before links to dropped ones are removed, so that both have to be seen together.
-/

namespace PolicyReplica

def Replica.Trusts (replica : Replica) (target : String) : Prop :=
  target ≠ "" ∧ ∃ role ∈ replica.snapshot.domain.roles, role.trust = some target

theorem Snapshot.mem_trustDomains (snapshot : Snapshot) (target : String) :
    target ∈ snapshot.trustDomains ↔
      target ≠ "" ∧ ∃ role ∈ snapshot.domain.roles, role.trust = some target := by
  unfold trustDomains
  rw [List.mem_filterMap]
  constructor
  · intro given
    obtain ⟨role, member, trusted⟩ := given
    obtain ⟨found, filled⟩ := Option.filter_eq_some_iff.mp trusted
    exact ⟨by simpa using filled, role, member, found⟩
  · intro given
    obtain ⟨filled, role, member, found⟩ := given
    exact ⟨role, member, Option.filter_eq_some_iff.mpr ⟨found, by simpa using filled⟩⟩

theorem Replica.mem_trustDomains (replica : Replica) (target : String) :
    target ∈ replica.trustDomains ↔ replica.Trusts target :=
  replica.snapshot.mem_trustDomains target

namespace DomainIndex

/-! ### Links -/

def linkedTo (byTrust : Table String (List String)) (target : String) : List String :=
  (byTrust.get? target).getD []

/-- Each target that is held has replicas linked to it, and each of them once. -/
def Tidy (byTrust : Table String (List String)) : Prop :=
  ∀ target names, byTrust.get? target = some names → names ≠ [] ∧ names.Nodup

theorem Tidy.nodup {byTrust : Table String (List String)} (tidy : Tidy byTrust)
    (target : String) : (linkedTo byTrust target).Nodup := by
  unfold linkedTo
  cases found : byTrust.get? target with
  | none => exact List.nodup_nil
  | some names => exact (tidy target names found).2

theorem linkedTo_link (name : String) (byTrust : Table String (List String))
    (target other : String) :
    linkedTo (link name byTrust target) other =
      if other = target then (linkedTo byTrust target).insert name else linkedTo byTrust other := by
  unfold linkedTo link
  rw [Table.get?_insert]
  by_cases same : other = target
  · rw [if_pos same, if_pos same, Option.getD_some]
  · rw [if_neg same, if_neg same]

theorem linkedTo_unlink (name : String) (byTrust : Table String (List String))
    (target other : String) :
    linkedTo (unlink name byTrust target) other =
      if other = target then (linkedTo byTrust target).erase name else linkedTo byTrust other := by
  unfold linkedTo unlink
  cases found : byTrust.get? target with
  | none =>
      by_cases same : other = target
      · simp [same, found]
      · simp [same]
  | some names =>
      cases remaining : names.erase name with
      | nil =>
          by_cases same : other = target
          · simp [same, remaining]
          · simp [same, remaining, Table.get?_erase]
      | cons first rest =>
          by_cases same : other = target
          · simp [same, remaining]
          · simp [same, remaining, Table.get?_insert]

theorem Tidy.link {byTrust : Table String (List String)} (tidy : Tidy byTrust)
    (name target : String) : Tidy (link name byTrust target) := by
  intro other names found
  unfold DomainIndex.link at found
  rw [Table.get?_insert] at found
  by_cases same : other = target
  · rw [if_pos same] at found
    obtain rfl := Option.some.inj found
    refine ⟨List.ne_nil_of_mem List.mem_insert_self, ?_⟩
    exact (tidy.nodup target).insert
  · rw [if_neg same] at found
    exact tidy other names found

theorem Tidy.unlink {byTrust : Table String (List String)} (tidy : Tidy byTrust)
    (name target : String) : Tidy (unlink name byTrust target) := by
  intro other names found
  unfold DomainIndex.unlink at found
  cases before : byTrust.get? target with
  | none =>
      rw [before] at found
      exact tidy other names found
  | some delegators =>
      rw [before] at found
      cases remaining : delegators.erase name with
      | nil =>
          simp only [remaining, Table.get?_erase] at found
          by_cases same : other = target
          · rw [if_pos same] at found
            cases found
          · rw [if_neg same] at found
            exact tidy other names found
      | cons first rest =>
          simp only [remaining, Table.get?_insert] at found
          by_cases same : other = target
          · rw [if_pos same] at found
            obtain rfl := Option.some.inj found
            refine ⟨List.cons_ne_nil first rest, ?_⟩
            rw [← remaining]
            exact (tidy target delegators before).2.erase name
          · rw [if_neg same] at found
            exact tidy other names found

theorem Tidy.link_all {byTrust : Table String (List String)} (tidy : Tidy byTrust)
    (name : String) (targets : List String) :
    Tidy (targets.foldl (DomainIndex.link name) byTrust) := by
  induction targets generalizing byTrust with
  | nil => exact tidy
  | cons target rest ih => exact ih (tidy.link name target)

theorem Tidy.unlink_all {byTrust : Table String (List String)} (tidy : Tidy byTrust)
    (name : String) (targets : List String) :
    Tidy (targets.foldl (DomainIndex.unlink name) byTrust) := by
  induction targets generalizing byTrust with
  | nil => exact tidy
  | cons target rest ih => exact ih (tidy.unlink name target)

theorem mem_linkedTo_link_all (name : String) (targets : List String)
    (byTrust : Table String (List String)) (target other : String) :
    other ∈ linkedTo (targets.foldl (link name) byTrust) target ↔
      other ∈ linkedTo byTrust target ∨ other = name ∧ target ∈ targets := by
  induction targets generalizing byTrust with
  | nil => simp
  | cons first rest ih =>
      rw [List.foldl_cons, ih, linkedTo_link]
      by_cases same : target = first
      · subst same
        simp only [if_true, List.mem_insert_iff, List.mem_cons, true_or, and_true]
        constructor
        · intro either
          rcases either with (here | before) | ⟨here, _⟩
          · exact .inr here
          · exact .inl before
          · exact .inr here
        · intro either
          rcases either with before | here
          · exact .inl (.inr before)
          · exact .inl (.inl here)
      · rw [if_neg same, List.mem_cons, or_iff_right same]

/-- Removing a link twice is removing it once, because each replica is linked
once. -/
theorem mem_linkedTo_unlink_all (name : String) (targets : List String)
    {byTrust : Table String (List String)} (tidy : Tidy byTrust) (target other : String) :
    other ∈ linkedTo (targets.foldl (unlink name) byTrust) target ↔
      other ∈ linkedTo byTrust target ∧ ¬ (other = name ∧ target ∈ targets) := by
  induction targets generalizing byTrust with
  | nil => simp
  | cons first rest ih =>
      rw [List.foldl_cons, ih (tidy.unlink name first), linkedTo_unlink]
      by_cases same : target = first
      · subst same
        simp only [if_true, (tidy.nodup target).mem_erase_iff, List.mem_cons, true_or, and_true]
        constructor
        · intro given
          obtain ⟨⟨different, before⟩, _⟩ := given
          exact ⟨before, different⟩
        · intro given
          obtain ⟨before, different⟩ := given
          exact ⟨⟨different, before⟩, fun both => different both.1⟩
      · rw [if_neg same, List.mem_cons, or_iff_right same]

/-! ### Changes of the index -/

theorem get?_apply (index : DomainIndex) (replica : Replica) (name : String) :
    (index.apply replica).2.get? name =
      if name = replica.name then some replica else index.get? name :=
  Table.get?_insert index.domains replica.name name replica

theorem get?_delete (index : DomainIndex) (deleted name : String) :
    (index.delete deleted).2.get? name = if name = deleted then none else index.get? name := by
  unfold delete get?
  cases found : index.domains.get? deleted with
  | none =>
      by_cases same : name = deleted
      · rw [if_pos same, same]
        exact found
      · rw [if_neg same]
  | some prior => exact Table.get?_erase index.domains deleted name

theorem apply_prior (index : DomainIndex) (replica : Replica) :
    (index.apply replica).1 = index.get? replica.name := rfl

theorem delete_prior (index : DomainIndex) (name : String) :
    (index.delete name).1 = index.get? name := by
  unfold delete get?
  cases index.domains.get? name <;> rfl

private theorem mem_insert_all (targets seen : List String) (target : String) :
    target ∈ targets.foldl (fun seen target => seen.insert target) seen ↔
      target ∈ targets ∨ target ∈ seen := by
  induction targets generalizing seen with
  | nil => simp
  | cons first rest ih =>
      rw [List.foldl_cons, ih, List.mem_insert_iff, List.mem_cons]
      constructor
      · intro either
        rcases either with later | here | before
        · exact .inl (.inr later)
        · exact .inl (.inl here)
        · exact .inr before
      · intro either
        rcases either with (here | later) | before
        · exact .inr (.inl here)
        · exact .inl later
        · exact .inr (.inr before)

private theorem nodup_insert_all (targets seen : List String) (nodup : seen.Nodup) :
    (targets.foldl (fun seen target => seen.insert target) seen).Nodup := by
  induction targets generalizing seen with
  | nil => exact nodup
  | cons first rest ih => exact ih _ nodup.insert

theorem mem_seenTrust_apply (index : DomainIndex) (replica : Replica) (target : String) :
    target ∈ (index.apply replica).2.seenTrust ↔
      replica.Trusts target ∨ target ∈ index.seenTrust := by
  rw [← replica.mem_trustDomains]
  exact mem_insert_all replica.trustDomains index.seenTrust target

theorem seenTrust_delete (index : DomainIndex) (name : String) :
    (index.delete name).2.seenTrust = index.seenTrust := by
  unfold delete
  cases index.domains.get? name <;> rfl

/-! ### Consistency -/

structure Consistent (index : DomainIndex) : Prop where
  named : ∀ name replica, index.get? name = some replica → replica.name = name
  tidy : Tidy index.byTrust
  linked : ∀ target name, name ∈ linkedTo index.byTrust target ↔
    ∃ replica, index.get? name = some replica ∧ replica.Trusts target
  seenNodup : index.seenTrust.Nodup

theorem empty_consistent : empty.Consistent where
  named := by
    intro name replica found
    cases found
  tidy := by
    intro target names found
    cases found
  linked := by
    intro target name
    constructor
    · intro member
      cases member
    · intro given
      obtain ⟨replica, found, _⟩ := given
      cases found
  seenNodup := List.nodup_nil

theorem Consistent.apply {index : DomainIndex} (consistent : index.Consistent)
    (replica : Replica) : (index.apply replica).2.Consistent := by
  have linkedAll : Tidy (replica.trustDomains.foldl (link replica.name) index.byTrust) :=
    consistent.tidy.link_all replica.name replica.trustDomains
  refine ⟨?_, linkedAll.unlink_all replica.name _, ?_, ?_⟩
  · intro name other found
    rw [get?_apply] at found
    by_cases same : name = replica.name
    · rw [if_pos same] at found
      rw [same, Option.some.inj found]
    · rw [if_neg same] at found
      exact consistent.named name other found
  · intro target name
    refine (mem_linkedTo_unlink_all replica.name _ linkedAll target name).trans ?_
    rw [mem_linkedTo_link_all, consistent.linked, get?_apply]
    by_cases same : name = replica.name
    · subst same
      rw [if_pos rfl]
      simp only [true_and, List.mem_filter, Bool.not_eq_true', Option.some.injEq,
        exists_eq_left', Replica.mem_trustDomains]
      have dropped :
          target ∈ ((index.domains.get? replica.name).map Replica.trustDomains).getD [] ↔
            ∃ prior, index.get? replica.name = some prior ∧ prior.Trusts target := by
        change target ∈ ((index.get? replica.name).map Replica.trustDomains).getD [] ↔ _
        cases index.get? replica.name with
        | none => simp
        | some prior => simp [Replica.mem_trustDomains]
      rw [dropped, List.contains_eq_mem, decide_eq_false_iff_not, Replica.mem_trustDomains]
      by_cases trusts : replica.Trusts target
      · simp [trusts]
      · simp [trusts]
    · rw [if_neg same]
      simp [same]
  · exact nodup_insert_all replica.trustDomains index.seenTrust consistent.seenNodup

theorem Consistent.delete {index : DomainIndex} (consistent : index.Consistent)
    (deleted : String) : (index.delete deleted).2.Consistent := by
  have named : ∀ name replica, (index.delete deleted).2.get? name = some replica →
      replica.name = name := by
    intro name replica found
    rw [get?_delete] at found
    by_cases same : name = deleted
    · rw [if_pos same] at found
      cases found
    · rw [if_neg same] at found
      exact consistent.named name replica found
  cases found : index.domains.get? deleted with
  | none =>
      have unchanged : (index.delete deleted).2 = index := by
        unfold DomainIndex.delete
        rw [found]
      rw [unchanged]
      exact consistent
  | some prior =>
      have byTrust : (index.delete deleted).2.byTrust =
          prior.trustDomains.foldl (unlink deleted) index.byTrust := by
        unfold DomainIndex.delete
        rw [found]
      refine ⟨named, ?_, ?_, ?_⟩
      · rw [byTrust]
        exact consistent.tidy.unlink_all deleted prior.trustDomains
      · intro target name
        rw [byTrust, mem_linkedTo_unlink_all _ _ consistent.tidy, consistent.linked, get?_delete]
        by_cases same : name = deleted
        · subst same
          have here : index.get? name = some prior := found
          simp [here, Replica.mem_trustDomains]
        · simp [same]
      · rw [seenTrust_delete]
        exact consistent.seenNodup

theorem Consistent.isTrustTarget_iff {index : DomainIndex} (consistent : index.Consistent)
    (target : String) :
    index.isTrustTarget target = true ↔
      ∃ name replica, index.get? name = some replica ∧ replica.Trusts target := by
  unfold isTrustTarget Table.contains
  constructor
  · intro held
    obtain ⟨names, found⟩ := Option.isSome_iff_exists.mp held
    obtain ⟨name, member⟩ := List.exists_mem_of_ne_nil names (consistent.tidy target names found).1
    have linked : name ∈ linkedTo index.byTrust target := by
      unfold linkedTo
      rw [found]
      exact member
    exact ⟨name, (consistent.linked target name).mp linked⟩
  · intro given
    obtain ⟨name, trusted⟩ := given
    have linked := (consistent.linked target name).mpr trusted
    unfold linkedTo at linked
    cases found : index.byTrust.get? target with
    | none =>
        rw [found] at linked
        cases linked
    | some names => rfl

end DomainIndex

end PolicyReplica
