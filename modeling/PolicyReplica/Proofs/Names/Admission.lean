import PolicyReplica.Controller.Watches
import PolicyReplica.Proofs.Index.Replay
import PolicyReplica.Proofs.Names.RoundTrip

/-
Which domains are valid.

Validity is decided from the domain alone: its namespace is computed and looked up, and the
targets of trust are looked up in an index. Main statement: this amounts to a search through
the system namespaces, the live namespaces and the replicas, except that the domain of a
system namespace that is excluded counts only if a replica trusts it, even if it is also that
of a live namespace.
-/

namespace PolicyReplica

def DomainIndex.Delegates (index : DomainIndex) (source target : String) : Prop :=
  ∃ replica, index.get? source = some replica ∧ replica.Trusts target

theorem DomainIndex.Consistent.isTrustTarget_iff_delegates {index : DomainIndex}
    (consistent : index.Consistent) (target : String) :
    index.isTrustTarget target = true ↔ ∃ source, index.Delegates source target :=
  consistent.isTrustTarget_iff target

theorem NamespaceIndex.contains_apply (index : NamespaceIndex) (name other : String) :
    (index.apply name).2.contains other = true ↔ other = name ∨ index.contains other = true := by
  unfold apply contains
  by_cases known : name ∈ index.members
  · rw [dif_pos known]
    refine ⟨.inr, fun either => either.elim ?_ id⟩
    rintro rfl
    simpa using known
  · rw [dif_neg known]
    simp

def WatchReport.present? {α : Type} : WatchReport α → Option α
  | .added object | .updated _ object => some object
  | .deleted _ _ | .synced => none

namespace Controller

variable {controller : Controller} {domain : String}

/-- No namespace makes the domain of an excluded system namespace valid. -/
theorem isValid_of_excluded (system : controller.names.OfSystem true domain) :
    controller.isValid domain = controller.index.isTrustTarget domain := by
  have excluded := system.namespaceOf_excluded
  have noNamespace : controller.hasNamespace domain = false := by
    unfold hasNamespace
    simp [excluded]
  rw [Bool.eq_iff_iff, isValid_eq_true_iff, noNamespace]
  refine ⟨?_, fun trusted => .inr (.inr (.inr trusted))⟩
  rintro (admin | other | live | trusted)
  · exact absurd admin system.not_admin
  · rw [other.namespaceOf_excluded] at excluded
    cases excluded
  · cases live
  · exact trusted

theorem isValid_of_not_excluded
    (dotFree : ∀ name, controller.namespaces.contains name = true → '.' ∉ name.toList)
    (apart : ¬ controller.names.OfSystem true domain) :
    controller.isValid domain = true ↔
      controller.names.adminDomain = some domain ∨ controller.names.OfSystem false domain ∨
        (∃ name, controller.namespaces.contains name = true ∧
          controller.names.isExcluded name = false ∧ controller.names.domainOf name = domain) ∨
        controller.index.isTrustTarget domain = true := by
  constructor
  · intro valid
    exact (isValid_eq_true_iff.mp valid).imp_right
      (Or.imp_right (Or.imp_left exists_of_hasNamespace))
  · rintro (admin | system | ⟨name, live, kept, rfl⟩ | trusted)
    · exact isValid_eq_true_iff.mpr (.inl admin)
    · exact isValid_eq_true_iff.mpr (.inr (.inl system))
    · exact (isValid_domainOf live kept (dotFree name live)).resolve_right apart
    · exact isValid_eq_true_iff.mpr (.inr (.inr (.inr trusted)))

theorem enqueueNamespace_eq (now : Nat) (controller : Controller) (name : String) :
    controller.enqueueNamespace now name =
      { controller with
        queue :=
          if controller.names.isExcluded name then controller.queue
          else (controller.enqueue now (controller.names.domainOf name)).queue } := by
  unfold enqueueNamespace
  by_cases excluded : controller.names.isExcluded name = true
  · rw [if_pos excluded, if_pos excluded]
  · rw [if_neg excluded, if_neg excluded]
    rfl

theorem acceptNamespace_of_present (now : Nat) (controller : Controller)
    {report : WatchReport Namespace} {object : Namespace}
    (present : report.present? = some object) :
    controller.acceptNamespace now report = controller.applyNamespace now object := by
  cases report with
  | added added => exact congrArg (controller.applyNamespace now) (Option.some.inj present)
  | updated old new => exact congrArg (controller.applyNamespace now) (Option.some.inj present)
  | deleted object gone => cases present
  | synced => cases present

/-- What a controller queues for a live namespace is valid, unless it is the domain of an
excluded system namespace. -/
theorem acceptNamespace_queues (now : Nat) {report : WatchReport Namespace} {object : Namespace}
    (present : report.present? = some object)
    (dotFree : '.' ∉ object.metadata.anyName.toList) :
    let name := object.metadata.anyName
    let target := controller.names.domainOf name
    let after := controller.acceptNamespace now report
    after.namespaces.contains name = true ∧
      if controller.names.isExcluded name then after.queue = controller.queue
      else after.queue = (controller.enqueue now target).queue ∧
        (after.isValid target = true ∨ controller.names.OfSystem true target) := by
  intro name target after
  have accepted : after = controller.applyNamespace now object :=
    controller.acceptNamespace_of_present now present
  unfold applyNamespace at accepted
  rw [enqueueNamespace_eq] at accepted
  have live : after.namespaces.contains name = true := by
    rw [accepted]
    exact (controller.namespaces.contains_apply name name).mpr (.inl rfl)
  have names : after.names = controller.names := by rw [accepted]
  refine ⟨live, ?_⟩
  by_cases excluded : controller.names.isExcluded name = true
  · rw [if_pos excluded, accepted]
    exact if_pos excluded
  · rw [if_neg excluded]
    refine ⟨?_, ?_⟩
    · rw [accepted]
      exact if_neg excluded
    · have kept : after.names.isExcluded name = false := by
        rw [names]
        exact Bool.eq_false_iff.mpr excluded
      have valid := isValid_domainOf live kept dotFree
      rw [names] at valid
      exact valid

/-- Whatever was put into the index of replicas and deleted from it, a domain is valid exactly
if it is found by a search: it is the admin domain or that of a system namespace or of a live
namespace, none of them excluded, or some replica trusts it. Only the last counts for the
domain of a system namespace that is excluded. -/
theorem isValid_iff_found (changes : List IndexChange) (controller : Controller)
    (indexed : controller.index = DomainIndex.replay changes)
    (dotFree : ∀ name, controller.namespaces.contains name = true → '.' ∉ name.toList) :
    let names := controller.names
    (∀ domain, names.OfSystem true domain →
      (controller.isValid domain = true ↔
        ∃ source, controller.index.Delegates source domain)) ∧
    (∀ domain, ¬ names.OfSystem true domain →
      (controller.isValid domain = true ↔
        names.adminDomain = some domain ∨ names.OfSystem false domain ∨
          (∃ name, controller.namespaces.contains name = true ∧
            names.isExcluded name = false ∧ names.domainOf name = domain) ∨
          ∃ source, controller.index.Delegates source domain)) ∧
    ∀ now report object, report.present? = some object →
      '.' ∉ object.metadata.anyName.toList →
      let name := object.metadata.anyName
      let after := controller.acceptNamespace now report
      after.namespaces.contains name = true ∧
        if names.isExcluded name then after.queue = controller.queue
        else after.queue = (controller.enqueue now (names.domainOf name)).queue ∧
          (after.isValid (names.domainOf name) = true ∨
            names.OfSystem true (names.domainOf name)) := by
  intro names
  have trusted : ∀ domain, controller.index.isTrustTarget domain = true ↔
      ∃ source, controller.index.Delegates source domain := by
    rw [indexed]
    exact (DomainIndex.replay_consistent changes).isTrustTarget_iff_delegates
  refine ⟨fun domain system => ?_, fun domain apart => ?_, fun now report object present free => ?_⟩
  · rw [isValid_of_excluded system]
    exact trusted domain
  · rw [isValid_of_not_excluded dotFree apart, trusted]
  · exact acceptNamespace_queues now present free

/-- A live namespace whose domain is that of an excluded system namespace, and one that is
listed as such a namespace and is not excluded. -/
def colliding : Controller :=
  { ofSettings
      { adminDomain := some "k8s"
        systemNamespaces := ["kube-system", "kube-public"]
        excludedNamespaces := ["kube-public"] }
      .standard with
    namespaces := ((NamespaceIndex.empty.apply "k8s-kube--public").2.apply "kube-system").2 }

theorem colliding_dotFree (name : String) (live : colliding.namespaces.contains name = true) :
    '.' ∉ name.toList := by
  have either : name = "kube-system" ∨ name = "k8s-kube--public" := by
    have members : name ∈ ["kube-system", "k8s-kube--public"] := List.contains_iff_mem.mp live
    simpa using members
  rcases either with rfl | rfl
  · decide
  · decide

/-- The report of the one namespace queues a domain that is not valid, as no replica trusts it;
the other namespace has a valid domain, but not the one that its name spells. -/
theorem isValid_iff_found_colliding :
    let object : Namespace :=
      { metadata := { Metadata.empty with name := some "k8s-kube--public" } }
    let after := colliding.acceptNamespace 0 (.added object)
    colliding.names.OfSystem true "k8s.kube-public" ∧
      (colliding.isValid "k8s.kube-public" = true ↔
        ∃ source, colliding.index.Delegates source "k8s.kube-public") ∧
      (colliding.isValid "k8s.kube-public" = false ∧
        after.queue = (colliding.enqueue 0 "k8s.kube-public").queue) ∧
      colliding.isValid "k8s.kube-system" = true ∧ colliding.isValid "kube.system" = false := by
  intro object after
  obtain ⟨ofExcluded, _, queues⟩ := isValid_iff_found [] colliding rfl colliding_dotFree
  have system : colliding.names.OfSystem true "k8s.kube-public" :=
    ⟨"k8s", "kube-public", rfl, by decide, by decide, rfl⟩
  have spelled : colliding.names.domainOf object.metadata.anyName = "k8s.kube-public" := by decide
  have queued : after.queue =
      (colliding.enqueue 0 (colliding.names.domainOf object.metadata.anyName)).queue :=
    (queues 0 (.added object) object rfl (by decide)).2.1
  rw [spelled] at queued
  exact ⟨system, ofExcluded _ system, ⟨by decide, queued⟩, by decide, by decide⟩

end Controller

end PolicyReplica
