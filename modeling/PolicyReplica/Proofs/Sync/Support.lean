import Mathlib.Data.Fintype.Card
import Mathlib.Data.Set.Finite.Basic
import Mathlib.Logic.Relation
import PolicyReplica.Proofs.Names.Admission
import PolicyReplica.Proofs.Resync.Convergence

/-
What keeps replicas alive.

A domain that is no root is valid as long as some replica trusts it; it does not matter what
that replica is kept for. Main statement: when syncs change nothing any more, each replica is
there for a root or for a circle of replicas that trust each other. Such a circle stays after
the root that it was replicated for is gone.
-/

namespace PolicyReplica

open Relation

theorem DomainIndex.finite_contained (index : DomainIndex) :
    {domain | index.contains domain = true}.Finite :=
  Set.finite_of_encard_eq_coe (Table.encard_keys index.domains)

theorem DomainIndex.Delegates.contained {index : DomainIndex} {source target : String}
    (delegates : index.Delegates source target) : index.contains source = true := by
  obtain ⟨replica, found, _⟩ := delegates
  exact congrArg Option.isSome found

namespace Controller

variable {controller : Controller} {domain : String}

/-- Holds of a domain that a chain of replicas leads to, each trusting the next one, from a
root or from a replica on a circle. -/
def Supported (controller : Controller) (domain : String) : Prop :=
  ∃ source, controller.index.contains source = true ∧
    (controller.IsRoot source ∨ TransGen controller.index.Delegates source source) ∧
      ReflTransGen controller.index.Delegates source domain

theorem Supported.delegate {target : String} (supported : controller.Supported domain)
    (delegates : controller.index.Delegates domain target) : controller.Supported target := by
  obtain ⟨source, contained, start, chain⟩ := supported
  exact ⟨source, contained, start, chain.tail delegates⟩

abbrev Stray (controller : Controller) : Type :=
  { domain // controller.index.contains domain = true ∧ ¬ controller.Supported domain }

theorem stray_wellFounded (controller : Controller) :
    WellFounded fun source target : controller.Stray =>
      TransGen controller.index.Delegates source.val target.val := by
  have finite : Finite controller.Stray :=
    (controller.index.finite_contained.subset fun _ stray => stray.1).to_subtype
  have transitive : IsTrans controller.Stray fun source target =>
      TransGen controller.index.Delegates source.val target.val :=
    ⟨fun _ _ _ first second => first.trans second⟩
  have irreflexive : Std.Irrefl fun source target : controller.Stray =>
      TransGen controller.index.Delegates source.val target.val :=
    ⟨fun stray circle => stray.2.2 ⟨stray.val, stray.2.1, .inr circle, .refl⟩⟩
  exact Finite.wellFounded_of_trans_of_irrefl _

/-- If all replicas are of roots or trusted, all are supported: going back from one that is not
leads to others that are not, never twice to the same one. -/
theorem supported_of_trusted
    (kept : ∀ domain, controller.index.contains domain = true →
      controller.IsRoot domain ∨ ∃ source, controller.index.Delegates source domain)
    (contained : controller.index.contains domain = true) : controller.Supported domain := by
  by_contra unsupported
  obtain ⟨first, -, isFirst⟩ := controller.stray_wellFounded.has_min Set.univ
    ⟨⟨domain, contained, unsupported⟩, trivial⟩
  rcases kept first.val first.2.1 with root | ⟨source, delegates⟩
  · exact first.2.2 ⟨first.val, first.2.1, .inl root, .refl⟩
  · have stray : ¬ controller.Supported source :=
      fun supported => first.2.2 (supported.delegate delegates)
    exact isFirst ⟨source, delegates.contained, stray⟩ trivial (.single delegates)

end Controller

namespace Deployment

variable {σ : Type} [ApiBackend σ] {deployment : Deployment σ} {domain : String}

theorem removeReplica_ne_unchanged (deployment : Deployment σ) (domain : String) :
    (deployment.removeReplica domain).1 ≠ .ok .unchanged := by
  rcases removed : deployment.perform (Store.remove domain) with ⟨result, after⟩
  unfold removeReplica
  rw [removed]
  cases result with
  | ok present =>
      cases present with
      | true => exact fun same => nomatch same
      | false => exact fun same => nomatch same
  | error error => exact fun same => nomatch same

theorem isValid_of_unchanged {now : Nat} {fetch : String → FetchAnswer}
    (unchanged : (deployment.sync now domain fetch).1 = .ok .unchanged) :
    deployment.controller.isValid domain = true := by
  by_contra invalid
  unfold sync at unchanged
  rw [if_neg invalid] at unchanged
  exact deployment.removeReplica_ne_unchanged domain unchanged

/-- When no sync changes its replica any more, each replica is supported by a root or by a
circle of replicas, whatever the service and the API server are. -/
theorem unchanged_supported (changes : List IndexChange) (deployment : Deployment σ) (now : Nat)
    (fetch : String → FetchAnswer)
    (indexed : deployment.controller.index = DomainIndex.replay changes)
    (settled : ∀ domain, deployment.controller.index.contains domain = true →
      (deployment.sync now domain fetch).1 = .ok .unchanged) :
    ∀ domain, deployment.controller.index.contains domain = true →
      deployment.controller.Supported domain := by
  have consistent : deployment.controller.index.Consistent := by
    rw [indexed]
    exact DomainIndex.replay_consistent changes
  intro domain
  refine Controller.supported_of_trusted fun domain contained => ?_
  have valid := isValid_of_unchanged (settled domain contained)
  exact (Controller.root_or_trusted_of_isValid valid).imp_right
    (consistent.isTrustTarget_iff_delegates domain).mp

def withLoop (name : String) : FetchAnswer :=
  if name = "loop" then .answered (some (delegating "loop" (some "loop"))) else twoDomains name

def loopedChanges : List IndexChange :=
  [.apply (.ofSnapshot (delegating "web.shop" (some "auth.shop"))),
    .apply (.ofSnapshot (delegating "auth.shop" none)),
    .apply (.ofSnapshot (delegating "loop" (some "loop")))]

/-- All domains are replicated, but there is a namespace for one of them only. -/
def looped : Deployment MemoryServer :=
  { controller := { oneNamespace.controller with index := .replay loopedChanges }
    server := { MemoryServer.empty with objects := (DomainIndex.replay loopedChanges).domains } }

theorem looped_domains {domain : String}
    (contained : looped.controller.index.contains domain = true) :
    domain = "web.shop" ∨ domain = "auth.shop" ∨ domain = "loop" := by
  have listed : domain ∈ ["web.shop", "auth.shop", "loop"] :=
    (looped.controller.index.domains.mem_keys_iff domain).mpr contained
  simpa using listed

theorem looped_unchanged (now : Nat) {domain : String}
    (contained : looped.controller.index.contains domain = true) :
    looped.sync now domain withLoop = (.ok .unchanged, looped) := by
  rcases looped_domains contained with rfl | rfl | rfl
  · rfl
  · rfl
  · rfl

theorem looped_served {domain : String}
    (contained : looped.controller.index.contains domain = true) :
    withLoop domain =
      .answered ((looped.controller.index.get? domain).map Replica.snapshot) := by
  rcases looped_domains contained with rfl | rfl | rfl
  · rfl
  · rfl
  · rfl

theorem unchanged_supported_looped :
    (∀ domain, looped.controller.index.contains domain = true →
      (looped.sync 0 domain withLoop).1 = .ok .unchanged) ∧
    looped.controller.Supported "auth.shop" ∧ looped.controller.Supported "loop" := by
  have settled : ∀ domain, looped.controller.index.contains domain = true →
      (looped.sync 0 domain withLoop).1 = .ok .unchanged := by
    intro domain contained
    rw [looped_unchanged 0 contained]
  have supported := unchanged_supported loopedChanges looped 0 withLoop rfl settled
  exact ⟨settled, supported "auth.shop" (by decide), supported "loop" (by decide)⟩

theorem eq_of_chain_to_loop {source : String}
    (chain : ReflTransGen looped.controller.index.Delegates source "loop") : source = "loop" := by
  have consistent : looped.controller.index.Consistent :=
    DomainIndex.replay_consistent loopedChanges
  induction chain using ReflTransGen.head_induction_on with
  | refl => rfl
  | head delegates _ same =>
      subst same
      have linked : _ ∈ ["loop"] := (consistent.linked "loop" _).mpr delegates
      exact List.mem_singleton.mp linked

theorem looped_not_isRoot : ¬ looped.controller.IsRoot "loop" := by
  rintro (admin | system | ⟨name, live, _, spelled⟩)
  · exact absurd admin (by decide)
  · exact absurd system (by decide)
  · have only : name ∈ ["web-shop"] := List.contains_iff_mem.mp live
    rw [List.mem_singleton.mp only] at spelled
    exact absurd spelled (by decide)

/-- A replica that trusts itself stays, though no root leads to it. -/
theorem unchanged_without_root :
    (∀ name, looped.server.objects.get? name = looped.controller.index.get? name) ∧
    (∀ now domain, looped.controller.index.contains domain = true →
      withLoop domain = .answered ((looped.controller.index.get? domain).map Replica.snapshot) ∧
        looped.sync now domain withLoop = (.ok .unchanged, looped)) ∧
    looped.controller.index.contains "loop" = true ∧
    ¬ ∃ root, looped.controller.IsRoot root ∧
      ReflTransGen looped.controller.index.Delegates root "loop" := by
  refine ⟨fun _ => rfl, fun now domain contained => ?_, by decide, ?_⟩
  · exact ⟨looped_served contained, looped_unchanged now contained⟩
  · rintro ⟨root, isRoot, chain⟩
    rw [eq_of_chain_to_loop chain] at isRoot
    exact looped_not_isRoot isRoot

end Deployment

end PolicyReplica
