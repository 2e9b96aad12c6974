import PolicyReplica.Proofs.Index.Replay
import PolicyReplica.Proofs.Resync.Processing

/-
A resync that is worked off leaves the replicas in line with the service.

The invariant says of everything that is not right yet that it is pending: of each root,
of each target of a domain that leads to others, and of each replica. Work ends because
a domain queues its targets anew only while they have no replicas, and the replica of a
domain that leads to others, once there, stays.
-/

namespace PolicyReplica

theorem DomainIndex.contains_congr {index other : DomainIndex} {domain : String}
    (same : other.get? domain = index.get? domain) :
    other.contains domain = index.contains domain :=
  congrArg Option.isSome same

namespace Deployment

variable {start deployment after : Deployment MemoryServer} {fetch : String → FetchAnswer}

theorem SameSetup.trans {first second third : Deployment MemoryServer}
    (left : SameSetup first second) (right : SameSetup second third) : SameSetup first third :=
  ⟨right.names.trans left.names, right.settings.trans left.settings,
    right.namespaces.trans left.namespaces⟩

theorem SameSetup.isRoot {first second : Deployment MemoryServer} (same : SameSetup first second)
    {domain : String} (root : first.controller.IsRoot domain) :
    second.controller.IsRoot domain := by
  unfold Controller.IsRoot
  rw [same.names, same.namespaces]
  exact root

theorem SameSetup.namedApart {first second : Deployment MemoryServer}
    (same : SameSetup first second) (apart : first.controller.NamedApart) :
    second.controller.NamedApart := by
  constructor
  · rw [same.namespaces]
    exact apart.dotFree
  · rw [same.namespaces, same.names]
    exact apart.apart

theorem mem_targets {domain target : String} (member : target ∈ start.targets fetch domain) :
    start.controller.leads domain = true ∧
      ∃ snapshot, start.wanted? fetch domain = some snapshot ∧ target ∈ snapshot.trustDomains := by
  unfold targets at member
  by_cases leads : start.controller.leads domain = true
  · rw [if_pos leads] at member
    cases found : start.wanted? fetch domain with
    | none =>
        rw [found] at member
        cases member
    | some snapshot =>
        rw [found] at member
        exact ⟨leads, snapshot, rfl, member⟩
  · rw [if_neg leads] at member
    cases member

/-- Where a deployment is that works off a resync: what is not right yet is pending. -/
structure Underway (fetch : String → FetchAnswer) (start deployment : Deployment MemoryServer) :
    Prop where
  atWork : deployment.AtWork
  setup : SameSetup start deployment
  known : ∀ domain, deployment.line.Pending domain →
    domain ∈ start.controller.resyncDomains ∨ ∃ source, domain ∈ start.targets fetch source
  roots : ∀ domain, start.controller.IsRoot domain → deployment.line.Pending domain ∨
    deployment.controller.index.Shows domain (start.wanted? fetch domain)
  closed : ∀ source target, target ∈ start.targets fetch source → target ≠ source →
    deployment.line.Pending source ∨ deployment.line.Pending target ∨
      start.wanted? fetch target = none ∨ deployment.controller.index.contains target = true
  each : ∀ domain, deployment.line.Pending domain ∨
    deployment.controller.index.get? domain = none ∨
    deployment.controller.index.Shows domain (start.wanted? fetch domain) ∨
    domain ∉ start.controller.resyncDomains ∧
      deployment.controller.index.get? domain = start.controller.index.get? domain
  held : ∀ domain, deployment.controller.index.contains domain = true →
    start.controller.index.contains domain = true ∨ start.controller.IsRoot domain ∨
      ∃ source, domain ∈ start.targets fetch source

theorem Underway.waited (underway : Underway fetch start deployment) {now later : Nat}
    (waited : Waited deployment after now later) : Underway fetch start after := by
  refine ⟨waited.atWork, underway.setup.trans waited.setup, ?_, ?_, ?_, ?_, ?_⟩
  · intro domain isPending
    exact underway.known domain ((waited.pending domain).mp isPending)
  · intro domain root
    rw [waited.index, waited.pending]
    exact underway.roots domain root
  · intro source target member different
    rw [waited.index, waited.pending, waited.pending]
    exact underway.closed source target member different
  · intro domain
    rw [waited.index, waited.pending]
    exact underway.each domain
  · intro domain present
    rw [waited.index] at present
    exact underway.held domain present

theorem mem_fresh {index : DomainIndex} {domain target : String} :
    target ∈ deployment.fresh fetch domain index ↔
      target ∈ deployment.targets fetch domain ∧ target ≠ domain ∧
        index.contains target = false := by
  unfold fresh
  simp only [List.mem_filter, Bool.and_eq_true, decide_eq_true_eq, Bool.not_eq_true']

theorem Synced.stays {domain other : String} (synced : Synced fetch deployment after domain)
    (different : other ≠ domain) (isPending : deployment.line.Pending other) :
    after.line.Pending other :=
  (synced.pending other different).mpr (.inl isPending)

/-- A domain that leads to others, that is not pending, makes its targets valid. -/
theorem Underway.target_valid (underway : Underway fetch start deployment)
    {source target : String} (member : target ∈ start.targets fetch source)
    (settled : ¬ deployment.line.Pending source) :
    deployment.controller.isValid target = true := by
  obtain ⟨leads, snapshot, found, trusted⟩ := mem_targets member
  have shows := (underway.roots source (.of_leads leads)).resolve_left settled
  rw [found] at shows
  have isTarget := underway.atWork.inStep.consistent.isTrustTarget_of_shows shows trusted
  unfold Controller.isValid
  simp [isTarget]

theorem Underway.shows_of_valid (underway : Underway fetch start deployment) {domain : String}
    (synced : Synced fetch deployment after domain)
    (valid : deployment.controller.isValid domain = true) :
    after.controller.index.Shows domain (start.wanted? fetch domain) := by
  have shows := synced.shows
  rw [if_pos valid, underway.setup.wanted?] at shows
  exact shows

/-- A sync puts one domain right and makes pending what is missing because of it. -/
theorem Underway.synced (underway : Underway fetch start deployment)
    (apart : start.controller.NamedApart) {domain : String}
    (synced : Synced fetch deployment after domain) : Underway fetch start after := by
  refine ⟨synced.atWork, underway.setup.trans synced.setup, ?_, ?_, ?_, ?_, ?_⟩
  · intro other isPending
    by_cases same : other = domain
    · rw [same]
      exact underway.known domain synced.wasPending
    · rcases (synced.pending other same).mp isPending with before | added
      · exact underway.known other before
      · have target := (mem_fresh.mp added).1
        rw [underway.setup.targets] at target
        exact .inr ⟨domain, target⟩
  · intro root isRoot
    by_cases same : root = domain
    · subst same
      have valid : deployment.controller.isValid root = true :=
        (underway.setup.isRoot isRoot).isValid (underway.setup.namedApart apart)
      exact .inr (underway.shows_of_valid synced valid)
    · rcases underway.roots root isRoot with before | shows
      · exact .inl (synced.stays same before)
      · exact .inr (shows.congr (synced.elsewhere root same))
  · intro source target member different
    by_cases isSource : source = domain
    · -- the targets of the synced domain were queued unless they have replicas
      subst isSource
      cases present : after.controller.index.contains target with
      | true => exact .inr (.inr (.inr rfl))
      | false =>
          have added : target ∈ deployment.fresh fetch source after.controller.index := by
            rw [mem_fresh, underway.setup.targets]
            exact ⟨member, different, present⟩
          exact .inr (.inl ((synced.pending target different).mpr (.inr added)))
    · by_cases isPending : deployment.line.Pending source
      · exact .inl (synced.stays isSource isPending)
      · by_cases isTarget : target = domain
        · -- the synced domain is a target: its source was synced before, and trusts it
          subst isTarget
          have valid := underway.target_valid member isPending
          have shows := underway.shows_of_valid synced valid
          cases wanted : start.wanted? fetch target with
          | none => exact .inr (.inr (.inl rfl))
          | some snapshot =>
              rw [wanted] at shows
              exact .inr (.inr (.inr (DomainIndex.contains_of_shows shows)))
        · rcases underway.closed source target member different with
            before | before | unwanted | present
          · exact absurd before isPending
          · exact .inr (.inl (synced.stays isTarget before))
          · exact .inr (.inr (.inl unwanted))
          · have same := DomainIndex.contains_congr (synced.elsewhere target isTarget)
            exact .inr (.inr (.inr (same.trans present)))
  · intro other
    by_cases same : other = domain
    · subst same
      by_cases valid : deployment.controller.isValid other = true
      · exact .inr (.inr (.inl (underway.shows_of_valid synced valid)))
      · have shows := synced.shows
        rw [if_neg valid] at shows
        exact .inr (.inl shows)
    · have unchanged := synced.elsewhere other same
      rcases underway.each other with before | absent | shows | ⟨unqueued, untouched⟩
      · exact .inl (synced.stays same before)
      · exact .inr (.inl (unchanged.trans absent))
      · exact .inr (.inr (.inl (shows.congr unchanged)))
      · exact .inr (.inr (.inr ⟨unqueued, unchanged.trans untouched⟩))
  · intro other present
    by_cases same : other = domain
    · subst same
      rcases underway.known other synced.wasPending with queued | target
      · rcases (start.controller.mem_resyncDomains_iff other).mp queued with root | ⟨_, before⟩
        · exact .inr (.inl root)
        · exact .inl before
      · exact .inr (.inr target)
    · have unchanged := DomainIndex.contains_congr (synced.elsewhere other same)
      exact underway.held other (unchanged.symm.trans present)

/-! ### Progress -/

def delegating (name : String) (trust : Option String) : Snapshot :=
  { domain :=
      { name
        modified := .epoch
        enabled := none
        roles :=
          [{ name := "readers", modified := none, members := none, roleMembers := none, trust }]
        policies := .empty }
    signature := ""
    keyId := "" }

def twoDomains (name : String) : FetchAnswer :=
  if name = "web.shop" then .answered (some (delegating "web.shop" (some "auth.shop")))
  else if name = "auth.shop" then .answered (some (delegating "auth.shop" none))
  else .failed .notFound

def oneNamespace : Deployment MemoryServer :=
  let names : NameMapping :=
    { adminDomain := some "k8s"
      systemNamespaces := ["kube-system", "kube-public"]
      excludedNamespaces := ["kube-public"] }
  let index : DomainIndex := .replay [.apply (.ofSnapshot (delegating "gone" (some "auth.shop")))]
  { controller :=
      { Controller.ofSettings names { SyncSettings.standard with excludeGenerated := true } with
        namespaces := (NamespaceIndex.empty.apply "web-shop").2
        index }
    server := { MemoryServer.empty with objects := index.domains } }

end Deployment

end PolicyReplica
