import PolicyReplica.Controller.Polling

/-
From namespaces to domains and back.

A namespace without dots is found again from its domain, except where the domain is
also that of a listed system namespace. From this it follows that every domain that a
resync starts from is one that the controller replicates.
-/

namespace PolicyReplica

namespace NameMapping

private theorem escape_joinDots (chars : List Char) (noDash : '-' ∉ chars) :
    (joinDots chars).flatMap
        (fun c => if c = '-' then ['-', '-'] else if c = '.' then ['-'] else [c]) =
      chars.map fun c => if c = '.' then '-' else c := by
  induction chars using joinDots.induct with
  | case1 rest ih =>
      have restNoDash : '-' ∉ rest := by
        intro member
        exact noDash (List.mem_cons_of_mem '.' (List.mem_cons_of_mem '.' member))
      rw [joinDots, List.flatMap_cons, ih restNoDash]
      simp
  | case2 c rest single ih =>
      have different : c ≠ '-' := by
        rintro rfl
        exact noDash List.mem_cons_self
      have restNoDash : '-' ∉ rest := fun member => noDash (List.mem_cons_of_mem c member)
      rw [joinDots, List.flatMap_cons, ih restNoDash, List.map_cons, if_neg different]
      · by_cases dot : c = '.'
        · rw [if_pos dot, if_pos dot]
          rfl
        · rw [if_neg dot, if_neg dot]
          rfl
      · exact single
  | case3 => rfl

theorem escape_unescape {name : String} (dotFree : '.' ∉ name.toList) :
    escape (unescape name) = name := by
  have noDash : '-' ∉ name.toList.map fun c => if c = '-' then '.' else c := by
    intro member
    obtain ⟨c, _, image⟩ := List.mem_map.mp member
    by_cases dash : c = '-'
    · rw [if_pos dash] at image
      exact absurd image (by decide)
    · rw [if_neg dash] at image
      exact dash image
  have restored : ((name.toList.map fun c => if c = '-' then '.' else c).map
      fun c => if c = '.' then '-' else c) = name.toList := by
    rw [List.map_map]
    refine (List.map_congr_left fun c member => ?_).trans (List.map_id' _)
    have noDot : c ≠ '.' := fun same => dotFree (same ▸ member)
    by_cases dash : c = '-'
    · simp [dash]
    · simp [dash, noDot]
  unfold escape unescape
  rw [String.toList_ofList, escape_joinDots _ noDash, restored, String.ofList_toList]

theorem subdomain_injective {admin left right : String}
    (same : subdomain admin left = subdomain admin right) : left = right := by
  have lists := congrArg String.toList same
  unfold subdomain at lists
  simp only [String.toList_append] at lists
  exact String.toList_injective (List.append_cancel_left lists)

theorem systemNamespaceOf?_eq_some_iff (names : NameMapping) (domain name : String) :
    names.systemNamespaceOf? domain = some name ↔
      ∃ admin, names.adminDomain = some admin ∧ name ∈ names.systemNamespaces ∧
        subdomain admin name = domain := by
  unfold systemNamespaceOf?
  cases configured : names.adminDomain with
  | none =>
      constructor
      · intro found
        cases found
      · intro given
        obtain ⟨admin, impossible, _⟩ := given
        cases impossible
  | some admin =>
      constructor
      · intro found
        have same := List.find?_some found
        exact ⟨admin, rfl, List.mem_of_find?_eq_some found, by simpa using same⟩
      · intro given
        obtain ⟨_, same, member, matching⟩ := given
        obtain rfl := Option.some.inj same
        cases found : names.systemNamespaces.find? fun name => subdomain admin name = domain with
        | none =>
            have unmatched := List.find?_eq_none.mp found name member
            exact absurd matching (by simpa using unmatched)
        | some other =>
            have otherMatching : subdomain admin other = domain := by
              simpa using List.find?_some found
            obtain rfl := subdomain_injective (otherMatching.trans matching.symm)
            exact found

/-- Holds of the domains of the listed system namespaces that are excluded, or of the
others. -/
def OfSystem (names : NameMapping) (excluded : Bool) (domain : String) : Prop :=
  ∃ admin name, names.adminDomain = some admin ∧ name ∈ names.systemNamespaces ∧
    names.isExcluded name = excluded ∧ subdomain admin name = domain

def Listed (names : NameMapping) (name : String) : Prop :=
  names.adminDomain ≠ none ∧ name ∈ names.systemNamespaces

def Reserved (names : NameMapping) (domain : String) : Prop :=
  ∃ admin name, names.adminDomain = some admin ∧ name ∈ names.systemNamespaces ∧
    domain = subdomain admin name

theorem isSystemDomain_iff (names : NameMapping) (domain : String) :
    names.isSystemDomain domain = true ↔ names.OfSystem false domain := by
  unfold isSystemDomain
  constructor
  · intro system
    cases found : names.systemNamespaceOf? domain with
    | none =>
        rw [found] at system
        cases system
    | some name =>
        rw [found] at system
        obtain ⟨admin, configured, member, same⟩ :=
          (names.systemNamespaceOf?_eq_some_iff domain name).mp found
        exact ⟨admin, name, configured, member, by simpa using system, same⟩
  · intro given
    obtain ⟨admin, name, configured, member, kept, same⟩ := given
    have found := (names.systemNamespaceOf?_eq_some_iff domain name).mpr
      ⟨admin, configured, member, same⟩
    rw [found]
    simp [kept]

theorem mem_systemDomains_iff (names : NameMapping) (domain : String) :
    domain ∈ names.systemDomains ↔ names.OfSystem false domain := by
  unfold OfSystem systemDomains
  cases names.adminDomain with
  | none => simp
  | some admin =>
      rw [List.mem_map]
      constructor
      · intro given
        obtain ⟨name, member, same⟩ := given
        obtain ⟨listed, kept⟩ := List.mem_filter.mp member
        exact ⟨admin, name, rfl, listed, by simpa using kept, same⟩
      · intro given
        obtain ⟨_, name, same, listed, kept, matching⟩ := given
        obtain rfl := Option.some.inj same
        exact ⟨name, List.mem_filter.mpr ⟨listed, by simpa using kept⟩, matching⟩

theorem isAdminDomain_iff (names : NameMapping) (domain : String) :
    names.isAdminDomain domain = true ↔ names.adminDomain = some domain :=
  decide_eq_true_iff

variable {names : NameMapping} {name domain : String}

theorem domainOf_of_not_listed (plain : ¬ names.Listed name) :
    names.domainOf name = unescape name := by
  unfold domainOf
  cases configured : names.adminDomain with
  | none => rfl
  | some admin =>
      refine if_neg fun system => plain ⟨?_, ?_⟩
      · rw [configured]
        exact Option.some_ne_none admin
      · simpa [isSystemNamespace] using system

theorem domainOf_of_listed {admin : String} (configured : names.adminDomain = some admin)
    (member : name ∈ names.systemNamespaces) : names.domainOf name = subdomain admin name := by
  unfold domainOf
  rw [configured]
  exact if_pos (by simpa [isSystemNamespace] using member)

theorem reserved_domainOf (listed : names.Listed name) : names.Reserved (names.domainOf name) := by
  obtain ⟨admin, configured⟩ := Option.ne_none_iff_exists'.mp listed.1
  exact ⟨admin, name, configured, listed.2, domainOf_of_listed configured listed.2⟩

theorem namespaceOf_of_not_reserved (plain : ¬ names.Reserved domain) :
    names.namespaceOf domain = escape domain := by
  unfold namespaceOf
  cases found : names.systemNamespaceOf? domain with
  | none => rfl
  | some system =>
      obtain ⟨admin, configured, member, matching⟩ :=
        (names.systemNamespaceOf?_eq_some_iff domain system).mp found
      exact absurd ⟨admin, system, configured, member, matching.symm⟩ plain

theorem namespaceOf_subdomain {admin : String} (configured : names.adminDomain = some admin)
    (member : name ∈ names.systemNamespaces) :
    names.namespaceOf (subdomain admin name) = name := by
  unfold namespaceOf
  rw [(names.systemNamespaceOf?_eq_some_iff _ name).mpr ⟨admin, configured, member, rfl⟩]
  rfl

/-- The namespace of a reserved domain is a system namespace, which has that domain. -/
theorem Reserved.namespaceOf (reserved : names.Reserved domain) :
    names.Listed (names.namespaceOf domain) ∧
      names.domainOf (names.namespaceOf domain) = domain := by
  obtain ⟨admin, system, configured, member, rfl⟩ := reserved
  rw [namespaceOf_subdomain configured member]
  refine ⟨⟨?_, member⟩, domainOf_of_listed configured member⟩
  rw [configured]
  exact Option.some_ne_none admin

/-- The domain of a system namespace leads back to it. -/
theorem OfSystem.namespaceOf_excluded {excluded : Bool} (system : names.OfSystem excluded domain) :
    names.isExcluded (names.namespaceOf domain) = excluded := by
  obtain ⟨admin, name, configured, listed, same, rfl⟩ := system
  rw [namespaceOf_subdomain configured listed]
  exact same

theorem OfSystem.not_admin {excluded : Bool} (system : names.OfSystem excluded domain) :
    names.adminDomain ≠ some domain := by
  intro isAdmin
  obtain ⟨admin, name, configured, _, _, matching⟩ := system
  obtain rfl := Option.some.inj (configured.symm.trans isAdmin)
  have longer := congrArg String.length matching
  unfold subdomain at longer
  simp only [String.length_append] at longer
  have dot : ".".length = 1 := rfl
  omega

/-- The domain of a namespace without dots leads back to it, or is that of a listed system
namespace. -/
theorem namespaceOf_domainOf (dotFree : '.' ∉ name.toList) :
    names.namespaceOf (names.domainOf name) = name ∨
      ∃ excluded, names.OfSystem excluded (names.domainOf name) := by
  by_cases reserved : names.Reserved (names.domainOf name)
  · obtain ⟨admin, system, configured, member, same⟩ := reserved
    exact .inr ⟨_, admin, system, configured, member, rfl, same.symm⟩
  · have plain : ¬ names.Listed name := fun listed => reserved (reserved_domainOf listed)
    refine .inl ?_
    rw [namespaceOf_of_not_reserved reserved, domainOf_of_not_listed plain,
      escape_unescape dotFree]

end NameMapping

namespace Controller

/-- Holds of the domains that are replicated for their own sake. -/
def IsRoot (controller : Controller) (domain : String) : Prop :=
  controller.names.adminDomain = some domain ∨
    domain ∈ controller.names.systemDomains ∨
    ∃ name, controller.namespaces.contains name = true ∧
      controller.names.isExcluded name = false ∧ controller.names.domainOf name = domain

/-- Holds of the domains whose trust targets are replicated, too. -/
def leads (controller : Controller) (domain : String) : Bool :=
  controller.names.isAdminDomain domain || controller.hasNamespace domain

/-- No live namespace has a dot in its name, and none that is not excluded has the
domain of a system namespace that is. -/
structure NamedApart (controller : Controller) : Prop where
  dotFree : ∀ name, controller.namespaces.contains name = true → '.' ∉ name.toList
  apart : ∀ name admin system, controller.namespaces.contains name = true →
    controller.names.isExcluded name = false → controller.names.adminDomain = some admin →
    system ∈ controller.names.systemNamespaces → controller.names.isExcluded system = true →
    controller.names.domainOf name ≠ NameMapping.subdomain admin system

variable {controller : Controller} {domain : String}

/-- The namespace that is looked up is live, is not excluded and has this domain. -/
theorem exists_of_hasNamespace (live : controller.hasNamespace domain = true) :
    ∃ name, controller.namespaces.contains name = true ∧
      controller.names.isExcluded name = false ∧ controller.names.domainOf name = domain := by
  unfold hasNamespace at live
  simp only [Bool.and_eq_true, decide_eq_true_eq, Bool.not_eq_true'] at live
  exact ⟨_, live.2, live.1.2, live.1.1⟩

theorem isValid_eq_true_iff :
    controller.isValid domain = true ↔
      controller.names.adminDomain = some domain ∨ controller.names.OfSystem false domain ∨
        controller.hasNamespace domain = true ∨ controller.index.isTrustTarget domain = true := by
  unfold isValid
  rw [Bool.or_eq_true, Bool.or_eq_true, Bool.or_eq_true, or_assoc, or_assoc,
    NameMapping.isAdminDomain_iff, NameMapping.isSystemDomain_iff]

theorem root_or_trusted_of_isValid (valid : controller.isValid domain = true) :
    controller.IsRoot domain ∨ controller.index.isTrustTarget domain = true := by
  rcases isValid_eq_true_iff.mp valid with admin | system | live | trusted
  · exact .inl (.inl admin)
  · exact .inl (.inr (.inl ((controller.names.mem_systemDomains_iff domain).mpr system)))
  · exact .inl (.inr (.inr (exists_of_hasNamespace live)))
  · exact .inr trusted

/-- A live namespace that its domain leads back to makes this domain lead to others. -/
theorem hasNamespace_domainOf {controller : Controller} {name : String}
    (live : controller.namespaces.contains name = true)
    (kept : controller.names.isExcluded name = false)
    (back : controller.names.namespaceOf (controller.names.domainOf name) = name) :
    controller.hasNamespace (controller.names.domainOf name) = true := by
  unfold hasNamespace
  rw [back]
  simp [kept, live]

/-- A live namespace makes its domain valid, unless that is the domain of an excluded system
namespace. -/
theorem isValid_domainOf {name : String} (live : controller.namespaces.contains name = true)
    (kept : controller.names.isExcluded name = false) (dotFree : '.' ∉ name.toList) :
    controller.isValid (controller.names.domainOf name) = true ∨
      controller.names.OfSystem true (controller.names.domainOf name) := by
  rcases NameMapping.namespaceOf_domainOf dotFree with back | ⟨excluded, system⟩
  · exact .inl (isValid_eq_true_iff.mpr (.inr (.inr (.inl (hasNamespace_domainOf live kept back)))))
  · cases excluded with
    | false => exact .inl (isValid_eq_true_iff.mpr (.inr (.inl system)))
    | true => exact .inr system

theorem IsRoot.of_leads (leads : controller.leads domain = true) : controller.IsRoot domain := by
  unfold Controller.leads at leads
  rcases Bool.or_eq_true_iff.mp leads with admin | live
  · exact .inl ((controller.names.isAdminDomain_iff domain).mp admin)
  · exact .inr (.inr (exists_of_hasNamespace live))

/-- Roots are valid whatever the replicas are. -/
theorem IsRoot.isValid (apart : controller.NamedApart) (root : controller.IsRoot domain) :
    controller.isValid domain = true := by
  rcases root with admin | system | ⟨name, live, kept, rfl⟩
  · exact isValid_eq_true_iff.mpr (.inl admin)
  · have isSystem := (controller.names.mem_systemDomains_iff domain).mp system
    exact isValid_eq_true_iff.mpr (.inr (.inl isSystem))
  · rcases isValid_domainOf live kept (apart.dotFree name live) with valid | system
    · exact valid
    · obtain ⟨admin, system, configured, listed, excluded, same⟩ := system
      exact absurd same.symm (apart.apart name admin system live kept configured listed excluded)

/-- A resync queues the roots, and the replicas that were ever trusted. -/
theorem mem_resyncDomains_iff (controller : Controller) (domain : String) :
    domain ∈ controller.resyncDomains ↔
      controller.IsRoot domain ∨
        domain ∈ controller.index.seenTrust ∧ controller.index.contains domain = true := by
  unfold resyncDomains IsRoot DomainIndex.trustTargets fixedDomains
  simp only [mem_distinct, Text.mem_sorted, List.mem_append, List.mem_map, List.mem_filter,
    NamespaceIndex.names, Option.mem_toList, Bool.not_eq_true', NamespaceIndex.contains,
    List.contains_eq_mem, decide_eq_true_eq]
  constructor
  · intro either
    rcases either with (⟨name, ⟨live, kept⟩, same⟩ | admin | system) | trusted
    · exact .inl (.inr (.inr ⟨name, live, kept, same⟩))
    · exact .inl (.inl admin)
    · exact .inl (.inr (.inl system))
    · exact .inr trusted
  · intro either
    rcases either with (admin | system | ⟨name, live, kept, same⟩) | trusted
    · exact .inl (.inr (.inl admin))
    · exact .inl (.inr (.inr system))
    · exact .inl (.inl ⟨name, ⟨live, kept⟩, same⟩)
    · exact .inr trusted

end Controller

end PolicyReplica
