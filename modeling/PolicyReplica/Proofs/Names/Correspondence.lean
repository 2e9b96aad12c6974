import Mathlib.Data.Set.Function
import PolicyReplica.Proofs.Names.RoundTrip

/-
Which names survive the way to the other kind of name and back.

Names of namespaces have no dots. Unescaping pairs dots from the left, so the domains that
it gives are spaced: a dot is never followed by a dot or a dash. Main statements: apart from
system namespaces and their domains, exactly these namespaces and exactly these domains are
found again, and the two mappings are bijections between them, each the inverse of the other.
-/

namespace PolicyReplica.NameMapping

/-- Holds of a domain without two dots in a row and without a dash after a dot. -/
def Spaced (domain : String) : Prop :=
  ¬ ['.', '.'] <:+: domain.toList ∧ ¬ ['.', '-'] <:+: domain.toList

/-! ### Without system namespaces -/

/-- The characters of a domain on their way through a namespace, before dots are paired. -/
private def dotted (chars : List Char) : List Char :=
  chars.flatMap fun c => if c = '-' then ['.', '.'] else [c]

private theorem dotted_cons (c : Char) (rest : List Char) :
    dotted (c :: rest) = (if c = '-' then ['.', '.'] else [c]) ++ dotted rest :=
  List.flatMap_cons

private theorem undashed_escape (chars : List Char) :
    (chars.flatMap fun c => if c = '-' then ['-', '-'] else if c = '.' then ['-'] else [c]).map
        (fun c => if c = '-' then '.' else c) = dotted chars := by
  induction chars with
  | nil => rfl
  | cons c rest ih =>
      rw [List.flatMap_cons, List.map_append, ih, dotted_cons]
      by_cases dash : c = '-'
      · simp [dash]
      · by_cases dot : c = '.'
        · simp [dot]
        · simp [dash, dot]

private theorem joinDots_cons {c : Char} (other : c ≠ '.') (rest : List Char) :
    joinDots (c :: rest) = c :: joinDots rest := by
  rw [joinDots]
  rintro _ rfl
  exact absurd rfl other

private theorem joinDots_dot_cons {c : Char} (other : c ≠ '.') (rest : List Char) :
    joinDots ('.' :: c :: rest) = '.' :: c :: joinDots rest := by
  rw [joinDots, joinDots_cons other]
  rintro _ _ same
  exact other (List.cons.inj same).1

/-- Pairs that are joined come from dashes unless a dot was followed by a dot or a dash. -/
private theorem joinDots_dotted_iff (chars : List Char) :
    joinDots (dotted chars) = chars ↔
      ¬ ['.', '.'] <:+: chars ∧ ¬ ['.', '-'] <:+: chars := by
  induction chars with
  | nil => simp [dotted, joinDots]
  | cons c rest ih =>
      rw [dotted_cons, List.infix_cons_iff, List.infix_cons_iff]
      by_cases dash : c = '-'
      · subst dash
        simp [joinDots, ih]
      · rw [if_neg dash, List.singleton_append]
        by_cases dot : c = '.'
        · subst dot
          -- whether the dot is kept depends on what follows it
          cases rest with
          | nil => simp [dotted, joinDots]
          | cons next later =>
              by_cases nextDot : next = '.'
              · subst nextDot
                simp [dotted_cons, joinDots]
              · by_cases nextDash : next = '-'
                · subst nextDash
                  simp [dotted_cons, joinDots]
                · rw [dotted_cons, if_neg nextDash, List.singleton_append] at ih ⊢
                  rw [joinDots_cons nextDot] at ih
                  rw [joinDots_dot_cons nextDot]
                  simpa [nextDot, nextDash, eq_comm] using ih
        · have apart : '.' ≠ c := fun same => dot same.symm
          rw [joinDots_cons dot]
          simpa [apart] using ih

theorem unescape_escape_iff (domain : String) :
    unescape (escape domain) = domain ↔ Spaced domain := by
  unfold unescape escape Spaced
  rw [String.toList_ofList, undashed_escape, ← joinDots_dotted_iff]
  constructor
  · intro same
    have lists := congrArg String.toList same
    rwa [String.toList_ofList] at lists
  · intro same
    rw [same, String.ofList_toList]

theorem dot_not_mem_escape (domain : String) : '.' ∉ (escape domain).toList := by
  unfold escape
  rw [String.toList_ofList, List.mem_flatMap]
  rintro ⟨c, _, written⟩
  by_cases dash : c = '-'
  · simp [dash] at written
  · by_cases dot : c = '.'
    · simp [dot] at written
    · rw [if_neg dash, if_neg dot, List.mem_singleton] at written
      exact dot written.symm

theorem spaced_unescape {name : String} (dotFree : '.' ∉ name.toList) : Spaced (unescape name) := by
  -- the domain leads to the name, so it is found again
  rw [← unescape_escape_iff, escape_unescape dotFree]

/-! ### With system namespaces -/

variable {names : NameMapping} {name domain : String}

theorem namespaceOf_domainOf_of_listed (listed : names.Listed name) :
    names.namespaceOf (names.domainOf name) = name := by
  obtain ⟨admin, configured⟩ := Option.ne_none_iff_exists'.mp listed.1
  rw [domainOf_of_listed configured listed.2, namespaceOf_subdomain configured listed.2]

theorem namespaceOf_domainOf_iff (names : NameMapping) (name : String) :
    names.namespaceOf (names.domainOf name) = name ↔
      names.Listed name ∨ '.' ∉ name.toList ∧ ¬ names.Reserved (names.domainOf name) := by
  by_cases listed : names.Listed name
  · exact iff_of_true (namespaceOf_domainOf_of_listed listed) (.inl listed)
  · rw [or_iff_right listed]
    by_cases reserved : names.Reserved (names.domainOf name)
    · -- the way back ends at the system namespace, which is another one
      refine iff_of_false (fun same => listed ?_) fun plain => plain.2 reserved
      rw [← same]
      exact reserved.namespaceOf.1
    · rw [namespaceOf_of_not_reserved reserved, domainOf_of_not_listed listed]
      constructor
      · intro same
        refine ⟨?_, domainOf_of_not_listed listed ▸ reserved⟩
        rw [← same]
        exact dot_not_mem_escape _
      · exact fun plain => escape_unescape plain.1

theorem domainOf_namespaceOf_iff (names : NameMapping) (domain : String) :
    names.domainOf (names.namespaceOf domain) = domain ↔
      names.Reserved domain ∨ Spaced domain ∧ ¬ names.Listed (escape domain) := by
  by_cases reserved : names.Reserved domain
  · exact iff_of_true reserved.namespaceOf.2 (.inl reserved)
  · rw [or_iff_right reserved, namespaceOf_of_not_reserved reserved]
    by_cases listed : names.Listed (escape domain)
    · refine iff_of_false (fun same => reserved ?_) fun plain => plain.2 listed
      rw [← same]
      exact reserved_domainOf listed
    · rw [domainOf_of_not_listed listed, unescape_escape_iff]
      exact (and_iff_left listed).symm

/-- Holds if one name is a system namespace and the other one is none, but spells the domain
of the first. -/
def Collides (names : NameMapping) (system other : String) : Prop :=
  ∃ admin, names.adminDomain = some admin ∧ system ∈ names.systemNamespaces ∧
    other ∉ names.systemNamespaces ∧ other = escape (subdomain admin system)

/-- A namespace that is not found again shares its domain with nothing but the system
namespace that is found instead of it. -/
theorem collides_of_ne {left right : String} (leftFree : '.' ∉ left.toList)
    (rightFree : '.' ∉ right.toList) (different : left ≠ right)
    (same : names.domainOf left = names.domainOf right) :
    names.Collides left right ∨ names.Collides right left := by
  -- of two names with one domain at most one is listed, and only that one is found again
  have lost : ∀ {system other : String}, names.Listed system → ¬ names.Listed other →
      '.' ∉ other.toList → names.domainOf system = names.domainOf other →
      names.Collides system other := by
    intro system other listed plain otherFree shared
    obtain ⟨admin, configured⟩ := Option.ne_none_iff_exists'.mp listed.1
    refine ⟨admin, configured, listed.2, fun member => plain ⟨listed.1, member⟩, ?_⟩
    rw [← domainOf_of_listed configured listed.2, shared, domainOf_of_not_listed plain,
      escape_unescape otherFree]
  by_cases leftListed : names.Listed left
  · by_cases rightListed : names.Listed right
    · refine absurd ?_ different
      rw [← namespaceOf_domainOf_of_listed leftListed, same,
        namespaceOf_domainOf_of_listed rightListed]
    · exact .inl (lost leftListed rightListed rightFree same)
  · by_cases rightListed : names.Listed right
    · exact .inr (lost rightListed leftListed leftFree same.symm)
    · refine absurd ?_ different
      rw [domainOf_of_not_listed leftListed, domainOf_of_not_listed rightListed] at same
      rw [← escape_unescape leftFree, same, escape_unescape rightFree]

/-- A namespace is found again from its domain exactly if it is a system namespace, or has no
dot and not the domain of one. Two namespaces without dots share a domain only if one is a
system namespace and the other one spells its domain. -/
theorem namespaces_found_again (names : NameMapping) :
    (∀ name, names.namespaceOf (names.domainOf name) = name ↔
      names.Listed name ∨ '.' ∉ name.toList ∧ ¬ names.Reserved (names.domainOf name)) ∧
    ∀ left right, '.' ∉ left.toList → '.' ∉ right.toList → left ≠ right →
      names.domainOf left = names.domainOf right →
        names.Collides left right ∨ names.Collides right left :=
  ⟨names.namespaceOf_domainOf_iff, fun _ _ leftFree rightFree different same =>
    collides_of_ne leftFree rightFree different same⟩

/-- The namespace that spells the domain of a system namespace shares it and is lost. -/
theorem namespaces_found_again_kube :
    let names := ofSettings "k8s" ["kube-system"] []
    '.' ∉ "kube-system".toList ∧ '.' ∉ "k8s-kube--system".toList ∧
      names.domainOf "kube-system" = names.domainOf "k8s-kube--system" ∧
      (names.Collides "kube-system" "k8s-kube--system" ∨
        names.Collides "k8s-kube--system" "kube-system") ∧
      names.namespaceOf (names.domainOf "k8s-kube--system") ≠ "k8s-kube--system" := by
  intro names
  obtain ⟨found, shared⟩ := names.namespaces_found_again
  have leftFree : '.' ∉ "kube-system".toList := by decide
  have rightFree : '.' ∉ "k8s-kube--system".toList := by decide
  have same : names.domainOf "kube-system" = names.domainOf "k8s-kube--system" := by decide
  refine ⟨leftFree, rightFree, same, shared _ _ leftFree rightFree (by decide) same, fun back => ?_⟩
  rcases (found _).mp back with listed | plain
  · exact absurd listed.2 (by decide)
  · exact plain.2 ⟨"k8s", "kube-system", rfl, by decide, by decide⟩

/-- The namespaces without dots, those aside that are system namespaces or have the domain of
one. -/
def plainNamespaces (names : NameMapping) : Set String :=
  {name | '.' ∉ name.toList ∧ ¬ names.Listed name ∧ ¬ names.Reserved (names.domainOf name)}

/-- The spaced domains, those aside that are reserved or whose namespace is a system
namespace. -/
def plainDomains (names : NameMapping) : Set String :=
  {domain | Spaced domain ∧ ¬ names.Reserved domain ∧ ¬ names.Listed (names.namespaceOf domain)}

theorem mapsTo_domainOf (names : NameMapping) :
    Set.MapsTo names.domainOf names.plainNamespaces names.plainDomains := by
  rintro name ⟨dotFree, plain, free⟩
  have back := (names.namespaceOf_domainOf_iff name).mpr (.inr ⟨dotFree, free⟩)
  refine ⟨?_, free, by rwa [back]⟩
  rw [domainOf_of_not_listed plain]
  exact spaced_unescape dotFree

theorem mapsTo_namespaceOf (names : NameMapping) :
    Set.MapsTo names.namespaceOf names.plainDomains names.plainNamespaces := by
  rintro domain ⟨spaced, free, plain⟩
  have spelled := namespaceOf_of_not_reserved free
  have back := (names.domainOf_namespaceOf_iff domain).mpr (.inr ⟨spaced, spelled ▸ plain⟩)
  refine ⟨?_, plain, by rwa [back]⟩
  rw [spelled]
  exact dot_not_mem_escape domain

theorem invOn_plain (names : NameMapping) :
    Set.InvOn names.namespaceOf names.domainOf names.plainNamespaces names.plainDomains := by
  constructor
  · rintro name ⟨dotFree, _, free⟩
    exact (names.namespaceOf_domainOf_iff name).mpr (.inr ⟨dotFree, free⟩)
  · rintro domain ⟨spaced, free, plain⟩
    have spelled := namespaceOf_of_not_reserved free
    exact (names.domainOf_namespaceOf_iff domain).mpr (.inr ⟨spaced, spelled ▸ plain⟩)

theorem not_reserved_of_unlisted (unlisted : ∀ name, ¬ names.Listed name) (domain : String) :
    ¬ names.Reserved domain :=
  fun reserved => unlisted _ reserved.namespaceOf.1

/-- Without system namespaces nothing is set aside. -/
theorem plain_of_unlisted (unlisted : ∀ name, ¬ names.Listed name) :
    names.plainNamespaces = {name | '.' ∉ name.toList} ∧
      names.plainDomains = {domain | Spaced domain} := by
  constructor
  · ext name
    exact and_iff_left ⟨unlisted name, not_reserved_of_unlisted unlisted _⟩
  · ext domain
    exact and_iff_left ⟨not_reserved_of_unlisted unlisted domain, unlisted _⟩

/-- A domain is found again from its namespace exactly if it is that of a system namespace, or
is spaced and does not spell a system namespace. What is left besides system names are mutually
inverse bijections, between all names without dots and all spaced domains if there are no
system names. -/
theorem domains_found_again (names : NameMapping) :
    (∀ domain, names.domainOf (names.namespaceOf domain) = domain ↔
      names.Reserved domain ∨ Spaced domain ∧ ¬ names.Listed (escape domain)) ∧
    (Set.BijOn names.domainOf names.plainNamespaces names.plainDomains ∧
      Set.BijOn names.namespaceOf names.plainDomains names.plainNamespaces ∧
      Set.InvOn names.namespaceOf names.domainOf names.plainNamespaces names.plainDomains) ∧
    ((∀ name, ¬ names.Listed name) →
      names.plainNamespaces = {name | '.' ∉ name.toList} ∧
        names.plainDomains = {domain | Spaced domain}) :=
  ⟨names.domainOf_namespaceOf_iff,
    ⟨names.invOn_plain.bijOn names.mapsTo_domainOf names.mapsTo_namespaceOf,
      names.invOn_plain.symm.bijOn names.mapsTo_namespaceOf names.mapsTo_domainOf,
      names.invOn_plain⟩,
    plain_of_unlisted⟩

/-- Without an admin domain no name is a system namespace, though some are configured. -/
theorem domains_found_again_unmanaged :
    let names := ofSettings "" ["kube-system"] []
    (∀ name, ¬ names.Listed name) ∧ names.plainDomains = {domain | Spaced domain} ∧
      names.domainOf (names.namespaceOf "a.-b") ≠ "a.-b" := by
  intro names
  obtain ⟨found, _, all⟩ := names.domains_found_again
  have unlisted : ∀ name, ¬ names.Listed name := fun _ listed => listed.1 rfl
  refine ⟨unlisted, (all unlisted).2, fun back => ?_⟩
  rcases (found _).mp back with reserved | plain
  · exact not_reserved_of_unlisted unlisted _ reserved
  · exact plain.1.2 ⟨['a'], ['b'], rfl⟩

end PolicyReplica.NameMapping
