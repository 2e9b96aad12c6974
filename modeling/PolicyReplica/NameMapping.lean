/-
Names of cluster namespaces and of policy domains.

A dot of a domain is a dash in the namespace and a dash is doubled, so that
k8s.net-auth belongs to k8s-net--auth. System namespaces are the exception: with
an admin domain they belong to its subdomains, and only those subdomains whose
last part is a listed system namespace lead back to it.
-/

namespace PolicyReplica

structure NameMapping where
  adminDomain : Option String
  systemNamespaces : List String
  excludedNamespaces : List String
  deriving DecidableEq, Repr

namespace NameMapping

/-- The mapping of a configuration, where an empty name is no name. -/
def ofSettings (admin : String) (system excluded : List String) : NameMapping :=
  { adminDomain := if admin = "" then none else some admin
    systemNamespaces := system.filter (· ≠ "")
    excludedNamespaces := excluded.filter (· ≠ "") }

/-- Two dots in a row, taken from the left, become a dash. -/
def joinDots : List Char → List Char
  | '.' :: '.' :: rest => '-' :: joinDots rest
  | c :: rest => c :: joinDots rest
  | [] => []

def unescape (name : String) : String :=
  String.ofList (joinDots (name.toList.map fun c => if c = '-' then '.' else c))

def escape (domain : String) : String :=
  String.ofList (domain.toList.flatMap fun c =>
    if c = '-' then ['-', '-'] else if c = '.' then ['-'] else [c])

def isSystemNamespace (names : NameMapping) (name : String) : Bool :=
  names.systemNamespaces.contains name

/-- Excluded namespaces are never synced, whatever domain they belong to. -/
def isExcluded (names : NameMapping) (name : String) : Bool :=
  names.excludedNamespaces.contains name

def isAdminDomain (names : NameMapping) (domain : String) : Bool :=
  names.adminDomain = some domain

def subdomain (admin name : String) : String :=
  admin ++ "." ++ name

def systemNamespaceOf? (names : NameMapping) (domain : String) : Option String :=
  match names.adminDomain with
  | none => none
  | some admin => names.systemNamespaces.find? fun name => subdomain admin name = domain

def domainOf (names : NameMapping) (name : String) : String :=
  match names.adminDomain with
  | none => unescape name
  | some admin => if names.isSystemNamespace name then subdomain admin name else unescape name

def namespaceOf (names : NameMapping) (domain : String) : String :=
  (names.systemNamespaceOf? domain).getD (escape domain)

/-- Holds of the domain of a system namespace that is not excluded. -/
def isSystemDomain (names : NameMapping) (domain : String) : Bool :=
  (names.systemNamespaceOf? domain).any fun name => !names.isExcluded name

def systemDomains (names : NameMapping) : List String :=
  match names.adminDomain with
  | none => []
  | some admin =>
      (names.systemNamespaces.filter fun name => !names.isExcluded name).map (subdomain admin)

end NameMapping

end PolicyReplica
