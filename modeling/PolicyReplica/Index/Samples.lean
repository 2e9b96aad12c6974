import PolicyReplica.Index.Domains
import PolicyReplica.Index.Namespaces
import PolicyReplica.Metrics

/-
The sizes of the indexes as samples.
-/

namespace PolicyReplica

def indexSamples (domains : DomainIndex) (namespaces : NamespaceIndex) : List Sample :=
  [("domains", domains.size), ("trust_targets", domains.liveTrustTargets),
    ("namespaces", namespaces.size)].map fun (kind, size) =>
      { name := "index_size", labels := [("kind", kind)], value := size }

end PolicyReplica
