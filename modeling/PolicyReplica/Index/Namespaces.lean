import PolicyReplica.Text.Order

/-
The index of live namespaces.
-/

namespace PolicyReplica

structure NamespaceIndex where
  members : List String
  distinctMembers : members.Nodup

namespace NamespaceIndex

def empty : NamespaceIndex :=
  { members := [], distinctMembers := List.nodup_nil }

def contains (index : NamespaceIndex) (name : String) : Bool :=
  index.members.contains name

def apply (index : NamespaceIndex) (name : String) : Bool × NamespaceIndex :=
  if known : name ∈ index.members then (false, index)
  else
    (true,
      { members := name :: index.members
        distinctMembers := List.nodup_cons.mpr ⟨known, index.distinctMembers⟩ })

def delete (index : NamespaceIndex) (name : String) : Bool × NamespaceIndex :=
  (index.contains name,
    { members := index.members.erase name
      distinctMembers := index.distinctMembers.erase name })

def size (index : NamespaceIndex) : Nat :=
  index.members.length

def isEmpty (index : NamespaceIndex) : Bool :=
  index.members.isEmpty

def names (index : NamespaceIndex) : List String :=
  Text.sorted index.members

end NamespaceIndex

end PolicyReplica
