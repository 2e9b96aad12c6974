import PolicyReplica.Table

/-
Counts of things by key.
-/

namespace PolicyReplica

/-- Counts per key; a key that was never counted is not in the table. -/
abbrev Counts (κ : Type) := Table κ Nat

def Counts.increment {κ : Type} [DecidableEq κ] (counts : Counts κ) (key : κ) : Counts κ :=
  counts.insert key ((counts.get? key).getD 0 + 1)

def Counts.count {κ : Type} [DecidableEq κ] (counts : Counts κ) (key : κ) : Nat :=
  (counts.get? key).getD 0

theorem Counts.count_increment {κ : Type} [DecidableEq κ] (counts : Counts κ) (key other : κ) :
    (counts.increment key).count other = counts.count other + if other = key then 1 else 0 := by
  by_cases same : other = key
  · subst same
    simp [increment, count]
  · simp [increment, count, Table.get?_insert, same]

end PolicyReplica
