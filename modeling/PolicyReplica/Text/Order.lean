/-
The order of texts: by code points, which is also the order of their bytes.
-/

namespace PolicyReplica.Text

def sorted (texts : List String) : List String :=
  texts.mergeSort fun left right => left ≤ right

theorem sorted_perm (texts : List String) : (sorted texts).Perm texts :=
  List.mergeSort_perm _ _

@[simp] theorem mem_sorted {text : String} {texts : List String} :
    text ∈ sorted texts ↔ text ∈ texts :=
  (sorted_perm texts).mem_iff

theorem pairwise_sorted (texts : List String) : (sorted texts).Pairwise (· ≤ ·) := by
  have transitive : ∀ a b c : String, decide (a ≤ b) → decide (b ≤ c) → decide (a ≤ c) := by
    intro a b c
    simpa using String.le_trans
  have total : ∀ a b : String, decide (a ≤ b) || decide (b ≤ a) := by
    intro a b
    simpa using String.le_total a b
  have ordered := List.pairwise_mergeSort transitive total texts
  simpa [sorted] using ordered

end PolicyReplica.Text
