/-
Lists without repetitions.
-/

namespace PolicyReplica

/-- The elements of a list, each where it occurs first. -/
def distinct {α : Type} [DecidableEq α] : List α → List α
  | [] => []
  | x :: rest => x :: (distinct rest).filter (· ≠ x)

theorem mem_distinct {α : Type} [DecidableEq α] {x : α} {items : List α} :
    x ∈ distinct items ↔ x ∈ items := by
  induction items with
  | nil => simp [distinct]
  | cons y rest ih =>
      by_cases same : x = y
      · simp [distinct, same]
      · simp [distinct, same, ih]

theorem nodup_distinct {α : Type} [DecidableEq α] (items : List α) :
    (distinct items).Nodup := by
  induction items with
  | nil => exact List.nodup_nil
  | cons y rest ih =>
      rw [distinct, List.nodup_cons]
      exact ⟨by simp, ih.filter _⟩

theorem distinct_of_nodup {α : Type} [DecidableEq α] {items : List α} (nodup : items.Nodup) :
    distinct items = items := by
  induction items with
  | nil => rfl
  | cons y rest ih =>
      obtain ⟨fresh, restNodup⟩ := List.nodup_cons.mp nodup
      rw [distinct, ih restNodup, List.filter_eq_self.mpr]
      intro x member
      exact decide_eq_true fun same => fresh (same ▸ member)

theorem distinct_append {α : Type} [DecidableEq α] (first second : List α) :
    distinct (first ++ second) =
      distinct first ++ (distinct second).filter (fun x => x ∉ first) := by
  induction first with
  | nil =>
      rw [List.nil_append, List.filter_eq_self.mpr fun _ _ => decide_eq_true List.not_mem_nil]
      rfl
  | cons y rest ih =>
      rw [List.cons_append, distinct, ih, List.filter_append, List.filter_filter, distinct,
        List.cons_append]
      simp [List.mem_cons, not_or]

/-- Repetitions may be left out of a part beforehand. -/
theorem distinct_distinct_append {α : Type} [DecidableEq α] (first second : List α) :
    distinct (distinct first ++ second) = distinct (first ++ second) := by
  rw [distinct_append, distinct_append, distinct_of_nodup (nodup_distinct first)]
  simp only [mem_distinct]

theorem distinct_flatMap_distinct {α β : Type} [DecidableEq β] (items : List α)
    (parts : α → List β) :
    distinct (items.flatMap fun x => distinct (parts x)) = distinct (items.flatMap parts) := by
  induction items with
  | nil => rfl
  | cons x rest ih =>
      rw [List.flatMap_cons, List.flatMap_cons, distinct_distinct_append, distinct_append, ih,
        ← distinct_append]

/-- An element comes before another one if it occurs at a place before all places of the
other: the places are given with the elements, in order. -/
theorem pairwise_distinct {α ι : Type} [DecidableEq α] {before : ι → ι → Prop}
    {entries : List (ι × α)} (ordered : (entries.map Prod.fst).Pairwise before) :
    (distinct (entries.map Prod.snd)).Pairwise fun earlier later =>
      ∃ place, (place, earlier) ∈ entries ∧
        ∀ other, (other, later) ∈ entries → before place other := by
  induction entries with
  | nil => exact List.Pairwise.nil
  | cons entry rest ih =>
      obtain ⟨first, x⟩ := entry
      obtain ⟨ahead, restOrdered⟩ := List.pairwise_cons.mp ordered
      -- What is another element occurs only later in the list.
      have later_of_ne : ∀ {y place}, y ≠ x → (place, y) ∈ (first, x) :: rest →
          (place, y) ∈ rest := by
        intro y place apart member
        exact (List.mem_cons.mp member).resolve_left fun same => apart (congrArg Prod.snd same)
      have apart_of_mem : ∀ {y}, y ∈ (distinct (rest.map Prod.snd)).filter (· ≠ x) → y ≠ x :=
        fun member => of_decide_eq_true (List.mem_filter.mp member).2
      rw [List.map_cons, distinct, List.pairwise_cons]
      constructor
      · intro y member
        refine ⟨first, List.mem_cons_self, fun other occurs => ?_⟩
        exact ahead other
          (List.mem_map_of_mem (f := Prod.fst) (later_of_ne (apart_of_mem member) occurs))
      · refine ((ih restOrdered).filter _).imp_of_mem ?_
        rintro y z _ member ⟨place, occurs, leads⟩
        exact ⟨place, List.mem_cons_of_mem _ occurs,
          fun other occursLater => leads other (later_of_ne (apart_of_mem member) occursLater)⟩

end PolicyReplica
