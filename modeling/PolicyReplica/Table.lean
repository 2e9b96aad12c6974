/-
Finite maps with decidable keys.

A table is a list of entries in which no key occurs twice. Its view is `get?`:
each operation is described by what it does to the values found under the keys,
and the entries are exactly the pairs that `get?` shows.
-/

namespace PolicyReplica

structure Table (κ ν : Type) where
  entries : List (κ × ν)
  distinctKeys : (entries.map Prod.fst).Nodup
  deriving DecidableEq

namespace Table

variable {κ ν : Type}

def empty : Table κ ν :=
  { entries := [], distinctKeys := List.nodup_nil }

def keys (table : Table κ ν) : List κ :=
  table.entries.map Prod.fst

def values (table : Table κ ν) : List ν :=
  table.entries.map Prod.snd

def size (table : Table κ ν) : Nat :=
  table.entries.length

def isEmpty (table : Table κ ν) : Bool :=
  table.entries.isEmpty

private theorem nodup_keys_filter {entries : List (κ × ν)} (keep : κ × ν → Bool)
    (distinct : (entries.map Prod.fst).Nodup) :
    ((entries.filter keep).map Prod.fst).Nodup :=
  distinct.sublist (List.filter_sublist.map Prod.fst)

variable [DecidableEq κ]

def get? (table : Table κ ν) (key : κ) : Option ν :=
  (table.entries.find? fun entry => entry.1 = key).map Prod.snd

def contains (table : Table κ ν) (key : κ) : Bool :=
  (table.get? key).isSome

def erase (table : Table κ ν) (key : κ) : Table κ ν :=
  { entries := table.entries.filter fun entry => entry.1 ≠ key
    distinctKeys := nodup_keys_filter _ table.distinctKeys }

def insert (table : Table κ ν) (key : κ) (value : ν) : Table κ ν :=
  { entries := (table.entries.filter fun entry => entry.1 ≠ key) ++ [(key, value)]
    distinctKeys := by
      rw [List.map_append, List.nodup_append]
      refine ⟨nodup_keys_filter _ table.distinctKeys, by simp, ?_⟩
      intro other inFilter last inLast same
      obtain ⟨entry, kept, rfl⟩ := List.mem_map.mp inFilter
      simp only [List.map_cons, List.map_nil, List.mem_singleton] at inLast
      have different := (List.mem_filter.mp kept).2
      simp [same, inLast] at different }

/-- The table of the entries, of which the last one of a key counts. -/
def ofEntries (entries : List (κ × ν)) : Table κ ν :=
  entries.foldl (fun table entry => table.insert entry.1 entry.2) empty

@[simp] theorem get?_empty (key : κ) : (empty : Table κ ν).get? key = none := rfl

theorem get?_erase (table : Table κ ν) (key other : κ) :
    (table.erase key).get? other = if other = key then none else table.get? other := by
  simp only [get?, erase]
  generalize table.entries = entries
  induction entries with
  | nil => simp
  | cons entry rest ih =>
      by_cases here : entry.1 = key
      · by_cases wanted : other = key
        · simp [wanted]
        · have passed : ¬ key = other := fun same => wanted same.symm
          simpa [here, wanted, passed, List.find?_cons] using ih
      · by_cases found : entry.1 = other
        · have kept : ¬ other = key := fun same => here (found.trans same)
          simp [found, kept]
        · simpa [here, found, List.find?_cons] using ih

@[simp] theorem get?_erase_self (table : Table κ ν) (key : κ) :
    (table.erase key).get? key = none := by
  simp [get?_erase]

theorem get?_insert (table : Table κ ν) (key other : κ) (value : ν) :
    (table.insert key value).get? other = if other = key then some value else table.get? other := by
  have erased := get?_erase table key other
  simp only [get?, erase, insert, List.find?_append] at erased ⊢
  by_cases same : other = key
  · subst same
    rw [if_pos rfl] at erased ⊢
    have nothing := Option.map_eq_none_iff.mp erased
    rw [nothing]
    simp
  · rw [if_neg same] at erased ⊢
    have differs : ¬ key = other := fun equal => same equal.symm
    simpa [differs] using erased

@[simp] theorem get?_insert_self (table : Table κ ν) (key : κ) (value : ν) :
    (table.insert key value).get? key = some value := by
  simp [get?_insert]

/-- The entries are the pairs that `get?` shows. -/
theorem mem_entries_iff (table : Table κ ν) (key : κ) (value : ν) :
    (key, value) ∈ table.entries ↔ table.get? key = some value := by
  have distinct := table.distinctKeys
  simp only [get?]
  generalize table.entries = entries at distinct ⊢
  induction entries with
  | nil => simp
  | cons entry rest ih =>
      rw [List.map_cons, List.nodup_cons] at distinct
      by_cases here : entry.1 = key
      · have absent : (key, value) ∉ rest := fun member =>
          distinct.1 (here ▸ List.mem_map.mpr ⟨_, member, rfl⟩)
        simp only [List.mem_cons, absent, or_false, List.find?_cons, here, decide_true,
          Option.map_some, Option.some.injEq]
        constructor
        · intro same
          rw [← same]
        · intro same
          rw [← same, ← here]
      · have differs : (key, value) ≠ entry := fun same => here (by rw [← same])
        simpa [List.find?_cons, here, differs] using ih distinct.2

/-- The keys are those under which `get?` finds a value. -/
theorem mem_keys_iff (table : Table κ ν) (key : κ) :
    key ∈ table.keys ↔ (table.get? key).isSome := by
  rw [keys, List.mem_map, Option.isSome_iff_exists]
  constructor
  · rintro ⟨entry, member, rfl⟩
    exact ⟨entry.2, (mem_entries_iff table entry.1 entry.2).mp member⟩
  · rintro ⟨value, found⟩
    exact ⟨(key, value), (mem_entries_iff table key value).mpr found, rfl⟩

private theorem entries_foldl_insert (entries : List (κ × ν)) (table : Table κ ν)
    (distinct : ((table.entries ++ entries).map Prod.fst).Nodup) :
    (entries.foldl (fun table entry => table.insert entry.1 entry.2) table).entries =
      table.entries ++ entries := by
  induction entries generalizing table with
  | nil => simp
  | cons entry rest ih =>
      have kept :
          table.entries.filter (fun other => decide (other.1 ≠ entry.1)) = table.entries := by
        rw [List.filter_eq_self]
        intro other member
        rw [List.map_append, List.nodup_append] at distinct
        have differs :=
          distinct.2.2 other.1 (List.mem_map.mpr ⟨other, member, rfl⟩) entry.1 (by simp)
        simpa using differs
      have inserted : (table.insert entry.1 entry.2).entries = table.entries ++ [entry] := by
        simp only [insert, kept]
      rw [List.foldl_cons, ih]
      · rw [inserted, List.append_assoc, List.singleton_append]
      · rw [inserted, List.append_assoc, List.singleton_append]
        exact distinct

/-- A table is given back by its entries. -/
@[simp] theorem ofEntries_entries (table : Table κ ν) : ofEntries table.entries = table := by
  have same := entries_foldl_insert table.entries empty (by simpa [empty] using table.distinctKeys)
  cases table with
  | mk entries distinctKeys =>
      simp only [ofEntries, empty, List.nil_append] at same ⊢
      cases folded : entries.foldl (fun table entry => table.insert entry.1 entry.2)
          (⟨[], List.nodup_nil⟩ : Table κ ν) with
      | mk others distinctOthers =>
          rw [folded] at same
          simp only at same
          subst same
          rfl

end Table

end PolicyReplica
