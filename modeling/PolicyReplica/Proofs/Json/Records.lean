import Mathlib.Data.List.Nodup
import PolicyReplica.Json.Record
import PolicyReplica.Proofs.Json.Rereading

/-
Records that are written as objects.

A record is written as the object of those declared fields that have a value. No name is
declared twice, so a reader finds in each slot what was put there. A decoder that is exact for
single values is exact for lists and for optional fields of them; an optional field needs that
nothing is encoded as null, which a decoder that rejects null shows.
-/

namespace PolicyReplica.Json

def written : List String → List (Option Json) → List (String × Json)
  | name :: names, some value :: values => (name, value) :: written names values
  | _ :: names, none :: values => written names values
  | _, _ => []

@[simp] theorem written_nil (values : List (Option Json)) : written [] values = [] := by
  cases values <;> rfl

@[simp] theorem written_cons (name : String) (names : List String) (value : Option Json)
    (values : List (Option Json)) :
    written (name :: names) (value :: values) =
      (value.map (name, ·)).toList ++ written names values := by
  cases value <;> rfl

@[simp] theorem present_eq {α : Type} (name : String) (encode : α → Json) (value : Option α) :
    present name encode value = ((value.map encode).map (name, ·)).toList := by
  cases value <;> rfl

theorem name_mem_of_mem_written {names : List String} {values : List (Option Json)}
    {field : String × Json} (member : field ∈ written names values) : field.1 ∈ names := by
  induction names generalizing values with
  | nil => cases member
  | cons name names ih =>
      cases values with
      | nil => cases member
      | cons value values =>
          rw [written_cons, List.mem_append] at member
          rcases member with here | later
          · obtain ⟨value, rfl, rfl⟩ := Option.map_eq_some_iff.mp (Option.mem_toList.mp here)
            exact List.mem_cons_self
          · exact List.mem_cons_of_mem name (ih later)

theorem value_mem_of_mem_written {names : List String} {values : List (Option Json)}
    {field : String × Json} (member : field ∈ written names values) :
    some field.2 ∈ values := by
  induction names generalizing values with
  | nil => cases member
  | cons name names ih =>
      cases values with
      | nil => cases member
      | cons value values =>
          rw [written_cons, List.mem_append] at member
          rcases member with here | later
          · obtain ⟨value, rfl, rfl⟩ := Option.map_eq_some_iff.mp (Option.mem_toList.mp here)
            exact List.mem_cons_self
          · exact List.mem_cons_of_mem value (ih later)

/-- Among the fields of distinct names, those of one name are what its slot holds. -/
theorem filter_written {names : List String} (distinct : names.Nodup)
    {values : List (Option Json)} {name : String} {value : Option Json}
    (member : (name, value) ∈ names.zip values) :
    (written names values).filter (fun field => field.1 == name) =
      (value.map (name, ·)).toList := by
  induction names generalizing values with
  | nil => cases member
  | cons first names ih =>
      cases values with
      | nil => cases member
      | cons other values =>
          obtain ⟨fresh, distinct⟩ := List.nodup_cons.mp distinct
          rw [written_cons, List.filter_append]
          rcases List.mem_cons.mp member with here | later
          · obtain ⟨rfl, rfl⟩ := Prod.mk.inj here
            have others :
                (written names values).filter (fun field => field.1 == name) = [] := by
              rw [List.filter_eq_nil_iff]
              intro field inRest same
              exact fresh (beq_iff_eq.mp same ▸ name_mem_of_mem_written inRest)
            rw [others, List.append_nil]
            cases value <;> simp
          · have differs : first ≠ name := by
              rintro rfl
              exact fresh (List.of_mem_zip later).1
            have none : ((other.map (first, ·)).toList).filter
                (fun field => field.1 == name) = [] := by
              cases other <;> simp [differs]
            rw [none, List.nil_append]
            exact ih distinct later

section Reading

variable {names : List String} {values : List (Option Json)} {name : String}
  {value : Option Json}

theorem once?_written (distinct : names.Nodup) (member : (name, value) ∈ names.zip values) :
    once? name (written names values) = some value := by
  unfold once?
  rw [filter_written distinct member]
  cases value <;> rfl

theorem last?_written {α : Type} (decode : Json → Option α) (value : Option Json)
    (distinct : names.Nodup) (member : (name, value) ∈ names.zip values) :
    last? name decode (written names values) = optional decode value := by
  unfold last?
  rw [filter_written distinct member]
  cases value with
  | none => rfl
  | some value =>
      rw [Option.map_some, Option.toList_some, List.mapM_cons, List.mapM_nil]
      cases optional decode (some value) <;> rfl

end Reading

theorem mapM_map_of_forall {α β γ : Type} {decode : β → Option γ} {encode : α → β} {view : α → γ}
    (items : List α) (exact : ∀ item ∈ items, decode (encode item) = some (view item)) :
    (items.map encode).mapM decode = some (items.map view) := by
  induction items with
  | nil => rfl
  | cons item items ih =>
      rw [List.map_cons, List.mapM_cons, exact item List.mem_cons_self,
        ih fun other member => exact other (List.mem_cons_of_mem item member)]
      rfl

/-- Each slot that a reader asks for holds what was written there. -/
theorem slots?_of_subset {names : List String} (distinct : names.Nodup)
    {values : List (Option Json)} (slots : List (String × Option Json))
    (declared : slots ⊆ names.zip values) :
    slots? (slots.map Prod.fst) (.object (written names values)) = some (slots.map Prod.snd) :=
  mapM_map_of_forall slots fun _ member => once?_written distinct (declared member)

theorem slots?_written {names : List String} (distinct : names.Nodup)
    {values : List (Option Json)} (filled : names.length = values.length) :
    slots? names (.object (written names values)) = some values := by
  have found := slots?_of_subset distinct (names.zip values) (List.Subset.refl _)
  rw [List.map_fst_zip (Nat.le_of_eq filled), List.map_snd_zip (Nat.le_of_eq filled.symm)] at found
  exact found

/-! ### Exact decoders -/

/-- Holds of a decoder that gives back each value from its encoding. -/
def Exact {α β : Type} (decode : β → Option α) (encode : α → β) : Prop :=
  ∀ value, decode (encode value) = some value

theorem Exact.injective {α β : Type} {decode : β → Option α} {encode : α → β}
    (exact : Exact decode encode) : Function.Injective encode := by
  intro left right same
  have read := exact left
  rw [same, exact right] at read
  exact (Option.some.inj read).symm

/-- What any code holds is also held by its own encoding. -/
theorem Exact.again {α β : Type} {decode : β → Option α} {encode : α → β}
    (exact : Exact decode encode) (code : β) :
    ((decode code).bind fun value => decode (encode value)) = decode code := by
  cases decode code with
  | none => rfl
  | some value => exact exact value

section Exact

variable {α : Type} {decode : Json → Option α} {encode : α → Json}

theorem Exact.list (exact : Exact decode encode) :
    Exact (list? decode) (fun values => .array (values.map encode)) := by
  intro values
  have read := mapM_map_of_forall values fun value _ => exact value
  rw [List.map_id'] at read
  exact read

theorem Exact.optional (exact : Exact decode encode) (rejects : decode .null = none)
    (value : Option α) : Json.optional decode (value.map encode) = some value := by
  cases value with
  | none => rfl
  | some value =>
      have written : encode value ≠ .null := by
        intro null
        have read := exact value
        rw [null, rejects] at read
        cases read
      rw [Option.map_some, Json.optional, exact value]
      · rfl
      · exact written

end Exact

theorem exact_text : Exact text? Json.string :=
  fun _ => rfl

theorem exact_texts : Exact (list? text?) texts :=
  exact_text.list

theorem exact_bool : Exact bool? Json.bool :=
  fun _ => rfl

theorem exact_int64 : Exact int64? (fun n => .int n.toInt) := by
  intro n
  have least := n.le_toInt
  have largest := n.toInt_lt
  unfold int64? int
  simp only
  rw [if_pos ⟨least, largest⟩, Int64.ofInt_toInt]

theorem exact_textTable : Exact (map? text?) ofTexts := by
  intro table
  have read : (table.entries.map fun entry => (entry.1, Json.string entry.2)).mapM
      (fun field => (text? field.2).map (field.1, ·)) = some (table.entries.map id) :=
    mapM_map_of_forall table.entries fun _ _ => rfl
  rw [List.map_id] at read
  calc
    map? text? (ofTexts table) = (some table.entries).map Table.ofEntries :=
      congrArg (Option.map Table.ofEntries) read
    _ = some table := congrArg some table.ofEntries_entries

/-! ### Plain values -/

/-- Holds of a value that is nested at most so deep, in which every string denotes a text and
every number is an integer that fits. -/
inductive Plain : Nat → Json → Prop where
  | bool {limit : Nat} (value : Bool) : Plain limit (.bool value)
  | integer {limit : Nat} {n : Int} (fits : (Number.integer n).Fits) : Plain limit (.int n)
  | string {limit : Nat} (text : String) : Plain limit (.string text)
  | array {limit : Nat} {items : List Json} (plain : ∀ item ∈ items, Plain limit item) :
      Plain (limit + 1) (.array items)
  | object {limit : Nat} {fields : List (String × Json)}
      (plain : ∀ field ∈ fields, Plain limit field.2) : Plain (limit + 1) (.object fields)

theorem fitItems_iff (items : List Json) : FitItems items ↔ ∀ item ∈ items, item.Fits := by
  induction items with
  | nil => exact ⟨nofun, fun _ => trivial⟩
  | cons item items ih => rw [FitItems, ih, List.forall_mem_cons]

theorem fitFields_iff (fields : List (String × Json)) :
    FitFields fields ↔ ∀ field ∈ fields, field.2.Fits := by
  induction fields with
  | nil => exact ⟨nofun, fun _ => trivial⟩
  | cons field fields ih => rw [FitFields, ih, List.forall_mem_cons]

theorem areSoundItems_iff (items : List Json) :
    areSoundItems items = true ↔ ∀ item ∈ items, item.isSound = true := by
  induction items with
  | nil => exact ⟨nofun, fun _ => rfl⟩
  | cons item items ih => rw [areSoundItems, Bool.and_eq_true, ih, List.forall_mem_cons]

theorem areSoundFields_iff (fields : List (String × Json)) :
    areSoundFields fields = true ↔ ∀ field ∈ fields, field.2.isSound = true := by
  induction fields with
  | nil => exact ⟨nofun, fun _ => rfl⟩
  | cons field fields ih => rw [areSoundFields, Bool.and_eq_true, ih, List.forall_mem_cons]

theorem depthOfItems_le_iff (items : List Json) (limit : Nat) :
    depthOfItems items ≤ limit ↔ ∀ item ∈ items, item.depth ≤ limit := by
  induction items with
  | nil => exact ⟨nofun, fun _ => Nat.zero_le limit⟩
  | cons item items ih => rw [depthOfItems, Nat.max_le, ih, List.forall_mem_cons]

theorem depthOfFields_le_iff (fields : List (String × Json)) (limit : Nat) :
    depthOfFields fields ≤ limit ↔ ∀ field ∈ fields, field.2.depth ≤ limit := by
  induction fields with
  | nil => exact ⟨nofun, fun _ => Nat.zero_le limit⟩
  | cons field fields ih => rw [depthOfFields, Nat.max_le, ih, List.forall_mem_cons]

namespace Plain

variable {limit : Nat} {value : Json}

theorem fits (plain : Plain limit value) : value.Fits := by
  induction plain with
  | bool value => trivial
  | integer fits => exact fits
  | string text => trivial
  | array _ ih => exact (fitItems_iff _).mpr ih
  | object _ ih => exact (fitFields_iff _).mpr ih

theorem isSound (plain : Plain limit value) : value.isSound = true := by
  induction plain with
  | bool value => rfl
  | integer fits => rfl
  | string text => rfl
  | array _ ih => exact (areSoundItems_iff _).mpr ih
  | object _ ih => exact (areSoundFields_iff _).mpr ih

theorem depth_le (plain : Plain limit value) : value.depth ≤ limit := by
  induction plain with
  | bool value => exact Nat.zero_le _
  | integer fits => exact Nat.zero_le _
  | string text => exact Nat.zero_le _
  | array _ ih => exact Nat.succ_le_succ ((depthOfItems_le_iff _ _).mpr ih)
  | object _ ih => exact Nat.succ_le_succ ((depthOfFields_le_iff _ _).mpr ih)

theorem textTable (table : Table String String) : Plain (limit + 1) (ofTexts table) :=
  object (List.forall_mem_map.mpr fun entry _ => string entry.2)

theorem list {α : Type} {encode : α → Json} (plain : ∀ value, Plain limit (encode value))
    (values : List α) : Plain (limit + 1) (.array (values.map encode)) :=
  array (List.forall_mem_map.mpr fun value _ => plain value)

theorem written {names : List String} {values : List (Option Json)}
    (plain : ∀ slot ∈ values, ∀ value ∈ slot, Plain limit value) :
    Plain (limit + 1) (.object (written names values)) :=
  object fun _ member => plain _ (value_mem_of_mem_written member) _ rfl

theorem int64 (n : Int64) : Plain limit (.int n.toInt) := by
  have least := n.le_toInt
  have largest := n.toInt_lt
  exact integer ⟨least, by omega⟩

end Plain

end PolicyReplica.Json
