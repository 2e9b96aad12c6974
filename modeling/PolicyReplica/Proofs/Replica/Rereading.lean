import PolicyReplica.Proofs.Domain.Rereading
import PolicyReplica.Replica.Codec

/-
Reading replicas from their JSON form.

The metadata and the replica itself are read field by field, and fields that no reader asks for
are passed over. A status without a message is written without the field, whose default is the
empty message. Main statement: no snapshot and no replica is changed by being written and read
again.
-/

namespace PolicyReplica

open Json

variable {limit : Nat}

namespace Metadata

theorem toJson_eq (metadata : Metadata) :
    metadata.toJson =
      .object (written ["name", "generateName", "namespace", "resourceVersion", "labels"]
        [metadata.name.map Json.string, metadata.generateName.map Json.string,
          metadata.enclosing.map Json.string, metadata.version.map Json.string,
          metadata.labels.map ofTexts]) := by
  simp [toJson]

theorem exact : Exact ofJson? toJson := by
  intro metadata
  have name := exact_text.optional rfl metadata.name
  have generateName := exact_text.optional rfl metadata.generateName
  have enclosing := exact_text.optional rfl metadata.enclosing
  have version := exact_text.optional rfl metadata.version
  have labels := exact_textTable.optional rfl metadata.labels
  rw [toJson_eq, ofJson?]
  rw [last?_written text? (metadata.name.map Json.string) (by decide) (by simp),
    last?_written text? (metadata.generateName.map Json.string) (by decide) (by simp),
    last?_written text? (metadata.enclosing.map Json.string) (by decide) (by simp),
    last?_written text? (metadata.version.map Json.string) (by decide) (by simp),
    last?_written (map? text?) (metadata.labels.map ofTexts) (by decide) (by simp)]
  simp only [name, generateName, enclosing, version, labels, Option.bind_eq_bind,
    Option.bind_some, Option.pure_def]

theorem plain (metadata : Metadata) : Plain (limit + 2) metadata.toJson := by
  rw [toJson_eq]
  refine Plain.written ?_
  simp [Plain.string, Plain.textTable]

end Metadata

namespace ReplicaStatus

theorem exact : Exact ofJson? toJson := by
  intro status
  unfold toJson
  by_cases silent : status.message = ""
  · rw [if_pos silent]
    cases status
    subst silent
    rfl
  · rw [if_neg silent]
    rfl

theorem plain (status : ReplicaStatus) : Plain (limit + 1) status.toJson := by
  refine Plain.object ?_
  by_cases silent : status.message = ""
  · rw [if_pos silent]
    exact nofun
  · rw [if_neg silent, List.forall_mem_singleton]
    exact Plain.string status.message

end ReplicaStatus

namespace Replica

theorem toJson_eq (replica : Replica) :
    replica.toJson =
      .object (written ["apiVersion", "kind", "metadata", "spec", "status"]
        [some (.string apiVersion), some (.string kind), some replica.metadata.toJson,
          some replica.snapshot.toJson, replica.status.map ReplicaStatus.toJson]) := by
  simp [toJson]

theorem specification?_toJson (snapshot : Snapshot) :
    specification? snapshot.toJson = some snapshot := by
  have plain : Plain 8 snapshot.toJson := snapshot.plain
  have sound : areSoundFields snapshot.toFields = true := plain.isSound
  have shallow : (Json.object snapshot.toFields).depth < deepestNesting :=
    Nat.lt_of_le_of_lt plain.depth_le (by decide)
  rw [Snapshot.toJson, specification?, sound, decide_eq_true shallow]
  exact Snapshot.exact isNullOrEmpty snapshot

theorem exact : Exact ofJson? toJson := by
  intro replica
  have metadata := Metadata.exact replica.metadata
  have spec := specification?_toJson replica.snapshot
  have status := ReplicaStatus.exact.optional rfl replica.status
  have slots : slots? ["metadata", "spec", "status"] replica.toJson =
      some [some replica.metadata.toJson, some replica.snapshot.toJson,
        replica.status.map ReplicaStatus.toJson] := by
    rw [toJson_eq]
    exact slots?_of_subset (by decide) [("metadata", some replica.metadata.toJson),
      ("spec", some replica.snapshot.toJson),
      ("status", replica.status.map ReplicaStatus.toJson)] (by simp)
  rw [ofJson?, slots]
  have complete : isComplete replica.toJson = true := rfl
  simp only [complete, if_true, required, metadata, spec, status, Option.bind_eq_bind,
    Option.bind_some, Option.pure_def]

theorem plain (replica : Replica) : Plain (limit + 9) replica.toJson := by
  rw [toJson_eq]
  refine Plain.written ?_
  simp [Plain.string, Metadata.plain, Snapshot.plain, ReplicaStatus.plain]

/-- Every replica is read back from its text. -/
theorem exact_parse : Exact parse? fun replica => replica.toJson.render := by
  intro replica
  have plain : Plain 9 replica.toJson := replica.plain
  rw [parse?, Json.parse?_render plain.fits, Option.bind_some, exact]

/-- Writing loses nothing: every snapshot and every replica is read back from its text, so that
different ones have different texts, and reading the text that was written for what another
text holds gives the same again. -/
theorem json_lossless :
    (∀ snapshot : Snapshot, Snapshot.parse? snapshot.toJson.render = some snapshot) ∧
      (∀ replica : Replica, parse? replica.toJson.render = some replica) ∧
      (Function.Injective fun snapshot : Snapshot => snapshot.toJson.render) ∧
      (Function.Injective fun replica : Replica => replica.toJson.render) ∧
      (∀ text : String,
        ((Snapshot.parse? text).bind fun snapshot => Snapshot.parse? snapshot.toJson.render) =
          Snapshot.parse? text) ∧
      ∀ text : String,
        ((parse? text).bind fun replica => parse? replica.toJson.render) = parse? text :=
  ⟨Snapshot.exact_parse, exact_parse, Snapshot.exact_parse.injective, exact_parse.injective,
    Snapshot.exact_parse.again, exact_parse.again⟩

end Replica

end PolicyReplica
