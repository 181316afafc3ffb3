import Mathlib.Data.List.Infix
import ContentRouter.Proofs.Lists.Keys
import ContentRouter.Proofs.Routing.StableOrder
import ContentRouter.Proofs.Template.FullEquality
import ContentRouter.Routing.Registry

/-!
# Well-formed registries

A registry is well formed if its buckets carry the ids from one on, have pairwise distinct
addresses, and hold entries of their own address only. In a well-formed registry an id and an
address name at most one bucket, so that looking for a conflict in the bucket of a model is looking
for it everywhere (`Registry.WellFormed.conflict?_eq_none_iff`).

Registering for a handler is described by one equation (`Registry.registerExact_eq`): a conflict
that is there before the call refuses the model and changes nothing, and otherwise the model enters
the bucket of its address.
-/

namespace ContentRouter

namespace Bucket

/-- The authority and the normalized path of a bucket. -/
def address (bucket : Bucket) : String × String := (bucket.authority, bucket.normalizedPath)

/-- What stays of a bucket for good: its id and its address. -/
def label (bucket : Bucket) : MatcherId × String × String := (bucket.id, bucket.address)

/-- A bucket admits the models of its own authority and path. -/
theorem admits_iff (bucket : Bucket) (model : Model) :
    bucket.admits model = true ↔ bucket.address = model.address := by
  simp [admits, address, Model.address]

/-- An entry does not change the address of its bucket. -/
@[simp]
theorem address_insert (bucket : Bucket) (entry : Registration) :
    (bucket.insert entry).address = bucket.address := rfl

/-- An entry takes its place among those of the bucket. -/
@[simp]
theorem entries_insert (bucket : Bucket) (entry : Registration) :
    (bucket.insert entry).entries = place entry bucket.entries := rfl

/-- A bucket has no conflict if no entry serves the operation and the same requests. -/
theorem conflict?_eq_none_iff (bucket : Bucket) (model : Model) (operation : Operation) :
    bucket.conflict? model operation = none ↔
      ∀ entry ∈ bucket.entries,
        entry.owner.operation = operation → entry.model.fullyEquals model = false := by
  simp only [conflict?, List.find?_eq_none, Bool.and_eq_true, beq_iff_eq, not_and,
    Bool.not_eq_true]

end Bucket

namespace Registry

/-- Every entry, bucket by bucket. -/
def entries (registry : Registry) : List Registration := registry.buckets.flatMap (·.entries)

/-- The entries of a registry are those of its buckets. -/
theorem mem_entries {registry : Registry} {entry : Registration} :
    entry ∈ registry.entries ↔ ∃ bucket ∈ registry.buckets, entry ∈ bucket.entries :=
  List.mem_flatMap

/-- The ids and addresses of the buckets, in their order. -/
def labels (registry : Registry) : List (MatcherId × String × String) :=
  registry.buckets.map Bucket.label

private theorem map_id_buckets (registry : Registry) :
    registry.buckets.map (·.id) = registry.labels.map (·.1) := by
  rw [labels, List.map_map]
  rfl

/-- The addresses of the buckets can be read off the labels. -/
theorem map_address_buckets (registry : Registry) :
    registry.buckets.map Bucket.address = registry.labels.map (·.2) := by
  rw [labels, List.map_map]
  rfl

/-- The labels are the ids of the buckets, each with the address of its bucket. -/
theorem mem_labels {registry : Registry} {id : MatcherId} {address : String × String} :
    (id, address) ∈ registry.labels ↔
      ∃ bucket ∈ registry.buckets, bucket.id = id ∧ bucket.address = address := by
  simp only [labels, List.mem_map, Bucket.label, Prod.mk.injEq]

section Inserting

variable (registry : Registry) (id : MatcherId) (entry : Registration)

/-- The buckets after an entry went in are those from before, with the entry in those of its id. -/
theorem mem_buckets_insert {bucket : Bucket} :
    bucket ∈ (registry.insert id entry).buckets ↔
      ∃ before ∈ registry.buckets,
        bucket = if before.id = id then before.insert entry else before := by
  simp only [insert, List.mem_map, beq_iff_eq]
  exact exists_congr fun _ => and_congr Iff.rfl eq_comm

/-- An entry does not change the labels. -/
@[simp]
theorem labels_insert : (registry.insert id entry).labels = registry.labels := by
  rw [labels, insert, List.map_map]
  refine List.map_congr_left ?_
  intro bucket _
  dsimp only [Function.comp_apply]
  split <;> rfl

end Inserting

section Registering

variable (registry : Registry) (model : Model)

private theorem bucketFor?_eq_none_iff :
    registry.bucketFor? model = none ↔
      ∀ bucket ∈ registry.buckets, bucket.address ≠ model.address := by
  simp only [bucketFor?, List.find?_eq_none, Bucket.admits_iff, ne_eq]

/-- Authority and normalized path are all that a bucket is chosen by. -/
theorem bucketFor?_of_address {model other : Model} (same : other.address = model.address) :
    registry.bucketFor? other = registry.bucketFor? model := by
  have admits (bucket : Bucket) : bucket.admits other = bucket.admits model := by
    rw [Bool.eq_iff_iff, bucket.admits_iff, bucket.admits_iff, same]
  simp only [bucketFor?, admits]

/-- **Models with one authority and one normalized path get one id.** -/
theorem register_of_address {model other : Model} (same : other.address = model.address) :
    registry.register other = registry.register model := by
  obtain ⟨authority, path⟩ := Prod.mk.inj same
  simp only [register, idFor, withBucketFor, registry.bucketFor?_of_address same, Bucket.empty,
    authority, path]

/-- The bucket for a model is one of the registry, and has the address of the model. -/
theorem mem_of_bucketFor? {registry : Registry} {model : Model} {bucket : Bucket}
    (found : registry.bucketFor? model = some bucket) :
    bucket ∈ registry.buckets ∧ bucket.address = model.address := by
  unfold bucketFor? at found
  have admitted := List.find?_some found
  exact ⟨List.mem_of_find?_eq_some found, (bucket.admits_iff model).mp admitted⟩

/-- What making sure of a bucket does: nothing if there is one, and otherwise it appends one with
the next id. -/
theorem withBucketFor_cases :
    (∃ bucket ∈ registry.buckets, bucket.address = model.address ∧
        registry.idFor model = bucket.id ∧ registry.withBucketFor model = registry) ∨
      ((∀ bucket ∈ registry.buckets, bucket.address ≠ model.address) ∧
        registry.idFor model = registry.lastId + 1 ∧
        registry.withBucketFor model =
          { lastId := registry.lastId + 1,
            buckets := registry.buckets ++ [Bucket.empty (registry.lastId + 1) model] }) := by
  cases found : registry.bucketFor? model with
  | some bucket =>
      obtain ⟨member, same⟩ := mem_of_bucketFor? found
      exact .inl ⟨bucket, member, same, by simp only [idFor, found],
        by simp only [withBucketFor, found]⟩
  | none =>
      exact .inr ⟨(bucketFor?_eq_none_iff registry model).mp found, by simp only [idFor, found],
        by simp only [withBucketFor, found]⟩

/-- A bucket for a new address comes behind all others. -/
theorem labels_withBucketFor :
    registry.labels <+: (registry.withBucketFor model).labels := by
  obtain ⟨_, _, _, _, same⟩ | ⟨_, _, same⟩ := withBucketFor_cases registry model
  · rw [same]
  · rw [same, labels, labels, List.map_append]
    exact List.prefix_append _ _

/-- Once it is provided for, a model has a bucket with its own address and id. -/
theorem exists_bucket_withBucketFor :
    ∃ bucket ∈ (registry.withBucketFor model).buckets,
      bucket.address = model.address ∧ bucket.id = registry.idFor model := by
  obtain ⟨bucket, member, address, id, same⟩ | ⟨_, id, same⟩ := withBucketFor_cases registry model
  · rw [same]
    exact ⟨bucket, member, address, id.symm⟩
  · refine ⟨Bucket.empty (registry.lastId + 1) model, ?_, rfl, id.symm⟩
    rw [same]
    exact List.mem_append_right _ (List.mem_singleton_self _)

/-- A bucket that is new has no entries. -/
theorem mem_of_mem_withBucketFor {bucket : Bucket}
    (member : bucket ∈ (registry.withBucketFor model).buckets) :
    bucket ∈ registry.buckets ∨
      bucket.entries = [] ∧ ∀ other ∈ registry.buckets, other.address ≠ bucket.address := by
  obtain ⟨_, _, _, _, same⟩ | ⟨fresh, _, same⟩ := withBucketFor_cases registry model
  · exact .inl (same ▸ member)
  · rw [same] at member
    rcases List.mem_append.mp member with old | new
    · exact .inl old
    · rw [List.mem_singleton.mp new]
      exact .inr ⟨rfl, fresh⟩

/-- The bucket for a new address is empty and has the next id. -/
theorem bucketFor?_withBucketFor_of_none {registry : Registry} {model : Model}
    (missing : registry.bucketFor? model = none) :
    (registry.withBucketFor model).bucketFor? model =
      some (Bucket.empty (registry.lastId + 1) model) := by
  have old : registry.buckets.find? (·.admits model) = none := missing
  simp only [withBucketFor, missing]
  rw [bucketFor?, List.find?_append, old, Option.none_or]
  exact List.find?_cons_of_pos (((Bucket.empty _ model).admits_iff _).mpr rfl)

/-- Neither a new bucket nor a matcher id makes a conflict. -/
theorem conflict?_withBucketFor (id : MatcherId) (operation : Operation) :
    (registry.withBucketFor model).conflict? (model.withMatcherId id) operation =
      registry.conflict? model operation := by
  cases found : registry.bucketFor? model with
  | some bucket =>
      simp only [withBucketFor, found]
      rfl
  | none =>
      have search : (registry.withBucketFor model).bucketFor? (model.withMatcherId id) =
          some (Bucket.empty (registry.lastId + 1) model) :=
        bucketFor?_withBucketFor_of_none found
      simp only [conflict?, search, found, Option.bind_some, Option.bind_none]
      rfl

/-- **What registering for a handler does.** A conflict refuses the model and changes nothing;
otherwise the model enters the bucket of its address under its id. -/
theorem registerExact_eq (owner : Handler) :
    registry.registerExact model owner =
      match registry.conflict? model owner.operation with
      | some existing => (.error (duplicatePath model existing), registry)
      | none =>
          (.ok (registry.idFor model),
            (registry.withBucketFor model).insert (registry.idFor model)
              ⟨model.withMatcherId (registry.idFor model), owner⟩) := by
  simp only [registerExact, register, conflict?_withBucketFor]
  cases conflict : registry.conflict? model owner.operation with
  | none => rfl
  | some existing =>
      obtain ⟨bucket, found, _⟩ := Option.bind_eq_some_iff.mp conflict
      simp only [withBucketFor, found]
      rfl

end Registering

/-- What all registries have in common that calls lead to. -/
structure WellFormed (registry : Registry) : Prop where
  /-- The buckets carry the ids from one to the last one, in their order. -/
  ids : registry.buckets.map (·.id) = List.range' 1 registry.lastId
  /-- No two buckets have the same authority and path. -/
  distinct : (registry.buckets.map Bucket.address).Nodup
  /-- Every entry has the authority and path of its bucket. -/
  homed : ∀ bucket ∈ registry.buckets, ∀ entry ∈ bucket.entries,
    entry.model.address = bucket.address

/-- The empty registry is well-formed. -/
theorem wellFormed_empty : WellFormed {} where
  ids := rfl
  distinct := List.nodup_nil
  homed := List.forall_mem_nil _

namespace WellFormed

variable {registry : Registry} (wellFormed : registry.WellFormed)
include wellFormed

/-- The last id counts the buckets. -/
theorem length_buckets : registry.buckets.length = registry.lastId := by
  have lengths := congrArg List.length wellFormed.ids
  rwa [List.length_map, List.length_range'] at lengths

/-- Ids rise in the order of the buckets. -/
theorem ids_rise : (registry.buckets.map (·.id)).Pairwise (· < ·) := by
  rw [wellFormed.ids]
  exact List.pairwise_lt_range'

/-- No two buckets have the same id. -/
theorem ids_nodup : (registry.buckets.map (·.id)).Nodup :=
  wellFormed.ids_rise.imp Nat.ne_of_lt

/-- A bucket is told by its id. -/
theorem eq_of_id {bucket other : Bucket} (member : bucket ∈ registry.buckets)
    (otherMember : other ∈ registry.buckets) (same : bucket.id = other.id) : bucket = other :=
  List.inj_on_of_nodup_map wellFormed.ids_nodup member otherMember same

/-- A bucket is told by its address. -/
theorem eq_of_address {bucket other : Bucket} (member : bucket ∈ registry.buckets)
    (otherMember : other ∈ registry.buckets) (same : bucket.address = other.address) :
    bucket = other :=
  List.inj_on_of_nodup_map wellFormed.distinct member otherMember same

/-- An id finds exactly the bucket that has it. -/
theorem bucket?_eq_some_iff {id : MatcherId} {bucket : Bucket} :
    registry.bucket? id = some bucket ↔ bucket ∈ registry.buckets ∧ bucket.id = id :=
  find?_key_eq_some_iff _ wellFormed.ids_nodup

/-- Every bucket is found by its id. -/
theorem bucket?_eq_some {bucket : Bucket} (member : bucket ∈ registry.buckets) :
    registry.bucket? bucket.id = some bucket :=
  wellFormed.bucket?_eq_some_iff.mpr ⟨member, rfl⟩

private theorem bucketFor?_eq_some {bucket : Bucket} {model : Model}
    (member : bucket ∈ registry.buckets)
    (same : bucket.address = model.address) : registry.bucketFor? model = some bucket := by
  cases found : registry.bucketFor? model with
  | none => exact absurd same ((bucketFor?_eq_none_iff registry model).mp found bucket member)
  | some other =>
      obtain ⟨otherMember, otherSame⟩ := mem_of_bucketFor? found
      rw [wellFormed.eq_of_address otherMember member (otherSame.trans same.symm)]

/-- The id for a model is that of the bucket with its address. -/
theorem idFor_eq {bucket : Bucket} {model : Model} (member : bucket ∈ registry.buckets)
    (same : bucket.address = model.address) : registry.idFor model = bucket.id := by
  simp only [idFor, wellFormed.bucketFor?_eq_some member same]

/-- An address that has an id gets no other one. -/
theorem idFor_eq_of_label {model : Model} {id : MatcherId}
    (label : (id, model.address) ∈ registry.labels) : registry.idFor model = id := by
  obtain ⟨bucket, member, rfl, same⟩ := mem_labels.mp label
  exact wellFormed.idFor_eq member same

/-- **Looking into one bucket is looking everywhere.** A model has no conflict exactly if no entry
of any bucket serves the operation and the same requests. -/
theorem conflict?_eq_none_iff (model : Model) (operation : Operation) :
    registry.conflict? model operation = none ↔
      ∀ entry ∈ registry.entries,
        entry.owner.operation = operation → entry.model.fullyEquals model = false := by
  constructor
  · intro none entry member serves
    obtain ⟨bucket, bucketMember, inside⟩ := mem_entries.mp member
    rw [← Bool.not_eq_true]
    intro full
    have same : bucket.address = model.address :=
      (wellFormed.homed bucket bucketMember entry inside).symm.trans
        (Model.address_eq_of_fullyEquals full)
    rw [conflict?, wellFormed.bucketFor?_eq_some bucketMember same, Option.bind_some,
      Bucket.conflict?_eq_none_iff] at none
    exact absurd full (Bool.not_eq_true _ ▸ none entry inside serves)
  · intro free
    cases found : registry.bucketFor? model with
    | none => rw [conflict?, found, Option.bind_none]
    | some bucket =>
        rw [conflict?, found, Option.bind_some, Bucket.conflict?_eq_none_iff]
        intro entry inside
        exact free entry (mem_entries.mpr ⟨bucket, (mem_of_bucketFor? found).1, inside⟩)

/-- Providing for a model keeps a registry well-formed. -/
theorem withBucketFor (model : Model) : (registry.withBucketFor model).WellFormed := by
  obtain ⟨_, _, _, _, same⟩ | ⟨fresh, _, same⟩ := withBucketFor_cases registry model
  · rwa [same]
  · rw [same]
    constructor
    · rw [List.map_append, wellFormed.ids, List.range'_concat]
      simp [Bucket.empty, Nat.add_comm]
    · rw [List.map_append, List.nodup_append]
      refine ⟨wellFormed.distinct, List.nodup_singleton _, ?_⟩
      intro address member other single
      rw [List.mem_singleton.mp single]
      obtain ⟨bucket, bucketMember, rfl⟩ := List.mem_map.mp member
      exact fresh bucket bucketMember
    · intro bucket member entry inside
      rcases List.mem_append.mp member with old | new
      · exact wellFormed.homed bucket old entry inside
      · rw [List.mem_singleton.mp new] at inside
        exact absurd inside List.not_mem_nil

/-- An entry at its own address keeps a registry well-formed. -/
theorem insert {bucket : Bucket} (member : bucket ∈ registry.buckets) (entry : Registration)
    (same : entry.model.address = bucket.address) :
    (registry.insert bucket.id entry).WellFormed := by
  constructor
  · rw [map_id_buckets, labels_insert, ← map_id_buckets]
    exact wellFormed.ids
  · rw [map_address_buckets, labels_insert, ← map_address_buckets]
    exact wellFormed.distinct
  · intro changed changedMember other inside
    obtain ⟨before, beforeMember, rfl⟩ := (mem_buckets_insert registry _ entry).mp changedMember
    by_cases here : before.id = bucket.id
    · obtain rfl := wellFormed.eq_of_id beforeMember member here
      simp only [↓reduceIte, Bucket.insert, Bucket.mem_place] at inside ⊢
      rcases inside with rfl | inside
      · exact same
      · exact wellFormed.homed before beforeMember other inside
    · simp only [here, ↓reduceIte] at inside ⊢
      exact wellFormed.homed before beforeMember other inside

end WellFormed

end Registry

end ContentRouter
