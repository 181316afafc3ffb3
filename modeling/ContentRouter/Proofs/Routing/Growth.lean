import ContentRouter.Proofs.Routing.Registry

/-!
# Registries that grow

Whatever is registered, the buckets that are there stay where they are, with their ids, authorities
and paths, and keep their entries in their order (`Registry.growsTo_registerExact`). A new entry may
come between two old ones, but only in the bucket of its model, and a new bucket comes behind all
others.
-/

namespace ContentRouter

private theorem Bucket.sublist_place (entry : Registration) (entries : List Registration) :
    entries.Sublist (place entry entries) := by
  induction entries with
  | nil => exact List.nil_sublist _
  | cons existing rest ih =>
      unfold place
      split
      · exact List.sublist_cons_self _ _
      · exact ih.cons_cons existing

/-- An entry that is placed is the only one that is new, whatever is selected. -/
theorem Bucket.filter_place_of_neg {keep : Registration → Bool} {entry : Registration}
    (dropped : keep entry = false) (entries : List Registration) :
    (place entry entries).filter keep = entries.filter keep := by
  induction entries with
  | nil => simp [place, dropped]
  | cons existing rest ih =>
      unfold place
      split
      · rw [List.filter_cons_of_neg (by simp [dropped])]
      · rw [List.filter_cons, List.filter_cons, ih]

/-- Whether a bucket is what another one has become: it has the same label, and the entries of the
other one in their order. -/
structure Bucket.GrowsTo (bucket grown : Bucket) : Prop where
  label : grown.label = bucket.label
  entries : bucket.entries.Sublist grown.entries

namespace Bucket.GrowsTo

private theorem refl (bucket : Bucket) : bucket.GrowsTo bucket := ⟨rfl, List.Sublist.refl _⟩

private theorem trans {bucket later last : Bucket} (first : bucket.GrowsTo later)
    (second : later.GrowsTo last) : bucket.GrowsTo last where
  label := second.label.trans first.label
  entries := first.entries.trans second.entries

private theorem insert (bucket : Bucket) (entry : Registration) :
    bucket.GrowsTo (bucket.insert entry) where
  label := rfl
  entries := sublist_place entry bucket.entries

end Bucket.GrowsTo

namespace Registry

/-- Whether a registry is what another one has become: every bucket is where it was and has grown.
-/
def GrowsTo (registry grown : Registry) : Prop :=
  ∀ (index : Nat) bucket, registry.buckets[index]? = some bucket →
    ∃ later, grown.buckets[index]? = some later ∧ bucket.GrowsTo later

/-- A registry has grown from itself. -/
theorem GrowsTo.refl (registry : Registry) : registry.GrowsTo registry :=
  fun _ bucket found => ⟨bucket, found, .refl bucket⟩

/-- Growing twice is growing. -/
theorem GrowsTo.trans {registry later last : Registry} (first : registry.GrowsTo later)
    (second : later.GrowsTo last) : registry.GrowsTo last := by
  intro index bucket found
  obtain ⟨next, nextFound, grown⟩ := first index bucket found
  obtain ⟨final, finalFound, grownOn⟩ := second index next nextFound
  exact ⟨final, finalFound, grown.trans grownOn⟩

section Registering

variable (registry : Registry) (model : Model)

private theorem growsTo_withBucketFor : registry.GrowsTo (registry.withBucketFor model) := by
  obtain ⟨_, _, _, _, same⟩ | ⟨_, _, same⟩ := withBucketFor_cases registry model
  · rw [same]
    exact .refl registry
  · intro index bucket found
    obtain ⟨inside, _⟩ := List.getElem?_eq_some_iff.mp found
    refine ⟨bucket, ?_, .refl bucket⟩
    rw [same, List.getElem?_append_left inside, found]

private theorem growsTo_insert (id : MatcherId) (entry : Registration) :
    registry.GrowsTo (registry.insert id entry) := by
  intro index bucket found
  refine ⟨_, by rw [insert, List.getElem?_map, found, Option.map_some], ?_⟩
  split
  · exact .insert bucket entry
  · exact .refl bucket

/-- **What registering for a handler does to the buckets**: they stay where they are and grow. -/
theorem growsTo_registerExact (owner : Handler) :
    registry.GrowsTo (registry.registerExact model owner).2 := by
  rw [registerExact_eq]
  cases registry.conflict? model owner.operation with
  | some existing => exact .refl registry
  | none => exact (registry.growsTo_withBucketFor model).trans (growsTo_insert _ _ _)

end Registering

end Registry

end ContentRouter
