import ContentRouter.Proofs.Routing.Registry
import ContentRouter.Proofs.Template.Rewriting

/-!
# Aliases

Two models are aliases if they have the same authority and path and ask for the same in any order. A
registry looks at nothing else: it keeps aliases in one bucket under one id. As every conflict of
the one is a conflict of the other, at most one of them can be registered for an operation
(`Model.excludes_of_isAlias`).

A rewritten template gives an alias of its model. So no duplicate hides behind other names for its
placeholders or another order of its query (`Model.rewriting_law`).
-/

namespace ContentRouter

namespace Model

/-- Whether two models have the same authority and path and ask for the same. -/
structure IsAlias (model other : Model) : Prop where
  address : model.address = other.address
  guard : model.guard.Perm other.guard

variable {model other : Model}

private theorem IsAlias.refl (model : Model) : model.IsAlias model := ⟨rfl, List.Perm.refl _⟩

private theorem IsAlias.symm (aliases : model.IsAlias other) : other.IsAlias model :=
  ⟨aliases.address.symm, aliases.guard.symm⟩

private theorem IsAlias.fullyEquals (aliases : model.IsAlias other) :
    model.fullyEquals other = true :=
  (fullyEquals_iff_subset model other).mpr
    ⟨aliases.address, aliases.guard.length_eq, aliases.guard.subset⟩

/-- What is fully equal to a model is fully equal to its aliases. -/
theorem IsAlias.fullyEquals_eq (aliases : model.IsAlias other) (entry : Model) :
    entry.fullyEquals other = entry.fullyEquals model := by
  have subset : entry.guard ⊆ other.guard ↔ entry.guard ⊆ model.guard :=
    ⟨(List.Subset.trans · aliases.guard.symm.subset), (List.Subset.trans · aliases.guard.subset)⟩
  rw [Bool.eq_iff_iff, fullyEquals_iff_subset, fullyEquals_iff_subset, aliases.address,
    aliases.guard.length_eq, subset]

end Model

/-- Whether registering a model shuts another one out, in every registry: the other is refused
for the same operation and changes nothing. If the model was accepted, the other is a duplicate of
it. -/
def Model.Excludes (model other : Model) : Prop :=
  ∀ (registry : Registry) (owner again : Handler), again.operation = owner.operation →
    let (answer, next) := registry.registerExact model owner
    ∃ holder : Handler,
      next.registerExact other again =
          (.error (.duplicatePath other.text other.authority holder.text), next) ∧
        ∀ id, answer = .ok id → holder = owner

/-- An entry that comes into a bucket without a conflict is the conflict of the next one. -/
theorem Bucket.conflict?_insert {bucket : Bucket} {entry : Registration} {model : Model}
    {operation : Operation} (free : bucket.conflict? model operation = none)
    (serves : entry.owner.operation = operation) (full : entry.model.fullyEquals model = true) :
    (bucket.insert entry).conflict? model operation = some entry := by
  cases found : (bucket.insert entry).conflict? model operation with
  | none =>
      have apart := (conflict?_eq_none_iff _ model operation).mp found entry
        ((mem_place _ _ _).mpr (.inl rfl)) serves
      rw [full] at apart
      cases apart
  | some first =>
      have matched := List.find?_some found
      rcases (mem_place _ _ _).mp (List.mem_of_find?_eq_some found) with rfl | old
      · rfl
      · exact absurd matched (List.find?_eq_none.mp free first old)

namespace Registry

variable {model other : Model} (registry : Registry)

/-- A model that was registered has a bucket, which has its id. -/
theorem exists_bucketFor?_withBucketFor (model : Model) :
    ∃ bucket, (registry.withBucketFor model).bucketFor? model = some bucket ∧
      bucket.id = registry.idFor model := by
  cases found : registry.bucketFor? model with
  | some bucket => exact ⟨bucket, by simp only [withBucketFor, found], by simp only [idFor, found]⟩
  | none =>
      refine ⟨_, bucketFor?_withBucketFor_of_none found, ?_⟩
      simp only [idFor, found]
      rfl

/-- Registering a model again changes nothing and gives the same id. -/
theorem register_register (model : Model) :
    (registry.register model).2.register model = registry.register model := by
  obtain ⟨bucket, found, own⟩ := registry.exists_bucketFor?_withBucketFor model
  have same : (registry.withBucketFor model).idFor model = registry.idFor model := by
    rw [idFor, found]
    exact own
  have kept : (registry.withBucketFor model).withBucketFor model =
      registry.withBucketFor model := by
    rw [withBucketFor, found]
  exact Prod.ext same kept

private theorem bucketFor?_insert {id : MatcherId} (entry : Registration) {bucket : Bucket}
    (found : registry.bucketFor? model = some bucket) (same : bucket.id = id) :
    (registry.insert id entry).bucketFor? model = some (bucket.insert entry) := by
  have kept : ((·.admits model) ∘ fun bucket : Bucket =>
      if bucket.id == id then bucket.insert entry else bucket) = (·.admits model) := by
    funext bucket
    dsimp only [Function.comp_apply]
    split <;> rfl
  rw [bucketFor?] at found
  rw [bucketFor?, insert, List.find?_map, kept, found, Option.map_some,
    if_pos (beq_iff_eq.mpr same)]

variable (aliases : model.IsAlias other)
include aliases

/-- **Aliases get one id.** -/
theorem register_of_isAlias : registry.register other = registry.register model :=
  registry.register_of_address aliases.address.symm

private theorem conflict?_of_isAlias (operation : Operation) :
    registry.conflict? other operation = registry.conflict? model operation := by
  simp only [conflict?, registry.bucketFor?_of_address aliases.address.symm, Bucket.conflict?,
    aliases.fullyEquals_eq]

end Registry

open Registry in
/-- **One operation has one of two aliases.** -/
theorem Model.excludes_of_isAlias {model other : Model} (aliases : model.IsAlias other) :
    model.Excludes other := by
  intro registry owner again same
  rw [registerExact_eq]
  cases conflict : registry.conflict? model owner.operation with
  | some existing =>
      refine ⟨existing.owner, ?_, nofun⟩
      rw [registerExact_eq, registry.conflict?_of_isAlias aliases, same, conflict]
      rfl
  | none =>
      obtain ⟨bucket, found, own⟩ := registry.exists_bucketFor?_withBucketFor model
      -- The model's bucket may be new, but then it has no entries to be in conflict with.
      have free : bucket.conflict? model owner.operation = none := by
        have kept : (registry.withBucketFor model).conflict? model owner.operation = none :=
          (registry.conflict?_withBucketFor model 0 owner.operation).trans conflict
        rwa [conflict?, found, Option.bind_some] at kept
      refine ⟨owner, ?_, fun _ _ => rfl⟩
      rw [registerExact_eq, conflict?_of_isAlias _ aliases, same, conflict?,
        bucketFor?_insert _ _ found own, Option.bind_some,
        Bucket.conflict?_insert free rfl (Model.IsAlias.refl model).fullyEquals]
      rfl

section Rewritten

variable (rename : String → String)

/-- A guard does not depend on the names of placeholders. -/
@[simp]
theorem Condition.ofPair_renamed (pair : QueryPair) :
    Condition.ofPair (pair.renamed rename) = Condition.ofPair pair := by
  obtain ⟨key, value⟩ := pair
  cases value <;> rfl

/-- A normalized path does not depend on the names of placeholders. -/
@[simp]
theorem Model.normalizedPathOf_renamed (wildcard : String) (segments : List Segment) :
    normalizedPathOf wildcard (segments.map (·.renamed rename)) =
      normalizedPathOf wildcard segments := by
  rw [normalizedPathOf, normalizedPathOf, List.map_map]
  congr 2
  exact List.map_congr_left fun segment _ => by cases segment <;> rfl

end Rewritten

namespace Model

variable {scheme wildcard authority text : String} {model : Model}

/-- The template of a path is only named in faults. -/
theorem checkPath_eq_ok_iff (path text other : String) :
    checkPath scheme authority path text = .ok () ↔
      checkPath scheme authority path other = .ok () := by
  unfold checkPath
  split
  · simp
  · dsimp only
    split <;> simp

/-- **A rewritten template builds an alias.** -/
theorem exists_build_rewritten (built : build scheme wildcard authority text = .ok model)
    {rename : String → String}
    (renames : Template.IsRenaming rename (model.template.placeholders.map (·.name)))
    {elements : List String}
    (permuted : elements.Perm (Text.pieces '&' (Template.queryPart text))) :
    ∃ other, build scheme wildcard authority (Template.rewritten rename text elements) =
      .ok other ∧ model.IsAlias other := by
  obtain ⟨template, read, checked, rfl⟩ := build_eq_ok_iff.mp built
  obtain ⟨other, otherRead, segments, query⟩ := Template.parse_rewritten read renames permuted
  have path : normalizedPathOf wildcard other.segments =
      normalizedPathOf wildcard template.segments := by
    rw [segments, normalizedPathOf_renamed]
  refine ⟨_, build_eq_ok_iff.mpr ⟨other, otherRead, ?_, rfl⟩, ?_, ?_⟩
  · rw [path]
    exact (checkPath_eq_ok_iff _ _ _).mp checked
  · exact Prod.ext rfl path.symm
  · have guard := query.map Condition.ofPair
    rw [List.map_map] at guard
    have same : Condition.ofPair ∘ (·.renamed rename) = Condition.ofPair :=
      funext (Condition.ofPair_renamed rename)
    rw [same] at guard
    exact guard.symm

/-- **What holds of two models that no registry tells apart.** -/
structure AliasLaw (model other : Model) : Prop where
  path : other.normalizedPath = model.normalizedPath
  forth : model.fullyEquals other = true
  back : other.fullyEquals model = true
  /-- Every registry gives both the same id, and becomes the same by it. -/
  register : ∀ registry : Registry, registry.register other = registry.register model
  /-- Registering one after the other is registering once. -/
  twice : ∀ registry : Registry,
    (registry.register model).2.register other = registry.register model ∧
      (registry.register other).2.register model = registry.register model
  /-- One operation has one of them, whichever comes first. -/
  excludes : model.Excludes other
  excluded : other.Excludes model

/-- **Rewriting a template does not hide a duplicate.** -/
theorem rewriting_law {scheme wildcard authority text : String} {model : Model}
    (built : build scheme wildcard authority text = .ok model) {rename : String → String}
    (renames : Template.IsRenaming rename (model.template.placeholders.map (·.name)))
    {elements : List String}
    (permuted : elements.Perm (Text.pieces '&' (Template.queryPart text))) :
    ∃ other, build scheme wildcard authority (Template.rewritten rename text elements) =
      .ok other ∧ AliasLaw model other := by
  obtain ⟨other, otherBuilt, aliases⟩ := exists_build_rewritten built renames permuted
  refine ⟨other, otherBuilt, ?_⟩
  have registers := fun registry : Registry => registry.register_of_isAlias aliases
  exact {
    path := (Prod.mk.inj aliases.address).2.symm
    forth := aliases.fullyEquals
    back := aliases.symm.fullyEquals
    register := registers
    twice := by
      intro registry
      rw [registers, registers, registry.register_register]
      exact ⟨rfl, rfl⟩
    excludes := excludes_of_isAlias aliases
    excluded := excludes_of_isAlias aliases.symm }

/-- Two placeholders swap their names, and the pairs of the query their places. -/
theorem rewriting_law_of_swapped :
    let text := "n/\x7ba\x7d?k=\x7bb\x7d&l=1"
    let rename := fun name => if name = "a" then "b" else "a"
    let model : Model :=
      { text, authority := "a", normalizedPath := "/n/*"
        template :=
          ⟨[.literal "n", .placeholder "a"], [⟨"k", .placeholder "b"⟩, ⟨"l", .literal "1"⟩],
            [⟨"a", .segment 1⟩, ⟨"b", .parameter "k"⟩]⟩ }
    build "content" "*" "a" text = .ok model ∧
      Template.rewritten rename text ["l=1", "k=\x7bb\x7d"] = "n/\x7bb\x7d?l=1&k=\x7ba\x7d" ∧
      ∃ other, build "content" "*" "a" "n/\x7bb\x7d?l=1&k=\x7ba\x7d" = .ok other ∧
        AliasLaw model other := by
  intro text rename model
  have built : build "content" "*" "a" text = .ok model := by decide
  have written : Template.rewritten rename text ["l=1", "k=\x7bb\x7d"] =
      "n/\x7bb\x7d?l=1&k=\x7ba\x7d" := by decide
  have renames : Template.IsRenaming rename (model.template.placeholders.map (·.name)) := by
    have first : Template.IsName "a" := ⟨by decide, by simp⟩
    have second : Template.IsName "b" := ⟨by decide, by simp⟩
    refine ⟨fun name _ => ?_, by decide⟩
    dsimp only [rename]
    split
    · exact second
    · exact first
  have permuted : ["l=1", "k=\x7bb\x7d"].Perm (Text.pieces '&' (Template.queryPart text)) := by
    have cut : Text.pieces '&' (Template.queryPart text) = ["k=\x7bb\x7d", "l=1"] := by decide
    rw [cut]
    exact List.Perm.swap _ _ _
  obtain ⟨other, otherBuilt, law⟩ := rewriting_law built renames permuted
  rw [written] at otherBuilt
  exact ⟨built, written, other, otherBuilt, law⟩

end Model

end ContentRouter
