import Mathlib.Data.List.Nodup
import Mathlib.Data.List.Perm.Subperm
import ContentRouter.Source.Text
import ContentRouter.Template.Model

/-!
# Full equality of built models

A template that was read has pairwise distinct query keys, and so has every model that was built
from one. For such models full equality, although it looks for the pairs of one model among those of
the other only, is an equivalence: two models are fully equal exactly if they have the same
authority and path and their guards are permutations of each other (`Model.fullyEquals_iff_perm`).
-/

namespace ContentRouter

namespace Template

namespace Findings

/-- The keys of the pairs that were found so far. -/
def keys (found : Findings) : List String := found.pairs.map (·.key)

/-- Reporting a fault keeps the keys. -/
@[simp]
theorem keys_report (found : Findings) (fault : Fault) : (found.report fault).keys = found.keys :=
  rfl

/-- Declaring a placeholder keeps the keys. -/
@[simp]
theorem keys_declare (template : String) (found : Findings) (placeholder : Placeholder) :
    (found.declare template placeholder).keys = found.keys := by
  unfold declare
  split <;> rfl

/-- Taking in segments keeps the keys. -/
@[simp]
theorem keys_takeSegments (template : String) (found : Findings) (index : Nat)
    (segments : List Segment) : (takeSegments template found index segments).keys = found.keys := by
  induction segments generalizing found index with
  | nil => rfl
  | cons segment rest ih =>
      cases segment with
      | literal text => exact ih found (index + 1)
      | placeholder name =>
          rw [takeSegments, ih, keys_declare]

/-- Taking in a pair adds its key. -/
theorem keys_takePair (template : String) (found : Findings) (pair : QueryPair) :
    (found.takePair template pair).keys = found.keys ++ [pair.key] := by
  unfold takePair
  cases pair.value with
  | literal text => simp only [keys, List.map_append, List.map_cons, List.map_nil]
  | placeholder name =>
      have kept := keys_declare template found ⟨name, .parameter pair.key⟩
      simp only [keys, List.map_append, List.map_cons, List.map_nil] at kept ⊢
      rw [kept]

/-- Taking in one more element keeps the keys distinct, because a repeated key is a fault. -/
theorem keys_takeElement_nodup (template : String) (found : Findings) (element : String)
    (nodup : found.keys.Nodup) : (found.takeElement template element).keys.Nodup := by
  unfold takeElement
  cases QueryPair.ofText? element with
  | none => exact nodup
  | some pair =>
      by_cases taken : found.pairs.any (·.key == pair.key)
      · simpa only [taken, ↓reduceIte, keys_report] using nodup
      · have fresh : pair.key ∉ found.keys := by
          intro member
          obtain ⟨other, present, same⟩ := List.mem_map.mp member
          exact taken (List.any_eq_true.mpr ⟨other, present, beq_iff_eq.mpr same⟩)
        simp only [taken, Bool.false_eq_true, ↓reduceIte, keys_takePair]
        exact List.nodup_append.mpr ⟨nodup, List.nodup_singleton _, by
          intro key present other single same
          rw [List.mem_singleton.mp single] at same
          exact fresh (same ▸ present)⟩

private theorem keys_foldl_takeElement_nodup (template : String) (found : Findings)
    (elements : List String) (nodup : found.keys.Nodup) :
    (elements.foldl (takeElement template) found).keys.Nodup := by
  induction elements generalizing found with
  | nil => exact nodup
  | cons element rest ih => exact ih _ (keys_takeElement_nodup template found element nodup)

end Findings

private theorem ofParts_keys_nodup (text path query : String) (template : Template)
    (read : ofParts text path query = .ok template) : (template.query.map (·.key)).Nodup := by
  have distinct := Findings.keys_foldl_takeElement_nodup text
    (Findings.takeSegments text {} 0 (segmentsOf path)) (elementsOf query)
    (by rw [Findings.keys_takeSegments]; exact List.nodup_nil)
  unfold ofParts at read
  dsimp only at read
  split at read
  · cases read
    exact distinct
  · cases read

/-- **The query keys of a template are pairwise distinct.** -/
theorem parse_keys_nodup (text : String) (template : Template)
    (read : parse text = .ok template) : (template.query.map (·.key)).Nodup := by
  unfold parse at read
  split at read
  · exact ofParts_keys_nodup _ _ _ _ read
  · exact ofParts_keys_nodup _ _ _ _ read
  · cases read

end Template

/-- Two pairs ask for the same exactly if their keys are the same and their values agree. -/
theorem Condition.ofPair_eq_iff (pair other : QueryPair) :
    Condition.ofPair pair = Condition.ofPair other ↔
      pair.key = other.key ∧ pair.value.agrees other.value = true := by
  obtain ⟨key, value⟩ := pair
  obtain ⟨otherKey, otherValue⟩ := other
  cases value <;> cases otherValue <;> simp [Condition.ofPair, QueryValue.agrees]

namespace Model

/-- What a model asks of the query of a request. -/
def guard (model : Model) : Guard := Guard.ofPairs model.query

/-- The authority and the normalized path of a model. -/
def address (model : Model) : String × String := (model.authority, model.normalizedPath)

/-- A model that was built from a template, whatever matcher id it has been given since. -/
def IsBuilt (model : Model) : Prop :=
  ∃ scheme wildcard authority text,
    build scheme wildcard authority text = .ok { model with matcherId := none }

/-- **A template builds a model** exactly if it can be read and its path forms a URI. -/
theorem build_eq_ok_iff {scheme wildcard authority text : String} {model : Model} :
    build scheme wildcard authority text = .ok model ↔
      ∃ template, Template.parse text = .ok template ∧
        checkPath scheme authority (normalizedPathOf wildcard template.segments) text = .ok () ∧
        model = { text, authority, template,
                  normalizedPath := normalizedPathOf wildcard template.segments } := by
  unfold build
  cases Template.parse text with
  | error faults => simp
  | ok template =>
      dsimp only
      cases checked : checkPath scheme authority (normalizedPathOf wildcard template.segments) text
        with
      | error fault => simp [checked]
      | ok done => simp [checked, eq_comm]

/-- A model that was built is the one of its template. -/
theorem eq_of_build (scheme wildcard authority text : String) (model : Model)
    (built : build scheme wildcard authority text = .ok model) :
    ∃ template, Template.parse text = .ok template ∧
      model = { text, authority, template,
                normalizedPath := normalizedPathOf wildcard template.segments } := by
  obtain ⟨template, read, _, same⟩ := build_eq_ok_iff.mp built
  exact ⟨template, read, same⟩

/-- A model that was built is that of a template. -/
theorem isBuilt_of_build (scheme wildcard authority text : String) (model : Model)
    (built : build scheme wildcard authority text = .ok model) : model.IsBuilt := by
  obtain ⟨template, _, rfl⟩ := eq_of_build scheme wildcard authority text model built
  exact ⟨scheme, wildcard, authority, text, built⟩

/-- A built model has the template that its text is read as. -/
theorem IsBuilt.parse_text {model : Model} (built : model.IsBuilt) :
    Template.parse model.text = .ok model.template := by
  obtain ⟨scheme, wildcard, authority, text, built⟩ := built
  obtain ⟨template, read, same⟩ := eq_of_build scheme wildcard authority text _ built
  have texts : model.text = text := congrArg Model.text same
  have templates : model.template = template := congrArg Model.template same
  rw [texts, templates, read]

/-- A matcher id does not change whether a model was built. -/
@[simp]
theorem isBuilt_withMatcherId (model : Model) (id : MatcherId) :
    (model.withMatcherId id).IsBuilt ↔ model.IsBuilt := Iff.rfl

/-- A matcher id does not change the address of a model. -/
@[simp]
theorem address_withMatcherId (model : Model) (id : MatcherId) :
    (model.withMatcherId id).address = model.address := rfl

/-- A matcher id does not change what a model is fully equal to. -/
@[simp]
theorem withMatcherId_fullyEquals (model other : Model) (id : MatcherId) :
    (model.withMatcherId id).fullyEquals other = model.fullyEquals other := rfl

/-- Models are structurally equal exactly if they have the same address. -/
theorem structurallyEquals_iff (model other : Model) :
    model.structurallyEquals other = true ↔ model.address = other.address := by
  simp [structurallyEquals, address]

/-- Fully equal models have the same address. -/
theorem address_eq_of_fullyEquals {model other : Model} (full : model.fullyEquals other = true) :
    model.address = other.address := by
  simp only [fullyEquals, Bool.and_eq_true] at full
  exact (structurallyEquals_iff model other).mp full.1.1

/-- A built model has no query key twice. -/
theorem IsBuilt.keys_nodup {model : Model} (built : model.IsBuilt) :
    (model.query.map (·.key)).Nodup := by
  obtain ⟨scheme, wildcard, authority, text, built⟩ := built
  obtain ⟨template, read, same⟩ := eq_of_build scheme wildcard authority text _ built
  have keys := Template.parse_keys_nodup text template read
  have templates : model.template = template := congrArg Model.template same
  rwa [← templates] at keys

/-- A built model asks for nothing twice. -/
theorem IsBuilt.guard_nodup {model : Model} (built : model.IsBuilt) : model.guard.Nodup := by
  have keys := built.keys_nodup
  refine List.Nodup.map_on ?_ (List.Nodup.of_map _ keys)
  intro pair first other second asked
  exact List.inj_on_of_nodup_map keys first second ((Condition.ofPair_eq_iff pair other).mp asked).1

/-- Full equality of models looks for every condition of the one among those of the other. -/
theorem fullyEquals_iff_subset (model other : Model) :
    model.fullyEquals other = true ↔
      model.address = other.address ∧ model.guard.length = other.guard.length ∧
        model.guard ⊆ other.guard := by
  have included : (model.query.all fun pair => other.query.any fun candidate =>
      candidate.key == pair.key && candidate.value.agrees pair.value) = true ↔
        model.guard ⊆ other.guard := by
    simp only [List.all_eq_true, List.any_eq_true, Bool.and_eq_true, beq_iff_eq,
      ← Condition.ofPair_eq_iff]
    simp only [guard, Guard.ofPairs, List.subset_def, List.mem_map, forall_exists_index, and_imp,
      forall_apply_eq_imp_iff₂]
  simp only [fullyEquals, Bool.and_eq_true, beq_iff_eq, structurallyEquals_iff, included, and_assoc,
    queryCount, guard, Guard.ofPairs, List.length_map]

/-- **Full equality of built models.** A built model is fully equal to those models that have its
authority and path and ask for the same in any order. -/
theorem fullyEquals_iff_perm {model other : Model} (built : model.IsBuilt) :
    model.fullyEquals other = true ↔
      model.address = other.address ∧ model.guard.Perm other.guard := by
  rw [fullyEquals_iff_subset]
  constructor
  · rintro ⟨same, lengths, subset⟩
    have included := List.subperm_of_subset built.guard_nodup subset
    exact ⟨same, included.perm_of_length_le (Nat.le_of_eq lengths.symm)⟩
  · rintro ⟨same, perm⟩
    exact ⟨same, perm.length_eq, perm.subset⟩

/-- Full equality of built models does not depend on which of them is asked. -/
theorem fullyEquals_comm {model other : Model} (built : model.IsBuilt)
    (otherBuilt : other.IsBuilt) : model.fullyEquals other = other.fullyEquals model := by
  rw [Bool.eq_iff_iff, fullyEquals_iff_perm built, fullyEquals_iff_perm otherBuilt]
  exact and_congr eq_comm List.perm_comm

end Model

end ContentRouter
