import ContentRouter.Binding.Basic

/-!
# What a parameter is bound to

Binding a parameter adds one binding behind those that are there. A placeholder that it is bound to
is one that the template declares and that no earlier binding has claimed
(`BoundParameters.exists_bindTo_of_bindParameter`). So all bindings of a handler take their values
from placeholders of its own template.
-/

namespace ContentRouter

/-- A placeholder that is found is one of the template, and has the name. -/
theorem Template.mem_of_placeholder? {template : Template} {name : String}
    {placeholder : Placeholder} (found : template.placeholder? name = some placeholder) :
    placeholder ∈ template.placeholders ∧ placeholder.name = name := by
  have named := List.find?_some found
  exact ⟨List.mem_of_find?_eq_some found, beq_iff_eq.mp named⟩

namespace BoundParameters

variable {types : TypeNames} {model : Model} {bound next : BoundParameters} {parameter : Parameter}

/-- **What binding a parameter does**, if it has no fault. -/
theorem exists_bindTo_of_bindParameter
    (stepped : bindParameter types model bound parameter = .ok next) :
    ∃ supply warnings, next = bound.bindTo parameter supply warnings ∧
      ∀ placeholder, supply = .placeholder placeholder →
        placeholder ∈ model.template.placeholders ∧ bound.claimant? placeholder.name = none := by
  unfold bindParameter at stepped
  split at stepped
  · cases stepped
  · cases stepped
    refine ⟨_, _, rfl, ?_⟩
    intro placeholder supplied
    split at supplied <;> cases supplied
  · dsimp only at stepped
    split at stepped
    · cases stepped
      exact ⟨_, _, rfl, nofun⟩
    · cases stepped
  · unfold bindPlaceholder at stepped
    split at stepped
    · cases stepped
    · rename_i placeholder found
      obtain ⟨declared, named⟩ := Template.mem_of_placeholder? found
      split at stepped
      · cases stepped
      · rename_i free
        cases stepped
        refine ⟨_, _, rfl, ?_⟩
        rintro _ ⟨⟩
        exact ⟨declared, named ▸ free⟩

/-- What every parameter without a fault preserves holds in the end. -/
theorem bindEach_induct (invariant : BoundParameters → Prop)
    (preserved : ∀ bound parameter next,
      bindParameter types model bound parameter = .ok next → invariant bound → invariant next)
    (parameters : List Parameter) (start : invariant bound) :
    invariant (bindEach types model bound parameters).1 := by
  induction parameters generalizing bound with
  | nil => exact start
  | cons parameter rest ih =>
      rw [bindEach]
      split
      · rename_i next stepped
        exact ih (preserved bound parameter next stepped start)
      · exact ih start

/-- Whether all placeholders that bindings take their values from are those of a model. -/
def IsOf (model : Model) (bound : BoundParameters) : Prop :=
  ∀ binding ∈ bound.bindings, ∀ placeholder, binding.supply = .placeholder placeholder →
    placeholder ∈ model.template.placeholders

private theorem IsOf.bindParameter (own : bound.IsOf model)
    (stepped : bindParameter types model bound parameter = .ok next) : next.IsOf model := by
  obtain ⟨supply, warnings, rfl, offered⟩ := exists_bindTo_of_bindParameter stepped
  intro binding member placeholder supplied
  rcases List.mem_append.mp member with earlier | new
  · exact own binding earlier placeholder supplied
  · rw [List.mem_singleton.mp new] at supplied
    exact (offered placeholder supplied).1

end BoundParameters

/-- **Bindings take their values from placeholders of the template.** -/
theorem isOf_of_bindParameters {types : TypeNames} {model : Model} {parameters : List Parameter}
    {bound : BoundParameters} (done : bindParameters types model parameters = .ok bound) :
    bound.IsOf model := by
  have all : (BoundParameters.bindEach types model {} parameters).1.IsOf model :=
    BoundParameters.bindEach_induct _ (fun _ _ _ stepped own => own.bindParameter stepped)
      parameters (fun _ member => absurd member List.not_mem_nil)
  unfold bindParameters at done
  split at done
  · rename_i result every
    rw [every] at all
    cases done
    exact all
  · cases done

end ContentRouter
