import ContentRouter.Proofs.Binding.Offence
import ContentRouter.Proofs.Template.Part

/-!
# Which parameter lists can be bound

Binding goes through the parameters of a handler one after the other, and its memory is the bindings
so far: they tell who claims a placeholder (`BoundParameters.Tells`). A parameter at fault leaves no
binding, but it does not change what they tell either. What it claims is not declared, or an earlier
parameter claims it already.

So binding is one equation (`bindParameters_eq`): the faults are those of the parameters in their
order, and without faults every parameter has its binding and its warning.
-/

namespace ContentRouter

open Template (collect collect_eq_nil_iff)

namespace BoundParameters

variable {types : TypeNames} {model : Model} {bound : BoundParameters}
  {earlier : List Parameter} {parameter : Parameter}

/-- Whether the bindings so far tell who claims the placeholders that the template declares. -/
def Tells (model : Model) (earlier : List Parameter) (bound : BoundParameters) : Prop :=
  ∀ name, (model.placeholder? name).isSome = true →
    bound.claimant? name = (earlier.find? (·.claims name)).map (·.name)

/-- **One step of binding**, said without the bindings before it. -/
theorem bindParameter_eq (types : TypeNames) (parameter : Parameter)
    (tells : bound.Tells model earlier) :
    bindParameter types model bound parameter =
      match parameter.fault? types model earlier with
      | some fault => .error fault
      | none =>
          .ok (bound.bindTo parameter (parameter.supply types model)
            (parameter.mixUp? model).toList) := by
  rw [bindParameter, Parameter.classify]
  match roles : parameter.roles with
  | [] =>
      have none : parameter.role? = none := by rw [Parameter.role?, roles]
      rw [Parameter.fault?_of_plain roles]
      simp [Parameter.supply, Parameter.mixUp?, Parameter.claim?, none]
  | [.framework argument] =>
      rw [Parameter.fault?_of_framework roles]
      by_cases typed : parameter.typeName = argument.requiredType types
      · simp [Parameter.supply, Parameter.mixUp?, Parameter.role?_eq roles,
          Parameter.claim?_eq roles, Role.placeholder?, typed]
      · simp [typed]
  | [.placeholder kind name] =>
      rw [Parameter.fault?_of_placeholder roles]
      dsimp only
      rw [bindPlaceholder]
      cases found : model.placeholder? name with
      | none => rfl
      | some placeholder =>
          rw [tells name (by simp [found])]
          cases earlier.find? (·.claims name) with
          | some first => rfl
          | none =>
              by_cases same : placeholder.slot.kind = kind <;>
                simp [Parameter.supply, Parameter.mixUp?, Parameter.role?_eq roles,
                  Parameter.claim?_eq roles, Role.placeholder?, found, same]
  | first :: second :: rest =>
      rw [Parameter.fault?_of_conflict (by simp [roles]), roles]

/-- A parameter at fault claims nothing that an earlier one does not claim already. -/
theorem Tells.pass (tells : bound.Tells model earlier)
    (faulty : parameter.fault? types model earlier ≠ none) :
    bound.Tells model (earlier ++ [parameter]) := by
  intro name declared
  rw [tells name declared, List.find?_append]
  cases first : earlier.find? (·.claims name) with
  | some other => rfl
  | none =>
      -- Claiming a declared placeholder that is free is no fault, whatever else is declared.
      have idle : ¬ parameter.claims name = true := by
        intro claimed
        obtain ⟨kind, roles⟩ := Parameter.claims_iff.mp claimed
        refine faulty (Parameter.fault?_eq_none_iff.mpr ⟨?_, ?_, ?_, ?_⟩)
        · simp [roles]
        · simp [roles, Role.requiredType?]
        · simpa [roles] using Parameter.isSome_placeholder?_iff.mp declared
        · simpa [roles, Parameter.claims_iff] using first
      simp [idle]

private theorem Tells.bindTo (types : TypeNames) (parameter : Parameter)
    (tells : bound.Tells model earlier) (warnings : List BindingWarning) :
    (bound.bindTo parameter (parameter.supply types model) warnings).Tells model
      (earlier ++ [parameter]) := by
  intro name declared
  have old := tells name declared
  have own : Binding.claims ⟨parameter.name, parameter.typeName, parameter.supply types model⟩
      name = parameter.claims name := Parameter.claims_binding declared
  rw [claimant?] at old ⊢
  simp only [BoundParameters.bindTo, List.find?_append, Option.map_or, old, List.find?_singleton,
    own]
  cases parameter.claims name <;> rfl

/-- The placeholders of a template that no parameter claims, as the bindings tell. -/
theorem Tells.unclaimed_eq (tells : bound.Tells model earlier) :
    bound.unclaimed model =
      (model.template.placeholders.filter fun placeholder =>
        !earlier.any (·.claims placeholder.name)).map .unbound := by
  rw [unclaimed]
  refine congrArg _ (List.filter_congr fun placeholder member => ?_)
  have declared := Parameter.isSome_placeholder?_iff.mpr ⟨placeholder, member, rfl⟩
  rw [tells placeholder.name declared, Option.isNone_map, Bool.eq_iff_iff]
  simp

/-- **What binding each of some parameters does** behind earlier ones. -/
theorem bindEach_eq (types : TypeNames) (parameters : List Parameter)
    (tells : bound.Tells model earlier) :
    (bindEach types model bound parameters).2 =
        collect (Parameter.fault? types model) earlier parameters ∧
      (collect (Parameter.fault? types model) earlier parameters = [] →
        (bindEach types model bound parameters).1 =
          ⟨bound.bindings ++ parameters.map (·.binding types model),
            bound.warnings ++ parameters.filterMap (·.mixUp? model)⟩ ∧
        (bindEach types model bound parameters).1.Tells model (earlier ++ parameters)) := by
  -- A parameter at fault goes to the earlier ones as well, so the bindings and the earlier
  -- parameters are both to be generalized, with `Tells` between them.
  induction parameters generalizing bound earlier with
  | nil =>
      refine ⟨rfl, fun _ => ⟨?_, ?_⟩⟩
      · simp [bindEach]
      · simpa [bindEach] using tells
  | cons parameter rest ih =>
      rw [bindEach, bindParameter_eq types parameter tells, collect]
      cases found : parameter.fault? types model earlier with
      | some fault =>
          obtain ⟨faults, _⟩ := ih (tells.pass (found ▸ Option.some_ne_none fault))
          exact ⟨congrArg (fault :: ·) faults, fun none => absurd none (by simp)⟩
      | none =>
          obtain ⟨faults, clean⟩ :=
            ih (tells.bindTo types parameter (parameter.mixUp? model).toList)
          refine ⟨faults, fun none => ?_⟩
          obtain ⟨all, told⟩ := clean none
          refine ⟨?_, ?_⟩
          · rw [all]
            simp only [BoundParameters.bindTo, List.append_assoc, List.map_cons,
              List.filterMap_cons]
            cases parameter.mixUp? model <;> rfl
          · rwa [List.append_assoc] at told

end BoundParameters

section Binding

variable (types : TypeNames) (model : Model) (parameters : List Parameter)

/-- The faults of parameters, in their order. -/
def bindingFaults : List Fault := collect (Parameter.fault? types model) [] parameters

/-- The bindings of parameters that can be bound, and the warnings that they and the template earn:
first those about annotations, then those about placeholders that no parameter claims. -/
def bindingsOf : BoundParameters where
  bindings := parameters.map (·.binding types model)
  warnings := parameters.filterMap (·.mixUp? model) ++
    (model.template.placeholders.filter fun placeholder =>
      !parameters.any (·.claims placeholder.name)).map .unbound

/-- **Binding as one equation.** -/
theorem bindParameters_eq :
    bindParameters types model parameters =
      if bindingFaults types model parameters = [] then .ok (bindingsOf types model parameters)
      else .error (bindingFaults types model parameters) := by
  have started : BoundParameters.Tells model [] {} := fun name _ => rfl
  obtain ⟨faults, clean⟩ := BoundParameters.bindEach_eq types parameters started
  rw [bindParameters]
  split
  · rename_i bound every
    rw [every] at faults clean
    obtain ⟨all, told⟩ := clean faults.symm
    have clear : bindingFaults types model parameters = [] := faults.symm
    have bound_eq : bound = _ := all
    rw [if_pos clear, told.unclaimed_eq, bound_eq]
    rfl
  · rename_i bound found some every
    rw [every] at faults
    rw [bindingFaults, ← faults, if_neg some]

variable {types model parameters}

/-- Parameters are bound exactly if none has a fault, and then as each of them asks. -/
theorem bindParameters_eq_ok_iff {bound : BoundParameters} :
    bindParameters types model parameters = .ok bound ↔
      bindingFaults types model parameters = [] ∧ bound = bindingsOf types model parameters := by
  rw [bindParameters_eq]
  split
  · rename_i clean
    simp [clean, eq_comm]
  · rename_i faulty
    simp [faulty]

/-- Parameters have no fault exactly if each can be bound behind those before it. -/
theorem bindingFaults_eq_nil_iff :
    bindingFaults types model parameters = [] ↔
      ∀ earlier parameter later, parameters = earlier ++ parameter :: later →
        parameter.Fits types model earlier := by
  simp only [bindingFaults, collect_eq_nil_iff, List.nil_append, Parameter.fault?_eq_none_iff]

variable (types model parameters)

/-- The law of binding parameters. -/
structure BindingLaw : Prop where
  ok_iff : (∃ bound, bindParameters types model parameters = .ok bound) ↔
    ∀ earlier parameter later, parameters = earlier ++ parameter :: later →
      parameter.Fits types model earlier
  aligned : ∀ bound, bindParameters types model parameters = .ok bound →
    bound.bindings.map (fun binding => (binding.parameter, binding.typeName)) =
      parameters.map fun parameter => (parameter.name, parameter.typeName)
  /-- The faults are those of the parameters in their order, each behind all before it. -/
  faults : ∀ faults, bindParameters types model parameters = .error faults →
    faults = collect (Parameter.fault? types model) [] parameters
  /-- Exactly the parameters that cannot be bound have a fault. -/
  offending : ∀ earlier parameter later, parameters = earlier ++ parameter :: later →
    (parameter.fault? types model earlier = none ↔ parameter.Fits types model earlier)

/-- **Binding succeeds exactly if every parameter can be bound behind those before it.** Then the
bindings stand for the parameters in their order, and else every parameter that cannot be bound is
charged with the first of its faults. -/
theorem binding_law : BindingLaw types model parameters where
  ok_iff := by
    rw [← bindingFaults_eq_nil_iff]
    constructor
    · rintro ⟨bound, done⟩
      exact (bindParameters_eq_ok_iff.mp done).1
    · intro clean
      exact ⟨_, bindParameters_eq_ok_iff.mpr ⟨clean, rfl⟩⟩
  aligned := by
    intro bound done
    obtain ⟨_, rfl⟩ := bindParameters_eq_ok_iff.mp done
    rw [bindingsOf, List.map_map]
    rfl
  faults := by
    intro faults refused
    rw [bindParameters_eq] at refused
    split at refused
    · cases refused
    · cases refused
      rfl
  offending := fun _ _ _ _ => Parameter.fault?_eq_none_iff

end Binding

end ContentRouter
