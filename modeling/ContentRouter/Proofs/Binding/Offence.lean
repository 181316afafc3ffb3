import ContentRouter.Proofs.Binding.Supply

/-!
# Which parameters can be bound

A parameter has at most one fault, that of the first of four checks that fails: conflicting roles, a
wrong type, an unknown placeholder, a placeholder already claimed. Only the last check depends on
the parameters before it, and none depends on how binding keeps its account.
-/

namespace ContentRouter

namespace Parameter

/-- The role of a parameter that has exactly one. -/
def role? (parameter : Parameter) : Option Role :=
  match parameter.roles with
  | [role] => some role
  | _ => none

/-- The kind and the name of the placeholder that the one role of a parameter names. -/
def claim? (parameter : Parameter) : Option (PlaceholderKind × String) :=
  parameter.role?.bind Role.placeholder?

/-- Whether the one role of a parameter names the placeholder of a name. -/
def claims (parameter : Parameter) (name : String) : Bool :=
  parameter.claim?.any (·.2 == name)

section Checks

variable (types : TypeNames) (model : Model) (earlier : List Parameter) (parameter : Parameter)

/-- The fault of a parameter with more than one role. -/
def conflictFault? : Option Fault :=
  if 1 < parameter.roles.length then
    some (.conflictingAnnotations parameter.name (parameter.roles.map Role.label))
  else none

/-- The fault of a parameter whose type is not the one that its role requires. -/
def typeFault? : Option Fault :=
  parameter.role?.bind fun role =>
    (role.requiredType? types).bind fun required =>
      if parameter.typeName = required then none
      else some (.typeMismatch parameter.name role.label required parameter.typeName)

/-- The fault of a parameter that claims a placeholder which is not declared. -/
def unresolvedFault? : Option Fault :=
  parameter.claim?.bind fun (_, name) =>
    if (model.placeholder? name).isSome then none
    else some (.unresolvedPlaceholder parameter.name name model.text)

/-- The fault of a parameter that claims what an earlier one claims. It names the first one. -/
def duplicateFault? : Option Fault :=
  parameter.claim?.bind fun (_, name) =>
    (earlier.find? (·.claims name)).map fun first =>
      .duplicateBinding name first.name parameter.name

/-- **The fault of a parameter** behind earlier ones: that of the first check that fails. -/
def fault? : Option Fault :=
  parameter.conflictFault?.or <| (parameter.typeFault? types).or <|
    (parameter.unresolvedFault? model).or (parameter.duplicateFault? earlier)

/-- The condition that a parameter can be bound behind earlier ones. -/
structure Fits : Prop where
  single : parameter.roles.length ≤ 1
  typed : ∀ role ∈ parameter.roles, ∀ required, role.requiredType? types = some required →
    parameter.typeName = required
  declared : ∀ kind name, .placeholder kind name ∈ parameter.roles →
    ∃ placeholder ∈ model.template.placeholders, placeholder.name = name
  /-- No earlier parameter has the same placeholder for its one role. -/
  free : ∀ kind name, .placeholder kind name ∈ parameter.roles → ∀ other ∈ earlier,
    ∀ otherKind, other.roles ≠ [.placeholder otherKind name]

/-- What a parameter that can be bound is bound to. -/
def supply : Supply :=
  match parameter.role? with
  | none => if parameter.typeName = types.string then .rawString else .unannotated
  | some (.framework argument) => .framework argument
  | some (.placeholder _ name) => (model.placeholder? name).elim .unannotated .placeholder

/-- The binding of a parameter that can be bound. -/
def binding : Binding := ⟨parameter.name, parameter.typeName, parameter.supply types model⟩

/-- The warning that a parameter earns if its annotation takes a placeholder for the other kind. -/
def mixUp? : Option BindingWarning :=
  parameter.claim?.bind fun (kind, name) =>
    (model.placeholder? name).bind fun placeholder =>
      if placeholder.slot.kind = kind then none
      else some (.mixedUp parameter.name kind placeholder)

end Checks

section Roles

variable {types : TypeNames} {model : Model} {earlier : List Parameter} {parameter : Parameter}

/-- A single role is the role of the parameter. -/
theorem role?_eq {role : Role} (roles : parameter.roles = [role]) :
    parameter.role? = some role := by
  rw [role?, roles]

/-- A parameter with a single role claims the placeholder of that role, if any. -/
theorem claim?_eq {role : Role} (roles : parameter.roles = [role]) :
    parameter.claim? = role.placeholder? := by
  rw [claim?, role?_eq roles, Option.bind_some]

/-- A parameter claims a name exactly if its only role is a placeholder of that name. -/
theorem claims_iff {name : String} :
    parameter.claims name = true ↔ ∃ kind, parameter.roles = [.placeholder kind name] := by
  rw [claims, claim?, role?]
  split
  · rename_i role single
    rw [single]
    cases role with
    | framework argument => simp [Role.placeholder?]
    | placeholder kind other => simp [Role.placeholder?]
  · rename_i several
    refine iff_of_false (by simp) ?_
    rintro ⟨kind, single⟩
    exact several _ single

/-- A model finds a placeholder for exactly the names that its template declares. -/
theorem isSome_placeholder?_iff {name : String} :
    (model.placeholder? name).isSome = true ↔
      ∃ placeholder ∈ model.template.placeholders, placeholder.name = name := by
  rw [Model.placeholder?, Template.placeholder?, List.find?_isSome]
  simp only [beq_iff_eq]

/-- A parameter without roles has no fault. -/
theorem fault?_of_plain (roles : parameter.roles = []) :
    parameter.fault? types model earlier = none := by
  have none : parameter.role? = none := by rw [role?, roles]
  simp [fault?, conflictFault?, typeFault?, unresolvedFault?, duplicateFault?, claim?, none, roles]

/-- A framework argument is at fault only if the type is another one than it requires. -/
theorem fault?_of_framework {argument : FrameworkArgument}
    (roles : parameter.roles = [.framework argument]) :
    parameter.fault? types model earlier =
      if parameter.typeName = argument.requiredType types then none
      else some (.typeMismatch parameter.name argument.label (argument.requiredType types)
        parameter.typeName) := by
  have claim : parameter.claim? = none := claim?_eq roles
  simp [fault?, conflictFault?, typeFault?, unresolvedFault?, duplicateFault?, role?_eq roles,
    claim, roles, Role.requiredType?, Role.label]

/-- A placeholder is at fault if the template does not declare it, or an earlier parameter claims
it. -/
theorem fault?_of_placeholder {kind : PlaceholderKind} {name : String}
    (roles : parameter.roles = [.placeholder kind name]) :
    parameter.fault? types model earlier =
      match model.placeholder? name, earlier.find? (·.claims name) with
      | none, _ => some (.unresolvedPlaceholder parameter.name name model.text)
      | some _, some first => some (.duplicateBinding name first.name parameter.name)
      | some _, none => none := by
  have claim : parameter.claim? = some (kind, name) := claim?_eq roles
  simp only [fault?, conflictFault?, typeFault?, unresolvedFault?, duplicateFault?, role?_eq roles,
    claim, roles, Role.requiredType?, Option.bind_some, Option.bind_none, Option.none_or,
    List.length_singleton, Nat.lt_irrefl, if_false]
  cases model.placeholder? name with
  | none => rfl
  | some placeholder => cases earlier.find? (·.claims name) <;> rfl

/-- Several roles are in conflict, whatever they are. -/
theorem fault?_of_conflict (several : 1 < parameter.roles.length) :
    parameter.fault? types model earlier =
      some (.conflictingAnnotations parameter.name (parameter.roles.map Role.label)) := by
  rw [fault?, conflictFault?, if_pos several, Option.some_or]

/-- **A parameter has a fault exactly if it cannot be bound.** -/
theorem fault?_eq_none_iff :
    parameter.fault? types model earlier = none ↔ parameter.Fits types model earlier := by
  -- The roles say which checks there are, and more than one role is a fault of its own.
  match roles : parameter.roles with
  | [] =>
      refine iff_of_true (fault?_of_plain roles) ⟨?_, ?_, ?_, ?_⟩
      · simp [roles]
      · simp [roles]
      · simp [roles]
      · simp [roles]
  | [.framework argument] =>
      rw [fault?_of_framework roles, ite_eq_left_iff]
      constructor
      · intro typed
        exact ⟨by simp [roles], by simpa [roles, Role.requiredType?] using typed,
          by simp [roles], by simp [roles]⟩
      · intro fits mistyped
        exact absurd (fits.typed (.framework argument) (by simp [roles]) _ rfl) mistyped
  | [.placeholder kind name] =>
      have checks : parameter.fault? types model earlier = none ↔
          (model.placeholder? name).isSome = true ∧ earlier.find? (·.claims name) = none := by
        rw [fault?_of_placeholder roles]
        cases model.placeholder? name <;> cases earlier.find? (·.claims name) <;> simp
      have free : earlier.find? (·.claims name) = none ↔
          ∀ other ∈ earlier, ∀ kind, other.roles ≠ [.placeholder kind name] := by
        simp only [List.find?_eq_none, claims_iff, not_exists, ne_eq]
      rw [checks, isSome_placeholder?_iff, free]
      constructor
      · rintro ⟨declared, unclaimed⟩
        refine ⟨by simp [roles], by simp [roles, Role.requiredType?], ?_, ?_⟩
        · simpa [roles] using declared
        · simpa [roles] using unclaimed
      · intro fits
        exact ⟨fits.declared kind name (by simp [roles]), fits.free kind name (by simp [roles])⟩
  | first :: second :: rest =>
      have several : 1 < parameter.roles.length := by simp [roles]
      rw [fault?_of_conflict several]
      exact iff_of_false (Option.some_ne_none _) fun fits =>
        absurd fits.single (Nat.not_le.mpr several)

/-- The binding of a parameter claims the declared names that the parameter claims. -/
theorem claims_binding {name : String} (declared : (model.placeholder? name).isSome = true) :
    (parameter.binding types model).claims name = parameter.claims name := by
  rw [Binding.claims, binding, supply, claims, claim?]
  cases parameter.role? with
  | none =>
      dsimp only
      split <;> rfl
  | some role =>
      cases role with
      | framework argument => rfl
      | placeholder kind other =>
          dsimp only [Option.bind_some, Role.placeholder?, Option.any_some]
          cases found : model.placeholder? other with
          | none =>
              symm
              rw [Option.elim_none, beq_eq_false_iff_ne.mpr]
              · rfl
              · rintro rfl
                simp [found] at declared
          | some placeholder =>
              rw [← (Template.mem_of_placeholder? found).2]
              rfl

end Roles

end Parameter

end ContentRouter
