import Mathlib.Data.List.Basic
import ContentRouter.Binding.Basic

/-!
# Declarations without advice

Some of what a manifest states is advice: the return types of handlers, which earn at most a
warning, and the annotations whose names give no role. `Manifest.withoutAdvice` is what stays of a
manifest without them, so that two manifests differ in advice only if they become the same.

Whether an annotation gives a role is told by its name alone (`Role.isSome_ofAnnotation?`). So a
parameter keeps its roles, and the parameters of a handler are bound as they were
(`bindParameters_withoutAdvice`).
-/

namespace ContentRouter

namespace Role

/-- Whether annotations of a name give a role. -/
def isNamed (name : String) : Bool := (ofAnnotation? name none "").isSome

private theorem isSome_ofAnnotation? (name : String) (value : Option String) (parameter : String) :
    (ofAnnotation? name value parameter).isSome = isNamed name := by
  unfold isNamed ofAnnotation?
  dsimp only
  split
  · rfl
  · split
    · rfl
    · rfl

end Role

/-- The annotation item of a single name. -/
def Annotation.single : String × Option String → Annotation
  | (name, none) => .marker name
  | (name, some value) => .valued [(name, value)]

/-- An item for one entry has this entry. -/
@[simp]
theorem Annotation.entries_single (entry : String × Option String) :
    (single entry).entries = [entry] := by
  obtain ⟨name, _ | value⟩ := entry <;> rfl

/-- The parameter with those annotation names only that give a role, each in an item of its own. -/
def Parameter.withoutAdvice (parameter : Parameter) : Parameter :=
  { parameter with
    annotations := (parameter.entries.filter (Role.isNamed ·.1)).map Annotation.single }

/-- The method without its return type. -/
def Method.withoutAdvice (method : Method) : Method :=
  { method with returnType := "", parameters := method.parameters.map (·.withoutAdvice) }

/-- The provider with methods without advice. -/
def Provider.withoutAdvice (provider : Provider) : Provider :=
  { provider with methods := provider.methods.map (·.withoutAdvice) }

/-- **The manifest without what only advises.** -/
def Manifest.withoutAdvice (manifest : Manifest) : Manifest where
  providers := manifest.providers.map (·.withoutAdvice)

namespace Parameter

private theorem entries_withoutAdvice (parameter : Parameter) :
    parameter.withoutAdvice.entries = parameter.entries.filter (Role.isNamed ·.1) := by
  rw [entries, withoutAdvice, List.flatMap_map]
  simp

/-- Names without a role add nothing to the roles of a parameter. -/
theorem roles_withoutAdvice (parameter : Parameter) :
    parameter.withoutAdvice.roles = parameter.roles := by
  rw [roles, entries_withoutAdvice, List.filterMap_filter]
  apply List.filterMap_congr
  rintro ⟨name, value⟩ _
  dsimp only
  by_cases named : Role.isNamed name = true
  · rw [if_pos named]
    rfl
  · have none := Role.isSome_ofAnnotation? name value parameter.name
    rw [Bool.not_eq_true _ |>.mp named, Option.isSome_eq_false_iff,
      Option.isNone_iff_eq_none] at none
    rw [if_neg named, none]

private theorem classify_withoutAdvice (parameter : Parameter) :
    parameter.withoutAdvice.classify = parameter.classify := by
  rw [classify, classify, roles_withoutAdvice]
  rfl

end Parameter

namespace BoundParameters

variable (types : TypeNames) (model : Model) (bound : BoundParameters)

private theorem bindParameter_withoutAdvice (parameter : Parameter) :
    bindParameter types model bound parameter.withoutAdvice =
      bindParameter types model bound parameter := by
  rw [bindParameter, bindParameter, Parameter.classify_withoutAdvice]
  rfl

private theorem bindEach_withoutAdvice (parameters : List Parameter) :
    bindEach types model bound (parameters.map (·.withoutAdvice)) =
      bindEach types model bound parameters := by
  induction parameters generalizing bound with
  | nil => rfl
  | cons parameter rest ih =>
      rw [List.map_cons, bindEach, bindEach, bindParameter_withoutAdvice]
      cases bindParameter types model bound parameter with
      | ok next => exact ih next
      | error fault =>
          dsimp only
          rw [ih]

end BoundParameters

/-- **Advice does not change how parameters are bound.** -/
theorem bindParameters_withoutAdvice (types : TypeNames) (model : Model)
    (parameters : List Parameter) :
    bindParameters types model (parameters.map (·.withoutAdvice)) =
      bindParameters types model parameters := by
  rw [bindParameters, bindParameters, BoundParameters.bindEach_withoutAdvice]

end ContentRouter
