import ContentRouter.Binding.Role

/-!
# Bindings of parameters

Binding decides, for every parameter of a handler, what the router passes for it. A placeholder can
be claimed by one parameter only. The place of a placeholder is the template's to say: an annotation
that takes it for the other kind earns a warning, and so does a placeholder that nobody claims.

All parameters are looked at even when one is at fault, and each is charged with its first fault
only: conflicting roles, a wrong type, an unknown placeholder, a placeholder already claimed.
-/

namespace ContentRouter

/-- What a router passes for a parameter. -/
inductive Supply
  /-- The value that the request has for a placeholder. -/
  | placeholder (placeholder : Placeholder)
  | framework (argument : FrameworkArgument)
  /-- The request's URI as text: what a parameter without a role gets if it has the text type. -/
  | rawString
  /-- The default value of its type: what any other parameter without a role gets. -/
  | unannotated
  deriving DecidableEq, Repr

namespace Supply

/-- The words that name a supply. -/
def words : Supply → List String
  | .placeholder ⟨_, .segment _⟩ => ["path", "placeholder"]
  | .placeholder ⟨_, .parameter _⟩ => ["query", "placeholder"]
  | .framework argument => Text.pieces '_' argument.label
  | .rawString => ["raw", "string"]
  | .unannotated => ["unannotated"]

/-- The name of a supply in models. -/
def name (supply : Supply) : String :=
  Text.joinWith "_" supply.words

/-- The name of a supply in running text. -/
def title (supply : Supply) : String :=
  Text.joinWith "-" supply.words

/-- The placeholder that a supply takes its value from. -/
def placeholder? : Supply → Option Placeholder
  | .placeholder source => some source
  | _ => none

/-- The segment of the path that a supply takes its value from. -/
def position (supply : Supply) : Option Nat :=
  supply.placeholder?.bind (·.slot.position)

end Supply

/-- A parameter and what the router passes for it. -/
structure Binding where
  parameter : String
  typeName : String
  supply : Supply
  deriving DecidableEq, Repr

/-- Whether a binding takes its value from the placeholder of a name. -/
def Binding.claims (binding : Binding) (name : String) : Bool :=
  binding.supply.placeholder?.any (·.name == name)

/-- What deserves a look although it stops nothing. -/
inductive BindingWarning
  /-- An annotation that takes a placeholder for the other kind. -/
  | mixedUp (parameter : String) (declared : PlaceholderKind) (placeholder : Placeholder)
  /-- A placeholder that no parameter claims. -/
  | unbound (placeholder : Placeholder)
  deriving DecidableEq, Repr

/-- The wording of a warning. -/
def BindingWarning.message : BindingWarning → String
  | .mixedUp parameter declared placeholder =>
      s!"parameter '{parameter}' is annotated as a {declared.name} placeholder " ++
        s!"but '{Fault.braced placeholder.name}' is a {placeholder.slot.kind.name} placeholder " ++
        s!"at {placeholder.slot.description}"
  | .unbound placeholder =>
      s!"placeholder '{Fault.braced placeholder.name}' at {placeholder.slot.description} " ++
        "is not bound to any parameter"

/-- The bindings of a handler's parameters, in their order, with the warnings that they earned. -/
structure BoundParameters where
  bindings : List Binding := []
  warnings : List BindingWarning := []
  deriving DecidableEq, Repr

namespace BoundParameters

/-- The parameter that has claimed a placeholder. -/
def claimant? (bound : BoundParameters) (name : String) : Option String :=
  (bound.bindings.find? (·.claims name)).map (·.parameter)

/-- Records that a parameter gets its value from a supply. -/
def bindTo (bound : BoundParameters) (parameter : Parameter) (supply : Supply)
    (warnings : List BindingWarning := []) : BoundParameters where
  bindings := bound.bindings ++ [⟨parameter.name, parameter.typeName, supply⟩]
  warnings := bound.warnings ++ warnings

/-- Binds a parameter to the placeholder that its role names. -/
def bindPlaceholder (model : Model) (bound : BoundParameters) (parameter : Parameter)
    (kind : PlaceholderKind) (name : String) : Except Fault BoundParameters :=
  match model.placeholder? name with
  | none => .error (.unresolvedPlaceholder parameter.name name model.text)
  | some placeholder =>
      match bound.claimant? name with
      | some first => .error (.duplicateBinding name first parameter.name)
      | none =>
          .ok (bound.bindTo parameter (.placeholder placeholder)
            (if placeholder.slot.kind = kind then []
              else [.mixedUp parameter.name kind placeholder]))

/-- Binds a parameter behind those that are bound already. -/
def bindParameter (types : TypeNames) (model : Model) (bound : BoundParameters)
    (parameter : Parameter) : Except Fault BoundParameters :=
  match parameter.classify with
  | .error fault => .error fault
  | .ok none =>
      .ok (bound.bindTo parameter
        (if parameter.typeName = types.string then .rawString else .unannotated))
  | .ok (some (.framework argument)) =>
      let required := argument.requiredType types
      if parameter.typeName = required then .ok (bound.bindTo parameter (.framework argument))
      else .error (.typeMismatch parameter.name argument.label required parameter.typeName)
  | .ok (some (.placeholder kind name)) => bindPlaceholder model bound parameter kind name

/-- Binds parameters one after the other, passing over those at fault, and collects the faults. -/
def bindEach (types : TypeNames) (model : Model) :
    BoundParameters → List Parameter → BoundParameters × List Fault
  | bound, [] => (bound, [])
  | bound, parameter :: rest =>
      match bindParameter types model bound parameter with
      | .ok bound => bindEach types model bound rest
      | .error fault =>
          let (bound, faults) := bindEach types model bound rest
          (bound, fault :: faults)

/-- The warnings about placeholders that no parameter claims, in the order of the template. -/
def unclaimed (model : Model) (bound : BoundParameters) : List BindingWarning :=
  (model.template.placeholders.filter fun placeholder =>
    (bound.claimant? placeholder.name).isNone).map .unbound

end BoundParameters

/-- **Binds the parameters of a handler to what its template and the framework offer.** -/
def bindParameters (types : TypeNames) (model : Model) (parameters : List Parameter) :
    Except (List Fault) BoundParameters :=
  match BoundParameters.bindEach types model {} parameters with
  | (bound, []) => .ok { bound with warnings := bound.warnings ++ bound.unclaimed model }
  | (_, faults) => .error faults

end ContentRouter
