import ContentRouter.Fault
import ContentRouter.Manifest.Declaration
import ContentRouter.Settings

/-!
# Roles of parameters

An annotation can give a parameter a role: it receives one of the framework's arguments, or the
value of a placeholder. A framework argument has a type of its own, which the parameter must
declare; a placeholder is converted to whatever type the parameter declares.

A parameter has at most one role, counted over all names of all its annotations.
-/

namespace ContentRouter

/-- The arguments that the framework hands to a provider. -/
inductive FrameworkArgument
  | projection
  | selection
  | selectionArgs
  | sortOrder
  | contentValues
  | contentUri
  | context
  deriving DecidableEq, Repr

namespace FrameworkArgument

/-- Every framework argument. -/
def all : List FrameworkArgument :=
  [.projection, .selection, .selectionArgs, .sortOrder, .contentValues, .contentUri, .context]

/-- The name of an argument in messages and models. -/
def label : FrameworkArgument → String
  | .projection => "projection"
  | .selection => "selection"
  | .selectionArgs => "selection_args"
  | .sortOrder => "sort_order"
  | .contentValues => "content_values"
  | .contentUri => "content_uri"
  | .context => "context"

/-- The type that a parameter must declare to receive an argument. -/
def requiredType (types : TypeNames) : FrameworkArgument → String
  | .projection => types.stringArray
  | .selection => types.string
  | .selectionArgs => types.stringArray
  | .sortOrder => types.string
  | .contentValues => types.contentValues
  | .contentUri => types.uri
  | .context => types.context

end FrameworkArgument

/-- What an annotation says about a parameter. -/
inductive Role
  | framework (argument : FrameworkArgument)
  /-- The value of a placeholder, which the annotation takes to be of a certain kind. -/
  | placeholder (kind : PlaceholderKind) (name : String)
  deriving DecidableEq, Repr

namespace Role

/-- The name of a role in messages. -/
def label : Role → String
  | .framework argument => argument.label
  | .placeholder .path _ => "path_param"
  | .placeholder .query _ => "query_param"

/-- The type that a role requires of its parameter, if it requires one. -/
def requiredType? (types : TypeNames) : Role → Option String
  | .framework argument => some (argument.requiredType types)
  | .placeholder .. => none

/-- The kind and the name of the placeholder that a role names. -/
def placeholder? : Role → Option (PlaceholderKind × String)
  | .framework _ => none
  | .placeholder kind name => some (kind, name)

/-- An annotation name as roles are told apart: without its package, without underscores and in
lower case. No character outside ASCII has a lower-case form that occurs in the name of a role. -/
def plainName (name : String) : String :=
  let simple :=
    match Text.splitAtLast? '.' name with
    | some (_, simple) => simple
    | none => name
  Text.lowered (String.ofList (simple.toList.filter (· != '_')))

/-- The role that an annotation gives to a parameter. Without a value, a placeholder is the one
named like the parameter. -/
def ofAnnotation? (name : String) (value : Option String) (parameter : String) : Option Role :=
  let plain := plainName name
  if plain == "pathparam" then some (.placeholder .path (value.getD parameter))
  else if plain == "queryparam" then some (.placeholder .query (value.getD parameter))
  else
    (FrameworkArgument.all.find? fun argument => plainName argument.label == plain).map .framework

end Role

namespace Parameter

/-- Every role that the annotations of a parameter give it. -/
def roles (parameter : Parameter) : List Role :=
  parameter.entries.filterMap fun (name, value) =>
    Role.ofAnnotation? name value parameter.name

/-- The one role of a parameter, if it has any. -/
def classify (parameter : Parameter) : Except Fault (Option Role) :=
  match parameter.roles with
  | [] => .ok none
  | [role] => .ok (some role)
  | roles => .error (.conflictingAnnotations parameter.name (roles.map Role.label))

end Parameter

end ContentRouter
