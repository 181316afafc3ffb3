import ContentRouter.Template.Placeholder
import ContentRouter.Text.Pieces
import ContentRouter.Text.Shown
import ContentRouter.Uri.Host

/-!
# Faults of declarations

The ways in which one handler method or one provider class can be wrong. A fault is local: it is
recorded as a diagnostic, and the declarations around it are still looked at. `Fault.message` is
the wording of the diagnostic and `Fault.kind` its stable identifier.
-/

namespace ContentRouter

/-- What is wrong with a template, an authority or a class. -/
inductive IllegalCause
  | secondQuestionMark
  /-- A query element that is not `key=value`. -/
  | malformedPair (element : String)
  | repeatedKey (key : String)
  | pathCharacter (character : Char)
  | emptyAuthority
  | authorityCharacter (character : Char)
  | unacceptableUri (candidate : String) (reason : UriFault)
  /-- A provider class that an earlier declaration has taken. -/
  | repeatedClass
  /-- A reason in the reporter's own words. -/
  | stated (reason : String)
  deriving DecidableEq, Repr

/-- The wording of a cause. -/
def IllegalCause.message : IllegalCause → String
  | .secondQuestionMark => "invalid path: more than one '?' separator"
  | .malformedPair element => s!"malformed query parameter '{element}', expected key=value"
  | .repeatedKey key => s!"query parameter '{key}' appears more than once"
  | .pathCharacter character => s!"invalid character {Text.shownChar character} in path"
  | .emptyAuthority => "authority is empty"
  | .authorityCharacter character => s!"invalid character {Text.shownChar character} in authority"
  | .unacceptableUri candidate reason => s!"'{candidate}' is not a valid URI: {reason.message}"
  | .repeatedClass =>
      "provider class is declared more than once; only the first declaration is used"
  | .stated reason => reason

/-- A place in a template that a message points to. -/
inductive Site
  | at (slot : Slot)
  /-- A place in the reporter's own words. -/
  | stated (description : String)
  deriving DecidableEq, Repr

/-- The wording of a place. -/
def Site.description : Site → String
  | .at slot => slot.description
  | .stated description => description

/-- What is wrong with one handler method or one provider class. -/
inductive Fault
  /-- A text that is no template under its authority, an unusable authority, or a class that was
  declared before. `subject` is the text at fault. -/
  | illegalTemplate (subject : String) (cause : IllegalCause)
  /-- A placeholder name that is declared twice in one template. -/
  | duplicatePlaceholder (template name : String) (first again : Site)
  /-- A template whose requests another handler of the same operation already has. -/
  | duplicatePath (template authority handler : String)
  /-- A parameter that claims a placeholder which the template does not declare. -/
  | unresolvedPlaceholder (parameter placeholder template : String)
  /-- A parameter with more than one role. -/
  | conflictingAnnotations (parameter : String) (roles : List String)
  /-- A parameter whose type is not the one its role requires. -/
  | typeMismatch (parameter role required found : String)
  /-- A placeholder that two parameters claim. -/
  | duplicateBinding (placeholder first parameter : String)
  deriving DecidableEq, Repr

namespace Fault

/-- The stable identifier of a fault. -/
def kind : Fault → String
  | .illegalTemplate .. => "IllegalTemplate"
  | .duplicatePlaceholder .. => "DuplicatePlaceholder"
  | .duplicatePath .. => "DuplicatePath"
  | .unresolvedPlaceholder .. => "UnresolvedPlaceholder"
  | .conflictingAnnotations .. => "ConflictingAnnotations"
  | .typeMismatch .. => "TypeMismatch"
  | .duplicateBinding .. => "DuplicateBinding"

/-- The parameter a fault belongs to. Faults of a template belong to the whole method. -/
def parameter? : Fault → Option String
  | .unresolvedPlaceholder parameter .. => some parameter
  | .conflictingAnnotations parameter .. => some parameter
  | .typeMismatch parameter .. => some parameter
  | .duplicateBinding _ _ parameter => some parameter
  | .illegalTemplate .. | .duplicatePlaceholder .. | .duplicatePath .. => none

/-- A placeholder name in braces, as templates write it. -/
def braced (name : String) : String :=
  "\x7b" ++ name ++ "\x7d"

/-- The roles of a parameter as a message lists them. -/
def rolesText (roles : List String) : String :=
  Text.joinWith ", " roles

/-- The wording of a fault. -/
def message : Fault → String
  | .illegalTemplate subject cause => s!"Illegal URI template '{subject}': {cause.message}"
  | .duplicatePlaceholder template name first again =>
      s!"Placeholder '{braced name}' is declared twice in '{template}': " ++
        s!"first at {first.description}, again at {again.description}"
  | .duplicatePath template authority handler =>
      s!"URI '{template}' under authority '{authority}' is already handled by {handler}"
  | .unresolvedPlaceholder parameter placeholder template =>
      s!"Parameter '{parameter}' references placeholder '{braced placeholder}' " ++
        s!"which does not exist in '{template}'"
  | .conflictingAnnotations parameter roles =>
      s!"Parameter '{parameter}' carries mutually exclusive annotations: " ++
        s!"{rolesText roles}"
  | .typeMismatch parameter role required found =>
      s!"Parameter '{parameter}' annotated as {role} must be of type {required} (found {found})"
  | .duplicateBinding placeholder first parameter =>
      s!"Placeholder '{braced placeholder}' is already bound to parameter '{first}' " ++
        s!"and cannot also bind '{parameter}'"

end Fault

end ContentRouter
