import ContentRouter.Diagnostic
import ContentRouter.Text.Characters

/-!
# Logging

A log receives the diagnostics of a run as events. How much is logged and in which form, four
environment variables say. A variable that is not set, or that holds nothing known, leaves the
default: everything from `info` on, in the form for people.
-/

namespace ContentRouter

/-- The form of log lines. -/
inductive LogFormat
  | json
  | pretty
  deriving DecidableEq, Repr

/-- The form of a name, in either case of letter. No character outside ASCII has a lower-case form
that occurs in the name of a form or of a level. -/
def LogFormat.ofName (name : String) : LogFormat :=
  if Text.lowered name == "json" then .json else .pretty

/-- What the environment says about logging. -/
structure LogEnvironment where
  level : Option String := none
  format : Option String := none
  filter : Option String := none
  includeLocation : Option String := none
  deriving DecidableEq, Repr

/-- What is logged and how. -/
structure LogSettings where
  /-- The name of the level, as it was given. -/
  levelName : String := "info"
  format : LogFormat := .pretty
  targetFilter : Option String := none
  includeLocation : Bool := false
  deriving DecidableEq, Repr

namespace LogSettings

/-- The settings that an environment asks for. -/
def ofEnvironment (environment : LogEnvironment) : LogSettings where
  levelName := environment.level.getD "info"
  format := (environment.format.map LogFormat.ofName).getD .pretty
  targetFilter := environment.filter
  includeLocation := environment.includeLocation.any fun value => value == "true" || value == "1"

/-- The level of the settings' level name. An unknown name stands for `info`. -/
def level (settings : LogSettings) : Severity :=
  (Severity.ofName? (Text.lowered settings.levelName)).getD .info

end LogSettings

/-- A diagnostic as a log receives it. -/
structure LogEvent where
  level : Severity
  message : String
  element : String
  kind : String
  /-- Set on events that are neither errors nor warnings. -/
  isNote : Bool
  deriving DecidableEq, Repr

/-- The event of a diagnostic, at the level of its severity. -/
def Diagnostic.event (diagnostic : Diagnostic) : LogEvent where
  level := diagnostic.severity
  message := diagnostic.message
  element := diagnostic.element.text
  kind := diagnostic.kind
  isNote := diagnostic.severity.isNote

end ContentRouter
