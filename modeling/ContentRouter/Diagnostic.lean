import ContentRouter.Fault

/-!
# Diagnostics

A diagnostic says what was noticed about which declared element, and how grave it is. A `Reporter`
collects diagnostics in the order in which they are recorded; recording one never stops a round.
They leave the program as a summary for people, grouped by gravity.
-/

namespace ContentRouter

/-- How grave a diagnostic is. Only errors make a run fail. -/
inductive Severity
  | trace
  | debug
  | info
  | warn
  | error
  deriving DecidableEq, Repr

namespace Severity

/-- Every severity, the least grave first. -/
def all : List Severity := [.trace, .debug, .info, .warn, .error]

/-- The name of a severity. -/
def name : Severity → String
  | .trace => "trace"
  | .debug => "debug"
  | .info => "info"
  | .warn => "warn"
  | .error => "error"

/-- The severity of a name. -/
def ofName? (name : String) : Option Severity :=
  all.find? (·.name == name)

/-- Whether a diagnostic is neither an error nor a warning. -/
def isNote : Severity → Bool
  | .trace | .debug | .info => true
  | .warn | .error => false

end Severity

/-- The declaration that a diagnostic is about. -/
inductive Element
  | provider (className : String)
  | method (className methodName : String)
  | parameter (className methodName parameterName : String)
  deriving DecidableEq, Repr

namespace Element

/-- The class that an element belongs to. -/
def className : Element → String
  | .provider className => className
  | .method className _ => className
  | .parameter className _ _ => className

/-- The parameter of a name, in the method of this element. A class has no parameters and stays. -/
def narrow : Element → String → Element
  | .provider className, _ => .provider className
  | .method className methodName, name => .parameter className methodName name
  | .parameter className methodName _, name => .parameter className methodName name

/-- An element in the words of a message. -/
def text : Element → String
  | .provider className => className
  | .method className methodName => s!"{className}#{methodName}"
  | .parameter className methodName parameterName => s!"{className}#{methodName}({parameterName})"

/-- Narrowing an element to a parameter keeps its class. -/
theorem className_narrow (element : Element) (name : String) :
    (element.narrow name).className = element.className := by
  cases element <;> rfl

end Element

/-- Something that was noticed about a declaration. -/
structure Diagnostic where
  message : String
  element : Element
  severity : Severity
  /-- The stable identifier of what was noticed. -/
  kind : String
  deriving DecidableEq, Repr

namespace Diagnostic

/-- Whether a diagnostic is an error. -/
def isError (diagnostic : Diagnostic) : Bool :=
  diagnostic.severity = .error

/-- A warning about an element. -/
def warning (element : Element) (kind message : String) : Diagnostic :=
  { message, element, severity := .warn, kind }

/-- The error that a fault of an element amounts to. It is attached to the parameter at fault, if
there is one. -/
def ofFault (element : Element) (fault : Fault) : Diagnostic where
  message := fault.message
  element :=
    match fault.parameter? with
    | some parameter => element.narrow parameter
    | none => element
  severity := .error
  kind := fault.kind

end Diagnostic

/-- The diagnostics recorded so far. -/
structure Reporter where
  diagnostics : List Diagnostic := []
  deriving DecidableEq, Repr

namespace Reporter

/-- Records a diagnostic. -/
def report (reporter : Reporter) (diagnostic : Diagnostic) : Reporter :=
  { diagnostics := reporter.diagnostics ++ [diagnostic] }

/-- Records a warning. -/
def warn (reporter : Reporter) (element : Element) (kind message : String) : Reporter :=
  reporter.report (.warning element kind message)

/-- Records a fault. -/
def fault (reporter : Reporter) (element : Element) (fault : Fault) : Reporter :=
  reporter.report (.ofFault element fault)

/-- How many diagnostics have a severity. -/
def count (reporter : Reporter) (severity : Severity) : Nat :=
  reporter.diagnostics.countP (·.severity = severity)

/-- The number of errors. -/
def errorCount (reporter : Reporter) : Nat := reporter.count .error

/-- The number of warnings. -/
def warningCount (reporter : Reporter) : Nat := reporter.count .warn

/-- Whether an error was recorded. -/
def hasErrors (reporter : Reporter) : Bool :=
  reporter.diagnostics.any Diagnostic.isError

/-- Whether nothing was recorded. -/
def isEmpty (reporter : Reporter) : Bool :=
  reporter.diagnostics.isEmpty

/-- Hands out everything recorded, leaving nothing. -/
def drain (reporter : Reporter) : List Diagnostic × Reporter :=
  (reporter.diagnostics, {})

/-- A diagnostic is recorded behind all earlier ones. -/
@[simp]
theorem diagnostics_report (reporter : Reporter) (diagnostic : Diagnostic) :
    (reporter.report diagnostic).diagnostics = reporter.diagnostics ++ [diagnostic] := rfl

end Reporter

namespace Text

/-- A text in which every line is ended by a line feed. -/
def ofLines (lines : List String) : String :=
  String.join (lines.map (· ++ "\n"))

end Text

namespace Diagnostic

/-- The lines of a diagnostic in a summary. -/
def lines (diagnostic : Diagnostic) : List String :=
  [s!"   [{diagnostic.kind}] {diagnostic.element.text}", s!"      {diagnostic.message}"]

/-- The lines of a group of diagnostics, none if the group is empty. -/
def groupLines (title : String) (group : List Diagnostic) : List String :=
  if group.isEmpty then [] else title :: group.flatMap lines ++ [""]

/-- **The summary of a run's diagnostics.** Errors come first, then warnings, then notes. -/
def summary (diagnostics : List Diagnostic) : List String :=
  if diagnostics.isEmpty then ["✅ No problems found!"]
  else
    let errors := diagnostics.filter (·.severity = .error)
    let warnings := diagnostics.filter (·.severity = .warn)
    let notes := diagnostics.filter (·.severity.isNote)
    ["", "📋 Processing Results:",
      s!"   {errors.length} error(s), {warnings.length} warning(s), {notes.length} note(s)", ""] ++
      groupLines "❌ Errors:" errors ++ groupLines "⚠️  Warnings:" warnings ++
      groupLines "ℹ️  Notes:" notes

end Diagnostic

end ContentRouter
