import ContentRouter.Text.Pieces

/-!
# Declarations

What a manifest states about provider classes: their authorities, their handler methods, and the
parameters of each method with the annotations that tell what to pass for them. A handler serves one
of the five operations of a content provider. Their order is the order in which a router lists its
entry points.
-/

namespace ContentRouter

/-- What a handler method serves. -/
inductive Operation
  | query
  | insert
  | update
  | delete
  | getType
  deriving DecidableEq, Repr

namespace Operation

/-- Every operation, in the order of the entry points. -/
def all : List Operation := [.query, .insert, .update, .delete, .getType]

/-- The name of an operation in manifests, models and messages. -/
def name : Operation → String
  | .query => "query"
  | .insert => "insert"
  | .update => "update"
  | .delete => "delete"
  | .getType => "get_type"

/-- The operation of a name. -/
def ofName? (name : String) : Option Operation :=
  all.find? (·.name == name)

end Operation

/-- One annotation item of a parameter. -/
inductive Annotation
  /-- A name without a value. -/
  | marker (name : String)
  /-- Names with a value each, in the order of their names. -/
  | valued (entries : List (String × String))
  deriving DecidableEq, Repr

namespace Annotation

/-- The names of an annotation item, each with its value if it has one. -/
def entries : Annotation → List (String × Option String)
  | .marker name => [(name, none)]
  | .valued entries => entries.map fun (name, value) => (name, some value)

/-- Puts a name with its value among names in order. A name that is there takes the new value. -/
def insertEntry (name value : String) : List (String × String) → List (String × String)
  | [] => [(name, value)]
  | (other, kept) :: rest =>
      if name = other then (name, value) :: rest
      else if name < other then (name, value) :: (other, kept) :: rest
      else (other, kept) :: insertEntry name value rest

/-- The annotation item of names with a value each, in any order. The last value of a name
counts. -/
def ofEntries (entries : List (String × String)) : Annotation :=
  .valued (entries.foldl (fun ordered (name, value) => insertEntry name value ordered) [])

end Annotation

/-- A parameter of a handler method. -/
structure Parameter where
  name : String
  typeName : String
  annotations : List Annotation := []
  deriving DecidableEq, Repr

/-- Every annotation name of a parameter with its value, in the order of declaration. -/
def Parameter.entries (parameter : Parameter) : List (String × Option String) :=
  parameter.annotations.flatMap Annotation.entries

/-- A handler method. -/
structure Method where
  name : String
  operation : Operation
  template : String
  /-- The declared return type, empty where none is stated. -/
  returnType : String := ""
  parameters : List Parameter := []
  deriving DecidableEq, Repr

/-- A provider class. -/
structure Provider where
  className : String
  authority : String := ""
  methods : List Method := []
  deriving DecidableEq, Repr

namespace Provider

/-- The class name without its package: what follows the last dot. -/
def simpleName (provider : Provider) : String :=
  match Text.splitAtLast? '.' provider.className with
  | some (_, simple) => simple
  | none => provider.className

/-- The package of the class: what precedes the last dot. -/
def package (provider : Provider) : String :=
  match Text.splitAtLast? '.' provider.className with
  | some (package, _) => package
  | none => ""

end Provider

/-- The provider classes of a run. -/
structure Manifest where
  providers : List Provider := []
  deriving DecidableEq, Repr

end ContentRouter
