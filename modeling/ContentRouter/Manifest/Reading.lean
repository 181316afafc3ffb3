import ContentRouter.Document.Basic
import ContentRouter.File.Path
import ContentRouter.Json.Reading
import ContentRouter.Manifest.Declaration
import ContentRouter.Yaml.Reading

/-!
# Reading manifests

How provider declarations are written in a document. A manifest, a provider, a method and a
parameter are records; an annotation is a name, or entries that give names a value. The document is
written in YAML or in JSON. The extension of its file tells which.
-/

namespace ContentRouter

open Document (required optional listOf)

/-- The operation that a document names. -/
def Operation.read (document : Document) : Reading Operation := do
  Reading.ofOption (ofName? (← document.choice))

/-- The annotation item that a document states. -/
def Annotation.read (document : Document) : Reading Annotation := do
  match ← document.content with
  | .leaf leaf => return .marker (← Reading.ofOption leaf.label?)
  | .entries entries true _ => do
      let named ← (document.entriesOf entries).mapM fun (key, value) =>
        return (← key.label, ← value.label)
      return ofEntries named
  | _ => failure

/-- The parameter that a document states. -/
def Parameter.read (document : Document) : Reading Parameter := do
  match ← document.fields ["name", "type", "annotations"] false with
  | [name, typeName, annotations] =>
      return {
        name := ← required Document.text name
        typeName := ← required Document.text typeName
        annotations := ← optional [] (listOf Annotation.read) annotations }
  | _ => failure

/-- The handler method that a document states. -/
def Method.read (document : Document) : Reading Method := do
  match ← document.fields ["name", "operation", "template", "return_type", "parameters"] false with
  | [name, operation, template, returnType, parameters] =>
      return {
        name := ← required Document.text name
        operation := ← required Operation.read operation
        template := ← required Document.text template
        returnType := ← optional "" Document.text returnType
        parameters := ← optional [] (listOf Parameter.read) parameters }
  | _ => failure

/-- The provider class that a document states. -/
def Provider.read (document : Document) : Reading Provider := do
  match ← document.fields ["class", "authority", "methods"] false with
  | [className, authority, methods] =>
      return {
        className := ← required Document.text className
        authority := ← optional "" Document.text authority
        methods := ← optional [] (listOf Method.read) methods }
  | _ => failure

/-- **The manifest that a document states.** -/
def Manifest.read (document : Document) : Reading Manifest := do
  match ← document.fields ["providers"] false with
  | [providers] =>
      return { providers := ← optional [] (listOf Provider.read) providers }
  | _ => failure

/-- The notation of a manifest. -/
inductive ManifestFormat where
  | yaml
  | json
  deriving DecidableEq, Repr

namespace ManifestFormat

/-- The format's name in messages. -/
def name : ManifestFormat → String
  | .yaml => "YAML"
  | .json => "JSON"

/-- The format of a file: YAML for the extensions `yaml` and `yml`, JSON for all others. -/
def ofPath (path : Path) : ManifestFormat :=
  match path.extension? with
  | some extension => if extension == "yaml" || extension == "yml" then .yaml else .json
  | none => .json

/-- The document that a text in this format states. -/
def document? : ManifestFormat → String → Option Document
  | .yaml => Yaml.document?
  | .json => Json.document?

/-- What is told about a text that is no manifest in this format. -/
def fault (format : ManifestFormat) : String :=
  s!"Failed to parse {format.name} declaration manifest"

end ManifestFormat

/-- **The manifest that a text states** in a format. -/
def Manifest.ofText? (format : ManifestFormat) (text : String) : Option Manifest :=
  (format.document? text).bind (·.read? Manifest.read)

end ContentRouter
