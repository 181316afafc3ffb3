import ContentRouter.Document.Basic
import ContentRouter.File.Tree
import ContentRouter.Manifest.Declaration
import ContentRouter.Template.Model
import ContentRouter.Toml.Reading

/-!
# Settings of the generator

The type names that handlers are checked against and routers are written with, and the choices that
shape the output. Every setting has a default; a settings file states only what differs, in a record
of two records of texts, in which fields that are not known do not matter.

Settings are read from a file that is named explicitly, or else from the file of a fixed name beside
the manifest, if there is one. Without a file the defaults hold.
-/

namespace ContentRouter

/-- The names of the framework types in generated code. -/
structure TypeNames where
  string : String := "java.lang.String"
  stringArray : String := "java.lang.String[]"
  contentValues : String := "android.content.ContentValues"
  uri : String := "android.net.Uri"
  context : String := "android.content.Context"
  cursor : String := "android.database.Cursor"
  int : String := "int"
  deriving DecidableEq, Repr

/-- The type that a handler of an operation returns. -/
def TypeNames.returnType (types : TypeNames) : Operation → String
  | .query => types.cursor
  | .insert => types.uri
  | .update => types.int
  | .delete => types.int
  | .getType => types.string

/-- The choices that shape the output. -/
structure OutputSettings where
  /-- What a router's class name adds to that of its provider. -/
  routerSuffix : String := "Router"
  /-- What stands for a placeholder in a normalized path. -/
  wildcard : String := Model.defaultWildcard
  /-- The scheme under which authorities and paths are checked. -/
  uriScheme : String := Model.defaultScheme
  deriving DecidableEq, Repr

/-- The settings of a run. -/
structure Settings where
  types : TypeNames := {}
  output : OutputSettings := {}
  deriving DecidableEq, Repr

namespace Settings

/-- Builds the model of a template under an authority with the chosen wildcard and scheme. -/
def buildModel (settings : Settings) (authority template : String) : Except (List Fault) Model :=
  Model.build settings.output.uriScheme settings.output.wildcard authority template

end Settings

open Document (optional)

/-- The type names that a document states. -/
def TypeNames.read (document : Document) : Reading TypeNames := do
  let defaults : TypeNames := {}
  match ← document.fields
      ["string", "string_array", "content_values", "uri", "context", "cursor", "int"] true with
  | [string, stringArray, contentValues, uri, context, cursor, int] =>
      return {
        string := ← optional defaults.string Document.text string
        stringArray := ← optional defaults.stringArray Document.text stringArray
        contentValues := ← optional defaults.contentValues Document.text contentValues
        uri := ← optional defaults.uri Document.text uri
        context := ← optional defaults.context Document.text context
        cursor := ← optional defaults.cursor Document.text cursor
        int := ← optional defaults.int Document.text int }
  | _ => failure

/-- The output settings that a document states. -/
def OutputSettings.read (document : Document) : Reading OutputSettings := do
  let defaults : OutputSettings := {}
  match ← document.fields ["router_suffix", "wildcard", "uri_scheme"] true with
  | [routerSuffix, wildcard, uriScheme] =>
      return {
        routerSuffix := ← optional defaults.routerSuffix Document.text routerSuffix
        wildcard := ← optional defaults.wildcard Document.text wildcard
        uriScheme := ← optional defaults.uriScheme Document.text uriScheme }
  | _ => failure

/-- **The settings that a document states.** -/
def Settings.read (document : Document) : Reading Settings := do
  match ← document.fields ["types", "output"] true with
  | [types, output] =>
      return {
        types := ← optional {} TypeNames.read types
        output := ← optional {} OutputSettings.read output }
  | _ => failure

namespace Settings

/-- The settings that a text in TOML states. -/
def ofText? (text : String) : Option Settings :=
  (Toml.document? text).bind (·.read? Settings.read)

/-- The name of a settings file beside a manifest. -/
def fileName : String := "providerkit.toml"

/-- The settings file beside a manifest, if it exists. -/
def pathBeside? (files : FileTree) (manifest : Path) : Option Path :=
  (manifest.parent?.map (·.push ⟨fileName⟩)).filter files.contains

/-- The path of the settings that hold for a manifest: the explicit one, whether or not it exists,
or else the one beside the manifest. -/
def path? (files : FileTree) (explicit : Option Path) (manifest : Path) : Option Path :=
  match explicit with
  | some path => some path
  | none => pathBeside? files manifest

end Settings

end ContentRouter
