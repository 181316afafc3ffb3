import ContentRouter.Manifest.Reading
import ContentRouter.Settings

/-!
# Loading

The manifest and the settings of a run, read from a file tree. A run that cannot load them fails
with one of the causes collected here; nothing is written before both are loaded.
-/

namespace ContentRouter

/-- Why a run did not come to its end. -/
inductive Failure where
  | unreadableManifest (path : Path)
  | invalidManifest (path : Path) (format : ManifestFormat)
  | unreadableSettings (path : Path)
  | invalidSettings (path : Path)
  | missingSettings (path : Path)
  /-- A file could not be written. -/
  | unwritable
  deriving DecidableEq, Repr

/-- What is told about a failure. The system itself tells why a file could not be written. -/
def Failure.message? : Failure → Option String
  | .unreadableManifest path => some s!"Failed to read manifest: {path.text}"
  | .invalidManifest path format => some s!"Invalid manifest: {path.text}: {format.fault}"
  | .unreadableSettings path => some s!"Failed to read generator config: {path.text}"
  | .invalidSettings path => some s!"Failed to parse generator config: {path.text}"
  | .missingSettings path => some s!"Generator config not found: {path.text}"
  | .unwritable => none

/-- The manifest in a file. -/
def Manifest.load (files : FileTree) (path : Path) : Except Failure Manifest :=
  match files.read? path with
  | none => .error (.unreadableManifest path)
  | some text =>
      let format := ManifestFormat.ofPath path
      match Manifest.ofText? format text with
      | none => .error (.invalidManifest path format)
      | some manifest => .ok manifest

namespace Settings

/-- The settings in a file, or none if there is no such file. -/
def load (files : FileTree) (path : Path) : Except Failure (Option Settings) :=
  if files.contains path then
    match files.read? path with
    | none => .error (.unreadableSettings path)
    | some text =>
        match ofText? text with
        | none => .error (.invalidSettings path)
        | some settings => .ok (some settings)
  else .ok none

/-- **The settings that hold for a manifest.** A file that was named explicitly has to exist. -/
def resolve (files : FileTree) (explicit : Option Path) (manifest : Path) :
    Except Failure Settings :=
  match path? files explicit manifest with
  | none => .ok {}
  | some path =>
      match load files path with
      | .error failure => .error failure
      | .ok (some settings) => .ok settings
      | .ok none => if explicit.isSome then .error (.missingSettings path) else .ok {}

end Settings

/-- The manifest and the settings of a run. The manifest is loaded first, so its failures win. -/
def loadInputs (files : FileTree) (manifest : Path) (explicit : Option Path) :
    Except Failure (Manifest × Settings) := do
  let loaded ← Manifest.load files manifest
  let settings ← Settings.resolve files explicit manifest
  return (loaded, settings)

end ContentRouter
