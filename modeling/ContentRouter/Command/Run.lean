import ContentRouter.Command.Loading
import ContentRouter.Command.Writing
import ContentRouter.Diagnostic
import ContentRouter.Round.Basic

/-!
# Runs

What a request does to a file tree, what it shows, and how it ends. Checking and inspecting only
read. Faults of the declarations do not stop a run: they decide its outcome, and routers for all
that is valid are written nevertheless.

The paths that a request may read or write say which part of the files around it a run depends
on.
-/

namespace ContentRouter

/-- How a run that came to its end went. -/
inductive Outcome where
  | success
  /-- At least one error was found in the declarations. -/
  | errorsReported
  deriving DecidableEq, Repr

namespace Outcome

/-- The outcome of a run with these diagnostics. -/
def ofDiagnostics (diagnostics : List Diagnostic) : Outcome :=
  if diagnostics.any (·.isError) then .errorsReported else .success

/-- The exit code of the program. -/
def exitCode : Outcome → Nat
  | .success => 0
  | .errorsReported => 1

end Outcome

/-- What a run leaves behind. -/
structure Completion where
  files : FileTree
  /-- The lines shown, also those before a failure. -/
  lines : List String
  result : Except Failure Outcome

/-- The text that a run shows. -/
def Completion.text (completion : Completion) : String :=
  Text.ofLines completion.lines

namespace Text

/-- A text filled up with blanks to a width. -/
def padded (width : Nat) (text : String) : String :=
  text ++ String.ofList (List.replicate (width - text.length) ' ')

end Text

namespace Router

/-- The line of a route when routers are listed. -/
def routeLine (route : Route) : String :=
  s!"      {Text.padded 8 route.operation.name} {route.model.text} → " ++
    route.delegate.handler.method

/-- The lines of a group of routes: its matcher, then every route. -/
def groupLines (group : RouteGroup) : List String :=
  s!"   [{group.matcherId}] {group.normalizedPath}" :: group.routes.map routeLine

/-- The lines of a router when routers are listed. -/
def listing (router : Router) : List String :=
  s!"📦 {router.qualifiedName} → {router.qualifiedRouterName} (authority: {router.authority})" ::
    router.groups.flatMap groupLines

end Router

/-- The lines that list a router model. -/
def RouterModel.listing (model : RouterModel) : List String :=
  if model.isEmpty then ["No routers would be generated."]
  else model.routers.flatMap Router.listing

namespace Request

/-- Loads what a run needs, then goes on; a failure to load ends the run with nothing shown and
nothing written. -/
def withInputs (files : FileTree) (manifest : Path) (explicit : Option Path)
    (next : Manifest → Settings → Completion) : Completion :=
  match loadInputs files manifest explicit with
  | .error failure => { files, lines := [], result := .error failure }
  | .ok (loaded, settings) => next loaded settings

/-- The last line of a run that generates. -/
def generationLine (writing : Writing) (model : RouterModel) (diagnostics : List Diagnostic) :
    String :=
  let errors := diagnostics.filter (·.isError)
  s!"📦 {writing.written.length} router(s) for {model.routers.length} provider(s), " ++
    s!"{errors.length} error(s)"

/-- Generates the routers of a manifest. -/
def runGenerate (files : FileTree) (generation : Generation) : Completion :=
  withInputs files generation.manifest generation.settings fun manifest settings =>
    let (round, model) := processManifest settings manifest
    let diagnostics := round.reporter.diagnostics
    let start : Writing := { files }
    let writing := (start.writeRouters generation settings.types model).writeModel generation model
    if writing.failed then
      { files := writing.files, lines := writing.lines, result := .error .unwritable }
    else
      { files := writing.files
        lines := writing.lines ++ [generationLine writing model diagnostics]
        result := .ok (.ofDiagnostics diagnostics) }

/-- Checks a manifest and shows what was found. -/
def runCheck (files : FileTree) (manifest : Path) (explicit : Option Path) (errorsOnly : Bool) :
    Completion :=
  withInputs files manifest explicit fun manifest settings =>
    let (round, _) := processManifest settings manifest
    let diagnostics := round.reporter.diagnostics
    let selected := if errorsOnly then diagnostics.filter (·.isError) else diagnostics
    { files, lines := Diagnostic.summary selected, result := .ok (.ofDiagnostics diagnostics) }

/-- Shows the routers of a manifest. -/
def runInspect (files : FileTree) (manifest : Path) (explicit : Option Path) (asJson : Bool) :
    Completion :=
  withInputs files manifest explicit fun manifest settings =>
    let (round, model) := processManifest settings manifest
    { files
      lines := if asJson then [Json.render model.toJson] else model.listing
      result := .ok (.ofDiagnostics round.reporter.diagnostics) }

/-- **Carries out a request** on a file tree. -/
def run (files : FileTree) : Request → Completion
  | .generate generation => runGenerate files generation
  | .check manifest explicit errorsOnly => runCheck files manifest explicit errorsOnly
  | .inspect manifest explicit asJson => runInspect files manifest explicit asJson


/-- The manifest of a request. -/
def manifest : Request → Path
  | .generate generation => generation.manifest
  | .check manifest _ _ => manifest
  | .inspect manifest _ _ => manifest

/-- The settings file that a request names. -/
def explicitSettings : Request → Option Path
  | .generate generation => generation.settings
  | .check _ settings _ => settings
  | .inspect _ settings _ => settings

/-- The paths that a request may read. -/
def inputs (request : Request) : List Path :=
  request.manifest ::
    match request.explicitSettings with
    | some path => [path]
    | none => (request.manifest.parent?.map (·.push ⟨Settings.fileName⟩)).toList

/-- The paths that a request may write, given what it reads. -/
def outputs (files : FileTree) : Request → List Path
  | .generate generation =>
      match loadInputs files generation.manifest generation.settings with
      | .error _ => []
      | .ok (manifest, settings) =>
          let (_, model) := processManifest settings manifest
          model.routers.map (·.sourcePath generation.output) ++ generation.modelJson.toList
  | .check _ _ _ | .inspect _ _ _ => []

end Request

end ContentRouter
