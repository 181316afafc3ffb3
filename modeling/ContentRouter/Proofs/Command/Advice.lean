import ContentRouter.Proofs.Command.Ending
import ContentRouter.Proofs.File.Emptied
import ContentRouter.Proofs.Round.Advice

/-!
# Advice does not reach the outside

Two manifests that are the same without advice lead to the same handlers, registry and sources, and
to router models and diagnostics that differ in return types only. Runs over them end alike
(`advice_law`).

How a run ends is decided in two places. Writing can fail: it does so depending on where files
stand, but not on what is in them (`Writing.emptied_writeModel`). This matters because the router
model itself, if it is written, shows the return types. Otherwise the diagnostics decide, and no
error among them is about a return type (`Round.ofDiagnostics_withoutAdvice`).
-/

namespace ContentRouter

namespace Writing

/-- A writing without the contents of the files. -/
def emptied (writing : Writing) : Writing := { writing with files := writing.files.emptied }

private theorem emptied_say (writing : Writing) (line : String) :
    (writing.say line).emptied = writing.emptied.say line := rfl

private theorem emptied_count (writing : Writing) (path : Path) :
    (writing.count path).emptied = writing.emptied.count path := rfl

private theorem store_emptied (writing : Writing) (path : Path) (content : String) :
    writing.emptied.store path "" = (writing.store path content).emptied := by
  have stored (tree : FileTree) (ready : Bool) :
      (if ready then tree.emptied.write? path "" else none) =
        (if ready then tree.write? path content else none).map FileTree.emptied := by
    cases ready with
    | false => rfl
    | true => exact tree.write?_emptied path content
  unfold store
  cases path.parent? with
  | none =>
      dsimp only [emptied]
      rw [stored writing.files true]
      cases (if true then writing.files.write? path content else none) <;> rfl
  | some directory =>
      dsimp only [emptied]
      rw [FileTree.makeDirectories_emptied]
      rcases writing.files.makeDirectories directory with ⟨made, ready⟩
      dsimp only
      rw [stored made ready]
      cases (if ready then made.write? path content else none) <;> rfl

section Alike

variable {writing other : Writing} (alike : writing.emptied = other.emptied)

include alike

private theorem failed_eq : writing.failed = other.failed := by
  have failed := congrArg Writing.failed alike
  exact failed

private theorem contains_eq (path : Path) :
    writing.files.contains path = other.files.contains path := by
  have contains := congrArg (·.files.contains path) alike
  dsimp only [emptied] at contains
  rwa [FileTree.contains_emptied, FileTree.contains_emptied] at contains

private theorem emptied_store (path : Path) (content otherContent : String) :
    (writing.store path content).emptied = (other.store path otherContent).emptied := by
  rw [← store_emptied, ← store_emptied, alike]

private theorem emptied_storeAndSay (path : Path) (content otherContent line : String) :
    (writing.storeAndSay path content line).emptied =
      (other.storeAndSay path otherContent line).emptied := by
  have stored := emptied_store alike path content otherContent
  unfold storeAndSay
  dsimp only
  rw [failed_eq stored]
  split
  · exact stored
  · rw [emptied_say, stored, emptied_say]

/-- **One router.** What stands at its path counts, but not what is in it. -/
theorem emptied_writeRouter (generation : Generation) (types : TypeNames) (router : Router) :
    (writing.writeRouter generation types router).emptied =
      (other.writeRouter generation types router).emptied := by
  unfold writeRouter
  dsimp only
  rw [failed_eq alike, contains_eq alike]
  split
  · exact alike
  · split
    · rw [emptied_say, alike, emptied_say]
    · split
      · rw [emptied_count, emptied_say, alike, emptied_count, emptied_say]
      · have stored := emptied_storeAndSay alike (router.sourcePath generation.output)
          (Source.render types router) (Source.render types router)
          ("✅ Generated router: " ++ Text.quoted (router.sourcePath generation.output).text)
        rw [failed_eq stored]
        split
        · exact stored
        · rw [emptied_count, stored, emptied_count]

/-- **The routers of a model.** -/
theorem emptied_writeRouters (generation : Generation) (types : TypeNames) (model : RouterModel) :
    (writing.writeRouters generation types model).emptied =
      (other.writeRouters generation types model).emptied := by
  unfold writeRouters
  induction model.routers generalizing writing other with
  | nil => exact alike
  | cons router rest ih => exact ih (emptied_writeRouter alike generation types router)

/-- **The router model itself**, or any other in its place. -/
theorem emptied_writeModel (generation : Generation) (model otherModel : RouterModel) :
    (writing.writeModel generation model).emptied =
      (other.writeModel generation otherModel).emptied := by
  unfold writeModel
  rw [failed_eq alike]
  split
  · exact alike
  · split
    · exact alike
    · exact emptied_storeAndSay alike _ _ _ _

end Alike

/-- Return types are not seen when routers are written. -/
theorem writeRouters_withoutAdvice (generation : Generation) (types : TypeNames)
    (model : RouterModel) (writing : Writing) :
    writing.writeRouters generation types model.withoutAdvice =
      writing.writeRouters generation types model := by
  have written (writing : Writing) (router : Router) :
      writing.writeRouter generation types router.withoutAdvice =
        writing.writeRouter generation types router := by
    unfold writeRouter
    rw [Source.render_withoutAdvice]
    rfl
  simp only [writeRouters, RouterModel.withoutAdvice, List.foldl_map, written]

end Writing

private theorem Round.ofDiagnostics_withoutAdvice (settings : Settings) (manifest : Manifest) :
    Outcome.ofDiagnostics (ofManifest settings manifest).withoutAdvice.reporter.diagnostics =
      .ofDiagnostics (ofManifest settings manifest).reporter.diagnostics := by
  have errors : (ofManifest settings manifest).withoutAdvice.reporter.diagnostics.any (·.isError) =
      (ofManifest settings manifest).reporter.diagnostics.any (·.isError) := by
    dsimp only [withoutAdvice, Reporter.withoutAdvice]
    rw [List.any_filter, Bool.eq_iff_iff, List.any_eq_true, List.any_eq_true]
    refine exists_congr fun diagnostic => and_congr_right fun member => ?_
    have warned := isError_of_isAdvice settings manifest diagnostic member
    cases advice : diagnostic.isAdvice with
    | false => simp only [Bool.not_false, Bool.true_and]
    | true => simp only [warned advice, Bool.and_false]
  rw [Outcome.ofDiagnostics, errors, Outcome.ofDiagnostics]

namespace Request

variable {files : FileTree} {manifest : Manifest} {settings : Settings}

/-- A request fails alike for two models that differ in return types, in trees that differ in the
contents of files. -/
theorem fails_eq {otherFiles : FileTree} {model other : RouterModel}
    (sameFiles : files.emptied = otherFiles.emptied)
    (sameModel : model.withoutAdvice = other.withoutAdvice) (request : Request) :
    request.fails files settings model = request.fails otherFiles settings other := by
  cases request with
  | generate generation =>
      have start : ({ files } : Writing).emptied = ({ files := otherFiles } : Writing).emptied := by
        simp only [Writing.emptied, sameFiles]
      have written := Writing.emptied_writeRouters start generation settings.types model
      rw [← Writing.writeRouters_withoutAdvice generation settings.types model
        { files := otherFiles }, sameModel, Writing.writeRouters_withoutAdvice] at written
      exact Writing.failed_eq (Writing.emptied_writeModel written generation model other)
  | check => rfl
  | inspect => rfl

end Request

/-- What two manifests have in common that differ in advice. -/
structure AdviceLaw (settings : Settings) (manifest other : Manifest) : Prop where
  /-- The same handlers are accepted, class by class. -/
  handlers :
    ((processManifest settings manifest).1.accepted.map fun accepted =>
        (accepted.provider.className, accepted.delegates.map (·.handler))) =
      (processManifest settings other).1.accepted.map fun accepted =>
        (accepted.provider.className, accepted.delegates.map (·.handler))
  /-- The same is recorded, in the same order, apart from what is about return types. -/
  diagnostics :
    (processManifest settings manifest).1.reporter.diagnostics.filter (·.kind != "ReturnType") =
      (processManifest settings other).1.reporter.diagnostics.filter (·.kind != "ReturnType")
  registry :
    (processManifest settings manifest).1.registry = (processManifest settings other).1.registry
  /-- The router models differ in nothing but the return types of delegates. -/
  model :
    (processManifest settings manifest).2.withoutAdvice =
      (processManifest settings other).2.withoutAdvice
  /-- The same sources are rendered, for the same paths. -/
  sources : ∀ types output,
    ((processManifest settings manifest).2.routers.map fun router =>
        (router.sourcePath output, Source.render types router)) =
      (processManifest settings other).2.routers.map fun router =>
        (router.sourcePath output, Source.render types router)
  /-- A request ends alike where it loads the one manifest or the other, all files standing in the
  same places. -/
  result : ∀ (files otherFiles : FileTree) (request : Request),
    files.emptied = otherFiles.emptied →
      loadInputs files request.manifest request.explicitSettings = .ok (manifest, settings) →
        loadInputs otherFiles request.manifest request.explicitSettings = .ok (other, settings) →
          (request.run files).result = (request.run otherFiles).result

/-- **Advice does not change what is generated**, nor how a run ends. -/
theorem advice_law {manifest other : Manifest} (settings : Settings)
    (same : manifest.withoutAdvice = other.withoutAdvice) :
    AdviceLaw settings manifest other := by
  -- Both rounds, less their advice, are the round over the one manifest without advice.
  have processed := processManifest_withoutAdvice settings manifest
  rw [same, processManifest_withoutAdvice, Prod.mk.injEq] at processed
  obtain ⟨round, model⟩ := processed
  have sources (types : TypeNames) (output : Path) (manifest : Manifest) :
      ((processManifest settings manifest).2.withoutAdvice.routers.map fun router =>
          (router.sourcePath output, Source.render types router)) =
        (processManifest settings manifest).2.routers.map fun router =>
          (router.sourcePath output, Source.render types router) := by
    simp only [RouterModel.withoutAdvice, List.map_map]
    apply List.map_congr_left
    intro router _
    exact congrArg (router.sourcePath output, ·) (Source.render_withoutAdvice types router)
  have handlers (manifest : Manifest) :
      ((processManifest settings manifest).1.withoutAdvice.accepted.map fun accepted =>
          (accepted.provider.className, accepted.delegates.map (·.handler))) =
        (processManifest settings manifest).1.accepted.map fun accepted =>
          (accepted.provider.className, accepted.delegates.map (·.handler)) := by
    simp only [Round.withoutAdvice, AcceptedProvider.withoutAdvice, List.map_map,
      Function.comp_def]
    rfl
  exact {
    handlers := by rw [← handlers, ← round, handlers]
    diagnostics := (congrArg (·.reporter.diagnostics) round).symm
    registry := (congrArg (·.registry) round).symm
    model := model.symm
    sources := by
      intro types output
      rw [← sources, ← model, sources]
    result := by
      intro files otherFiles request sameFiles loaded otherLoaded
      have outcome :
          Outcome.ofDiagnostics (processManifest settings manifest).1.reporter.diagnostics =
            .ofDiagnostics (processManifest settings other).1.reporter.diagnostics := by
        have ended := congrArg (fun round => Outcome.ofDiagnostics round.reporter.diagnostics) round
        rw [processManifest, processManifest, Round.ofDiagnostics_withoutAdvice,
          Round.ofDiagnostics_withoutAdvice] at ended
        exact ended.symm
      rw [request.result_run loaded, request.result_run otherLoaded,
        Request.fails_eq sameFiles model.symm, outcome] }

/-- A return type that is not the expected one and annotations without a role earn a warning, and
nothing else comes of them. -/
theorem advice_law_of_warning :
    let manifest (returnType : String) (advice : List Annotation) : Manifest :=
      ⟨[{ className := "Notes", authority := "a", methods := [
          { name := "list", operation := .query, template := "n", returnType, parameters := [
              { name := "uri", typeName := "android.net.Uri",
                annotations := .marker "ContentUri" :: advice }] }] }]⟩
    let plain := manifest "" []
    let advised := manifest "List" [.marker "NotNull", .valued [("Size", "1")]]
    plain.withoutAdvice = advised.withoutAdvice ∧ AdviceLaw {} plain advised ∧
      (processManifest {} plain).1.reporter.diagnostics = [] ∧
      (processManifest {} advised).1.reporter.diagnostics.map (·.kind) = ["ReturnType"] := by
  intro manifest plain advised
  have same : plain.withoutAdvice = advised.withoutAdvice := by decide +kernel
  exact ⟨same, advice_law {} same, by decide +kernel, by decide +kernel⟩

end ContentRouter
