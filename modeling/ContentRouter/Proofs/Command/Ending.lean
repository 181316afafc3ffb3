import ContentRouter.Command.Run

/-!
# How a run ends and what it leaves

A run that cannot load its inputs ends there and leaves the files as they are. Otherwise it fails
exactly if it comes to a file that cannot be written, and ends with what the diagnostics say if it
does not (`Request.result_run`).

A request that checks, inspects or generates in a dry run comes to no file at all: it leaves the
files as they are (`Request.files_run_of_isReadOnly`) and does not fail.
-/

namespace ContentRouter

namespace Writing

section DryRun

variable {generation : Generation} (dry : generation.dryRun = true) (writing : Writing)
include dry

private theorem writeRouter_of_dryRun (types : TypeNames) (router : Router) :
    (writing.writeRouter generation types router).files = writing.files ∧
      (writing.writeRouter generation types router).failed = writing.failed := by
  unfold writeRouter
  by_cases failed : writing.failed = true
  · rw [if_pos failed]
    exact ⟨rfl, rfl⟩
  · rw [if_neg failed]
    simp only [dry, ↓reduceIte]
    split
    · exact ⟨rfl, rfl⟩
    · exact ⟨rfl, rfl⟩

/-- Showing the paths of routers touches no file, and does not fail. -/
theorem writeRouters_of_dryRun (types : TypeNames) (model : RouterModel) :
    (writing.writeRouters generation types model).files = writing.files ∧
      (writing.writeRouters generation types model).failed = writing.failed := by
  unfold writeRouters
  induction model.routers generalizing writing with
  | nil => exact ⟨rfl, rfl⟩
  | cons router rest ih =>
      obtain ⟨files, failed⟩ := writing.writeRouter_of_dryRun dry types router
      rw [List.foldl_cons, (ih _).1, (ih _).2]
      exact ⟨files, failed⟩

private theorem writeModel_of_dryRun (model : RouterModel) :
    writing.writeModel generation model = writing := by
  unfold writeModel
  split
  · rfl
  · rw [dry, Bool.true_or, if_pos rfl]

end DryRun

end Writing

namespace Request

/-- Whether a request writes nothing: it checks, inspects, or generates in a dry run. -/
def IsReadOnly : Request → Prop
  | .generate generation => generation.dryRun = true
  | .check _ _ _ | .inspect _ _ _ => True

variable {files : FileTree} {manifest : Manifest} {settings : Settings}

/-- Whether a request comes to a file that cannot be written, given what it loads. -/
def fails (files : FileTree) (settings : Settings) (model : RouterModel) : Request → Bool
  | .generate generation =>
      ((({ files } : Writing).writeRouters generation settings.types model).writeModel generation
        model).failed
  | .check _ _ _ | .inspect _ _ _ => false

/-- A request that only reads cannot fail in writing. -/
theorem fails_of_isReadOnly {request : Request} (readOnly : request.IsReadOnly)
    (model : RouterModel) : request.fails files settings model = false := by
  cases request with
  | generate generation =>
      rw [fails, Writing.writeModel_of_dryRun readOnly,
        (Writing.writeRouters_of_dryRun readOnly _ settings.types model).2]
  | check => rfl
  | inspect => rfl

/-- A run that cannot load its inputs shows nothing and changes nothing. -/
theorem run_of_error {request : Request} {failure : Failure}
    (missing : loadInputs files request.manifest request.explicitSettings = .error failure) :
    run files request = { files, lines := [], result := .error failure } := by
  cases request with
  | generate generation =>
      rw [Request.manifest, explicitSettings] at missing
      rw [run, runGenerate, withInputs, missing]
  | check path explicit errorsOnly =>
      rw [Request.manifest, explicitSettings] at missing
      rw [run, runCheck, withInputs, missing]
  | inspect path explicit asJson =>
      rw [Request.manifest, explicitSettings] at missing
      rw [run, runInspect, withInputs, missing]

/-- **How a run ends** that could load its manifest. -/
theorem result_run (request : Request)
    (loaded : loadInputs files request.manifest request.explicitSettings =
      .ok (manifest, settings)) :
    (run files request).result =
      if request.fails files settings (processManifest settings manifest).2 then .error .unwritable
      else .ok (.ofDiagnostics (processManifest settings manifest).1.reporter.diagnostics) := by
  cases request with
  | generate generation =>
      rw [Request.manifest, explicitSettings] at loaded
      simp only [run, runGenerate, withInputs, loaded, fails]
      exact apply_ite Completion.result _ _ _
  | check path explicit errorsOnly =>
      rw [Request.manifest, explicitSettings] at loaded
      simp only [run, runCheck, withInputs, loaded, fails]
      rfl
  | inspect path explicit asJson =>
      rw [Request.manifest, explicitSettings] at loaded
      simp only [run, runInspect, withInputs, loaded, fails]
      rfl

/-- **A request that writes nothing leaves all files as they are.** -/
theorem files_run_of_isReadOnly {request : Request} (readOnly : request.IsReadOnly) :
    (run files request).files = files := by
  cases inputs : loadInputs files request.manifest request.explicitSettings with
  | error failure => rw [run_of_error inputs]
  | ok loaded =>
      cases request with
      | generate generation =>
          have written (settings : Settings) (model : RouterModel) :=
            ({ files } : Writing).writeRouters_of_dryRun readOnly settings.types model
          rw [Request.manifest, explicitSettings] at inputs
          simp only [run, runGenerate, withInputs, inputs, Writing.writeModel_of_dryRun readOnly,
            written, Bool.false_eq_true, ↓reduceIte]
      | check path explicit errorsOnly =>
          rw [Request.manifest, explicitSettings] at inputs
          rw [run, runCheck, withInputs, inputs]
      | inspect path explicit asJson =>
          rw [Request.manifest, explicitSettings] at inputs
          rw [run, runInspect, withInputs, inputs]

end Request

end ContentRouter
