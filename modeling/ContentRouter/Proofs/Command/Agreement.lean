import ContentRouter.Proofs.Command.Ending
import ContentRouter.Proofs.Round.Verdict

/-!
# The commands agree

Requests for one manifest with one choice of settings load the same, and what they load is processed
the same way. So they all fail in loading or none does, and the outcome of those that come to their
end is the same: whether a declaration or a handler was rejected (`Request.agreement_law`). Only a
request that writes can fail otherwise, and only in writing.
-/

namespace ContentRouter

/-- A run ends with errors reported exactly if something was rejected. -/
theorem Outcome.ofDiagnostics_eq_errorsReported_iff (settings : Settings) (manifest : Manifest) :
    ofDiagnostics (processManifest settings manifest).1.reporter.diagnostics = .errorsReported ↔
      manifest.HasRejectedDeclaration settings ∨ manifest.HasRejectedHandler settings := by
  rw [← Round.exists_isError_iff, ofDiagnostics, ← List.any_eq_true, processManifest]
  dsimp only
  split
  · rename_i found
    exact iff_of_true rfl found
  · rename_i clean
    exact iff_of_false nofun clean

namespace Request

/-- Whether a request is about a manifest, with a choice of settings. -/
def IsAbout (manifest : Path) (explicit : Option Path) (request : Request) : Prop :=
  request.manifest = manifest ∧ request.explicitSettings = explicit

/-- **The law of agreement** of the requests about a manifest. -/
structure AgreementLaw (files : FileTree) (manifest : Path) (explicit : Option Path) : Prop where
  /-- Whatever becomes of it, a request that writes nothing leaves all files as they are. -/
  unchanged : ∀ request : Request, request.IsAbout manifest explicit → request.IsReadOnly →
    (request.run files).files = files
  /-- Where the inputs cannot be loaded, every request fails alike and leaves all files alone. -/
  failure : ∀ failure, loadInputs files manifest explicit = .error failure →
    ∀ request : Request, request.IsAbout manifest explicit →
      request.run files = { files, lines := [], result := .error failure }
  /-- Otherwise there is one outcome, which tells whether something was rejected. Every request ends
  with it, unless it writes and fails in writing. -/
  outcome : ∀ declared settings, loadInputs files manifest explicit = .ok (declared, settings) →
    ∃ outcome : Outcome,
      (outcome = .errorsReported ↔
        declared.HasRejectedDeclaration settings ∨ declared.HasRejectedHandler settings) ∧
      (∀ request : Request, request.IsAbout manifest explicit → request.IsReadOnly →
        (request.run files).result = .ok outcome) ∧
      ∀ request : Request, request.IsAbout manifest explicit →
        (request.run files).result = .ok outcome ∨ (request.run files).result = .error .unwritable

/-- **The commands agree, and those that only read change nothing**, in every file tree, for every
manifest and every choice of settings. -/
theorem agreement_law (files : FileTree) (manifest : Path) (explicit : Option Path) :
    AgreementLaw files manifest explicit where
  unchanged := fun _ _ readOnly => files_run_of_isReadOnly readOnly
  failure := by
    rintro failure missing request ⟨rfl, rfl⟩
    exact run_of_error missing
  outcome := by
    intro declared settings loaded
    refine ⟨_, Outcome.ofDiagnostics_eq_errorsReported_iff settings declared, ?_, ?_⟩
    · rintro request ⟨rfl, rfl⟩ readOnly
      rw [request.result_run loaded, fails_of_isReadOnly readOnly]
      rfl
    · rintro request ⟨rfl, rfl⟩
      rw [request.result_run loaded]
      split
      · exact .inr rfl
      · exact .inl rfl

end Request

end ContentRouter
