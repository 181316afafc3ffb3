import ContentRouter.Proofs.Round.Candidate
import ContentRouter.Proofs.Template.Report

/-!
# What a round does with one handler

A refusal always comes with a fault: a template that forms no model has one, parameters that cannot
be bound have one, and so has a conflict. An examination therefore finds no model exactly if it
reports an error. When it finds one there was no conflict, and the registry, which looks for
conflicts again, accepts it. So a handler either becomes a delegate and an entry and no error is
recorded, or an error is recorded and nothing else changes (`Round.processMethod_eq`,
`Round.processMethod_isSome_iff`).
-/

namespace ContentRouter

private theorem bindParameters_error_ne_nil {types : TypeNames} {model : Model}
    {parameters : List Parameter} {faults : List Fault}
    (refused : bindParameters types model parameters = .error faults) : faults ≠ [] := by
  unfold bindParameters at refused
  split at refused
  · cases refused
  · rename_i some _
    cases refused
    exact some

/-- The offer of a candidate that has no conflict in a registry. -/
def Candidate.entrant? (settings : Settings) (registry : Registry) (candidate : Candidate) :
    Option Admission :=
  (candidate.offer? settings).filter fun offer =>
    (registry.conflict? offer.model offer.handler.operation).isNone

/-- A candidate enters a registry with its offer exactly if nothing there is in conflict with it. -/
theorem Candidate.entrant?_eq_some_iff {settings : Settings} {registry : Registry}
    {candidate : Candidate} {entrant : Admission} :
    candidate.entrant? settings registry = some entrant ↔
      candidate.offer? settings = some entrant ∧
        registry.conflict? entrant.model entrant.handler.operation = none := by
  rw [entrant?, Option.filter_eq_some_iff, Option.isNone_iff_eq_none]

private theorem Candidate.entrant?_of_offer? {settings : Settings} (registry : Registry)
    {candidate : Candidate} {offer : Admission}
    (offered : candidate.offer? settings = some offer) :
    candidate.entrant? settings registry =
      if registry.conflict? offer.model offer.handler.operation = none then some offer
      else none := by
  rw [entrant?, offered, Option.filter_some]
  simp only [Option.isNone_iff_eq_none]

namespace Diagnostic

/-- Whether diagnostics have no error among them. -/
def Harmless (diagnostics : List Diagnostic) : Prop :=
  ∀ diagnostic ∈ diagnostics, diagnostic.isError = false

private theorem harmless_of_warnings {diagnostics : List Diagnostic}
    (warnings : ∀ diagnostic ∈ diagnostics, diagnostic.severity = .warn) :
    Harmless diagnostics := by
  intro diagnostic member
  rw [isError, warnings diagnostic member]
  rfl

/-- Diagnostics are harmless together exactly if both parts are. -/
theorem harmless_append {first second : List Diagnostic} :
    Harmless (first ++ second) ↔ Harmless first ∧ Harmless second :=
  List.forall_mem_append

private theorem harmless_map_ofFault_iff {element : Element} {faults : List Fault} :
    Harmless (faults.map (ofFault element)) ↔ faults = [] := by
  cases faults with
  | nil => exact iff_of_true nofun rfl
  | cons fault rest =>
      refine iff_of_false ?_ (List.cons_ne_nil fault rest)
      intro harmless
      exact nomatch harmless _ List.mem_cons_self

end Diagnostic

namespace Round

open Diagnostic (Harmless harmless_of_warnings harmless_append harmless_map_ofFault_iff)

section Recording

variable (round : Round) (diagnostics : List Diagnostic)

/-- Recording diagnostics keeps the registry. -/
@[simp]
theorem registry_record : (round.record diagnostics).registry = round.registry := rfl

/-- Recording diagnostics keeps the declared classes. -/
@[simp]
theorem declared_record : (round.record diagnostics).declared = round.declared := rfl

/-- Diagnostics are recorded behind all earlier ones. -/
@[simp]
theorem diagnostics_record :
    (round.record diagnostics).reporter.diagnostics =
      round.reporter.diagnostics ++ diagnostics := by
  simp only [record]
  induction diagnostics generalizing round with
  | nil => exact (List.append_nil _).symm
  | cons diagnostic rest ih =>
      rw [List.foldl_cons, ih { round with reporter := round.reporter.report diagnostic },
        Reporter.diagnostics_report, List.append_assoc, List.singleton_append]

end Recording

section Examining

variable (settings : Settings) (registry : Registry) (candidate : Candidate)

/-- What is said about empty segments are warnings. -/
theorem severity_segmentWarnings (element : Element) (model : Model) :
    ∀ diagnostic ∈ segmentWarnings element model, diagnostic.severity = .warn := by
  unfold segmentWarnings
  split
  · exact List.forall_mem_singleton.mpr rfl
  · exact nofun

/-- What is said about return types are warnings. -/
theorem severity_returnWarnings (types : TypeNames) (element : Element) (method : Method) :
    ∀ diagnostic ∈ returnWarnings types element method, diagnostic.severity = .warn := by
  unfold returnWarnings
  dsimp only
  split
  · exact nofun
  · exact List.forall_mem_singleton.mpr rfl

/-- Errors about conflicts are found exactly if there is a conflict. -/
theorem isEmpty_conflictErrors_iff (element : Element) (model : Model) (operation : Operation) :
    (conflictErrors registry element model operation).isEmpty = true ↔
      registry.conflict? model operation = none := by
  unfold conflictErrors
  cases registry.conflict? model operation with
  | none => exact iff_of_true rfl rfl
  | some existing => exact iff_of_false nofun nofun

private theorem harmless_conflictErrors_iff (element : Element) (model : Model)
    (operation : Operation) :
    Harmless (conflictErrors registry element model operation) ↔
      (conflictErrors registry element model operation).isEmpty = true := by
  unfold conflictErrors
  cases registry.conflict? model operation with
  | none => exact iff_of_true nofun rfl
  | some existing =>
      refine iff_of_false ?_ nofun
      intro harmless
      exact nomatch harmless _ List.mem_cons_self

private theorem harmless_bindingFindings_iff (types : TypeNames) (element : Element) (model : Model)
    (parameters : List Parameter) :
    Harmless (bindingFindings types element model parameters).1 ↔
      (bindingFindings types element model parameters).2.isSome = true := by
  unfold bindingFindings
  cases result : bindParameters types model parameters with
  | ok bound =>
      refine iff_of_true ?_ rfl
      intro diagnostic member
      obtain ⟨warning, _, rfl⟩ := List.mem_map.mp member
      rfl
  | error faults =>
      refine iff_of_false ?_ nofun
      rw [harmless_map_ofFault_iff]
      exact bindParameters_error_ne_nil result

/-- What the examination of a handler finds once its model is built. -/
theorem examine_of_build {model : Model}
    (built : settings.buildModel candidate.provider.authority candidate.method.template =
      .ok model) :
    let element := elementOf candidate.provider candidate.method
    let conflict := conflictErrors registry element model candidate.method.operation
    let noticed := bindingFindings settings.types element model candidate.method.parameters
    examine settings registry candidate.provider candidate.method =
      { diagnostics :=
          segmentWarnings element model ++ conflict ++ noticed.1 ++
            returnWarnings settings.types element candidate.method
        finding := if conflict.isEmpty then noticed.2.map (model, ·) else none } := by
  unfold examine
  rw [built]

/-- The examination of a handler finds what would enter the registry. -/
theorem examine_finding :
    (examine settings registry candidate.provider candidate.method).finding =
      (candidate.entrant? settings registry).map fun entrant =>
        (entrant.model, entrant.bindings) := by
  -- An examination goes on behind a conflict, and an offer does not look at the registry; so the
  -- cases are those of the offer, and the conflict is what is left to compare.
  cases built : settings.buildModel candidate.provider.authority candidate.method.template with
  | error faults =>
      have nothing : candidate.offer? settings = none := by
        simp only [Candidate.offer?, built]
      rw [Candidate.entrant?, nothing]
      unfold examine
      rw [built]
      rfl
  | ok model =>
      rw [examine_of_build settings registry candidate built]
      dsimp only
      cases result : bindParameters settings.types model candidate.method.parameters with
      | error faults =>
          have nothing : candidate.offer? settings = none := by
            simp only [Candidate.offer?, built, result]
          have unbound (element : Element) : (bindingFindings settings.types element model
              candidate.method.parameters).2 = none := by
            simp only [bindingFindings, result]
          rw [Candidate.entrant?, nothing, unbound]
          exact ite_self none
      | ok bound =>
          have offered : candidate.offer? settings = some ⟨candidate, model, bound.bindings⟩ := by
            simp only [Candidate.offer?, built, result]
          have bindings (element : Element) : (bindingFindings settings.types element model
              candidate.method.parameters).2 = some bound.bindings := by
            simp only [bindingFindings, result]
          rw [Candidate.entrant?_of_offer? registry offered, bindings, Option.map_some]
          simp only [isEmpty_conflictErrors_iff, apply_ite (Option.map _), Option.map_some,
            Option.map_none]
          rfl

/-- **An examination finds a model exactly if it reports no error.** -/
theorem harmless_examine_iff :
    Harmless (examine settings registry candidate.provider candidate.method).diagnostics ↔
      (examine settings registry candidate.provider candidate.method).finding.isSome = true := by
  cases built : settings.buildModel candidate.provider.authority candidate.method.template with
  | error faults =>
      unfold examine
      rw [built]
      refine iff_of_false ?_ nofun
      rw [harmless_map_ofFault_iff]
      exact Model.build_error_ne_nil built
  | ok model =>
      rw [examine_of_build settings registry candidate built]
      have segments := harmless_of_warnings
        (severity_segmentWarnings (elementOf candidate.provider candidate.method) model)
      have returned := harmless_of_warnings (severity_returnWarnings settings.types
        (elementOf candidate.provider candidate.method) candidate.method)
      dsimp only
      rw [harmless_append, harmless_append, harmless_append, harmless_conflictErrors_iff,
        harmless_bindingFindings_iff]
      simp only [segments, returned, true_and, and_true]
      split
      · rename_i none
        rw [Option.isSome_map]
        exact and_iff_right none
      · rename_i conflict
        exact iff_of_false (fun both => conflict both.1) nofun

end Examining

section Processing

variable (settings : Settings) (round : Round) (candidate : Candidate)

/-- **What a round does with a handler.** All that the examination reports is recorded. An entrant
becomes a delegate and enters the bucket of its address; otherwise nothing else changes. -/
theorem processMethod_eq :
    let recorded := round.record
      (examine settings round.registry candidate.provider candidate.method).diagnostics
    round.processMethod settings candidate.provider candidate.ordinal candidate.method =
      match candidate.entrant? settings round.registry with
      | some entrant =>
          ({ recorded with
              registry :=
                (round.registry.withBucketFor entrant.model).insert
                  (round.registry.idFor entrant.model) (entrant.entry round.registry) },
            some (entrant.delegate round.registry))
      | none => (recorded, none) := by
  unfold processMethod
  dsimp only
  rw [examine_finding]
  cases found : candidate.entrant? settings round.registry with
  | none => rfl
  | some entrant =>
      obtain ⟨offered, free⟩ := Candidate.entrant?_eq_some_iff.mp found
      have own := Candidate.candidate_of_offer? offered
      have registered := round.registry.registerExact_eq entrant.model entrant.handler
      rw [free] at registered
      simp only [Option.map_some, enter, registry_record]
      have handler : handlerOf candidate.provider candidate.ordinal candidate.method =
          entrant.handler := by
        rw [Admission.handler, own]
        rfl
      rw [handler, registered]
      simp only [Admission.delegate, own]
      rfl

/-- Processing a method declares no class. -/
theorem declared_processMethod :
    (round.processMethod settings candidate.provider candidate.ordinal
      candidate.method).1.declared = round.declared := by
  rw [processMethod_eq]
  split <;> rfl

/-- Processing a method accepts no provider. -/
theorem accepted_processMethod :
    (round.processMethod settings candidate.provider candidate.ordinal
      candidate.method).1.accepted = round.accepted := by
  rw [processMethod_eq]
  split <;> rfl

/-- All that the examination of a handler reports is recorded, behind what was recorded before. -/
theorem diagnostics_processMethod :
    (round.processMethod settings candidate.provider candidate.ordinal
        candidate.method).1.reporter.diagnostics =
      round.reporter.diagnostics ++
        (examine settings round.registry candidate.provider candidate.method).diagnostics := by
  rw [processMethod_eq]
  split
  · exact diagnostics_record round _
  · exact diagnostics_record round _

/-- A method gets a delegate exactly if it enters the registry. -/
theorem isSome_processMethod :
    (round.processMethod settings candidate.provider candidate.ordinal candidate.method).2.isSome =
      (candidate.entrant? settings round.registry).isSome := by
  rw [processMethod_eq]
  cases candidate.entrant? settings round.registry <;> rfl

/-- **A handler becomes a delegate exactly if no error is recorded about it.** Whatever the round
has come to, what is recorded goes behind what was recorded before. -/
theorem processMethod_isSome_iff :
    let after := round.processMethod settings candidate.provider candidate.ordinal candidate.method
    ∃ recorded, after.1.reporter.diagnostics = round.reporter.diagnostics ++ recorded ∧
      (after.2.isSome = true ↔ ∀ diagnostic ∈ recorded, diagnostic.isError = false) := by
  have harmless := harmless_examine_iff settings round.registry candidate
  rw [examine_finding, Option.isSome_map] at harmless
  refine ⟨(examine settings round.registry candidate.provider candidate.method).diagnostics, ?_, ?_⟩
  · exact diagnostics_processMethod settings round candidate
  · rw [← Diagnostic.Harmless, harmless, isSome_processMethod]

end Processing

end Round

end ContentRouter
