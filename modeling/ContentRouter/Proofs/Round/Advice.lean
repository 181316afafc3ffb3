import ContentRouter.Proofs.Binding.Advice
import ContentRouter.Proofs.Round.Account
import ContentRouter.Proofs.Source.Rerouting

/-!
# Rounds without advice

Taking advice away from a manifest takes from its round the return types of the delegates and the
warnings about them, and nothing else (`processManifest_withoutAdvice`). Step by step a round only
looks at advice to record such a warning: an examination finds what it found, so that the registry
takes in the same handlers.

What was taken away is not seen in any source (`Source.render_withoutAdvice`), and no error is among
it (`Round.isError_of_isAdvice`).
-/

namespace ContentRouter

/-- Whether a diagnostic is about a return type. -/
def Diagnostic.isAdvice (diagnostic : Diagnostic) : Bool := diagnostic.kind == "ReturnType"

private theorem Diagnostic.isAdvice_ofFault (element : Element) (fault : Fault) :
    (ofFault element fault).isAdvice = false := by
  cases fault <;> rfl

/-- The diagnostics that are not about return types. -/
def Reporter.withoutAdvice (reporter : Reporter) : Reporter where
  diagnostics := reporter.diagnostics.filter (!·.isAdvice)

/-- The delegate without its return type. -/
def Delegate.withoutAdvice (delegate : Delegate) : Delegate := { delegate with returnType := "" }

/-- The accepted provider without advice, in its declaration and its delegates. -/
def AcceptedProvider.withoutAdvice (accepted : AcceptedProvider) : AcceptedProvider where
  provider := accepted.provider.withoutAdvice
  delegates := accepted.delegates.map (·.withoutAdvice)

/-- The round as it is without advice in its declarations. -/
def Round.withoutAdvice (round : Round) : Round :=
  { round with
    reporter := round.reporter.withoutAdvice
    accepted := round.accepted.map (·.withoutAdvice) }

/-- The route with its delegate without return type. -/
def Route.withoutAdvice (route : Route) : Route :=
  { route with delegate := route.delegate.withoutAdvice }

/-- The router with delegates without return types. -/
def Router.withoutAdvice (router : Router) : Router := router.mapRoutes (·.withoutAdvice)

/-- The router model without the return types of the delegates. -/
def RouterModel.withoutAdvice (model : RouterModel) : RouterModel where
  routers := model.routers.map (·.withoutAdvice)

namespace Round

section Examining

variable (settings : Settings) (registry : Registry) (provider : Provider) (method : Method)

private theorem filter_isAdvice_segmentWarnings (element : Element) (model : Model) :
    (segmentWarnings element model).filter (!·.isAdvice) = segmentWarnings element model := by
  unfold segmentWarnings
  split <;> rfl

private theorem filter_isAdvice_conflictErrors (element : Element) (model : Model)
    (operation : Operation) :
    (conflictErrors registry element model operation).filter (!·.isAdvice) =
      conflictErrors registry element model operation := by
  unfold conflictErrors
  split <;> rfl

private theorem filter_isAdvice_faults (element : Element) (faults : List Fault) :
    (faults.map (Diagnostic.ofFault element)).filter (!·.isAdvice) =
      faults.map (Diagnostic.ofFault element) := by
  rw [List.filter_eq_self, List.forall_mem_map]
  intro fault _
  rw [Diagnostic.isAdvice_ofFault]
  rfl

private theorem filter_isAdvice_ofFault (element : Element) (fault : Fault) :
    [Diagnostic.ofFault element fault].filter (!·.isAdvice) = [Diagnostic.ofFault element fault] :=
  filter_isAdvice_faults element [fault]

private theorem filter_isAdvice_bindingFindings (types : TypeNames) (element : Element)
    (model : Model)
    (parameters : List Parameter) :
    (bindingFindings types element model parameters).1.filter (!·.isAdvice) =
      (bindingFindings types element model parameters).1 := by
  unfold bindingFindings
  split
  · rw [List.filter_eq_self, List.forall_mem_map]
    exact fun _ _ => rfl
  · exact filter_isAdvice_faults element _

private theorem filter_isAdvice_returnWarnings (types : TypeNames) (element : Element) :
    (returnWarnings types element method).filter (!·.isAdvice) = [] := by
  unfold returnWarnings
  dsimp only
  split <;> rfl

/-- **An examination without advice** finds the same and does not warn about the return type. -/
theorem examine_withoutAdvice :
    examine settings registry provider.withoutAdvice method.withoutAdvice =
      { diagnostics :=
          (examine settings registry provider method).diagnostics.filter (!·.isAdvice)
        finding := (examine settings registry provider method).finding } := by
  unfold examine
  dsimp only [Provider.withoutAdvice, Method.withoutAdvice]
  cases settings.buildModel provider.authority method.template with
  | error faults =>
      dsimp only
      rw [filter_isAdvice_faults]
      rfl
  | ok model =>
      dsimp only
      rw [List.filter_append, List.filter_append, List.filter_append,
        filter_isAdvice_segmentWarnings, filter_isAdvice_conflictErrors,
        filter_isAdvice_bindingFindings, filter_isAdvice_returnWarnings, bindingFindings,
        bindParameters_withoutAdvice]
      rfl

end Examining

section Steps

variable (settings : Settings) (round : Round) (provider : Provider)

private theorem record_eq (diagnostics : List Diagnostic) :
    round.record diagnostics =
      { round with reporter := { diagnostics := round.reporter.diagnostics ++ diagnostics } } := by
  rw [← diagnostics_record]
  rfl

private theorem record_withoutAdvice (diagnostics : List Diagnostic) :
    (round.record diagnostics).withoutAdvice =
      round.withoutAdvice.record (diagnostics.filter (!·.isAdvice)) := by
  simp only [record_eq, withoutAdvice, Reporter.withoutAdvice, List.filter_append]

private theorem report_ofFault_withoutAdvice (reporter : Reporter) (element : Element)
    (fault : Fault) :
    (reporter.fault element fault).withoutAdvice =
      reporter.withoutAdvice.fault element fault := by
  simp only [Reporter.withoutAdvice, Reporter.fault, Reporter.report, List.filter_append,
    filter_isAdvice_ofFault]

private theorem enter_withoutAdvice (ordinal : Nat) (method : Method) (model : Model)
    (bindings : List Binding) :
    round.withoutAdvice.enter provider.withoutAdvice ordinal method.withoutAdvice model bindings =
      ((round.enter provider ordinal method model bindings).1.withoutAdvice,
        (round.enter provider ordinal method model bindings).2.map (·.withoutAdvice)) := by
  have handler : handlerOf provider.withoutAdvice ordinal method.withoutAdvice =
      handlerOf provider ordinal method := rfl
  unfold enter
  rw [handler]
  dsimp only [withoutAdvice]
  rcases round.registry.registerExact model (handlerOf provider ordinal method) with
    ⟨fault | matcherId, registry⟩
  · dsimp only
    rw [report_ofFault_withoutAdvice]
    rfl
  · rfl

/-- **One handler.** -/
theorem processMethod_withoutAdvice (ordinal : Nat) (method : Method) :
    round.withoutAdvice.processMethod settings provider.withoutAdvice ordinal
        method.withoutAdvice =
      ((round.processMethod settings provider ordinal method).1.withoutAdvice,
        (round.processMethod settings provider ordinal method).2.map (·.withoutAdvice)) := by
  have registry : round.withoutAdvice.registry = round.registry := rfl
  unfold processMethod
  rw [registry, examine_withoutAdvice]
  dsimp only
  rw [← record_withoutAdvice]
  cases (examine settings round.registry provider method).finding with
  | none => rfl
  | some found => exact enter_withoutAdvice _ provider ordinal method found.1 found.2

/-- **The handlers of a declaration.** -/
theorem processMethods_withoutAdvice (ordinal : Nat) (methods : List Method) :
    processMethods settings provider.withoutAdvice round.withoutAdvice ordinal
        (methods.map (·.withoutAdvice)) =
      ((processMethods settings provider round ordinal methods).1.withoutAdvice,
        (processMethods settings provider round ordinal methods).2.map (·.withoutAdvice)) := by
  induction methods generalizing round ordinal with
  | nil => rfl
  | cons method rest ih =>
      rw [List.map_cons, processMethods, processMethods, processMethod_withoutAdvice]
      dsimp only
      rw [ih, List.map_append]
      cases (round.processMethod settings provider ordinal method).2 <;> rfl

private theorem providerFault?_withoutAdvice :
    round.withoutAdvice.providerFault? settings provider.withoutAdvice =
      round.providerFault? settings provider := rfl

/-- **One declaration.** -/
theorem processProvider_withoutAdvice :
    round.withoutAdvice.processProvider settings provider.withoutAdvice =
      (round.processProvider settings provider).withoutAdvice := by
  have declared : round.withoutAdvice.declare provider.withoutAdvice =
      (round.declare provider).withoutAdvice := rfl
  have methods : provider.withoutAdvice.methods = provider.methods.map (·.withoutAdvice) := rfl
  unfold processProvider
  rw [providerFault?_withoutAdvice, declared, methods, List.isEmpty_map]
  cases round.providerFault? settings provider with
  | some fault =>
      dsimp only
      rw [record_withoutAdvice, filter_isAdvice_ofFault]
      rfl
  | none =>
      dsimp only
      rw [processMethods_withoutAdvice, List.isEmpty_map]
      split
      · rw [record_withoutAdvice]
        rfl
      · split
        · rfl
        · simp only [withoutAdvice, List.map_append, List.map_singleton]
          rfl

end Steps

/-- **The round over a manifest without advice** is the round without it. -/
theorem ofManifest_withoutAdvice (settings : Settings) (manifest : Manifest) :
    ofManifest settings manifest.withoutAdvice =
      (ofManifest settings manifest).withoutAdvice := by
  obtain ⟨providers⟩ := manifest
  induction providers using List.reverseRecOn with
  | nil => rfl
  | append_singleton providers last ih =>
      rw [ofManifest_append_singleton, ← processProvider_withoutAdvice, ← ih,
        Manifest.withoutAdvice, List.map_append, List.map_singleton, ofManifest_append_singleton]
      rfl

section Routers

variable (settings : Settings) (registry : Registry) (accepted : AcceptedProvider)

private theorem routesOf_withoutAdvice (bucket : Bucket) :
    routesOf accepted.withoutAdvice bucket = (routesOf accepted bucket).map (·.withoutAdvice) := by
  have delegates (ordinal : Nat) :
      accepted.withoutAdvice.delegates.find? (·.handler.ordinal == ordinal) =
        (accepted.delegates.find? (·.handler.ordinal == ordinal)).map (·.withoutAdvice) := by
    rw [AcceptedProvider.withoutAdvice, List.find?_map]
    rfl
  rw [routesOf, routesOf, List.map_filterMap]
  simp only [delegates, Option.map_map]
  rfl

private theorem groupsOf_withoutAdvice :
    groupsOf accepted.withoutAdvice registry =
      (groupsOf accepted registry).map (·.mapRoutes (·.withoutAdvice)) := by
  rw [groupsOf, groupsOf, List.map_filterMap]
  apply List.filterMap_congr
  intro bucket _
  dsimp only
  rw [routesOf_withoutAdvice, List.isEmpty_map, apply_ite (Option.map _)]
  rfl

private theorem routerOf_withoutAdvice :
    routerOf settings registry accepted.withoutAdvice =
      (routerOf settings registry accepted).withoutAdvice := by
  rw [routerOf, groupsOf_withoutAdvice]
  rfl

private theorem finish_withoutAdvice (round : Round) :
    round.withoutAdvice.finish settings = (round.finish settings).withoutAdvice := by
  simp only [finish, RouterModel.withoutAdvice, withoutAdvice, List.map_map]
  congr 1
  apply List.map_congr_left
  intro accepted _
  exact routerOf_withoutAdvice settings round.registry accepted

end Routers

/-- Only warnings are about return types. -/
theorem isError_of_isAdvice (settings : Settings) (manifest : Manifest) :
    ∀ diagnostic ∈ (ofManifest settings manifest).reporter.diagnostics,
      diagnostic.isAdvice = true → diagnostic.isError = false := by
  obtain ⟨providers⟩ := manifest
  induction providers using List.reverseRecOn with
  | nil => exact nofun
  | append_singleton providers last ih =>
      rw [ofManifest_append_singleton, diagnostics_processProvider, List.forall_mem_append]
      refine ⟨ih, ?_⟩
      apply forall_mem_recordedOf
      · intro element fault _ advice
        rw [Diagnostic.isAdvice_ofFault] at advice
        cases advice
      · exact fun _ _ _ _ _ => rfl

end Round

/-- **A manifest without advice** leads to the round and the router model without it. -/
theorem processManifest_withoutAdvice (settings : Settings) (manifest : Manifest) :
    processManifest settings manifest.withoutAdvice =
      ((processManifest settings manifest).1.withoutAdvice,
        (processManifest settings manifest).2.withoutAdvice) := by
  simp only [processManifest, Round.ofManifest_withoutAdvice, Round.finish_withoutAdvice]

/-- **No return type is seen in a source.** -/
theorem Source.render_withoutAdvice (types : TypeNames) (router : Router) :
    render types router.withoutAdvice = render types router := by
  have served (route : Route) : route.withoutAdvice.operation = route.operation := rfl
  have called (route : Route) : callOf types route.withoutAdvice = callOf types route := rfl
  rw [Router.withoutAdvice, render_mapRoutes served called]

end ContentRouter
