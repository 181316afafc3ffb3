import ContentRouter.Diagnostic
import ContentRouter.Routing.Registry
import ContentRouter.Routing.Router
import ContentRouter.Template.Model

/-!
# Rounds

A round takes in provider declarations one after the other. A provider is passed over if its class
was declared before, if its authority cannot stand in a URI, or if it has no handlers. Every handler
is examined for all its faults at once:

1. its template has to form a model under the authority,
2. no handler accepted before may serve the same requests for the same operation,
3. its parameters have to be bound.

A handler without faults enters the registry and becomes a delegate. All that is noticed is
recorded, and the round always goes on with the next handler. At the end `Round.finish` puts the
delegates and the registry together into a router model.
-/

namespace ContentRouter

/-- A provider class with at least one accepted handler. -/
structure AcceptedProvider where
  provider : Provider
  delegates : List Delegate
  deriving DecidableEq, Repr

/-- What a round has taken in so far. -/
structure Round where
  registry : Registry := {}
  reporter : Reporter := {}
  /-- The classes that were declared. -/
  declared : List String := []
  accepted : List AcceptedProvider := []
  deriving DecidableEq, Repr

/-- What examining a handler brings to light. -/
structure Examination where
  diagnostics : List Diagnostic
  /-- The model and the bindings of a handler that has no faults. -/
  finding : Option (Model × List Binding)
  deriving DecidableEq, Repr

namespace Round

/-- The element of a handler. -/
def elementOf (provider : Provider) (method : Method) : Element :=
  .method provider.className method.name

/-- The warning about a path that has an empty segment. -/
def segmentWarnings (element : Element) (model : Model) : List Diagnostic :=
  if model.hasEmptySegment then
    [.warning element "EmptySegment"
      s!"template '{model.text}' has an empty path segment; URI matching ignores it"]
  else []

/-- The warning about a return type that is stated and not the one of the operation. -/
def returnWarnings (types : TypeNames) (element : Element) (method : Method) : List Diagnostic :=
  let expected := types.returnType method.operation
  if method.returnType.isEmpty || method.returnType = expected then []
  else
    [.warning element "ReturnType"
      s!"{method.operation.name} handler returns '{method.returnType}', expected '{expected}'"]

/-- The error about requests that another handler already serves. -/
def conflictErrors (registry : Registry) (element : Element) (model : Model)
    (operation : Operation) : List Diagnostic :=
  match registry.conflict? model operation with
  | some existing => [.ofFault element (Registry.duplicatePath model existing)]
  | none => []

/-- What binding the parameters of a handler brings to light, and the bindings. -/
def bindingFindings (types : TypeNames) (element : Element) (model : Model)
    (parameters : List Parameter) : List Diagnostic × Option (List Binding) :=
  match bindParameters types model parameters with
  | .ok bound =>
      (bound.warnings.map fun warning => .warning element "PlaceholderBinding" warning.message,
        some bound.bindings)
  | .error faults => (faults.map (.ofFault element), none)

/-- **Examines a handler.** A template that forms no model ends the examination; all other faults
and warnings are found together. -/
def examine (settings : Settings) (registry : Registry) (provider : Provider) (method : Method) :
    Examination :=
  let element := elementOf provider method
  match settings.buildModel provider.authority method.template with
  | .error faults => { diagnostics := faults.map (.ofFault element), finding := none }
  | .ok model =>
      let conflict := conflictErrors registry element model method.operation
      let (noticed, bindings) := bindingFindings settings.types element model method.parameters
      { diagnostics :=
          segmentWarnings element model ++ conflict ++ noticed ++
            returnWarnings settings.types element method
        finding := if conflict.isEmpty then bindings.map (model, ·) else none }

/-- Records diagnostics in their order. -/
def record (round : Round) (diagnostics : List Diagnostic) : Round :=
  { round with reporter := diagnostics.foldl Reporter.report round.reporter }

/-- The handler of a method, which is the one with the given ordinal in its declaration. -/
def handlerOf (provider : Provider) (ordinal : Nat) (method : Method) : Handler where
  className := provider.className
  method := method.name
  ordinal := ordinal
  operation := method.operation

/-- Enters a handler without faults in the registry. -/
def enter (round : Round) (provider : Provider) (ordinal : Nat) (method : Method) (model : Model)
    (bindings : List Binding) : Round × Option Delegate :=
  let handler := handlerOf provider ordinal method
  match round.registry.registerExact model handler with
  | (.ok matcherId, registry) =>
      ({ round with registry },
        some { handler, returnType := method.returnType, template := method.template, matcherId,
               bindings })
  | (.error fault, registry) =>
      ({ round with
          registry
          reporter := round.reporter.fault (elementOf provider method) fault }, none)

/-- Takes in a handler: it becomes a delegate if it has no faults. -/
def processMethod (settings : Settings) (round : Round) (provider : Provider) (ordinal : Nat)
    (method : Method) : Round × Option Delegate :=
  let examination := examine settings round.registry provider method
  let round := round.record examination.diagnostics
  match examination.finding with
  | some (model, bindings) => round.enter provider ordinal method model bindings
  | none => (round, none)

/-- Takes in handlers, of which the first has the given ordinal. -/
def processMethods (settings : Settings) (provider : Provider) :
    Round → Nat → List Method → Round × List Delegate
  | round, _, [] => (round, [])
  | round, ordinal, method :: rest =>
      let (round, delegate) := round.processMethod settings provider ordinal method
      let (round, delegates) := processMethods settings provider round (ordinal + 1) rest
      (round, delegate.toList ++ delegates)

/-- The fault of a class that was declared before. -/
def repeatedClass (provider : Provider) : Fault :=
  .illegalTemplate provider.className .repeatedClass

/-- The fault that keeps a whole provider out of the round, if it has one. -/
def providerFault? (settings : Settings) (round : Round) (provider : Provider) : Option Fault :=
  if round.declared.contains provider.className then some (repeatedClass provider)
  else
    match Authority.check settings.output.uriScheme provider.authority with
    | .ok () => none
    | .error fault => some fault

/-- Notes that a class was declared. -/
def declare (round : Round) (provider : Provider) : Round :=
  { round with declared := round.declared ++ [provider.className] }

/-- **Takes in a provider declaration.** -/
def processProvider (settings : Settings) (round : Round) (provider : Provider) : Round :=
  let element := Element.provider provider.className
  match round.providerFault? settings provider with
  | some fault => (round.declare provider).record [.ofFault element fault]
  | none =>
      let round := round.declare provider
      if provider.methods.isEmpty then
        round.record
          [.warning element "NoHandlers"
            s!"provider '{provider.className}' declares no handler methods"]
      else
        let (round, delegates) := processMethods settings provider round 0 provider.methods
        if delegates.isEmpty then round
        else { round with accepted := round.accepted ++ [{ provider, delegates }] }

/-- The routes that lead from a bucket to the delegates of a provider. -/
def routesOf (accepted : AcceptedProvider) (bucket : Bucket) : List Route :=
  (bucket.entries.filter (·.owner.className == accepted.provider.className)).filterMap fun entry =>
    (accepted.delegates.find? (·.handler.ordinal == entry.owner.ordinal)).map fun delegate =>
      { model := entry.model, delegate }

/-- The groups of a provider's routes, in the order of the registry. -/
def groupsOf (accepted : AcceptedProvider) (registry : Registry) : List RouteGroup :=
  registry.buckets.filterMap fun bucket =>
    let routes := routesOf accepted bucket
    if routes.isEmpty then none
    else some { matcherId := bucket.id, normalizedPath := bucket.normalizedPath, routes }

/-- The router of an accepted provider. -/
def routerOf (settings : Settings) (registry : Registry) (accepted : AcceptedProvider) :
    Router where
  qualifiedName := accepted.provider.className
  simpleName := accepted.provider.simpleName
  package := accepted.provider.package
  routerClass := accepted.provider.simpleName ++ settings.output.routerSuffix
  authority := accepted.provider.authority
  groups := groupsOf accepted registry

/-- The router model of everything that was accepted. -/
def finish (settings : Settings) (round : Round) : RouterModel where
  routers := round.accepted.map (routerOf settings round.registry)

/-- The round over all providers of a manifest. -/
def ofManifest (settings : Settings) (manifest : Manifest) : Round :=
  manifest.providers.foldl (processProvider settings) {}

end Round

/-- **Runs a round over a manifest**: its diagnostics and the router model. -/
def processManifest (settings : Settings) (manifest : Manifest) : Round × RouterModel :=
  let round := Round.ofManifest settings manifest
  (round, round.finish settings)

end ContentRouter
