import ContentRouter.File.Path
import ContentRouter.Routing.Router
import ContentRouter.Source.Call
import ContentRouter.Source.Router
import ContentRouter.Source.Text

/-!
# Rendering routers

The source that a router has: a matcher entry for every group of routes, and for every operation an
entry point with a case for every group that serves it. Within a case the routes keep the order of
their group, and only a last route without conditions makes leaving the switch superfluous.

The source lies below the output directory, in one directory for every part of the router's package,
in a file named for its class.
-/

namespace ContentRouter

namespace Source

/-- The constant of a matcher id. -/
def matcherConstant (id : MatcherId) : String := "MATCHER_" ++ toString id

/-- A normalized path as the framework registers paths: without empty segments and without a leading
slash. -/
def matcherPath (normalizedPath : String) : String :=
  Text.joinWith "/" ((Text.pieces '/' normalizedPath).filter (!·.isEmpty))

/-- The matcher entry of a group. -/
def matcherEntry (group : RouteGroup) : MatcherEntry where
  constant := matcherConstant group.matcherId
  id := group.matcherId
  path := literal (matcherPath group.normalizedPath)
  comment := comment group.normalizedPath

/-- The call of a route's delegate. -/
def callOf (types : TypeNames) (route : Route) : GuardedCall Guard where
  guard := Guard.ofPairs route.model.query
  call :=
    call route.delegate.handler.method
      (route.delegate.bindings.map (argument types route.operation route.model.template.segments))
  comment := comment route.model.text

/-- The case of a group in the entry point of an operation, if the group serves the operation. -/
def caseOf? (types : TypeNames) (operation : Operation) (group : RouteGroup) :
    Option (SwitchCase Guard) :=
  let routes := (group.routes.filter (·.operation = operation)).map (callOf types)
  routes.getLast?.map fun last =>
    { constant := matcherConstant group.matcherId, needsBreak := !last.guard.isEmpty, routes }

/-- The entry point of an operation. -/
def entryPointOf (types : TypeNames) (router : Router) (operation : Operation) :
    EntryPoint Guard where
  signature := signature types operation
  cases := router.groups.filterMap (caseOf? types operation)

/-- The source of a router in parts. -/
def ofRouter (types : TypeNames) (router : Router) : RouterSource Guard where
  package := router.package
  routerClass := router.routerClass
  providerClass := router.simpleName
  authority := literal router.authority
  uriType := types.uri
  matchers := router.groups.map matcherEntry
  entryPoints := router.operations.map (entryPointOf types router)

/-- **The source of a router.** -/
def render (types : TypeNames) (router : Router) : String :=
  ((ofRouter types router).map Guard.text).text

end Source

namespace Router

/-- The parts of a router's package that have text. -/
def packageParts (router : Router) : List String :=
  (Text.pieces '.' router.package).filter (!·.isEmpty)

/-- The name of the file of a router's source. -/
def fileName (router : Router) : String := router.routerClass ++ ".java"

/-- **The path of a router's source** below an output directory. -/
def sourcePath (output : Path) (router : Router) : Path :=
  (router.packageParts ++ [router.fileName]).foldl (fun path part => path.push ⟨part⟩) output

end Router

end ContentRouter
