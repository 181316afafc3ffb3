import Mathlib.Data.List.Basic
import ContentRouter.Source.Rendering

/-!
# Sources and what they say about routes

A source says of a route how its delegate is called and for which operation. So routes may be
replaced by others that are called alike, and the router is rendered to the same text
(`Source.render_mapRoutes`).
-/

namespace ContentRouter

/-- The group with other routes. -/
def RouteGroup.mapRoutes (f : Route → Route) (group : RouteGroup) : RouteGroup :=
  { group with routes := group.routes.map f }

/-- The router with other routes. -/
def Router.mapRoutes (f : Route → Route) (router : Router) : Router :=
  { router with groups := router.groups.map (·.mapRoutes f) }

variable {f : Route → Route} (served : ∀ route, (f route).operation = route.operation)

private theorem Router.routes_mapRoutes (router : Router) :
    (router.mapRoutes f).routes = router.routes.map f := by
  rw [routes, routes, mapRoutes, List.flatMap_map, List.map_flatMap]
  rfl

include served

private theorem Router.operations_mapRoutes (router : Router) :
    (router.mapRoutes f).operations = router.operations := by
  rw [operations, operations, routes_mapRoutes]
  apply List.filter_congr
  intro operation _
  rw [List.any_map]
  simp only [Function.comp_def, served]

namespace Source

variable {types : TypeNames} (called : ∀ route, callOf types (f route) = callOf types route)
include called

private theorem caseOf?_mapRoutes (operation : Operation) (group : RouteGroup) :
    caseOf? types operation (group.mapRoutes f) = caseOf? types operation group := by
  have routes : ((group.mapRoutes f).routes.filter (·.operation = operation)).map (callOf types) =
      (group.routes.filter (·.operation = operation)).map (callOf types) := by
    rw [RouteGroup.mapRoutes, List.filter_map, List.map_map]
    simp only [Function.comp_def, served, called]
  rw [caseOf?, caseOf?, routes]
  rfl

private theorem entryPointOf_mapRoutes (router : Router) (operation : Operation) :
    entryPointOf types (router.mapRoutes f) operation = entryPointOf types router operation := by
  rw [entryPointOf, entryPointOf, Router.mapRoutes, List.filterMap_map]
  congr 1
  apply List.filterMap_congr
  intro group _
  exact caseOf?_mapRoutes served called operation group

private theorem ofRouter_mapRoutes (router : Router) :
    ofRouter types (router.mapRoutes f) = ofRouter types router := by
  have matchers : (router.mapRoutes f).groups.map matcherEntry =
      router.groups.map matcherEntry := by
    rw [Router.mapRoutes, List.map_map]
    rfl
  have entryPoints : entryPointOf types (router.mapRoutes f) = entryPointOf types router :=
    funext (entryPointOf_mapRoutes served called router)
  rw [ofRouter, ofRouter, matchers, entryPoints, router.operations_mapRoutes served]
  rfl

/-- **The source depends on the routes by their calls and operations only.** -/
theorem render_mapRoutes (router : Router) :
    render types (router.mapRoutes f) = render types router := by
  rw [render, render, ofRouter_mapRoutes served called]

end Source

end ContentRouter
