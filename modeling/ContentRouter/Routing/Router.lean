import ContentRouter.Binding.Basic
import ContentRouter.Routing.Registry

/-!
# Router models

A router model is what a round hands on: one router per provider class with an accepted handler.
A router groups its routes as the registry does, by matcher id, and keeps the order of the registry
within each group.
-/

namespace ContentRouter

/-- A handler that was accepted, with everything that a call to it needs. -/
structure Delegate where
  handler : Handler
  returnType : String
  /-- The template as it was declared. -/
  template : String
  matcherId : MatcherId
  bindings : List Binding
  deriving DecidableEq, Repr

/-- A template and the delegate that serves it. -/
structure Route where
  model : Model
  delegate : Delegate
  deriving DecidableEq, Repr

/-- The operation that a route serves. -/
def Route.operation (route : Route) : Operation := route.delegate.handler.operation

/-- The routes of one provider that share a matcher id. -/
structure RouteGroup where
  matcherId : MatcherId
  normalizedPath : String
  routes : List Route
  deriving DecidableEq, Repr

/-- The router of one provider class. -/
structure Router where
  /-- The provider class with its package. -/
  qualifiedName : String
  /-- The provider class without its package. -/
  simpleName : String
  package : String
  /-- The class name of the router itself. -/
  routerClass : String
  authority : String
  groups : List RouteGroup
  deriving DecidableEq, Repr

namespace Router

/-- The router's class with its package. -/
def qualifiedRouterName (router : Router) : String :=
  if router.package.isEmpty then router.routerClass
  else router.package ++ "." ++ router.routerClass

/-- Every route, group by group. -/
def routes (router : Router) : List Route :=
  router.groups.flatMap (·.routes)

/-- The operations that have a route, each once, in the order of the entry points. -/
def operations (router : Router) : List Operation :=
  Operation.all.filter fun operation => router.routes.any (·.operation = operation)

/-- The number of routes. -/
def routeCount (router : Router) : Nat := router.routes.length

end Router

/-- The routers of a run, in the order of the provider declarations. -/
structure RouterModel where
  routers : List Router := []
  deriving DecidableEq, Repr

namespace RouterModel

/-- The router of a provider class. -/
def router? (model : RouterModel) (qualifiedName : String) : Option Router :=
  model.routers.find? (·.qualifiedName == qualifiedName)

/-- Whether there is nothing to generate. -/
def isEmpty (model : RouterModel) : Bool := model.routers.isEmpty

end RouterModel

end ContentRouter
