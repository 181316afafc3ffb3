import ContentRouter.Proofs.Routing.Run
import ContentRouter.Proofs.Source.Rerouting

/-!
# Renumbered handlers

The place of a handler in its declaration tells it apart from the others of its class and serves
nothing else. A registry does not look at it: calls for renumbered handlers are answered alike and
lead to the renumbered registry (`Run.registry_ofCalls_renumber`). Nor does a source: the router of
renumbered handlers is rendered to the same text (`Source.render_renumber`).
-/

namespace ContentRouter

section Numbers

variable (number : Handler → Nat)

/-- The handler under another number. -/
def Handler.renumber (handler : Handler) : Handler := { handler with ordinal := number handler }

/-- The call for the renumbered handler. -/
def Call.renumber : Call → Call
  | .register model => .register model
  | .registerExact model owner => .registerExact model (owner.renumber number)

/-- The entry with its owner renumbered. -/
def Registration.renumber (entry : Registration) : Registration :=
  { entry with owner := entry.owner.renumber number }

/-- The bucket with the owners of its entries renumbered. -/
def Bucket.renumber (bucket : Bucket) : Bucket :=
  { bucket with entries := bucket.entries.map (·.renumber number) }

/-- The registry with all owners renumbered. -/
def Registry.renumber (registry : Registry) : Registry :=
  { registry with buckets := registry.buckets.map (·.renumber number) }

/-- The delegate with its handler renumbered. -/
def Delegate.renumber (delegate : Delegate) : Delegate :=
  { delegate with handler := delegate.handler.renumber number }

/-- The route with the handler of its delegate renumbered. -/
def Route.renumber (route : Route) : Route :=
  { route with delegate := route.delegate.renumber number }

/-- The group with the handlers of its routes renumbered. -/
def RouteGroup.renumber (group : RouteGroup) : RouteGroup :=
  { group with routes := group.routes.map (·.renumber number) }

/-- The router with all its handlers renumbered. -/
def Router.renumber (router : Router) : Router :=
  { router with groups := router.groups.map (·.renumber number) }

/-- The router model with renumbered handlers: all else is as it was. -/
def RouterModel.renumber (model : RouterModel) : RouterModel :=
  { model with routers := model.routers.map (·.renumber number) }

end Numbers

section Registering

variable (number : Handler → Nat)

namespace Bucket

private theorem place_renumber (entry : Registration) (entries : List Registration) :
    place (entry.renumber number) (entries.map (·.renumber number)) =
      (place entry entries).map (·.renumber number) := by
  induction entries with
  | nil => rfl
  | cons existing rest ih =>
      simp only [List.map_cons, place, Registration.renumber] at ih ⊢
      split
      · rfl
      · rw [ih]
        rfl

private theorem conflict?_renumber (bucket : Bucket) (model : Model) (operation : Operation) :
    (bucket.renumber number).conflict? model operation =
      (bucket.conflict? model operation).map (·.renumber number) := by
  rw [conflict?, renumber, List.find?_map]
  rfl

end Bucket

namespace Registry

variable (registry : Registry) (model : Model)

private theorem bucketFor?_renumber :
    (registry.renumber number).bucketFor? model =
      (registry.bucketFor? model).map (·.renumber number) := by
  rw [bucketFor?, renumber, List.find?_map]
  rfl

/-- Ids do not depend on the numbers of handlers. -/
@[simp]
theorem idFor_renumber : (registry.renumber number).idFor model = registry.idFor model := by
  rw [idFor, idFor, bucketFor?_renumber]
  cases registry.bucketFor? model <;> rfl

private theorem withBucketFor_renumber :
    (registry.renumber number).withBucketFor model =
      (registry.withBucketFor model).renumber number := by
  rw [withBucketFor, withBucketFor, bucketFor?_renumber]
  cases registry.bucketFor? model with
  | some bucket => rfl
  | none =>
      simp only [Option.map_none, renumber, List.map_append, List.map_singleton]
      rfl

private theorem conflict?_renumber (operation : Operation) :
    (registry.renumber number).conflict? model operation =
      (registry.conflict? model operation).map (·.renumber number) := by
  rw [conflict?, conflict?, bucketFor?_renumber]
  cases registry.bucketFor? model with
  | none => rfl
  | some bucket => exact bucket.conflict?_renumber number model operation

private theorem insert_renumber (id : MatcherId) (entry : Registration) :
    (registry.renumber number).insert id (entry.renumber number) =
      (registry.insert id entry).renumber number := by
  simp only [insert, renumber, List.map_map, Registry.mk.injEq, true_and]
  apply List.map_congr_left
  intro bucket _
  simp only [Function.comp_apply, Bucket.renumber]
  split
  · simp only [Bucket.insert, Bucket.place_renumber]
  · rfl

/-- A conflict is reported by class and method, so the number of its owner is not seen. -/
theorem registerExact_renumber (owner : Handler) :
    (registry.renumber number).registerExact model (owner.renumber number) =
      ((registry.registerExact model owner).1,
        (registry.registerExact model owner).2.renumber number) := by
  rw [registerExact_eq, registerExact_eq, conflict?_renumber, Handler.renumber]
  cases registry.conflict? model owner.operation with
  | some existing => rfl
  | none =>
      simp only [Option.map_none, idFor_renumber, withBucketFor_renumber]
      exact congrArg (Prod.mk _) (insert_renumber number _ _ ⟨_, owner⟩)

/-- A call for a renumbered handler is answered as the call was. -/
theorem perform_renumber (call : Call) :
    (registry.renumber number).perform (call.renumber number) =
      ((registry.perform call).1, (registry.perform call).2.renumber number) := by
  cases call with
  | register model =>
      simp only [Call.renumber, perform, register, idFor_renumber, withBucketFor_renumber]
  | registerExact model owner => exact registerExact_renumber number registry model owner

end Registry

/-- **Calls for renumbered handlers** lead to the renumbered registry. -/
theorem Run.registry_ofCalls_renumber (calls : List Call) :
    (ofCalls (calls.map (·.renumber number))).registry =
      (ofCalls calls).registry.renumber number := by
  induction calls using List.reverseRecOn with
  | nil => rfl
  | append_singleton calls call ih =>
      rw [List.map_append, List.map_singleton, ofCalls_append_singleton, ofCalls_append_singleton,
        take, take, ih, Registry.perform_renumber]

end Registering

/-- **The source does not depend on the numbers of the handlers.** -/
theorem Source.render_renumber (number : Handler → Nat) (types : TypeNames) (router : Router) :
    render types (router.renumber number) = render types router := by
  have routes : router.renumber number = router.mapRoutes (·.renumber number) := rfl
  have served (route : Route) : (route.renumber number).operation = route.operation := rfl
  have called (route : Route) : callOf types (route.renumber number) = callOf types route := rfl
  rw [routes, render_mapRoutes served called]

end ContentRouter
