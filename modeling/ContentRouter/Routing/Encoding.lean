import ContentRouter.Json.Basic
import ContentRouter.Routing.Router

/-!
# Router models as JSON

The form in which a router model leaves the program. A field without a value is left out, and a
value of one of several shapes says first which shape it has.
-/

namespace ContentRouter

open Json (object array)

/-- An entry whose value is a text. -/
def Json.textEntry (key value : String) : String × Json := (key, .text value)

/-- An entry that is left out if it has no value. -/
def Json.optionalEntry (key : String) (value : Option Json) : List (String × Json) :=
  (value.map (key, ·)).toList

/-- A segment as JSON. -/
def Segment.toJson : Segment → Json
  | .literal text => object [Json.textEntry "type" "literal", Json.textEntry "value" text]
  | .placeholder name => object [Json.textEntry "type" "placeholder", Json.textEntry "value" name]

/-- A query pair as JSON. A placeholder stands for any value, and its name comes behind. -/
def QueryPair.toJson (pair : QueryPair) : Json :=
  match pair.value with
  | .literal text =>
      object [Json.textEntry "key" pair.key,
        ("value", object [Json.textEntry "type" "literal", Json.textEntry "value" text])]
  | .placeholder name =>
      object [Json.textEntry "key" pair.key, ("value", object [Json.textEntry "type" "wildcard"]),
        Json.textEntry "placeholder" name]

/-- A placeholder as JSON. -/
def Placeholder.toJson (placeholder : Placeholder) : Json :=
  object [Json.textEntry "name" placeholder.name,
    Json.textEntry "kind" placeholder.slot.kind.name, Json.textEntry "key" placeholder.slot.key]

/-- A model as JSON. -/
def Model.toJson (model : Model) : Json :=
  object ([
    Json.textEntry "template" model.text,
    Json.textEntry "authority" model.authority,
    Json.textEntry "normalized_path" model.normalizedPath,
    ("segments", array (model.template.segments.map Segment.toJson)),
    ("query", array (model.query.map QueryPair.toJson)),
    ("placeholders", array (model.template.placeholders.map Placeholder.toJson))] ++
    Json.optionalEntry "matcher_id" (model.matcherId.map .number))

/-- A binding as JSON. -/
def Binding.toJson (binding : Binding) : Json :=
  let placeholder := binding.supply.placeholder?
  object ([
    Json.textEntry "parameter" binding.parameter,
    Json.textEntry "declared_type" binding.typeName,
    Json.textEntry "kind" binding.supply.name] ++
    Json.optionalEntry "placeholder" (placeholder.map (.text ·.name)) ++
    Json.optionalEntry "key" (placeholder.map (.text ·.slot.key)))

/-- A delegate as JSON. -/
def Delegate.toJson (delegate : Delegate) : Json :=
  object [
    Json.textEntry "class" delegate.handler.className,
    Json.textEntry "name" delegate.handler.method,
    ("ordinal", .number delegate.handler.ordinal),
    Json.textEntry "operation" delegate.handler.operation.name,
    Json.textEntry "return_type" delegate.returnType,
    Json.textEntry "template" delegate.template,
    ("matcher_id", .number delegate.matcherId),
    ("bindings", array (delegate.bindings.map Binding.toJson))]

/-- A route as JSON. -/
def Route.toJson (route : Route) : Json :=
  object [("template", route.model.toJson), ("delegate", route.delegate.toJson)]

/-- A group of routes as JSON. -/
def RouteGroup.toJson (group : RouteGroup) : Json :=
  object [
    ("matcher_id", .number group.matcherId),
    Json.textEntry "normalized_path" group.normalizedPath,
    ("routes", array (group.routes.map Route.toJson))]

/-- A router as JSON. -/
def Router.toJson (router : Router) : Json :=
  object [
    Json.textEntry "qualified_name" router.qualifiedName,
    Json.textEntry "simple_name" router.simpleName,
    Json.textEntry "package" router.package,
    Json.textEntry "router_class" router.routerClass,
    Json.textEntry "authority" router.authority,
    ("buckets", array (router.groups.map RouteGroup.toJson))]

/-- **A router model as JSON.** -/
def RouterModel.toJson (model : RouterModel) : Json :=
  object [("providers", array (model.routers.map Router.toJson))]

end ContentRouter
