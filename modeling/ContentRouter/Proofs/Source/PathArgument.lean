import ContentRouter.Proofs.Binding.Supply
import ContentRouter.Proofs.Round.Routers
import ContentRouter.Proofs.Template.RequestPath

/-!
# Where path arguments are read from

A template counts all of its segments and a request only those that are not empty, so the argument
for a placeholder of the path is read at its runtime index. The subtraction that gives this index is
exact, and there the registered path has the wildcard and every request the text of the placeholder
(`Model.PathIndexLaw`). In a processed manifest all arguments for path placeholders are read there
(`Source.pathArgument_law`).
-/

namespace ContentRouter

namespace Model

/-- **The place of a path placeholder** in the requests for a model. -/
structure PathPlace (model : Model) (name : String) (position : Nat) : Prop where
  segment : model.template.segments[position]? = some (.placeholder name)
  /-- The position is read back from its text, in which it leaves the program. -/
  readBack : model.text.toList.length < 2 ^ 64 →
    Slot.segmentOfKey? (Slot.segment position).key = some position
  /-- There are no more empty segments before the placeholder than segments. -/
  exact : Source.runtimeIndex model.template.segments position +
    (model.template.segments.take position).countP Segment.isEmpty = position
  /-- A request has the text of the placeholder there. -/
  value : ∀ values, model.template.IsFilledBy values →
    (Source.filledSegments (model.template.requestPath values))[
      Source.runtimeIndex model.template.segments position]? = some (values name)

/-- **The law of path indices** for a model with the default wildcard. -/
structure PathIndexLaw (model : Model) : Prop where
  /-- The path placeholders of the table are the placeholders among the segments. -/
  declared : ∀ name position, ⟨name, .segment position⟩ ∈ model.template.placeholders ↔
    model.template.segments[position]? = some (.placeholder name)
  place : ∀ name position, ⟨name, .segment position⟩ ∈ model.template.placeholders →
    model.PathPlace name position
  /-- The registered path has as many segments. -/
  inside : ∀ name position, ⟨name, .segment position⟩ ∈ model.template.placeholders →
    Source.runtimeIndex model.template.segments position <
      (Source.filledSegments (Source.matcherPath model.normalizedPath)).length
  wildcard : ∀ name position, ⟨name, .segment position⟩ ∈ model.template.placeholders →
    (Source.filledSegments (Source.matcherPath model.normalizedPath))[
      Source.runtimeIndex model.template.segments position]? = some defaultWildcard
  /-- Different placeholders are read from different places. -/
  apart : ∀ name position other otherPosition,
    ⟨name, .segment position⟩ ∈ model.template.placeholders →
      ⟨other, .segment otherPosition⟩ ∈ model.template.placeholders →
        Source.runtimeIndex model.template.segments position =
            Source.runtimeIndex model.template.segments otherPosition →
          name = other ∧ position = otherPosition

section Built

variable {model : Model} (built : model.IsBuilt) {name : String} {position : Nat}
include built

private theorem IsBuilt.mem_placeholders_iff :
    ⟨name, .segment position⟩ ∈ model.template.placeholders ↔
      model.template.segments[position]? = some (.placeholder name) :=
  (Template.getElem?_segments_iff built.parse_text).symm

private theorem IsBuilt.pathPlace
    (declared : ⟨name, .segment position⟩ ∈ model.template.placeholders) :
    model.PathPlace name position := by
  have placed := built.mem_placeholders_iff.mp declared
  have before := Source.countP_isEmpty_le model.template.segments position
  exact {
    segment := placed
    readBack := by
      intro short
      have readBack := Template.segmentOfKey?_of_mem built.parse_text short declared rfl
      exact readBack
    exact := Nat.sub_add_cancel before
    value := fun _ filling =>
      Template.getElem?_filledSegments_requestPath built.parse_text filling placed }

omit built in
private theorem eq_of_runtimeIndex_eq {segments : List Segment} {other : String}
    {otherPosition : Nat}
    (placed : segments[position]? = some (.placeholder name))
    (otherPlaced : segments[otherPosition]? = some (.placeholder other))
    (same : Source.runtimeIndex segments position = Source.runtimeIndex segments otherPosition) :
    position = otherPosition := by
  obtain ⟨inside, _⟩ := List.getElem?_eq_some_iff.mp placed
  obtain ⟨otherInside, _⟩ := List.getElem?_eq_some_iff.mp otherPlaced
  rcases Nat.lt_trichotomy position otherPosition with before | equal | behind
  · have less := Source.runtimeIndex_lt placed rfl before (Nat.le_of_lt otherInside)
    omega
  · exact equal
  · have less := Source.runtimeIndex_lt otherPlaced rfl behind (Nat.le_of_lt inside)
    omega

end Built

/-- The registered path has the wildcard where a request has the text of a placeholder. -/
theorem getElem?_matcherPath {scheme wildcard authority text : String} {model : Model}
    (visible : wildcard ≠ "") (whole : '/' ∉ wildcard.toList)
    (built : build scheme wildcard authority text = .ok model) {name : String} {position : Nat}
    (placed : model.template.segments[position]? = some (.placeholder name)) :
    (Source.filledSegments (Source.matcherPath model.normalizedPath))[
      Source.runtimeIndex model.template.segments position]? = some wildcard := by
  obtain ⟨template, read, rfl⟩ := eq_of_build scheme wildcard authority text model built
  rw [Source.filledSegments_matcherPath, Template.normalizedPathOf_eq_requestPath]
  exact Template.getElem?_filledSegments_requestPath read (fun _ _ => ⟨visible, whole⟩) placed

private theorem pathIndexLaw_of_build {scheme authority text : String} {model : Model}
    (built : build scheme defaultWildcard authority text = .ok model) : model.PathIndexLaw := by
  have made := isBuilt_of_build _ _ _ _ _ built
  have wildcard {name : String} {position : Nat}
      (declared : ⟨name, .segment position⟩ ∈ model.template.placeholders) :=
    getElem?_matcherPath (by decide) (by decide) built (made.mem_placeholders_iff.mp declared)
  exact {
    declared := fun _ _ => made.mem_placeholders_iff
    place := fun _ _ => made.pathPlace
    inside := fun _ _ declared => (List.getElem?_eq_some_iff.mp (wildcard declared)).1
    wildcard := fun _ _ => wildcard
    apart := by
      intro name position other otherPosition declared otherDeclared same
      have placed := made.mem_placeholders_iff.mp declared
      have otherPlaced := made.mem_placeholders_iff.mp otherDeclared
      have position := eq_of_runtimeIndex_eq placed otherPlaced same
      rw [position, otherPlaced] at placed
      cases placed
      exact ⟨rfl, position⟩ }

end Model

namespace Source

/-- The arguments in the call of a route, in the order of its bindings. -/
def argumentsOf (types : TypeNames) (route : Route) : List String :=
  route.delegate.bindings.map (argument types route.operation route.model.template.segments)

/-- **The law of path arguments** for a route. -/
structure PathArgumentLaw (types : TypeNames) (route : Route) : Prop where
  call : (callOf types route).call = Source.call route.delegate.handler.method
    (argumentsOf types route)
  /-- What is bound to a path placeholder is bound to one of the route's own template. -/
  place : ∀ binding ∈ route.delegate.bindings, ∀ name position,
    binding.supply = .placeholder ⟨name, .segment position⟩ → route.model.PathPlace name position
  /-- And it is read at the runtime index of that placeholder. -/
  read : ∀ (index : Nat) binding, route.delegate.bindings[index]? = some binding →
    ∀ name position, binding.supply = .placeholder ⟨name, .segment position⟩ →
      (argumentsOf types route)[index]? = some (convert types binding.typeName
        s!"uri.getPathSegments().get({runtimeIndex route.model.template.segments position})")

/-- A path placeholder that a route's handler is bound to has its place in the route's model. -/
theorem pathPlace_of_mem_bindings {settings : Settings} {manifest : Manifest} {router : Router}
    (made : router ∈ (processManifest settings manifest).2.routers) {route : Route}
    (routed : route ∈ router.routes) {binding : Binding}
    (bound : binding ∈ route.delegate.bindings) {name : String} {position : Nat}
    (supplied : binding.supply = .placeholder ⟨name, .segment position⟩) :
    route.model.PathPlace name position := by
  obtain ⟨group, grouped, inside⟩ := List.mem_flatMap.mp routed
  obtain ⟨admission, admitted, _, _, rfl⟩ := Router.exists_admission made grouped inside
  have offered := (mem_admissionsAfter admitted).2
  obtain ⟨result, _, done, same⟩ := Candidate.offer?_eq_some_iff.mp offered
  have bindings : admission.bindings = result.bindings := congrArg Admission.bindings same
  have declared := isOf_of_bindParameters done binding (bindings ▸ bound) _ supplied
  have built := Candidate.isBuilt_of_offer? offered
  exact ((Model.isBuilt_withMatcherId _ _).mpr built).pathPlace declared

/-- **Path arguments are read from the right segment**, for every template that forms a model with
the default wildcard, and for every route of a processed manifest, whatever empty segments there
are. -/
theorem pathArgument_law :
    (∀ scheme authority text model,
      Model.build scheme Model.defaultWildcard authority text = .ok model → model.PathIndexLaw) ∧
    ∀ settings manifest, ∀ router ∈ (processManifest settings manifest).2.routers,
      ∀ route ∈ router.routes, ∀ types, PathArgumentLaw types route := by
  refine ⟨fun _ _ _ _ => Model.pathIndexLaw_of_build, ?_⟩
  intro settings manifest router made route routed types
  exact {
    call := rfl
    place := fun _ bound _ _ => pathPlace_of_mem_bindings made routed bound
    read := by
      intro index binding found name position supplied
      rw [argumentsOf, List.getElem?_map, found, Option.map_some, argument, supplied]
      rfl }

/-- A handler with a number behind two slashes and a text behind two more. -/
theorem pathArgument_law_of_doubled :
    let text := "//n//\x7bid\x7d//\x7bsub\x7d/"
    let template : Template :=
      { segments := [.literal "", .literal "n", .literal "", .placeholder "id", .literal "",
          .placeholder "sub", .literal ""],
        query := [], placeholders := [⟨"id", .segment 3⟩, ⟨"sub", .segment 5⟩] }
    let model : Model := { text, authority := "a", normalizedPath := "//n//*//*/", template }
    let path (name typeName : String) : Parameter :=
      { name, typeName, annotations := [.valued [("path_param", name)]] }
    let one : Method :=
      { name := "one", operation := .query, template := text,
        parameters := [path "sub" "java.lang.String", path "id" "long"] }
    let manifest : Manifest := ⟨[{ className := "P", authority := "a", methods := [one] }]⟩
    model.PathIndexLaw ∧
      ∃ router ∈ (processManifest {} manifest).2.routers, ∃ route ∈ router.routes,
        argumentsOf {} route =
            ["uri.getPathSegments().get(2)", "Long.parseLong(uri.getPathSegments().get(1))"] ∧
          PathArgumentLaw {} route := by
  intro text template model path one manifest
  have built : Model.build "content" Model.defaultWildcard "a" text = .ok model := by
    decide +kernel
  have rendered : (processManifest {} manifest).2.routers.map (fun router =>
      router.routes.map (argumentsOf {})) =
      [[["uri.getPathSegments().get(2)", "Long.parseLong(uri.getPathSegments().get(1))"]]] := by
    decide +kernel
  obtain ⟨router, routers, routes⟩ := List.map_eq_singleton_iff.mp rendered
  obtain ⟨route, routes, arguments⟩ := List.map_eq_singleton_iff.mp routes
  have made : router ∈ (processManifest {} manifest).2.routers := by simp [routers]
  have routed : route ∈ router.routes := by simp [routes]
  refine ⟨pathArgument_law.1 _ _ _ _ built, router, made, route, routed, arguments, ?_⟩
  exact pathArgument_law.2 {} manifest router made route routed {}

end Source

end ContentRouter
