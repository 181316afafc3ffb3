import ContentRouter.Source.Rendering

/-!
# What entry points do

A request reaches an entry point with a matcher id and with its query. The switch is entered at the
first case whose constant the router declares with this id. The calls of a case are tried in their
order; a call whose guard is an empty text is made in any case, any other one if the query meets its
guard. A case that makes no call leaves the switch if it has a break, and runs on into the next case
if it has none. Where no call is made the entry point refuses the request.

Beside it stands what a router is meant to do: of the routes of a group that serve the operation, in
the order of the group, the first one whose query pairs the query meets.
-/

namespace ContentRouter

/-- Whether the query of a request, by the value of each of its keys, has what a pair asks for. -/
def QueryPair.isMetBy (query : String → Option String) (pair : QueryPair) : Bool :=
  match pair.value with
  | .literal text => query pair.key == some text
  | .placeholder _ => (query pair.key).isSome

/-- Whether a query has what all pairs of a route ask for. -/
def Route.isMetBy (query : String → Option String) (route : Route) : Bool :=
  route.model.query.all (·.isMetBy query)

/-- The routes of a group that serve an operation, in the order of the group. -/
def RouteGroup.routesFor (operation : Operation) (group : RouteGroup) : List Route :=
  group.routes.filter (·.operation = operation)

namespace Source

/-- A call that an entry point makes, and where it stands. -/
structure Landing where
  /-- The constant of the case. -/
  constant : String
  /-- The number of calls before it in the case. -/
  place : Nat
  call : GuardedCall Guard
  deriving DecidableEq, Repr

/-- Whether a call is made once it is reached. -/
def GuardedCall.isMade (query : String → Option String) (call : GuardedCall Guard) : Bool :=
  call.guard.text.isEmpty || call.guard.holds query

/-- Tries the calls of a case in their order, of which the first has the given place. -/
def runCalls (query : String → Option String) (constant : String) :
    Nat → List (GuardedCall Guard) → Option Landing
  | _, [] => none
  | place, call :: rest =>
      if call.isMade query then some { constant, place, call }
      else runCalls query constant (place + 1) rest

/-- Runs cases from the first one on, up to a call or a break. -/
def runCases (query : String → Option String) : List (SwitchCase Guard) → Option Landing
  | [] => none
  | arm :: rest =>
      match runCalls query arm.constant 0 arm.routes with
      | some landing => some landing
      | none => if arm.needsBreak then none else runCases query rest

/-- The matcher id that a router declares a constant with. -/
def RouterSource.idOf? (source : RouterSource Guard) (constant : String) : Option MatcherId :=
  (source.matchers.find? (·.constant == constant)).map (·.id)

/-- **The call that an entry point of a router makes** for a request whose path has a matcher id.
Without a call the entry point refuses the request. -/
def RouterSource.run (source : RouterSource Guard) (entry : EntryPoint Guard) (id : MatcherId)
    (query : String → Option String) : Option Landing :=
  runCases query (entry.cases.dropWhile fun arm => source.idOf? arm.constant != some id)

end Source

end ContentRouter
