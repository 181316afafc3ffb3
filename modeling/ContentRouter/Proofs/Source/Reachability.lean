import ContentRouter.Proofs.Source.Reach

/-!
# Which statements of a case can be reached

A case is a list of statements: a return for every call, under a condition if the call has a guard,
and a break if the case has one. A return and a break never complete, so that a statement behind one
of them cannot be reached. A conditional statement without an alternative may complete.

The routes of a case are in the order in which they are tried, and a route without query pairs has
no other one of its operation behind it, because that one would serve the same requests. So a return
without a condition is the last statement of its case, and a case without one ends with a break
(`Router.case_law`).
-/

namespace ContentRouter

private theorem Route.Precedes.query_ne_nil {earlier route : Route}
    (precedes : earlier.Precedes route) :
    earlier.model.query ≠ [] := by
  intro none
  have width : route.model.queryCount ≤ earlier.model.queryCount := precedes.width
  rw [Model.queryCount, Model.queryCount, none, List.length_nil, Nat.le_zero,
    List.length_eq_zero_iff] at width
  -- The two ask for nothing, and so for the same.
  have guards : earlier.model.guard.Perm route.model.guard := by
    rw [Model.guard, Model.guard, none, width]
  have full := (Model.fullyEquals_iff_perm precedes.earlierBuilt).mpr ⟨precedes.address, guards⟩
  rw [precedes.apart] at full
  cases full

namespace Source

/-- A statement of a case. -/
inductive Statement
  /-- Returns what a delegate answers. -/
  | answer (comment call : String)
  /-- Returns what a delegate answers if a guard holds. -/
  | answerIf (comment guard call : String)
  /-- Leaves the switch. -/
  | leave
  deriving DecidableEq, Repr

namespace Statement

/-- Whether a statement may complete, so that the one behind it is run. -/
def completes : Statement → Bool
  | .answerIf .. => true
  | .answer .. | .leave => false

/-- How the answer of a delegate is returned. -/
def returnText (call : String) : String := "return delegate." ++ call ++ ";"

/-- The lines of a statement, as they are written in a case. -/
def lines : Statement → List String
  | .answer comment call =>
      ["                // " ++ comment, "                " ++ returnText call]
  | .answerIf comment guard call =>
      ["                // " ++ comment, "                if (" ++ guard ++ ") \x7b",
        "                    " ++ returnText call, "                \x7d"]
  | .leave => ["                break;"]

/-- Whether what stands behind some statements can be reached: each of them may complete. -/
def Passes (statements : List Statement) : Prop :=
  ∀ statement ∈ statements, statement.completes = true

variable {before front after : List Statement} {final statement : Statement}

/-- Where only the final statement does not complete, every statement can be reached. -/
theorem Passes.of_split (passes : Passes before)
    (split : before ++ [final] = front ++ statement :: after) : Passes front := by
  have shorter : before = front ++ (statement :: after).dropLast := by
    rw [← List.dropLast_append_of_ne_nil (List.cons_ne_nil statement after), ← split,
      List.dropLast_concat]
  intro earlier listed
  exact passes earlier (shorter ▸ List.mem_append_left _ listed)

end Statement

/-- The statement of a call: under its guard, unless the guard is empty. -/
def GuardedCall.statement (call : GuardedCall String) : Statement :=
  if call.guard.isEmpty then .answer call.comment call.call
  else .answerIf call.comment call.guard call.call

/-- The statements of a case: those of its calls, and the one that leaves the switch if it is
needed. -/
def SwitchCase.statements (arm : SwitchCase String) : List Statement :=
  arm.routes.map GuardedCall.statement ++ if arm.needsBreak then [.leave] else []

private theorem GuardedCall.lines_statement (call : GuardedCall String) :
    call.statement.lines = call.lines := by
  rw [statement, GuardedCall.lines]
  split <;> rfl

private theorem SwitchCase.lines_eq (arm : SwitchCase String) :
    arm.lines = ("            case " ++ arm.constant ++ ":") ::
      arm.statements.flatMap Statement.lines := by
  rw [SwitchCase.lines, statements, List.flatMap_append, List.flatMap_map]
  simp only [GuardedCall.lines_statement, List.cons_append]
  split <;> rfl

private theorem GuardedCall.completes_statement_iff (call : GuardedCall String) :
    call.statement.completes = true ↔ call.guard ≠ "" := by
  rw [statement, ne_eq, ← String.isEmpty_iff]
  split <;> simp_all [Statement.completes]

section Case

variable (types : TypeNames)

/-- The call of a route with its guard as text. -/
def writtenCall (route : Route) : GuardedCall String := (callOf types route).map Guard.text

private theorem guard_writtenCall_eq_empty_iff (route : Route) :
    (writtenCall types route).guard = "" ↔ route.model.query = [] := by
  rw [← String.isEmpty_iff]
  change (Guard.ofPairs route.model.query).text.isEmpty = true ↔ _
  rw [Guard.isEmpty_text, List.isEmpty_iff, Guard.ofPairs, List.map_eq_nil_iff]

/-- A case of an entry point as it is written is the one of a group that serves the operation. -/
theorem mem_cases_iff {router : Router} {operation : Operation} {arm : SwitchCase String} :
    arm ∈ ((entryPointOf types router operation).map Guard.text).cases ↔
      ∃ group ∈ router.groups, ∃ last, (group.routesFor operation).getLast? = some last ∧
        arm = ⟨matcherConstant group.matcherId, !last.model.query.isEmpty,
          (group.routesFor operation).map (writtenCall types)⟩ := by
  have empty (route : Route) :
      (callOf types route).guard.isEmpty = route.model.query.isEmpty := List.isEmpty_map
  have written (group : RouteGroup) :
      ((group.routesFor operation).map (callOf types)).map (GuardedCall.map Guard.text) =
        (group.routesFor operation).map (writtenCall types) := List.map_map
  simp only [EntryPoint.map, entryPointOf, List.mem_map, List.mem_filterMap, caseOf?_eq_some_iff]
  constructor
  · rintro ⟨_, ⟨group, grouped, last, isLast, rfl⟩, rfl⟩
    refine ⟨group, grouped, last, isLast, ?_⟩
    rw [SwitchCase.map, empty, written]
  · rintro ⟨group, grouped, last, isLast, rfl⟩
    refine ⟨_, ⟨group, grouped, last, isLast, rfl⟩, ?_⟩
    rw [SwitchCase.map, empty, written]

/-- **The law of cases** for the case of a group in the entry point of an operation. -/
structure CaseLaw (operation : Operation) (group : RouteGroup) (arm : SwitchCase String) :
    Prop where
  /-- The calls are those of the group's routes for the operation. -/
  routes : arm.routes = (group.routesFor operation).map (writtenCall types)
  /-- There is at least one call. -/
  nonempty : arm.routes ≠ []
  /-- The condition of a call is empty exactly if the template has no query. -/
  unconditional_iff : ∀ route ∈ group.routesFor operation,
    (writtenCall types route).guard = "" ↔ route.model.query = []
  /-- Only the last call may be without a condition. -/
  last : ∀ before call after, arm.routes = before ++ call :: after → call.guard = "" → after = []
  /-- The case has a break exactly if its last call has a condition. -/
  needsBreak_iff : arm.needsBreak = true ↔
    ∃ call, arm.routes.getLast? = some call ∧ call.guard ≠ ""
  /-- The lines of the case are those of its statements. -/
  lines : arm.lines = ("            case " ++ arm.constant ++ ":") ::
    arm.statements.flatMap Statement.lines
  /-- Every statement can be reached. -/
  reached : ∀ before statement after, arm.statements = before ++ statement :: after →
    Statement.Passes before
  /-- The next case cannot be reached from this one. -/
  leaves : ¬ Statement.Passes arm.statements

variable {types} {operation : Operation} {group : RouteGroup} {last : Route}
  {arm : SwitchCase String}

/-- A case of routes of which only the last one may ask for nothing has one statement that does not
complete, and this is the last one. -/
theorem exists_statements_eq (isLast : (group.routesFor operation).getLast? = some last)
    (ask : ∀ route ∈ (group.routesFor operation).dropLast, route.model.query ≠ [])
    (made : arm = ⟨matcherConstant group.matcherId, !last.model.query.isEmpty,
      (group.routesFor operation).map (writtenCall types)⟩) :
    ∃ before final, arm.statements = before ++ [final] ∧ Statement.Passes before ∧
      final.completes = false := by
  obtain ⟨front, routes⟩ := List.getLast?_eq_some_iff.mp isLast
  rw [routes, List.dropLast_concat] at ask
  have passes (route : Route) (asks : route.model.query ≠ []) :
      (writtenCall types route).statement.completes = true := by
    rwa [GuardedCall.completes_statement_iff, ne_eq, guard_writtenCall_eq_empty_iff]
  have calls : Statement.Passes ((front.map (writtenCall types)).map GuardedCall.statement) := by
    rw [Statement.Passes, List.forall_mem_map, List.forall_mem_map]
    exact fun route listed => passes route (ask route listed)
  rw [made, SwitchCase.statements, routes, List.map_append, List.map_append]
  by_cases free : last.model.query = []
  · -- The last call is a return without a condition.
    refine ⟨_, (writtenCall types last).statement, ?_, calls, ?_⟩
    · simp [free]
    · rw [← Bool.not_eq_true, GuardedCall.completes_statement_iff, not_not,
        guard_writtenCall_eq_empty_iff, free]
  · have all := List.forall_mem_append.mpr ⟨calls, List.forall_mem_singleton.mpr (passes last free)⟩
    refine ⟨_, .leave, ?_, all, rfl⟩
    simp [free]

private theorem caseLaw_of_getLast? (isLast : (group.routesFor operation).getLast? = some last)
    (ask : ∀ route ∈ (group.routesFor operation).dropLast, route.model.query ≠ [])
    (made : arm = ⟨matcherConstant group.matcherId, !last.model.query.isEmpty,
      (group.routesFor operation).map (writtenCall types)⟩) :
    CaseLaw types operation group arm := by
  obtain ⟨before, final, statements, passes, stops⟩ := exists_statements_eq isLast ask made
  have routes : arm.routes = (group.routesFor operation).map (writtenCall types) := by rw [made]
  exact {
    routes := routes
    nonempty := by
      rw [routes, ne_eq, List.map_eq_nil_iff]
      exact List.ne_nil_of_mem (List.mem_of_getLast? isLast)
    unconditional_iff := fun route _ => guard_writtenCall_eq_empty_iff types route
    last := by
      intro earlier call after split empty
      by_contra more
      -- A route without query pairs can only be the last one of its case.
      have front : call ∈ arm.routes.dropLast := by
        rw [split, List.dropLast_append_cons, List.dropLast_cons_of_ne_nil more]
        exact List.mem_append_right _ List.mem_cons_self
      rw [routes, ← List.map_dropLast] at front
      obtain ⟨route, listed, rfl⟩ := List.mem_map.mp front
      exact ask route listed ((guard_writtenCall_eq_empty_iff types route).mp empty)
    needsBreak_iff := by
      rw [routes, List.getLast?_map, isLast, made]
      simp [guard_writtenCall_eq_empty_iff]
    lines := arm.lines_eq
    reached := fun _ _ _ split => passes.of_split (statements.symm.trans split)
    leaves := by
      intro all
      have completes := all final (statements ▸ List.mem_append_right _ List.mem_cons_self)
      rw [stops] at completes
      cases completes }

end Case

end Source

namespace Router

/-- **No case has a statement that cannot be reached, and none runs on into the next one**, for
every manifest and all settings. -/
theorem case_law (settings : Settings) (manifest : Manifest) (router : Router)
    (made : router ∈ (processManifest settings manifest).2.routers) (types : TypeNames)
    (entry : Source.EntryPoint String)
    (entered : entry ∈ ((Source.ofRouter types router).map Guard.text).entryPoints)
    (arm : Source.SwitchCase String) (inside : arm ∈ entry.cases) :
    ∃ operation ∈ router.operations, ∃ group ∈ router.groups,
      entry = (Source.entryPointOf types router operation).map Guard.text ∧
        Source.CaseLaw types operation group arm := by
  rw [Source.RouterSource.map, Source.ofRouter, List.mem_map] at entered
  obtain ⟨_, listed, rfl⟩ := entered
  obtain ⟨operation, serves, rfl⟩ := List.mem_map.mp listed
  obtain ⟨group, grouped, last, isLast, same⟩ := (Source.mem_cases_iff types).mp inside
  refine ⟨operation, serves, group, grouped, rfl, Source.caseLaw_of_getLast? isLast ?_ same⟩
  obtain ⟨front, routes⟩ := List.getLast?_eq_some_iff.mp isLast
  have ordered := routesFor_precedes made grouped operation
  rw [routes] at ordered
  rw [routes, List.dropLast_concat]
  intro route listed
  exact ((List.pairwise_append.mp ordered).2.2 route listed last List.mem_cons_self).query_ne_nil

/-- A path that is served with and without a query pair, and a path that is served with one only. -/
theorem case_law_of_two :
    let list : Method := { name := "list", operation := .query, template := "n" }
    let search : Method := { name := "search", operation := .query, template := "n?k=\x7bv\x7d" }
    let pick : Method := { name := "pick", operation := .query, template := "m?k=1" }
    let manifest : Manifest :=
      ⟨[{ className := "P", authority := "a", methods := [list, search, pick] }]⟩
    ∃ router ∈ (processManifest {} manifest).2.routers,
      ∃ entry ∈ ((Source.ofRouter {} router).map Guard.text).entryPoints,
        ∃ first second, entry.cases = [first, second] ∧
          first.statements =
            [.answerIf "n?k=\x7bv\x7d" "uri.getQueryParameter(\"k\") != null" "search()",
              .answer "n" "list()"] ∧
          second.statements =
            [.answerIf "m?k=1" "\"1\".equals(uri.getQueryParameter(\"k\"))" "pick()", .leave] ∧
          ∀ arm ∈ [first, second], ∃ operation ∈ router.operations, ∃ group ∈ router.groups,
            entry = (Source.entryPointOf {} router operation).map Guard.text ∧
              Source.CaseLaw {} operation group arm := by
  intro list search pick manifest
  have made : (processManifest {} manifest).2.routers.map (fun router =>
      ((Source.ofRouter {} router).map Guard.text).entryPoints.map fun entry =>
        entry.cases.map Source.SwitchCase.statements) =
      [[[[.answerIf "n?k=\x7bv\x7d" "uri.getQueryParameter(\"k\") != null" "search()",
          .answer "n" "list()"],
        [.answerIf "m?k=1" "\"1\".equals(uri.getQueryParameter(\"k\"))" "pick()", .leave]]]] := by
    decide +kernel
  obtain ⟨router, routers, entries⟩ := List.map_eq_singleton_iff.mp made
  obtain ⟨entry, entries, cases⟩ := List.map_eq_singleton_iff.mp entries
  obtain ⟨first, rest, cases, one, others⟩ := List.map_eq_cons_iff.mp cases
  obtain ⟨second, rfl, two⟩ := List.map_eq_singleton_iff.mp others
  have member : router ∈ (processManifest {} manifest).2.routers := by simp [routers]
  have entered : entry ∈ ((Source.ofRouter {} router).map Guard.text).entryPoints := by
    simp [entries]
  refine ⟨router, member, entry, entered, first, second, cases, one, two, ?_⟩
  intro arm inside
  exact case_law {} manifest router member {} entry entered arm (cases ▸ inside)

end Router

end ContentRouter
