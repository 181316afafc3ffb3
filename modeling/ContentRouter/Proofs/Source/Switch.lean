import ContentRouter.Source.Dispatch

/-!
# Running the switch of an entry point

A guard is an empty text only if it asks for nothing, so a call is made exactly if the query meets
the route that it was written for. The last route of a case without a break asks for nothing, so no
case is ever left without a call and without a break. Constants tell matcher ids apart. Running an
entry point is therefore trying the routes of one group (`run_entryPointOf_eq_some_iff`).
-/

namespace ContentRouter

private theorem Condition.text_ne_empty (condition : Condition) : condition.text ≠ "" := by
  cases condition with
  | equals key value =>
      intro none
      exact absurd (String.append_eq_empty_iff.mp none).2 (by decide)
  | present key =>
      intro none
      exact absurd (String.append_eq_empty_iff.mp none).2 (by decide)

namespace Guard

/-- Only the guard that asks for nothing is an empty text. -/
theorem isEmpty_text (guard : Guard) : guard.text.isEmpty = guard.isEmpty := by
  cases guard with
  | nil => rfl
  | cons condition rest =>
      have nonempty := condition.text_ne_empty
      rw [List.isEmpty_cons, ← Bool.not_eq_true, String.isEmpty_iff]
      cases rest with
      | nil => exact nonempty
      | cons next others =>
          intro none
          rw [text, List.map_cons, List.map_cons, Text.joinWith] at none
          have pieces := String.append_eq_empty_iff.mp none
          exact nonempty (String.append_eq_empty_iff.mp pieces.1).1

/-- The guard of query pairs holds exactly if a query meets all of them. -/
theorem holds_ofPairs (query : String → Option String) (pairs : List QueryPair) :
    Guard.holds query (ofPairs pairs) = pairs.all (·.isMetBy query) := by
  rw [Guard.holds, ofPairs, List.all_map]
  congr 1
  funext pair
  obtain ⟨key, value⟩ := pair
  cases value <;> rfl

end Guard

namespace Source

variable (types : TypeNames) (query : String → Option String)

/-- A call is made exactly if the query meets its route. -/
theorem isMade_callOf (route : Route) :
    (callOf types route).isMade query = route.isMetBy query := by
  rw [GuardedCall.isMade, Guard.isEmpty_text, callOf, Guard.holds_ofPairs, Route.isMetBy]
  cases route.model.query with
  | nil => rfl
  | cons pair rest => rfl

/-- Different ids have different constants. -/
theorem matcherConstant_injective {id other : MatcherId}
    (same : matcherConstant id = matcherConstant other) : id = other := by
  have texts := (String.append_right_inj "MATCHER_").mp same
  rw [Nat.toString_eq_ofList_toDigits, Nat.toString_eq_ofList_toDigits] at texts
  have digits := String.ofList_injective texts
  calc
    id = Nat.ofDigitChars 10 (Nat.toDigits 10 id) 0 := Nat.ofDigitChars_ten_toDigits.symm
    _ = Nat.ofDigitChars 10 (Nat.toDigits 10 other) 0 := by rw [digits]
    _ = other := Nat.ofDigitChars_ten_toDigits

section Calls

variable (constant : String)

/-- The calls of routes land at the first one that the query meets. -/
theorem runCalls_eq_some_iff (place : Nat) (routes : List Route) (landing : Landing) :
    runCalls query constant place (routes.map (callOf types)) = some landing ↔
      ∃ before route after, routes = before ++ route :: after ∧
        (∀ earlier ∈ before, earlier.isMetBy query = false) ∧ route.isMetBy query = true ∧
        landing = ⟨constant, place + before.length, callOf types route⟩ := by
  -- A call that is passed over moves the places of those behind it by one.
  induction routes generalizing place with
  | nil =>
      refine iff_of_false nofun ?_
      rintro ⟨before, route, after, split, _⟩
      exact List.append_ne_nil_of_right_ne_nil before (List.cons_ne_nil route after) split.symm
  | cons first rest ih =>
      rw [List.map_cons, runCalls, isMade_callOf]
      cases met : first.isMetBy query with
      | true =>
          rw [if_pos rfl]
          constructor
          · intro landed
            exact ⟨[], first, rest, rfl, nofun, met, (Option.some.inj landed).symm⟩
          · rintro ⟨before, route, after, split, unmet, _, same⟩
            cases before with
            | nil =>
                obtain ⟨rfl, _⟩ := List.cons.inj split
                rw [same]
                rfl
            | cons other others =>
                obtain ⟨rfl, _⟩ := List.cons.inj split
                exact absurd met (Bool.not_eq_true _ ▸ unmet _ List.mem_cons_self)
      | false =>
          rw [if_neg Bool.false_ne_true, ih]
          constructor
          · rintro ⟨before, route, after, split, unmet, found, same⟩
            refine ⟨first :: before, route, after, by rw [split]; rfl, ?_, found, ?_⟩
            · exact List.forall_mem_cons.mpr ⟨met, unmet⟩
            · rw [same, List.length_cons, Nat.add_right_comm, Nat.add_assoc]
          · rintro ⟨before, route, after, split, unmet, found, same⟩
            cases before with
            | nil =>
                obtain ⟨rfl, _⟩ := List.cons.inj split
                exact absurd (met.symm.trans found) Bool.false_ne_true
            | cons other others =>
                obtain ⟨rfl, behind⟩ := List.cons.inj split
                refine ⟨others, route, after, behind, (List.forall_mem_cons.mp unmet).2, found, ?_⟩
                rw [same, List.length_cons, Nat.add_right_comm, Nat.add_assoc]

private theorem runCalls_eq_none_iff (place : Nat) (routes : List Route) :
    runCalls query constant place (routes.map (callOf types)) = none ↔
      ∀ route ∈ routes, route.isMetBy query = false := by
  induction routes generalizing place with
  | nil => exact iff_of_true rfl nofun
  | cons first rest ih =>
      rw [List.map_cons, runCalls, isMade_callOf, List.forall_mem_cons]
      cases met : first.isMetBy query with
      | true => simp
      | false => simp [ih]

end Calls

section Cases

variable (operation : Operation)

/-- A group has no case exactly if none of its routes serves the operation. -/
theorem caseOf?_eq_none_iff (group : RouteGroup) :
    caseOf? types operation group = none ↔ group.routesFor operation = [] := by
  rw [caseOf?, Option.map_eq_none_iff, List.getLast?_eq_none_iff, List.map_eq_nil_iff]
  rfl

/-- The case of a group has its constant and the calls of its routes, and a break unless the last
route asks for nothing. -/
theorem caseOf?_eq_some_iff (group : RouteGroup) (arm : SwitchCase Guard) :
    caseOf? types operation group = some arm ↔
      ∃ last, (group.routesFor operation).getLast? = some last ∧
        arm = ⟨matcherConstant group.matcherId, !(callOf types last).guard.isEmpty,
          (group.routesFor operation).map (callOf types)⟩ := by
  rw [caseOf?, List.getLast?_map, Option.map_map, Option.map_eq_some_iff]
  exact exists_congr fun last => and_congr Iff.rfl eq_comm

/-- **A case never runs on into the next one.** Without a break its last call is made in any case.
-/
theorem runCases_of_caseOf? {group : RouteGroup} {arm : SwitchCase Guard}
    (found : caseOf? types operation group = some arm) (rest : List (SwitchCase Guard)) :
    runCases query (arm :: rest) =
      runCalls query (matcherConstant group.matcherId) 0
        ((group.routesFor operation).map (callOf types)) := by
  obtain ⟨last, isLast, rfl⟩ := (caseOf?_eq_some_iff types operation group arm).mp found
  rw [runCases]
  dsimp only
  cases landed : runCalls query (matcherConstant group.matcherId) 0
      ((group.routesFor operation).map (callOf types)) with
  | some landing => rfl
  | none =>
      have unmet := (runCalls_eq_none_iff types query _ 0 _).mp landed last
        (List.mem_of_getLast? isLast)
      have breaks : (callOf types last).guard.isEmpty = false := by
        rw [← Bool.not_eq_true]
        intro empty
        rw [← isMade_callOf types, GuardedCall.isMade, Guard.isEmpty_text, empty] at unmet
        cases unmet
      simp only [breaks, Bool.not_false, ↓reduceIte]

/-- The first case whose constant stands for an id is the one of the group of this id. -/
theorem runCases_dropWhile {idOf? : String → Option MatcherId} {groups : List RouteGroup}
    (declared : ∀ group ∈ groups,
      idOf? (matcherConstant group.matcherId) = some group.matcherId)
    (distinct : (groups.map (·.matcherId)).Nodup) (id : MatcherId) (landing : Landing) :
    runCases query ((groups.filterMap (caseOf? types operation)).dropWhile fun arm =>
        idOf? arm.constant != some id) = some landing ↔
      ∃ group ∈ groups, group.matcherId = id ∧
        runCalls query (matcherConstant id) 0
          ((group.routesFor operation).map (callOf types)) = some landing := by
  induction groups with
  | nil => exact iff_of_false nofun nofun
  | cons first others ih =>
      obtain ⟨firstDeclared, declared⟩ := List.forall_mem_cons.mp declared
      obtain ⟨fresh, distinct⟩ := List.nodup_cons.mp distinct
      have ih := ih declared distinct
      cases found : caseOf? types operation first with
      | none =>
          rw [List.filterMap_cons_none found, ih]
          have nothing := (caseOf?_eq_none_iff types operation first).mp found
          simp only [List.mem_cons, exists_eq_or_imp, nothing, List.map_nil, runCalls,
            reduceCtorEq, and_false, false_or]
      | some arm =>
          have resolved : idOf? arm.constant = some first.matcherId := by
            obtain ⟨_, _, rfl⟩ := (caseOf?_eq_some_iff types operation first arm).mp found
            exact firstDeclared
          rw [List.filterMap_cons_some found]
          -- Ids are distinct: behind the case of this id there is no other one of it.
          by_cases here : first.matcherId = id
          · rw [List.dropWhile_cons_of_neg (by simp [resolved, here]),
              runCases_of_caseOf? types query operation found, here]
            constructor
            · intro landed
              exact ⟨first, List.mem_cons_self, here, landed⟩
            · rintro ⟨group, member, same, landed⟩
              rcases List.mem_cons.mp member with rfl | later
              · exact landed
              · exact absurd (List.mem_map.mpr ⟨group, later, same.trans here.symm⟩) fresh
          · rw [List.dropWhile_cons_of_pos (by simp [resolved, here]), ih]
            simp only [List.mem_cons, exists_eq_or_imp, here, false_and, false_or]

end Cases

private theorem idOf?_ofRouter (router : Router) {group : RouteGroup}
    (member : group ∈ router.groups) :
    (ofRouter types router).idOf? (matcherConstant group.matcherId) = some group.matcherId := by
  have search : (ofRouter types router).idOf? (matcherConstant group.matcherId) =
      (router.groups.find? fun other =>
        matcherConstant other.matcherId == matcherConstant group.matcherId).map (·.matcherId) := by
    rw [RouterSource.idOf?, ofRouter, List.find?_map, Option.map_map]
    rfl
  rw [search]
  cases found : router.groups.find? fun other =>
      matcherConstant other.matcherId == matcherConstant group.matcherId with
  | none => exact absurd (beq_self_eq_true _) (List.find?_eq_none.mp found group member)
  | some other =>
      have same := List.find?_some found
      rw [Option.map_some, matcherConstant_injective (beq_iff_eq.mp same)]

variable {query}

/-- **The switch does what the router is meant to do.** An entry point lands at the first route, in
the order of the group of the matcher id, that serves the operation and that the query meets. -/
theorem run_entryPointOf_eq_some_iff {router : Router}
    (distinct : (router.groups.map (·.matcherId)).Nodup) (operation : Operation) (id : MatcherId)
    (landing : Landing) :
    (ofRouter types router).run (entryPointOf types router operation) id query = some landing ↔
      ∃ group ∈ router.groups, group.matcherId = id ∧
        ∃ before route after, group.routesFor operation = before ++ route :: after ∧
          (∀ earlier ∈ before, earlier.isMetBy query = false) ∧ route.isMetBy query = true ∧
          landing = ⟨matcherConstant id, before.length, callOf types route⟩ := by
  rw [RouterSource.run, entryPointOf]
  rw [runCases_dropWhile types query operation (fun _ => idOf?_ofRouter types router) distinct]
  simp only [runCalls_eq_some_iff, Nat.zero_add]

/-- An entry point refuses a request exactly if the query meets no route for the operation in the
group of the matcher id. -/
theorem run_entryPointOf_eq_none_iff {router : Router}
    (distinct : (router.groups.map (·.matcherId)).Nodup) (operation : Operation) (id : MatcherId) :
    (ofRouter types router).run (entryPointOf types router operation) id query = none ↔
      ∀ group ∈ router.groups, group.matcherId = id →
        ∀ route ∈ group.routesFor operation, route.isMetBy query = false := by
  rw [Option.eq_none_iff_forall_ne_some]
  constructor
  · intro refused group member same
    rw [← runCalls_eq_none_iff types query (matcherConstant id) 0,
      Option.eq_none_iff_forall_ne_some]
    intro landing landed
    apply refused landing
    rw [RouterSource.run, entryPointOf]
    rw [runCases_dropWhile types query operation (fun _ => idOf?_ofRouter types router) distinct]
    exact ⟨group, member, same, landed⟩
  · intro unmet landing landed
    obtain ⟨group, member, same, before, route, after, split, _, met, _⟩ :=
      (run_entryPointOf_eq_some_iff types distinct operation id landing).mp landed
    have inside : route ∈ group.routesFor operation := by
      rw [split]
      exact List.mem_append_right before List.mem_cons_self
    rw [unmet group member same route inside] at met
    cases met

end Source

end ContentRouter
