import Mathlib.Algebra.Order.BigOperators.Group.List
import Mathlib.Algebra.Order.Group.Nat
import Mathlib.Order.Monotone.Basic
import ContentRouter.Proofs.Routing.Registry
import ContentRouter.Routing.Router

/-!
# Renamed matcher ids

A matcher id stands in the label of a bucket, in the models of its entries, and in the routes and
the delegates of a router. Renaming it changes nothing else, and entries keep their order.

The ids of some buckets of a registry rise, so that they are what the ids from one on become under a
strictly increasing renaming (`exists_strictMono_map_range'`).
-/

namespace ContentRouter

section Ids

variable (name : MatcherId → MatcherId)

/-- The model with its id renamed, if it has one. -/
def Model.mapId (model : Model) : Model := { model with matcherId := model.matcherId.map name }

/-- The entry with the id of its model renamed. -/
def Registration.mapId (entry : Registration) : Registration :=
  { entry with model := entry.model.mapId name }

/-- The bucket with its own id renamed, and those of its entries. -/
def Bucket.mapId (bucket : Bucket) : Bucket :=
  { bucket with id := name bucket.id, entries := bucket.entries.map (·.mapId name) }

/-- The delegate with its id renamed. -/
def Delegate.mapId (delegate : Delegate) : Delegate :=
  { delegate with matcherId := name delegate.matcherId }

/-- The route with the ids of its model and its delegate renamed. -/
def Route.mapId (route : Route) : Route where
  model := route.model.mapId name
  delegate := route.delegate.mapId name

/-- The group with its own id renamed, and those of its routes. -/
def RouteGroup.mapId (group : RouteGroup) : RouteGroup :=
  { group with matcherId := name group.matcherId, routes := group.routes.map (·.mapId name) }

/-- The router with the ids of its groups renamed. -/
def Router.mapId (router : Router) : Router :=
  { router with groups := router.groups.map (·.mapId name) }

/-- A model that had no id is marked with the renamed one. -/
theorem Model.mapId_withMatcherId {model : Model} (unmarked : model.matcherId = none)
    (id : MatcherId) : (model.withMatcherId id).mapId name = model.withMatcherId (name id) := by
  simp [mapId, withMatcherId, unmarked]

/-- A bucket with the renamed id of another one, its address and its renamed entries is that one
renamed. -/
theorem Bucket.eq_mapId {bucket origin : Bucket}
    (label : bucket.label = (name origin.id, origin.address))
    (entries : bucket.entries = origin.entries.map (·.mapId name)) :
    bucket = origin.mapId name := by
  obtain ⟨id, address⟩ := Prod.mk.inj label
  obtain ⟨authority, path⟩ := Prod.mk.inj address
  obtain ⟨_, _, _, _⟩ := bucket
  cases id
  cases authority
  cases path
  cases entries
  rfl

/-- Renaming ids keeps the order of entries. -/
theorem Bucket.inOrder_map_mapId (entries : List Registration) :
    inOrder (entries.map (·.mapId name)) = (inOrder entries).map (·.mapId name) := by
  rw [inOrder, inOrder, List.map_mergeSort]
  exact fun _ _ _ _ => rfl

end Ids

section Rising

variable {ids : List Nat} (rises : ids.Pairwise (· < ·))
include rises

/-- The elements of a rising list are the first values of a strictly increasing function. -/
theorem exists_strictMono_getElem :
    ∃ name : Nat → Nat, StrictMono name ∧ ∀ i (inside : i < ids.length), name i = ids[i] := by
  let name (i : Nat) : Nat := if inside : i < ids.length then ids[i] else ids.sum + i
  refine ⟨name, strictMono_nat_of_lt_succ ?_, fun i inside => dif_pos inside⟩
  intro i
  dsimp only [name]
  by_cases next : i + 1 < ids.length
  · rw [dif_pos next, dif_pos (Nat.lt_of_succ_lt next)]
    exact List.pairwise_iff_getElem.mp rises i (i + 1) _ next (Nat.lt_succ_self i)
  · rw [dif_neg next]
    split
    · have least : ids[i] ≤ ids.sum := List.le_sum_of_mem (List.getElem_mem _)
      omega
    · omega

/-- **Rising ids are renamed ids from one on.** -/
theorem exists_strictMono_map_range' (positive : ∀ id ∈ ids, 0 < id) :
    ∃ name : Nat → Nat, StrictMono name ∧ (List.range' 1 ids.length).map name = ids := by
  -- Zero is no id and keeps the first place.
  have all : (0 :: ids).Pairwise (· < ·) := List.pairwise_cons.mpr ⟨positive, rises⟩
  obtain ⟨name, increasing, values⟩ := exists_strictMono_getElem all
  refine ⟨name, increasing, List.ext_getElem (by simp) ?_⟩
  intro i _ inside
  rw [List.getElem_map, List.getElem_range', Nat.one_mul, Nat.add_comm]
  exact values (i + 1) (Nat.succ_lt_succ inside)

end Rising

end ContentRouter
