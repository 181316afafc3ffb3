import Mathlib.Data.Fintype.EquivFin
import ContentRouter.Proofs.Template.Requests

/-!
# Guards that cover others

A guard *covers* another one if every condition of it follows from one condition of the other. Then
every query that meets the other meets it as well. Conversely, if it does not cover the other, the
least query of the other shows it, provided that the filler is no value that it asks for. One filler
does for any number of guards. So what several guards take from another one together, one of them
takes by itself (`Guard.exists_holds_iff`).

A guard that covers another one with no more conditions has the same keys, and asks at each of them
for the same or for any value (`Guard.Covers.map_key_perm`).
-/

namespace ContentRouter

/-- Whether a condition is another one, or asks for any value where the other asks for one. -/
def Condition.FollowsFrom (condition other : Condition) : Prop :=
  condition = other ∨ condition = .present other.key

namespace Condition

variable {condition other : Condition}

private theorem FollowsFrom.key_eq (follows : condition.FollowsFrom other) :
    condition.key = other.key := by
  rcases follows with rfl | rfl <;> rfl

private theorem FollowsFrom.holds (follows : condition.FollowsFrom other)
    {query : String → Option String} (met : other.holds query = true) :
    condition.holds query = true := by
  rcases follows with rfl | rfl
  · exact met
  · cases other with
    | equals key value => exact Option.isSome_iff_exists.mpr ⟨value, beq_iff_eq.mp met⟩
    | present key => exact met

end Condition

namespace Guard

variable {general guard : Guard}

/-- Whether every condition of a guard follows from one of another guard. -/
def Covers (general guard : Guard) : Prop :=
  ∀ condition ∈ general, ∃ other ∈ guard, condition.FollowsFrom other

private theorem Covers.holds (covers : general.Covers guard) {query : String → Option String}
    (met : guard.holds query = true) : general.holds query = true := by
  apply List.all_eq_true.mpr
  intro condition member
  obtain ⟨other, listed, follows⟩ := covers condition member
  exact follows.holds (List.all_eq_true.mp met other listed)

/-- The values that a guard asks for. -/
def values (guard : Guard) : List String :=
  guard.filterMap fun
    | .equals _ value => some value
    | .present _ => none

private theorem value_mem_values {key value : String}
    (member : Condition.equals key value ∈ guard) :
    value ∈ guard.values :=
  List.mem_filterMap.mpr ⟨_, member, rfl⟩

private theorem exists_of_leastQuery {filler key value : String}
    (found : guard.leastQuery filler key = some value) :
    ∃ condition ∈ guard, condition.key = key ∧ condition.valueOr filler = value := by
  obtain ⟨condition, search, same⟩ := Option.map_eq_some_iff.mp found
  have named := List.find?_some search
  exact ⟨condition, List.mem_of_find?_eq_some search, beq_iff_eq.mp named, same⟩

/-- **The least query tells whether a guard covers another one**, if the filler is no value that it
asks for. -/
theorem covers_of_holds_leastQuery {filler : String} (fresh : filler ∉ general.values)
    (met : general.holds (guard.leastQuery filler) = true) : general.Covers guard := by
  intro condition member
  have asked := List.all_eq_true.mp met condition member
  cases condition with
  | equals key value =>
      obtain ⟨other, listed, named, same⟩ := exists_of_leastQuery (beq_iff_eq.mp asked)
      refine ⟨other, listed, .inl ?_⟩
      cases other with
      | equals otherKey asked => rw [← named, ← same]; rfl
      | present otherKey =>
          -- The value would be the filler.
          rw [← (same : filler = value)] at member
          exact absurd (value_mem_values member) fresh
  | present key =>
      obtain ⟨value, found⟩ := Option.isSome_iff_exists.mp asked
      obtain ⟨other, listed, named, _⟩ := exists_of_leastQuery found
      exact ⟨other, listed, .inr (congrArg Condition.present named.symm)⟩

private theorem exists_fresh (guards : List Guard) :
    ∃ filler, ∀ guard ∈ guards, filler ∉ guard.values := by
  obtain ⟨filler, fresh⟩ := Infinite.exists_notMem_finset (guards.flatMap values).toFinset
  rw [List.mem_toFinset, List.mem_flatMap, not_exists] at fresh
  exact ⟨filler, fun guard listed asked => fresh guard ⟨listed, asked⟩⟩

/-- **Nothing is taken together that is not taken alone.** A guard has a query that meets it and
none of some other guards, unless one of them covers it. -/
theorem exists_holds_iff (distinct : (guard.map Condition.key).Nodup) (others : List Guard) :
    (∃ query, guard.holds query = true ∧ ∀ other ∈ others, other.holds query = false) ↔
      ∀ other ∈ others, ¬ other.Covers guard := by
  constructor
  · rintro ⟨query, met, unmet⟩ other listed covers
    have taken := covers.holds met
    rw [unmet other listed] at taken
    cases taken
  · intro free
    obtain ⟨filler, fresh⟩ := exists_fresh others
    refine ⟨guard.leastQuery filler, holds_leastQuery distinct filler, ?_⟩
    intro other listed
    rw [← Bool.not_eq_true]
    intro met
    exact free other listed (covers_of_holds_leastQuery (fresh other listed) met)

/-- A guard covers another one exactly if it holds whenever that one does. -/
theorem covers_iff_forall_holds (distinct : (guard.map Condition.key).Nodup) :
    general.Covers guard ↔ ∀ query, guard.holds query = true → general.holds query = true := by
  constructor
  · intro covers query
    exact covers.holds
  · intro all
    obtain ⟨filler, fresh⟩ := exists_fresh [general]
    have met := all _ (holds_leastQuery distinct filler)
    exact covers_of_holds_leastQuery (fresh general List.mem_cons_self) met

section Width

variable (distinct : (general.map Condition.key).Nodup)
  (width : guard.length ≤ general.length) (covers : general.Covers guard)
include distinct width covers

/-- A guard that covers one with no more conditions asks for the same keys. -/
theorem Covers.map_key_perm : (general.map Condition.key).Perm (guard.map Condition.key) := by
  have subset : general.map Condition.key ⊆ guard.map Condition.key := by
    intro key named
    obtain ⟨condition, member, rfl⟩ := List.mem_map.mp named
    obtain ⟨other, listed, follows⟩ := covers condition member
    exact List.mem_map.mpr ⟨other, listed, follows.key_eq.symm⟩
  apply (List.subperm_of_subset distinct subset).perm_of_length_le
  rwa [List.length_map, List.length_map]

/-- It is the same guard in another order, or it asks somewhere for any value where the other asks
for one. -/
theorem Covers.perm_or_exists_present :
    general.Perm guard ∨
      ∃ key value, Condition.present key ∈ general ∧ Condition.equals key value ∈ guard := by
  by_cases subset : general ⊆ guard
  · have included := List.subperm_of_subset (List.Nodup.of_map _ distinct) subset
    exact .inl (included.perm_of_length_le width)
  · simp only [List.subset_def, not_forall] at subset
    obtain ⟨condition, member, foreign⟩ := subset
    obtain ⟨other, listed, rfl | rfl⟩ := covers condition member
    · exact absurd listed foreign
    · cases other with
      | equals key value => exact .inr ⟨key, value, member, listed⟩
      | present key => exact absurd listed foreign

end Width

end Guard

end ContentRouter
