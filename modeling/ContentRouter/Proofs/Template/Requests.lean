import ContentRouter.Proofs.Lists.Keys
import ContentRouter.Proofs.Source.Switch
import ContentRouter.Proofs.Template.FullEquality

/-!
# Full equality and requests

Full equality compares the query pairs of two models in one direction only. On built models this is
comparing requests: two of them are fully equal exactly if they are structurally equal and the same
queries meet their guards (`Model.fullyEquals_law`).

What tells two guards apart is the *least query* of one of them. It has a parameter for every
condition of the guard and for nothing else, and where any value will do it has a filler. A guard
that the least query of another one meets asks for no other key; and if it asks for a value, this
cannot be the filler for two different fillers, so that the other guard asks for the same value.
-/

namespace ContentRouter

namespace Condition

/-- The key of the parameter that a condition is about. -/
def key : Condition → String
  | .equals key _ => key
  | .present key => key

/-- A value that meets a condition: the one that it asks for, or a filler if any will do. -/
def valueOr (filler : String) : Condition → String
  | .equals _ value => value
  | .present _ => filler

/-- A condition asks for the key of its pair. -/
@[simp]
theorem key_ofPair (pair : QueryPair) : (ofPair pair).key = pair.key := by
  obtain ⟨key, value⟩ := pair
  cases value <;> rfl

private theorem holds_of_eq_valueOr {query : String → Option String} {condition : Condition}
    {filler : String} (found : query condition.key = some (condition.valueOr filler)) :
    condition.holds query = true := by
  cases condition with
  | equals key value => exact beq_iff_eq.mpr found
  | present key => exact Option.isSome_iff_exists.mpr ⟨filler, found⟩

end Condition

namespace Guard

/-- The query that has what a guard asks for and nothing else. -/
def leastQuery (guard : Guard) (filler : String) (key : String) : Option String :=
  (guard.find? (·.key == key)).map (·.valueOr filler)

section Least

variable {guard other : Guard}

/-- The least query has a value for every condition, if the guard has no key twice. -/
theorem leastQuery_key (distinct : (guard.map Condition.key).Nodup) {condition : Condition}
    (member : condition ∈ guard) (filler : String) :
    guard.leastQuery filler condition.key = some (condition.valueOr filler) := by
  rw [leastQuery, (find?_key_eq_some_iff Condition.key distinct).mpr ⟨member, rfl⟩,
    Option.map_some]

/-- The least query of a guard meets it. -/
theorem holds_leastQuery (distinct : (guard.map Condition.key).Nodup) (filler : String) :
    guard.holds (guard.leastQuery filler) = true := by
  apply List.all_eq_true.mpr
  intro condition member
  exact Condition.holds_of_eq_valueOr (leastQuery_key distinct member filler)

/-- A value that the least query has whatever the filler is one that the guard asks for. -/
theorem equals_mem_of_leastQuery {key value : String}
    (found : ∀ filler, guard.leastQuery filler key = some value) :
    Condition.equals key value ∈ guard := by
  have empty := found ""
  have blank := found " "
  unfold leastQuery at empty blank
  cases first : guard.find? (·.key == key) with
  | none =>
      rw [first] at empty
      cases empty
  | some condition =>
      rw [first, Option.map_some, Option.some.injEq] at empty blank
      have same := List.find?_some first
      cases condition with
      | equals other asked =>
          rw [← (beq_iff_eq.mp same : other = key), ← (empty : asked = value)]
          exact List.mem_of_find?_eq_some first
      | present other =>
          -- Here the value is the filler, and it cannot be both.
          have fillers : "" = " " := Eq.trans empty blank.symm
          exact absurd fillers (by decide)

/-- A guard that the least queries of another one meet asks for no value but those that the other
asks for. -/
theorem equals_mem_of_holds (met : ∀ filler, other.holds (guard.leastQuery filler) = true)
    {key value : String} (member : Condition.equals key value ∈ other) :
    Condition.equals key value ∈ guard := by
  apply equals_mem_of_leastQuery
  intro filler
  have asked := List.all_eq_true.mp (met filler) _ member
  exact beq_iff_eq.mp asked

/-- A guard that is met by the same queries as another one asks for nothing but what the other asks
for. -/
theorem subset_of_holds_eq (distinct : (guard.map Condition.key).Nodup)
    (otherDistinct : (other.map Condition.key).Nodup)
    (same : ∀ query, guard.holds query = other.holds query) : other ⊆ guard := by
  have met (filler : String) : other.holds (guard.leastQuery filler) = true := by
    rw [← same, holds_leastQuery distinct]
  have metBack (filler : String) : guard.holds (other.leastQuery filler) = true := by
    rw [same, holds_leastQuery otherDistinct]
  intro condition member
  cases condition with
  | equals key value => exact equals_mem_of_holds met member
  | present key =>
      have asked := List.all_eq_true.mp (met "") _ member
      obtain ⟨value, found⟩ := Option.isSome_iff_exists.mp asked
      obtain ⟨first, search, _⟩ := Option.map_eq_some_iff.mp found
      have inside := List.mem_of_find?_eq_some search
      have named : first.key = key := beq_iff_eq.mp (List.find?_some search :)
      cases first with
      | present found =>
          rwa [← (named : found = key)]
      | equals found value =>
          -- A value that the guard asks for the other would ask for as well, under its one key.
          have back := equals_mem_of_holds metBack inside
          have clash := List.inj_on_of_nodup_map otherDistinct back member named
          cases clash

/-- **The same queries meet two guards exactly if one is a permutation of the other.** -/
theorem holds_eq_iff_perm (distinct : (guard.map Condition.key).Nodup)
    (otherDistinct : (other.map Condition.key).Nodup) :
    (∀ query, guard.holds query = other.holds query) ↔ guard.Perm other := by
  constructor
  · intro same
    rw [List.perm_ext_iff_of_nodup (List.Nodup.of_map _ distinct)
      (List.Nodup.of_map _ otherDistinct)]
    intro condition
    have back (query : String → Option String) : other.holds query = guard.holds query :=
      (same query).symm
    exact ⟨@subset_of_holds_eq other guard otherDistinct distinct back condition,
      @subset_of_holds_eq guard other distinct otherDistinct same condition⟩
  · intro perm query
    exact perm.all_eq

end Least

end Guard

namespace Model

/-- The guard of a model asks for every key once. -/
theorem IsBuilt.guard_keys_nodup {model : Model} (built : model.IsBuilt) :
    (model.guard.map Condition.key).Nodup := by
  have keys := built.keys_nodup
  rw [guard, Guard.ofPairs, List.map_map]
  simpa only [Function.comp_def, Condition.key_ofPair] using keys

/-- Built models are fully equal exactly if they are structurally equal and the same queries meet
their guards. -/
theorem fullyEquals_iff_holds_eq {model other : Model} (built : model.IsBuilt)
    (otherBuilt : other.IsBuilt) :
    model.fullyEquals other = true ↔
      model.structurallyEquals other = true ∧
        ∀ query, model.guard.holds query = other.guard.holds query := by
  rw [fullyEquals_iff_perm built, structurallyEquals_iff,
    Guard.holds_eq_iff_perm built.guard_keys_nodup otherBuilt.guard_keys_nodup]

private theorem fullyEquals_self {model : Model} (built : model.IsBuilt) :
    model.fullyEquals model = true :=
  (fullyEquals_iff_perm built).mpr ⟨rfl, List.Perm.refl _⟩

/-- Full equality is transitive among models of templates. -/
theorem fullyEquals_trans {first second third : Model} (firstBuilt : first.IsBuilt)
    (secondBuilt : second.IsBuilt) (left : first.fullyEquals second = true)
    (right : second.fullyEquals third = true) : first.fullyEquals third = true := by
  obtain ⟨address, perm⟩ := (fullyEquals_iff_perm firstBuilt).mp left
  obtain ⟨nextAddress, nextPerm⟩ := (fullyEquals_iff_perm secondBuilt).mp right
  exact (fullyEquals_iff_perm firstBuilt).mpr
    ⟨address.trans nextAddress, perm.trans nextPerm⟩

/-- **Full equality is equality of requests.** Two built models are fully equal exactly if they are
structurally equal and every query meets the guard of the one if it meets the guard of the other,
where meeting the guard is what decides whether a router makes the call. So full equality, which
compares lengths and looks for the pairs of one model among those of the other only, is an
equivalence of built models. -/
theorem fullyEquals_law (model other : Model) (built : model.IsBuilt) (otherBuilt : other.IsBuilt) :
    (model.fullyEquals other = true ↔
      model.structurallyEquals other = true ∧
        ∀ query, model.guard.holds query = other.guard.holds query) ∧
    (∀ types delegate query,
      (Source.callOf types ⟨model, delegate⟩).isMade query = model.guard.holds query) ∧
    Equivalence fun first second : { model : Model // model.IsBuilt } =>
      first.1.fullyEquals second.1 = true := by
  refine ⟨fullyEquals_iff_holds_eq built otherBuilt, ?_, ?_, ?_, ?_⟩
  · intro types delegate query
    rw [Source.isMade_callOf, Route.isMetBy, guard, Guard.holds_ofPairs]
  · intro first
    exact fullyEquals_self first.2
  · intro first second full
    rwa [fullyEquals_comm second.2 first.2]
  · intro first second third left right
    exact fullyEquals_trans first.2 second.2 left right

/-- Two templates that differ in the order of their pairs and the name of a placeholder ask for the
same, and one that swaps what is fixed and what is free does not. -/
theorem fullyEquals_law_of_three :
    let search (text : String) (query : List QueryPair) (placeholder : Placeholder) : Model :=
      { text, authority := "a", normalizedPath := "/n",
        template := ⟨[.literal "n"], query, [placeholder]⟩ }
    let first := search "n?k=1&l={x}" [⟨"k", .literal "1"⟩, ⟨"l", .placeholder "x"⟩]
      ⟨"x", .parameter "l"⟩
    let second := search "n?l={y}&k=1" [⟨"l", .placeholder "y"⟩, ⟨"k", .literal "1"⟩]
      ⟨"y", .parameter "l"⟩
    let third := search "n?k={z}&l=1" [⟨"k", .placeholder "z"⟩, ⟨"l", .literal "1"⟩]
      ⟨"z", .parameter "k"⟩
    first.IsBuilt ∧ second.IsBuilt ∧ third.IsBuilt ∧
      (∀ query, first.guard.holds query = second.guard.holds query) ∧
      ¬ ∀ query, first.guard.holds query = third.guard.holds query := by
  intro search first second third
  have firstBuilt : first.IsBuilt := ⟨"content", "*", "a", "n?k=1&l=\x7bx\x7d", rfl⟩
  have secondBuilt : second.IsBuilt := ⟨"content", "*", "a", "n?l=\x7by\x7d&k=1", rfl⟩
  have thirdBuilt : third.IsBuilt := ⟨"content", "*", "a", "n?k=\x7bz\x7d&l=1", rfl⟩
  refine ⟨firstBuilt, secondBuilt, thirdBuilt, ?_, ?_⟩
  · have full : first.fullyEquals second = true := by decide
    exact ((fullyEquals_law first second firstBuilt secondBuilt).1.mp full).2
  · intro same
    have full := (fullyEquals_law first third firstBuilt thirdBuilt).1.mpr ⟨by decide, same⟩
    exact absurd full (by decide)

end Model

end ContentRouter
