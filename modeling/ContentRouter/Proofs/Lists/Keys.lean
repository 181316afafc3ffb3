import Mathlib.Data.List.Nodup

/-!
# Lists and their keys

Where no two elements have the same key, looking for a key finds the one element that has it, and
the place of an element is the place of its key. Two lists with the same keys have their elements in
one order.
-/

namespace ContentRouter

section LookUp

variable {α κ : Type} [DecidableEq κ] (key : α → κ)

/-- **A look-up by key** finds an element exactly if it is in the list and has the key. -/
theorem find?_key_eq_some_iff {elements : List α} (distinct : (elements.map key).Nodup) {k : κ}
    {a : α} : elements.find? (key · == k) = some a ↔ a ∈ elements ∧ key a = k := by
  constructor
  · intro found
    have matched := List.find?_some found
    exact ⟨List.mem_of_find?_eq_some found, beq_iff_eq.mp matched⟩
  · rintro ⟨member, rfl⟩
    cases found : elements.find? (key · == key a) with
    | none => exact absurd (beq_self_eq_true _) (List.find?_eq_none.mp found a member)
    | some first =>
        have matched := List.find?_some found
        rw [List.inj_on_of_nodup_map distinct (List.mem_of_find?_eq_some found) member
          (beq_iff_eq.mp matched)]

end LookUp

/-- Two lists with the same keys are images of each other if what has the same key is. -/
theorem eq_map_of_keys {α β κ : Type} (key : α → κ) (otherKey : β → κ) {f : β → α}
    {elements : List α} {others : List β} (keys : elements.map key = others.map otherKey)
    (fits : ∀ a ∈ elements, ∀ b ∈ others, key a = otherKey b → a = f b) :
    elements = others.map f := by
  induction others generalizing elements with
  | nil => exact List.map_eq_nil_iff.mp keys
  | cons b others ih =>
      obtain ⟨a, rest, rfl, first, further⟩ := List.map_eq_cons_iff.mp keys
      rw [List.map_cons, fits a List.mem_cons_self b List.mem_cons_self first, ih further]
      intro next member other otherMember
      exact fits next (List.mem_cons_of_mem _ member) other (List.mem_cons_of_mem _ otherMember)

section Places

variable {α β κ : Type} [DecidableEq κ]

/-- Numbering elements is looking up the places of their keys. -/
theorem map_zipIdx_of_nodup (key : α → κ) {elements : List α} (distinct : (elements.map key).Nodup)
    (f : α → Nat → β) :
    elements.zipIdx.map (fun (a, i) => f a i) =
      elements.map fun a => f a ((elements.map key).idxOf (key a)) := by
  apply List.ext_getElem
  · rw [List.length_map, List.length_map, List.length_zipIdx]
  · intro i _ bound
    rw [List.length_map] at bound
    have place := distinct.idxOf_getElem i (by rwa [List.length_map])
    rw [List.getElem_map] at place
    rw [List.getElem_map, List.getElem_map, List.getElem_zipIdx, place, Nat.zero_add]

/-- In a rising list the places rise as the elements do. -/
theorem idxOf_lt_idxOf_iff {measure : κ → Nat} {elements : List κ}
    (rises : elements.Pairwise (measure · < measure ·)) {a b : κ} (first : a ∈ elements)
    (second : b ∈ elements) :
    elements.idxOf a < elements.idxOf b ↔ measure a < measure b := by
  have ascends := List.pairwise_iff_getElem.mp rises
  have forward {c d : κ} (member : c ∈ elements) (otherMember : d ∈ elements)
      (before : elements.idxOf c < elements.idxOf d) : measure c < measure d := by
    have less := ascends _ _ (List.idxOf_lt_length_of_mem member)
      (List.idxOf_lt_length_of_mem otherMember) before
    rwa [List.getElem_idxOf, List.getElem_idxOf] at less
  constructor
  · exact forward first second
  · intro less
    rcases Nat.lt_trichotomy (elements.idxOf a) (elements.idxOf b) with before | same | after
    · exact before
    · rw [(List.idxOf_inj first).mp same] at less
      exact absurd less (Nat.lt_irrefl _)
    · exact absurd (forward second first after) (Nat.lt_asymm less)

end Places

end ContentRouter
