import Mathlib.Data.List.Forall2
import ContentRouter.Proofs.Source.Literal
import ContentRouter.Proofs.Source.Switch
import ContentRouter.Proofs.Template.FullEquality

/-!
# Texts of guards

A guard is written as an expression in which keys and values of a template stand as literals. A
condition ends where its text says so, whatever stands behind it, because its literals do
(`Condition.text_append_inj`). So two guards with one text are one guard
(`Guard.text_injective`): nothing that a template has inside its quotes can be taken for the end of
a condition or for another one.
-/

namespace ContentRouter

namespace Condition

private theorem text_equals (key value : String) :
    (equals key value).text =
      Source.literal value ++ ".equals(" ++
        ("uri.getQueryParameter(" ++ Source.literal key ++ ")") ++ ")" := rfl

private theorem text_present (key : String) :
    (present key).text = "uri.getQueryParameter(" ++ Source.literal key ++ ")" ++ " != null" := rfl

/-- A condition on a value begins with a quote, and one on presence with a call. -/
theorem text_equals_append_ne (key value rest otherKey otherRest : String) :
    (equals key value).text ++ rest ≠ (present otherKey).text ++ otherRest := by
  have call (rest : String) : ("uri.getQueryParameter(" ++ rest).toList =
      'u' :: ("ri.getQueryParameter(".toList ++ rest.toList) := by
    rw [String.toList_append]
    rfl
  intro same
  simp only [text_equals, text_present, String.append_assoc] at same
  rw [← String.toList_inj, Source.toList_literal_append, call] at same
  exact absurd (List.cons.inj same).1 (by decide)

/-- **No two expressions begin with different conditions.** -/
theorem text_append_inj {condition other : Condition} {rest otherRest : String}
    (same : condition.text ++ rest = other.text ++ otherRest) :
    condition = other ∧ rest = otherRest := by
  cases condition with
  | equals key value =>
      cases other with
      | equals otherKey otherValue =>
          simp only [text_equals, String.append_assoc] at same
          obtain ⟨sameValue, call⟩ := Source.literal_append_inj same
          simp only [String.append_right_inj] at call
          obtain ⟨sameKey, behind⟩ := Source.literal_append_inj call
          simp only [String.append_right_inj] at behind
          rw [sameValue, sameKey]
          exact ⟨rfl, behind⟩
      | present otherKey => exact absurd same (text_equals_append_ne _ _ _ _ _)
  | present key =>
      cases other with
      | equals otherKey otherValue => exact absurd same.symm (text_equals_append_ne _ _ _ _ _)
      | present otherKey =>
          simp only [text_present, String.append_assoc, String.append_right_inj] at same
          obtain ⟨sameKey, behind⟩ := Source.literal_append_inj same
          simp only [String.append_right_inj] at behind
          rw [sameKey]
          exact ⟨rfl, behind⟩

end Condition

namespace Guard

/-- What a guard has behind its first condition. -/
def textBehind (rest : Guard) : String :=
  if rest = [] then "" else " && " ++ text rest

private theorem text_cons (condition : Condition) (rest : Guard) :
    text (condition :: rest) = condition.text ++ textBehind rest := by
  cases rest with
  | nil => exact String.append_empty.symm
  | cons next others =>
      rw [textBehind, if_neg (List.cons_ne_nil next others), ← String.append_assoc]
      rfl

private theorem text_eq_empty_iff (guard : Guard) : guard.text = "" ↔ guard = [] := by
  rw [← String.isEmpty_iff, isEmpty_text, List.isEmpty_iff]

/-- **A guard is determined by its text.** -/
theorem text_injective : Function.Injective text := by
  intro guard other same
  induction guard generalizing other with
  | nil => exact ((text_eq_empty_iff other).mp same.symm).symm
  | cons condition rest ih =>
      cases other with
      | nil => exact (text_eq_empty_iff _).mp same
      | cons otherCondition otherRest =>
          rw [text_cons, text_cons] at same
          obtain ⟨sameCondition, behind⟩ := Condition.text_append_inj same
          have sameRest : rest = otherRest := by
            unfold textBehind at behind
            split at behind <;> split at behind
            · rename_i none otherNone
              rw [none, otherNone]
            · exact absurd (String.append_eq_empty_iff.mp behind.symm).1 (by decide)
            · exact absurd (String.append_eq_empty_iff.mp behind).1 (by decide)
            · exact ih ((String.append_right_inj _).mp behind)
          rw [sameCondition, sameRest]

end Guard

/-- **What the text of a guard tells of the pairs that it was written for.** -/
structure GuardTextLaw (pairs others : List QueryPair) : Prop where
  /-- Two lists of pairs have one text exactly if they have equally many pairs, and at every place
  the same key with the same literal, or with a placeholder in both. -/
  same : (Guard.ofPairs pairs).text = (Guard.ofPairs others).text ↔
    List.Forall₂ (fun pair other => pair.key = other.key ∧ pair.value.agrees other.value = true)
      pairs others
  /-- Only the empty list asks for nothing. -/
  empty : (Guard.ofPairs pairs).text = "" ↔ pairs = []

/-- **The text of a guard determines the guard**, for all keys and all values. -/
theorem guardText_law (pairs others : List QueryPair) : GuardTextLaw pairs others where
  same := by
    rw [Guard.text_injective.eq_iff, Guard.ofPairs, Guard.ofPairs, ← List.forall₂_eq_eq_eq,
      List.forall₂_map_left_iff, List.forall₂_map_right_iff]
    simp only [Condition.ofPair_eq_iff]
  empty := by rw [Guard.text_eq_empty_iff, Guard.ofPairs, List.map_eq_nil_iff]

/-- A value that reads like the end of its condition and a further one. -/
example : (Guard.ofPairs [⟨"k", .literal "a\".equals(x) && \"b"⟩]).text =
    "\"a\\\".equals(x) && \\\"b\".equals(uri.getQueryParameter(\"k\"))" := by
  decide

end ContentRouter
