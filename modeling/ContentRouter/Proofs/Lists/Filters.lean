import Mathlib.Data.List.Nodup
import Mathlib.Data.List.Perm.Subperm

/-!
# Filtered lists

What a filter leaves of a list, where the list is told by its parts: by a sublist, by the one
element that is selected, or by the groups of its keys.
-/

namespace ContentRouter

/-- A part of a list without repetitions is what a filter leaves that keeps just its elements. -/
theorem filter_eq_of_sublist {α : Type} {keep : α → Bool} {part elements : List α}
    (inside : part.Sublist elements) (distinct : elements.Nodup)
    (kept : ∀ a ∈ elements, keep a = true ↔ a ∈ part) : elements.filter keep = part := by
  have all : part.filter keep = part := by
    apply List.filter_eq_self.mpr
    intro a member
    exact (kept a (inside.subset member)).mpr member
  have covered : elements.filter keep ⊆ part := by
    intro a member
    obtain ⟨listed, passed⟩ := List.mem_filter.mp member
    exact (kept a listed).mp passed
  have shared := inside.filter keep
  rw [all] at shared
  exact (shared.eq_of_length_le
    ((distinct.filter keep).subperm covered).length_le).symm

/-- Behind a filter that keeps all of its elements, a filter keeps what it keeps anyway. -/
theorem filter_filter_of_imp {α : Type} {keep narrower : α → Bool} {elements : List α}
    (implies : ∀ a ∈ elements, narrower a = true → keep a = true) :
    (elements.filter keep).filter narrower = elements.filter narrower := by
  rw [List.filter_comm, List.filter_eq_self]
  intro a kept
  obtain ⟨member, selected⟩ := List.mem_filter.mp kept
  exact implies a member selected

/-- Where no two elements are selected, one that is selected is the only one. -/
theorem filter_eq_singleton {α : Type} {p : α → Bool} {elements : List α} {a : α}
    (apart : elements.Pairwise fun first second => p first = true → p second = false)
    (member : a ∈ elements) (selected : p a = true) : elements.filter p = [a] := by
  obtain ⟨before, after, rfl⟩ := List.append_of_mem member
  obtain ⟨_, later, earlier⟩ := List.pairwise_append.mp apart
  have noneBefore : before.filter p = [] := by
    apply List.filter_eq_nil_iff.mpr
    intro other inside taken
    have dropped := earlier other inside a List.mem_cons_self taken
    rw [selected] at dropped
    cases dropped
  have noneAfter : after.filter p = [] := by
    apply List.filter_eq_nil_iff.mpr
    intro other inside taken
    rw [(List.pairwise_cons.mp later).1 other inside selected] at taken
    cases taken
  rw [List.filter_append, List.filter_cons_of_pos selected, noneBefore, noneAfter, List.nil_append]

/-- Where no two elements have the same key, an element is the only one with its key. -/
theorem filter_key_eq_singleton {α κ : Type} [DecidableEq κ] (key : α → κ) {elements : List α}
    (distinct : (elements.map key).Nodup) {a : α} (member : a ∈ elements) :
    elements.filter (key · == key a) = [a] := by
  refine filter_eq_singleton ((List.pairwise_map.mp distinct).imp ?_) member (beq_self_eq_true _)
  intro first second apart selected
  rw [beq_eq_false_iff_ne, ← beq_iff_eq.mp selected]
  exact apart.symm

/-- What a filter keeps moves up by what it drops before. -/
theorem getElem?_filter_countP {α : Type} {keep : α → Bool} {elements : List α} {i : Nat} {a : α}
    (found : elements[i]? = some a) (kept : keep a = true) :
    (elements.filter keep)[(elements.take i).countP keep]? = some a := by
  obtain ⟨inside, rfl⟩ := List.getElem?_eq_some_iff.mp found
  have split : elements.filter keep =
      (elements.take i).filter keep ++ elements[i] :: (elements.drop (i + 1)).filter keep := by
    rw [← List.filter_cons_of_pos kept, ← List.drop_eq_getElem_cons inside, ← List.filter_append,
      List.take_append_drop]
  rw [split, List.countP_eq_length_filter, List.getElem?_append_right (Nat.le_refl _),
    Nat.sub_self, List.getElem?_cons_zero]

/-- What is made of some elements stands in their order. -/
theorem map_filterMap_sublist {α β κ : Type} {make : α → Option β} {key : α → κ} {madeKey : β → κ}
    (kept : ∀ a b, make a = some b → madeKey b = key a) (elements : List α) :
    ((elements.filterMap make).map madeKey).Sublist (elements.map key) := by
  induction elements with
  | nil => exact List.Sublist.refl []
  | cons a rest ih =>
      cases made : make a with
      | none =>
          rw [List.filterMap_cons_none made]
          exact ih.cons _
      | some b =>
          rw [List.filterMap_cons_some made, List.map_cons, kept a b made]
          exact ih.cons_cons _

/-- What is collected from elements that have nothing may be left out. -/
theorem flatMap_filter_of_nil {α β : Type} {keep : α → Bool} {collect : α → List β}
    (nothing : ∀ a, keep a = false → collect a = []) (elements : List α) :
    (elements.filter keep).flatMap collect = elements.flatMap collect := by
  induction elements with
  | nil => rfl
  | cons a rest ih =>
      cases kept : keep a with
      | true => rw [List.filter_cons_of_pos kept, List.flatMap_cons, List.flatMap_cons, ih]
      | false =>
          rw [List.filter_cons_of_neg (Bool.not_eq_true _ ▸ kept), List.flatMap_cons,
            nothing a kept, List.nil_append, ih]

/-- What is collected from the elements that are kept is what is kept of all that is collected. -/
theorem flatMap_filter_of_forall {α β : Type} {keep : α → Bool} {kept : β → Bool}
    {collect : α → List β} (agree : ∀ a, ∀ b ∈ collect a, kept b = keep a) (elements : List α) :
    (elements.filter keep).flatMap collect = (elements.flatMap collect).filter kept := by
  induction elements with
  | nil => rfl
  | cons a rest ih =>
      rw [List.flatMap_cons, List.filter_append, ← ih]
      cases own : keep a with
      | true =>
          have all : (collect a).filter kept = collect a :=
            List.filter_eq_self.mpr fun b inside => (agree a b inside).trans own
          rw [List.filter_cons_of_pos own, List.flatMap_cons, all]
      | false =>
          have none : (collect a).filter kept = [] := by
            apply List.filter_eq_nil_iff.mpr
            intro b inside
            rw [agree a b inside, own]
            exact Bool.false_ne_true
          rw [List.filter_cons_of_neg (Bool.not_eq_true _ ▸ own), none, List.nil_append]

/-- Elements grouped by their key are the same elements. -/
theorem flatMap_filter_perm {α κ : Type} [DecidableEq κ] (key : α → κ) {keys : List κ}
    (nodup : keys.Nodup) {elements : List α} (covered : ∀ a ∈ elements, key a ∈ keys) :
    (keys.flatMap fun k => elements.filter (key · = k)).Perm elements := by
  induction keys generalizing elements with
  | nil =>
      cases elements with
      | nil => exact List.Perm.refl _
      | cons a rest => exact absurd (covered a List.mem_cons_self) List.not_mem_nil
  | cons k others ih =>
      obtain ⟨fresh, nodup⟩ := List.nodup_cons.mp nodup
      -- The elements with other keys are grouped by the other keys.
      let rest := elements.filter fun a => !decide (key a = k)
      have left : (others.flatMap fun other => elements.filter (key · = other)) =
          others.flatMap fun other => rest.filter (key · = other) := by
        refine List.flatMap_congr ?_
        intro other member
        rw [List.filter_filter]
        refine List.filter_congr ?_
        intro a _
        by_cases same : key a = other
        · have apart : ¬ key a = k := by
            intro found
            exact fresh (found ▸ same ▸ member)
          rw [decide_eq_false apart, Bool.not_false, Bool.and_true]
        · rw [decide_eq_false same, Bool.false_and]
      have inside : ∀ a ∈ rest, key a ∈ others := by
        intro a member
        obtain ⟨present, apart⟩ := List.mem_filter.mp member
        rcases List.mem_cons.mp (covered a present) with same | found
        · simp [same] at apart
        · exact found
      rw [List.flatMap_cons, left]
      exact ((ih nodup inside).append_left _).trans (List.filter_append_perm _ _)

end ContentRouter
