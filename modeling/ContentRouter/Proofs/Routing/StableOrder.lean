import ContentRouter.Routing.Registry

/-!
# The order of the entries of a bucket

Placing entries one after the other is stable sorting: whatever entries a bucket has taken in, it
keeps them by falling number of query pairs, and those with equally many pairs in the order in which
they came (`Bucket.place_inOrder`). A list in falling order is determined by what it has of each
number of pairs (`eq_of_falling_of_filter_eq`), so that it is enough to compare ties.
-/

namespace ContentRouter

section Falling

variable {α : Type} (key : α → Nat)

/-- **Falling lists are determined by their ties.** Two lists in falling order of a key are equal if
they have the same elements of each key in the same order. -/
theorem eq_of_falling_of_filter_eq {first second : List α}
    (firstFalls : first.Pairwise fun a b => key b ≤ key a)
    (secondFalls : second.Pairwise fun a b => key b ≤ key a)
    (ties : ∀ n, first.filter (key · = n) = second.filter (key · = n)) : first = second := by
  -- Lists with the same ties have the same elements.
  have members (a : α) : a ∈ first ↔ a ∈ second := by
    have tie := congrArg (a ∈ ·) (ties (key a))
    simpa only [List.mem_filter, decide_true, and_true, eq_iff_iff] using tie
  induction first generalizing second with
  | nil =>
      cases second with
      | nil => rfl
      | cons b rest => exact absurd ((members b).mpr List.mem_cons_self) List.not_mem_nil
  | cons a rest ih =>
      cases second with
      | nil => exact absurd ((members a).mp List.mem_cons_self) List.not_mem_nil
      | cons b others =>
          -- Each first element is greatest in both lists, so the two are the first ones of one key.
          have firstMost := List.pairwise_cons.mp firstFalls
          have secondMost := List.pairwise_cons.mp secondFalls
          have below : key a ≤ key b := by
            rcases List.mem_cons.mp ((members a).mp List.mem_cons_self) with rfl | later
            · exact Nat.le_refl _
            · exact secondMost.1 a later
          have above : key b ≤ key a := by
            rcases List.mem_cons.mp ((members b).mpr List.mem_cons_self) with rfl | later
            · exact Nat.le_refl _
            · exact firstMost.1 b later
          have level : key b = key a := Nat.le_antisymm above below
          have heads := ties (key a)
          simp only [List.filter_cons, level, decide_true, ↓reduceIte, List.cons.injEq] at heads
          obtain ⟨rfl, _⟩ := heads
          have tails (n : Nat) : rest.filter (key · = n) = others.filter (key · = n) := by
            have tie := ties n
            simp only [List.filter_cons] at tie
            split at tie
            · exact (List.cons.inj tie).2
            · exact tie
          rw [ih firstMost.2 secondMost.2 tails]
          intro c
          have tie := congrArg (c ∈ ·) (tails (key c))
          simpa only [List.mem_filter, decide_true, and_true, eq_iff_iff] using tie

private theorem falling_trans (a b c : α) (first : decide (key b ≤ key a) = true)
    (second : decide (key c ≤ key b) = true) : decide (key c ≤ key a) = true :=
  decide_eq_true (Nat.le_trans (of_decide_eq_true second) (of_decide_eq_true first))

private theorem falling_total (a b : α) :
    (decide (key b ≤ key a) || decide (key a ≤ key b)) = true := by
  simpa only [Bool.or_eq_true, decide_eq_true_eq] using Nat.le_total (key b) (key a)

private theorem mergeSort_falls (elements : List α) :
    (elements.mergeSort fun a b => key b ≤ key a).Pairwise fun a b => key b ≤ key a := by
  have sorted := @List.pairwise_mergeSort α (fun a b => key b ≤ key a) (falling_trans key)
    (falling_total key) elements
  exact sorted.imp of_decide_eq_true

/-- Merge sort by a falling key keeps ties in their order. -/
theorem filter_mergeSort (elements : List α) (n : Nat) :
    (elements.mergeSort fun a b => key b ≤ key a).filter (key · = n) =
      elements.filter (key · = n) := by
  have tied : (elements.filter (key · = n)).Pairwise fun a b => decide (key b ≤ key a) = true := by
    refine List.pairwise_of_forall_mem_list ?_
    intro a first b second
    rw [List.mem_filter, decide_eq_true_eq] at first second
    exact decide_eq_true (Nat.le_of_eq (second.2.trans first.2.symm))
  have kept := List.sublist_mergeSort (falling_trans key) (falling_total key) tied
    List.filter_sublist
  have inside := kept.filter (key · = n)
  rw [List.filter_filter] at inside
  simp only [Bool.and_self] at inside
  refine (inside.eq_of_length ?_).symm
  exact (((List.mergeSort_perm elements _).filter _).length_eq).symm

end Falling

namespace Bucket

variable (entry : Registration) (entries : List Registration)

/-- Entries by falling number of query pairs, with ties in the given order. -/
def inOrder : List Registration :=
  entries.mergeSort fun first second => second.model.queryCount ≤ first.model.queryCount

/-- Nothing to be put in order. -/
@[simp]
theorem inOrder_nil : inOrder [] = [] := List.mergeSort_nil

/-- Putting entries in order only rearranges them. -/
theorem inOrder_perm : (inOrder entries).Perm entries := List.mergeSort_perm entries _

/-- In order, entries with more query pairs come first. -/
theorem inOrder_falls :
    (inOrder entries).Pairwise fun first second =>
      second.model.queryCount ≤ first.model.queryCount :=
  mergeSort_falls (·.model.queryCount) entries

/-- Entries with equally many query pairs keep their order. -/
theorem filter_inOrder (n : Nat) :
    (inOrder entries).filter (·.model.queryCount = n) =
      entries.filter (·.model.queryCount = n) :=
  filter_mergeSort (·.model.queryCount) entries n

private theorem place_perm : (place entry entries).Perm (entry :: entries) := by
  induction entries with
  | nil => exact List.Perm.refl _
  | cons existing rest ih =>
      unfold place
      split
      · exact List.Perm.refl _
      · exact (ih.cons existing).trans (List.Perm.swap entry existing rest)

/-- Placing an entry adds it and nothing else. -/
theorem mem_place (other : Registration) :
    other ∈ place entry entries ↔ other = entry ∨ other ∈ entries :=
  (place_perm entry entries).mem_iff.trans List.mem_cons

variable {entries} in
/-- Placing an entry keeps the order of falling numbers of query pairs. -/
theorem place_falls
    (falls : entries.Pairwise fun first second =>
      second.model.queryCount ≤ first.model.queryCount) :
    (place entry entries).Pairwise fun first second =>
      second.model.queryCount ≤ first.model.queryCount := by
  induction entries with
  | nil => exact List.pairwise_singleton _ _
  | cons existing rest ih =>
      have ⟨most, later⟩ := List.pairwise_cons.mp falls
      unfold place
      split
      · rename_i fewer
        refine List.pairwise_cons.mpr ⟨?_, falls⟩
        intro other member
        rcases List.mem_cons.mp member with rfl | member
        · exact Nat.le_of_lt fewer
        · exact Nat.le_trans (most other member) (Nat.le_of_lt fewer)
      · rename_i enough
        refine List.pairwise_cons.mpr ⟨?_, ih later⟩
        intro other member
        rcases (mem_place entry rest other).mp member with rfl | member
        · exact Nat.le_of_not_lt enough
        · exact most other member

variable {entries} in
/-- An entry is placed behind all those that have as many query pairs. -/
theorem filter_place (n : Nat)
    (falls : entries.Pairwise fun first second =>
      second.model.queryCount ≤ first.model.queryCount) :
    (place entry entries).filter (·.model.queryCount = n) =
      (entries ++ [entry]).filter (·.model.queryCount = n) := by
  induction entries with
  | nil => rfl
  | cons existing rest ih =>
      have ⟨most, later⟩ := List.pairwise_cons.mp falls
      unfold place
      split
      · rename_i fewer
        by_cases tied : entry.model.queryCount = n
        · -- All that follows has fewer pairs, so nothing of it is tied with the entry.
          have none : (existing :: rest).filter (·.model.queryCount = n) = [] := by
            refine List.filter_eq_nil_iff.mpr ?_
            intro other member
            have bound : other.model.queryCount ≤ existing.model.queryCount := by
              rcases List.mem_cons.mp member with rfl | member
              · exact Nat.le_refl _
              · exact most other member
            simp only [decide_eq_true_eq]
            omega
          simp only [List.filter_append, List.filter_cons, none, tied, decide_true, ↓reduceIte,
            List.filter_nil, List.nil_append]
        · simp only [List.filter_append, List.filter_cons, tied, decide_false, Bool.false_eq_true,
            ↓reduceIte, List.filter_nil, List.append_nil]
      · rw [List.cons_append, List.filter_cons, List.filter_cons, ih later]

/-- **Placing an entry among sorted ones is sorting all of them**, the entry last. -/
theorem place_inOrder : place entry (inOrder entries) = inOrder (entries ++ [entry]) := by
  refine eq_of_falling_of_filter_eq (·.model.queryCount)
    (place_falls entry (inOrder_falls entries)) (inOrder_falls _) ?_
  intro n
  rw [filter_place entry n (inOrder_falls entries), filter_inOrder, List.filter_append,
    List.filter_append, filter_inOrder]

end Bucket

end ContentRouter
