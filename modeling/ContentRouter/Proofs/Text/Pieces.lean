import Mathlib.Data.List.Basic
import ContentRouter.Text.Pieces

/-!
# Cutting and joining

`Text.pieces` is the library's `List.splitOn` on the characters of a text, and `Text.joinWith` is
`List.intercalate`. So joining the pieces of a text restores it (`Text.joinWith_pieces`), and
cutting a join gives back what was joined, as long as nothing that was joined contains the separator
(`Text.pieces_joinWith`).
-/

namespace ContentRouter

namespace Text

private theorem splitChars_eq_splitOn (sep : Char) (chars : List Char) :
    splitChars sep chars = chars.splitOn sep := by
  induction chars with
  | nil => rfl
  | cons c rest ih =>
      rw [splitChars, List.splitOn_cons_eq_if_modifyHead, ih]
      simp only [beq_iff_eq]
      split
      · rfl
      · cases cut : rest.splitOn sep with
        | nil => exact absurd cut (List.splitOn_ne_nil sep rest)
        | cons piece others => rfl

private theorem not_mem_of_mem_splitOn {sep : Char} {chars piece : List Char}
    (member : piece ∈ chars.splitOn sep) : sep ∉ piece := by
  induction chars generalizing piece with
  | nil =>
      rw [List.splitOn_nil, List.mem_singleton] at member
      simp [member]
  | cons c rest ih =>
      obtain ⟨first, others, cut⟩ := List.exists_cons_of_ne_nil (List.splitOn_ne_nil sep rest)
      rw [List.splitOn_cons_eq_if_modifyHead, cut] at member
      rw [cut] at ih
      by_cases same : c = sep
      · simp only [same, beq_self_eq_true, ↓reduceIte, List.mem_cons] at member
        rcases member with rfl | later
        · exact List.not_mem_nil
        · exact ih (List.mem_cons.mpr later)
      · simp only [beq_iff_eq, same, ↓reduceIte, List.modifyHead_cons, List.mem_cons] at member
        rcases member with rfl | later
        · have clean := ih List.mem_cons_self
          simp [clean, Ne.symm same]
        · exact ih (List.mem_cons_of_mem _ later)

private theorem toList_joinWith (sep : String) (texts : List String) :
    (joinWith sep texts).toList = sep.toList.intercalate (texts.map String.toList) := by
  induction texts with
  | nil => rfl
  | cons text rest ih =>
      cases rest with
      | nil => simp [joinWith]
      | cons next others =>
          rw [joinWith, String.toList_append, String.toList_append, ih]
          simp only [List.map_cons, List.intercalate_cons_cons]

/-- What is joined has the characters of the texts and those of the separator. -/
theorem mem_of_mem_joinWith {sep : String} {texts : List String} {c : Char}
    (member : c ∈ (joinWith sep texts).toList) :
    c ∈ sep.toList ∨ ∃ text ∈ texts, c ∈ text.toList := by
  induction texts with
  | nil => exact absurd member (by simp [joinWith])
  | cons text rest ih =>
      cases rest with
      | nil => exact .inr ⟨text, List.mem_cons_self, member⟩
      | cons next others =>
          rw [joinWith, String.toList_append, String.toList_append] at member
          rcases List.mem_append.mp member with first | later
          · rcases List.mem_append.mp first with own | between
            · exact .inr ⟨text, List.mem_cons_self, own⟩
            · exact .inl between
          · rcases ih later with between | ⟨other, listed, inside⟩
            · exact .inl between
            · exact .inr ⟨other, List.mem_cons_of_mem text listed, inside⟩

/-- The characters of the texts are in the joined text. -/
theorem mem_joinWith {sep : String} {texts : List String} {text : String} {c : Char}
    (listed : text ∈ texts) (member : c ∈ text.toList) : c ∈ (joinWith sep texts).toList := by
  induction texts with
  | nil => exact absurd listed List.not_mem_nil
  | cons first rest ih =>
      cases rest with
      | nil =>
          rw [List.mem_singleton.mp listed] at member
          exact member
      | cons next others =>
          rw [joinWith, String.toList_append, String.toList_append]
          rcases List.mem_cons.mp listed with rfl | later
          · exact List.mem_append_left _ (List.mem_append_left _ member)
          · exact List.mem_append_right _ (ih later)

/-- A character that is in no text and not in the separator is not in the joined text. -/
theorem not_mem_joinWith {sep : String} {texts : List String} {c : Char} (between : c ∉ sep.toList)
    (clean : ∀ text ∈ texts, c ∉ text.toList) : c ∉ (joinWith sep texts).toList := by
  intro member
  rcases mem_of_mem_joinWith member with separates | ⟨text, listed, inside⟩
  · exact between separates
  · exact clean text listed inside

section Separator

variable (sep : Char)

private theorem map_toList_pieces (text : String) :
    (pieces sep text).map String.toList = text.toList.splitOn sep := by
  rw [pieces, splitChars_eq_splitOn, List.map_map]
  simp only [Function.comp_def, String.toList_ofList, List.map_id_fun', id_eq]

private theorem pieces_eq_iff {text : String} {texts : List String} :
    pieces sep text = texts ↔ text.toList.splitOn sep = texts.map String.toList := by
  rw [← map_toList_pieces]
  exact (List.map_injective_iff.mpr fun _ _ => String.toList_inj.mp).eq_iff.symm

/-- A text has at least one piece. -/
theorem pieces_ne_nil (text : String) : pieces sep text ≠ [] := by
  rw [ne_eq, pieces_eq_iff]
  exact List.splitOn_ne_nil sep text.toList

/-- No piece has the separator. -/
theorem not_mem_of_mem_pieces {text piece : String} (member : piece ∈ pieces sep text) :
    sep ∉ piece.toList := by
  refine @not_mem_of_mem_splitOn sep text.toList _ ?_
  rw [← map_toList_pieces]
  exact List.mem_map_of_mem member

/-- **Joining the pieces of a text restores it.** -/
theorem joinWith_pieces (text : String) :
    joinWith (String.singleton sep) (pieces sep text) = text := by
  apply String.toList_inj.mp
  rw [toList_joinWith, map_toList_pieces, String.toList_singleton, List.intercalate_splitOn]

/-- The characters of a piece are in the text. -/
theorem mem_of_mem_pieces {text piece : String} (cut : piece ∈ pieces sep text) {c : Char}
    (member : c ∈ piece.toList) : c ∈ text.toList := by
  rw [← joinWith_pieces sep text]
  exact mem_joinWith cut member

variable {sep}

/-- **Cutting a join gives back what was joined.** -/
theorem pieces_joinWith {texts : List String} (some : texts ≠ [])
    (clean : ∀ text ∈ texts, sep ∉ text.toList) :
    pieces sep (joinWith (String.singleton sep) texts) = texts := by
  rw [pieces_eq_iff, toList_joinWith, String.toList_singleton]
  apply List.splitOn_intercalate
  · simpa using clean
  · simpa using some

/-- A text without the separator is its only piece. -/
theorem pieces_of_not_mem {text : String} (clean : sep ∉ text.toList) :
    pieces sep text = [text] := by
  rw [pieces_eq_iff]
  exact List.splitOn_eq_singleton clean

/-- **Cutting at a separator between two texts** gives the pieces of both. -/
theorem pieces_append_append (before after : String) :
    pieces sep (before ++ String.singleton sep ++ after) =
      pieces sep before ++ pieces sep after := by
  rw [pieces_eq_iff, String.toList_append, String.toList_append, String.toList_singleton,
    List.append_assoc, List.singleton_append, List.map_append, map_toList_pieces,
    map_toList_pieces]
  exact List.splitOn_append_cons_self _ _

/-- The first piece ends at the first separator. -/
theorem pieces_append {before : String} (clean : sep ∉ before.toList) (after : String) :
    pieces sep (before ++ String.singleton sep ++ after) = before :: pieces sep after := by
  rw [pieces_append_append, pieces_of_not_mem clean, List.singleton_append]

/-- A text has two pieces exactly if it has one separator. -/
theorem pieces_eq_pair_iff {text before after : String} :
    pieces sep text = [before, after] ↔
      text = before ++ String.singleton sep ++ after ∧ sep ∉ before.toList ∧
        sep ∉ after.toList := by
  constructor
  · intro cut
    have clean (piece : String) (member : piece ∈ [before, after]) : sep ∉ piece.toList :=
      not_mem_of_mem_pieces sep (cut ▸ member)
    refine ⟨?_, clean before (by simp), clean after (by simp)⟩
    rw [← joinWith_pieces sep text, cut]
    rfl
  · rintro ⟨rfl, first, second⟩
    rw [pieces_append first, pieces_of_not_mem second]

/-- There is one piece more than there are separators. -/
theorem length_pieces (text : String) :
    (pieces sep text).length = text.toList.count sep + 1 := by
  rw [← List.length_map (f := String.toList), map_toList_pieces]
  induction text.toList with
  | nil => rfl
  | cons c rest ih =>
      rw [List.splitOn_cons_eq_if_modifyHead, List.count_cons]
      split <;> simp [ih]

end Separator

section Ends

/-- Cutting at the last separator leaves no separator behind it. -/
theorem splitAtLast?_eq_some {sep : Char} {text before after : String}
    (cut : splitAtLast? sep text = some (before, after)) :
    text = before ++ String.singleton sep ++ after ∧ sep ∉ after.toList := by
  unfold splitAtLast? at cut
  split at cut
  · rename_i last next others found
    obtain ⟨rfl, rfl⟩ := Prod.mk.inj (Option.some.inj cut)
    have whole := joinChars_splitChars sep text.toList.reverse
    have clean : sep ∉ last := by
      apply @not_mem_of_mem_splitOn sep text.toList.reverse
      rw [← splitChars_eq_splitOn, found]
      exact List.mem_cons_self
    rw [found, joinChars] at whole
    refine ⟨?_, by simpa using clean⟩
    apply String.toList_inj.mp
    rw [← List.reverse_reverse text.toList, ← whole]
    simp
  · cases cut

/-- Only a text without the separator cannot be cut. -/
theorem splitAtLast?_eq_none {sep : Char} {text : String}
    (whole : splitAtLast? sep text = none) : sep ∉ text.toList := by
  unfold splitAtLast? at whole
  split at whole
  · cases whole
  · rename_i single
    rw [← List.mem_reverse]
    match found : splitChars sep text.toList.reverse, splitChars_ne_nil sep text.toList.reverse with
    | [only], _ =>
        have joined := joinChars_splitChars sep text.toList.reverse
        rw [found, joinChars] at joined
        rw [← joined]
        apply @not_mem_of_mem_splitOn sep text.toList.reverse
        rw [← splitChars_eq_splitOn, found]
        exact List.mem_cons_self
    | first :: second :: others, _ => exact absurd found (single first second others)

/-- What is put behind a text without a separator goes to its last piece. -/
theorem pieces_append_of_not_mem {sep : Char} (text : String) {ending : String}
    (clean : sep ∉ ending.toList) :
    ∃ front last, pieces sep text = front ++ [last] ∧
      pieces sep (text ++ ending) = front ++ [last ++ ending] := by
  cases cut : splitAtLast? sep text with
  | none =>
      have whole := splitAtLast?_eq_none cut
      have both : sep ∉ (text ++ ending).toList := by
        rw [String.toList_append, List.mem_append]
        exact not_or.mpr ⟨whole, clean⟩
      exact ⟨[], text, pieces_of_not_mem whole, pieces_of_not_mem both⟩
  | some parts =>
      obtain ⟨before, after⟩ := parts
      obtain ⟨rfl, last⟩ := splitAtLast?_eq_some cut
      have both : sep ∉ (after ++ ending).toList := by
        rw [String.toList_append, List.mem_append]
        exact not_or.mpr ⟨last, clean⟩
      refine ⟨pieces sep before, after, ?_, ?_⟩
      · rw [pieces_append_append, pieces_of_not_mem last]
      · rw [String.append_assoc, pieces_append_append, pieces_of_not_mem both]

end Ends

end Text

end ContentRouter
