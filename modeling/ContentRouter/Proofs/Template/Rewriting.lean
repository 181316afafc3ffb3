import ContentRouter.Proofs.Template.Renaming

/-!
# Rewritten templates

A template can be rewritten without changing what it asks for: placeholders get other names, and the
elements of the query another order (`Template.rewritten`). Its text is cut at the same places
before and after. So the rewritten text is a template again, with the same segments and the same
pairs up to names and order (`Template.parse_rewritten`).
-/

namespace ContentRouter

namespace Template

/-- **A template with other names for its placeholders** and with given elements for its query,
which get other names as well. -/
def rewritten (rename : String → String) (text : String) (elements : List String) : String :=
  let path := Text.joinWith "/" ((Text.pieces '/' (pathPart text)).map (renamedPiece rename))
  if '?' ∈ text.toList then
    path ++ "?" ++ Text.joinWith "&" (elements.map (renamedElement rename))
  else path

variable {rename : String → String}

section Path

/-- The pieces behind an empty first one, if there is one and it is not the only one. -/
def behindEmpty : List String → List String
  | first :: next :: others => if first = "" then next :: others else first :: next :: others
  | pieces => pieces

private theorem behindEmpty_empty (next : String) (others : List String) :
    behindEmpty ("" :: next :: others) = next :: others := by
  rw [behindEmpty, if_pos rfl]

private theorem behindEmpty_of_ne {first : String} (some : first ≠ "") (others : List String) :
    behindEmpty (first :: others) = first :: others := by
  cases others with
  | nil => rfl
  | cons next others => exact if_neg some

/-- A path begins with a slash exactly if its first piece is empty and not the only one. -/
theorem pieces_behindSlash (path : String) :
    Text.pieces '/' (behindSlash path) = behindEmpty (Text.pieces '/' path) := by
  have cut : Text.pieces '/' path = (Text.splitChars '/' path.toList).map String.ofList := rfl
  cases begins : path.toList with
  | nil =>
      obtain rfl := String.toList_eq_nil_iff.mp begins
      rfl
  | cons c rest =>
      obtain ⟨next, others, behind⟩ :=
        List.exists_cons_of_ne_nil (Text.splitChars_ne_nil '/' rest)
      by_cases slash : c = '/'
      · have dropped : behindSlash path = String.ofList rest := by simp [behindSlash, begins, slash]
        rw [dropped, cut, begins, Text.pieces, String.toList_ofList, Text.splitChars, if_pos slash,
          behind]
        exact (behindEmpty_empty _ _).symm
      · have whole : behindSlash path = path := by
          unfold behindSlash
          split
          · rename_i first
            rw [begins] at first
            exact absurd (List.cons.inj first).1 slash
          · rfl
        have some : String.ofList (c :: next) ≠ "" := by
          rw [ne_eq, ← String.toList_inj, String.toList_ofList]
          exact List.cons_ne_nil c next
        rw [whole, cut, begins, Text.splitChars, if_neg slash, behind]
        exact (behindEmpty_of_ne some _).symm

private theorem behindEmpty_map {f : String → String} (empty : ∀ piece, f piece = "" ↔ piece = "")
    (pieces : List String) : behindEmpty (pieces.map f) = (behindEmpty pieces).map f := by
  match pieces with
  | [] => rfl
  | first :: others =>
      by_cases none : first = ""
      · cases others with
        | nil => rfl
        | cons next others =>
            rw [none, List.map_cons, List.map_cons, (empty "").mpr rfl, behindEmpty_empty,
              behindEmpty_empty, List.map_cons]
      · rw [List.map_cons, behindEmpty_of_ne none, behindEmpty_of_ne (mt (empty first).mp none),
          List.map_cons]

private theorem mem_behindEmpty_iff {pieces : List String} {piece : String} (some : piece ≠ "") :
    piece ∈ behindEmpty pieces ↔ piece ∈ pieces := by
  match pieces with
  | [] => rfl
  | [_] => rfl
  | first :: next :: others =>
      by_cases none : first = ""
      · rw [none, behindEmpty_empty, List.mem_cons (b := ""), or_iff_right some]
      · rw [behindEmpty_of_ne none]

variable {path query otherPath otherQuery : String}

/-- The segments of a path are its pieces behind the first slash. -/
theorem segmentsOf_eq : segmentsOf path = (Text.pieces '/' (behindSlash path)).map Segment.ofText :=
  rfl

/-- A rewritten path has the pieces of the path, renamed. -/
theorem pieces_rewritten
    (named : ∀ piece ∈ Text.pieces '/' path, ∀ name, IsPlaceholder piece name →
      IsName (rename name)) :
    Text.pieces '/' (behindSlash
        (Text.joinWith "/" ((Text.pieces '/' path).map (renamedPiece rename)))) =
      (Text.pieces '/' (behindSlash path)).map (renamedPiece rename) := by
  have cut : Text.pieces '/'
      (Text.joinWith "/" ((Text.pieces '/' path).map (renamedPiece rename))) =
        (Text.pieces '/' path).map (renamedPiece rename) := by
    refine Text.pieces_joinWith (by simpa using Text.pieces_ne_nil '/' path) fun text member => ?_
    obtain ⟨piece, old, rfl⟩ := List.mem_map.mp member
    exact not_mem_renamedPiece (named piece old) (by simp) (Text.not_mem_of_mem_pieces '/' old)
  rw [pieces_behindSlash, cut, behindEmpty_map (fun _ => renamedPiece_eq_empty_iff),
    ← pieces_behindSlash]

/-- No question mark comes into a path. -/
theorem not_mem_rewritten_path
    (named : ∀ piece ∈ Text.pieces '/' path, ∀ name, IsPlaceholder piece name →
      IsName (rename name)) (clean : '?' ∉ path.toList) :
    '?' ∉ (Text.joinWith "/" ((Text.pieces '/' path).map (renamedPiece rename))).toList := by
  refine Text.not_mem_joinWith (by decide) fun text member => ?_
  obtain ⟨piece, old, rfl⟩ := List.mem_map.mp member
  exact not_mem_renamedPiece (named piece old) (by simp)
    (mt (Text.mem_of_mem_pieces '/' old) clean)

variable (pieces : Text.pieces '/' (behindSlash otherPath) =
  (Text.pieces '/' (behindSlash path)).map (renamedPiece rename))
include pieces

private theorem segmentsOf_rewritten
    (named : ∀ piece ∈ Text.pieces '/' path, ∀ name, IsPlaceholder piece name →
      IsName (rename name)) :
    segmentsOf otherPath = (segmentsOf path).map (·.renamed rename) := by
  rw [segmentsOf_eq, segmentsOf_eq, pieces, List.map_map, List.map_map]
  refine List.map_congr_left fun piece member => ?_
  rw [pieces_behindSlash] at member
  refine ofText_renamedPiece fun name braced => ?_
  exact named piece ((mem_behindEmpty_iff braced.text_ne_empty).mp member) name braced

private theorem partsOf_perm
    (elements : (elementsOf otherQuery).Perm ((elementsOf query).map (renamedElement rename))) :
    (partsOf otherPath otherQuery).Perm ((partsOf path query).map (·.renamed rename)) := by
  rw [partsOf, partsOf, pieces, List.map_append, List.zipIdx_map]
  simp only [List.map_map]
  refine List.Perm.append (List.Perm.refl _) ?_
  have renamed := elements.map Part.element
  rwa [List.map_map] at renamed

end Path

section Query

/-- Whether an element is empty, or a pair whose value can be renamed. -/
def IsRenamable (rename : String → String) (element : String) : Prop :=
  element = "" ∨ ∃ key value, IsPair element key value ∧
    ∀ name, IsPlaceholder value name → IsName (rename name)

private theorem isEmpty_renamedElement {element : String} (renamable : IsRenamable rename element) :
    (renamedElement rename element).isEmpty = element.isEmpty := by
  have some {text key value : String} (shape : IsPair text key value) : text.isEmpty = false := by
    rw [shape.1]
    simp
  rcases renamable with rfl | ⟨key, value, shape, named⟩
  · rfl
  · rw [some shape, some (isPair_renamedElement shape named)]

private theorem IsRenamable.not_mem {element : String} (renamable : IsRenamable rename element)
    {c : Char}
    (cut : c ∈ ['}', '/', '?', '&', '=']) (clean : c ∉ element.toList) :
    c ∉ (renamedElement rename element).toList := by
  rcases renamable with rfl | ⟨key, value, shape, named⟩
  · exact clean
  · exact not_mem_renamedElement shape named cut clean

variable {elements : List String} (renamable : ∀ element ∈ elements, IsRenamable rename element)
  (clean : ∀ element ∈ elements, '&' ∉ element.toList)
include renamable

/-- The elements that count are renamed, and the others stay empty. -/
theorem filter_renamedElement :
    (elements.map (renamedElement rename)).filter (!·.isEmpty) =
      (elements.filter (!·.isEmpty)).map (renamedElement rename) := by
  rw [List.filter_map]
  refine congrArg _ (List.filter_congr fun element member => ?_)
  rw [Function.comp_apply, isEmpty_renamedElement (renamable element member)]

/-- No question mark comes into a query. -/
theorem not_mem_rewritten_query (single : ∀ element ∈ elements, '?' ∉ element.toList) :
    '?' ∉ (Text.joinWith "&" (elements.map (renamedElement rename))).toList := by
  refine Text.not_mem_joinWith (by decide) fun text member => ?_
  obtain ⟨element, old, rfl⟩ := List.mem_map.mp member
  exact (renamable element old).not_mem (by simp) (single element old)

include clean

private theorem elementsOf_rewritten (some : elements ≠ []) :
    elementsOf (Text.joinWith "&" (elements.map (renamedElement rename))) =
      (elements.filter (!·.isEmpty)).map (renamedElement rename) := by
  have cut : Text.pieces '&' (Text.joinWith "&" (elements.map (renamedElement rename))) =
      elements.map (renamedElement rename) := by
    refine Text.pieces_joinWith (by simpa using some) fun text member => ?_
    obtain ⟨element, old, rfl⟩ := List.mem_map.mp member
    exact (renamable element old).not_mem (by simp) (clean element old)
  rw [elementsOf, cut, filter_renamedElement renamable]

end Query

section Text

variable {text : String} {template : Template} {elements : List String}
  (read : parse text = .ok template)

include read in
/-- A template without a question mark is a path alone, and another one is a path and a query. -/
theorem parts_of_parse :
    ('?' ∉ text.toList ∧ pathPart text = text ∧ queryPart text = "") ∨
      ('?' ∈ text.toList ∧ text = pathPart text ++ "?" ++ queryPart text ∧
        '?' ∉ (pathPart text).toList ∧ '?' ∉ (queryPart text).toList) := by
  unfold parse at read
  split at read
  · rename_i path cut
    obtain rfl : text = path := by
      rw [← Text.joinWith_pieces '?' text, cut]
      rfl
    have clean := Text.not_mem_of_mem_pieces '?' (cut ▸ List.mem_singleton_self text)
    exact .inl ⟨clean, pathPart_of_not_mem clean⟩
  · rename_i path query cut
    obtain ⟨rfl, clean, behind⟩ := Text.pieces_eq_pair_iff.mp cut
    have parts : pathPart (path ++ String.singleton '?' ++ query) = path ∧
        queryPart (path ++ String.singleton '?' ++ query) = query := pathPart_append clean
    rw [parts.1, parts.2]
    exact .inr ⟨by simp, rfl, clean, behind⟩
  · cases read

variable (renames : IsRenaming rename (template.placeholders.map (·.name)))
include read renames

private theorem named_piece : ∀ piece ∈ Text.pieces '/' (pathPart text), ∀ name,
    IsPlaceholder piece name → IsName (rename name) := by
  rw [← namesOf_partsOf read] at renames
  intro piece member name braced
  have behind := (mem_behindEmpty_iff braced.text_ne_empty).mpr member
  rw [← pieces_behindSlash] at behind
  obtain ⟨index, found⟩ := List.getElem?_of_mem behind
  have part : Part.segment index piece ∈ partsOf (pathPart text) (queryPart text) :=
    List.mem_append_left _ (List.mem_map.mpr
      ⟨(piece, index), List.mem_zipIdx_iff_getElem?.mpr found, rfl⟩)
  exact isName_of_mem renames part name ((Part.name?_segment_iff index piece name).mpr braced)

private theorem renamable_element : ∀ element ∈ Text.pieces '&' (queryPart text),
    IsRenamable rename element := by
  have formed := (eq_of_parse read).1
  rw [← namesOf_partsOf read] at renames
  intro element member
  by_cases empty : element = ""
  · exact .inl empty
  · have counts : element ∈ elementsOf (queryPart text) :=
      List.mem_filter.mpr ⟨member, by simpa using empty⟩
    have part : Part.element element ∈ partsOf (pathPart text) (queryPart text) :=
      List.mem_append_right _ (List.mem_map_of_mem counts)
    obtain ⟨key, value, shape⟩ := formed.pairs element part
    refine .inr ⟨key, value, shape, fun name braced => ?_⟩
    exact isName_of_mem renames part name
      ((Part.name?_element_iff element name).mpr ⟨key, value, shape, braced⟩)

variable (permuted : elements.Perm (Text.pieces '&' (queryPart text)))
include permuted

/-- **The parts of a rewritten template** are those of the template under other names and in
another order. -/
theorem partsOf_rewritten :
    (rewritten rename text elements).toList.count '?' ≤ 1 ∧
      segmentsOf (pathPart (rewritten rename text elements)) =
        (segmentsOf (pathPart text)).map (·.renamed rename) ∧
      (partsOf (pathPart (rewritten rename text elements))
          (queryPart (rewritten rename text elements))).Perm
        ((partsOf (pathPart text) (queryPart text)).map (·.renamed rename)) := by
  have named := named_piece read renames
  have renamable : ∀ element ∈ elements, IsRenamable rename element := fun element member =>
    renamable_element read renames element (permuted.subset member)
  have pieces := pieces_rewritten named
  have segments := segmentsOf_rewritten pieces named
  have cleanOf := not_mem_rewritten_path named
  rw [rewritten]
  -- From here on only the pieces of the new path matter, and that it has no question mark.
  generalize Text.joinWith "/" ((Text.pieces '/' (pathPart text)).map (renamedPiece rename)) = path
    at pieces segments cleanOf
  obtain ⟨single, whole, none⟩ | ⟨double, _, clean, behind⟩ := parts_of_parse read
  · have clean := cleanOf (whole.symm ▸ single)
    obtain ⟨before, after⟩ := pathPart_of_not_mem clean
    rw [if_neg single, before, after]
    refine ⟨?_, segments, partsOf_perm pieces ?_⟩
    · rw [List.count_eq_zero_of_not_mem clean]
      exact Nat.zero_le 1
    · rw [none]
      exact List.Perm.refl _
  · have some : elements ≠ [] := by
      rintro rfl
      exact Text.pieces_ne_nil '&' _ permuted.nil_eq.symm
    have counted := elementsOf_rewritten renamable
      (fun element member => Text.not_mem_of_mem_pieces '&' (permuted.subset member)) some
    have cleanQuery := not_mem_rewritten_query renamable fun element member =>
      mt (Text.mem_of_mem_pieces '&' (permuted.subset member)) behind
    generalize Text.joinWith "&" (elements.map (renamedElement rename)) = query
      at counted cleanQuery
    obtain ⟨before, after⟩ : pathPart (path ++ "?" ++ query) = path ∧
        queryPart (path ++ "?" ++ query) = query := pathPart_append (cleanOf clean)
    rw [if_pos double, before, after]
    refine ⟨?_, segments, partsOf_perm pieces ?_⟩
    · simp [List.count_eq_zero_of_not_mem (cleanOf clean),
        List.count_eq_zero_of_not_mem cleanQuery]
    · rw [counted]
      exact (permuted.filter _).map _

/-- **A rewritten template is a template** with the same segments and the same pairs, up to the
names of placeholders and the order of pairs. -/
theorem parse_rewritten :
    ∃ other, parse (rewritten rename text elements) = .ok other ∧
      other.segments = template.segments.map (·.renamed rename) ∧
      other.query.Perm (template.query.map (·.renamed rename)) := by
  obtain ⟨once, segments, parts⟩ := partsOf_rewritten read renames permuted
  obtain ⟨formed, oldSegments, oldQuery, _⟩ := eq_of_parse read
  rw [← namesOf_partsOf read] at renames
  have otherFormed := (formed.renamed renames).perm parts
  have otherRead := parse_eq once
  dsimp only at otherRead
  rw [if_pos ((offences_eq_nil_iff _).mpr otherFormed)] at otherRead
  refine ⟨_, otherRead, ?_, ?_⟩
  · rw [oldSegments, segments]
  · have pairs := parts.filterMap Part.pair?
    rw [filterMap_pair?_renamed formed renames, filterMap_pair?_partsOf (pathPart text),
      ← oldQuery] at pairs
    dsimp only
    exact pairs

end Text

end Template

end ContentRouter
