import ContentRouter.Proofs.Template.RoundTrip

/-!
# Renamed placeholders

Giving placeholders other names changes the pieces of a template that are names in braces, and no
others. As long as the new names contain none of the characters that templates are cut at, a renamed
piece is read as the renamed segment or value, and a renamed element is a pair exactly as before.

So parts that are in order stay in order under names that keep them apart
(`Template.IsWellFormed.renamed`), and of course in another order.
-/

namespace ContentRouter

namespace Template

/-- Whether a text can be the name of a placeholder anywhere in a template. -/
structure IsName (name : String) : Prop where
  some : name ≠ ""
  clean : ∀ c ∈ ['}', '/', '?', '&', '='], c ∉ name.toList

/-- Whether placeholders can take other names and stay apart. -/
structure IsRenaming (rename : String → String) (names : List String) : Prop where
  isName : ∀ name ∈ names, IsName (rename name)
  apart : ∀ first ∈ names, ∀ second ∈ names, rename first = rename second → first = second

section Pieces

variable (rename : String → String)

/-- A piece of a template, renamed if it is a placeholder. -/
def renamedPiece (piece : String) : String :=
  match placeholderName? piece with
  | none => piece
  | some name => Fault.braced (rename name)

/-- An element of a query, with its value renamed if that is a placeholder. -/
def renamedElement (element : String) : String :=
  match Text.pieces '=' element with
  | [key, value] => key ++ "=" ++ renamedPiece rename value
  | _ => element

end Pieces

end Template

section Renamed

variable (rename : String → String)

/-- The segment with its placeholder renamed. -/
def Segment.renamed : Segment → Segment
  | .literal text => .literal text
  | .placeholder name => .placeholder (rename name)

/-- The value with its placeholder renamed. -/
def QueryValue.renamed : QueryValue → QueryValue
  | .literal text => .literal text
  | .placeholder name => .placeholder (rename name)

/-- The pair with the placeholder of its value renamed. -/
def QueryPair.renamed (pair : QueryPair) : QueryPair :=
  { pair with value := pair.value.renamed rename }

/-- The part with the names in its text renamed. -/
def Template.Part.renamed : Part → Part
  | .segment index text => .segment index (renamedPiece rename text)
  | .element text => .element (renamedElement rename text)

end Renamed

namespace Template

variable {rename : String → String}

section Piece

variable {piece : String}

private theorem renamedPiece_cases (rename : String → String) (piece : String) :
    renamedPiece rename piece = piece ∨
      ∃ name, IsPlaceholder piece name ∧
        renamedPiece rename piece = Fault.braced (rename name) := by
  unfold renamedPiece
  cases found : placeholderName? piece with
  | none => exact .inl rfl
  | some name => exact .inr ⟨name, placeholderName?_eq_some_iff.mp found, rfl⟩

/-- Renaming neither empties a piece nor fills an empty one. -/
theorem renamedPiece_eq_empty_iff : renamedPiece rename piece = "" ↔ piece = "" := by
  obtain same | ⟨name, braced, same⟩ := renamedPiece_cases rename piece
  · rw [same]
  · refine iff_of_false ?_ braced.text_ne_empty
    rw [same, ← String.toList_inj, Fault.toList_braced]
    exact List.cons_ne_nil _ _

/-- A renamed piece has the characters of the piece and of the new name. -/
theorem mem_of_mem_renamedPiece {c : Char} (member : c ∈ (renamedPiece rename piece).toList) :
    c ∈ piece.toList ∨ ∃ name, IsPlaceholder piece name ∧ c ∈ (rename name).toList := by
  obtain same | ⟨name, braced, same⟩ := renamedPiece_cases rename piece
  · exact .inl (same ▸ member)
  · have characters := Fault.toList_braced name
    rw [← braced.1] at characters
    rw [same, Fault.toList_braced, List.mem_cons, List.mem_append] at member
    rw [characters, List.mem_cons, List.mem_append]
    rcases member with opening | inside | closing
    · exact .inl (.inl opening)
    · exact .inr ⟨name, braced, inside⟩
    · exact .inl (.inr (.inr closing))

variable (named : ∀ name, IsPlaceholder piece name → IsName (rename name))
include named

/-- Renaming brings no separator into a piece. -/
theorem not_mem_renamedPiece {c : Char} (cut : c ∈ ['}', '/', '?', '&', '='])
    (clean : c ∉ piece.toList) : c ∉ (renamedPiece rename piece).toList := by
  intro member
  rcases mem_of_mem_renamedPiece member with own | ⟨name, braced, inside⟩
  · exact clean own
  · exact (named name braced).clean c cut inside

private theorem placeholderName?_renamedPiece :
    placeholderName? (renamedPiece rename piece) = (placeholderName? piece).map rename := by
  rw [renamedPiece]
  cases found : placeholderName? piece with
  | none => exact found
  | some name =>
      have fits := named name (placeholderName?_eq_some_iff.mp found)
      exact placeholderName?_eq_some_iff.mpr ⟨rfl, fits.some, fits.clean '}' (by simp)⟩

/-- A renamed piece is read as the renamed segment. -/
theorem ofText_renamedPiece :
    Segment.ofText (renamedPiece rename piece) = (Segment.ofText piece).renamed rename := by
  rw [Segment.ofText, placeholderName?_renamedPiece named, Segment.ofText, renamedPiece]
  cases placeholderName? piece <;> rfl

private theorem value_ofText_renamedPiece :
    QueryValue.ofText (renamedPiece rename piece) = (QueryValue.ofText piece).renamed rename := by
  rw [QueryValue.ofText, placeholderName?_renamedPiece named, QueryValue.ofText, renamedPiece]
  cases placeholderName? piece <;> rfl

end Piece

section Element

variable {element key value : String}

variable (shape : IsPair element key value)
include shape

private theorem renamedElement_of_isPair (rename : String → String) :
    renamedElement rename element = key ++ "=" ++ renamedPiece rename value := by
  have cut : Text.pieces '=' element = [key, value] :=
    Text.pieces_eq_pair_iff.mpr ⟨shape.1, shape.2.1, shape.2.2.1⟩
  rw [renamedElement, cut]

private theorem ofText?_of_isPair :
    QueryPair.ofText? element = some ⟨key, QueryValue.ofText value⟩ :=
  QueryPair.ofText?_eq_some_iff.mpr ⟨value, shape, rfl⟩

variable (named : ∀ name, IsPlaceholder value name → IsName (rename name))
include named

/-- A renamed pair keeps its key. -/
theorem isPair_renamedElement :
    IsPair (renamedElement rename element) key (renamedPiece rename value) := by
  have joined := renamedElement_of_isPair shape rename
  obtain ⟨_, noneFirst, noneSecond, someKey, someValue⟩ := shape
  refine ⟨joined, noneFirst, ?_, someKey, ?_⟩
  · exact not_mem_renamedPiece named (by simp) noneSecond
  · rwa [ne_eq, renamedPiece_eq_empty_iff]

/-- Renaming brings no separator into an element. -/
theorem not_mem_renamedElement {c : Char} (cut : c ∈ ['}', '/', '?', '&', '='])
    (clean : c ∉ element.toList) : c ∉ (renamedElement rename element).toList := by
  rw [renamedElement_of_isPair shape]
  rw [shape.1] at clean
  simp only [String.toList_append, List.mem_append, not_or] at clean ⊢
  exact ⟨clean.1, not_mem_renamedPiece named cut clean.2⟩

private theorem ofText?_renamedElement :
    QueryPair.ofText? (renamedElement rename element) =
      (QueryPair.ofText? element).map (·.renamed rename) := by
  rw [ofText?_of_isPair (isPair_renamedElement shape named), ofText?_of_isPair shape,
    value_ofText_renamedPiece named]
  rfl

end Element

section Parts

namespace Part

private theorem pair?_renamed {part : Part}
    (pair : ∀ text, part = .element text → ∃ key value, IsPair text key value)
    (named : ∀ name, part.name? = some name → IsName (rename name)) :
    (part.renamed rename).pair? = part.pair?.map (·.renamed rename) := by
  cases part with
  | segment index text => rfl
  | element text =>
      obtain ⟨key, value, shape⟩ := pair text rfl
      exact ofText?_renamedElement shape fun name braced =>
        named name ((name?_element_iff text name).mpr ⟨key, value, shape, braced⟩)

private theorem name?_renamed {part : Part}
    (pair : ∀ text, part = .element text → ∃ key value, IsPair text key value)
    (named : ∀ name, part.name? = some name → IsName (rename name)) :
    (part.renamed rename).name? = part.name?.map rename := by
  cases part with
  | segment index text =>
      have piece : Segment.ofText (renamedPiece rename text) =
          (Segment.ofText text).renamed rename :=
        ofText_renamedPiece fun name braced =>
          named name ((name?_segment_iff index text name).mpr braced)
      simp only [name?, placeholder?, renamed, piece]
      cases Segment.ofText text <;> rfl
  | element text =>
      obtain ⟨key, value, shape⟩ := pair text rfl
      have read : QueryPair.ofText? (renamedElement rename text) =
          (QueryPair.ofText? text).map (·.renamed rename) :=
        ofText?_renamedElement shape fun name braced =>
          named name ((name?_element_iff text name).mpr ⟨key, value, shape, braced⟩)
      simp only [name?, placeholder?, renamed, read, ofText?_of_isPair shape]
      cases QueryValue.ofText value <;> rfl

end Part

private theorem Part.keysOf_eq (parts : List Part) :
    keysOf parts = (parts.filterMap pair?).map (·.key) := by
  rw [List.map_filterMap]
  rfl

/-- The new name of a part is a name. -/
theorem isName_of_mem {parts : List Part} (renames : IsRenaming rename (Part.namesOf parts))
    {part : Part} (member : part ∈ parts) (name : String) (has : part.name? = some name) :
    IsName (rename name) :=
  renames.isName name (List.mem_filterMap.mpr ⟨part, member, has⟩)

variable {parts : List Part} (formed : IsWellFormed parts)
  (renames : IsRenaming rename (Part.namesOf parts))
include formed renames

/-- The pairs of renamed parts are the renamed pairs. -/
theorem filterMap_pair?_renamed :
    (parts.map (·.renamed rename)).filterMap Part.pair? =
      (parts.filterMap Part.pair?).map (·.renamed rename) := by
  rw [List.filterMap_map, List.map_filterMap]
  refine List.filterMap_congr fun part member => ?_
  exact Part.pair?_renamed (fun text same => formed.pairs text (same ▸ member))
    (isName_of_mem renames member)

private theorem namesOf_renamed :
    Part.namesOf (parts.map (·.renamed rename)) = (Part.namesOf parts).map rename := by
  rw [Part.namesOf, Part.namesOf, List.filterMap_map, List.map_filterMap]
  refine List.filterMap_congr fun part member => ?_
  exact Part.name?_renamed (fun text same => formed.pairs text (same ▸ member))
    (isName_of_mem renames member)

/-- **Parts in order stay in order** under other names. -/
theorem IsWellFormed.renamed : IsWellFormed (parts.map (·.renamed rename)) where
  pairs := by
    intro text member
    obtain ⟨part, old, same⟩ := List.mem_map.mp member
    cases part with
    | segment index piece => cases same
    | element element =>
        obtain rfl := Part.element.inj same
        obtain ⟨key, value, shape⟩ := formed.pairs element old
        refine ⟨key, _, isPair_renamedElement shape fun name braced => ?_⟩
        exact isName_of_mem renames old name
          ((Part.name?_element_iff element name).mpr ⟨key, value, shape, braced⟩)
  keys := by
    rw [Part.keysOf_eq, filterMap_pair?_renamed formed renames, List.map_map]
    have keys := formed.keys
    rwa [Part.keysOf_eq] at keys
  names := by
    rw [namesOf_renamed formed renames]
    exact formed.names.map_on renames.apart

omit renames in
/-- **Parts in order stay in order** when their order changes. -/
theorem IsWellFormed.perm {others : List Part} (reordered : others.Perm parts) :
    IsWellFormed others where
  pairs := fun text member => formed.pairs text (reordered.subset member)
  keys := (reordered.filterMap Part.key?).nodup_iff.mpr formed.keys
  names := (reordered.filterMap Part.name?).nodup_iff.mpr formed.names

end Parts

end Template

end ContentRouter
